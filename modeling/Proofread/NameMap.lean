set_option autoImplicit false

namespace Proofread

variable {α : Type}

def insertByName (name : String) (value : α) : List (String × α) → List (String × α)
  | [] => [(name, value)]
  | (other, old) :: rest =>
      if name < other then (name, value) :: (other, old) :: rest
      else if name = other then (name, value) :: rest
      else (other, old) :: insertByName name value rest

def InOrder (entries : List (String × α)) : Prop :=
  entries.Pairwise fun a b => a.1 < b.1

instance (entries : List (String × α)) : Decidable (InOrder entries) :=
  inferInstanceAs (Decidable (List.Pairwise _ entries))

@[simp] theorem lookup_head (other key : String) (value : α) (rest : List (String × α)) :
    ((key, value) :: rest).lookup other = if other = key then some value else rest.lookup other := by
  rw [List.lookup_cons]
  by_cases here : other = key
  · simp [here]
  · rw [if_neg here, beq_eq_false_iff_ne.mpr here]

@[simp] theorem lookup_insert_by_name (name other : String) (value : α)
    (entries : List (String × α)) :
    (insertByName name value entries).lookup other =
      if other = name then some value else entries.lookup other := by
  induction entries with
  | nil => exact lookup_head other name value []
  | cons entry rest ih =>
      obtain ⟨key, old⟩ := entry
      rw [insertByName]
      by_cases ahead : name < key
      · rw [if_pos ahead, lookup_head]
      · rw [if_neg ahead]
        by_cases replaced : name = key
        · rw [if_pos replaced, lookup_head, lookup_head, ← replaced]
          by_cases same : other = name
          · rw [if_pos same, if_pos same]
          · rw [if_neg same, if_neg same, if_neg same]
        · rw [if_neg replaced, lookup_head, lookup_head, ih]
          by_cases here : other = key
          · have distinct : other ≠ name := fun same => replaced (same.symm.trans here)
            rw [if_pos here, if_neg distinct, if_pos here]
          · rw [if_neg here, if_neg here]

theorem insert_by_name_member (name : String) (value : α) (entries : List (String × α))
    (entry : String × α) (member : entry ∈ insertByName name value entries) :
    entry = (name, value) ∨ entry ∈ entries := by
  induction entries with
  | nil => exact Or.inl (List.mem_singleton.mp member)
  | cons first rest ih =>
      obtain ⟨key, old⟩ := first
      rw [insertByName] at member
      by_cases ahead : name < key
      · rw [if_pos ahead] at member
        exact List.mem_cons.mp member
      · rw [if_neg ahead] at member
        by_cases replaced : name = key
        · rw [if_pos replaced] at member
          exact (List.mem_cons.mp member).imp_right (List.mem_cons_of_mem _)
        · rw [if_neg replaced] at member
          rcases List.mem_cons.mp member with here | later
          · exact Or.inr (List.mem_cons.mpr (Or.inl here))
          · exact (ih later).imp_right (List.mem_cons_of_mem _)

theorem insert_by_name_in_order (name : String) (value : α) (entries : List (String × α))
    (ordered : InOrder entries) : InOrder (insertByName name value entries) := by
  induction entries with
  | nil => exact List.pairwise_singleton _ _
  | cons first rest ih =>
      obtain ⟨key, old⟩ := first
      obtain ⟨greater, behind⟩ := List.pairwise_cons.mp ordered
      rw [insertByName]
      by_cases ahead : name < key
      · rw [if_pos ahead]
        refine List.pairwise_cons.mpr ⟨?_, ordered⟩
        intro entry member
        rcases List.mem_cons.mp member with same | later
        · rw [same]
          exact ahead
        · exact String.lt_trans ahead (greater entry later)
      · rw [if_neg ahead]
        by_cases replaced : name = key
        · rw [if_pos replaced, replaced]
          exact List.pairwise_cons.mpr ⟨greater, behind⟩
        · rw [if_neg replaced]
          refine List.pairwise_cons.mpr ⟨?_, ih behind⟩
          intro entry member
          rcases insert_by_name_member name value rest entry member with same | later
          · rw [same]
            exact Std.lt_of_le_of_ne (String.not_lt.mp ahead) (Ne.symm replaced)
          · exact greater entry later

theorem others_apart (before after : List (String × α)) (name : String) (value : α)
    (ordered : InOrder (before ++ (name, value) :: after)) :
    ∀ entry ∈ before ++ after, entry.1 ≠ name := by
  obtain ⟨_, tail, across⟩ := List.pairwise_append.mp ordered
  intro entry listed same
  rcases List.mem_append.mp listed with earlier | later
  · have less := across entry earlier _ List.mem_cons_self
    rw [same] at less
    exact absurd less (String.lt_irrefl name)
  · have less := (List.pairwise_cons.mp tail).1 entry later
    rw [same] at less
    exact absurd less (String.lt_irrefl name)

theorem insert_by_name_replaces (before after : List (String × α)) (name : String)
    (value changed : α) (ordered : InOrder (before ++ (name, value) :: after)) :
    insertByName name changed (before ++ (name, value) :: after) =
      before ++ (name, changed) :: after := by
  induction before with
  | nil => rw [List.nil_append, insertByName, if_neg (String.lt_irrefl name), if_pos rfl,
      List.nil_append]
  | cons first rest ih =>
      obtain ⟨key, old⟩ := first
      obtain ⟨greater, behind⟩ := List.pairwise_cons.mp ordered
      have less : key < name := greater _ (List.mem_append_right _ List.mem_cons_self)
      have distinct : name ≠ key := fun same => String.lt_irrefl key (same ▸ less)
      rw [List.cons_append, insertByName, if_neg (String.lt_asymm less), if_neg distinct, ih behind,
        List.cons_append]

theorem map_in_order {β : Type} (change : String → α → β) (entries : List (String × α))
    (ordered : InOrder entries) :
    InOrder (entries.map fun entry => (entry.1, change entry.1 entry.2)) := by
  rw [InOrder, List.pairwise_map]
  exact ordered

/-- Named things in the order of their names, each name once. -/
structure NameMap (α : Type) where
  entries : List (String × α)
  ordered : InOrder entries := by decide
deriving DecidableEq, Repr

namespace NameMap

def empty : NameMap α :=
  ⟨[], .nil⟩

def insert (m : NameMap α) (name : String) (value : α) : NameMap α :=
  ⟨insertByName name value m.entries, insert_by_name_in_order name value m.entries m.ordered⟩

def get? (m : NameMap α) (name : String) : Option α :=
  m.entries.lookup name

def names (m : NameMap α) : List String :=
  m.entries.map (·.1)

def map {β : Type} (m : NameMap α) (change : String → α → β) : NameMap β :=
  ⟨m.entries.map fun entry => (entry.1, change entry.1 entry.2),
    map_in_order change m.entries m.ordered⟩

def filter (m : NameMap α) (keep : String → Bool) : NameMap α :=
  ⟨m.entries.filter fun entry => keep entry.1, m.ordered.filter _⟩

@[simp] theorem get_insert (m : NameMap α) (name other : String) (value : α) :
    (m.insert name value).get? other = if other = name then some value else m.get? other :=
  lookup_insert_by_name name other value m.entries

@[simp] theorem get_empty (name : String) : (empty : NameMap α).get? name = none :=
  rfl

theorem get_some (m : NameMap α) (name : String) (value : α) :
    m.get? name = some value ↔ (name, value) ∈ m.entries := by
  constructor
  · intro found
    obtain ⟨before, after, split, _⟩ := List.lookup_eq_some_iff.mp found
    rw [split]
    exact List.mem_append_right _ List.mem_cons_self
  · intro listed
    obtain ⟨before, after, split⟩ := List.append_of_mem listed
    have ordered := m.ordered
    rw [split] at ordered
    refine List.lookup_eq_some_iff.mpr ⟨before, after, split, fun entry earlier => ?_⟩
    have apart := others_apart before after name value ordered entry (List.mem_append_left _ earlier)
    exact bne_iff_ne.mpr (Ne.symm apart)

@[ext] theorem ext (a b : NameMap α) (same : a.entries = b.entries) : a = b := by
  cases a
  cases b
  cases same
  rfl

end NameMap

end Proofread
