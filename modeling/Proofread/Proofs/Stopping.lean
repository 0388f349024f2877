import Mathlib.Data.List.Forall2

set_option autoImplicit false

namespace Proofread

theorem find_last {α : Type} (fits : α → Bool) (items : List α) (last : α) :
    items.reverse.find? fits = some last ↔
      ∃ before after, items = before ++ last :: after ∧ fits last = true ∧
        ∀ later ∈ after, fits later = false := by
  rw [List.find?_eq_some_iff_append]
  simp only [Bool.not_eq_true']
  constructor
  · rintro ⟨own, behind, ahead, split, others⟩
    refine ⟨ahead.reverse, behind.reverse, ?_, own, ?_⟩
    · rw [← List.reverse_reverse items, split]
      simp
    · intro later listed
      exact others later (List.mem_reverse.mp listed)
  · rintro ⟨before, after, rfl, own, others⟩
    refine ⟨own, after.reverse, before.reverse, by simp, ?_⟩
    intro later listed
    exact others later (List.mem_reverse.mp listed)

theorem related_each {α β : Type} (R : α → β → Prop) (items : List α) :
    (∃ results, List.Forall₂ R items results) ↔ ∀ item ∈ items, ∃ result, R item result := by
  induction items with
  | nil => simp
  | cons item rest ih =>
      rw [List.forall_mem_cons, ← ih]
      simp only [List.forall₂_cons_left_iff]
      constructor
      · rintro ⟨_, first, others, here, later, _⟩
        exact ⟨⟨first, here⟩, others, later⟩
      · rintro ⟨⟨first, here⟩, others, later⟩
        exact ⟨first :: others, first, others, here, later, rfl⟩

theorem related_source {α β : Type} (R : α → β → Prop) (items : List α) (results : List β)
    (each : List.Forall₂ R items results) (result : β) (listed : result ∈ results) :
    ∃ item ∈ items, R item result := by
  induction each with
  | nil => cases listed
  | @cons item first rest others here _ ih =>
      rcases List.mem_cons.mp listed with same | later
      · exact ⟨item, List.mem_cons_self, by rw [same]; exact here⟩
      · obtain ⟨source, found, own⟩ := ih later
        exact ⟨source, List.mem_cons_of_mem item found, own⟩

section

variable {ε α β : Type} (f : α → Except ε β)

@[simp] theorem except_bind_ok (first : Except ε α) (next : α → Except ε β) (result : β) :
    first >>= next = .ok result ↔ ∃ value, first = .ok value ∧ next value = .ok result := by
  cases first with
  | error e => simp [bind, Except.bind]
  | ok value => simp [bind, Except.bind]

@[simp] theorem except_bind_error (first : Except ε α) (next : α → Except ε β) (e : ε) :
    first >>= next = .error e ↔
      first = .error e ∨ ∃ value, first = .ok value ∧ next value = .error e := by
  cases first with
  | error d => simp [bind, Except.bind]
  | ok value => simp [bind, Except.bind]

theorem map_m_succeeds (items : List α) (results : List β) :
    items.mapM f = .ok results ↔
      List.Forall₂ (fun item result => f item = .ok result) items results := by
  induction items generalizing results with
  | nil =>
      rw [List.mapM_nil, List.forall₂_nil_left_iff]
      exact ⟨fun none => (Except.ok.inj none).symm, fun none => congrArg Except.ok none.symm⟩
  | cons item rest ih =>
      simp only [List.mapM_cons, except_bind_ok, List.forall₂_cons_left_iff]
      constructor
      · rintro ⟨own, first, others, later, same⟩
        exact ⟨own, others, first, (ih others).mp later, (Except.ok.inj same).symm⟩
      · rintro ⟨own, others, first, later, rfl⟩
        exact ⟨own, first, others, (ih others).mpr later, rfl⟩

theorem map_m_stops (items : List α) (e : ε) :
    items.mapM f = .error e ↔
      ∃ before item after, items = before ++ item :: after ∧
        (∀ b ∈ before, ∃ result, f b = .ok result) ∧ f item = .error e := by
  induction items with
  | nil => simp [List.mapM_nil, pure, Except.pure]
  | cons head rest ih =>
      have later : ∀ own, ((rest.mapM f) >>= fun others => pure (own :: others)) = .error e ↔
          rest.mapM f = .error e := by
        intro own
        simp [pure, Except.pure]
      simp only [List.mapM_cons, except_bind_error, later, ih]
      constructor
      · rintro (failed | ⟨own, first, before, item, after, rfl, fine, failed⟩)
        · exact ⟨[], head, rest, rfl, fun b listed => absurd listed List.not_mem_nil, failed⟩
        · exact ⟨head :: before, item, after, rfl, List.forall_mem_cons.mpr ⟨⟨own, first⟩, fine⟩,
            failed⟩
      · rintro ⟨before, item, after, split, fine, failed⟩
        cases before with
        | nil =>
            cases split
            exact Or.inl failed
        | cons b before =>
            cases split
            obtain ⟨⟨own, first⟩, fine⟩ := List.forall_mem_cons.mp fine
            exact Or.inr ⟨own, first, before, item, after, rfl, fine, failed⟩

end

section

variable {ε α β : Type} (f : α → Except ε (List β))

def gathered (items : List α) : Except ε (List β) :=
  (items.mapM f).map List.flatten

@[simp] theorem gathered_cons (item : α) (rest : List α) :
    gathered f (item :: rest) = f item >>= fun own => (gathered f rest).map (own ++ ·) := by
  rw [gathered, List.mapM_cons]
  cases f item with
  | error e => rfl
  | ok own =>
      rw [gathered]
      cases rest.mapM f <;> rfl

theorem gathered_cons_ok (item : α) (rest : List α) (all : List β) :
    gathered f (item :: rest) = .ok all ↔
      ∃ own others, f item = .ok own ∧ gathered f rest = .ok others ∧ all = own ++ others := by
  rw [gathered_cons, except_bind_ok]
  cases gathered f rest <;> simp [Except.map, eq_comm]

theorem gathered_append (a b : List α) :
    gathered f (a ++ b) = gathered f a >>= fun own => (gathered f b).map (own ++ ·) := by
  induction a with
  | nil =>
      rw [List.nil_append]
      cases read : gathered f b with
      | error e => rfl
      | ok all => rfl
  | cons item rest ih =>
      rw [List.cons_append, gathered_cons, gathered_cons, ih]
      cases f item with
      | error e => rfl
      | ok own =>
          cases gathered f rest with
          | error e => rfl
          | ok others =>
              cases gathered f b with
              | error e => rfl
              | ok all => exact congrArg Except.ok (List.append_assoc own others all).symm

theorem gathered_succeeds (items : List α) (all : List β) :
    gathered f items = .ok all ↔
      ∃ parts, List.Forall₂ (fun item part => f item = .ok part) items parts ∧
        all = parts.flatten := by
  simp only [← map_m_succeeds, gathered]
  cases items.mapM f with
  | error e => simp [Except.map]
  | ok parts => simp [Except.map, eq_comm]

theorem gathered_total (items : List α) :
    (∃ all, gathered f items = .ok all) ↔ ∀ item ∈ items, ∃ part, f item = .ok part := by
  rw [← related_each]
  simp only [gathered_succeeds]
  constructor
  · rintro ⟨_, parts, each, _⟩
    exact ⟨parts, each⟩
  · rintro ⟨parts, each⟩
    exact ⟨parts.flatten, parts, each, rfl⟩

theorem gathered_stops (items : List α) (e : ε) :
    gathered f items = .error e ↔
      ∃ before item after, items = before ++ item :: after ∧
        (∀ b ∈ before, ∃ part, f b = .ok part) ∧ f item = .error e := by
  rw [← map_m_stops, gathered]
  cases items.mapM f <;> simp [Except.map]

-- Leaving items out leaves out what they give and nothing else.
theorem gathered_filter (keep : α → Bool) (kept : β → Bool)
    (alike : ∀ item part, f item = .ok part → part.filter kept = if keep item then part else [])
    (items : List α) (all : List β) (succeeded : gathered f items = .ok all) :
    gathered f (items.filter keep) = .ok (all.filter kept) := by
  induction items generalizing all with
  | nil =>
      cases succeeded
      rfl
  | cons item rest ih =>
      obtain ⟨own, others, first, later, rfl⟩ := (gathered_cons_ok f item rest all).mp succeeded
      have left := alike item own first
      rw [List.filter_append, left]
      cases keeps : keep item with
      | false =>
          rw [List.filter_cons_of_neg (by simp [keeps])]
          exact ih others later
      | true =>
          rw [List.filter_cons_of_pos keeps, gathered_cons, first, ih others later]
          rw [keeps, if_pos rfl] at left
          rw [if_pos rfl]
          rfl

end

end Proofread
