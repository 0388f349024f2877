import Proofread.Document.Node

set_option autoImplicit false

namespace Proofread.Node

mutual
def descendants : Node → List (Node × Option Node)
  | ⟨_, _, children⟩ => descendantsList children
def descendantsList : List Node → List (Node × Option Node)
  | [] => []
  | n :: rest => (n, rest.head?) :: (descendants n ++ descendantsList rest)
end

-- One of the parents has `n` as a child, and `next` right after it.
def Adjacent (parents : List Node) (n : Node) (next : Option Node) : Prop :=
  ∃ parent ∈ parents, ∃ i : Nat, parent.children[i]? = some n ∧ parent.children[i + 1]? = next

theorem adjacent_append (a b : List Node) (n : Node) (next : Option Node) :
    Adjacent (a ++ b) n next ↔ Adjacent a n next ∨ Adjacent b n next := by
  simp only [Adjacent, List.mem_append, or_and_right, exists_or]

theorem adjacent_cons (parent : Node) (others : List Node) (n : Node) (next : Option Node) :
    Adjacent (parent :: others) n next ↔
      (∃ i : Nat, parent.children[i]? = some n ∧ parent.children[i + 1]? = next) ∨
        Adjacent others n next := by
  simp only [Adjacent, List.mem_cons, or_and_right, exists_or, exists_eq_left]

theorem neighbours_cons (head : Node) (rest : List Node) (n : Node) (next : Option Node) :
    (∃ i : Nat, (head :: rest)[i]? = some n ∧ (head :: rest)[i + 1]? = next) ↔
      (n = head ∧ next = rest.head?) ∨ ∃ i : Nat, rest[i]? = some n ∧ rest[i + 1]? = next := by
  constructor
  · rintro ⟨i, here, after⟩
    cases i with
    | zero =>
        have same : head = n := by simpa using here
        refine Or.inl ⟨same.symm, ?_⟩
        rw [← after, List.getElem?_cons_succ, List.head?_eq_getElem?]
    | succ i => exact Or.inr ⟨i, by simpa using here, by simpa using after⟩
  · rintro (⟨same, after⟩ | ⟨i, here, after⟩)
    · exact ⟨0, by simp [same], by rw [after, List.getElem?_cons_succ, List.head?_eq_getElem?]⟩
    · exact ⟨i + 1, by simpa using here, by simpa using after⟩

mutual
theorem mem_descendants (tree n : Node) (next : Option Node) :
    (n, next) ∈ tree.descendants ↔ Adjacent tree.preorder n next := by
  cases tree with
  | mk kind span children =>
      rw [descendants, preorder, adjacent_cons]
      exact mem_descendants_list children n next
theorem mem_descendants_list (nodes : List Node) (n : Node) (next : Option Node) :
    (n, next) ∈ descendantsList nodes ↔
      (∃ i : Nat, nodes[i]? = some n ∧ nodes[i + 1]? = next) ∨
        Adjacent (preorderList nodes) n next := by
  cases nodes with
  | nil => simp [descendantsList, preorderList, Adjacent]
  | cons head rest =>
      rw [descendantsList, preorderList, List.mem_cons, List.mem_append, adjacent_append,
        neighbours_cons, mem_descendants head n next, mem_descendants_list rest n next,
        Prod.mk.injEq]
      -- Head, below the head, or in the rest: the two sides differ in how they group these.
      grind
end

theorem child_in_preorder (nodes : List Node) (i : Nat) (n : Node) (here : nodes[i]? = some n) :
    n ∈ preorderList nodes :=
  (mem_preorder_list _ n).mpr ⟨n, List.mem_of_getElem? here, self_in_preorder n⟩

mutual
theorem preorder_within (tree n : Node) (listed : n ∈ tree.preorder) :
    ∀ m ∈ n.preorder, m ∈ tree.preorder := by
  cases tree with
  | mk kind span children =>
      rw [preorder, List.mem_cons] at listed
      rcases listed with root | below
      · rw [root]
        exact fun m inside => inside
      · intro m inside
        exact List.mem_cons_of_mem _ (preorder_within_list children n below m inside)
theorem preorder_within_list (nodes : List Node) (n : Node) (listed : n ∈ preorderList nodes) :
    ∀ m ∈ n.preorder, m ∈ preorderList nodes := by
  cases nodes with
  | nil => simp [preorderList] at listed
  | cons head rest =>
      intro m inside
      rw [preorderList, List.mem_append] at listed ⊢
      rcases listed with inHead | inRest
      · exact Or.inl (preorder_within head n inHead m inside)
      · exact Or.inr (preorder_within_list rest n inRest m inside)
end

theorem next_in_preorder (tree n next : Node) (adjacent : Adjacent tree.preorder n (some next)) :
    next ∈ tree.preorder := by
  obtain ⟨parent, listed, i, _, after⟩ := adjacent
  have inParent : next ∈ parent.preorder := by
    rw [preorder_root]
    exact List.mem_cons_of_mem _ (child_in_preorder parent.children (i + 1) next after)
  exact preorder_within tree parent listed next inParent

mutual
theorem descendants_nodes (tree : Node) :
    tree.descendants.map Prod.fst = preorderList tree.children := by
  cases tree with
  | mk kind span children => exact descendants_list_nodes children
theorem descendants_list_nodes (nodes : List Node) :
    (descendantsList nodes).map Prod.fst = preorderList nodes := by
  cases nodes with
  | nil => rfl
  | cons head rest =>
      rw [descendantsList, preorderList, preorder_root, List.map_cons, List.map_append,
        descendants_nodes head, descendants_list_nodes rest, List.cons_append]
end

mutual
theorem without_spans_preorder (tree n : Node) (listed : n ∈ tree.withoutSpans.preorder) :
    n.span = none := by
  cases tree with
  | mk kind span children =>
      rw [withoutSpans, preorder, List.mem_cons] at listed
      rcases listed with root | inside
      · rw [root]
      · exact without_spans_preorder_list children n inside
theorem without_spans_preorder_list (nodes : List Node) (n : Node)
    (listed : n ∈ preorderList (withoutSpansList nodes)) : n.span = none := by
  cases nodes with
  | nil => simp [withoutSpansList] at listed
  | cons head rest =>
      rw [withoutSpansList, preorderList, List.mem_append] at listed
      rcases listed with inHead | inRest
      · exact without_spans_preorder head n inHead
      · exact without_spans_preorder_list rest n inRest
end

theorem without_spans_below (tree n : Node)
    (below : n ∈ preorderList tree.withoutSpans.children) : n.span = none := by
  apply without_spans_preorder tree n
  rw [preorder_root]
  exact List.mem_cons_of_mem _ below

end Proofread.Node
