import Proofread.Document.Point

set_option autoImplicit false

namespace Proofread

inductive NodeKind where
  | root
  | heading (depth : UInt8)
  | paragraph
  | text (value : String)
  | inlineCode (value : String)
  | html (value : String)
  | code (lang : Option String) (value : String)
  | thematicBreak
  | blockquote
  | list (ordered : Bool)
  | listItem
  | emphasis
  | strong
  | link (url : String)
  | image (url : String)
  | other
deriving DecidableEq, Repr

namespace NodeKind

def headingDepth? : NodeKind → Option UInt8
  | heading depth => some depth
  | _ => none

def value? : NodeKind → Option String
  | text v | inlineCode v | html v | code _ v => some v
  | _ => none

end NodeKind

structure Node where
  kind : NodeKind
  span : Option Span
  children : List Node
deriving Repr

namespace Node

def leaf (kind : NodeKind) (span : Option Span) : Node :=
  ⟨kind, span, []⟩

def headingDepth? (n : Node) : Option UInt8 :=
  n.kind.headingDepth?

def value? (n : Node) : Option String :=
  n.kind.value?

def isGenerated (n : Node) : Bool :=
  n.span.isNone

mutual
/-- The node's own value, or else the texts of its children one after the other. -/
def text : Node → String
  | ⟨kind, _, children⟩ =>
      match kind.value? with
      | some v => v
      | none => textOfList children
def textOfList : List Node → String
  | [] => ""
  | n :: rest => text n ++ textOfList rest
end

mutual
def withoutSpans : Node → Node
  | ⟨kind, _, children⟩ => ⟨kind, none, withoutSpansList children⟩
def withoutSpansList : List Node → List Node
  | [] => []
  | n :: rest => withoutSpans n :: withoutSpansList rest
end

mutual
def preorder : Node → List Node
  | ⟨kind, span, children⟩ => ⟨kind, span, children⟩ :: preorderList children
def preorderList : List Node → List Node
  | [] => []
  | n :: rest => preorder n ++ preorderList rest
end

@[simp] theorem text_of_list_flat (nodes : List Node) :
    (textOfList nodes).toList = nodes.flatMap fun n => n.text.toList := by
  induction nodes with
  | nil => rfl
  | cons n rest ih => rw [textOfList, String.toList_append, ih, List.flatMap_cons]

theorem preorder_root (tree : Node) : tree.preorder = tree :: preorderList tree.children := by
  cases tree
  rfl

@[simp] theorem preorder_list_flat (nodes : List Node) :
    preorderList nodes = nodes.flatMap preorder := by
  induction nodes with
  | nil => rfl
  | cons head rest ih => rw [preorderList, ih, List.flatMap_cons]

theorem mem_preorder_list (nodes : List Node) (n : Node) :
    n ∈ preorderList nodes ↔ ∃ child ∈ nodes, n ∈ child.preorder := by
  simp

theorem mem_preorder (tree n : Node) :
    n ∈ tree.preorder ↔ n = tree ∨ ∃ child ∈ tree.children, n ∈ child.preorder := by
  rw [preorder_root, List.mem_cons, mem_preorder_list]

@[simp] theorem self_in_preorder (n : Node) : n ∈ n.preorder :=
  (mem_preorder n n).mpr (Or.inl rfl)

end Node

end Proofread
