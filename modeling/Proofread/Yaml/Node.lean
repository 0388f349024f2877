import Proofread.Yaml.Token

set_option autoImplicit false

namespace Proofread.Yaml

structure Properties where
  mark : Mark
  anchor : Option Nat
  tag : Option String
deriving DecidableEq, Repr

inductive Node where
  | scalar (properties : Properties) (style : ScalarStyle) (text : String)
  | sequence (properties : Properties) (items : List Node)
  | mapping (properties : Properties) (entries : List (Node × Node))
  | reference (mark : Mark) (anchor : Nat)
  | broken (fault : Fault)
deriving Repr

namespace Node

def emptyScalar (mark : Mark) : Node :=
  .scalar ⟨mark, none, none⟩ .plain ""

def mark : Node → Mark
  | scalar p _ _ | sequence p _ | mapping p _ => p.mark
  | reference mark _ => mark
  | broken _ => .start

mutual
def fault? : Node → Option Fault
  | scalar _ _ _ | reference _ _ => none
  | sequence _ items => faultOfItems? items
  | mapping _ entries => faultOfEntries? entries
  | broken fault => some fault
def faultOfItems? : List Node → Option Fault
  | [] => none
  | item :: rest => item.fault?.or (faultOfItems? rest)
def faultOfEntries? : List (Node × Node) → Option Fault
  | [] => none
  | (key, value) :: rest => (key.fault?.or value.fault?).or (faultOfEntries? rest)
end

mutual
/-- How many events make up the node: one for a scalar or an alias, two for the start and the end
of a collection besides those within. The end of what breaks off is missing. -/
def events : Node → Nat
  | scalar _ _ _ | reference _ _ => 1
  | sequence _ items => 1 + eventsOfItems items + (if (faultOfItems? items).isSome then 0 else 1)
  | mapping _ entries =>
      1 + eventsOfEntries entries + (if (faultOfEntries? entries).isSome then 0 else 1)
  | broken _ => 0
def eventsOfItems : List Node → Nat
  | [] => 0
  | item :: rest => item.events + eventsOfItems rest
def eventsOfEntries : List (Node × Node) → Nat
  | [] => 0
  | (key, value) :: rest => key.events + value.events + eventsOfEntries rest
end

def withNumber (n : Node) : List (Nat × Node) :=
  match n with
  | scalar p _ _ | sequence p _ | mapping p _ => (p.anchor.map fun number => (number, n)).toList
  | reference _ _ | broken _ => []

mutual
def anchored : Node → List (Nat × Node)
  | scalar p style text => (scalar p style text).withNumber
  | sequence p items => (sequence p items).withNumber ++ anchoredItems items
  | mapping p entries => (mapping p entries).withNumber ++ anchoredEntries entries
  | reference _ _ | broken _ => []
def anchoredItems : List Node → List (Nat × Node)
  | [] => []
  | item :: rest => item.anchored ++ anchoredItems rest
def anchoredEntries : List (Node × Node) → List (Nat × Node)
  | [] => []
  | (key, value) :: rest => key.anchored ++ value.anchored ++ anchoredEntries rest
end

end Node

end Proofread.Yaml
