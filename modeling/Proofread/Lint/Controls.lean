import Proofread.Document.Node
import Proofread.Lint.Directive
import Proofread.Lint.Message

set_option autoImplicit false

namespace Proofread.Lint

structure Toggle where
  place : Point
  rules : List String
  enabled : Bool
deriving DecidableEq, Repr

structure Ignored where
  span : Span
  rules : List String
deriving DecidableEq, Repr

structure DirectiveError where
  reason : String
  span : Span
deriving DecidableEq, Repr

def concerns (rules : List String) (ruleId : String) : Bool :=
  rules.isEmpty || rules.contains ruleId

@[simp] theorem concerns_iff (rules : List String) (ruleId : String) :
    concerns rules ruleId = true ↔ rules = [] ∨ ruleId ∈ rules := by
  rw [concerns, Bool.or_eq_true, List.isEmpty_iff, List.contains_iff_mem]

structure Controls where
  toggles : List Toggle
  ignored : List Ignored
deriving DecidableEq, Repr

namespace Controls

def empty : Controls :=
  ⟨[], []⟩

def append (a b : Controls) : Controls :=
  ⟨a.toggles ++ b.toggles, a.ignored ++ b.ignored⟩

@[simp] theorem empty_append (c : Controls) : empty.append c = c := rfl

@[simp] theorem append_assoc (a b c : Controls) :
    (a.append b).append c = a.append (b.append c) := by
  simp only [append, List.append_assoc]

def isEmpty (c : Controls) : Bool :=
  c.toggles.isEmpty && c.ignored.isEmpty

def ofDirective (d : Directive) (span : Span) (next : Option Span) : Controls :=
  match d.keyword with
  | .enable => ⟨[⟨span.stop, d.rules, true⟩], []⟩
  | .disable => ⟨[⟨span.stop, d.rules, false⟩], []⟩
  | .ignore =>
      match next with
      | some covered => ⟨[], [⟨covered, d.rules⟩]⟩
      | none => empty

def ofNode (kind : NodeKind) (span : Option Span) (next : Option Span) :
    Except DirectiveError Controls :=
  match kind, span with
  | .html value, some place =>
      match Comment.ofHtml value with
      | .ordinary => .ok empty
      | .directive d => .ok (ofDirective d place next)
      | .unknownKeyword word => .error ⟨unknownKeywordReason word, place⟩
  | _, _ => .ok empty

mutual
def collect : Node → Except DirectiveError Controls
  | ⟨_, _, children⟩ => collectSiblings children
def collectSiblings : List Node → Except DirectiveError Controls
  | [] => .ok empty
  | n :: rest =>
      match ofNode n.kind n.span (rest.head?.bind Node.span) with
      | .error e => .error e
      | .ok own =>
          match collect n with
          | .error e => .error e
          | .ok below =>
              match collectSiblings rest with
              | .error e => .error e
              | .ok after => .ok (own.append (below.append after))
end

def allows (c : Controls) (message : Message) : Bool :=
  match message.start? with
  | none => true
  | some start =>
      if c.ignored.any fun i => concerns i.rules message.ruleId && i.span.contains start then false
      else
        let reached := c.toggles.filter fun t =>
          concerns t.rules message.ruleId && t.place.le start
        match reached.getLast? with
        | some t => t.enabled
        | none => true

def apply (tree : Node) (file : LintFile) : Except DirectiveError LintFile :=
  (collect tree).map fun c =>
    if c.isEmpty then file else { file with messages := file.messages.filter c.allows }

end Controls

end Proofread.Lint
