import Proofread.Lint.Rules.Heading
import Proofread.Lint.Rules.RawText

set_option autoImplicit false

namespace Proofread.Lint

structure Registry where
  rules : NameMap Rule
  keyed : ∀ id rule, rules.get? id = some rule → rule.id = id

namespace Registry

def empty : Registry :=
  ⟨.empty, fun _ _ found => nomatch found⟩

def register (r : Registry) (rule : Rule) : Registry where
  rules := r.rules.insert rule.id rule
  keyed id found here := by
    rw [NameMap.get_insert] at here
    by_cases own : id = rule.id
    · rw [if_pos own] at here
      rw [← Option.some.inj here, own]
    · rw [if_neg own] at here
      exact r.keyed id found here

def get? (r : Registry) (id : String) : Option Rule :=
  r.rules.get? id

def ids (r : Registry) : List String :=
  r.rules.names

def toList (r : Registry) : List Rule :=
  r.rules.entries.map (·.2)

def size (r : Registry) : Nat :=
  r.rules.entries.length

def isEmpty (r : Registry) : Bool :=
  r.rules.entries.isEmpty

def ofRules (rules : List Rule) : Registry :=
  rules.foldl register empty

def builtinRules : List Rule :=
  [Rules.finalNewline, Rules.firstHeadingLevel, Rules.headingIncrement, Rules.noDuplicateHeadings,
    Rules.noHeadingPunctuation, Rules.noMultipleToplevelHeadings, Rules.noTabs]

def builtin : Registry :=
  ofRules builtinRules

@[simp] theorem register_get (r : Registry) (rule : Rule) (id : String) :
    (r.register rule).get? id = if id = rule.id then some rule else r.get? id :=
  r.rules.get_insert rule.id id rule

theorem run_register_get (rules : List Rule) (r : Registry) (id : String) :
    (rules.foldl register r).get? id = (rules.reverse.find? (·.id = id)).or (r.get? id) := by
  induction rules generalizing r with
  | nil => rfl
  | cons rule rest ih =>
      rw [List.foldl_cons, ih, register_get, List.reverse_cons, List.find?_append, Option.or_assoc]
      congr 1
      by_cases same : rule.id = id
      · simp [same]
      · simp [same, Ne.symm same]

-- The last rule registered under an id is the one that counts.
theorem of_rules_get (rules : List Rule) (id : String) :
    (ofRules rules).get? id = rules.reverse.find? (·.id = id) := by
  rw [ofRules, run_register_get]
  exact Option.or_none

theorem get_listed (rules : List Rule) (id : String) (rule : Rule)
    (found : (ofRules rules).get? id = some rule) : rule ∈ rules := by
  rw [of_rules_get] at found
  exact List.mem_reverse.mp (List.mem_of_find?_eq_some found)

theorem of_rules_map (change : Rule → Rule) (kept : ∀ rule, (change rule).id = rule.id)
    (rules : List Rule) (id : String) :
    (ofRules (rules.map change)).get? id = ((ofRules rules).get? id).map change := by
  have same : (fun rule : Rule => decide (rule.id = id)) ∘ change =
      fun rule => decide (rule.id = id) := by
    funext rule
    simp only [Function.comp_apply, kept]
  rw [of_rules_get, of_rules_get, ← List.map_reverse, List.find?_map, same]

end Registry

end Proofread.Lint
