import Proofread.Proofs.Collection

set_option autoImplicit false

namespace Proofread.Lint

-- The latest exception comes first, so that `lookup` finds the one in force.
structure Switches where
  others : Bool
  named : List (String × Bool)
deriving DecidableEq, Repr

namespace Switches

def allOn : Switches :=
  ⟨true, []⟩

def isOn (s : Switches) (ruleId : String) : Bool :=
  (s.named.lookup ruleId).getD s.others

def set (s : Switches) (on : Bool) : List String → Switches
  | [] => ⟨on, []⟩
  | name :: names => ⟨s.others, (name :: names).map (fun rule => (rule, on)) ++ s.named⟩

def read (place : Point) (s : Switches) (n : Node) : Switches :=
  match n.span, Comment.ofNode n with
  | some span, .directive ⟨.enable, rules⟩ => if span.stop.le place then s.set true rules else s
  | some span, .directive ⟨.disable, rules⟩ => if span.stop.le place then s.set false rules else s
  | _, _ => s

def replay (place : Point) (nodes : List Node) : Switches :=
  nodes.foldl (read place) allOn

end Switches

-- The sibling after a placed `ignore` comment about the rule contains the place.
def IgnoredAt (tree : Node) (ruleId : String) (place : Point) : Prop :=
  ∃ comment covered rules span, Node.Adjacent tree.preorder comment (some covered) ∧
    comment.span.isSome ∧ Comment.ofNode comment = .directive ⟨.ignore, rules⟩ ∧
    (rules = [] ∨ ruleId ∈ rules) ∧ covered.span = some span ∧ span.contains place = true

namespace Switches

theorem lookup_exceptions (names : List String) (on : Bool) (others : List (String × Bool))
    (ruleId : String) :
    (names.map (fun rule => (rule, on)) ++ others).lookup ruleId =
      if ruleId ∈ names then some on else others.lookup ruleId := by
  induction names with
  | nil => rfl
  | cons name names ih =>
      rw [List.map_cons, List.cons_append, List.lookup_cons, ih]
      by_cases same : ruleId = name
      · simp [same]
      · have different : (ruleId == name) = false := beq_false_of_ne same
        simp [different, same]

theorem is_on_set (s : Switches) (on : Bool) (rules : List String) (ruleId : String) :
    (s.set on rules).isOn ruleId = if concerns rules ruleId = true then on else s.isOn ruleId := by
  cases rules with
  | nil => rfl
  | cons name names =>
      have named : concerns (name :: names) ruleId = true ↔ ruleId ∈ name :: names := by
        simp
      simp only [named, set, isOn, lookup_exceptions]
      by_cases listed : ruleId ∈ name :: names
      · simp only [if_pos listed, Option.getD_some]
      · simp only [if_neg listed]

theorem read_toggle (place : Point) (s : Switches) (n : Node) :
    s.read place n =
      match Toggle.ofNode? n with
      | some t => if t.place.le place = true then s.set t.enabled t.rules else s
      | none => s := by
  rw [read, Toggle.ofNode?]
  cases n.span with
  | none => rfl
  | some span =>
      cases Comment.ofNode n with
      | ordinary => rfl
      | unknownKeyword word => rfl
      | directive d =>
          obtain ⟨keyword, rules⟩ := d
          cases keyword <;> rfl

theorem is_on_read (place : Point) (s : Switches) (n : Node) (ruleId : String) :
    (s.read place n).isOn ruleId =
      match Toggle.ofNode? n with
      | some t =>
          if (concerns t.rules ruleId && t.place.le place) = true then t.enabled
          else s.isOn ruleId
      | none => s.isOn ruleId := by
  rw [read_toggle]
  cases Toggle.ofNode? n with
  | none => rfl
  | some t =>
      simp only
      cases reached : t.place.le place with
      | false => simp
      | true => simp only [if_true, is_on_set, Bool.and_true]

-- The run from any state, not only from `allOn`: the induction moves the state along.
theorem is_on_run (place : Point) (nodes : List Node) (s : Switches) (ruleId : String) :
    (nodes.foldl (read place) s).isOn ruleId =
      match ((nodes.filterMap Toggle.ofNode?).filter fun t =>
          concerns t.rules ruleId && t.place.le place).getLast? with
      | some t => t.enabled
      | none => s.isOn ruleId := by
  induction nodes generalizing s with
  | nil => rfl
  | cons n rest ih =>
      rw [List.foldl_cons, ih, is_on_read, List.filterMap_cons]
      cases Toggle.ofNode? n with
      | none => rfl
      | some t =>
          simp only [List.filter_cons]
          cases reached : concerns t.rules ruleId && t.place.le place with
          | false => simp
          | true =>
              simp only [if_true, List.getLast?_cons]
              cases ((rest.filterMap Toggle.ofNode?).filter fun t =>
                concerns t.rules ruleId && t.place.le place).getLast? <;> rfl

end Switches

theorem ignored_of_pair (pair : Node × Option Node) (i : Ignored) :
    Ignored.ofPair? pair = some i ↔
      ∃ covered, pair.2 = some covered ∧ pair.1.span.isSome ∧
        Comment.ofNode pair.1 = .directive ⟨.ignore, i.rules⟩ ∧ covered.span = some i.span := by
  obtain ⟨n, next⟩ := pair
  obtain ⟨range, names⟩ := i
  simp only [Ignored.ofPair?]
  cases n.span with
  | none => simp
  | some place =>
      cases Comment.ofNode n with
      | ordinary => simp
      | unknownKeyword word => simp
      | directive d =>
          obtain ⟨keyword, rules⟩ := d
          cases next with
          | none => cases keyword <;> simp
          | some covered =>
              cases span : covered.span with
              | none => cases keyword <;> simp [span]
              | some range' => cases keyword <;> simp [span, and_comm]

theorem ignored_any (tree : Node) (c : Controls) (collected : Controls.collect tree = .ok c)
    (ruleId : String) (place : Point) :
    (c.ignored.any fun i => concerns i.rules ruleId && i.span.contains place) = true ↔
      IgnoredAt tree ruleId place := by
  rw [Controls.collect_ignored tree c collected, List.any_eq_true]
  constructor
  · rintro ⟨i, listed, hit⟩
    obtain ⟨⟨comment, next⟩, pairListed, read⟩ := List.mem_filterMap.mp listed
    obtain ⟨covered, after, placed, directive, span⟩ := (ignored_of_pair _ i).mp read
    rw [Bool.and_eq_true] at hit
    rw [Node.mem_descendants, show next = some covered from after] at pairListed
    exact ⟨comment, covered, i.rules, i.span, pairListed, placed, directive,
      (concerns_iff _ _).mp hit.1, span, hit.2⟩
  · rintro ⟨comment, covered, rules, span, adjacent, placed, directive, about, range, hit⟩
    refine ⟨⟨span, rules⟩, List.mem_filterMap.mpr ⟨(comment, some covered), ?_, ?_⟩, ?_⟩
    · exact (Node.mem_descendants tree comment (some covered)).mpr adjacent
    · exact (ignored_of_pair _ _).mpr ⟨covered, rfl, placed, directive, range⟩
    · exact Bool.and_eq_true_iff.mpr ⟨(concerns_iff _ _).mpr about, hit⟩

theorem allows_unplaced (c : Controls) (message : Message) (unplaced : message.location = none) :
    c.allows message = true := by
  simp only [Controls.allows, Message.start?, unplaced, Option.map_none]

theorem allows_placed (tree : Node) (c : Controls) (collected : Controls.collect tree = .ok c)
    (message : Message) (place : Point) (start : message.start? = some place) :
    c.allows message = true ↔
      ¬ IgnoredAt tree message.ruleId place ∧
        (Switches.replay place (Node.preorderList tree.children)).isOn message.ruleId = true := by
  have states := Switches.is_on_run place (Node.preorderList tree.children) .allOn message.ruleId
  rw [← Controls.collect_toggles tree c collected] at states
  rw [← ignored_any tree c collected, Switches.replay, states]
  simp only [Controls.allows, start]
  cases c.ignored.any fun i => concerns i.rules message.ruleId && i.span.contains place with
  | true => simp
  | false =>
      cases (c.toggles.filter fun t =>
        concerns t.rules message.ruleId && t.place.le place).getLast? with
      | none => simp [Switches.allOn, Switches.isOn]
      | some t => simp

theorem ignored_not_kept (tree : Node) (file kept : LintFile)
    (applied : Controls.apply tree file = .ok kept) (message : Message) (place : Point)
    (start : message.start? = some place) (ignored : IgnoredAt tree message.ruleId place) :
    message ∉ kept.messages := by
  intro listed
  rw [Controls.apply_filters] at applied
  cases collected : Controls.collect tree with
  | error e =>
      rw [collected] at applied
      cases applied
  | ok c =>
      rw [collected] at applied
      cases applied
      have allowed := (List.mem_filter.mp listed).2
      exact ((allows_placed tree c collected message place start).mp allowed).1 ignored

theorem suppression_refines_replay (tree : Node) (c : Controls)
    (collected : Controls.collect tree = .ok c) :
    (∀ message : Message, message.location = none → c.allows message = true) ∧
      (∀ (message : Message) (place : Point), message.start? = some place →
        (c.allows message = true ↔
          ¬ IgnoredAt tree message.ruleId place ∧
            (Switches.replay place (Node.preorderList tree.children)).isOn message.ruleId = true)) ∧
      ∀ file : LintFile, ∃ kept, Controls.apply tree file = .ok kept ∧
        kept = { file with messages := file.messages.filter c.allows } ∧
        Controls.apply tree kept = .ok kept := by
  refine ⟨allows_unplaced c, allows_placed tree c collected, ?_⟩
  intro file
  refine ⟨_, ?_, rfl, ?_⟩
  · rw [Controls.apply_filters, collected]
    rfl
  · rw [Controls.apply_filters, collected]
    simp only [Except.map, List.filter_filter, Bool.and_self]

def reportAt (ruleId : String) (place : Point) : Message :=
  { Message.plain ruleId "" with location := some (.point place) }

def mixedTree : Node :=
  ⟨.root, none, [
    .leaf (.html "<!--lint disable no-tabs-->") (some ⟨⟨1, 1, 0⟩, ⟨1, 28, 27⟩⟩),
    .leaf (.html "<!--lint disable-->") (some ⟨⟨3, 1, 29⟩, ⟨3, 20, 48⟩⟩),
    ⟨.blockquote, some ⟨⟨5, 1, 50⟩, ⟨5, 29, 78⟩⟩, [
      .leaf (.html "<!--lint enable no-tabs-->") (some ⟨⟨5, 3, 52⟩, ⟨5, 29, 78⟩⟩)]⟩,
    .leaf (.html "<!--lint ignore no-tabs-->") (some ⟨⟨7, 1, 80⟩, ⟨7, 27, 106⟩⟩),
    .leaf .paragraph (some ⟨⟨9, 1, 108⟩, ⟨9, 5, 112⟩⟩)]⟩

theorem suppression_refines_replay_mixed :
    ∃ c, Controls.collect mixedTree = .ok c ∧
      c.allows (reportAt "no-tabs" ⟨6, 1, 79⟩) = true ∧
      (¬ IgnoredAt mixedTree "no-tabs" ⟨6, 1, 79⟩ ∧
        (Switches.replay ⟨6, 1, 79⟩ (Node.preorderList mixedTree.children)).isOn "no-tabs" =
          true) ∧
      c.allows (reportAt "no-tabs" ⟨9, 1, 108⟩) = false ∧
      ¬ (¬ IgnoredAt mixedTree "no-tabs" ⟨9, 1, 108⟩ ∧
        (Switches.replay ⟨9, 1, 108⟩ (Node.preorderList mixedTree.children)).isOn "no-tabs" =
          true) := by
  refine ⟨_, rfl, rfl, ?_, rfl, ?_⟩
  · exact ((suppression_refines_replay mixedTree _ rfl).2.1
      (reportAt "no-tabs" ⟨6, 1, 79⟩) _ rfl).mp rfl
  · intro kept
    have allowed := ((suppression_refines_replay mixedTree _ rfl).2.1
      (reportAt "no-tabs" ⟨9, 1, 108⟩) _ rfl).mpr kept
    exact absurd allowed (by decide)

def unplacedIgnore : Node :=
  .leaf (.html "<!--lint ignore-->") none

def placedHeading : Node :=
  .leaf (.heading 1) (some ⟨⟨3, 1, 20⟩, ⟨3, 8, 27⟩⟩)

def rootComment : Node :=
  .leaf (.html "<!--lint disable-->") (some ⟨⟨1, 1, 0⟩, ⟨1, 20, 19⟩⟩)

theorem unplaced_and_root_comments_inert :
    (Controls.collect ⟨.root, none, [unplacedIgnore, placedHeading]⟩ = .ok .empty ∧
      Node.Adjacent (Node.preorder ⟨.root, none, [unplacedIgnore, placedHeading]⟩)
        unplacedIgnore (some placedHeading) ∧
      Comment.ofNode unplacedIgnore = .directive ⟨.ignore, []⟩ ∧
      placedHeading.span = some ⟨⟨3, 1, 20⟩, ⟨3, 8, 27⟩⟩ ∧
      Span.contains ⟨⟨3, 1, 20⟩, ⟨3, 8, 27⟩⟩ ⟨3, 1, 20⟩ = true ∧
      Controls.empty.allows (reportAt "no-tabs" ⟨3, 1, 20⟩) = true) ∧
    Controls.collect rootComment = .ok .empty ∧
      (Switches.replay ⟨2, 1, 20⟩ rootComment.preorder).isOn "no-tabs" = false ∧
      Controls.empty.allows (reportAt "no-tabs" ⟨2, 1, 20⟩) = true := by
  refine ⟨⟨rfl, ?_, rfl, rfl, rfl, rfl⟩, rfl, rfl, rfl⟩
  exact ⟨⟨.root, none, [unplacedIgnore, placedHeading]⟩, List.mem_cons_self, 0, rfl, rfl⟩

end Proofread.Lint
