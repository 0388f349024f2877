import Proofread.Lint.Rules.RawText
import Proofread.Proofs.Pass

set_option autoImplicit false

namespace Proofread.Lint

def Outcome.lastFile? : Outcome → Option LintFile
  | .success file => some file
  | .processingFailure failure => some failure.file
  | .configurationError _ | .overflow => none

namespace Controls

theorem gather_stops (before after : List (Node × Option Node)) (n : Node) (next : Option Node)
    (place : Span) (word : String) (understood : ∀ m ∈ before.map Prod.fst, ¬ Faulty m)
    (placed : n.span = some place) (unknown : Comment.ofNode n = .unknownKeyword word) :
    gather (before ++ (n, next) :: after) = .error ⟨unknownKeywordReason word, place⟩ := by
  obtain ⟨c, gathered⟩ := (gather_succeeds before).mpr understood
  have fails : gather ((n, next) :: after) = .error ⟨unknownKeywordReason word, place⟩ := by
    rw [gather, of_node_comment, placed, unknown]
  rw [gather_append, gathered, fails]
  rfl

theorem collect_stops (tree : Node) (before after : List Node) (n : Node) (place : Span)
    (word : String) (order : Node.preorderList tree.children = before ++ n :: after)
    (understood : ∀ m ∈ before, ¬ Faulty m) (placed : n.span = some place)
    (unknown : Comment.ofNode n = .unknownKeyword word) :
    collect tree = .error ⟨unknownKeywordReason word, place⟩ := by
  rw [← Node.descendants_nodes, List.map_eq_append_iff] at order
  obtain ⟨pairs, others, split, first, rest⟩ := order
  rw [List.map_eq_cons_iff] at rest
  obtain ⟨⟨m, next⟩, later, same, here, _⟩ := rest
  simp only at here
  subst here
  rw [← first] at understood
  rw [collect_gathers, split, same]
  exact gather_stops pairs later m next place word understood placed unknown

end Controls

-- The first placed comment below the root whose keyword is unknown stands at `place`.
def FirstFaulty (tree : Node) (place : Span) (word : String) : Prop :=
  ∃ before n after, Node.preorderList tree.children = before ++ n :: after ∧
    (∀ m ∈ before, ¬ Faulty m) ∧ n.span = some place ∧ Comment.ofNode n = .unknownKeyword word

theorem first_or_none {α : Type} (bad : α → Prop) (items : List α) :
    (∀ item ∈ items, ¬ bad item) ∨
      ∃ before item after, items = before ++ item :: after ∧ (∀ b ∈ before, ¬ bad b) ∧
        bad item := by
  induction items with
  | nil => exact Or.inl fun _ listed => absurd listed List.not_mem_nil
  | cons head rest ih =>
      by_cases headBad : bad head
      · exact Or.inr ⟨[], head, rest, rfl, fun _ listed => absurd listed List.not_mem_nil, headBad⟩
      · rcases ih with none | ⟨before, item, after, split, fine, found⟩
        · exact Or.inl (List.forall_mem_cons.mpr ⟨headBad, none⟩)
        · exact Or.inr ⟨head :: before, item, after, by rw [split]; rfl,
            List.forall_mem_cons.mpr ⟨headBad, fine⟩, found⟩

theorem first_faulty_or_none (tree : Node) :
    (∀ n ∈ Node.preorderList tree.children, ¬ Faulty n) ∨
      ∃ place word, FirstFaulty tree place word := by
  rcases first_or_none Faulty (Node.preorderList tree.children) with
    none | ⟨before, n, after, order, understood, placed, word, unknown⟩
  · exact Or.inl none
  · obtain ⟨place, here⟩ := Option.isSome_iff_exists.mp placed
    exact Or.inr ⟨place, word, before, n, after, order, understood, here, unknown⟩

namespace Pipeline

-- After the enabled rules `before`, which complete, comes `a`, which stops.
def FirstStopping (p : Pipeline) (tree : Node) (file : LintFile) (before : List AttachedRule)
    (a : AttachedRule) (why : Failure) : Prop :=
  ∃ rest, p.enabledRules = before ++ a :: rest ∧ p.Completes tree file before ∧
    (p.findings a tree file).failure = some why

theorem stopping_enabled (p : Pipeline) (tree : Node) (file : LintFile)
    (before : List AttachedRule) (a : AttachedRule) (why : Failure)
    (first : p.FirstStopping tree file before a why) :
    ∀ b ∈ before ++ [a], b ∈ p.enabledRules := by
  obtain ⟨rest, split, _⟩ := first
  intro b listed
  rw [split, List.append_cons]
  exact List.mem_append_left rest listed

theorem run_rules_fails (p : Pipeline) (tree : Node) (before rest : List AttachedRule)
    (a : AttachedRule) (why : Failure) (file : LintFile)
    (complete : p.Completes tree file before)
    (failed : (p.findings a tree file).failure = some why) :
    p.runRules tree (before ++ a :: rest) file =
      .error (stopped a (file.append ((before ++ [a]).flatMap (p.emitted tree file))) why) := by
  induction before generalizing file with
  | nil =>
      rw [List.nil_append, run_rules_step, failed, List.nil_append, List.flatMap_singleton]
  | cons b others ih =>
      obtain ⟨first, later⟩ := List.forall_mem_cons.mp complete
      rw [List.cons_append, run_rules_step, first, List.cons_append, List.flatMap_cons,
        ← LintFile.append_append]
      exact ih (file.append (p.emitted tree file b)) later failed

theorem stopping_or_complete (p : Pipeline) (tree : Node) (file : LintFile) :
    p.Completes tree file p.enabledRules ∨
      ∃ before a why, p.FirstStopping tree file before a why := by
  rcases first_or_none (fun a => (p.findings a tree file).failure ≠ none) p.enabledRules with
    none | ⟨before, a, rest, split, fine, failed⟩
  · exact Or.inl fun a enabled => Decidable.not_not.mp (none a enabled)
  · obtain ⟨why, stops⟩ := Option.ne_none_iff_exists'.mp failed
    exact Or.inr ⟨before, a, why, rest, split,
      fun b listed => Decidable.not_not.mp (fine b listed), stops⟩

theorem process_tree_stops (p : Pipeline) (tree : Node) (file : LintFile)
    (before : List AttachedRule) (a : AttachedRule) (why : Failure)
    (first : p.FirstStopping (p.view tree) file before a why) :
    p.processTree tree file =
      stopped a (file.append ((before ++ [a]).flatMap (p.emitted (p.view tree) file))) why := by
  obtain ⟨rest, split, complete, failed⟩ := first
  have ran := run_rules_fails p (p.view tree) before rest a why file complete failed
  rw [← split] at ran
  simp only [processTree, ran]

theorem process_tree_leaves (p : Pipeline) (tree : Node) (file : LintFile) :
    p.processTree tree file = .overflow ∨
    ∃ left, (p.processTree tree file).lastFile? = some left ∧ left.path = file.path ∧
      left.contents = file.contents ∧
      ∀ m ∈ left.messages, m ∈ file.messages ∨
        ∃ a ∈ p.enabledRules, m ∈ p.emitted (p.view tree) file a := by
  have origin : ∀ rules : List AttachedRule, (∀ a ∈ rules, a ∈ p.enabledRules) →
      ∀ m ∈ file.messages ++ rules.flatMap (p.emitted (p.view tree) file), m ∈ file.messages ∨
        ∃ a ∈ p.enabledRules, m ∈ p.emitted (p.view tree) file a := by
    intro rules enabled m listed
    rcases List.mem_append.mp listed with earlier | emitted
    · exact Or.inl earlier
    · obtain ⟨a, ran, own⟩ := List.mem_flatMap.mp emitted
      exact Or.inr ⟨a, enabled a ran, own⟩
  rcases stopping_or_complete p (p.view tree) file with
    completes | ⟨before, a, why, first⟩
  · refine Or.inr ?_
    have all := origin p.enabledRules fun _ enabled => enabled
    rw [process_tree_completes p tree file completes]
    cases Controls.collect (p.view tree) with
    | ok c => exact ⟨_, rfl, rfl, rfl, fun m kept => all m (List.mem_filter.mp kept).1⟩
    | error e => exact ⟨_, rfl, rfl, rfl, all⟩
  · have part := origin (before ++ [a]) (stopping_enabled p _ file before a why first)
    rw [process_tree_stops p tree file before a why first]
    cases why with
    | reasons texts => exact Or.inr ⟨_, rfl, rfl, rfl, part⟩
    | overflow => exact Or.inl rfl

theorem process_tree_overflows (p : Pipeline) (tree : Node) (file : LintFile)
    (ended : p.processTree tree file = .overflow) :
    ∃ a ∈ p.enabledRules, (p.findings a (p.view tree) file).failure = some .overflow := by
  rcases stopping_or_complete p (p.view tree) file with
    completes | ⟨before, a, why, first⟩
  · rw [process_tree_completes p tree file completes] at ended
    cases collected : Controls.collect (p.view tree) <;> rw [collected] at ended <;> cases ended
  · have enabled := stopping_enabled p _ file before a why first
    rw [process_tree_stops p tree file before a why first] at ended
    obtain ⟨_, _, _, failed⟩ := first
    cases why with
    | reasons texts => cases ended
    | overflow => exact ⟨a, enabled a List.mem_concat_self, failed⟩

theorem process_configured (p : Pipeline) (file : LintFile) (e : LintError) :
    p.process file ≠ .configurationError e := by
  intro ended
  rw [process] at ended
  rcases p.process_tree_leaves (Markdown.parse file.contents) file with exceeds | ⟨left, last, _⟩
  · rw [ended] at exceeds
    cases exceeds
  · rw [ended] at last
    cases last

theorem pass_ends_exactly (p : Pipeline) (tree : Node) (file : LintFile) :
    (∀ before a reasons, p.FirstStopping (p.view tree) file before a (.reasons reasons) →
      p.processTree tree file = .processingFailure
        ⟨a.ruleId, String.intercalate ": " reasons, none, none, { file with
          messages := file.messages ++
            (before ++ [a]).flatMap (p.emitted (p.view tree) file) }⟩) ∧
    (∀ before a, p.FirstStopping (p.view tree) file before a .overflow →
      p.processTree tree file = .overflow) ∧
    (p.Completes (p.view tree) file p.enabledRules →
      (∀ place word, FirstFaulty (p.view tree) place word →
        p.processTree tree file = .processingFailure
          ⟨"lint", unknownKeywordReason word, some "marklint", some place, { file with
            messages := file.messages ++
              p.enabledRules.flatMap (p.emitted (p.view tree) file) }⟩) ∧
      ((∀ n ∈ Node.preorderList (p.view tree).children, ¬ Faulty n) →
        ∃ c, Controls.collect (p.view tree) = .ok c ∧
          p.processTree tree file = .success { file with
            messages := (file.messages ++
              p.enabledRules.flatMap (p.emitted (p.view tree) file)).filter c.allows })) ∧
    ((∃ before a why, p.FirstStopping (p.view tree) file before a why) ∨
      p.Completes (p.view tree) file p.enabledRules ∧
        ((∃ place word, FirstFaulty (p.view tree) place word) ∨
          ∀ n ∈ Node.preorderList (p.view tree).children, ¬ Faulty n)) := by
  refine ⟨?_, ?_, ?_, ?_⟩
  · intro before a reasons first
    exact process_tree_stops p tree file before a (.reasons reasons) first
  · intro before a first
    exact process_tree_stops p tree file before a .overflow first
  · intro completes
    have passed := process_tree_completes p tree file completes
    constructor
    · rintro place word ⟨before, n, after, order, understood, placed, unknown⟩
      rw [passed, Controls.collect_stops (p.view tree) before after n place word order understood
        placed unknown]
      rfl
    · intro understood
      obtain ⟨c, collected⟩ := (Controls.collect_succeeds (p.view tree)).mpr understood
      rw [collected] at passed
      exact ⟨c, collected, passed⟩
  · rcases stopping_or_complete p (p.view tree) file with completes | stopping
    · exact Or.inr ⟨completes, (first_faulty_or_none (p.view tree)).symm⟩
    · exact Or.inl stopping

def tabsReported : AttachedRule :=
  ⟨Rules.noTabs, "no-tabs", .ofSeverity .warn none⟩

def haltingRule (why : Failure) : AttachedRule where
  rule := {
    id := "halting"
    description := "Stops after a report"
    defaultSeverity := .warn
    validate := acceptAll
    check := fun _ _ _ => ⟨[.report "seen" none], some why⟩ }
  ruleId := "halting"
  config := .ofSeverity .error none

def halfReadTree : Node :=
  ⟨.root, none, [
    .leaf (.html "<!--lint disable-->") (some ⟨⟨1, 1, 0⟩, ⟨1, 20, 19⟩⟩),
    .leaf .paragraph (some ⟨⟨2, 1, 20⟩, ⟨2, 3, 22⟩⟩),
    .leaf (.html "<!--lint mute-->") (some ⟨⟨3, 1, 23⟩, ⟨3, 17, 39⟩⟩)]⟩

def halfReadFile : LintFile :=
  ⟨some "a.md", "<!--lint disable-->\n\tb\n<!--lint mute-->\n", []⟩

def tabReport : Message :=
  ⟨"no-tabs", "Use spaces instead of hard-tabs", some "a.md", some (.point ⟨2, 1, 20⟩),
    some false, "marklint"⟩

theorem pass_ends_exactly_half_read :
    processTree ⟨[tabsReported, haltingRule (.reasons ["outer", "inner"]), tabsReported], [], false⟩
        halfReadTree halfReadFile =
      .processingFailure ⟨"halting", "outer: inner", none, none, { halfReadFile with
        messages := [tabReport,
          ⟨"halting", "seen", some "a.md", none, some true, "marklint"⟩] }⟩ ∧
    processTree ⟨[tabsReported, haltingRule .overflow], [], false⟩ halfReadTree halfReadFile =
      .overflow ∧
    processTree ⟨[tabsReported], [], false⟩ halfReadTree halfReadFile =
      .processingFailure ⟨"lint", unknownKeywordReason "mute", some "marklint",
        some ⟨⟨3, 1, 23⟩, ⟨3, 17, 39⟩⟩, { halfReadFile with messages := [tabReport] }⟩ ∧
    ∃ kept, processTree ⟨[tabsReported], [], true⟩ halfReadTree halfReadFile = .success kept ∧
      kept.messages = [tabReport] := by
  have tabsComplete : ∀ (p : Pipeline) (tree : Node),
      p.Completes tree halfReadFile [tabsReported] := by
    intro p tree a listed
    rw [List.mem_singleton.mp listed]
    rfl
  refine ⟨?_, ?_, ?_, ?_⟩
  · exact (pass_ends_exactly _ halfReadTree halfReadFile).1 [tabsReported]
      (haltingRule (.reasons ["outer", "inner"])) _ ⟨[tabsReported], rfl, tabsComplete _ _, rfl⟩
  · exact (pass_ends_exactly _ halfReadTree halfReadFile).2.1 [tabsReported]
      (haltingRule .overflow) ⟨[], rfl, tabsComplete _ _, rfl⟩
  · have understood : ∀ m ∈ halfReadTree.children.take 2, ¬ Faulty m := by
      rintro m listed ⟨_, word, unknown⟩
      rcases List.mem_cons.mp listed with rfl | other
      · cases unknown
      · rw [List.mem_singleton.mp other] at unknown
        cases unknown
    exact ((pass_ends_exactly ⟨[tabsReported], [], false⟩ halfReadTree halfReadFile).2.2.1
      (tabsComplete _ _)).1 _ "mute" ⟨_, _, [], rfl, understood, rfl, rfl⟩
  · have understood := (Controls.collect_succeeds halfReadTree.withoutSpans).mp
      (Controls.collect_without_spans halfReadTree)
    obtain ⟨c, collected, passed⟩ := ((pass_ends_exactly ⟨[tabsReported], [], true⟩ halfReadTree
      halfReadFile).2.2.1 (tabsComplete _ _)).2 understood
    refine ⟨_, passed, ?_⟩
    have nothing : c = Controls.empty :=
      Except.ok.inj (collected.symm.trans (Controls.collect_nothing halfReadTree))
    rw [nothing]
    rfl

def mutedRoot : Node :=
  .leaf (.html "<!--lint mute-->") (some ⟨⟨1, 1, 0⟩, ⟨1, 17, 16⟩⟩)

def unplacedMute : Node :=
  .leaf (.html "<!--lint mute-->") none

theorem unknown_keywords_passed_over :
    (Faulty mutedRoot ∧ mutedRoot ∈ mutedRoot.preorder ∧
      empty.processTree mutedRoot (.ofContents "") = .success (.ofContents "")) ∧
    Comment.ofNode unplacedMute = .unknownKeyword "mute" ∧
      unplacedMute ∈ Node.preorder ⟨.root, none, [unplacedMute]⟩ ∧
      empty.processTree ⟨.root, none, [unplacedMute]⟩ (.ofContents "") =
        .success (.ofContents "") :=
  ⟨⟨⟨rfl, "mute", rfl⟩, List.mem_cons_self, rfl⟩, rfl,
    List.mem_cons_of_mem _ List.mem_cons_self, rfl⟩

end Pipeline

end Proofread.Lint
