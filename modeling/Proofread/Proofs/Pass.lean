import Proofread.Lint.Pipeline
import Proofread.Proofs.Collection

set_option autoImplicit false

namespace Proofread.Lint

namespace Pipeline

def emitted (p : Pipeline) (tree : Node) (file : LintFile) (a : AttachedRule) : List Message :=
  messagesOf a file (p.findings a tree file)

def Completes (p : Pipeline) (tree : Node) (file : LintFile) (rules : List AttachedRule) : Prop :=
  ∀ a ∈ rules, (p.findings a tree file).failure = none

theorem completes_append (p : Pipeline) (tree : Node) (file : LintFile)
    (a b : List AttachedRule) :
    p.Completes tree file (a ++ b) ↔ p.Completes tree file a ∧ p.Completes tree file b := by
  simp only [Completes, List.mem_append, or_imp, forall_and]

theorem run_rules_step (p : Pipeline) (tree : Node) (a : AttachedRule) (rest : List AttachedRule)
    (file : LintFile) :
    p.runRules tree (a :: rest) file =
      match (p.findings a tree file).failure with
      | some why => .error (stopped a (file.append (p.emitted tree file a)) why)
      | none => p.runRules tree rest (file.append (p.emitted tree file a)) :=
  rfl

-- Of the pipeline itself, a run of given rules reads the settings alone.
theorem run_rules_settings (p q : Pipeline) (same : p.settings = q.settings) (tree : Node)
    (rules : List AttachedRule) (file : LintFile) :
    p.runRules tree rules file = q.runRules tree rules file := by
  induction rules generalizing file with
  | nil => rfl
  | cons a rest ih => simp only [run_rules_step, findings, emitted, same, ih]

-- Earlier messages change neither what a rule finds nor how it reports: `findings` and `emitted`
-- read the path and the contents alone, so both sides of the induction hypothesis speak of `file`.
theorem run_rules_completes (p : Pipeline) (tree : Node) (rules : List AttachedRule)
    (file after : LintFile) :
    p.runRules tree rules file = .ok after ↔
      p.Completes tree file rules ∧ after = file.append (rules.flatMap (p.emitted tree file)) := by
  induction rules generalizing file with
  | nil =>
      rw [runRules, List.flatMap_nil, LintFile.append_nil]
      simp only [Completes, List.not_mem_nil, false_implies, implies_true, true_and,
        Except.ok.injEq]
      exact eq_comm
  | cons a rest ih =>
      have split : p.Completes tree file (a :: rest) ↔
          (p.findings a tree file).failure = none ∧ p.Completes tree file rest := by
        simp only [Completes, List.forall_mem_cons]
      rw [run_rules_step, split, List.flatMap_cons, ← LintFile.append_append]
      cases (p.findings a tree file).failure with
      | some why => simp
      | none =>
          simp only [true_and]
          exact ih (file.append (p.emitted tree file a))

theorem run_rules_stops (p : Pipeline) (tree : Node) (rules : List AttachedRule) (file : LintFile)
    (outcome : Outcome) (ran : p.runRules tree rules file = .error outcome) (kept : LintFile) :
    outcome ≠ .success kept := by
  induction rules generalizing file with
  | nil => cases ran
  | cons a rest ih =>
      rw [run_rules_step] at ran
      cases failed : (p.findings a tree file).failure with
      | none =>
          rw [failed] at ran
          exact ih _ ran
      | some why =>
          rw [failed] at ran
          cases ran
          cases why <;> exact Outcome.noConfusion

theorem process_tree_completes (p : Pipeline) (tree : Node) (file : LintFile)
    (completes : p.Completes (p.view tree) file p.enabledRules) :
    p.processTree tree file =
      match Controls.collect (p.view tree) with
      | .ok c => .success { file with
          messages := (file.messages ++
            p.enabledRules.flatMap (p.emitted (p.view tree) file)).filter c.allows }
      | .error e => .processingFailure ⟨controlRuleId, e.reason, some engineTag, some e.span,
          file.append (p.enabledRules.flatMap (p.emitted (p.view tree) file))⟩ := by
  have ran := (run_rules_completes p (p.view tree) p.enabledRules file _).mpr ⟨completes, rfl⟩
  simp only [processTree, ran, Controls.apply_filters]
  cases Controls.collect (p.view tree) <;> rfl

theorem process_tree_succeeds (p : Pipeline) (tree : Node) (file kept : LintFile) :
    p.processTree tree file = .success kept ↔
      p.Completes (p.view tree) file p.enabledRules ∧
        ∃ c, Controls.collect (p.view tree) = .ok c ∧
          kept = { file with
            messages := (file.messages ++
              p.enabledRules.flatMap (p.emitted (p.view tree) file)).filter c.allows } := by
  by_cases completes : p.Completes (p.view tree) file p.enabledRules
  · rw [process_tree_completes p tree file completes]
    simp only [completes, true_and]
    cases Controls.collect (p.view tree) with
    | error e => simp
    | ok c =>
        simp only [Outcome.success.injEq, Except.ok.injEq, exists_eq_left']
        exact eq_comm
  · simp only [completes, false_and, iff_false]
    intro passed
    cases ran : p.runRules (p.view tree) p.enabledRules file with
    | ok after => exact completes ((run_rules_completes p _ _ _ _).mp ran).1
    | error outcome =>
        simp only [processTree, ran] at passed
        exact run_rules_stops p _ _ _ _ ran kept passed

theorem process_tree_enabled (p : Pipeline) (tree : Node) (file : LintFile) :
    processTree { p with attached := p.enabledRules } tree file = p.processTree tree file := by
  have enabled : enabledRules { p with attached := p.enabledRules } = p.enabledRules := by
    simp only [enabledRules, List.filter_filter, Bool.and_self]
  have ran := run_rules_settings { p with attached := p.enabledRules } p rfl
  simp only [processTree, enabled, ran]
  rfl

-- A pass that succeeds ends with the directives of the tree that its rules saw.
theorem process_tree_applies (p : Pipeline) (tree : Node) (file kept : LintFile)
    (passed : p.processTree tree file = .success kept) :
    ∃ after, Controls.apply (p.view tree) after = .ok kept := by
  obtain ⟨_, c, collected, filtered⟩ := (process_tree_succeeds p tree file kept).mp passed
  refine ⟨file.append (p.enabledRules.flatMap (p.emitted (p.view tree) file)), ?_⟩
  rw [Controls.apply_filters, collected, filtered]
  rfl

end Pipeline

end Proofread.Lint
