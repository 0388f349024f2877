import Proofread.Proofs.Configuration
import Proofread.Proofs.FailedPass

set_option autoImplicit false

namespace Proofread.Lint

open Json (Value)

def Rule.ReportsOnly (rule : Rule) : Prop :=
  ∀ tree context options, ∀ e ∈ (rule.check tree context options).emissions,
    ∃ reason location, e = .report reason location

section

variable (id : String) (fatal : Option Bool)

def Message.flagged (m : Message) : Message :=
  if m.ruleId = id then { m with fatal := fatal } else m

def LintFile.flagged (file : LintFile) : LintFile :=
  { file with messages := file.messages.map (Message.flagged id fatal) }

def Outcome.flagged : Outcome → Outcome
  | .success file => .success (file.flagged id fatal)
  | .configurationError e => .configurationError e
  | .processingFailure failure =>
      .processingFailure { failure with file := failure.file.flagged id fatal }
  | .overflow => .overflow

def AttachedRule.flagged (a : AttachedRule) : AttachedRule :=
  if a.ruleId = id then { a with config := { a.config with fatal := fatal } } else a

theorem attached_flagged (a : AttachedRule) :
    (a.flagged id fatal).rule = a.rule ∧ (a.flagged id fatal).ruleId = a.ruleId ∧
      (a.flagged id fatal).config.enabled = a.config.enabled ∧
      (a.flagged id fatal).config.options = a.config.options := by
  rw [AttachedRule.flagged]
  by_cases own : a.ruleId = id
  · rw [if_pos own]
    exact ⟨rfl, rfl, rfl, rfl⟩
  · rw [if_neg own]
    exact ⟨rfl, rfl, rfl, rfl⟩

theorem append_flagged (file : LintFile) (messages : List Message) :
    (file.append messages).flagged id fatal =
      (file.flagged id fatal).append (messages.map (Message.flagged id fatal)) := by
  simp only [LintFile.flagged, LintFile.append, List.map_append]

theorem allows_flagged (c : Controls) (m : Message) :
    c.allows (m.flagged id fatal) = c.allows m := by
  rw [Message.flagged]
  by_cases own : m.ruleId = id
  · rw [if_pos own]
    rfl
  · rw [if_neg own]

theorem apply_flagged (tree : Node) (file : LintFile) :
    Controls.apply tree (file.flagged id fatal) =
      (Controls.apply tree file).map (LintFile.flagged id fatal) := by
  rw [Controls.apply_filters, Controls.apply_filters]
  cases Controls.collect tree with
  | error e => rfl
  | ok c =>
      have same : c.allows ∘ Message.flagged id fatal = c.allows := by
        funext m
        exact allows_flagged id fatal c m
      simp only [Except.map, LintFile.flagged, List.filter_map, same]

namespace Pipeline

def flagged (p : Pipeline) : Pipeline :=
  { p with attached := p.attached.map (AttachedRule.flagged id fatal) }

theorem enabled_flagged (p : Pipeline) :
    (p.flagged id fatal).enabledRules = p.enabledRules.map (AttachedRule.flagged id fatal) := by
  have same : (fun a : AttachedRule => a.config.enabled) ∘ AttachedRule.flagged id fatal =
      fun a => a.config.enabled := by
    funext a
    exact (attached_flagged id fatal a).2.2.1
  rw [enabledRules, enabledRules, flagged, List.filter_map, same]

theorem findings_flagged (p : Pipeline) (a : AttachedRule) (tree : Node) (file : LintFile) :
    (p.flagged id fatal).findings (a.flagged id fatal) tree (file.flagged id fatal) =
      p.findings a tree file := by
  obtain ⟨rule, named, _, options⟩ := attached_flagged id fatal a
  rw [findings, findings, rule, named, options]
  rfl

theorem report_flagged (a : AttachedRule) (path : Option String) (reason : String)
    (location : Option Location) :
    Emission.toMessage path (a.flagged id fatal).ruleId (a.flagged id fatal).config.fatal
        (.report reason location) =
      (Emission.toMessage path a.ruleId a.config.fatal (.report reason location)).flagged
        id fatal := by
  rw [Emission.toMessage, Emission.toMessage]
  by_cases own : a.ruleId = id
  · have rule : a.flagged id fatal = { a with config := { a.config with fatal := fatal } } :=
      if_pos own
    have message : Message.flagged id fatal
        ⟨a.ruleId, reason, path, location, a.config.fatal, engineTag⟩ =
          ⟨a.ruleId, reason, path, location, fatal, engineTag⟩ := if_pos own
    rw [rule, message]
  · have rule : a.flagged id fatal = a := if_neg own
    have message : Message.flagged id fatal
        ⟨a.ruleId, reason, path, location, a.config.fatal, engineTag⟩ =
          ⟨a.ruleId, reason, path, location, a.config.fatal, engineTag⟩ := if_neg own
    rw [rule, message]

theorem emitted_flagged (p : Pipeline) (a : AttachedRule) (reports : a.rule.ReportsOnly)
    (tree : Node) (file : LintFile) :
    (p.flagged id fatal).emitted tree (file.flagged id fatal) (a.flagged id fatal) =
      (p.emitted tree file a).map (Message.flagged id fatal) := by
  rw [emitted, emitted, findings_flagged, messagesOf, messagesOf, List.map_map]
  apply List.map_congr_left
  intro e reported
  obtain ⟨reason, location, report⟩ := reports _ _ _ e reported
  rw [report]
  exact report_flagged id fatal a file.path reason location

theorem stopped_flagged (a : AttachedRule) (after : LintFile) (why : Failure) :
    stopped (a.flagged id fatal) (after.flagged id fatal) why =
      (stopped a after why).flagged id fatal := by
  cases why with
  | reasons texts => rw [stopped, stopped, (attached_flagged id fatal a).2.1, Outcome.flagged]
  | overflow => rfl

theorem run_rules_flagged (p : Pipeline) (tree : Node) (rules : List AttachedRule)
    (reports : ∀ a ∈ rules, a.rule.ReportsOnly) (file : LintFile) :
    (p.flagged id fatal).runRules tree (rules.map (AttachedRule.flagged id fatal))
        (file.flagged id fatal) =
      match p.runRules tree rules file with
      | .ok after => .ok (after.flagged id fatal)
      | .error outcome => .error (outcome.flagged id fatal) := by
  induction rules generalizing file with
  | nil => rfl
  | cons a rest ih =>
      obtain ⟨first, others⟩ := List.forall_mem_cons.mp reports
      rw [List.map_cons, run_rules_step, run_rules_step, findings_flagged,
        emitted_flagged id fatal p a first, ← append_flagged]
      cases (p.findings a tree file).failure with
      | some why => exact congrArg Except.error (stopped_flagged id fatal a _ why)
      | none => exact ih others (file.append (p.emitted tree file a))

theorem process_tree_flagged (p : Pipeline) (reports : ∀ a ∈ p.attached, a.rule.ReportsOnly)
    (tree : Node) (file : LintFile) :
    (p.flagged id fatal).processTree tree (file.flagged id fatal) =
      (p.processTree tree file).flagged id fatal := by
  have enabled : ∀ a ∈ p.enabledRules, a.rule.ReportsOnly :=
    fun a listed => reports a (List.mem_filter.mp listed).1
  have sight : (p.flagged id fatal).view tree = p.view tree := rfl
  simp only [processTree, sight, enabled_flagged,
    run_rules_flagged id fatal p (p.view tree) p.enabledRules enabled file]
  cases p.runRules (p.view tree) p.enabledRules file with
  | error outcome => rfl
  | ok after =>
      simp only [apply_flagged]
      cases Controls.apply (p.view tree) after <;> rfl

-- Two settings of a rule that differ in the severity alone make pipelines that differ in a flag.
theorem of_config_flagged (registry : Registry) (config : LintConfig) (value changed : Value)
    (configured : config.rules.get? id = some value) (rule : Rule)
    (found : registry.get? id = some rule) (r s : Resolved) (sets : Sets rule value (some r))
    (setsChanged : Sets rule changed (some s)) (enabled : r.enabled = s.enabled)
    (options : s.options = r.options) :
    ofConfig registry ⟨config.rules.insert id changed, config.settings⟩ =
      (ofConfig registry config).map (Pipeline.flagged id s.fatal) := by
  have others : ∀ entry : String × Value, entry.1 ≠ id → attachment registry entry =
      (attachment registry entry).map (Option.map (AttachedRule.flagged id s.fatal)) := by
    intro entry distinct
    cases added : attachment registry entry with
    | error e => rfl
    | ok own =>
        cases own with
        | none => rfl
        | some a =>
            have attaches := (attachment_attaches registry entry a).mp added
            have same : a.flagged id s.fatal = a := if_neg (by
              rw [attaches.named, attaches.own]
              exact distinct)
            simp only [Except.map, Option.map_some, same]
  have here : attachment registry (id, changed) =
      (attachment registry (id, value)).map (Option.map (AttachedRule.flagged id s.fatal)) := by
    rw [← settle_sets] at sets setsChanged
    have same : (AttachedRule.mk rule rule.id r).flagged id s.fatal = ⟨rule, rule.id, s⟩ := by
      obtain ⟨on, flag, given⟩ := r
      obtain ⟨onToo, flagToo, givenToo⟩ := s
      simp only at enabled options
      subst enabled options
      exact if_pos (registry.keyed id rule found)
    simp only [attachment, found, addition, sets, setsChanged, options]
    cases rule.validate r.options with
    | error detail => rfl
    | ok _ => simp only [Except.map, Option.map_some, same]
  obtain ⟨before, after, split⟩ :=
    List.append_of_mem ((config.rules.get_some id value).mp configured)
  have ordered := config.rules.ordered
  rw [split] at ordered
  have exchanged : (config.rules.insert id changed).entries = before ++ (id, changed) :: after := by
    change insertByName id changed config.rules.entries = _
    rw [split]
    exact insert_by_name_replaces before after id value changed ordered
  have apart := others_apart before after id value ordered
  have alike := attachments_alike registry registry (AttachedRule.flagged id s.fatal)
    (before ++ (id, value) :: after) (before ++ (id, changed) :: after)
    (List.rel_append
      (List.forall₂_same.mpr fun entry listed =>
        others entry (apart entry (List.mem_append_left after listed)))
      (.cons here (List.forall₂_same.mpr fun entry listed =>
        others entry (apart entry (List.mem_append_right before listed)))))
  rw [of_config_attachments, of_config_attachments, split, exchanged, alike]
  cases attachments registry (before ++ (id, value) :: after) <;> rfl

end Pipeline

end

end Proofread.Lint
