import Proofread.Proofs.Flags
import Proofread.Proofs.SpanlessPass

set_option autoImplicit false

namespace Proofread.Lint

open Json (Value)

def Registry.ReportsOnly (registry : Registry) : Prop :=
  ∀ id rule, registry.get? id = some rule → rule.ReportsOnly

def Configured (registry : Registry) (config : LintConfig) (id : String) (r : Resolved) : Prop :=
  ∃ value rule, config.rules.get? id = some value ∧ registry.get? id = some rule ∧
    Sets rule value (some r)

theorem sets_normal (rule : Rule) (value : Value) (r : Resolved) (sets : Sets rule value (some r)) :
    r.Normal := by
  cases sets with
  | on => exact Resolved.of_severity_normal rule.defaultSeverity none
  | form _ _ _ resolved => exact resolve_normal rule.id (.ofJson value) r resolved

theorem configured_normal (registry : Registry) (config : LintConfig) (id : String) (r : Resolved)
    (configured : Configured registry config id r) : r.Normal := by
  obtain ⟨value, rule, _, _, sets⟩ := configured
  exact sets_normal rule value r sets

theorem sets_unique (rule : Rule) (value : Value) (r s : Option Resolved) (one : Sets rule value r)
    (other : Sets rule value s) : r = s := by
  rw [← Pipeline.settle_sets] at one other
  exact Except.ok.inj (one.symm.trans other)

theorem configured_unique (registry : Registry) (config : LintConfig) (id : String)
    (r s : Resolved) (one : Configured registry config id r)
    (other : Configured registry config id s) : r = s := by
  obtain ⟨value, rule, listed, found, sets⟩ := one
  obtain ⟨again, same, listedToo, foundToo, setsToo⟩ := other
  have sameValue : value = again := Option.some.inj (listed.symm.trans listedToo)
  have sameRule : rule = same := Option.some.inj (found.symm.trans foundToo)
  rw [← sameValue, ← sameRule] at setsToo
  exact Option.some.inj (sets_unique rule value _ _ sets setsToo)

theorem attached_configured (registry : Registry) (config : LintConfig) (p : Pipeline)
    (made : Pipeline.ofConfig registry config = .ok p) (a : AttachedRule)
    (attached : a ∈ p.attached) :
    Configured registry config a.ruleId a.config ∧ registry.get? a.ruleId = some a.rule := by
  obtain ⟨_, _, follow⟩ := Pipeline.of_config_made registry config p made
  obtain ⟨entry, listed, attaches⟩ := related_source (Attaches registry) _ _ follow a attached
  have found := attaches.found
  have named : a.ruleId = entry.1 := attaches.named.trans attaches.own
  rw [← named] at found
  have known : config.rules.get? a.ruleId = some entry.2 := by
    rw [named, NameMap.get_some]
    exact (List.mem_filter.mp listed).1
  exact ⟨⟨entry.2, a.rule, known, found, attaches.sets⟩, found⟩

structure Attributed (registry : Registry) (config : LintConfig) (path : Option String)
    (m : Message) (r : Resolved) : Prop where
  configured : ∀ s, Configured registry config m.ruleId s ↔ s = r
  enabled : r.enabled = true
  error : m.fatal = some true ↔ r.severity = .error
  warning : m.fatal = some false ↔ r.severity = .warn
  file : m.file = path
  source : m.source = "marklint"

theorem enabled_severity (r : Resolved) (normal : r.Normal) (enabled : r.enabled = true) :
    (r.fatal = some true ↔ r.severity = .error) ∧ (r.fatal = some false ↔ r.severity = .warn) := by
  obtain ⟨fatal, present⟩ := Option.isSome_iff_exists.mp (normal.enabled.mp enabled)
  rw [Resolved.severity, if_pos enabled, present]
  cases fatal <;> simp

theorem emitted_attributed (registry : Registry) (reports : registry.ReportsOnly)
    (config : LintConfig) (p : Pipeline)
    (made : Pipeline.ofConfig registry config = .ok p) (tree : Node) (file : LintFile)
    (a : AttachedRule) (enabled : a ∈ p.enabledRules) (m : Message)
    (emitted : m ∈ p.emitted tree file a) : Attributed registry config file.path m a.config := by
  obtain ⟨attached, on⟩ := List.mem_filter.mp enabled
  obtain ⟨configured, found⟩ := attached_configured registry config p made a attached
  obtain ⟨e, reported, same⟩ := List.mem_map.mp emitted
  obtain ⟨reason, location, report⟩ := reports _ a.rule found _ _ _ e reported
  have stamped : m = ⟨a.ruleId, reason, file.path, location, a.config.fatal, engineTag⟩ := by
    rw [← same, report]
    rfl
  have normal := configured_normal registry config a.ruleId a.config configured
  have severity := enabled_severity a.config normal on
  have only : ∀ s, Configured registry config a.ruleId s ↔ s = a.config := by
    intro s
    constructor
    · intro other
      exact configured_unique registry config a.ruleId s a.config other configured
    · rintro rfl
      exact configured
  subst stamped
  exact ⟨only, on, severity.1, severity.2, rfl, rfl⟩

section

variable (registry : Registry) (reports : registry.ReportsOnly) (config : LintConfig)
  (path : Option String) (contents : String)

include reports

theorem lint_document_attributed (kept : LintFile)
    (passed : lintDocument registry config ⟨path, contents, []⟩ = .success kept) (m : Message)
    (listed : m ∈ kept.messages) : ∃ r, Attributed registry config path m r := by
  cases made : Pipeline.ofConfig registry config with
  | error e =>
      rw [lintDocument, made] at passed
      cases passed
  | ok p =>
      rw [lintDocument, made] at passed
      change p.processTree (Markdown.parse contents) ⟨path, contents, []⟩ = _ at passed
      rcases Pipeline.process_tree_leaves p (Markdown.parse contents) ⟨path, contents, []⟩ with
        exceeds | ⟨left, last, _, _, origins⟩
      · rw [exceeds] at passed
        cases passed
      · have same : kept = left :=
          Option.some.inj ((congrArg Outcome.lastFile? passed).symm.trans last)
        rw [same] at listed
        rcases origins m listed with earlier | ⟨a, enabled, emitted⟩
        · cases earlier
        · exact ⟨a.config, emitted_attributed registry reports config p made _ _ a enabled m
            emitted⟩

theorem lint_document_flagged (id : String) (value changed : Value)
    (configured : config.rules.get? id = some value) (rule : Rule)
    (found : registry.get? id = some rule) (r s : Resolved) (sets : Sets rule value (some r))
    (setsChanged : Sets rule changed (some s)) (enabled : r.enabled = s.enabled)
    (options : s.options = r.options) :
    lintDocument registry ⟨config.rules.insert id changed, config.settings⟩ ⟨path, contents, []⟩ =
      (lintDocument registry config ⟨path, contents, []⟩).flagged id s.fatal := by
  have flagged := Pipeline.of_config_flagged id registry config value changed configured rule found
    r s sets setsChanged enabled options
  rw [lintDocument, lintDocument, flagged]
  cases made : Pipeline.ofConfig registry config with
  | error e => rfl
  | ok p =>
      have reported : ∀ a ∈ p.attached, a.rule.ReportsOnly := by
        intro a attached
        have known := (attached_configured registry config p made a attached).2
        exact reports a.ruleId a.rule known
      exact Pipeline.process_tree_flagged id s.fatal p reported (Markdown.parse contents)
        ⟨path, contents, []⟩

end

theorem attributed_fatal (registry : Registry) (config : LintConfig) (path : Option String)
    (file : LintFile)
    (attributed : ∀ m ∈ file.messages, ∃ r, Attributed registry config path m r) :
    file.hasFatal = true ↔
      ∃ m ∈ file.messages, ∃ r, Configured registry config m.ruleId r ∧ r.severity = .error := by
  rw [LintFile.hasFatal, List.any_eq_true]
  constructor
  · rintro ⟨m, listed, fatal⟩
    obtain ⟨r, own⟩ := attributed m listed
    exact ⟨m, listed, r, (own.configured r).mpr rfl, own.error.mp (of_decide_eq_true fatal)⟩
  · rintro ⟨m, listed, s, configured, error⟩
    obtain ⟨r, own⟩ := attributed m listed
    rw [(own.configured s).mp configured] at error
    exact ⟨m, listed, decide_eq_true (own.error.mpr error)⟩

theorem messages_attributed (rules : List Rule) (reports : Registry.ReportsOnly (.ofRules rules))
    (config : LintConfig) (path : Option String) (contents : String) :
    (∀ kept, lintDocument (.ofRules rules) config ⟨path, contents, []⟩ = .success kept →
      (∀ m ∈ kept.messages, ∃ r, Attributed (.ofRules rules) config path m r) ∧
      (kept.hasFatal = true ↔ ∃ m ∈ kept.messages, ∃ r,
        Configured (.ofRules rules) config m.ruleId r ∧ r.severity = .error)) ∧
    ∀ id value changed rule r s, config.rules.get? id = some value →
      Registry.get? (.ofRules rules) id = some rule →
      Sets rule value (some r) → Sets rule changed (some s) →
      r.enabled = true → s.enabled = true → s.options = r.options →
        lintDocument (.ofRules rules) ⟨config.rules.insert id changed, config.settings⟩
            ⟨path, contents, []⟩ =
          (lintDocument (.ofRules rules) config ⟨path, contents, []⟩).flagged id s.fatal := by
  refine ⟨?_, ?_⟩
  · intro kept passed
    have attributed := lint_document_attributed (.ofRules rules) reports config path contents kept
      passed
    exact ⟨attributed, attributed_fatal (.ofRules rules) config path kept attributed⟩
  · intro id value changed rule r s configured found sets setsChanged on onToo options
    exact lint_document_flagged (.ofRules rules) reports config path contents id value changed
      configured rule found r s sets setsChanged (on.trans onToo.symm) options

theorem builtin_reports_only : Registry.ReportsOnly .builtin := by
  intro id rule found tree context options e emitted
  have listed := Registry.get_listed Registry.builtinRules id rule found
  obtain ⟨reason, location, report, _⟩ :=
    builtin_emission_cases rule listed tree context options e emitted
  exact ⟨reason, some location, report⟩

def mildConfig : LintConfig :=
  ⟨⟨[("final-newline", .number (.whole 1)), ("first-heading-level", .string "error"),
    ("no-tabs", .bool true)], by decide⟩, []⟩

def strictConfig : LintConfig :=
  ⟨⟨[("final-newline", .number (.whole 1)), ("first-heading-level", .string "error"),
    ("no-tabs", .array [.string "error"])], by decide⟩, []⟩

def headedFile : LintFile :=
  ⟨some "a.md", "### a\tb", []⟩

theorem messages_attributed_mild :
    ∃ kept,
      lintDocument .builtin mildConfig headedFile = .success kept ∧
      kept.messages.map (fun m => (m.ruleId, m.fatal)) = [("final-newline", some false),
        ("first-heading-level", some true), ("no-tabs", some false)] ∧
      (∀ m ∈ kept.messages, ∃ r, Attributed .builtin mildConfig (some "a.md") m r) ∧
      lintDocument .builtin strictConfig headedFile =
        .success (kept.flagged "no-tabs" (some true)) := by
  have stamps := messages_attributed Registry.builtinRules builtin_reports_only mildConfig (some "a.md")
    "### a\tb"
  have found : ((lintDocument .builtin mildConfig headedFile).file?.map fun file =>
      file.messages.map fun m => (m.ruleId, m.fatal)) = some [("final-newline", some false),
        ("first-heading-level", some true), ("no-tabs", some false)] := by decide +kernel
  have strict := stamps.2 "no-tabs" (.bool true) (.array [.string "error"]) Rules.noTabs
    ⟨true, some false, none⟩ ⟨true, some true, none⟩ rfl rfl .on
    (.form _ _ (fun _ bare => by cases bare) rfl) rfl rfl rfl
  cases passed : lintDocument .builtin mildConfig headedFile with
  | configurationError e =>
      rw [passed] at found
      cases found
  | processingFailure failure =>
      rw [passed] at found
      cases found
  | overflow =>
      rw [passed] at found
      cases found
  | success kept =>
      rw [passed] at found
      refine ⟨kept, rfl, Option.some.inj found, (stamps.1 kept passed).1, ?_⟩
      exact strict.trans (congrArg (Outcome.flagged "no-tabs" (some true)) passed)

end Proofread.Lint
