import Proofread.Proofs.Attachments
import Proofread.Proofs.ByteOrder

set_option autoImplicit false

namespace Proofread.Lint

open Json (Value)

namespace Pipeline

-- In order, all that precedes an entry has a lesser id, and nothing behind it has.
theorem first_in_order (fine : String × Value → Prop) (entries : List (String × Value))
    (ordered : entries.Pairwise fun a b => a.1 < b.1) (entry : String × Value) :
    (∃ before after, entries = before ++ entry :: after ∧ ∀ b ∈ before, fine b) ↔
      entry ∈ entries ∧ ∀ other ∈ entries, other.1 < entry.1 → fine other := by
  constructor
  · rintro ⟨before, after, rfl, allFine⟩
    refine ⟨List.mem_append_right _ List.mem_cons_self, ?_⟩
    intro other listed less
    obtain ⟨_, tail, _⟩ := List.pairwise_append.mp ordered
    rcases List.mem_append.mp listed with earlier | later
    · exact allFine other earlier
    · rcases List.mem_cons.mp later with same | behind
      · rw [same] at less
        exact absurd less (String.lt_irrefl _)
      · exact absurd less (String.lt_asymm ((List.pairwise_cons.mp tail).1 other behind))
  · rintro ⟨listed, allFine⟩
    obtain ⟨before, after, rfl⟩ := List.append_of_mem listed
    refine ⟨before, after, rfl, ?_⟩
    intro b earlier
    obtain ⟨_, _, across⟩ := List.pairwise_append.mp ordered
    exact allFine b (List.mem_append_left _ earlier) (across b earlier entry List.mem_cons_self)

theorem of_config_refused (registry : Registry) (config : LintConfig) (e : LintError) :
    ofConfig registry config = .error e ↔
      ∃ entry ∈ config.rules.entries, Refused registry entry e ∧
        ∀ other ∈ config.rules.entries, other.1 < entry.1 → ∀ d, ¬ Refused registry other d := by
  have failed : ofConfig registry config = .error e ↔
      attachments registry config.rules.entries = .error e := by
    rw [of_config_attachments]
    cases attachments registry config.rules.entries <;> simp [Except.map]
  rw [failed, attachments_fail]
  simp only [ne_eq, attachment_refused registry]
  have least := first_in_order (fun other => ∀ d, ¬ Refused registry other d)
    config.rules.entries config.rules.ordered
  constructor
  · rintro ⟨before, entry, after, split, fine, refused⟩
    obtain ⟨listed, lesser⟩ := (least entry).mp ⟨before, after, split, fine⟩
    exact ⟨entry, listed, refused, lesser⟩
  · rintro ⟨entry, listed, refused, lesser⟩
    obtain ⟨before, after, split, fine⟩ := (least entry).mpr ⟨listed, lesser⟩
    exact ⟨before, entry, after, split, fine, refused⟩

theorem of_config_succeeds (registry : Registry) (config : LintConfig) :
    (∃ p, ofConfig registry config = .ok p) ↔
      ∀ entry ∈ config.rules.entries, ∀ e, ¬ Refused registry entry e := by
  simp only [← attachment_refused registry]
  rw [← attachments_succeed, of_config_attachments]
  cases attachments registry config.rules.entries <;> simp [Except.map]

theorem of_config_fails (registry : Registry) (config : LintConfig) :
    (∃ e, ofConfig registry config = .error e) ↔
      ∃ entry ∈ config.rules.entries, ∃ e, Refused registry entry e := by
  have fails : (∃ e, ofConfig registry config = .error e) ↔
      ¬ ∃ p, ofConfig registry config = .ok p := by
    cases ofConfig registry config <;> simp
  rw [fails, of_config_succeeds registry]
  simp only [not_forall, not_not, exists_prop]

theorem of_config_made (registry : Registry) (config : LintConfig) (p : Pipeline)
    (made : ofConfig registry config = .ok p) :
    p.settings = config.settings ∧ p.stripSpans = false ∧
      List.Forall₂ (Attaches registry) (config.rules.entries.filter (·.2 ≠ .bool false))
        p.attached := by
  rw [of_config_attachments] at made
  cases attached : attachments registry config.rules.entries with
  | error e =>
      rw [attached] at made
      cases made
  | ok all =>
      rw [attached] at made
      cases made
      exact ⟨rfl, rfl, attachments_follow registry config.rules.entries all attached⟩

theorem attached_ids (registry : Registry) (entries : List (String × Value))
    (all : List AttachedRule) (follow : List.Forall₂ (Attaches registry) entries all) :
    all.map (·.rule.id) = entries.map (·.1) := by
  induction follow with
  | nil => rfl
  | cons attaches _ ih => rw [List.map_cons, List.map_cons, attaches.own, ih]

theorem attached_in_order (registry : Registry) (config : LintConfig)
    (keep : String × Value → Bool) (all : List AttachedRule)
    (follow : List.Forall₂ (Attaches registry) (config.rules.entries.filter keep) all) :
    (all.map (·.rule.id)).Pairwise fun a b => Text.bytes a < Text.bytes b := by
  rw [attached_ids registry _ all follow, List.pairwise_map]
  simp only [Text.bytes_lt]
  exact List.Pairwise.sublist List.filter_sublist config.rules.ordered

end Pipeline

def Rule.withChecks (checks : Rule → Node → RuleContext → Option Value → Findings) (rule : Rule) :
    Rule :=
  { rule with check := checks rule }

namespace Pipeline

section

variable (checks : Rule → Node → RuleContext → Option Value → Findings)

def exchanged (a : AttachedRule) : AttachedRule :=
  ⟨a.rule.withChecks checks, a.ruleId, a.config⟩

theorem addition_exchanged (rule : Rule) (setting : Setting) :
    addition (rule.withChecks checks) setting =
      (addition rule setting).map (Option.map (exchanged checks)) := by
  have settled : settle (rule.withChecks checks) setting = settle rule setting := rfl
  simp only [addition, settled]
  cases settle rule setting with
  | error e => rfl
  | ok set =>
      cases set with
      | none => rfl
      | some config =>
          have validated : (rule.withChecks checks).validate = rule.validate := rfl
          simp only [validated]
          cases rule.validate config.options <;> rfl

-- Making a pipeline looks at the ids of the rules, at their standard severities and at the options
-- they accept, and never at what they check for.
theorem of_config_exchanged (rules : List Rule) (config : LintConfig) :
    ofConfig (.ofRules (rules.map (Rule.withChecks checks))) config =
      (ofConfig (.ofRules rules) config).map fun p =>
        { p with attached := p.attached.map (exchanged checks) } := by
  have same : ∀ entry,
      attachment (.ofRules (rules.map (Rule.withChecks checks))) entry =
        (attachment (.ofRules rules) entry).map (Option.map (exchanged checks)) := by
    intro entry
    rw [attachment, attachment, Registry.of_rules_map (Rule.withChecks checks) fun _ => rfl]
    cases Registry.get? (.ofRules rules) entry.1 with
    | none => rfl
    | some rule => exact addition_exchanged checks rule (.ofJson entry.2)
  have alike := attachments_alike (.ofRules rules) (.ofRules (rules.map (Rule.withChecks checks)))
    (exchanged checks) config.rules.entries config.rules.entries
    (List.forall₂_same.mpr fun entry _ => same entry)
  rw [of_config_attachments, of_config_attachments, alike]
  cases attachments (.ofRules rules) config.rules.entries <;> rfl

end

end Pipeline

theorem configured_pipeline_exact (rules : List Rule) (config : LintConfig) :
    ((∃ e, Pipeline.ofConfig (.ofRules rules) config = .error e) ↔
      ∃ entry ∈ config.rules.entries, ∃ e, Refused (.ofRules rules) entry e) ∧
    (∀ e, Pipeline.ofConfig (.ofRules rules) config = .error e ↔
      ∃ entry ∈ config.rules.entries, Refused (.ofRules rules) entry e ∧
        ∀ other ∈ config.rules.entries, Text.bytes other.1 < Text.bytes entry.1 →
          ∀ d, ¬ Refused (.ofRules rules) other d) ∧
    (∀ e, Pipeline.ofConfig (.ofRules rules) config = .error e →
      e.isConfiguration = true ∧ ∀ file,
        lintDocument (.ofRules rules) config file = .configurationError e ∧
        ∀ checks, lintDocument (.ofRules (rules.map (Rule.withChecks checks))) config file =
          .configurationError e) ∧
    ((∀ entry ∈ config.rules.entries, ∀ e, ¬ Refused (.ofRules rules) entry e) →
      ∃ p, Pipeline.ofConfig (.ofRules rules) config = .ok p ∧
        p.settings = config.settings ∧ p.stripSpans = false ∧
        List.Forall₂ (Attaches (.ofRules rules)) (config.rules.entries.filter (·.2 ≠ .bool false))
          p.attached ∧
        (p.attached.map (·.rule.id)).Pairwise fun a b => Text.bytes a < Text.bytes b) ∧
    (∀ id, (id, .bool false) ∈ config.rules.entries → Registry.get? (.ofRules rules) id = none →
      ∃ e, Pipeline.ofConfig (.ofRules rules) config = .error e) ∧
    (∀ id value rule off detail, (id, value) ∈ config.rules.entries →
      Registry.get? (.ofRules rules) id = some rule → Sets rule value (some off) →
      off.enabled = false → rule.validate off.options = .error detail →
        ∃ e, Pipeline.ofConfig (.ofRules rules) config = .error e) := by
  have fails := Pipeline.of_config_fails (.ofRules rules) config
  refine ⟨fails, ?_, ?_, ?_, ?_, ?_⟩
  · simp only [Text.bytes_lt]
    exact Pipeline.of_config_refused (.ofRules rules) config
  · intro e failed
    obtain ⟨entry, _, refused, _⟩ :=
      (Pipeline.of_config_refused (.ofRules rules) config e).mp failed
    refine ⟨refused_is_configuration _ entry e refused, fun file => ⟨?_, ?_⟩⟩
    · rw [lintDocument, failed]
    · intro checks
      rw [lintDocument, Pipeline.of_config_exchanged, failed]
      rfl
  · intro unrefused
    obtain ⟨p, made⟩ := (Pipeline.of_config_succeeds (.ofRules rules) config).mpr unrefused
    obtain ⟨settings, spans, follow⟩ := Pipeline.of_config_made (.ofRules rules) config p made
    exact ⟨p, made, settings, spans, follow,
      Pipeline.attached_in_order _ config _ p.attached follow⟩
  · intro id listed missing
    exact fails.mpr ⟨_, listed, _, .unregistered id _ missing⟩
  · intro id value rule off detail listed found sets _ rejected
    exact fails.mpr ⟨_, listed, _, .options id value rule off detail found sets rejected⟩

def refusedConfig : LintConfig :=
  ⟨⟨[("first-heading-level", .array [.number (.whole 0), .number (.whole 9)]),
    ("missing-rule", .bool false)], by decide⟩, []⟩

def mixedConfig : LintConfig :=
  ⟨⟨[("final-newline", .bool false),
    ("first-heading-level", .array [.number (.whole 0), .number (.whole 2)]),
    ("no-tabs", .bool true)], by decide⟩, [("wide", .bool true)]⟩

theorem configured_pipeline_exact_mixed :
    (∀ file, lintDocument .builtin refusedConfig file = .configurationError
      (.invalidOptions "first-heading-level"
        "expected a heading depth between 1 and 6, not `9`")) ∧
    ∃ p, Pipeline.ofConfig .builtin mixedConfig = .ok p ∧ p.settings = [("wide", .bool true)] ∧
      List.Forall₂ (Attaches .builtin) (mixedConfig.rules.entries.drop 1) p.attached := by
  refine ⟨?_, ?_⟩
  · intro file
    have settled := configured_pipeline_exact Registry.builtinRules refusedConfig
    have refused : Refused (.ofRules Registry.builtinRules)
        ("first-heading-level", .array [.number (.whole 0), .number (.whole 9)])
        (.invalidOptions "first-heading-level"
          "expected a heading depth between 1 and 6, not `9`") :=
      .options _ _ Rules.firstHeadingLevel ⟨false, none, some (.number (.whole 9))⟩ _ rfl
        (.form _ _ (fun _ bare => by cases bare) rfl) rfl
    have failed := (settled.2.1 _).mpr ⟨_, List.mem_cons_self, refused, fun other listed less => by
      rw [Text.bytes_lt] at less
      rcases List.mem_cons.mp listed with same | later
      · rw [same] at less
        exact absurd less (String.lt_irrefl _)
      · rw [List.mem_singleton.mp later] at less
        exact absurd less (by decide)⟩
    exact ((settled.2.2.1 _ failed).2 file).1
  · have settled := configured_pipeline_exact Registry.builtinRules mixedConfig
    have made : ∃ p, Pipeline.ofConfig (.ofRules Registry.builtinRules) mixedConfig = .ok p :=
      ⟨_, rfl⟩
    have unrefused : ∀ entry ∈ mixedConfig.rules.entries, ∀ e,
        ¬ Refused (.ofRules Registry.builtinRules) entry e := by
      intro entry listed e refused
      obtain ⟨d, failed⟩ := settled.1.mpr ⟨entry, listed, e, refused⟩
      obtain ⟨p, success⟩ := made
      rw [failed] at success
      cases success
    obtain ⟨p, success, settings, _, follow, _⟩ := settled.2.2.2.1 unrefused
    exact ⟨p, success, settings, follow⟩

end Proofread.Lint
