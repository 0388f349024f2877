import Proofread.Lint.Config
import Proofread.Proofs.Assembly
import Proofread.Proofs.SettingForms
import Proofread.Proofs.Stopping

set_option autoImplicit false

namespace Proofread.Lint

open Json (Value)

-- What a value sets a rule to. A bare flag is about the rule as a whole, and false sets nothing.
inductive Sets (rule : Rule) : Value → Option Resolved → Prop where
  | off : Sets rule (.bool false) none
  | on : Sets rule (.bool true) (some (.ofSeverity rule.defaultSeverity none))
  | form (value : Value) (config : Resolved) (shaped : ∀ on, value ≠ .bool on)
      (resolved : resolve rule.id (.ofJson value) = .ok config) : Sets rule value (some config)

inductive Refused (registry : Registry) : String × Value → LintError → Prop where
  | unregistered (id : String) (value : Value) (missing : registry.get? id = none) :
      Refused registry (id, value) (.unknownRule id)
  | severity (id : String) (value : Value) (rule : Rule) (text : String)
      (found : registry.get? id = some rule)
      (invalid : resolve id (.ofJson value) = .error (.invalidSeverity id text)) :
      Refused registry (id, value) (.invalidSeverity id text)
  | options (id : String) (value : Value) (rule : Rule) (config : Resolved) (detail : String)
      (found : registry.get? id = some rule) (sets : Sets rule value (some config))
      (rejected : rule.validate config.options = .error detail) :
      Refused registry (id, value) (.invalidOptions id detail)

structure Attaches (registry : Registry) (entry : String × Value) (a : AttachedRule) : Prop where
  found : registry.get? entry.1 = some a.rule
  own : a.rule.id = entry.1
  named : a.ruleId = a.rule.id
  sets : Sets a.rule entry.2 (some a.config)
  accepted : a.rule.validate a.config.options = .ok ()

theorem refused_is_configuration (registry : Registry) (entry : String × Value) (e : LintError)
    (refused : Refused registry entry e) : e.isConfiguration = true := by
  cases refused <;> rfl

namespace Pipeline

theorem of_json_flag (value : Value) (on : Bool) :
    Setting.ofJson value = .flag on ↔ value = .bool on := by
  constructor
  · intro flag
    rcases value_shape value with rfl | only | scalar | ⟨x, tail, scalar, rfl⟩
    · cases flag
    · rw [options_setting value only] at flag
      cases flag
    · cases value with
      | null => cases scalar
      | array items => cases scalar
      | object fields => cases scalar
      | bool given =>
          cases flag
          rfl
      | string word => cases flag
      | number n =>
          simp only [Setting.ofJson, Setting.ofScalar?] at flag
          cases size : n.signed? <;> simp [size] at flag
    · rw [Setting.ofJson, scalar_setting x scalar] at flag
      cases flag
  · rintro rfl
    rfl

theorem settle_sets (rule : Rule) (value : Value) (set : Option Resolved) :
    settle rule (.ofJson value) = .ok set ↔ Sets rule value set := by
  cases set with
  | none =>
      rw [settle_skips, of_json_flag]
      constructor
      · rintro rfl
        exact .off
      · intro sets
        cases sets with
        | off => rfl
  | some config =>
      rw [settle_configures]
      constructor
      · intro configures
        generalize given : Setting.ofJson value = setting at configures
        cases configures with
        | standard =>
            rw [(of_json_flag value true).mp given]
            exact .on
        | resolved _ _ shaped resolves =>
            have unflagged : ∀ on, value ≠ .bool on :=
              fun on bare => shaped on (given.symm.trans ((of_json_flag value on).mpr bare))
            exact .form value config unflagged (given ▸ resolves)
      · intro sets
        cases sets with
        | on => exact .standard
        | form _ _ shaped resolved =>
            refine .resolved _ config (fun on flag => ?_) resolved
            exact shaped on ((of_json_flag value on).mp flag)

def addition (rule : Rule) (setting : Setting) : Except LintError (Option AttachedRule) :=
  match settle rule setting with
  | .error e => .error e
  | .ok none => .ok none
  | .ok (some config) =>
      match rule.validate config.options with
      | .error detail => .error (.invalidOptions rule.id detail)
      | .ok () => .ok (some ⟨rule, rule.id, config⟩)

theorem attach_adds (p : Pipeline) (rule : Rule) (setting : Setting) :
    p.attach rule setting = (addition rule setting).map fun added =>
      { p with attached := p.attached ++ added.toList } := by
  rw [attach, addition]
  cases settle rule setting with
  | error e => rfl
  | ok set =>
      cases set with
      | none => simp [Except.map]
      | some config =>
          simp only
          cases rule.validate config.options <;> rfl

def attachment (registry : Registry) (entry : String × Value) :
    Except LintError (Option AttachedRule) :=
  match registry.get? entry.1 with
  | none => .error (.unknownRule entry.1)
  | some rule => addition rule (.ofJson entry.2)

def attachments (registry : Registry) :
    List (String × Value) → Except LintError (List AttachedRule)
  | [] => .ok []
  | entry :: rest =>
      match attachment registry entry with
      | .error e => .error e
      | .ok added => (attachments registry rest).map (added.toList ++ ·)

theorem attach_all_adds (registry : Registry) (entries : List (String × Value)) (p : Pipeline) :
    attachAll registry p entries = (attachments registry entries).map fun added =>
      { p with attached := p.attached ++ added } := by
  induction entries generalizing p with
  | nil => simp [attachAll, attachments, Except.map]
  | cons entry rest ih =>
      obtain ⟨id, value⟩ := entry
      simp only [attachAll, attachments, attachment]
      cases registry.get? id with
      | none => rfl
      | some rule =>
          simp only [attach_adds]
          cases addition rule (.ofJson value) with
          | error e => rfl
          | ok added =>
              simp only [Except.map, ih]
              cases attachments registry rest with
              | error e => rfl
              | ok others => simp only [List.append_assoc]

theorem of_config_attachments (registry : Registry) (config : LintConfig) :
    ofConfig registry config = (attachments registry config.rules.entries).map fun all =>
      ⟨all, config.settings, false⟩ :=
  attach_all_adds registry config.rules.entries _

theorem addition_attaches (rule : Rule) (value : Value) (a : AttachedRule) :
    addition rule (.ofJson value) = .ok (some a) ↔
      a.rule = rule ∧ a.ruleId = rule.id ∧ Sets rule value (some a.config) ∧
        rule.validate a.config.options = .ok () := by
  obtain ⟨own, id, config⟩ := a
  rw [addition, ← settle_sets]
  cases settle rule (.ofJson value) with
  | error e => simp
  | ok set =>
      cases set with
      | none => simp
      | some given =>
          simp only [Except.ok.injEq, Option.some.injEq]
          cases checked : rule.validate given.options with
          | error detail =>
              simp only [reduceCtorEq, false_iff]
              rintro ⟨_, _, rfl, accepted⟩
              rw [checked] at accepted
              cases accepted
          | ok _ =>
              simp only [Except.ok.injEq, Option.some.injEq, AttachedRule.mk.injEq]
              constructor
              · rintro ⟨rfl, rfl, rfl⟩
                exact ⟨rfl, rfl, rfl, checked⟩
              · rintro ⟨rfl, rfl, rfl, _⟩
                exact ⟨rfl, rfl, rfl⟩

theorem addition_passes (rule : Rule) (value : Value) :
    addition rule (.ofJson value) = .ok none ↔ value = .bool false := by
  have settled : addition rule (.ofJson value) = .ok none ↔
      settle rule (.ofJson value) = .ok none := by
    rw [addition]
    cases settle rule (.ofJson value) with
    | error e => simp
    | ok set =>
        cases set with
        | none => simp
        | some config => cases checked : rule.validate config.options <;> simp [checked]
  rw [settled, settle_sets]
  constructor
  · intro sets
    cases sets
    rfl
  · rintro rfl
    exact .off

theorem addition_refuses (rule : Rule) (value : Value) (e : LintError) :
    addition rule (.ofJson value) = .error e ↔
      resolve rule.id (.ofJson value) = .error e ∨
        ∃ config detail, Sets rule value (some config) ∧
          rule.validate config.options = .error detail ∧ e = .invalidOptions rule.id detail := by
  simp only [addition, ← settle_fails, ← settle_sets]
  cases settle rule (.ofJson value) with
  | error d => simp
  | ok set =>
      cases set with
      | none => simp
      | some config =>
          simp only [reduceCtorEq, false_or, Except.ok.injEq, Option.some.injEq, exists_and_left,
            exists_eq_left']
          cases checked : rule.validate config.options with
          | error detail => simp [eq_comm]
          | ok _ => simp

theorem attachment_skips (registry : Registry) (entry : String × Value)
    (skipped : attachment registry entry = .ok none) : entry.2 = .bool false := by
  rw [attachment] at skipped
  cases found : registry.get? entry.1 with
  | none =>
      rw [found] at skipped
      cases skipped
  | some rule =>
      rw [found] at skipped
      exact (addition_passes rule entry.2).mp skipped

theorem attachment_attaches (registry : Registry) (entry : String × Value) (a : AttachedRule) :
    attachment registry entry = .ok (some a) ↔ Attaches registry entry a := by
  obtain ⟨id, value⟩ := entry
  rw [attachment]
  cases found : registry.get? id with
  | none =>
      constructor
      · intro attached
        cases attached
      · rintro ⟨known, _⟩
        rw [found] at known
        cases known
  | some rule =>
      simp only
      rw [addition_attaches]
      constructor
      · rintro ⟨rfl, named, sets, accepted⟩
        exact ⟨found, registry.keyed id a.rule found, named, sets, accepted⟩
      · rintro ⟨known, _, named, sets, accepted⟩
        have same : a.rule = rule := Option.some.inj (known.symm.trans found)
        rw [same] at named sets accepted
        exact ⟨same, named, sets, accepted⟩

theorem attachment_refused (registry : Registry) (entry : String × Value) (e : LintError) :
    attachment registry entry = .error e ↔ Refused registry entry e := by
  obtain ⟨id, value⟩ := entry
  rw [attachment]
  cases found : registry.get? id with
  | none =>
      constructor
      · intro failed
        cases failed
        exact .unregistered id value found
      · intro refused
        cases refused with
        | unregistered _ _ _ => rfl
        | severity _ _ rule _ known _ =>
            rw [found] at known
            cases known
        | options _ _ rule _ _ known _ _ =>
            rw [found] at known
            cases known
  | some rule =>
      have own := registry.keyed id rule found
      simp only
      rw [addition_refuses, own]
      constructor
      · rintro (invalid | ⟨config, detail, sets, rejected, rfl⟩)
        · obtain ⟨x, text, _, _, rfl⟩ := (setting_refused id value e).mp invalid
          exact .severity id value rule text found invalid
        · exact .options id value rule config detail found sets rejected
      · intro refused
        cases refused with
        | unregistered _ _ missing =>
            rw [found] at missing
            cases missing
        | severity _ _ _ text _ invalid => exact Or.inl invalid
        | options _ _ other config detail known sets rejected =>
            have same : rule = other := Option.some.inj (found.symm.trans known)
            subst same
            exact Or.inr ⟨config, detail, sets, rejected, rfl⟩

theorem attachments_gathered (registry : Registry) (entries : List (String × Value)) :
    attachments registry entries =
      gathered (fun entry => (attachment registry entry).map Option.toList) entries := by
  induction entries with
  | nil => rfl
  | cons entry rest ih =>
      rw [attachments, gathered_cons, ih]
      cases attachment registry entry <;> rfl

theorem attachment_passes (registry : Registry) (entry : String × Value) :
    (∃ part, (attachment registry entry).map Option.toList = .ok part) ↔
      ∀ e, attachment registry entry ≠ .error e := by
  cases attachment registry entry <;> simp [Except.map]

-- The first entry that is refused ends the making of a pipeline.
theorem attachments_fail (registry : Registry) (entries : List (String × Value)) (e : LintError) :
    attachments registry entries = .error e ↔
      ∃ before entry after, entries = before ++ entry :: after ∧
        (∀ b ∈ before, ∀ d, attachment registry b ≠ .error d) ∧
        attachment registry entry = .error e := by
  have failed : ∀ entry, (attachment registry entry).map Option.toList = .error e ↔
      attachment registry entry = .error e := by
    intro entry
    cases attachment registry entry <;> simp [Except.map]
  rw [attachments_gathered, gathered_stops]
  simp only [attachment_passes, failed]

theorem attachments_succeed (registry : Registry) (entries : List (String × Value)) :
    (∃ all, attachments registry entries = .ok all) ↔
      ∀ entry ∈ entries, ∀ e, attachment registry entry ≠ .error e := by
  rw [attachments_gathered, gathered_total]
  simp only [attachment_passes]

theorem attachments_follow (registry : Registry) (entries : List (String × Value))
    (all : List AttachedRule) (attached : attachments registry entries = .ok all) :
    List.Forall₂ (Attaches registry) (entries.filter (·.2 ≠ .bool false)) all := by
  induction entries generalizing all with
  | nil =>
      cases attached
      exact .nil
  | cons head rest ih =>
      rw [attachments] at attached
      cases added : attachment registry head with
      | error d =>
          rw [added] at attached
          cases attached
      | ok own =>
          rw [added] at attached
          cases others : attachments registry rest with
          | error d =>
              rw [others] at attached
              cases attached
          | ok behind =>
              rw [others] at attached
              cases attached
              cases own with
              | none =>
                  have off := attachment_skips registry head added
                  rw [List.filter_cons_of_neg (by simp [off])]
                  exact ih behind others
              | some a =>
                  have attaches := (attachment_attaches registry head a).mp added
                  have on : head.2 ≠ .bool false := by
                    intro off
                    have sets := attaches.sets
                    rw [off] at sets
                    cases sets with
                    | form _ _ shaped _ => exact shaped false rfl
                  rw [List.filter_cons_of_pos (by simp [on])]
                  exact .cons attaches (ih behind others)

theorem attachments_alike (registry other : Registry) (change : AttachedRule → AttachedRule)
    (entries changed : List (String × Value))
    (alike : List.Forall₂ (fun entry new =>
      attachment other new = (attachment registry entry).map (Option.map change)) entries changed) :
    attachments other changed = (attachments registry entries).map (List.map change) := by
  induction alike with
  | nil => rfl
  | @cons entry new entries changed same _ ih =>
      rw [attachments, attachments, same, ih]
      cases attachment registry entry with
      | error e => rfl
      | ok added =>
          cases attachments registry entries with
          | error e => rfl
          | ok others => cases added <;> rfl

end Pipeline

end Proofread.Lint
