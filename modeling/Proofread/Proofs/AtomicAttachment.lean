import Proofread.Lint.Registry
import Proofread.Proofs.Assembly
import Proofread.Proofs.SettingForms

set_option autoImplicit false

namespace Proofread.Lint

-- The setting that nested lists are built around.
def Setting.innermost : Setting → Setting
  | .withOptions severity _ => severity.innermost
  | setting => setting

theorem innermost_plain (setting inner : Setting) (options : Option Json.Value) :
    setting.innermost ≠ .withOptions inner options := by
  induction setting with
  | withOptions severity _ ih => exact ih
  | absent => exact Setting.noConfusion
  | flag on => exact Setting.noConfusion
  | level n => exact Setting.noConfusion
  | keyword word => exact Setting.noConfusion
  | number literal => exact Setting.noConfusion
  | options value => exact Setting.noConfusion

theorem resolve_nested (id : String) (severity : Setting) (options : Option Json.Value) :
    resolve id (.withOptions severity options) =
      (resolve id severity.innermost).map fun r => { r with options := options } := by
  have outer : ∀ inner, resolve id (.withOptions inner options) =
      (resolve id inner).map fun r => { r with options := options } := by
    intro inner
    rw [resolve]
    cases resolve id inner <;> rfl
  rw [outer]
  induction severity with
  | withOptions inner between ih =>
      rw [Setting.innermost, ← ih, resolve]
      cases resolve id inner <;> rfl
  | absent => rfl
  | flag on => rfl
  | level n => rfl
  | keyword word => rfl
  | number literal => rfl
  | options value => rfl

theorem configures_normal (rule : Rule) (setting : Setting) (config : Resolved)
    (configures : Configures rule setting config) : config.Normal := by
  cases configures with
  | standard => exact Resolved.of_severity_normal rule.defaultSeverity none
  | resolved _ _ _ resolves => exact resolve_normal rule.id setting config resolves

namespace Pipeline

abbrev InPlace := ExceptT LintError (StateM Pipeline)

def adding (rule : Rule) (config : Resolved) : InPlace Unit := do
  ofExcept ((rule.validate config.options).mapError (LintError.invalidOptions rule.id))
  modify fun p => { p with attached := p.attached ++ [⟨rule, rule.id, config⟩] }

def attaching (rule : Rule) (setting : Setting) : InPlace Unit := do
  match ← ofExcept (settle rule setting) with
  | none => return
  | some config => adding rule config

def Call.perform : Call → InPlace Unit
  | .attach rule setting => attaching rule setting
  | .withSettings settings => modify fun p => p.withSettings settings
  | .withoutSpans => modify fun p => p.withoutSpans

-- What a call answers, and what it leaves of a pipeline.
def performed (call : Call) (p : Pipeline) : Except LintError Unit × Pipeline :=
  (call.perform.run.run p).run

def leftBy (calls : List Call) : Pipeline :=
  calls.foldl (fun p call => (performed call p).2) empty

theorem performed_attach (rule : Rule) (setting : Setting) (p : Pipeline) :
    performed (.attach rule setting) p =
      match p.attach rule setting with
      | .ok next => (.ok (), next)
      | .error e => (.error e, p) := by
  rw [attach]
  simp only [performed, Call.perform, attaching]
  cases settle rule setting with
  | error e => rfl
  | ok set =>
      cases set with
      | none => rfl
      | some config =>
          simp only
          change ((adding rule config).run.run p).run = _
          rw [adding]
          cases rule.validate config.options <;> rfl

theorem left_by_builds (calls : List Call) : leftBy calls = build calls := by
  have step : (fun p call => (performed call p).2) = after := by
    funext p call
    cases call with
    | withSettings settings => rfl
    | withoutSpans => rfl
    | attach rule setting =>
        rw [performed_attach, after]
        cases p.attach rule setting <;> rfl
  rw [leftBy, build, step]

-- How an attachment ends: the rule is not wanted, or its entry is added behind the others, or an
-- error is answered and nothing is changed.
theorem attach_succeeds (rule : Rule) (setting : Setting) (p next : Pipeline) :
    performed (.attach rule setting) p = (.ok (), next) ↔
      (setting = .flag false ∧ next = p) ∨
        ∃ config, Configures rule setting config ∧ rule.validate config.options = .ok () ∧
          next = { p with attached := p.attached ++ [⟨rule, rule.id, config⟩] } := by
  have succeeds : performed (.attach rule setting) p = (.ok (), next) ↔
      p.attach rule setting = .ok next := by
    rw [performed_attach]
    cases p.attach rule setting <;> simp
  rw [succeeds]
  constructor
  · intro attached
    rcases attach_cases p next rule setting attached with
      ⟨skipped, same⟩ | ⟨config, settled, accepted, added⟩
    · exact Or.inl ⟨(settle_skips rule setting).mp skipped, same⟩
    · exact Or.inr ⟨config, (settle_configures rule setting config).mp settled, accepted, added⟩
  · rintro (⟨rfl, rfl⟩ | ⟨config, configures, accepted, rfl⟩)
    · rfl
    · have settled := (settle_configures rule setting config).mpr configures
      simp only [attach, settled, accepted]

theorem attach_fails (rule : Rule) (setting : Setting) (p left : Pipeline) (e : LintError) :
    performed (.attach rule setting) p = (.error e, left) ↔
      left = p ∧ (resolve rule.id setting = .error e ∨
        ∃ config detail, Configures rule setting config ∧
          rule.validate config.options = .error detail ∧ e = .invalidOptions rule.id detail) := by
  have fails : performed (.attach rule setting) p = (.error e, left) ↔
      left = p ∧ p.attach rule setting = .error e := by
    rw [performed_attach]
    cases p.attach rule setting <;> simp [and_comm, eq_comm]
  rw [fails, ← settle_fails]
  simp only [← settle_configures, attach]
  cases settle rule setting with
  | error d => simp
  | ok set =>
      cases set with
      | none => simp
      | some config =>
          simp only [reduceCtorEq, false_or, Except.ok.injEq, Option.some.injEq, exists_and_left,
            exists_eq_left']
          cases rule.validate config.options <;> simp [eq_comm]

structure Sound (calls : List Call) (a : AttachedRule) : Prop where
  named : a.ruleId = a.rule.id
  asked : ∃ setting, .attach a.rule setting ∈ calls ∧ Configures a.rule setting a.config
  enabled : a.config.enabled = true ↔ a.config.fatal.isSome = true
  accepted : a.rule.validate a.config.options = .ok ()

theorem performed_sound (calls : List Call) (p : Pipeline) (call : Call) (listed : call ∈ calls)
    (sound : ∀ a ∈ p.attached, Sound calls a) :
    ∀ a ∈ (performed call p).2.attached, Sound calls a := by
  cases call with
  | withSettings settings => exact sound
  | withoutSpans => exact sound
  | attach rule setting =>
      cases ended : performed (.attach rule setting) p with
      | mk answer left =>
          cases answer with
          | error e =>
              rw [((attach_fails rule setting p left e).mp ended).1]
              exact sound
          | ok _ =>
              rcases (attach_succeeds rule setting p left).mp ended with
                ⟨_, rfl⟩ | ⟨config, configures, accepted, rfl⟩
              · exact sound
              · have normal := configures_normal rule setting config configures
                intro a member
                rcases List.mem_append.mp member with earlier | last
                · exact sound a earlier
                · rw [List.mem_singleton.mp last]
                  exact ⟨rfl, ⟨setting, listed, configures⟩, normal.enabled, accepted⟩

theorem run_sound (all calls : List Call) (within : ∀ call ∈ calls, call ∈ all) (p : Pipeline)
    (sound : ∀ a ∈ p.attached, Sound all a) :
    ∀ a ∈ (calls.foldl (fun p call => (performed call p).2) p).attached, Sound all a := by
  induction calls generalizing p with
  | nil => exact sound
  | cons call rest ih =>
      obtain ⟨first, others⟩ := List.forall_mem_cons.mp within
      exact ih others _ (performed_sound all p call first sound)

theorem left_by_sound (calls : List Call) : ∀ a ∈ (leftBy calls).attached, Sound calls a :=
  run_sound calls calls (fun _ listed => listed) empty fun _ listed =>
    absurd listed List.not_mem_nil

theorem attachments_atomic (calls : List Call) :
    leftBy calls = build calls ∧
    (∀ a ∈ (leftBy calls).attached, Sound calls a) ∧
    (∀ rule setting e left, performed (.attach rule setting) (leftBy calls) = (.error e, left) ↔
      left = leftBy calls ∧ (resolve rule.id setting = .error e ∨
        ∃ config detail, Configures rule setting config ∧
          rule.validate config.options = .error detail ∧ e = .invalidOptions rule.id detail)) ∧
    (∀ rule setting next, performed (.attach rule setting) (leftBy calls) = (.ok (), next) ↔
      (setting = .flag false ∧ next = leftBy calls) ∨
        ∃ config, Configures rule setting config ∧ rule.validate config.options = .ok () ∧
          next = { leftBy calls with
            attached := (leftBy calls).attached ++ [⟨rule, rule.id, config⟩] }) ∧
    (∀ rule setting config, (∀ on, setting ≠ .flag on) →
      (Configures rule setting config ↔ resolve rule.id setting = .ok config)) ∧
    (∀ id severity options, resolve id (.withOptions severity options) =
      (resolve id severity.innermost).map fun r => { r with options := options }) ∧
    ∀ setting inner options, Setting.innermost setting ≠ .withOptions inner options := by
  refine ⟨left_by_builds calls, left_by_sound calls, ?_, ?_, ?_, resolve_nested, innermost_plain⟩
  · intro rule setting e left
    exact attach_fails rule setting (leftBy calls) left e
  · intro rule setting next
    exact attach_succeeds rule setting (leftBy calls) next
  · intro rule setting config shaped
    constructor
    · intro configures
      cases configures with
      | standard => exact absurd rfl (shaped true)
      | resolved _ _ _ resolves => exact resolves
    · exact .resolved setting config shaped

def nestedCalls : List Call :=
  [.attach Rules.firstHeadingLevel
      (.withOptions (.withOptions (.keyword "error") (some (.number (.whole 9))))
        (some (.number (.whole 2)))),
    .attach Rules.noTabs (.flag false), .withSettings [("wide", .bool true)],
    .attach Rules.noTabs .absent]

theorem attachments_atomic_nested :
    (leftBy nestedCalls).attached.map (·.config) =
      [⟨true, some true, some (.number (.whole 2))⟩, ⟨false, none, none⟩] ∧
    (∀ a ∈ (leftBy nestedCalls).attached, a.ruleId = a.rule.id ∧
      a.rule.validate a.config.options = .ok ()) ∧
    performed (.attach Rules.headingIncrement (.withOptions (.withOptions (.level 3) none) none))
        (leftBy nestedCalls) =
      (.error (.invalidSeverity "heading-increment" "3"), leftBy nestedCalls) ∧
    performed (.attach Rules.headingIncrement (.withOptions (.withOptions (.level 1) none) none))
        (leftBy nestedCalls) =
      (.ok (), { leftBy nestedCalls with
        attached := (leftBy nestedCalls).attached ++
          [⟨Rules.headingIncrement, "heading-increment", ⟨true, some false, none⟩⟩] }) := by
  obtain ⟨_, sound, fails, succeeds, resolved, nested, _⟩ := attachments_atomic nestedCalls
  refine ⟨rfl, fun a listed => ⟨(sound a listed).named, (sound a listed).accepted⟩, ?_, ?_⟩
  · refine (fails Rules.headingIncrement _ _ _).mpr ⟨rfl, Or.inl ?_⟩
    rw [nested]
    rfl
  · refine (succeeds Rules.headingIncrement _ _).mpr (Or.inr ⟨_, ?_, rfl, rfl⟩)
    refine (resolved _ _ _ fun _ => Setting.noConfusion).mpr ?_
    rw [nested]
    rfl

end Pipeline

end Proofread.Lint
