import Proofread.Lint.Pipeline

set_option autoImplicit false

namespace Proofread.Lint

inductive Configures (rule : Rule) : Setting → Resolved → Prop where
  | standard : Configures rule (.flag true) (.ofSeverity rule.defaultSeverity none)
  | resolved (setting : Setting) (config : Resolved) (shaped : ∀ on, setting ≠ .flag on)
      (resolves : resolve rule.id setting = .ok config) : Configures rule setting config

namespace Pipeline

theorem settle_flags (rule : Rule) (setting : Setting) :
    (∃ on, setting = .flag on) ∨
      (∀ on, setting ≠ .flag on) ∧ settle rule setting = (resolve rule.id setting).map some := by
  cases setting with
  | flag on => exact Or.inl ⟨on, rfl⟩
  | absent => exact Or.inr ⟨fun _ => Setting.noConfusion, rfl⟩
  | level n => exact Or.inr ⟨fun _ => Setting.noConfusion, rfl⟩
  | keyword word => exact Or.inr ⟨fun _ => Setting.noConfusion, rfl⟩
  | number literal => exact Or.inr ⟨fun _ => Setting.noConfusion, rfl⟩
  | withOptions severity options => exact Or.inr ⟨fun _ => Setting.noConfusion, rfl⟩
  | options value => exact Or.inr ⟨fun _ => Setting.noConfusion, rfl⟩

theorem settle_skips (rule : Rule) (setting : Setting) :
    settle rule setting = .ok none ↔ setting = .flag false := by
  rcases settle_flags rule setting with ⟨on, rfl⟩ | ⟨shaped, settled⟩
  · cases on <;> simp [settle]
  · rw [settled]
    cases resolve rule.id setting <;> simp [Except.map, shaped false]

theorem settle_configures (rule : Rule) (setting : Setting) (config : Resolved) :
    settle rule setting = .ok (some config) ↔ Configures rule setting config := by
  rcases settle_flags rule setting with ⟨on, rfl⟩ | ⟨shaped, settled⟩
  · constructor
    · intro standard
      cases on with
      | false => cases standard
      | true =>
          cases standard
          exact .standard
    · intro configures
      cases configures with
      | standard => rfl
      | resolved _ _ shaped _ => exact absurd rfl (shaped on)
  · have resolves : settle rule setting = .ok (some config) ↔
        resolve rule.id setting = .ok config := by
      rw [settled]
      cases resolve rule.id setting <;> simp [Except.map]
    rw [resolves]
    constructor
    · exact .resolved setting config shaped
    · intro configures
      cases configures with
      | standard => exact absurd rfl (shaped true)
      | resolved _ _ _ resolved => exact resolved

theorem settle_fails (rule : Rule) (setting : Setting) (e : LintError) :
    settle rule setting = .error e ↔ resolve rule.id setting = .error e := by
  rcases settle_flags rule setting with ⟨on, rfl⟩ | ⟨_, settled⟩
  · cases on <;> simp [settle, resolve]
  · rw [settled]
    cases resolve rule.id setting <;> simp [Except.map]

inductive Call where
  | attach (rule : Rule) (setting : Setting)
  | withSettings (settings : Settings)
  | withoutSpans

def after (p : Pipeline) : Call → Pipeline
  | .attach rule setting =>
      match p.attach rule setting with
      | .ok next => next
      | .error _ => p
  | .withSettings settings => p.withSettings settings
  | .withoutSpans => p.withoutSpans

def build (calls : List Call) : Pipeline :=
  calls.foldl after empty

def Call.Within (stock : List Rule) : Call → Prop
  | .attach rule _ => rule ∈ stock
  | _ => True

structure Stocked (stock : List Rule) (a : AttachedRule) : Prop where
  known : a.rule ∈ stock
  named : a.ruleId = a.rule.id
  accepted : a.rule.validate a.config.options = .ok ()

def Validated (stock : List Rule) (p : Pipeline) : Prop :=
  ∀ a ∈ p.attached, Stocked stock a

-- All that a successful attachment can do: nothing, or one entry at the end whose options the rule
-- accepts.
theorem attach_cases (p next : Pipeline) (rule : Rule) (setting : Setting)
    (attached : p.attach rule setting = .ok next) :
    (settle rule setting = .ok none ∧ next = p) ∨
      ∃ config, settle rule setting = .ok (some config) ∧
        rule.validate config.options = .ok () ∧
        next = { p with attached := p.attached ++ [⟨rule, rule.id, config⟩] } := by
  rw [attach] at attached
  cases settled : settle rule setting with
  | error e =>
      rw [settled] at attached
      cases attached
  | ok settlement =>
      rw [settled] at attached
      cases settlement with
      | none =>
          cases attached
          exact Or.inl ⟨rfl, rfl⟩
      | some config =>
          refine Or.inr ⟨config, rfl, ?_⟩
          cases checked : rule.validate config.options with
          | error detail =>
              simp only [checked, reduceCtorEq] at attached
          | ok _ =>
              simp only [checked, Except.ok.injEq] at attached
              exact ⟨rfl, attached.symm⟩

theorem after_validated (stock : List Rule) (p : Pipeline) (call : Call)
    (within : call.Within stock) (validated : p.Validated stock) :
    (p.after call).Validated stock := by
  cases call with
  | withSettings settings => exact validated
  | withoutSpans => exact validated
  | attach rule setting =>
      rw [after]
      cases attached : p.attach rule setting with
      | error e => exact validated
      | ok next =>
          rcases attach_cases p next rule setting attached with
            ⟨_, rfl⟩ | ⟨config, _, accepted, rfl⟩
          · exact validated
          · intro a listed
            rcases List.mem_append.mp listed with earlier | last
            · exact validated a earlier
            · rw [List.mem_singleton.mp last]
              exact ⟨within, rfl, accepted⟩

theorem run_validated (stock : List Rule) (calls : List Call)
    (within : ∀ call ∈ calls, call.Within stock) (p : Pipeline) (validated : p.Validated stock) :
    (calls.foldl after p).Validated stock := by
  induction calls generalizing p with
  | nil => exact validated
  | cons call rest ih =>
      obtain ⟨first, others⟩ := List.forall_mem_cons.mp within
      exact ih others (p.after call) (after_validated stock p call first validated)

theorem build_validated (stock : List Rule) (calls : List Call)
    (within : ∀ call ∈ calls, call.Within stock) : (build calls).Validated stock :=
  run_validated stock calls within empty fun _ listed => absurd listed List.not_mem_nil

theorem after_strips (p : Pipeline) (call : Call) :
    (p.after call).stripSpans = true ↔ p.stripSpans = true ∨ call = .withoutSpans := by
  cases call with
  | withSettings settings => simp [after, withSettings]
  | withoutSpans => simp [after, withoutSpans]
  | attach rule setting =>
      rw [after]
      cases attached : p.attach rule setting with
      | error e => simp
      | ok next =>
          rcases attach_cases p next rule setting attached with
            ⟨_, rfl⟩ | ⟨config, _, _, rfl⟩ <;> simp

theorem run_strips (calls : List Call) (p : Pipeline) :
    (calls.foldl after p).stripSpans = true ↔
      p.stripSpans = true ∨ Call.withoutSpans ∈ calls := by
  induction calls generalizing p with
  | nil => simp
  | cons call rest ih =>
      rw [List.foldl_cons, ih, after_strips, List.mem_cons, or_assoc, eq_comm (a := call)]

theorem build_strips (calls : List Call) :
    (build calls).stripSpans = true ↔ Call.withoutSpans ∈ calls := by
  rw [build, run_strips]
  simp [empty]

end Pipeline

end Proofread.Lint
