import Proofread.Lint.Setting

set_option autoImplicit false

namespace Proofread.Lint

open Json (Value Number)

def Scalar : Value → Prop
  | .bool _ | .number _ | .string _ => True
  | .null | .array _ | .object _ => False

-- The scalar that a value is, or that heads it as a list.
def Decides (value scalar : Value) : Prop :=
  Scalar scalar ∧ (value = scalar ∨ ∃ tail, value = .array (scalar :: tail))

inductive NoSeverity : Value → String → Prop where
  | number (n : Number) (other : n ∉ [.whole 0, .whole 1, .whole 2]) : NoSeverity (.number n) n.render
  | string (s : String) (other : s ∉ ["off", "on", "warn", "error"]) : NoSeverity (.string s) s

inductive OptionsOnly : Value → Prop where
  | object (fields : Json.Fields) : OptionsOnly (.object fields)
  | nothing : OptionsOnly (.array [])
  | list (head : Value) (tail : List Value) (structured : ¬ Scalar head) :
      OptionsOnly (.array (head :: tail))

namespace Resolved

-- The form that every resolved setting has: its flags are those of a severity.
structure Normal (r : Resolved) : Prop where
  enabled : r.enabled = true ↔ r.fatal.isSome = true
  severity : ofSeverity r.severity r.options = r

theorem of_severity_normal (severity : Severity) (options : Option Value) :
    (ofSeverity severity options).Normal := by
  cases severity with
  | off => exact ⟨by simp [ofSeverity], rfl⟩
  | warn => exact ⟨by simp [ofSeverity], rfl⟩
  | error => exact ⟨by simp [ofSeverity], rfl⟩

theorem with_options_normal (r : Resolved) (options : Option Value) (normal : r.Normal) :
    { r with options := options }.Normal := by
  have same : ofSeverity r.severity options = { r with options := options } := by
    rw [← normal.severity]
    cases r.severity <;> rfl
  exact ⟨normal.enabled, same⟩

end Resolved

theorem resolve_normal (id : String) (setting : Setting) (r : Resolved)
    (resolved : resolve id setting = .ok r) : r.Normal := by
  induction setting generalizing r with
  | absent =>
      cases resolved
      exact Resolved.of_severity_normal .off none
  | flag on =>
      cases resolved
      exact Resolved.of_severity_normal _ none
  | level n =>
      rw [resolve] at resolved
      cases known : Severity.ofLevel? n with
      | none =>
          rw [known] at resolved
          cases resolved
      | some severity =>
          rw [known] at resolved
          cases resolved
          exact Resolved.of_severity_normal severity none
  | keyword word =>
      rw [resolve] at resolved
      cases known : Severity.ofKeyword? word with
      | none =>
          rw [known] at resolved
          cases resolved
      | some severity =>
          rw [known] at resolved
          cases resolved
          exact Resolved.of_severity_normal severity none
  | number literal => cases resolved
  | withOptions severity options ih =>
      rw [resolve] at resolved
      cases inner : resolve id severity with
      | error e =>
          rw [inner] at resolved
          cases resolved
      | ok own =>
          rw [inner] at resolved
          cases resolved
          exact Resolved.with_options_normal own options (ih own inner)
  | options value =>
      cases resolved
      exact Resolved.of_severity_normal .warn (some value)

def levelSeverity? : Number → Option Severity
  | .whole n => Severity.ofLevel? n
  | .double _ => none

theorem level_unknown (n : Number) :
    levelSeverity? n = none ↔ n ∉ [.whole 0, .whole 1, .whole 2] := by
  cases n with
  | double d => simp [levelSeverity?]
  | whole k =>
      simp only [levelSeverity?, Severity.ofLevel?]
      by_cases zero : k = 0
      · simp [zero]
      · by_cases one : k = 1
        · simp [one]
        · by_cases two : k = 2
          · simp [two]
          · simp [zero, one, two]

theorem keyword_unknown (word : String) :
    Severity.ofKeyword? word = none ↔ word ∉ ["off", "on", "warn", "error"] := by
  rw [Severity.ofKeyword?]
  by_cases off : word = "off"
  · simp [off]
  · by_cases mild : word = "on" ∨ word = "warn"
    · rcases mild with rfl | rfl <;> simp
    · by_cases error : word = "error"
      · simp [error]
      · simp [off, error, not_or.mp mild]

theorem number_resolves (id : String) (n : Number) :
    resolve id (.ofJson (.number n)) =
      match levelSeverity? n with
      | some severity => .ok (.ofSeverity severity none)
      | none => .error (.invalidSeverity id n.render) := by
  cases n with
  | double d => rfl
  | whole k =>
      simp only [Setting.ofJson, Setting.ofScalar?, Number.signed?, levelSeverity?]
      by_cases fits : (decide (Number.leastSigned ≤ k) && decide (k ≤ Number.greatestSigned)) = true
      · rw [if_pos fits]
        rfl
      · have unknown : Severity.ofLevel? k = none := by
          rw [Bool.and_eq_true, decide_eq_true_eq, decide_eq_true_eq] at fits
          simp only [Number.leastSigned, Number.greatestSigned] at fits
          rw [Severity.ofLevel?, if_neg (by omega), if_neg (by omega), if_neg (by omega)]
        rw [if_neg fits, unknown]
        rfl

theorem keyword_resolves (id word : String) :
    resolve id (.ofJson (.string word)) =
      match Severity.ofKeyword? word with
      | some severity => .ok (.ofSeverity severity none)
      | none => .error (.invalidSeverity id word) :=
  rfl

theorem scalar_refused (id : String) (x : Value) (scalar : Scalar x) (e : LintError) :
    resolve id (.ofJson x) = .error e ↔ ∃ text, NoSeverity x text ∧ e = .invalidSeverity id text := by
  cases x with
  | null => cases scalar
  | array items => cases scalar
  | object fields => cases scalar
  | bool on =>
      constructor
      · intro refused
        cases refused
      · rintro ⟨text, refused, _⟩
        cases refused
  | number n =>
      rw [number_resolves]
      cases known : levelSeverity? n with
      | some severity =>
          constructor
          · intro refused
            cases refused
          · rintro ⟨text, ⟨_, other⟩, _⟩
            rw [(level_unknown n).mpr other] at known
            cases known
      | none =>
          constructor
          · intro refused
            exact ⟨n.render, .number n ((level_unknown n).mp known), (Except.error.inj refused).symm⟩
          · rintro ⟨text, ⟨_, _⟩, rfl⟩
            rfl
  | string word =>
      rw [keyword_resolves]
      cases known : Severity.ofKeyword? word with
      | some severity =>
          constructor
          · intro refused
            cases refused
          · rintro ⟨text, _ | ⟨_, other⟩, _⟩
            rw [(keyword_unknown word).mpr other] at known
            cases known
      | none =>
          constructor
          · intro refused
            exact ⟨word, .string word ((keyword_unknown word).mp known),
              (Except.error.inj refused).symm⟩
          · rintro ⟨text, _ | ⟨_, _⟩, rfl⟩
            rfl

theorem scalar_setting (x : Value) (scalar : Scalar x) :
    Setting.ofScalar? x = some (.ofJson x) := by
  cases x with
  | null => cases scalar
  | array items => cases scalar
  | object fields => cases scalar
  | bool on => rfl
  | string word => rfl
  | number n =>
      simp only [Setting.ofJson, Setting.ofScalar?]
      cases n.signed? <;> rfl

theorem list_resolves (id : String) (x : Value) (tail : List Value) (scalar : Scalar x) :
    resolve id (.ofJson (.array (x :: tail))) =
      (resolve id (.ofJson x)).map fun r => { r with options := tail.head? } := by
  rw [Setting.ofJson, scalar_setting x scalar]
  simp only [resolve]
  cases resolve id (.ofJson x) <;> rfl

theorem options_setting (value : Value) (only : OptionsOnly value) :
    Setting.ofJson value = .options value := by
  cases only with
  | object fields => rfl
  | nothing => rfl
  | list head tail structured =>
      cases head with
      | null => rfl
      | array items => rfl
      | object fields => rfl
      | bool on => exact absurd trivial structured
      | number n => exact absurd trivial structured
      | string word => exact absurd trivial structured

theorem options_resolve (id : String) (value : Value) (only : OptionsOnly value) :
    resolve id (.ofJson value) = .ok ⟨true, some false, some value⟩ := by
  rw [options_setting value only]
  rfl

theorem value_shape (value : Value) :
    value = .null ∨ OptionsOnly value ∨ Scalar value ∨
      ∃ x tail, Scalar x ∧ value = .array (x :: tail) := by
  cases value with
  | null => exact Or.inl rfl
  | object fields => exact Or.inr (Or.inl (.object fields))
  | bool on => exact Or.inr (Or.inr (Or.inl trivial))
  | number n => exact Or.inr (Or.inr (Or.inl trivial))
  | string word => exact Or.inr (Or.inr (Or.inl trivial))
  | array items =>
      cases items with
      | nil => exact Or.inr (Or.inl .nothing)
      | cons head tail =>
          by_cases scalar : Scalar head
          · exact Or.inr (Or.inr (Or.inr ⟨head, tail, scalar, rfl⟩))
          · exact Or.inr (Or.inl (.list head tail scalar))

theorem options_undecided (value x : Value) (only : OptionsOnly value) : ¬ Decides value x := by
  rintro ⟨scalar, rfl | ⟨tail, rfl⟩⟩
  · cases only <;> cases scalar
  · cases only with
    | list _ _ structured => exact structured scalar

theorem setting_refused (id : String) (value : Value) (e : LintError) :
    resolve id (.ofJson value) = .error e ↔
      ∃ x text, Decides value x ∧ NoSeverity x text ∧ e = .invalidSeverity id text := by
  rcases value_shape value with rfl | only | scalar | ⟨x, tail, scalar, rfl⟩
  · constructor
    · intro refused
      cases refused
    · rintro ⟨x, text, ⟨scalar, rfl | ⟨tail, shape⟩⟩, _⟩
      · cases scalar
      · cases shape
  · rw [options_resolve id value only]
    constructor
    · intro refused
      cases refused
    · rintro ⟨x, text, decides, _⟩
      exact absurd decides (options_undecided value x only)
  · rw [scalar_refused id value scalar]
    constructor
    · rintro ⟨text, refused, same⟩
      exact ⟨value, text, ⟨scalar, Or.inl rfl⟩, refused, same⟩
    · rintro ⟨x, text, ⟨_, rfl | ⟨tail, rfl⟩⟩, refused, same⟩
      · exact ⟨text, refused, same⟩
      · cases scalar
  · have decides : ∀ y, Decides (.array (x :: tail)) y ↔ y = x := by
      intro y
      constructor
      · rintro ⟨other, rfl | ⟨rest, same⟩⟩
        · cases other
        · cases same
          rfl
      · rintro rfl
        exact ⟨scalar, Or.inr ⟨tail, rfl⟩⟩
    have carried : resolve id (.ofJson (.array (x :: tail))) = .error e ↔
        resolve id (.ofJson x) = .error e := by
      rw [list_resolves id x tail scalar]
      cases resolve id (.ofJson x) <;> simp [Except.map]
    simp only [carried, scalar_refused id x scalar, decides, exists_and_left, exists_eq_left]

theorem setting_forms (id : String) (value : Value) :
    (∀ e, resolve id (.ofJson value) = .error e ↔
      ∃ x text, Decides value x ∧ NoSeverity x text ∧ e = .invalidSeverity id text) ∧
    (∀ x tail, Scalar x → resolve id (.ofJson (.array (x :: tail))) =
      (resolve id (.ofJson x)).map fun r => { r with options := tail.head? }) ∧
    resolve id (.ofJson .null) = .ok ⟨false, none, none⟩ ∧
    (OptionsOnly value → resolve id (.ofJson value) = .ok ⟨true, some false, some value⟩) ∧
    (value ∈ [.bool false, .number (.whole 0), .string "off"] →
      resolve id (.ofJson value) = .ok ⟨false, none, none⟩) ∧
    (value ∈ [.number (.whole 1), .string "on", .string "warn"] →
      resolve id (.ofJson value) = .ok ⟨true, some false, none⟩) ∧
    (value ∈ [.bool true, .number (.whole 2), .string "error"] →
      resolve id (.ofJson value) = .ok ⟨true, some true, none⟩) ∧
    ∀ r, resolve id (.ofJson value) = .ok r →
      (r.enabled = true ↔ r.fatal.isSome = true) ∧
        Resolved.ofSeverity r.severity r.options = r := by
  refine ⟨setting_refused id value, list_resolves id, rfl, options_resolve id value, ?_, ?_, ?_, ?_⟩
  · simp only [List.mem_cons, List.not_mem_nil, or_false]
    rintro (rfl | rfl | rfl) <;> rfl
  · simp only [List.mem_cons, List.not_mem_nil, or_false]
    rintro (rfl | rfl | rfl) <;> rfl
  · simp only [List.mem_cons, List.not_mem_nil, or_false]
    rintro (rfl | rfl | rfl) <;> rfl
  · intro r resolved
    have normal := resolve_normal id (.ofJson value) r resolved
    exact ⟨normal.enabled, normal.severity⟩

def oneAndAHalf : Value :=
  .number (.double ⟨false, 0x18000000000000, -52⟩)

def depthTwo : Value :=
  .object [("depth", .number (.whole 2))]

theorem setting_forms_lists :
    resolve "no-tabs" (.ofJson (.array [oneAndAHalf, depthTwo])) =
      .error (.invalidSeverity "no-tabs" "1.5") ∧
    resolve "no-tabs" (.ofJson (.array [.string "error", depthTwo, .null])) =
      .ok ⟨true, some true, some depthTwo⟩ ∧
    resolve "no-tabs" (.ofJson (.array [.null, depthTwo])) =
      .ok ⟨true, some false, some (.array [.null, depthTwo])⟩ := by
  have text : Number.render (.double ⟨false, 0x18000000000000, -52⟩) = "1.5" := by decide +kernel
  refine ⟨?_, ?_, ?_⟩
  · have refused := (setting_forms "no-tabs" (.array [oneAndAHalf, depthTwo])).1
    refine (refused _).mpr ⟨oneAndAHalf, "1.5", ⟨trivial, Or.inr ⟨[depthTwo], rfl⟩⟩, ?_, rfl⟩
    rw [← text]
    exact .number _ (by simp)
  · have alone := (setting_forms "no-tabs" (.string "error")).2.2.2.2.2.2.1 (by simp)
    have listed := (setting_forms "no-tabs" .null).2.1 (.string "error") [depthTwo, .null] trivial
    rw [listed, alone]
    rfl
  · exact (setting_forms "no-tabs" (.array [.null, depthTwo])).2.2.2.1 (.list _ _ not_false)

end Proofread.Lint
