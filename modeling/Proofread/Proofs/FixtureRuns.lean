import Proofread.Fixture.Conformance
import Proofread.Proofs.FailedPass
import Proofread.Proofs.Stopping

set_option autoImplicit false

namespace Proofread.Lint.Pipeline

def emittedIn (p : Pipeline) (file : LintFile) : List Message :=
  p.enabledRules.flatMap (p.emitted (p.view (Markdown.parse file.contents)) file)

theorem process_completes (p : Pipeline) (file : LintFile)
    (completes : p.Completes (p.view (Markdown.parse file.contents)) file p.enabledRules) :
    (∃ c, Controls.collect (p.view (Markdown.parse file.contents)) = .ok c ∧
      p.process file = .success { file with
        messages := (file.messages ++ p.emittedIn file).filter c.allows }) ∨
    ∃ e failure, Controls.collect (p.view (Markdown.parse file.contents)) = .error e ∧
      p.process file = .processingFailure failure ∧ failure.isEngine = true ∧
        failure.file = file.append (p.emittedIn file) := by
  have passed := p.process_tree_completes (Markdown.parse file.contents) file completes
  cases collected : Controls.collect (p.view (Markdown.parse file.contents)) with
  | ok c =>
      rw [collected] at passed
      exact Or.inl ⟨c, rfl, passed⟩
  | error e =>
      rw [collected] at passed
      exact Or.inr ⟨e, _, rfl, passed, rfl, rfl⟩

end Proofread.Lint.Pipeline

namespace Proofread.Fixture

open Lint (AttachedRule Failure LintError LintFile Message Outcome Pipeline ProcessingFailure Rule)

def renderedMessage (ruleId : String) (m : Message) : Except LintError String :=
  if m.ruleId ≠ ruleId then .error (.ruleIdMismatch ruleId m.ruleId m.render)
  else .ok (normalize m)

theorem rendered_maps (ruleId : String) (messages : List Message) :
    rendered ruleId messages = messages.mapM (renderedMessage ruleId) := by
  induction messages with
  | nil => rfl
  | cons m rest ih =>
      rw [rendered, List.mapM_cons, renderedMessage, ih]
      by_cases own : m.ruleId = ruleId
      · rw [if_neg (not_not.mpr own), if_neg (not_not.mpr own)]
        cases rest.mapM (renderedMessage ruleId) <;> rfl
      · rw [if_pos own, if_pos own]
        rfl

theorem rendered_message_shows (ruleId : String) (m : Message) (text : String) :
    renderedMessage ruleId m = .ok text ↔ m.ruleId = ruleId ∧ text = normalize m := by
  rw [renderedMessage]
  by_cases own : m.ruleId = ruleId
  · simp [own, eq_comm]
  · simp [own]

theorem rendered_message_foreign (ruleId : String) (m : Message) (e : LintError) :
    renderedMessage ruleId m = .error e ↔
      m.ruleId ≠ ruleId ∧ e = .ruleIdMismatch ruleId m.ruleId m.render := by
  rw [renderedMessage]
  by_cases own : m.ruleId = ruleId
  · simp [own]
  · simp [own, eq_comm]

theorem rendered_shows (ruleId : String) (messages : List Message) (texts : List String) :
    rendered ruleId messages = .ok texts ↔
      (∀ m ∈ messages, m.ruleId = ruleId) ∧ texts = messages.map normalize := by
  rw [rendered_maps, map_m_succeeds]
  simp only [rendered_message_shows]
  induction messages generalizing texts with
  | nil => simp
  | cons m rest ih =>
      rw [List.forall₂_cons_left_iff, List.forall_mem_cons, List.map_cons]
      constructor
      · rintro ⟨text, others, ⟨own, rfl⟩, later, rfl⟩
        obtain ⟨all, rfl⟩ := (ih others).mp later
        exact ⟨⟨own, all⟩, rfl⟩
      · rintro ⟨⟨own, all⟩, rfl⟩
        exact ⟨_, _, ⟨own, rfl⟩, (ih _).mpr ⟨all, rfl⟩, rfl⟩

theorem rendered_halts (ruleId : String) (messages : List Message) (e : LintError) :
    rendered ruleId messages = .error e ↔
      ∃ before m after, messages = before ++ m :: after ∧ (∀ b ∈ before, b.ruleId = ruleId) ∧
        m.ruleId ≠ ruleId ∧ e = .ruleIdMismatch ruleId m.ruleId m.render := by
  have fine : ∀ b : Message, (∃ text, renderedMessage ruleId b = .ok text) ↔ b.ruleId = ruleId := by
    intro b
    simp only [rendered_message_shows, exists_and_left, exists_eq, and_true]
  rw [rendered_maps, map_m_stops]
  simp only [fine, rendered_message_foreign]

section

variable (ruleId : String) (p : Pipeline) (file : LintFile)

-- The file that a run leaves unless a rule fails in it, and the failure of the engine if it met one.
inductive Leaves : LintFile → Option ProcessingFailure → Prop where
  | passed (kept : LintFile) (ended : p.process file = .success kept) : Leaves kept none
  | engineFailed (failure : ProcessingFailure) (ended : p.process file = .processingFailure failure)
      (raised : failure.isEngine = true) : Leaves failure.file (some failure)

def Shows (texts : List String) : Prop :=
  ∃ kept failure, Leaves p file kept failure ∧ (∀ m ∈ kept.messages, m.ruleId = ruleId) ∧
    texts = kept.messages.map normalize ++
      (failure.map fun f => normalize f.message).toList

def stoppedError (a : AttachedRule) : Failure → LintError
  | .reasons texts => .ruleFailed a.ruleId (String.intercalate ": " texts)
  | .overflow => .overflow

inductive Halts : LintError → Prop where
  | ruleStopped (before : List AttachedRule) (a : AttachedRule) (why : Failure)
      (stops : p.FirstStopping (p.view (Markdown.parse file.contents)) file before a why) :
      Halts (stoppedError a why)
  | foreign (kept : LintFile) (failure : Option ProcessingFailure) (before after : List Message)
      (m : Message) (leaves : Leaves p file kept failure)
      (split : kept.messages = before ++ m :: after) (own : ∀ b ∈ before, b.ruleId = ruleId)
      (other : m.ruleId ≠ ruleId) : Halts (.ruleIdMismatch ruleId m.ruleId m.render)

theorem actual_leaves (kept : LintFile) (failure : Option ProcessingFailure)
    (leaves : Leaves p file kept failure) :
    actual ruleId (p.process file) = (rendered ruleId kept.messages).map
      (· ++ (failure.map fun f => normalize f.message).toList) := by
  cases leaves with
  | passed _ ended =>
      rw [ended, actual]
      simp only [Option.map_none, Option.toList_none, List.append_nil]
      cases rendered ruleId kept.messages <;> rfl
  | engineFailed failure ended raised =>
      rw [ended, actual, if_pos raised]
      rfl

theorem process_stops (before : List AttachedRule) (a : AttachedRule) (why : Failure)
    (stops : p.FirstStopping (p.view (Markdown.parse file.contents)) file before a why) :
    ∃ after, p.process file = Pipeline.stopped a after why :=
  ⟨_, p.process_tree_stops (Markdown.parse file.contents) file before a why stops⟩

theorem actual_stops (before : List AttachedRule) (a : AttachedRule) (why : Failure)
    (stops : p.FirstStopping (p.view (Markdown.parse file.contents)) file before a why) :
    actual ruleId (p.process file) = .error (stoppedError a why) := by
  obtain ⟨after, ended⟩ := process_stops p file before a why stops
  rw [ended]
  cases why <;> rfl

theorem leaves_completes :
    (∃ kept failure, Leaves p file kept failure) ↔
      p.Completes (p.view (Markdown.parse file.contents)) file p.enabledRules := by
  constructor
  · rintro ⟨kept, failure, leaves⟩
    rcases Pipeline.stopping_or_complete p (p.view (Markdown.parse file.contents)) file with
      completes | ⟨before, a, why, stops⟩
    · exact completes
    · obtain ⟨after, stopped⟩ := process_stops p file before a why stops
      cases leaves with
      | passed _ ended =>
          rw [stopped] at ended
          cases why <;> cases ended
      | engineFailed failure ended engine =>
          rw [stopped] at ended
          cases why with
          | overflow => cases ended
          | reasons texts =>
              cases ended
              cases engine
  · intro completes
    rcases p.process_completes file completes with ⟨c, _, passed⟩ | ⟨_, failure, _, ended, raised, _⟩
    · exact ⟨_, none, .passed _ passed⟩
    · exact ⟨_, some failure, .engineFailed failure ended raised⟩

theorem run_leaves_or_stops :
    (∃ kept failure, Leaves p file kept failure) ∨
      ∃ before a why,
        p.FirstStopping (p.view (Markdown.parse file.contents)) file before a why :=
  (Pipeline.stopping_or_complete p (p.view (Markdown.parse file.contents)) file).imp_left
    (leaves_completes p file).mpr

theorem actual_shows (texts : List String) :
    actual ruleId (p.process file) = .ok texts ↔ Shows ruleId p file texts := by
  constructor
  · intro shown
    rcases run_leaves_or_stops p file with ⟨kept, failure, leaves⟩ | ⟨before, a, why, stops⟩
    · rw [actual_leaves ruleId p file kept failure leaves] at shown
      cases read : rendered ruleId kept.messages with
      | error e =>
          rw [read] at shown
          cases shown
      | ok own =>
          rw [read] at shown
          obtain ⟨all, rfl⟩ := (rendered_shows ruleId kept.messages own).mp read
          exact ⟨kept, failure, leaves, all, (Except.ok.inj shown).symm⟩
    · rw [actual_stops ruleId p file before a why stops] at shown
      cases shown
  · rintro ⟨kept, failure, leaves, all, rfl⟩
    rw [actual_leaves ruleId p file kept failure leaves,
      (rendered_shows ruleId kept.messages _).mpr ⟨all, rfl⟩]
    rfl

theorem actual_halts (e : LintError) :
    actual ruleId (p.process file) = .error e ↔ Halts ruleId p file e := by
  constructor
  · intro halted
    rcases run_leaves_or_stops p file with ⟨kept, failure, leaves⟩ | ⟨before, a, why, stops⟩
    · rw [actual_leaves ruleId p file kept failure leaves] at halted
      cases read : rendered ruleId kept.messages with
      | ok own =>
          rw [read] at halted
          cases halted
      | error d =>
          rw [read] at halted
          cases halted
          obtain ⟨before, m, after, split, own, other, rfl⟩ :=
            (rendered_halts ruleId kept.messages e).mp read
          exact .foreign kept failure before after m leaves split own other
    · rw [actual_stops ruleId p file before a why stops] at halted
      cases halted
      exact .ruleStopped before a why stops
  · intro halts
    cases halts with
    | ruleStopped before a why stops => exact actual_stops ruleId p file before a why stops
    | foreign kept failure before after m leaves split own other =>
        rw [actual_leaves ruleId p file kept failure leaves,
          (rendered_halts ruleId kept.messages _).mpr ⟨before, m, after, split, own, other, rfl⟩]
        rfl

end

-- What is reported about a case: its declared output beside what its run shows, and beside nothing
-- what its run without spans shows, unless it is positionless.
inductive Reports (rule : Rule) (ruleId setting name : String) (c : Case) : CaseReport → Prop where
  | once (config : Json.Value) (p : Pipeline) (texts : List String)
      (valid : Json.parse setting = .ok config) (attached : casePipeline rule config c = .ok p)
      (shows : Shows ruleId p (caseFile name c) texts) (flag : c.positionless = true) :
      Reports rule ruleId setting name c ⟨setting, name, ⟨c.output, texts⟩, none⟩
  | twice (config : Json.Value) (p : Pipeline) (texts bare : List String)
      (valid : Json.parse setting = .ok config) (attached : casePipeline rule config c = .ok p)
      (shows : Shows ruleId p (caseFile name c) texts) (flag : c.positionless = false)
      (stripped : Shows ruleId p.withoutSpans (caseFile name c) bare) :
      Reports rule ruleId setting name c ⟨setting, name, ⟨c.output, texts⟩, some ⟨[], bare⟩⟩

inductive Prevents (rule : Rule) (ruleId setting name : String) (c : Case) : LintError → Prop where
  | refused (config : Json.Value) (e : LintError) (valid : Json.parse setting = .ok config)
      (rejected : casePipeline rule config c = .error e) : Prevents rule ruleId setting name c e
  | halted (config : Json.Value) (p : Pipeline) (e : LintError)
      (valid : Json.parse setting = .ok config) (attached : casePipeline rule config c = .ok p)
      (halts : Halts ruleId p (caseFile name c) e) : Prevents rule ruleId setting name c e
  | haltedWithout (config : Json.Value) (p : Pipeline) (texts : List String) (e : LintError)
      (valid : Json.parse setting = .ok config) (attached : casePipeline rule config c = .ok p)
      (shows : Shows ruleId p (caseFile name c) texts) (flag : c.positionless = false)
      (halts : Halts ruleId p.withoutSpans (caseFile name c) e) :
      Prevents rule ruleId setting name c e

section

variable (rule : Rule) (ruleId setting name : String) (c : Case) (config : Json.Value)
  (valid : Json.parse setting = .ok config)

include valid

theorem check_case_reports (report : CaseReport) :
    checkCase rule ruleId setting config name c = .ok report ↔
      Reports rule ruleId setting name c report := by
  rw [checkCase]
  constructor
  · intro checked
    obtain ⟨p, attached, checked⟩ := (except_bind_ok _ _ _).mp checked
    obtain ⟨texts, shown, checked⟩ := (except_bind_ok _ _ _).mp checked
    rw [actual_shows] at shown
    cases flag : c.positionless with
    | true =>
        rw [flag] at checked
        cases checked
        exact .once config p texts valid attached shown flag
    | false =>
        rw [flag] at checked
        obtain ⟨bare, stripped, checked⟩ := (except_bind_ok _ _ _).mp checked
        rw [actual_shows] at stripped
        cases checked
        exact .twice config p texts bare valid attached shown flag stripped
  · intro reports
    cases reports with
    | once again p texts validToo attached shows flag =>
        rw [valid] at validToo
        cases validToo
        rw [← actual_shows] at shows
        simp only [attached, shows, flag, bind, Except.bind, if_true]
    | twice again p texts bare validToo attached shows flag stripped =>
        rw [valid] at validToo
        cases validToo
        rw [← actual_shows] at shows stripped
        simp only [attached, shows, stripped, flag, bind, Except.bind, Bool.false_eq_true, if_false]

theorem check_case_prevented (e : LintError) :
    checkCase rule ruleId setting config name c = .error e ↔
      Prevents rule ruleId setting name c e := by
  rw [checkCase]
  constructor
  · intro failed
    rcases (except_bind_error _ _ _).mp failed with rejected | ⟨p, attached, failed⟩
    · exact .refused config e valid rejected
    · rcases (except_bind_error _ _ _).mp failed with halted | ⟨texts, shown, failed⟩
      · exact .halted config p e valid attached ((actual_halts _ _ _ e).mp halted)
      · rw [actual_shows] at shown
        cases flag : c.positionless with
        | true =>
            rw [flag] at failed
            cases failed
        | false =>
            rw [flag] at failed
            rcases (except_bind_error _ _ _).mp failed with halted | ⟨bare, stripped, failed⟩
            · exact .haltedWithout config p texts e valid attached shown flag
                ((actual_halts _ _ _ e).mp halted)
            · cases failed
  · intro prevents
    cases prevents with
    | refused again e validToo rejected =>
        rw [valid] at validToo
        cases validToo
        simp only [rejected, bind, Except.bind]
    | halted again p e validToo attached halts =>
        rw [valid] at validToo
        cases validToo
        rw [← actual_halts] at halts
        simp only [attached, halts, bind, Except.bind]
    | haltedWithout again p texts e validToo attached shows flag halts =>
        rw [valid] at validToo
        cases validToo
        rw [← actual_shows] at shows
        rw [← actual_halts] at halts
        simp only [attached, shows, halts, flag, bind, Except.bind, Bool.false_eq_true, if_false]

end

end Proofread.Fixture
