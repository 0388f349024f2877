import Proofread.Command.Check
import Proofread.Proofs.BuiltinPass
import Proofread.Proofs.Configuration

set_option autoImplicit false

namespace Proofread.Command

open Files (FileFault FileView)
open Lint (LintConfig LintError LintFile Message Outcome Pipeline ProcessingFailure Registry
  ReportFormat Rule)

theorem lines_append (a b : List String) : lines (a ++ b) = lines a ++ lines b := by
  rw [lines, List.map_append, String.join_append]
  rfl

namespace Batch

def join (parts : List Batch) : Batch :=
  ⟨parts.flatMap messages, parts.flatMap problems, parts.any failed⟩

theorem join_cons (part : Batch) (rest : List Batch) :
    join (part :: rest) = part.append (join rest) := by
  simp only [join, append, List.flatMap_cons, List.any_cons]

theorem join_append (a b : List Batch) : join (a ++ b) = (join a).append (join b) := by
  simp only [join, append, List.flatMap_append, List.any_append]

theorem exit_code_found (b : Batch) :
    b.exitCode = Answer.foundCode ↔ b.failed = true ∨ ∃ m ∈ b.messages, m.fatal = some true := by
  have fatal : b.messages.any Message.isFatal = true ↔ ∃ m ∈ b.messages, m.fatal = some true := by
    simp [Message.isFatal]
  rw [exitCode, ← fatal, ← Bool.or_eq_true]
  by_cases found : (b.failed || b.messages.any Message.isFatal) = true
  · rw [if_pos found]
    exact iff_of_true rfl found
  · rw [if_neg found]
    exact iff_of_false (by decide) found

theorem exit_code_cases (b : Batch) : b.exitCode = 0 ∨ b.exitCode = Answer.foundCode := by
  rw [exitCode]
  split
  · exact Or.inr rfl
  · exact Or.inl rfl

theorem exit_code_append (a b : Batch) : (a.append b).exitCode = max a.exitCode b.exitCode := by
  have found : (a.append b).exitCode = Answer.foundCode ↔
      a.exitCode = Answer.foundCode ∨ b.exitCode = Answer.foundCode := by
    simp only [exit_code_found, append, Bool.or_eq_true, List.mem_append, or_and_right, exists_or]
    exact or_or_or_comm
  have codes : Answer.foundCode = 1 := rfl
  rw [codes] at found
  have both := exit_code_cases (a.append b)
  have left := exit_code_cases a
  have right := exit_code_cases b
  rw [codes] at both left right
  omega

theorem answer_append (a b : Batch) (format : ReportFormat) :
    (a.append b).answer format = ⟨max a.exitCode b.exitCode,
      format.render (a.messages ++ b.messages), lines a.problems ++ lines b.problems⟩ := by
  rw [answer, exit_code_append]
  simp only [append, lines_append]

end Batch

namespace Check

-- What a file adds to a check: a problem alone if it cannot be read, its messages if its pass
-- succeeds, and the messages up to the failure and a problem if its pass fails. A failure of the
-- engine is a message besides.
inductive Adds (view : FileView) (p : Pipeline) (path : String) : Batch → Prop where
  | unreadable (fault : FileFault) (unread : view.read path = .error fault) :
      Adds view p path ⟨[], [path ++ ": " ++ fault.message], true⟩
  | linted (contents : String) (file : LintFile) (read : view.read path = .ok contents)
      (passed : p.process (document path contents) = .success file) :
      Adds view p path ⟨file.messages, [], false⟩
  | ruleFailed (contents : String) (failure : ProcessingFailure)
      (read : view.read path = .ok contents)
      (failed : p.process (document path contents) = .processingFailure failure)
      (raised : failure.isEngine = false) :
      Adds view p path ⟨failure.file.messages, [failure.render], true⟩
  | engineFailed (contents : String) (failure : ProcessingFailure)
      (read : view.read path = .ok contents)
      (failed : p.process (document path contents) = .processingFailure failure)
      (raised : failure.isEngine = true) :
      Adds view p path ⟨failure.file.messages ++ [failure.message], [failure.render], true⟩

def Missed (view : FileView) (p : Pipeline) (path : String) : Prop :=
  (∃ fault, view.read path = .error fault) ∨
    ∃ contents failure, view.read path = .ok contents ∧
      p.process (document path contents) = .processingFailure failure

theorem of_path_adds (view : FileView) (p : Pipeline) (path : String) (part : Batch)
    (adds : Adds view p path part) : ofPath view p path = .ok part := by
  rw [ofPath]
  cases adds with
  | unreadable fault unread => rw [unread]
  | linted contents file read passed =>
      simp only [read, passed]
      rfl
  | ruleFailed contents failure read failed raised =>
      simp [read, failed, ofOutcome, raised]
  | engineFailed contents failure read failed raised =>
      simp [read, failed, ofOutcome, raised]

def Overflows (view : FileView) (p : Pipeline) (path : String) : Prop :=
  ∃ contents, view.read path = .ok contents ∧ p.process (document path contents) = .overflow

theorem of_path_overflows (view : FileView) (p : Pipeline) (path : String)
    (overflows : Overflows view p path) : ofPath view p path = .error .overflow := by
  obtain ⟨contents, read, ended⟩ := overflows
  simp only [ofPath, read, ended]
  rfl

theorem path_adds_or_overflows (view : FileView) (p : Pipeline) (path : String) :
    (∃ part, Adds view p path part) ∨ Overflows view p path := by
  cases read : view.read path with
  | error fault => exact Or.inl ⟨_, .unreadable fault read⟩
  | ok contents =>
      cases ended : p.process (document path contents) with
      | configurationError e => exact absurd ended (p.process_configured _ e)
      | overflow => exact Or.inr ⟨contents, read, ended⟩
      | success file => exact Or.inl ⟨_, .linted contents file read ended⟩
      | processingFailure failure =>
          cases raised : failure.isEngine with
          | false => exact Or.inl ⟨_, .ruleFailed contents failure read ended raised⟩
          | true => exact Or.inl ⟨_, .engineFailed contents failure read ended raised⟩

theorem adds_failed (view : FileView) (p : Pipeline) (path : String) (part : Batch)
    (adds : Adds view p path part) : part.failed = true ↔ Missed view p path := by
  cases adds with
  | unreadable fault unread => exact iff_of_true rfl (Or.inl ⟨fault, unread⟩)
  | linted contents file read passed =>
      refine iff_of_false Bool.false_ne_true ?_
      rintro (⟨fault, unread⟩ | ⟨again, failure, readAgain, failed⟩)
      · rw [read] at unread
        cases unread
      · rw [read] at readAgain
        cases readAgain
        rw [passed] at failed
        cases failed
  | ruleFailed contents failure read failed raised =>
      exact iff_of_true rfl (Or.inr ⟨contents, failure, read, failed⟩)
  | engineFailed contents failure read failed raised =>
      exact iff_of_true rfl (Or.inr ⟨contents, failure, read, failed⟩)

section

variable (view : FileView) (p : Pipeline)

theorem every_file_adds (files : List String) (calm : ∀ path ∈ files, ¬ Overflows view p path) :
    ∃ parts, List.Forall₂ (Adds view p) files parts := by
  refine (related_each (Adds view p) files).mpr fun path listed => ?_
  rcases path_adds_or_overflows view p path with adds | overflows
  · exact adds
  · exact absurd overflows (calm path listed)

theorem of_paths_overflow (files : List String)
    (overflow : ∃ path ∈ files, Overflows view p path) :
    ofPaths view p files = .error .overflow := by
  induction files with
  | nil =>
      obtain ⟨path, listed, _⟩ := overflow
      cases listed
  | cons first rest ih =>
      rw [ofPaths]
      rcases path_adds_or_overflows view p first with ⟨part, adds⟩ | overflows
      · simp only [List.mem_cons, exists_eq_or_imp] at overflow
        rcases overflow with here | later
        · rw [of_path_overflows view p first here]
          rfl
        · rw [of_path_adds view p first part adds, ih later]
          rfl
      · rw [of_path_overflows view p first overflows]
        rfl

theorem of_paths_joins (files : List String) (parts : List Batch)
    (add : List.Forall₂ (Adds view p) files parts) :
    ofPaths view p files = .ok (Batch.join parts) := by
  induction add with
  | nil => rfl
  | @cons path part rest others adds _ ih =>
      rw [ofPaths, of_path_adds view p path part adds, ih, Batch.join_cons]
      rfl

theorem some_file_missed (files : List String) (parts : List Batch)
    (add : List.Forall₂ (Adds view p) files parts) :
    (Batch.join parts).failed = true ↔ ∃ path ∈ files, Missed view p path := by
  induction add with
  | nil => simp [Batch.join]
  | @cons path part rest others adds _ ih =>
      rw [Batch.join_cons, Batch.append, Bool.or_eq_true, ih, adds_failed view p path part adds]
      simp only [List.mem_cons, exists_eq_or_imp]

theorem run_joins (registry : Registry) (root : String) (config : Option String)
    (format : String) (form : ReportFormat)
    (ready : setUp view registry root config format = .ok (p, form)) (files : List String)
    (parts : List Batch) (add : List.Forall₂ (Adds view p) files parts) :
    run view registry root config files format = .ok ((Batch.join parts).answer form) := by
  simp only [run, ready, of_paths_joins view p files parts add]
  rfl

theorem run_overflows (registry : Registry) (root : String) (config : Option String)
    (format : String) (form : ReportFormat)
    (ready : setUp view registry root config format = .ok (p, form)) (files : List String)
    (overflow : ∃ path ∈ files, Overflows view p path) :
    run view registry root config files format = .error .overflow := by
  simp only [run, ready, of_paths_overflow view p files overflow]
  rfl

end

theorem set_up_configures (view : FileView) (registry : Registry) (root : String)
    (config : Option String) (format : String) (p : Pipeline) (form : ReportFormat)
    (ready : setUp view registry root config format = .ok (p, form)) :
    ∃ chosen, Pipeline.ofConfig registry chosen = .ok p := by
  rw [setUp] at ready
  cases named : ReportFormat.ofName? format with
  | none =>
      rw [named] at ready
      cases ready
  | some known =>
      cases choice : chooseConfig view registry root config with
      | error e =>
          rw [named, choice] at ready
          cases ready
      | ok chosen =>
          cases made : Pipeline.ofConfig registry chosen with
          | error e =>
              rw [named, choice] at ready
              simp only [made] at ready
              cases ready
          | ok other =>
              rw [named, choice] at ready
              simp only [made] at ready
              cases ready
              exact ⟨chosen, made⟩

theorem of_config_validated (rules : List Rule) (config : LintConfig) (p : Pipeline)
    (made : Pipeline.ofConfig (.ofRules rules) config = .ok p) : p.Validated rules := by
  intro a attached
  obtain ⟨_, _, follow⟩ := Pipeline.of_config_made (.ofRules rules) config p made
  obtain ⟨entry, _, attaches⟩ := related_source (Lint.Attaches _) _ _ follow a attached
  exact ⟨Registry.get_listed rules entry.1 a.rule attaches.found, attaches.named,
    attaches.accepted⟩

theorem builtin_never_overflows (view : FileView) (p : Pipeline) (path : String)
    (validated : p.Validated Registry.builtinRules) : ¬ Overflows view p path := by
  rintro ⟨contents, _, ended⟩
  have ends := Pipeline.validated_ends p validated (Markdown.parse contents)
    (document path contents) fun long => Lint.events_never_overrun _ _ long.2.2
  change p.processTree (Markdown.parse contents) (document path contents) = .overflow at ended
  rw [ended] at ends
  exact ends

theorem checked_files_compose (view : FileView) (registry : Registry) (root : String)
    (config : Option String) (format : String) :
    (∀ e, setUp view registry root config format = .error e → ∀ files,
      run view registry root config files format =
        .ok ⟨2, "", "Error: " ++ e.message ++ "\n"⟩ ∧
      runLog view registry root config files format =
        setUpLog view registry root config format) ∧
    ∀ p form, setUp view registry root config format = .ok (p, form) →
      (registry = .builtin → ∀ path, ¬ Overflows view p path) ∧
      (∀ files, (∃ path ∈ files, Overflows view p path) →
        run view registry root config files format = .error .overflow) ∧
      (∀ files, (∀ path ∈ files, ¬ Overflows view p path) →
        ∃ parts answer, List.Forall₂ (Adds view p) files parts ∧
        run view registry root config files format = .ok answer ∧
        answer.output = form.render (parts.flatMap Batch.messages) ∧
        answer.problems = lines (parts.flatMap Batch.problems) ∧
        (answer.exit = 0 ∨ answer.exit = 1) ∧
        (answer.exit = 1 ↔ (∃ path ∈ files, Missed view p path) ∨
          ∃ m ∈ parts.flatMap Batch.messages, m.fatal = some true) ∧
        (answer.exit = 0 → ∀ m ∈ parts.flatMap Batch.messages, m.fatal ≠ some true)) ∧
      ∀ a b, (∀ path ∈ a ++ b, ¬ Overflows view p path) → ∃ partsA partsB answerA answerB,
        List.Forall₂ (Adds view p) a partsA ∧ List.Forall₂ (Adds view p) b partsB ∧
        run view registry root config a format = .ok answerA ∧
        answerA.output = form.render (partsA.flatMap Batch.messages) ∧
        run view registry root config b format = .ok answerB ∧
        answerB.output = form.render (partsB.flatMap Batch.messages) ∧
        run view registry root config (a ++ b) format = .ok ⟨max answerA.exit answerB.exit,
          form.render (partsA.flatMap Batch.messages ++ partsB.flatMap Batch.messages),
          answerA.problems ++ answerB.problems⟩ := by
  refine ⟨?_, ?_⟩
  · intro e failed files
    constructor
    · simp [run, failed, setUpAnswer, lines, Answer.setupCode]
    · simp only [runLog, failed, List.append_nil]
  · intro p form ready
    have answered := run_joins view p registry root config format form ready
    refine ⟨?_, run_overflows view p registry root config format form ready, ?_, ?_⟩
    · rintro rfl path
      obtain ⟨chosen, made⟩ := set_up_configures view .builtin root config format p form ready
      exact builtin_never_overflows view p path (of_config_validated _ chosen p made)
    · intro files calm
      obtain ⟨parts, add⟩ := every_file_adds view p files calm
      have found := Batch.exit_code_found (Batch.join parts)
      rw [some_file_missed view p files parts add] at found
      refine ⟨parts, _, add, answered files parts add, rfl, rfl, Batch.exit_code_cases _, found, ?_⟩
      intro clean m listed fatal
      have code : (Batch.join parts).exitCode = 0 := clean
      rw [found.mpr (Or.inr ⟨m, listed, fatal⟩)] at code
      cases code
    · intro a b calm
      obtain ⟨calmA, calmB⟩ := List.forall_mem_append.mp calm
      obtain ⟨partsA, addA⟩ := every_file_adds view p a calmA
      obtain ⟨partsB, addB⟩ := every_file_adds view p b calmB
      refine ⟨partsA, partsB, _, _, addA, addB, answered a partsA addA, rfl,
        answered b partsB addB, rfl, ?_⟩
      rw [answered (a ++ b) (partsA ++ partsB) (List.rel_append addA addB), Batch.join_append,
        Batch.answer_append]
      rfl

def twoFiles : FileView where
  isFile _ := false
  read path :=
    if path = "tab.md" then .ok "# A\tb\n"
    else if path = "mute.md" then .ok "<!--lint mute-->\n"
    else .error .notFound

theorem checked_files_compose_mixed :
    (setUp twoFiles .builtin "" none "xml" = .error (.unknownFormat "xml") ∧
      run twoFiles .builtin "" none ["tab.md", "gone.md"] "xml" =
        .ok ⟨2, "", "Error: unknown output format `xml`\n"⟩) ∧
    ∃ p first second messages, setUp twoFiles .builtin "" none "human" = .ok (p, .human) ∧
      run twoFiles .builtin "" none ["tab.md"] "human" = .ok first ∧ first.exit = 0 ∧
      run twoFiles .builtin "" none ["gone.md", "mute.md"] "human" = .ok second ∧
        second.exit = 1 ∧
      run twoFiles .builtin "" none ["tab.md", "gone.md", "mute.md"] "human" =
        .ok ⟨1, ReportFormat.human.render messages, first.problems ++ second.problems⟩ := by
  have unknown : setUp twoFiles .builtin "" none "xml" = .error (.unknownFormat "xml") := rfl
  obtain ⟨p, ready⟩ : ∃ p, setUp twoFiles .builtin "" none "human" = .ok (p, .human) := ⟨_, rfl⟩
  have cleanExit : (run twoFiles .builtin "" none ["tab.md"] "human").toOption.map Answer.exit =
      some 0 := by decide +kernel
  have faultyExit : (run twoFiles .builtin "" none ["gone.md", "mute.md"] "human").toOption.map
      Answer.exit = some 1 := by decide +kernel
  have refused := (checked_files_compose twoFiles .builtin "" none "xml").1 _ unknown
  obtain ⟨calm, _, _, compose⟩ :=
    (checked_files_compose twoFiles .builtin "" none "human").2 p .human ready
  obtain ⟨partsA, partsB, first, second, _, _, ranA, _, ranB, _, ranBoth⟩ :=
    compose ["tab.md"] ["gone.md", "mute.md"] fun path _ => calm rfl path
  rw [ranA] at cleanExit
  rw [ranB] at faultyExit
  have clean : first.exit = 0 := Option.some.inj cleanExit
  have faulty : second.exit = 1 := Option.some.inj faultyExit
  rw [clean, faulty] at ranBoth
  exact ⟨⟨unknown, (refused _).1⟩, p, first, second, _, ready, ranA, clean, ranB, faulty, ranBoth⟩

end Check

end Proofread.Command
