import Proofread.Fixture.Conformance
import Proofread.Proofs.JsonLayout

set_option autoImplicit false

namespace Proofread

namespace Lint.Message

def withoutFile (m : Message) : Message :=
  { m with file := none }

def inFile (m : Message) (path : String) : Message :=
  { m with file := some path }

-- What stands between the path with its colon and the rest of the text.
def gap (m : Message) : String :=
  if m.location.isSome then "" else " "

theorem without_file_of_none (m : Message) (unfiled : m.file = none) : m.withoutFile = m := by
  rw [withoutFile, ← unfiled]

theorem in_file_of_some (m : Message) (path : String) (filed : m.file = some path) :
    m.inFile path = m := by
  rw [inFile, ← filed]

theorem in_file_text (m : Message) (path : String) :
    (m.inFile path).render.toList =
      path.toList ++ ':' :: (m.gap.toList ++ m.withoutFile.render.toList) := by
  cases location : m.location with
  | none => simp [render, inFile, withoutFile, gap, location]
  | some place => simp [render, inFile, withoutFile, gap, location]

end Lint.Message

namespace Fixture

open Lint (Message)

theorem after_colon_append (a b : List Char) (absent : ':' ∉ a) :
    afterColon (a ++ ':' :: b) = b := by
  have passed : ∀ c ∈ a, decide (c ≠ ':') = true := by
    intro c listed
    exact decide_eq_true fun colon => absent (colon ▸ listed)
  simp only [afterColon, List.dropWhile_append_of_pos passed, List.dropWhile_cons_of_neg,
    ne_eq, not_true_eq_false, decide_false, Bool.false_eq_true, not_false_eq_true]

theorem after_colon_absent (a : List Char) (absent : ':' ∉ a) : afterColon a = a := by
  have all : a.dropWhile (· ≠ ':') = [] := by
    rw [List.dropWhile_eq_nil_iff]
    intro c listed
    exact decide_eq_true fun colon => absent (colon ▸ listed)
  simp only [afterColon, all]

theorem after_colon_within (a b : List Char) (present : ':' ∈ a) :
    afterColon (a ++ b) = afterColon a ++ b := by
  obtain ⟨before, after, split, absent⟩ := List.eq_append_cons_of_mem present
  rw [split, List.append_assoc, List.cons_append, after_colon_append before _ absent,
    after_colon_append before _ absent]

theorem after_colon_fixed (a : List Char) : afterColon a = a ↔ ':' ∉ a := by
  constructor
  · intro fixed present
    obtain ⟨before, after, split, absent⟩ := List.eq_append_cons_of_mem present
    rw [split, after_colon_append before after absent] at fixed
    have lengths := congrArg List.length fixed
    rw [List.length_append, List.length_cons] at lengths
    omega
  · exact after_colon_absent a

-- What the cut leaves of a path.
def pathRest? (path : String) : Option String :=
  if ':' ∈ path.toList then some (String.ofList (afterColon path.toList)) else none

theorem normalize_text (m : Message) : (normalize m).toList = afterColon m.render.toList :=
  String.toList_ofList

theorem normalize_in_file (m : Message) (path : String) :
    normalize (m.inFile path) =
      match pathRest? path with
      | some rest => (m.inFile rest).render
      | none => m.gap ++ m.withoutFile.render := by
  rw [← String.toList_inj, normalize_text, m.in_file_text, pathRest?]
  by_cases colon : ':' ∈ path.toList
  · rw [after_colon_within _ _ colon, if_pos colon]
    simp only [m.in_file_text, String.toList_ofList]
  · rw [after_colon_append _ _ colon, if_neg colon]
    exact String.toList_append.symm

theorem colon_not_in_number (n : Nat) : ':' ∉ (toString n).toList := by
  intro listed
  rw [Nat.toString_eq_repr, Nat.toList_repr] at listed
  exact absurd (Json.digits_are_digits n ':' listed) (by decide)

theorem location_text (location : Location) : ∃ column,
    location.render.toList = (toString location.start.line).toList ++ ':' :: column := by
  cases location with
  | point place =>
      exact ⟨(toString place.column).toList, by simp [Location.render, Point.render, Location.start]⟩
  | range span =>
      refine ⟨(toString span.start.column).toList ++ '-' :: span.stop.render.toList, ?_⟩
      simp [Location.render, Span.render, Point.render, Location.start]

theorem normalize_located (m : Message) (location : Location) (placed : m.location = some location) :
    m.withoutFile.render = toString location.start.line ++ ":" ++ normalize m.withoutFile := by
  obtain ⟨column, text⟩ := location_text location
  have whole : m.withoutFile.render.toList =
      (toString location.start.line).toList ++ ':' :: (column ++ (": " ++ m.reason).toList) := by
    simp [Message.render, Message.withoutFile, placed, text]
  rw [← String.toList_inj, String.toList_append, String.toList_append, normalize_text, whole,
    after_colon_append _ _ (colon_not_in_number _)]
  simp

theorem normalize_bare (m : Message) (unplaced : m.location = none) :
    normalize m.withoutFile = String.ofList (afterColon m.reason.toList) := by
  simp only [normalize, Message.render, Message.withoutFile, unplaced]

theorem led_ne (longer text : String) (lead : List Char) (leads : lead ≠ [])
    (split : longer.toList = lead ++ text.toList) : longer ≠ text := by
  rintro rfl
  exact leads (List.self_eq_append_left.mp split)

theorem in_file_ne (m : Message) (path : String) :
    (m.inFile path).render ≠ m.gap ++ m.withoutFile.render := by
  refine led_ne _ _ (path.toList ++ [':']) (by simp) ?_
  rw [m.in_file_text, String.toList_append, List.append_assoc, List.singleton_append]

theorem in_file_inj (m : Message) (a b : String) :
    (m.inFile a).render = (m.inFile b).render ↔ a = b := by
  rw [← String.toList_inj, m.in_file_text, m.in_file_text, List.append_left_inj,
    String.toList_inj]

theorem normalize_alike (m : Message) (a b : String) :
    normalize (m.inFile a) = normalize (m.inFile b) ↔ pathRest? a = pathRest? b := by
  rw [normalize_in_file, normalize_in_file]
  cases pathRest? a with
  | none =>
      cases pathRest? b with
      | none => exact iff_of_true rfl rfl
      | some rest => exact iff_of_false (in_file_ne m rest).symm nofun
  | some rest =>
      cases pathRest? b with
      | none => exact iff_of_false (in_file_ne m rest) nofun
      | some other =>
          rw [Option.some.injEq]
          exact in_file_inj m rest other

-- The first colon of the text ends the path, or there is neither a path nor a colon.
def CutAtPath (m : Message) : Prop :=
  match m.file, m.location with
  | some path, some _ => ':' ∉ path.toList
  | none, none => ':' ∉ m.reason.toList
  | _, _ => False

theorem path_rest_none (path : String) : pathRest? path = none ↔ ':' ∉ path.toList := by
  rw [pathRest?]
  by_cases colon : ':' ∈ path.toList
  · simp [colon]
  · simp [colon]

theorem filed_located_cut (m : Message) (path : String) (location : Location)
    (placed : m.location = some location) :
    normalize (m.inFile path) = m.withoutFile.render ↔ ':' ∉ path.toList := by
  have joined : m.gap ++ m.withoutFile.render = m.withoutFile.render := by
    simp [Message.gap, placed]
  rw [normalize_in_file, ← path_rest_none]
  cases pathRest? path with
  | none => exact iff_of_true joined rfl
  | some rest =>
      have different := in_file_ne m rest
      rw [joined] at different
      exact iff_of_false different nofun

theorem filed_unplaced_miscut (m : Message) (path : String) (unplaced : m.location = none) :
    normalize (m.inFile path) ≠ m.withoutFile.render := by
  have spaced : m.gap = " " := by
    simp [Message.gap, unplaced]
  rw [normalize_in_file, spaced]
  cases pathRest? path with
  | none => exact led_ne _ _ [' '] (by simp) String.toList_append
  | some rest =>
      refine led_ne _ _ (rest.toList ++ [':', ' ']) (by simp) ?_
      simp [m.in_file_text, spaced]

theorem normalize_removes_path (m : Message) :
    normalize m = m.withoutFile.render ↔ CutAtPath m := by
  rw [CutAtPath]
  cases file : m.file with
  | some path =>
      have whole := m.in_file_of_some path file
      cases location : m.location with
      | some place =>
          have cut := filed_located_cut m path place location
          rw [whole] at cut
          exact cut
      | none =>
          have miscut := filed_unplaced_miscut m path location
          rw [whole] at miscut
          exact iff_false_intro miscut
  | none =>
      have whole := m.without_file_of_none file
      cases location : m.location with
      | some place =>
          have text := normalize_located m place location
          rw [whole] at text
          rw [whole]
          refine iff_false_intro (Ne.symm (led_ne _ _ ((toString place.start.line).toList ++ [':'])
            (by simp) ?_))
          rw [text, String.toList_append, String.toList_append]
          rfl
      | none =>
          have text := normalize_bare m location
          have reason : m.withoutFile.render = m.reason := by
            simp only [Message.render, Message.withoutFile, location]
          rw [whole] at text
          rw [text, reason, ← String.toList_inj, String.toList_ofList, after_colon_fixed]

theorem path_cut_exactly (m : Message) :
    (normalize m = m.withoutFile.render ↔ CutAtPath m) ∧
    (∀ a b, normalize (m.inFile a) = normalize (m.inFile b) ↔ pathRest? a = pathRest? b) ∧
    (∀ path, normalize (m.inFile path) =
      match pathRest? path with
      | some rest => (m.inFile rest).render
      | none => m.gap ++ m.withoutFile.render) ∧
    match m.location with
    | some location =>
        m.withoutFile.render = toString location.start.line ++ ":" ++ normalize m.withoutFile
    | none => normalize m.withoutFile = String.ofList (afterColon m.reason.toList) := by
  refine ⟨normalize_removes_path m, normalize_alike m, normalize_in_file m, ?_⟩
  cases location : m.location with
  | some place => exact normalize_located m place location
  | none => exact normalize_bare m location

def misplaced : Message :=
  { Message.plain "no-tabs" "Bad" with location := some (.point ⟨1, 1, 0⟩) }

def tabCase : Case :=
  ⟨"a»b\n", true, [], ["1:2: Use spaces instead of hard-tabs"]⟩

def tabCases (name : String) : Descriptor :=
  ⟨"no-tabs", .insert .empty "true" (.insert .empty name tabCase)⟩

theorem paths_miscut :
    (normalize (misplaced.inFile "a:b.md") = "b.md:1:1: Bad" ∧
      (misplaced.inFile "a:b.md").withoutFile.render = "1:1: Bad") ∧
    (normalize misplaced = "1: Bad" ∧ misplaced.withoutFile.render = "1:1: Bad") ∧
    (normalize ((Message.plain "no-tabs" "Bad").inFile "a.md") = " Bad" ∧
      ((Message.plain "no-tabs" "Bad").inFile "a.md").withoutFile.render = "Bad") ∧
    (normalize (Message.plain "no-tabs" "Bad: tab") = " tab" ∧
      (Message.plain "no-tabs" "Bad: tab").withoutFile.render = "Bad: tab") ∧
    (checkDescriptor Lint.Rules.noTabs (tabCases "a.md")).toOption.map RuleReport.passed =
      some true ∧
    (checkDescriptor Lint.Rules.noTabs (tabCases "a:b.md")).toOption.map RuleReport.passed =
      some false := by
  decide +kernel

end Fixture

end Proofread
