import Mathlib
import Proofread.Fixture.Builtin
import Proofread.Lint.Registry

set_option autoImplicit false

namespace Proofread

namespace Yaml.Lexer

-- The lexer some tokens further on, unless the text ends or cannot be read before that.
def ahead? : Nat → Lexer → Option Lexer
  | 0, l => some l
  | n + 1, l =>
      match l.step with
      | .ok (next, false) => ahead? n next
      | _ => none

theorem run_ahead (n fuel : Nat) (l next : Lexer) (reached : l.ahead? n = some next) :
    run (n + fuel) l = run fuel next := by
  induction n generalizing l with
  | zero =>
      cases reached
      rw [Nat.zero_add]
  | succ n ih =>
      rw [ahead?] at reached
      rw [Nat.succ_add, run]
      cases stepped : l.step with
      | error fault =>
          rw [stepped] at reached
          cases reached
      | ok after =>
          obtain ⟨further, last⟩ := after
          rw [stepped] at reached
          cases last with
          | true => cases reached
          | false => exact ih further reached

end Yaml.Lexer

namespace Fixture

def case (input : String) (output : List String) : Case :=
  ⟨input, false, [], output⟩

def positionlessCase (input : String) (output : List String) : Case :=
  ⟨input, true, [], output⟩

def finalNewlineCases : Descriptor where
  ruleId := "final-newline"
  tests := .mk [
    ("[\"off\"]", .mk [
      ("not-ok.md", case "Alpha" [])]),
    ("[2]", .mk [
      ("not-ok.md", positionlessCase "# Mercury\n\nVenus"
        ["1:1: Missing newline character at end of file"])]),
    ("true", .mk [
      ("empty.md", case "" []),
      ("not-ok.md", positionlessCase "Alpha" ["1:1: Missing newline character at end of file"]),
      ("ok.md", case "Alpha\n" [])])]

def firstHeadingLevelCases : Descriptor where
  ruleId := "first-heading-level"
  tests := .mk [
    ("[1, 2]", .mk [
      ("not-ok.md", case "# Mercury\n" ["1:1-1:10: First heading level should be `2`"]),
      ("ok.md", case "## Mercury\n" [])]),
    ("true", .mk [
      ("no-heading.md", case "Just text.\n" []),
      ("not-ok.md", case "## Mercury\n" ["1:1-1:11: First heading level should be `1`"]),
      ("ok.md", case "Intro\n\n# Mercury\n" [])])]

def headingIncrementCases : Descriptor where
  ruleId := "heading-increment"
  tests := .mk [
    ("true", .mk [
      ("not-ok.md", case "# Mercury\n\n### Venus\n"
        ["3:1-3:10: Heading levels should increment by one level at a time"]),
      ("ok.md", case "# Mercury\n\n## Venus\n\n# Earth\n\n## Mars\n" [])])]

def noDuplicateHeadingsCases : Descriptor where
  ruleId := "no-duplicate-headings"
  tests := .mk [
    ("true", .mk [
      ("not-ok.md", case "# Mercury\n\n## mercury\n"
        ["3:1-3:11: Do not use headings with similar content (1:1)"]),
      ("ok.md", case "# Mercury\n\n## Venus\n" [])])]

def noHeadingPunctuationCases : Descriptor where
  ruleId := "no-heading-punctuation"
  tests := .mk [
    ("[1, \"!,\"]", .mk [
      ("not-ok.md", case "# Mercury.\n\n## Venus!\n\n### Earth,\n"
        ["3:1-3:10: Don’t add a trailing `!` to headings",
          "5:1-5:11: Don’t add a trailing `,` to headings"])]),
    ("true", .mk [
      ("not-ok.md", case "# Mercury.\n\n## Venus!\n"
        ["1:1-1:11: Don’t add a trailing `.` to headings",
          "3:1-3:10: Don’t add a trailing `!` to headings"]),
      ("ok.md", case "# Mercury\n\nVenus\n=====\n\nSome text.\n" [])])]

def noMultipleToplevelHeadingsCases : Descriptor where
  ruleId := "no-multiple-toplevel-headings"
  tests := .mk [
    ("[1, 2]", .mk [
      ("not-ok.md", case "## Mercury\n\n## Venus\n"
        ["3:1-3:9: Don’t use multiple top level headings (3:1)"])]),
    ("true", .mk [
      ("not-ok.md", case "# Mercury\n\n# Venus\n"
        ["3:1-3:8: Don’t use multiple top level headings (3:1)"]),
      ("ok.md", case "# Mercury\n\n## Venus\n" [])])]

def noTabsCases : Descriptor where
  ruleId := "no-tabs"
  tests := .mk [
    ("true", .mk [
      ("not-ok.md", positionlessCase "»Alpha\nBravo»\n"
        ["1:1: Use spaces instead of hard-tabs", "2:6: Use spaces instead of hard-tabs"]),
      ("ok.md", case "Alpha··Bravo\n" [])])]

def builtinDescriptors : List Descriptor :=
  [finalNewlineCases, firstHeadingLevelCases, headingIncrementCases, noDuplicateHeadingsCases,
    noHeadingPunctuationCases, noMultipleToplevelHeadingsCases, noTabsCases]

theorem parse_chars (text : String) (chars : List Char) (same : text.toList = chars) :
    Descriptor.parse text =
      Yaml.decodeDocument Descriptor.decode (.ofText chars) := by
  rw [Descriptor.parse, Yaml.decode, same]

theorem parse_ahead (text : String) (chars : List Char) (same : text.toList = chars)
    (clean : Yaml.firstForbidden? chars 0 = none) (n : Nat)
    (long : n ≤ (Yaml.normalizeBreaks chars).length) (l : Yaml.Lexer)
    (reached : (Yaml.Lexer.ofChars (Yaml.normalizeBreaks chars)).ahead? n = some l) :
    Descriptor.parse text = Yaml.decodeDocument Descriptor.decode
      (.ofTokens (l.run ((Yaml.normalizeBreaks chars).length - n + 1))) := by
  have fuel : (Yaml.normalizeBreaks chars).length + 1 =
      n + ((Yaml.normalizeBreaks chars).length - n + 1) := by omega
  rw [parse_chars text chars same, Yaml.Document.ofText, Yaml.Tokens.ofText, clean]
  simp only
  rw [fuel, Yaml.Lexer.run_ahead n _ _ l reached]

-- The texts are long terms.
set_option maxRecDepth 20000

theorem final_newline_text_read : Descriptor.parse finalNewlineText = .ok finalNewlineCases :=
  (parse_ahead finalNewlineText _ String.toList_ofList (by cbv) 40 (by cbv) _ (by cbv)).trans
    (by cbv)

theorem first_heading_level_text_read :
    Descriptor.parse firstHeadingLevelText = .ok firstHeadingLevelCases :=
  (parse_chars _ _ String.toList_ofList).trans (by cbv)

theorem heading_increment_text_read :
    Descriptor.parse headingIncrementText = .ok headingIncrementCases :=
  (parse_chars _ _ String.toList_ofList).trans (by cbv)

theorem no_duplicate_headings_text_read :
    Descriptor.parse noDuplicateHeadingsText = .ok noDuplicateHeadingsCases :=
  (parse_chars _ _ String.toList_ofList).trans (by cbv)

theorem no_heading_punctuation_text_read :
    Descriptor.parse noHeadingPunctuationText = .ok noHeadingPunctuationCases :=
  (parse_chars _ _ String.toList_ofList).trans (by cbv)

theorem no_multiple_toplevel_headings_text_read :
    Descriptor.parse noMultipleToplevelHeadingsText = .ok noMultipleToplevelHeadingsCases :=
  (parse_chars _ _ String.toList_ofList).trans (by cbv)

theorem no_tabs_text_read : Descriptor.parse noTabsText = .ok noTabsCases :=
  (parse_chars _ _ String.toList_ofList).trans (by cbv)

theorem builtin_texts_read : List.Forall₂ (fun entry d =>
    entry.1 = d.ruleId ∧ Descriptor.parse entry.2 = .ok d) builtinTexts.entries
      builtinDescriptors :=
  .cons ⟨rfl, final_newline_text_read⟩ <| .cons ⟨rfl, first_heading_level_text_read⟩ <|
    .cons ⟨rfl, heading_increment_text_read⟩ <| .cons ⟨rfl, no_duplicate_headings_text_read⟩ <|
    .cons ⟨rfl, no_heading_punctuation_text_read⟩ <|
    .cons ⟨rfl, no_multiple_toplevel_headings_text_read⟩ <| .cons ⟨rfl, no_tabs_text_read⟩ .nil

theorem descriptor_load (entries : List (String × String)) (ds : List Descriptor)
    (read : List.Forall₂ (fun entry d => entry.1 = d.ruleId ∧ Descriptor.parse entry.2 = .ok d)
      entries ds) (ruleId : String) :
    (match entries.lookup ruleId with
      | some contents => Descriptor.load ruleId contents
      | none => .error (.fixtures ruleId "no fixture file")) =
    match ds.find? (·.ruleId = ruleId) with
      | some d => .ok d
      | none => .error (.fixtures ruleId "no fixture file") := by
  induction read with
  | nil => rfl
  | @cons entry d rest others here _ ih =>
      obtain ⟨own, parsed⟩ := here
      rw [lookup_head, List.find?_cons, own]
      by_cases same : ruleId = d.ruleId
      · simp [same, Descriptor.load, parsed]
      · rw [if_neg same, ih, decide_eq_false (Ne.symm same)]

theorem descriptor_found (ruleId : String) :
    descriptor ruleId = match builtinDescriptors.find? (·.ruleId = ruleId) with
      | some d => .ok d
      | none => .error (.fixtures ruleId "no fixture file") :=
  descriptor_load _ _ builtin_texts_read ruleId

theorem builtin_rules_described (rule : Lint.Rule) (builtin : rule ∈ Lint.Registry.builtinRules) :
    ∃ d, descriptor rule.id = .ok d ∧ d.ruleId = rule.id := by
  rw [descriptor_found]
  simp only [Lint.Registry.builtinRules, List.mem_cons, List.not_mem_nil, or_false] at builtin
  rcases builtin with rfl | rfl | rfl | rfl | rfl | rfl | rfl <;> exact ⟨_, rfl, rfl⟩

end Fixture

end Proofread
