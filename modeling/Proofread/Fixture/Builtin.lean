import Proofread.Fixture.Descriptor

set_option autoImplicit false

namespace Proofread.Fixture

open Lint (LintError)

def finalNewlineText : String := r###"rule_id: final-newline
tests:
  'true':
    ok.md:
      input: "Alpha\n"
      output: []
    empty.md:
      input: ""
      output: []
    not-ok.md:
      input: "Alpha"
      config:
        positionless: true
      output:
        - "1:1: Missing newline character at end of file"
  '[2]':
    not-ok.md:
      input: "# Mercury\n\nVenus"
      config:
        positionless: true
      output:
        - "1:1: Missing newline character at end of file"
  '["off"]':
    not-ok.md:
      input: "Alpha"
      output: []
"###

def firstHeadingLevelText : String := r###"rule_id: first-heading-level
tests:
  'true':
    ok.md:
      input: "Intro\n\n# Mercury\n"
      output: []
    no-heading.md:
      input: "Just text.\n"
      output: []
    not-ok.md:
      input: "## Mercury\n"
      output:
        - "1:1-1:11: First heading level should be `1`"
  '[1, 2]':
    ok.md:
      input: "## Mercury\n"
      output: []
    not-ok.md:
      input: "# Mercury\n"
      output:
        - "1:1-1:10: First heading level should be `2`"
"###

def headingIncrementText : String := r###"rule_id: heading-increment
tests:
  'true':
    ok.md:
      input: "# Mercury\n\n## Venus\n\n# Earth\n\n## Mars\n"
      output: []
    not-ok.md:
      input: "# Mercury\n\n### Venus\n"
      output:
        - "3:1-3:10: Heading levels should increment by one level at a time"
"###

def noDuplicateHeadingsText : String := r###"rule_id: no-duplicate-headings
tests:
  'true':
    ok.md:
      input: "# Mercury\n\n## Venus\n"
      output: []
    not-ok.md:
      input: "# Mercury\n\n## mercury\n"
      output:
        - "3:1-3:11: Do not use headings with similar content (1:1)"
"###

def noHeadingPunctuationText : String := r###"rule_id: no-heading-punctuation
tests:
  'true':
    ok.md:
      input: "# Mercury\n\nVenus\n=====\n\nSome text.\n"
      output: []
    not-ok.md:
      input: "# Mercury.\n\n## Venus!\n"
      output:
        - "1:1-1:11: Don’t add a trailing `.` to headings"
        - "3:1-3:10: Don’t add a trailing `!` to headings"
  '[1, "!,"]':
    not-ok.md:
      input: "# Mercury.\n\n## Venus!\n\n### Earth,\n"
      output:
        - "3:1-3:10: Don’t add a trailing `!` to headings"
        - "5:1-5:11: Don’t add a trailing `,` to headings"
"###

def noMultipleToplevelHeadingsText : String := r###"rule_id: no-multiple-toplevel-headings
tests:
  'true':
    ok.md:
      input: "# Mercury\n\n## Venus\n"
      output: []
    not-ok.md:
      input: "# Mercury\n\n# Venus\n"
      output:
        - "3:1-3:8: Don’t use multiple top level headings (3:1)"
  '[1, 2]':
    not-ok.md:
      input: "## Mercury\n\n## Venus\n"
      output:
        - "3:1-3:9: Don’t use multiple top level headings (3:1)"
"###

def noTabsText : String := r###"rule_id: no-tabs
tests:
  'true':
    ok.md:
      input: "Alpha··Bravo\n"
      output: []
    not-ok.md:
      input: "»Alpha\nBravo»\n"
      config:
        positionless: true
      output:
        - "1:1: Use spaces instead of hard-tabs"
        - "2:6: Use spaces instead of hard-tabs"
"###

def builtinTexts : NameMap String :=
  ⟨[("final-newline", finalNewlineText),
    ("first-heading-level", firstHeadingLevelText),
    ("heading-increment", headingIncrementText),
    ("no-duplicate-headings", noDuplicateHeadingsText),
    ("no-heading-punctuation", noHeadingPunctuationText),
    ("no-multiple-toplevel-headings", noMultipleToplevelHeadingsText),
    ("no-tabs", noTabsText)], by decide⟩

def descriptor (ruleId : String) : Except LintError Descriptor :=
  match builtinTexts.get? ruleId with
  | some contents => Descriptor.load ruleId contents
  | none => .error (.fixtures ruleId "no fixture file")

end Proofread.Fixture
