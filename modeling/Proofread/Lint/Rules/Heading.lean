import Proofread.Json.Printer
import Proofread.Lint.Rule
import Proofread.Text.Blank
import Proofread.Text.Casing

set_option autoImplicit false

namespace Proofread.Lint

open Json (Value)

structure Heading where
  depth : UInt8
  text : String
  span : Span
deriving DecidableEq, Repr

def Heading.ofNode? (n : Node) : Option Heading :=
  match n.headingDepth?, n.span with
  | some depth, some span => some ⟨depth, n.text, span⟩
  | _, _ => none

def headings (tree : Node) : List Heading :=
  tree.preorder.filterMap Heading.ofNode?

def depthOption (standard : UInt8) : Option Value → Except String UInt8
  | none | some .null => .ok standard
  | some (.number n) =>
      match n.natural? with
      | some depth =>
          if 1 ≤ depth ∧ depth ≤ 6 then .ok (UInt8.ofNat depth)
          else .error ("expected a heading depth between 1 and 6, not `" ++ n.render ++ "`")
      | none => .error ("expected a heading depth between 1 and 6, not `" ++ n.render ++ "`")
  | some other => .error ("expected a heading depth, not `" ++ other.compact ++ "`")

def standardPunctuation : String := ".,;:!?"

def punctuationOption : Option Value → Except String String
  | none | some .null => .ok standardPunctuation
  | some value =>
      match value with
      | .string chars =>
          if chars = "" then
            .error ("expected a non-empty string of punctuation characters, not `" ++
              value.compact ++ "`")
          else .ok chars
      | _ =>
          .error ("expected a non-empty string of punctuation characters, not `" ++
            value.compact ++ "`")

namespace Rules

def Heading.report (heading : Heading) (reason : String) : Emission :=
  .report reason (some (.range heading.span))

def firstHeadingReports (expected : UInt8) : List Heading → List Emission
  | [] => []
  | first :: _ =>
      if first.depth ≠ expected then
        [Heading.report first
          ("First heading level should be `" ++ toString expected.toNat ++ "`")]
      else []

def firstHeadingLevel : Rule where
  id := "first-heading-level"
  description := "The first heading should be at the expected level"
  defaultSeverity := .warn
  validate options := (depthOption 1 options).map fun _ => ()
  check tree _ options :=
    match depthOption 1 options with
    | .error reason => .failed reason
    | .ok expected => .ofEmissions (firstHeadingReports expected (headings tree))

def byteAfter? (n : UInt8) : Option UInt8 :=
  if n = 255 then none else some (n + 1)

/-- Whether a depth is too great after another one; nothing if the depth that may follow is no
byte. -/
def skipsLevel? (previous : Option UInt8) (depth : UInt8) : Option Bool :=
  match previous with
  | none => some false
  | some before => (byteAfter? before).map fun next => next < depth

def incrementReports (previous : Option UInt8) : List Heading → Option (List Emission)
  | [] => some []
  | heading :: rest => do
      let skips ← skipsLevel? previous heading.depth
      let reports ← incrementReports (some heading.depth) rest
      some (if skips then
          Heading.report heading "Heading levels should increment by one level at a time" :: reports
        else reports)

def headingIncrement : Rule where
  id := "heading-increment"
  description := "Heading levels should increment by one level at a time"
  defaultSeverity := .warn
  validate := acceptAll
  check tree _ _ :=
    match incrementReports none (headings tree) with
    | some reports => .ofEmissions reports
    | none => .overflowed

def toplevelReports (depth : UInt8) (all : List Heading) : List Emission :=
  ((all.filter (·.depth = depth)).drop 1).map fun heading =>
    Heading.report heading
      ("Don’t use multiple top level headings (" ++ heading.span.start.render ++ ")")

def noMultipleToplevelHeadings : Rule where
  id := "no-multiple-toplevel-headings"
  description := "Documents should have a single top level heading"
  defaultSeverity := .warn
  validate options := (depthOption 1 options).map fun _ => ()
  check tree _ options :=
    match depthOption 1 options with
    | .error reason => .failed reason
    | .ok depth => .ofEmissions (toplevelReports depth (headings tree))

def trailingPunctuation? (punctuation : String) (heading : Heading) : Option Char :=
  heading.text.toList.getLast?.filter punctuation.toList.contains

def punctuationReports (punctuation : String) (all : List Heading) : List Emission :=
  all.filterMap fun heading =>
    (trailingPunctuation? punctuation heading).map fun last =>
      Heading.report heading
        ("Don’t add a trailing `" ++ String.singleton last ++ "` to headings")

def noHeadingPunctuation : Rule where
  id := "no-heading-punctuation"
  description := "Headings should not end in punctuation"
  defaultSeverity := .warn
  validate options := (punctuationOption options).map fun _ => ()
  check tree _ options :=
    match punctuationOption options with
    | .error reason => .failed reason
    | .ok punctuation => .ofEmissions (punctuationReports punctuation (headings tree))

def headingKey (lower : List Char → List Char) (heading : Heading) : List Char :=
  lower (Text.trim heading.text.toList)

/-- `seen` holds the keys so far and where each was met first. -/
def duplicateReports (lower : List Char → List Char) (seen : List (List Char × Point)) :
    List Heading → List Emission
  | [] => []
  | heading :: rest =>
      let key := headingKey lower heading
      if key.isEmpty then duplicateReports lower seen rest
      else match seen.lookup key with
        | some place =>
            Heading.report heading
              ("Do not use headings with similar content (" ++ place.render ++ ")") ::
              duplicateReports lower seen rest
        | none => duplicateReports lower ((key, heading.span.start) :: seen) rest

def distinctHeadings (lower : List Char → List Char) : Rule where
  id := "no-duplicate-headings"
  description := "Headings should have distinct content"
  defaultSeverity := .warn
  validate := acceptAll
  check tree _ _ := .ofEmissions (duplicateReports lower [] (headings tree))

def noDuplicateHeadings : Rule :=
  distinctHeadings Text.lowerCase

end Rules

end Proofread.Lint
