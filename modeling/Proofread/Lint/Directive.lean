import Proofread.Text.Blank

set_option autoImplicit false

namespace Proofread.Lint

inductive Keyword where
  | enable
  | disable
  | ignore
deriving DecidableEq, Repr

def Keyword.ofWord? (word : String) : Option Keyword :=
  if word = "enable" then some .enable
  else if word = "disable" then some .disable
  else if word = "ignore" then some .ignore
  else none

structure Directive where
  keyword : Keyword
  rules : List String
deriving DecidableEq, Repr

inductive Comment where
  | ordinary
  | directive (d : Directive)
  | unknownKeyword (word : String)
deriving DecidableEq, Repr

def dropLead? (lead text : List Char) : Option (List Char) :=
  if text.take lead.length = lead then some (text.drop lead.length) else none

def dropTail? (tail text : List Char) : Option (List Char) :=
  (dropLead? tail.reverse text.reverse).map List.reverse

/-- The body of a directive, from the white space after the word `lint` to the end of the
comment. -/
def directiveBody? (text : List Char) : Option (List Char) := do
  let inside ← dropLead? "<!--".toList (Text.trim text)
  let after ← dropLead? "lint".toList (inside.dropWhile Text.isBlank)
  if after.head?.any Text.isBlank then
    dropTail? "-->".toList (after.dropWhile Text.isBlank)
  else none

namespace Comment

def ofWords : List String → Comment
  | [] => ordinary
  | word :: rules =>
      match Keyword.ofWord? word with
      | some keyword => directive ⟨keyword, rules⟩
      | none => unknownKeyword word

def ofHtml (value : String) : Comment :=
  match directiveBody? value.toList with
  | none => ordinary
  | some body => ofWords ((Text.words body).map String.ofList)

end Comment

def unknownKeywordReason (word : String) : String :=
  "Unknown keyword `" ++ word ++ "`: expected `'enable'`, `'disable'`, or `'ignore'`"

end Proofread.Lint
