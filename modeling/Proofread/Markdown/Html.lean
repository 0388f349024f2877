import Proofread.Markdown.Chars

set_option autoImplicit false

namespace Proofread.Markdown

open Chars

def blockTags : List String := [
  "address", "article", "aside", "base", "basefont", "blockquote", "body", "caption", "center",
  "col", "colgroup", "dd", "details", "dialog", "dir", "div", "dl", "dt", "fieldset",
  "figcaption", "figure", "footer", "form", "frame", "frameset", "h1", "h2", "h3", "h4", "h5",
  "h6", "head", "header", "hr", "html", "iframe", "legend", "li", "link", "main", "menu",
  "menuitem", "nav", "noframes", "ol", "optgroup", "option", "p", "param", "search", "section",
  "summary", "table", "tbody", "td", "tfoot", "th", "thead", "title", "tr", "track", "ul"]

def rawTags : List String := ["pre", "style", "script", "textarea"]

def startsRawTag (cs : Chars) (i : Nat) (tag : String) : Bool :=
  cs.matchesAnyCaseAt i tag.toList &&
    match cs[i + tag.length]? with
    | none => true
    | some c => isAsciiBlank c || c == '>'

/-- For the text after a less-than sign: what ends the HTML block that starts here, if the block
has an end of its own and does not run to a blank line. -/
def htmlBlockEnd? (cs : Chars) (i : Nat) : Option String :=
  match rawTags.find? (startsRawTag cs i) with
  | some tag => some ("</" ++ tag ++ ">")
  | none =>
      if cs.matchesAt i "!--".toList then some "-->"
      else if cs.matchesAt i "?".toList then some "?>"
      else if cs.matchesAt i "![CDATA[".toList then some "]]>"
      else if cs.has i '!' && (cs[i + 1]?.any Char.isAlpha) then some ">"
      else none

def startsBlockTag (cs : Chars) (i : Nat) : Bool :=
  let start := if cs.has i '/' then i + 1 else i
  let stop := skipWhile Char.isAlphanum cs start
  let name := String.ofList ((cs.slice start stop).map Char.toLower)
  blockTags.contains name &&
    match cs[stop]? with
    | none => true
    | some c =>
        isTabOrSpace c || isLineEnd c || c == '>' || (c == '/' && cs.has (stop + 1) '>')

/-- Where a line goes on after the marks of its containers. `none` if tags may not span lines. -/
abbrev Resume := Option (Nat → Nat)

abbrev Gaps := List (Nat × Nat)

def nextTagLine (cs : Chars) (resume : Nat → Nat) (i : Nat) (gaps : Gaps) : Nat × Gaps :=
  let next := (cs.lineEnd? i).getD i
  let after := max (i + 1) (max next (resume next))
  (after, if next < after then gaps ++ [(next, after)] else gaps)

theorem lt_nextTagLine (cs : Chars) (resume : Nat → Nat) (i : Nat) (gaps : Gaps) :
    i < (nextTagLine cs resume i gaps).1 := by
  simp only [nextTagLine]; omega

def skipTagBlanks (cs : Chars) (resume : Resume) (i : Nat) (gaps : Gaps) : Option (Nat × Gaps) :=
  let j := skipWhile isLineBlank cs i
  if h : j < cs.size then
    if isLineEnd cs[j] then
      match resume with
      | none => none
      | some f =>
          let next := nextTagLine cs f j gaps
          skipTagBlanks cs (some f) next.1 next.2
    else some (j, gaps)
  else none
termination_by cs.size - i
decreasing_by
  have := le_skipWhile isLineBlank cs i
  have := lt_nextTagLine cs f (skipWhile isLineBlank cs i) gaps
  omega

def quotedValue (cs : Chars) (resume : Resume) (quote : Char) (i : Nat) (gaps : Gaps) :
    Option (Nat × Gaps) :=
  if h : i < cs.size then
    if cs[i] == quote then some (i + 1, gaps)
    else if isLineEnd cs[i] then
      match resume with
      | none => none
      | some f =>
          let next := nextTagLine cs f i gaps
          quotedValue cs (some f) quote next.1 next.2
    else quotedValue cs resume quote (i + 1) gaps
  else none
termination_by cs.size - i
decreasing_by
  · have := lt_nextTagLine cs f i gaps
    omega
  · omega

def isUnquotedValueChar (c : Char) : Bool :=
  !(c == '\x27' || c == '\x22' || c == ' ' || c == '=' || c == '>' || c == '<' || c == '\x60' ||
    isLineEnd c)

def attributeValue (cs : Chars) (resume : Resume) (i : Nat) (gaps : Gaps) :
    Option (Nat × Gaps) :=
  match cs[i]? with
  | none => none
  | some c =>
      if c == '\x27' || c == '\x22' then quotedValue cs resume c (i + 1) gaps
      else if isUnquotedValueChar c then some (skipWhile isUnquotedValueChar cs i, gaps)
      else none

def isAttributeStart (c : Char) : Bool :=
  c.isAlpha || c == '_' || c == ':'

def isAttributeChar (c : Char) : Bool :=
  c.isAlphanum || c == '_' || c == '.' || c == ':' || c == '-'

def tagAttribute (cs : Chars) (resume : Resume) (i : Nat) (gaps : Gaps) : Option (Nat × Gaps) :=
  match cs[i]? with
  | none => none
  | some c =>
      if isAttributeStart c then
        let stop := skipWhile isAttributeChar cs (i + 1)
        match skipTagBlanks cs resume stop gaps with
        | none => none
        | some (j, afterName) =>
            if cs.has j '=' then
              match skipTagBlanks cs resume (j + 1) afterName with
              | none => none
              | some (k, beforeValue) => attributeValue cs resume k beforeValue
            else some (stop, gaps)
      else none

/-- The position of the slash or the bracket that ends an open tag, from the end of its name on.
Each attribute needs blanks before it. -/
def tagAttributes (cs : Chars) (resume : Resume) (i : Nat) (gaps : Gaps) : Option (Nat × Gaps) :=
  match skipTagBlanks cs resume i gaps with
  | none => none
  | some (j, afterBlanks) =>
      if cs.has j '/' || cs.has j '>' then some (j, afterBlanks)
      else if j ≤ i then none
      else
        match tagAttribute cs resume j afterBlanks with
        | none => none
        | some (k, afterAttribute) =>
            if j < k && j < cs.size then tagAttributes cs resume k afterAttribute else none
termination_by cs.size - i
decreasing_by
  simp_all
  omega

def isTagNameChar (c : Char) : Bool :=
  c.isAlphanum || c == '-'

def tagEnd? (cs : Chars) (resume : Resume) (i : Nat) : Option (Nat × Gaps) :=
  let closing := cs.has (i + 1) '/'
  let name := if closing then i + 2 else i + 1
  if cs[name]?.any Char.isAlpha then
    let nameEnd := skipWhile isTagNameChar cs name
    let found :=
      if closing then some (nameEnd, [])
      else tagAttributes cs resume nameEnd []
    match found with
    | none => none
    | some (j, gaps) =>
        let j := skipWhile isLineBlank cs j
        let j := if !closing && cs.has j '/' then j + 1 else j
        if cs.has j '>' then some (j + 1, gaps) else none
  else none

def isTagLine (cs : Chars) (i : Nat) : Bool :=
  match tagEnd? cs none i with
  | some (j, _) => cs.isBlankLine j
  | none => false

def findEnd? (cs : Chars) (i : Nat) (word : String) : Option Nat :=
  (cs.find? word.toList i cs.size).map (· + word.length)

/-- The position after the inline HTML that starts with the less-than sign at `i`. A comment may
share its dashes with its end, so that it holds nothing. -/
def inlineHtmlEnd? (cs : Chars) (resume : Nat → Nat) (i : Nat) : Option (Nat × Gaps) :=
  let whole (stop : Option Nat) := stop.map fun j => (j, ([] : Gaps))
  match cs[i + 1]? with
  | some '!' =>
      if cs.matchesAt (i + 2) "--".toList then whole (findEnd? cs (i + 2) "-->")
      else if cs.matchesAt (i + 2) "[CDATA[".toList then whole (findEnd? cs (i + 9) "]]>")
      else if cs[i + 2]?.any Char.isAlpha then whole (findEnd? cs (i + 3) ">")
      else none
  | some '?' => whole (findEnd? cs (i + 2) "?>")
  | _ => tagEnd? cs (some resume) i

def sliceAround (cs : Chars) (i j : Nat) : Gaps → List Char
  | [] => cs.slice i j
  | (a, b) :: rest => cs.slice i a ++ sliceAround cs b j rest

end Proofread.Markdown
