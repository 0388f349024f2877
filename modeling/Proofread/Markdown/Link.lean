import Proofread.Markdown.Entity
import Proofread.Text.Blank
import Proofread.Text.Casing

set_option autoImplicit false

namespace Proofread.Markdown

open Chars

structure Destination where
  stop : Nat
  source : List Char

def bracketedDestination? (cs : Chars) (start i : Nat) : Option Destination :=
  if h : i < cs.size then
    let c := cs[i]
    if isLineEnd c || c == '<' then none
    else if c == '>' then some ⟨i + 1, cs.slice start i⟩
    else if isEscape cs i then bracketedDestination? cs start (i + 2)
    else bracketedDestination? cs start (i + 1)
  else none
termination_by cs.size - i

/-- Without brackets a destination ends at a blank or control character, or at a parenthesis that
does not match one inside it. Parentheses may be nested as deep as `limit + 1`. -/
def bareDestination? (cs : Chars) (limit start i depth : Nat) : Option Destination :=
  let finish := if depth == 0 then some ⟨i, cs.slice start i⟩ else none
  if h : i < cs.size then
    let c := cs[i]
    if c.toNat ≤ 0x20 then finish
    else if c == '(' then
      if limit < depth then none else bareDestination? cs limit start (i + 1) (depth + 1)
    else if c == ')' then
      if depth == 0 then finish else bareDestination? cs limit start (i + 1) (depth - 1)
    else if isEscape cs i then bareDestination? cs limit start (i + 2) depth
    else bareDestination? cs limit start (i + 1) depth
  else finish
termination_by cs.size - i

def destination? (cs : Chars) (limit i : Nat) : Option Destination :=
  if cs.has i '<' then bracketedDestination? cs (i + 1) (i + 1)
  else bareDestination? cs limit i i 0

def titleCloser? (c : Char) : Option Char :=
  if c == '\x22' || c == '\x27' then some c
  else if c == '(' then some ')'
  else none

def titleEnd? (cs : Chars) (opener closer : Char) (i : Nat) : Option Nat :=
  if h : i < cs.size then
    if cs[i] == closer then some (i + 1)
    else if cs[i] == opener then none
    else if isEscape cs i then titleEnd? cs opener closer (i + 2)
    else titleEnd? cs opener closer (i + 1)
  else none
termination_by cs.size - i

def inlineTitle? (cs : Chars) (i : Nat) : Option Nat :=
  match cs[i]? with
  | none => none
  | some opener =>
      match titleCloser? opener with
      | none => none
      | some closer => titleEnd? cs opener closer (i + 1)

abbrev LabelResume := Nat → Option Nat

def labelBlanks? (cs : Chars) (resume : LabelResume) (i : Nat) (newlineSeen : Bool) :
    Option Nat :=
  let j := skipWhile isLineBlank cs i
  if h : j < cs.size then
    if isLineEnd cs[j] then
      if newlineSeen then none
      else
        match resume ((cs.lineEnd? j).getD (j + 1)) with
        | none => none
        | some k => if j < k then labelBlanks? cs resume k true else none
    else some j
  else some j
termination_by cs.size - i
decreasing_by
  have := le_skipWhile isLineBlank cs i
  omega

/-- A label: the position after its closing bracket, and its characters in reverse with each run of
blanks made one space. -/
structure Label where
  stop : Nat
  name : List Char

def labelFrom? (cs : Chars) (resume : LabelResume) (i count : Nat) (name : List Char)
    (hasContent : Bool) : Option Label :=
  if 1000 ≤ count then none
  else if h : i < cs.size then
    let c := cs[i]
    if c == '[' then none
    else if c == ']' then
      if hasContent then some ⟨i + 1, name⟩ else none
    else if c == '\\' then
      match cs[i + 1]? with
      | none => none
      | some d => labelFrom? cs resume (i + 2) (count + 2) (d :: c :: name) true
    else if isAsciiBlank c then
      match labelBlanks? cs resume i false with
      | none => none
      | some j =>
          if i < j then labelFrom? cs resume j (count + (j - i)) (' ' :: name) hasContent
          else none
    else labelFrom? cs resume (i + 1) (count + 1) (c :: name) true
  else none
termination_by cs.size - i

def normalizeLabel (name : List Char) : List Char :=
  Text.foldCase (Text.trim name.reverse)

def label? (cs : Chars) (resume : LabelResume) (i : Nat) : Option (Nat × List Char) :=
  (labelFrom? cs resume i 0 [] false).map fun label => (label.stop, normalizeLabel label.name)

def isSchemeChar (c : Char) : Bool :=
  c.isAlphanum || c == '.' || c == '-' || c == '+'

def uriEnd? (cs : Chars) (i : Nat) : Option Nat :=
  let colon := skipWhile isSchemeChar cs i
  let length := colon - i
  if cs[i]?.any Char.isAlpha && cs.has colon ':' && 2 ≤ length && length ≤ 32 then
    let stop := skipWhile (fun c => !(c == '>' || c == '<' || c.toNat ≤ 0x20)) cs (colon + 1)
    if cs.has stop '>' then some stop else none
  else none

def isMailboxChar (c : Char) : Bool :=
  c.isAlphanum || ".!#$%&\x27*+/=?^_\x60\x7b|\x7d~-".toList.contains c

def domainEnd? (cs : Chars) (i : Nat) : Option Nat :=
  let stop := skipWhile (fun c => c.isAlphanum || c == '-') cs i
  if h : i < stop then
    if 63 < stop - i || cs.has i '-' || cs.has (stop - 1) '-' then none
    else if cs.has stop '.' ∧ stop < cs.size then domainEnd? cs (stop + 1)
    else some stop
  else none
termination_by cs.size - i

def emailEnd? (cs : Chars) (i : Nat) : Option Nat :=
  let sign := skipWhile isMailboxChar cs i
  if i < sign && cs.has sign '@' then
    match domainEnd? cs (sign + 1) with
    | some stop => if cs.has stop '>' then some stop else none
    | none => none
  else none

def addressEnd? (cs : Chars) (i : Nat) : Option Nat :=
  (uriEnd? cs i).or (emailEnd? cs i)

end Proofread.Markdown
