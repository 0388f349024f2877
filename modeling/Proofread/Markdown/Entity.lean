import Proofread.Markdown.Chars
import Proofread.Markdown.EntityTable
import Proofread.Text.Punctuation

set_option autoImplicit false

namespace Proofread.Markdown

open Chars

def hexDigit? (c : Char) : Option Nat :=
  if '0' ≤ c && c ≤ '9' then some (c.toNat - 48)
  else if 'a' ≤ c && c ≤ 'f' then some (c.toNat - 87)
  else if 'A' ≤ c && c ≤ 'F' then some (c.toNat - 55)
  else none

def numeral (base : Nat) (cs : List Char) : Nat :=
  cs.foldl (fun n c => n * base + (hexDigit? c).getD 0) 0

def entities : List (String × String) :=
  ((entityTable.toList.splitOnP fun c => c == ' ' || c == '\n').map fun entry =>
    let name := entry.takeWhile (· != '=')
    let codes := (entry.drop (name.length + 1)).splitOnP (· == '+')
    (String.ofList name, String.ofList (codes.map fun code => Char.ofNat (numeral 16 code))))

def charOfCode (n : Nat) : Char :=
  if n = 0 ∨ ¬ n.isValidChar then '\uFFFD' else Char.ofNat n

def numericEntity? (cs : Chars) (i base most : Nat) (isDigit : Char → Bool) :
    Option (String × Nat) :=
  let stop := min (skipWhile isDigit cs i) (i + most)
  if i < stop && cs.has stop ';' then
    some (String.singleton (charOfCode (numeral base (cs.slice i stop))), stop + 1)
  else none

def entity? (cs : Chars) (i : Nat) : Option (String × Nat) :=
  if cs.has (i + 1) '#' then
    if cs.has (i + 2) 'x' || cs.has (i + 2) 'X' then
      numericEntity? cs (i + 3) 16 6 fun c => (hexDigit? c).isSome
    else numericEntity? cs (i + 2) 10 7 Char.isDigit
  else
    let stop := skipWhile Char.isAlphanum cs (i + 1)
    if cs.has stop ';' then
      (entities.lookup (cs.sliceString (i + 1) stop)).map fun value => (value, stop + 1)
    else none

def isEscape (cs : Chars) (i : Nat) : Bool :=
  cs.has i '\\' && cs[i + 1]?.any Text.isAsciiPunctuation

def unescapeFrom (cs : Chars) (i : Nat) : List Char :=
  if h : i < cs.size then
    let c := cs[i]
    if isEscape cs i then
      (cs[i + 1]?.toList) ++ unescapeFrom cs (i + 2)
    else if c == '&' then
      match entity? cs i with
      | some (value, j) =>
          value.toList ++ unescapeFrom cs (max (i + 1) j)
      | none => c :: unescapeFrom cs (i + 1)
    else if c == '\r' then unescapeFrom cs (i + 1)
    else c :: unescapeFrom cs (i + 1)
  else []
termination_by cs.size - i

def unescape (cs : List Char) : String :=
  String.ofList (unescapeFrom cs.toArray 0)

end Proofread.Markdown
