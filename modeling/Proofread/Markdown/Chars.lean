set_option autoImplicit false

namespace Proofread.Markdown

abbrev Chars := Array Char

def isLineBlank (c : Char) : Bool :=
  c == ' ' || c == '\t' || c == '\x0b' || c == '\x0c'

def isLineEnd (c : Char) : Bool :=
  c == '\n' || c == '\r'

def isAsciiBlank (c : Char) : Bool :=
  isLineBlank c || isLineEnd c

def isTabOrSpace (c : Char) : Bool :=
  c == ' ' || c == '\t'

namespace Chars

def skipWhile (p : Char → Bool) (cs : Chars) (i : Nat) : Nat :=
  if h : i < cs.size then
    if p cs[i] then skipWhile p cs (i + 1) else i
  else i
termination_by cs.size - i

theorem le_skipWhile (p : Char → Bool) (cs : Chars) (i : Nat) : i ≤ skipWhile p cs i := by
  fun_induction skipWhile p cs i with
  | case1 i _ _ ih => omega
  | case2 => exact Nat.le_refl _
  | case3 => exact Nat.le_refl _

/-- The least position from `low` on, not past `i`, such that all characters from there to `i`
satisfy `p`. -/
def backWhile (p : Char → Bool) (cs : Chars) (low : Nat) : Nat → Nat
  | 0 => 0
  | i + 1 =>
      if low ≤ i then
        match cs[i]? with
        | some c => if p c then backWhile p cs low i else i + 1
        | none => i + 1
      else i + 1

def has (cs : Chars) (i : Nat) (c : Char) : Bool :=
  cs[i]? == some c

def runLength (cs : Chars) (c : Char) (i : Nat) : Nat :=
  skipWhile (· == c) cs i - i

def atEnd (cs : Chars) (i : Nat) : Bool :=
  cs.size ≤ i

def slice (cs : Chars) (i j : Nat) : List Char :=
  (cs.extract i j).toList

def sliceString (cs : Chars) (i j : Nat) : String :=
  String.ofList (cs.slice i j)

def lineEnd? (cs : Chars) (i : Nat) : Option Nat :=
  match cs[i]? with
  | none => some i
  | some '\n' => some (i + 1)
  | some '\r' => if cs.has (i + 1) '\n' then some (i + 2) else some (i + 1)
  | some _ => none

def isAtLineEnd (cs : Chars) (i : Nat) : Bool :=
  (cs.lineEnd? i).isSome

def blankLine? (cs : Chars) (i : Nat) : Option Nat :=
  cs.lineEnd? (skipWhile isLineBlank cs i)

def isBlankLine (cs : Chars) (i : Nat) : Bool :=
  (cs.blankLine? i).isSome

def nextLine (cs : Chars) (i : Nat) : Nat :=
  let stop := skipWhile (· != '\n') cs i
  if stop < cs.size then stop + 1 else stop

def matchesAt (cs : Chars) (i : Nat) : List Char → Bool
  | [] => true
  | c :: rest => cs.has i c && matchesAt cs (i + 1) rest

def matchesAnyCaseAt (cs : Chars) (i : Nat) : List Char → Bool
  | [] => true
  | c :: rest =>
      match cs[i]? with
      | some d => d.toLower == c && matchesAnyCaseAt cs (i + 1) rest
      | none => false

def find? (cs : Chars) (word : List Char) (i stop : Nat) : Option Nat :=
  if i < stop then
    if cs.matchesAt i word then some i else find? cs word (i + 1) stop
  else none
termination_by stop - i

end Chars

end Proofread.Markdown
