set_option autoImplicit false

namespace Proofread.Yaml

/-- Everything is counted from zero; the index and the column count characters. -/
structure Mark where
  index : Nat
  line : Nat
  column : Nat
deriving DecidableEq, Repr

def isBreak (c : Char) : Bool :=
  c == '\n' || c.toNat == 0x2028 || c.toNat == 0x2029

def isBlank (c : Char) : Bool :=
  c == ' ' || c == '\t'

def isGap (c : Char) : Bool :=
  isBlank c || isBreak c

def isNameChar (c : Char) : Bool :=
  c.isAlphanum || c == '_' || c == '-'

def endsWord : List Char → Bool
  | [] => true
  | c :: _ => isGap c

namespace Mark

def start : Mark := ⟨0, 0, 0⟩

def after (m : Mark) (c : Char) : Mark :=
  if isBreak c then ⟨m.index + 1, m.line + 1, 0⟩ else ⟨m.index + 1, m.line, m.column + 1⟩

def isStart (m : Mark) : Bool :=
  m.line == 0 && m.column == 0

def render (m : Mark) : String :=
  "line " ++ toString (m.line + 1) ++ " column " ++ toString (m.column + 1)

end Mark

/-- Carriage returns, with or without a line feed after them, and next lines are line feeds. -/
def normalizeBreaks : List Char → List Char
  | [] => []
  | c :: rest =>
      if c == '\r' then
        if rest.head? == some '\n' then normalizeBreaks rest else '\n' :: normalizeBreaks rest
      else if c.toNat == 0x85 then '\n' :: normalizeBreaks rest
      else c :: normalizeBreaks rest

def isAllowed (c : Char) : Bool :=
  let n := c.toNat
  c == '\t' || c == '\n' || c == '\r' || (0x20 ≤ n && n ≤ 0x7E) || n == 0x85 ||
    (0xA0 ≤ n && n ≤ 0xD7FF) || (0xE000 ≤ n && n ≤ 0xFFFD) || 0x10000 ≤ n

def firstForbidden? : List Char → Nat → Option Nat
  | [], _ => none
  | c :: rest, offset =>
      if isAllowed c then firstForbidden? rest (offset + c.utf8Size) else some offset

structure Cursor where
  chars : List Char
  mark : Mark
deriving DecidableEq, Repr

namespace Cursor

def ofChars (chars : List Char) : Cursor :=
  ⟨chars, .start⟩

def column (c : Cursor) : Nat :=
  c.mark.column

def next? (c : Cursor) : Option Char :=
  c.chars.head?

def has (c : Cursor) (char : Char) : Bool :=
  c.chars.head? == some char

def skip (c : Cursor) : Cursor :=
  match c.chars with
  | [] => c
  | char :: rest => ⟨rest, c.mark.after char⟩

def skipMany (c : Cursor) : Nat → Cursor
  | 0 => c
  | n + 1 => c.skip.skipMany n

def span (c : Cursor) (inClass : Char → Bool) : List Char × Cursor :=
  let run := c.chars.takeWhile inClass
  (run, c.skipMany run.length)

def skipBlanks (c : Cursor) : Cursor :=
  (c.span isBlank).2

def skipComment (c : Cursor) : Cursor :=
  if c.has '#' then (c.span fun char => !isBreak char).2 else c

def skipBreak (c : Cursor) : Cursor :=
  if c.chars.head?.any isBreak then c.skip else c

def atLineEnd (c : Cursor) : Bool :=
  c.chars.head?.all isBreak

/-- Whether a line begins here that consists of this mark three times, or goes on with a blank after
it. -/
def startsWithMark (c : Cursor) (char : Char) : Bool :=
  c.column == 0 && c.chars.take 3 == [char, char, char] && endsWord (c.chars.drop 3)

def atDocumentMark (c : Cursor) : Bool :=
  c.startsWithMark '-' || c.startsWithMark '.'

end Cursor

end Proofread.Yaml
