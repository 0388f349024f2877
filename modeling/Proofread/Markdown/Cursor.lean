import Proofread.Markdown.Chars

set_option autoImplicit false

namespace Proofread.Markdown

structure Cursor where
  pos : Nat
  tabOrigin : Nat
  pending : Nat
deriving DecidableEq, Repr

structure ListMarker where
  char : Char
  indent : Nat
deriving DecidableEq, Repr

def isOrderedMarker (c : Char) : Bool :=
  c == '.' || c == ')'

def isBulletMarker (c : Char) : Bool :=
  c == '-' || c == '+' || c == '*'

namespace Cursor

def ofPos (pos : Nat) : Cursor :=
  ⟨pos, pos, 0⟩

/-- Reads spaces and tabs worth `n` columns; the second result is what could not be read. -/
def readColumns (cs : Chars) (cursor : Cursor) (n : Nat) : Cursor × Nat :=
  match n with
  | 0 => (cursor, 0)
  | n + 1 =>
      match cs[cursor.pos]? with
      | some ' ' => readColumns cs { cursor with pos := cursor.pos + 1 } n
      | some '\t' =>
          let width := 4 - (cursor.pos - cursor.tabOrigin) % 4
          let next : Cursor := ⟨cursor.pos + 1, cursor.pos + 1, width - (n + 1)⟩
          readColumns cs next (n + 1 - width)
      | _ => (cursor, n + 1)
termination_by n
decreasing_by
  · omega
  · have := Nat.mod_lt (cursor.pos - cursor.tabOrigin) (show 4 > 0 by decide)
    omega

def skipSpaces (cs : Chars) (cursor : Cursor) (n : Nat) : Cursor × Nat :=
  let ready := min cursor.pending n
  readColumns cs { cursor with pending := cursor.pending - ready } (n - ready)

def indentUpTo (cs : Chars) (cursor : Cursor) (n : Nat) : Cursor × Nat :=
  let (next, missing) := cursor.skipSpaces cs n
  (next, n - missing)

def skipAllSpaces (cs : Chars) (cursor : Cursor) : Cursor :=
  { cursor with pos := cs.skipWhile isTabOrSpace cursor.pos, pending := 0 }

def isAtLineEnd (cs : Chars) (cursor : Cursor) : Bool :=
  cs.isAtLineEnd cursor.pos

def quoteMarker? (cs : Chars) (cursor : Cursor) : Option Cursor :=
  if cs.has cursor.pos '>' then
    some (({ cursor with pos := cursor.pos + 1 }).skipSpaces cs 1).1
  else none

def afterMarker? (cs : Chars) (cursor : Cursor) : Option Cursor :=
  let (next, missing) := cursor.skipSpaces cs 1
  if missing == 0 || next.isAtLineEnd cs then some next else none

/-- The content of an item begins after the spaces that follow the marker, unless these are enough
for indented code or the line is blank. -/
def finishMarker (cs : Chars) (cursor : Cursor) (char : Char) (indent : Nat) :
    ListMarker × Cursor :=
  if cs.isBlankLine cursor.pos then (⟨char, indent⟩, cursor)
  else
    let (next, spaces) := cursor.indentUpTo cs 4
    if spaces < 4 then (⟨char, indent + spaces⟩, next) else (⟨char, indent⟩, cursor)

end Cursor

end Proofread.Markdown
