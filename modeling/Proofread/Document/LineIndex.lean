import Proofread.Document.Point
import Proofread.Text.Blank

set_option autoImplicit false

namespace Proofread

namespace Text

def byteLength : List Char → Nat
  | [] => 0
  | c :: rest => c.utf8Size + byteLength rest

@[simp] theorem byte_length_nil : byteLength [] = 0 := rfl

@[simp] theorem byte_length_cons (c : Char) (rest : List Char) :
    byteLength (c :: rest) = c.utf8Size + byteLength rest := rfl

@[simp] theorem byte_length_append (a b : List Char) :
    byteLength (a ++ b) = byteLength a + byteLength b := by
  induction a with
  | nil => simp
  | cons c rest ih => simp [ih, Nat.add_assoc]

theorem byte_length_positive (c : Char) (rest : List Char) : 0 < byteLength (c :: rest) := by
  have width := c.utf8Size_pos
  rw [byte_length_cons]
  omega

/-- What follows the first `n` bytes. An offset inside a character counts as the one after it. -/
def dropBytes : Nat → List Char → List Char
  | _, [] => []
  | n, c :: rest => if n = 0 then c :: rest else dropBytes (n - c.utf8Size) rest

@[simp] theorem drop_bytes_append (read rest : List Char) :
    dropBytes (byteLength read) (read ++ rest) = rest := by
  induction read with
  | nil => cases rest <;> rfl
  | cons c read ih =>
      have positive := byte_length_positive c read
      rw [List.cons_append, dropBytes, if_neg (by omega)]
      simp only [byte_length_cons, Nat.add_sub_cancel_left, ih]

def takeBytes : Nat → List Char → List Char
  | _, [] => []
  | n, c :: rest => if n = 0 then [] else c :: takeBytes (n - c.utf8Size) rest

@[simp] theorem take_bytes_append (read rest : List Char) :
    takeBytes (byteLength read) (read ++ rest) = read := by
  induction read with
  | nil => cases rest <;> rfl
  | cons c read ih =>
      have positive := byte_length_positive c read
      rw [List.cons_append, takeBytes, if_neg (by omega)]
      simp only [byte_length_cons, Nat.add_sub_cancel_left, ih]

def splitBytes? : Nat → List Char → Option (List Char × List Char)
  | n, [] => if n = 0 then some ([], []) else none
  | n, c :: rest =>
      if n = 0 then some ([], c :: rest)
      else if c.utf8Size ≤ n then
        (splitBytes? (n - c.utf8Size) rest).map fun parts => (c :: parts.1, parts.2)
      else none

def slice? (text : List Char) (first last : Nat) : Option (List Char) :=
  if first ≤ last then
    (splitBytes? first text).bind fun parts =>
      (splitBytes? (last - first) parts.2).map Prod.fst
  else none

end Text

structure Line where
  start : Nat
  rest : List Char
deriving DecidableEq, Repr

def Line.following (offset : Nat) : List Char → List Line
  | [] => []
  | c :: rest =>
      let next := offset + c.utf8Size
      if c = '\n' then ⟨next, rest⟩ :: following next rest else following next rest

structure LineIndex where
  size : Nat
  first : Line
  others : List Line
deriving DecidableEq, Repr

namespace LineIndex

open Text

def ofText (text : List Char) : LineIndex :=
  ⟨byteLength text, ⟨0, text⟩, Line.following 0 text⟩

@[simp] theorem size_bytes (text : List Char) : (ofText text).size = byteLength text := rfl

def lastUpTo (offset number : Nat) (line : Line) : List Line → Nat × Line
  | [] => (number, line)
  | next :: rest =>
      if next.start ≤ offset then lastUpTo offset (number + 1) next rest else (number, line)

def lineAt (index : LineIndex) (offset : Nat) : Nat × Line :=
  lastUpTo offset 1 index.first index.others

def point (index : LineIndex) (offset : Nat) : Point :=
  let place := min offset index.size
  let (number, line) := index.lineAt place
  ⟨number, (takeBytes (place - line.start) line.rest).length + 1, place⟩

def starts (index : LineIndex) : List Nat :=
  (index.first :: index.others).map Line.start

/-- The number of starts up to an offset. The window from `low` to `high` is halved until it is empty,
and a read out of range ends the search. -/
def search? (starts : List Nat) (offset low high : Nat) : Option Nat :=
  if low < high then
    let middle := low + (high - low) / 2
    match starts[middle]? with
    | none => none
    | some start =>
        if start ≤ offset then search? starts offset (middle + 1) high
        else search? starts offset low middle
  else some low
termination_by high - low

def locate? (text : List Char) (offset : Nat) : Option Point :=
  let index := ofText text
  let place := min offset index.size
  (search? index.starts place 0 index.starts.length).bind fun number =>
    if number = 0 then none
    else (index.starts[number - 1]?).bind fun start =>
      (slice? text start place).map fun inside => ⟨number, inside.length + 1, place⟩

def between (index : LineIndex) (first last : Nat) : List Char :=
  let line := (index.lineAt first).2
  takeBytes (last - first) (dropBytes (first - line.start) line.rest)

/-- The span from `start` to `stop` without the white space at its end. -/
def span (index : LineIndex) (start stop : Nat) : Span :=
  let last := min stop index.size
  let first := min start last
  ⟨index.point first, index.point (first + byteLength (trimEnd (index.between first last)))⟩

end LineIndex

end Proofread
