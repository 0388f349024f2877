import Proofread.Yaml.Scalar.Flow

set_option autoImplicit false

namespace Proofread.Yaml.Scalar

inductive Chomping where
  | strip
  | clip
  | keep
deriving DecidableEq, Repr

def chomping? (c : Char) : Option Chomping :=
  if c == '+' then some .keep else if c == '-' then some .strip else none

structure BlockHeader where
  chomping : Chomping
  increment : Option Nat
deriving DecidableEq, Repr

def readIncrement (start : Mark) (c : Cursor) : Except Fault (Option Nat × Cursor) :=
  match c.next? with
  | none => .ok (none, c)
  | some digit =>
      if digit == '0' then .error (.form .zeroIndentation c.mark (some (.blockScalar, start)))
      else if digit.isDigit then .ok (some (digit.toNat - 48), c.skip)
      else .ok (none, c)

def readChomping (c : Cursor) : Option Chomping × Cursor :=
  match c.next?.bind chomping? with
  | some chomping => (some chomping, c.skip)
  | none => (none, c)

def readIndicators (start : Mark) (c : Cursor) : Except Fault (BlockHeader × Cursor) :=
  match readChomping c with
  | (some chomping, c) => do
      let (increment, c) ← readIncrement start c
      .ok (⟨chomping, increment⟩, c)
  | (none, c) => do
      let (increment, c) ← readIncrement start c
      match increment with
      | none => .ok (⟨.clip, none⟩, c)
      | some n =>
          let (chomping, c) := readChomping c
          .ok (⟨chomping.getD .clip, some n⟩, c)

def readBlockHeader (start : Mark) (c : Cursor) : Except Fault (BlockHeader × Cursor) := do
  let (header, c) ← readIndicators start c
  let c := c.skipBlanks.skipComment
  if c.atLineEnd then .ok (header, c.skipBreak)
  else .error (.form .blockHeaderEnd c.mark (some (.blockScalar, start)))

structure Line where
  origin : Cursor
  content : List Char
  lineBreak : Option Char
deriving DecidableEq, Repr

def linesFrom (start : Cursor) (content : List Char) : List Char → Mark → List Line
  | [], _ => [⟨start, content, none⟩]
  | c :: rest, mark =>
      let after := mark.after c
      if isBreak c then ⟨start, content, some c⟩ :: linesFrom ⟨rest, after⟩ [] rest after
      else linesFrom start (content ++ [c]) rest after

def Line.spaces (line : Line) : Nat :=
  (line.content.takeWhile fun c => c == ' ').length

def Line.cursorAt (line : Line) (columns : Nat) : Cursor :=
  line.origin.skipMany columns

def Line.tabFault (start : Mark) (line : Line) (columns : Nat) : Fault :=
  .form .blockTab (line.cursorAt columns).mark (some (.blockScalar, start))

/-- The indentation that the first line with content has, or a blank line before it if that is
deeper; `deepest` is that of the lines before. -/
def deepestIndent (start : Mark) : List Line → Nat → Except Fault Nat
  | [], deepest => .ok deepest
  | line :: more, deepest =>
      let deepest := max deepest line.spaces
      match line.content.drop line.spaces with
      | [] => if line.lineBreak.isSome then deepestIndent start more deepest else .ok deepest
      | c :: _ => if c == '\t' then .error (line.tabFault start line.spaces) else .ok deepest

structure BlockText where
  text : List Char
  lastBreak : List Char
  blankBreaks : List Char
  leadingBlank : Bool
deriving DecidableEq, Repr

namespace BlockText

def empty : BlockText := ⟨[], [], [], false⟩

def addBlankLine (b : BlockText) (lineBreak : Char) : BlockText :=
  { b with blankBreaks := b.blankBreaks ++ [lineBreak] }

def join (literal : Bool) (b : BlockText) (nextBlank : Bool) : List Char :=
  if !literal && b.lastBreak == ['\n'] && !b.leadingBlank && !nextBlank then
    (if b.blankBreaks.isEmpty then [' '] else b.blankBreaks)
  else b.lastBreak ++ b.blankBreaks

def addLine (literal : Bool) (b : BlockText) (content : List Char) (lineBreak : Option Char) :
    BlockText :=
  let blank := content.head?.any isBlank
  ⟨b.text ++ b.join literal blank ++ content, lineBreak.toList, [], blank⟩

def chomp (b : BlockText) : Chomping → List Char
  | .strip => b.text
  | .clip => b.text ++ b.lastBreak
  | .keep => b.text ++ b.lastBreak ++ b.blankBreaks

end BlockText

/-- The lines that are indented by `indent` columns; blank ones may be indented less. -/
def readLines (literal : Bool) (start : Mark) (indent : Nat) (b : BlockText) :
    List Line → Except Fault (BlockText × Option Cursor)
  | [] => .ok (b, none)
  | line :: more =>
      let margin := min indent line.spaces
      match line.content.drop margin, line.lineBreak with
      | [], none => .ok (b, some (line.cursorAt margin))
      | [], some c => readLines literal start indent (b.addBlankLine c) more
      | c :: rest, lineBreak =>
          if margin = indent then
            readLines literal start indent (b.addLine literal (c :: rest) lineBreak) more
          else if c == '\t' then .error (line.tabFault start margin)
          else .ok (b, some (line.cursorAt margin))

def readBlock (literal : Bool) (start : Mark) (margin : Nat) (c : Cursor) :
    Except Fault Reading := do
  let (header, c) ← readBlockHeader start c
  let lines := linesFrom c [] c.chars c.mark
  let indent ← match header.increment with
    | some n => .ok (margin - 1 + n)
    | none => (deepestIndent start lines 0).map fun deepest => max deepest (max margin 1)
  let (b, rest) ← readLines literal start indent .empty lines
  .ok ⟨b.chomp header.chomping, true, rest.getD (c.skipMany c.chars.length)⟩

end Proofread.Yaml.Scalar
