import Proofread.Markdown.Definition
import Proofread.Markdown.Token

set_option autoImplicit false

namespace Proofread.Markdown

open Chars

inductive Piece where
  | source (start stop : Nat)
  | spaces (count place : Nat)
deriving DecidableEq, Repr

inductive Leaf where
  | paragraph (tight : Bool) (tokens : List Token)
  | heading (level : HeadingLevel) (tokens : List Token)
  | thematicBreak
  | indentedCode (pieces : List Piece)
  | fencedCode (info : String) (pieces : List Piece)
  | html (pieces : List Piece)
deriving DecidableEq, Repr

inductive Block where
  | leaf (content : Leaf) (start stop : Nat)
  | container (kind : Container) (start stop : Nat) (blocks : List Block)
deriving Repr

structure LeafRead where
  content : Leaf
  start : Nat
  stop : Nat
  next : Nat

def LeafRead.block (read : LeafRead) : Block :=
  .leaf read.content read.start read.stop

/-- A line of a literal, after `spaces` columns that a tab left over. A line ends in a line feed
alone. -/
def linePieces (cs : Chars) (spaces start stop : Nat) : List Piece :=
  let lead := if 0 < spaces then [Piece.spaces spaces start] else []
  if start + 2 ≤ stop && cs.has (stop - 2) '\r' && cs[stop - 1]?.any (·.toNat < 0x80) then
    lead ++ [.source start (stop - 2), .source (stop - 1) stop]
  else lead ++ [.source start stop]

def trailingBackslash? (lineBreak : Option Token) : Option Nat :=
  match lineBreak with
  | some ⟨.hardBreak true, start, _⟩ => some start
  | _ => none

def keepBackslash (line : TokenLine) : TokensRev :=
  match trailingBackslash? line.lineBreak with
  | some i => pushText line.tokens i (i + 1)
  | none => line.tokens

def trimLastToken (cs : Chars) : TokensRev → TokensRev
  | [] => []
  | token :: rest => { token with stop := backWhile isLineBlank cs 0 token.stop } :: rest

def paragraphFrom (cs : Chars) (containers : List Container) (start i : Nat)
    (tokens : TokensRev) : LeafRead :=
  let line := tokenLine cs i tokens
  let next := line.stop
  let (same, cursor) := enterLine cs containers next
  let (indented, missing) := cursor.skipSpaces cs 4
  let ended : LeafRead := ⟨.paragraph false (keepBackslash line).reverse, start, next, next⟩
  let heading := if missing ≠ 0 && same then underline? cs indented.pos else none
  match heading with
  | some (level, stop) =>
      let kept := keepBackslash { line with tokens := trimLastToken cs line.tokens }
      ⟨.heading level kept.reverse, start, stop, stop⟩
  | none =>
      if missing ≠ 0 && interruptsParagraph cs indented.pos same then ended
      else
        let content := indented.skipAllSpaces cs
        if content.isAtLineEnd cs then ended
        else if i < content.pos && i < cs.size then
          paragraphFrom cs containers start content.pos (line.lineBreak.toList ++ line.tokens)
        else ended
termination_by cs.size - i
decreasing_by simp +zetaDelta at *; omega

def paragraph (cs : Chars) (containers : List Container) (start : Nat) : LeafRead :=
  paragraphFrom cs containers start start []

def headingContentEnd (cs : Chars) (start stop : Nat) : Nat :=
  let limit := backWhile (fun c => isLineEnd c || c == ' ') cs start stop
  let closer := backWhile (· == '#') cs start limit
  if closer ≤ start then start
  else
    let before := backWhile (· == ' ') cs start closer
    if before < closer then before else limit

def markedHeading (cs : Chars) (start : Nat) (level : HeadingLevel) (marked : Nat) : LeafRead :=
  match cs.lineEnd? marked with
  | some stop => ⟨.heading level [], start, stop, stop⟩
  | none =>
      let content := skipWhile isLineBlank cs marked
      let line := tokenLine cs content []
      let tokens := match line.lineBreak with
        | some ⟨.hardBreak true, i, j⟩ => pushText line.tokens i j
        | _ => line.tokens
      let last := headingContentEnd cs content line.stop
      let kept := match tokens with
        | [] => []
        | token :: rest => if last ≤ content then rest else { token with stop := last } :: rest
      ⟨.heading level kept.reverse, start, line.stop, line.stop⟩

structure IndentedLines where
  kept : List Piece
  keptStop : Nat
  all : List Piece
  next : Nat
  endsBlank : Bool

def indentedLines (cs : Chars) (containers : List Container) (i spaces : Nat) (blank : Bool)
    (before : IndentedLines) : IndentedLines :=
  let next := cs.nextLine i
  let all := before.all ++ linePieces cs spaces i next
  let lines : IndentedLines :=
    if blank then { before with all := all, next := next, endsBlank := true }
    else ⟨all, next, all, next, false⟩
  let (same, cursor) := enterLine cs containers next
  let (indented, missing) := cursor.skipSpaces cs 4
  if same && (missing == 0 || indented.isAtLineEnd cs) && i < indented.pos &&
      indented.pos < cs.size then
    indentedLines cs containers indented.pos indented.pending (cs.isBlankLine indented.pos) lines
  else lines
termination_by cs.size - i
decreasing_by simp +zetaDelta at *; omega

/-- Reads the fenced lines from the one at `i` on. The result is the pieces, the end of the block
and the position of the next one. -/
def fencedLines (cs : Chars) (containers : List Container) (fence : Fence) (indent i : Nat)
    (pieces : List Piece) : List Piece × Nat × Nat :=
  let (same, cursor) := enterLine cs containers i
  if !same then (pieces, i, i)
  else
    let content := (cursor.skipSpaces cs indent).1
    let (closing, missing) := content.skipSpaces cs (4 - indent)
    let close := if missing ≠ 0 then closingFence? cs fence closing.pos else none
    match close with
    | some stop => (pieces, stop, (cs.blankLine? stop).getD stop)
    | none =>
        let next := cs.nextLine content.pos
        let pieces := pieces ++ linePieces cs content.pending content.pos next
        if i < next && i < cs.size then fencedLines cs containers fence indent next pieces
        else (pieces, next, next)
termination_by cs.size - i
decreasing_by simp +zetaDelta at *; omega

def fencedCode (cs : Chars) (containers : List Container) (start indent : Nat) (fence : Fence) :
    LeafRead :=
  let infoStart := skipWhile isLineBlank cs (start + fence.length)
  let next := cs.nextLine infoStart
  let infoStop := backWhile isAsciiBlank cs infoStart next
  let info := unescape (cs.slice infoStart infoStop)
  let (pieces, stop, next) := fencedLines cs containers fence indent next []
  ⟨.fencedCode info pieces, start, stop, next⟩

/-- Reads the lines of an HTML block. It ends with the line that holds `closer`, or before a blank
line if there is no closer. The result is the pieces, the end of the block and the position of the
next one. -/
def htmlLines (cs : Chars) (containers : List Container) (closer : Option String) (i spaces : Nat)
    (pieces : List Piece) : List Piece × Nat × Nat :=
  let next := cs.nextLine i
  let pieces := pieces ++ linePieces cs spaces i next
  let (same, cursor) := enterLine cs containers next
  let closed := match closer with
    | some word => (cs.find? word.toList i next).isSome
    | none => cursor.isAtLineEnd cs
  if !same || closed then (pieces, next, next)
  else
    let content := cursor.pos
    let blank := match closer with
      | some _ => false
      | none => cs.isBlankLine content
    if cs.atEnd content || blank then (pieces, content, next)
    else if i < content && i < cs.size then
      htmlLines cs containers closer content cursor.pending pieces
    else (pieces, next, next)
termination_by cs.size - i
decreasing_by simp +zetaDelta at *; omega

def htmlBlock (cs : Chars) (containers : List Container) (closer : Option String)
    (start spaces : Nat) : LeafRead :=
  let (pieces, stop, next) := htmlLines cs containers closer start spaces []
  ⟨.html pieces, start, stop, next⟩

def htmlStart? (cs : Chars) (i : Nat) : Option (Option String) :=
  if cs.has i '<' then
    match htmlBlockEnd? cs (i + 1) with
    | some closer => some (some closer)
    | none => if startsBlockTag cs (i + 1) || isTagLine cs i then some none else none
  else none

end Proofread.Markdown
