import Proofread.Markdown.Block

set_option autoImplicit false

namespace Proofread.Markdown

open Chars

structure OpenContainer where
  kind : Container
  start : Nat
  blocks : List Block

structure Outline where
  spine : List OpenContainer
  blocks : List Block
  emptyItem : Option Nat
  afterBlank : Bool
  definitions : List Definition

namespace Outline

def empty : Outline :=
  ⟨[], [], none, false, []⟩

def containers (outline : Outline) : List Container :=
  outline.spine.reverse.map (·.kind)

def push (outline : Outline) (block : Block) : Outline :=
  match outline.spine with
  | [] => { outline with blocks := block :: outline.blocks }
  | top :: rest => { outline with spine := { top with blocks := block :: top.blocks } :: rest }

def openContainer (outline : Outline) (kind : Container) (start : Nat) : Outline :=
  { outline with spine := ⟨kind, start, []⟩ :: outline.spine }

def tightenItem : Block → Block
  | .container kind start stop blocks =>
      .container kind start stop (blocks.map fun
        | .leaf (.paragraph _ tokens) i j => .leaf (.paragraph true tokens) i j
        | block => block)
  | block => block

def close (outline : Outline) (stop : Nat) : Outline :=
  match outline.spine with
  | [] => outline
  | top :: rest =>
      let blocks := top.blocks.reverse
      let outer := { outline with spine := rest }
      match top.kind with
      | .list true marker =>
          { outer with emptyItem := none }.push
            (.container (.list true marker) top.start stop (blocks.map tightenItem))
      | kind => outer.push (.container kind top.start stop blocks)

def closeMany (outline : Outline) (stop : Nat) : Nat → Outline
  | 0 => outline
  | n + 1 => (outline.close stop).closeMany stop n

/-- An item may begin with at most one blank line; a second one closes it. -/
def finishEmptyItem (outline : Outline) : Outline :=
  let closed := match outline.emptyItem, outline.spine with
    | some start, ⟨.item _, _, _⟩ :: _ => if outline.afterBlank then outline.close start else outline
    | _, _ => outline
  { closed with emptyItem := none }

def loosenAround (outline : Outline) : Outline :=
  if outline.afterBlank then
    let spine := match outline.spine with
      | top :: ⟨.list _ marker, start, blocks⟩ :: rest =>
          top :: ⟨.list false marker, start, blocks⟩ :: rest
      | spine => spine
    { outline with spine := spine, afterBlank := false }
  else outline

def finishList (outline : Outline) (stop : Nat) : Outline :=
  let outline := outline.finishEmptyItem
  let outline := match outline.spine with
    | ⟨.list _ _, _, _⟩ :: _ => outline.close stop
    | _ => outline
  outline.loosenAround

def continueList (outline : Outline) (start : Nat) (marker : Char) : Outline :=
  let outline := outline.finishEmptyItem
  let fresh (outline : Outline) : Outline :=
    { outline.openContainer (.list true marker) start with afterBlank := false }
  match outline.spine with
  | [] => fresh outline
  | ⟨.list tight existing, first, blocks⟩ :: rest =>
      if existing == marker then
        if outline.afterBlank then
          { outline with spine := ⟨.list false existing, first, blocks⟩ :: rest, afterBlank := false }
        else { outline with spine := ⟨.list tight existing, first, blocks⟩ :: rest }
      else fresh (outline.finishList start)
  | _ => fresh (outline.finishList start)

def blankLine (outline : Outline) : Outline :=
  match outline.spine with
  | ⟨.blockquote, _, _⟩ :: _ => outline
  | ⟨.item _, start, blocks⟩ :: rest =>
      if outline.emptyItem.isSome then
        { outline with spine := ⟨.item 0, start, blocks⟩ :: rest, afterBlank := true }
      else { outline with afterBlank := true }
  | _ => { outline with afterBlank := true }

def addLeaf (outline : Outline) (read : LeafRead) : Outline × Nat :=
  (outline.push read.block, read.next)

end Outline

/-- The containers that a line opens, and the cursor after their marks. A line that ends after a
list marker is read, and `next` is the position after it. -/
structure Opened where
  outline : Outline
  cursor : Cursor
  next : Option Nat

def openContainers (cs : Chars) (lineStart : Nat) (outline : Outline) (cursor : Cursor) :
    Opened :=
  let (indented, columns) := cursor.indentUpTo cs 4
  if 4 ≤ columns then ⟨outline, cursor, none⟩
  else
    match listMarker? cs indented columns with
    | some (marker, content) =>
        let start := indented.pos - columns
        let outline := outline.continueList start marker.char
        let outline := outline.openContainer (.item marker.indent) start
        match cs.blankLine? content.pos with
        | some next => ⟨{ outline with emptyItem := some next }, content, some next⟩
        | none =>
            if cursor.pos < content.pos && cursor.pos < cs.size then
              openContainers cs lineStart outline content
            else ⟨outline, content, none⟩
    | none =>
        match indented.quoteMarker? cs with
        | some content =>
            let outline := (outline.finishList lineStart).openContainer .blockquote indented.pos
            if cursor.pos < content.pos && cursor.pos < cs.size then
              openContainers cs lineStart outline content
            else ⟨outline, content, none⟩
        | none => ⟨outline, cursor, none⟩
termination_by cs.size - cursor.pos
decreasing_by
  · simp +zetaDelta at *; omega
  · simp +zetaDelta at *; omega

/-- A paragraph and the definitions before it. These behave like lines of a paragraph: the lines
after them may be lazy. `lineStart` is where the line of `i` starts. -/
def definitionsOrParagraph (cs : Chars) (outline : Outline) (lineStart i : Nat) : Outline × Nat :=
  match definition? cs outline.containers i with
  | none =>
      let outline := outline.finishList i
      outline.addLeaf (paragraph cs outline.containers i)
  | some found =>
      let outline := { outline with definitions := found.definition :: outline.definitions }
      match cs.blankLine? found.stop with
      | none => (outline.finishList lineStart, found.stop)
      | some next =>
          let (same, cursor) := enterLine cs outline.containers next
          let (indented, missing) := cursor.skipSpaces cs 4
          if missing ≠ 0 && interruptsParagraph cs indented.pos same then
            (outline.finishList lineStart, next)
          else
            let content := (indented.skipAllSpaces cs).pos
            if i < content && i < cs.size then
              definitionsOrParagraph cs outline next content
            else (outline.finishList lineStart, next)
termination_by cs.size - i
decreasing_by simp +zetaDelta at *; omega

def readLeaf (cs : Chars) (outline : Outline) (lineStart : Nat) (cursor : Cursor) :
    Outline × Nat :=
  let (indented, columns) := cursor.indentUpTo cs 4
  let i := indented.pos
  let finished := outline.finishList lineStart
  let containers := finished.containers
  if columns = 4 then
    let lines := indentedLines cs containers i indented.pending false ⟨[], i, [], i, false⟩
    let block := Block.leaf (.indentedCode lines.kept) i lines.keptStop
    ({ finished with afterBlank := lines.endsBlank }.push block, lines.next)
  else
    match htmlStart? cs i with
    | some closer =>
        finished.addLeaf (htmlBlock cs containers closer i (max cursor.pending columns))
    | none =>
        match thematicBreak? cs i with
        | some next => finished.addLeaf ⟨.thematicBreak, i, next, next⟩
        | none =>
            match headingMarks? cs i with
            | some (level, marked) => finished.addLeaf (markedHeading cs i level marked)
            | none =>
                match fence? cs i with
                | some fence => finished.addLeaf (fencedCode cs containers i columns fence)
                | none => definitionsOrParagraph cs outline lineStart i

def readBlock (cs : Chars) (outline : Outline) (lineStart : Nat) : Outline × Nat :=
  let (matched, cursor) := matchContainers cs outline.containers (.ofPos lineStart)
  let outline := outline.closeMany lineStart (outline.spine.length - matched)
  let opened := openContainers cs lineStart outline cursor
  match opened.next with
  | some next => (opened.outline, next)
  | none =>
      match cs.blankLine? opened.cursor.pos with
      | some next => (opened.outline.blankLine, next)
      | none => readLeaf cs opened.outline lineStart opened.cursor

def readBlocks (cs : Chars) (outline : Outline) (i : Nat) : Outline :=
  if i < cs.size then
    let (outline, next) := readBlock cs outline i
    if i < next then readBlocks cs outline next
    else outline
  else outline.closeMany i outline.spine.length
termination_by cs.size - i
decreasing_by omega

structure BlockTree where
  blocks : List Block
  definitions : List Definition

def BlockTree.ofChars (cs : Chars) : BlockTree :=
  let outline := readBlocks cs .empty 0
  ⟨outline.blocks.reverse, outline.definitions.reverse⟩

end Proofread.Markdown
