import Proofread.Yaml.Name
import Proofread.Yaml.Scalar.Block

set_option autoImplicit false

namespace Proofread.Yaml

structure PossibleKey where
  position : Nat
  mark : Mark
  /-- Nothing else than a key may begin there. -/
  required : Bool
deriving DecidableEq, Repr

structure Lexer where
  cursor : Cursor
  tokens : Array Token
  key : Option PossibleKey
  outerKeys : List (Option PossibleKey)
  indents : List Nat
  keyAllowed : Bool

namespace Lexer

def ofChars (chars : List Char) : Lexer :=
  ⟨.ofChars chars, #[], none, [], [], true⟩

def mark (l : Lexer) : Mark := l.cursor.mark

def inFlow (l : Lexer) : Bool := !l.outerKeys.isEmpty

def margin (l : Lexer) : Nat :=
  match l.indents with
  | [] => 0
  | indent :: _ => indent + 1

def push (l : Lexer) (kind : TokenKind) (start stop : Mark) : Lexer :=
  { l with tokens := l.tokens.push ⟨kind, start, stop⟩ }

def keyFault (l : Lexer) (key : PossibleKey) : Fault :=
  .form .keyColon l.mark (some (.simpleKey, key.mark))

def PossibleKey.isStale (key : PossibleKey) (here : Mark) : Bool :=
  key.mark.line < here.line || key.mark.index + 1024 < here.index

def dropIfStale (l : Lexer) (slot : Option PossibleKey) : Except Fault (Option PossibleKey) :=
  match slot with
  | none => .ok none
  | some key =>
      if PossibleKey.isStale key l.mark then
        if key.required then .error (l.keyFault key) else .ok none
      else .ok (some key)

def dropStaleOuter (l : Lexer) : List (Option PossibleKey) →
    Except Fault (List (Option PossibleKey))
  | [] => .ok []
  | slot :: outer => do
      let outer ← l.dropStaleOuter outer
      let slot ← l.dropIfStale slot
      .ok (slot :: outer)

def dropStaleKeys (l : Lexer) : Except Fault Lexer := do
  let outer ← l.dropStaleOuter l.outerKeys
  let key ← l.dropIfStale l.key
  .ok { l with key := key, outerKeys := outer }

def dropKey (l : Lexer) : Except Fault Lexer :=
  match l.key with
  | none => .ok l
  | some key => if key.required then .error (l.keyFault key) else .ok { l with key := none }

def saveKey (l : Lexer) : Except Fault Lexer :=
  if l.keyAllowed then do
    let required := !l.inFlow && l.indents.head? == some l.cursor.column
    let after ← l.dropKey
    .ok { after with key := some ⟨l.tokens.size, l.mark, required⟩ }
  else .ok l

def openBlock (l : Lexer) (kind : TokenKind) (position : Nat) (start : Mark) : Lexer :=
  if !l.inFlow && l.margin ≤ start.column then
    { l with
      indents := start.column :: l.indents
      tokens := l.tokens.insertIdxIfInBounds position ⟨kind, start, start⟩ }
  else l

def closeFrom (l : Lexer) (margin : Nat) : List Nat → Lexer
  | [] => { l with indents := [] }
  | indent :: outer =>
      if margin ≤ indent then (l.push .blockEnd l.mark l.mark).closeFrom margin outer
      else { l with indents := indent :: outer }

def closeBlocks (l : Lexer) (margin : Nat) : Lexer :=
  if l.inFlow then l else l.closeFrom margin l.indents

def isByteOrderMark (c : Char) : Bool :=
  c.toNat == 0xFEFF

/-- Passes over blanks, comments and line breaks. A tab at the start of a line is no blank if a key
may begin there. The result says whether a key may begin after them. -/
def skipSpace (inFlow keyAllowed inComment : Bool) : List Char → Mark → Bool × Cursor
  | [], mark => (keyAllowed, ⟨[], mark⟩)
  | c :: rest, mark =>
      let after := mark.after c
      if isBreak c then skipSpace inFlow (keyAllowed || !inFlow) false rest after
      else if inComment then skipSpace inFlow keyAllowed true rest after
      else if isByteOrderMark c && mark.column == 0 then
        skipSpace inFlow keyAllowed false rest after
      else if c == ' ' || (c == '\t' && (inFlow || !keyAllowed)) then
        skipSpace inFlow keyAllowed false rest after
      else if c == '#' then skipSpace inFlow keyAllowed true rest after
      else (keyAllowed, ⟨c :: rest, mark⟩)

def afterSpace (l : Lexer) : Lexer :=
  let (keyAllowed, cursor) := skipSpace l.inFlow l.keyAllowed false l.cursor.chars l.mark
  { l with cursor := cursor, keyAllowed := keyAllowed }

def take (l : Lexer) (kind : TokenKind) (length : Nat) : Lexer :=
  let cursor := l.cursor.skipMany length
  { l.push kind l.mark cursor.mark with cursor := cursor }

def takeEnd (l : Lexer) : Except Fault Lexer :=
  let mark := if l.cursor.column = 0 then l.mark else ⟨l.mark.index, l.mark.line + 1, 0⟩
  ({ l with cursor := { l.cursor with mark := mark } }.closeBlocks 0).dropKey

def takeDirective (l : Lexer) : Except Fault Lexer := do
  let l ← (l.closeBlocks 0).dropKey
  let (kind, stop, cursor) ← Name.readDirective l.mark l.cursor.skip
  .ok { l.push kind l.mark stop with cursor := cursor, keyAllowed := false }

def takeDocumentMark (l : Lexer) (kind : TokenKind) : Except Fault Lexer := do
  let l ← (l.closeBlocks 0).dropKey
  .ok { l.take kind 3 with keyAllowed := false }

def takeFlowStart (l : Lexer) (kind : TokenKind) : Except Fault Lexer := do
  let l ← l.saveKey
  .ok { l.take kind 1 with key := none, outerKeys := l.key :: l.outerKeys, keyAllowed := true }

def takeFlowEnd (l : Lexer) (kind : TokenKind) : Except Fault Lexer := do
  let l ← l.dropKey
  let closed := match l.outerKeys with
    | [] => l
    | key :: outer => { l with key := key, outerKeys := outer }
  .ok { closed.take kind 1 with keyAllowed := false }

def takeFlowEntry (l : Lexer) : Except Fault Lexer := do
  let l ← l.dropKey
  .ok { l.take .flowEntry 1 with keyAllowed := true }

def takeBlockEntry (l : Lexer) : Except Fault Lexer :=
  if !l.inFlow && !l.keyAllowed then .error (.form .blockEntry l.mark none)
  else do
    let l ← (l.openBlock .blockSequenceStart l.tokens.size l.mark).dropKey
    .ok { l.take .blockEntry 1 with keyAllowed := true }

def takeKey (l : Lexer) : Except Fault Lexer :=
  if !l.inFlow && !l.keyAllowed then .error (.form .blockKey l.mark none)
  else do
    let l ← (l.openBlock .blockMappingStart l.tokens.size l.mark).dropKey
    .ok { l.take .key 1 with keyAllowed := !l.inFlow }

def takeValue (l : Lexer) : Except Fault Lexer :=
  match l.key with
  | some key =>
      let tokens := l.tokens.insertIdxIfInBounds key.position ⟨.key, key.mark, key.mark⟩
      let l := { l with tokens := tokens, key := none }
      let l := l.openBlock .blockMappingStart key.position key.mark
      .ok { l.take .value 1 with keyAllowed := false }
  | none =>
      if !l.inFlow && !l.keyAllowed then .error (.form .blockValue l.mark none)
      else
        let l := l.openBlock .blockMappingStart l.tokens.size l.mark
        .ok { l.take .value 1 with keyAllowed := !l.inFlow }

def takeAnchor (l : Lexer) (activity : Activity) (kind : String → TokenKind) :
    Except Fault Lexer := do
  let l ← l.saveKey
  let (name, cursor) ← Name.readAnchor activity l.mark l.cursor.skip
  .ok { l.push (kind name) l.mark cursor.mark with cursor := cursor, keyAllowed := false }

def takeTag (l : Lexer) : Except Fault Lexer := do
  let l ← l.saveKey
  let (handle, suffix, cursor) ← Name.readTag l.inFlow l.mark l.cursor
  .ok { l.push (.tag handle suffix) l.mark cursor.mark with cursor := cursor, keyAllowed := false }

def pushScalar (l : Lexer) (style : ScalarStyle) (r : Scalar.Reading) : Lexer :=
  { l.push (.scalar style (String.ofList r.text)) l.mark r.rest.mark with
    cursor := r.rest, keyAllowed := r.broken }

def takeBlockScalar (l : Lexer) (literal : Bool) : Except Fault Lexer := do
  let l ← l.dropKey
  let reading ← Scalar.readBlock literal l.mark l.margin l.cursor.skip
  .ok (l.pushScalar (if literal then .literal else .folded) reading)

def takeQuotedScalar (l : Lexer) (double : Bool) : Except Fault Lexer := do
  let l ← l.saveKey
  let opened := l.cursor.skip
  let reading ← Scalar.readQuoted double l.mark [] .empty opened.chars opened.mark
  .ok (l.pushScalar (if double then .doubleQuoted else .singleQuoted) reading)

def takePlainScalar (l : Lexer) : Except Fault Lexer := do
  let l ← l.saveKey
  let site : Scalar.PlainSite := ⟨l.inFlow, l.margin, l.mark⟩
  let reading ← Scalar.readPlain site [] .empty l.cursor.chars l.mark
  .ok (l.pushScalar .plain reading)

def indicators : List Char :=
  "-?:,[]\x7b\x7d#&*!|>'\x22%@\x60".toList

def startsPlain (inFlow : Bool) (c : Char) (rest : List Char) : Bool :=
  (!isGap c && !indicators.contains c) ||
    (c == '-' && !rest.head?.any isBlank) ||
    (!inFlow && (c == '?' || c == ':') && !endsWord rest)

def takeToken (l : Lexer) (c : Char) (rest : List Char) : Except Fault Lexer :=
  if c == '%' && l.cursor.column == 0 then l.takeDirective
  else if l.cursor.startsWithMark '-' then l.takeDocumentMark .documentStart
  else if l.cursor.startsWithMark '.' then l.takeDocumentMark .documentEnd
  else if c == '[' then l.takeFlowStart .flowSequenceStart
  else if c == '\x7b' then l.takeFlowStart .flowMappingStart
  else if c == ']' then l.takeFlowEnd .flowSequenceEnd
  else if c == '\x7d' then l.takeFlowEnd .flowMappingEnd
  else if c == ',' then l.takeFlowEntry
  else if c == '-' && endsWord rest then l.takeBlockEntry
  else if c == '?' && (l.inFlow || endsWord rest) then l.takeKey
  else if c == ':' && (l.inFlow || endsWord rest) then l.takeValue
  else if c == '*' then l.takeAnchor .reference .reference
  else if c == '&' then l.takeAnchor .anchor .anchor
  else if c == '!' then l.takeTag
  else if c == '|' && !l.inFlow then l.takeBlockScalar true
  else if c == '>' && !l.inFlow then l.takeBlockScalar false
  else if c == '\'' then l.takeQuotedScalar false
  else if c == '\x22' then l.takeQuotedScalar true
  else if startsPlain l.inFlow c rest then l.takePlainScalar
  else .error (.form .tokenStart l.mark (some (.nextToken, l.mark)))

def step (l : Lexer) : Except Fault (Lexer × Bool) := do
  let l ← l.afterSpace.dropStaleKeys
  let l := l.closeBlocks (l.cursor.column + 1)
  match l.cursor.chars with
  | [] => (← l.takeEnd).dropStaleKeys.map fun l => (l, true)
  | c :: rest => (← l.takeToken c rest).dropStaleKeys.map fun l => (l, false)

/-- The tokens before the first place where a key may have begun: no token will be put in among
them. -/
def settled (l : Lexer) : List Token :=
  let position := (l.key :: l.outerKeys).foldl (fun least slot =>
    match slot with
    | some key => min least key.position
    | none => least) l.tokens.size
  l.tokens.toList.take position

/-- All tokens, or those that are settled when the text cannot be read on. Every token takes at least
one character, so `fuel` need only exceed their number. -/
def run : Nat → Lexer → Tokens
  | 0, l => .ofList l.tokens.toList (.finish l.mark)
  | fuel + 1, l =>
      match l.step with
      | .error fault => .ofList l.settled (.broken fault)
      | .ok (last, true) => .ofList last.tokens.toList (.finish last.mark)
      | .ok (next, false) => run fuel next

end Lexer

def Tokens.ofText (text : List Char) : Tokens :=
  match firstForbidden? text 0 with
  | some offset => .broken (.character offset)
  | none =>
      let chars := normalizeBreaks text
      Lexer.run (chars.length + 1) (.ofChars chars)

end Proofread.Yaml
