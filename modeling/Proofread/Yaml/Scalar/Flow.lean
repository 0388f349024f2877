import Proofread.Yaml.Fault

set_option autoImplicit false

namespace Proofread.Yaml.Scalar

structure Gap where
  blanks : List Char
  breaks : List Char
  /-- The first line break was escaped, so it leaves nothing. -/
  escaped : Bool
deriving DecidableEq, Repr

namespace Gap

def empty : Gap := ⟨[], [], false⟩

def afterEscapedBreak : Gap := ⟨[], [], true⟩

def isBroken (g : Gap) : Bool :=
  g.escaped || !g.breaks.isEmpty

def addBlank (g : Gap) (c : Char) : Gap :=
  if g.isBroken then g else { g with blanks := g.blanks ++ [c] }

def addBreak (g : Gap) (c : Char) : Gap :=
  { g with breaks := g.breaks ++ [c] }

def fold (g : Gap) : List Char :=
  if g.escaped then g.breaks
  else match g.breaks with
    | [] => g.blanks
    | first :: more =>
        if first == '\n' then (if more.isEmpty then [' '] else more) else first :: more

end Gap

structure Reading where
  text : List Char
  broken : Bool
  rest : Cursor
deriving DecidableEq, Repr

def isFlowIndicator (c : Char) : Bool :=
  c == ',' || c == '[' || c == ']' || c == '\x7b' || c == '\x7d'

structure PlainSite where
  inFlow : Bool
  /-- Outside of flow collections, the least column at which it may go on. -/
  margin : Nat
  start : Mark

def clashes (site : PlainSite) (c : Char) (rest : List Char) : Bool :=
  site.inFlow && c == ':' && rest.head?.any fun next => isFlowIndicator next || next == '?'

def endsPlain (site : PlainSite) (c : Char) (rest : List Char) : Bool :=
  (c == ':' && endsWord rest) || (site.inFlow && isFlowIndicator c)

def stopsPlain (site : PlainSite) (here : Cursor) : Bool :=
  (!site.inFlow && here.column < site.margin) || here.atDocumentMark || here.has '#'

def readPlain (site : PlainSite) (text : List Char) (gap : Gap) :
    List Char → Mark → Except Fault Reading
  | [], mark => .ok ⟨text, gap.isBroken, ⟨[], mark⟩⟩
  | c :: rest, mark =>
      let here : Cursor := ⟨c :: rest, mark⟩
      if isBreak c then readPlain site text (gap.addBreak c) rest (mark.after c)
      else if isBlank c then
        if gap.isBroken && c == '\t' && mark.column < site.margin then
          .error (.form .plainTab mark (some (.plainScalar, site.start)))
        else readPlain site text (gap.addBlank c) rest (mark.after c)
      else if gap ≠ .empty && stopsPlain site here then .ok ⟨text, gap.isBroken, here⟩
      else if clashes site c rest then
        .error (.form .plainColon mark (some (.plainScalar, site.start)))
      else if endsPlain site c rest then .ok ⟨text, gap.isBroken, here⟩
      else readPlain site (text ++ gap.fold ++ [c]) .empty rest (mark.after c)

inductive Escape where
  | char (c : Char)
  | codePoint (digits : Nat)
deriving DecidableEq, Repr

def escape? (c : Char) : Option Escape :=
  if c == '0' then some (.char '\x00')
  else if c == 'a' then some (.char '\x07')
  else if c == 'b' then some (.char '\x08')
  else if c == 't' || c == '\t' then some (.char '\t')
  else if c == 'n' then some (.char '\n')
  else if c == 'v' then some (.char '\x0b')
  else if c == 'f' then some (.char '\x0c')
  else if c == 'r' then some (.char '\r')
  else if c == 'e' then some (.char '\x1b')
  else if c == ' ' || c == '\x22' || c == '/' || c == '\\' then some (.char c)
  else if c == 'N' then some (.char (Char.ofNat 0x85))
  else if c == '_' then some (.char (Char.ofNat 0xA0))
  else if c == 'L' then some (.char (Char.ofNat 0x2028))
  else if c == 'P' then some (.char (Char.ofNat 0x2029))
  else if c == 'x' then some (.codePoint 2)
  else if c == 'u' then some (.codePoint 4)
  else if c == 'U' then some (.codePoint 8)
  else none

def scalarValue? (n : Nat) : Option Char :=
  if (0xD800 ≤ n && n ≤ 0xDFFF) || 0x10FFFF < n then none else some (Char.ofNat n)

def codePoint? (count : Nat) (digits : List Char) : Except Problem Char :=
  if digits.length < count then .error .escapeDigits
  else match Literal.natural? 16 (digits.take count) with
    | none => .error .escapeDigits
    | some n =>
        match scalarValue? n with
        | none => .error .escapeValue
        | some c => .ok c

def readQuoted (double : Bool) (start : Mark) (text : List Char) (gap : Gap) :
    (chars : List Char) → Mark → Except Fault Reading
  | [], mark => .error (.form .quotedEnd mark (some (.quotedScalar, start)))
  | c :: rest, mark =>
      let text' := text ++ gap.fold
      let after := mark.after c
      if isBreak c then readQuoted double start text (gap.addBreak c) rest after
      else if isBlank c then readQuoted double start text (gap.addBlank c) rest after
      else if Cursor.atDocumentMark ⟨c :: rest, mark⟩ then
        .error (.form .quotedDocument mark (some (.quotedScalar, start)))
      else if double then
        if c == '\x22' then .ok ⟨text', false, ⟨rest, after⟩⟩
        else if c == '\\' then
          match rest with
          | [] => .error (.form .escapeName mark (some (.escape, start)))
          | e :: tail =>
              let after := after.after e
              if isBreak e then readQuoted double start text' .afterEscapedBreak tail after
              else match escape? e with
                | none => .error (.form .escapeName mark (some (.escape, start)))
                | some (.char e) => readQuoted double start (text' ++ [e]) .empty tail after
                | some (.codePoint count) =>
                    match codePoint? count tail with
                    | .error problem => .error (.form problem after (some (.escape, start)))
                    | .ok e =>
                        readQuoted double start (text' ++ [e]) .empty (tail.drop count)
                          ⟨after.index + count, after.line, after.column + count⟩
        else readQuoted double start (text' ++ [c]) .empty rest after
      else if c == '\'' then
        match rest with
        | '\'' :: tail =>
            readQuoted double start (text' ++ [c]) .empty tail (after.after c)
        | _ => .ok ⟨text', false, ⟨rest, after⟩⟩
      else readQuoted double start (text' ++ [c]) .empty rest after
termination_by chars => chars.length
decreasing_by all_goals simp +zetaDelta at * <;> omega

end Proofread.Yaml.Scalar
