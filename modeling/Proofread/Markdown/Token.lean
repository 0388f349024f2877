import Proofread.Markdown.Entity
import Proofread.Text.Blank

set_option autoImplicit false

namespace Proofread.Markdown

open Chars

inductive TokenKind where
  | text
  | literal (value : String)
  | emphasis (mark : Char) (count : Nat) (canOpen canClose : Bool)
  | backticks (count : Nat) (escaped : Bool)
  | lessThan
  | linkOpen
  | imageOpen
  /-- A closing bracket; `mayRefer` is false once it has closed the label of a failed reference. -/
  | close (mayRefer : Bool)
  | softBreak
  | hardBreak (backslash : Bool)
deriving DecidableEq, Repr

structure Token where
  kind : TokenKind
  start : Nat
  stop : Nat
deriving DecidableEq, Repr

abbrev TokensRev := List Token

def pushText (tokens : TokensRev) (start stop : Nat) : TokensRev :=
  if start < stop then
    match tokens with
    | ⟨.text, before, last⟩ :: rest =>
        if last = start then ⟨.text, before, stop⟩ :: rest else ⟨.text, start, stop⟩ :: tokens
    | _ => ⟨.text, start, stop⟩ :: tokens
  else tokens

structure Flanks where
  before : Option Char
  after : Option Char

namespace Flanks

def canOpen (flanks : Flanks) (mark : Char) : Bool :=
  match flanks.after with
  | none => false
  | some after =>
      if Text.isBlank after then false
      else match flanks.before with
        | none => true
        | some before =>
            (mark == '*' && !Text.isPunctuation after) || Text.isBlank before ||
              Text.isPunctuation before

def canClose (flanks : Flanks) (mark : Char) : Bool :=
  match flanks.before with
  | none => false
  | some before =>
      if Text.isBlank before then false
      else match flanks.after with
        | none => true
        | some after =>
            (mark == '*' && !Text.isPunctuation before) || Text.isBlank after ||
              Text.isPunctuation after

end Flanks

structure TokenLine where
  tokens : TokensRev
  stop : Nat
  lineBreak : Option Token

def countBack (cs : Chars) (p : Char → Bool) (i : Nat) : Nat :=
  i - backWhile p cs 0 i

/-- The end of a line at `i`. A backslash or two blanks before it make the break a hard one. -/
def endLine (cs : Chars) (textStart i : Nat) (tokens : TokensRev) : TokenLine :=
  let next := (cs.lineEnd? i).getD i
  if countBack cs (· == '\\') i % 2 == 1 && next < cs.size then
    ⟨pushText tokens textStart (i - 1), next, some ⟨.hardBreak true, i - 1, next⟩⟩
  else
    let blanks := countBack cs isLineBlank i
    let tokens := pushText tokens textStart (i - blanks)
    if 2 ≤ blanks then ⟨tokens, next, some ⟨.hardBreak false, i - blanks, next⟩⟩
    else ⟨tokens, next, some ⟨.softBreak, i, next⟩⟩

/-- The mark at `i`, if a mark stands there: its token and where reading goes on. `lineStart` is
where the line's content starts. A backslash gives no token of its own: escaped text starts after
it. -/
def markAt? (cs : Chars) (lineStart i : Nat) : Option (Option Token × Nat) :=
  match cs[i]? with
  | none => none
  | some c =>
      let single (kind : TokenKind) (width : Nat) : Option (Option Token × Nat) :=
        some (some ⟨kind, i, i + width⟩, i + width)
      if c == '\\' then
        if isEscape cs i then
          if cs.has (i + 1) '\x60' then
            let count := cs.runLength '\x60' (i + 1)
            some (some ⟨.backticks count true, i + 1, i + 1 + count⟩, i + 1 + count)
          else some (none, i + 1)
        else none
      else if c == '*' || c == '_' then
        let count := cs.runLength c i
        let before := if i ≤ lineStart then none else cs[i - 1]?
        let flanks : Flanks := ⟨before, cs[i + count]?⟩
        let canOpen := flanks.canOpen c
        let canClose := flanks.canClose c
        if canOpen || canClose then single (.emphasis c count canOpen canClose) count else none
      else if c == '\x60' then
        let count := cs.runLength c i
        single (.backticks count false) count
      else if c == '<' then
        if cs.has (i + 1) '\\' then none else single .lessThan 1
      else if c == '!' then
        if cs.has (i + 1) '[' then single .imageOpen 2 else none
      else if c == '[' then single .linkOpen 1
      else if c == ']' then single (.close true) 1
      else if c == '&' then
        (entity? cs i).map fun (value, next) => (some ⟨.literal value, i, next⟩, next)
      else none

def plainStop (cs : Chars) (i : Nat) : Nat :=
  match cs[i]? with
  | some c => if c == '*' || c == '_' then i + cs.runLength c i else i + 1
  | none => i + 1

def tokensFrom (cs : Chars) (lineStart textStart i : Nat) (tokens : TokensRev) : TokenLine :=
  if h : i < cs.size then
    if isLineEnd cs[i] then endLine cs textStart i tokens
    else
      match markAt? cs lineStart i with
      | some (some token, next) =>
          tokensFrom cs lineStart next (max (i + 1) next) (token :: pushText tokens textStart i)
      | some (none, next) =>
          tokensFrom cs lineStart next (max (i + 1) (next + 1)) (pushText tokens textStart i)
      | none => tokensFrom cs lineStart textStart (max (i + 1) (plainStop cs i)) tokens
  else
    let blanks := i - backWhile isLineBlank cs textStart i
    ⟨pushText tokens textStart (i - blanks), i, none⟩
termination_by cs.size - i

def tokenLine (cs : Chars) (start : Nat) (tokens : TokensRev) : TokenLine :=
  tokensFrom cs start start start tokens

end Proofread.Markdown
