import Proofread.Json.Value

set_option autoImplicit false

namespace Proofread.Json

open Decimal (Double)

inductive Cause where
  | endOfArray
  | endOfObject
  | endOfString
  | endOfValue
  | colon
  | arrayComma
  | objectComma
  | word
  | value
  | escape
  | number
  | range
  | controlCharacter
  | key
  | loneSurrogate
  | hexEscapeEnd
  | trailingComma
  | trailingCharacters
  | depth
deriving DecidableEq, Repr

def Cause.message : Cause → String
  | endOfArray => "EOF while parsing a list"
  | endOfObject => "EOF while parsing an object"
  | endOfString => "EOF while parsing a string"
  | endOfValue => "EOF while parsing a value"
  | colon => "expected `:`"
  | arrayComma => "expected `,` or `]`"
  | objectComma => "expected `,` or `\x7d`"
  | word => "expected ident"
  | value => "expected value"
  | escape => "invalid escape"
  | number => "invalid number"
  | range => "number out of range"
  | controlCharacter => "control character (\\u0000-\\u001F) found while parsing a string"
  | key => "key must be a string"
  | loneSurrogate => "lone leading surrogate in hex escape"
  | hexEscapeEnd => "unexpected end of hex escape"
  | trailingComma => "trailing comma"
  | trailingCharacters => "trailing characters"
  | depth => "recursion limit exceeded"

/-- What is wrong, and the text that was not read yet. With `next`, the fault lies in the next
character and not in the last one. -/
structure Fault where
  cause : Cause
  rest : List Char
  next : Bool
deriving DecidableEq, Repr

def failAfter {α : Type} (cause : Cause) (rest : List Char) : Except Fault (α × List Char) :=
  .error ⟨cause, rest, false⟩

def failAt {α : Type} (cause : Cause) (rest : List Char) : Except Fault (α × List Char) :=
  .error ⟨cause, rest, true⟩

def isSpace (c : Char) : Bool :=
  c == ' ' || c == '\n' || c == '\t' || c == '\r'

def skipSpaces (cs : List Char) : List Char :=
  cs.dropWhile isSpace

def readWord (v : Value) : List Char → List Char → Except Fault (Value × List Char)
  | [], cs => .ok (v, cs)
  | _ :: _, [] => failAfter .endOfValue []
  | e :: expected, c :: cs => if c = e then readWord v expected cs else failAfter .word cs

def hexValue? (c : Char) : Option Nat :=
  if '0' ≤ c && c ≤ '9' then some (c.toNat - 48)
  else if 'a' ≤ c && c ≤ 'f' then some (c.toNat - 87)
  else if 'A' ≤ c && c ≤ 'F' then some (c.toNat - 55)
  else none

def readHexDigits : List Char → Except Fault (Nat × List Char)
  | a :: b :: c :: d :: cs =>
      match hexValue? a, hexValue? b, hexValue? c, hexValue? d with
      | some a, some b, some c, some d => .ok (a * 4096 + b * 256 + c * 16 + d, cs)
      | _, _, _, _ => failAfter .escape cs
  | _ => failAfter .endOfString []

def isLeading (n : Nat) : Bool := 0xD800 ≤ n && n ≤ 0xDBFF

def isTrailing (n : Nat) : Bool := 0xDC00 ≤ n && n ≤ 0xDFFF

def readTrailing (lead : Nat) : List Char → Except Fault (Char × List Char)
  | [] => failAfter .endOfString []
  | '\\' :: [] => failAfter .endOfString []
  | '\\' :: 'u' :: cs => do
      let (trail, rest) ← readHexDigits cs
      if isTrailing trail then
        .ok (Char.ofNat ((lead - 0xD800) * 1024 + (trail - 0xDC00) + 0x10000), rest)
      else failAfter .loneSurrogate rest
  | '\\' :: _ :: cs => failAfter .hexEscapeEnd cs
  | _ :: cs => failAfter .hexEscapeEnd cs

def readEscape : List Char → Except Fault (Char × List Char)
  | [] => failAfter .endOfString []
  | c :: cs =>
      if c == '\x22' || c == '\\' || c == '/' then .ok (c, cs)
      else if c == 'b' then .ok ('\x08', cs)
      else if c == 'f' then .ok ('\x0c', cs)
      else if c == 'n' then .ok ('\n', cs)
      else if c == 'r' then .ok ('\r', cs)
      else if c == 't' then .ok ('\t', cs)
      else if c == 'u' then do
        let (n, rest) ← readHexDigits cs
        if isTrailing n then failAfter .loneSurrogate rest
        else if isLeading n then readTrailing n rest
        else .ok (Char.ofNat n, rest)
      else failAfter .escape cs

/-- The characters of a string up to its closing quote, before which `done` was read. The text is
at most `fuel` characters long. -/
def readString : Nat → List Char → List Char → Except Fault (String × List Char)
  | 0, cs, _ => failAfter .endOfString cs
  | _, [], _ => failAfter .endOfString []
  | fuel + 1, c :: cs, done =>
      if c == '\x22' then .ok (String.ofList done.reverse, cs)
      else if c == '\\' then do
        let (e, rest) ← readEscape cs
        readString fuel rest (e :: done)
      else if c.toNat < 0x20 then failAfter .controlCharacter cs
      else readString fuel cs (c :: done)

def greatestWord : Nat := 0xFFFFFFFFFFFFFFFF

def greatestPower : Int := 308

def powerOfTen (k : Nat) : Double :=
  (Double.ofRatio? false (Nat.pow 10 k) 1).getD .zero

def lowerExponent : Nat → Double → Int → Double × Int
  | 0, d, exponent => (d, exponent)
  | n + 1, d, exponent =>
      if exponent < -greatestPower && d.mantissa ≠ 0 then
        let (num, den) := (powerOfTen 308).ratio
        lowerExponent n ((d.times? den num).getD .zero) (exponent + 308)
      else (d, exponent)

/-- `digits * 10 ^ exponent`. Out of range only if it is too great. -/
def assemble (positive : Bool) (digits : Nat) (exponent : Int) (cs : List Char) :
    Except Fault (Number × List Char) :=
  let start := (Double.ofRatio? false digits 1).getD .zero
  let signed (d : Double) : Except Fault (Number × List Char) :=
    .ok (.double { d with negative := !positive }, cs)
  let (d, k) := lowerExponent 8 start exponent
  if d.mantissa = 0 then signed .zero
  else if greatestPower < k then failAfter .range cs
  else if k < -greatestPower then signed .zero
  else
    let (num, den) := (powerOfTen k.natAbs).ratio
    if 0 ≤ k then
      match d.times? num den with
      | some product => signed product
      | none => failAfter .range cs
    else signed ((d.times? den num).getD .zero)

def digitValue (c : Char) : Nat := c.toNat - 48

def readDigits (n : Nat) : List Char → Nat × Nat × List Char
  | [] => (n, 0, [])
  | c :: cs =>
      if c.isDigit && n * 10 + digitValue c ≤ greatestWord then
        let (m, count, rest) := readDigits (n * 10 + digitValue c) cs
        (m, count + 1, rest)
      else (n, 0, c :: cs)

def isExponentMark (c : Char) : Bool := c == 'e' || c == 'E'

def readExponent (positive : Bool) (digits : Nat) (exponent : Int) (cs : List Char) :
    Except Fault (Number × List Char) :=
  let (up, cs) := match cs with
    | '+' :: cs => (true, cs)
    | '-' :: cs => (false, cs)
    | cs => (true, cs)
  match cs with
  | [] => failAfter .endOfValue []
  | c :: cs =>
      if c.isDigit then
        let tail := cs.takeWhile Char.isDigit
        let rest := cs.dropWhile Char.isDigit
        let limit : Nat := 0x7FFFFFFF
        let step := fun (acc : Nat × List Char) (d : Char) =>
          if limit < acc.1 then acc else (acc.1 * 10 + digitValue d, acc.2.drop 1)
        let (n, unread) := tail.foldl step (digitValue c, cs)
        if limit < n then
          if digits ≠ 0 && up then failAfter .range unread
          else .ok (.double { Double.zero with negative := !positive }, rest)
        else assemble positive digits (if up then exponent + n else exponent - n) rest
      else failAfter .number cs

def readAfterFraction (positive : Bool) (digits : Nat) (exponent : Int) (cs : List Char) :
    Except Fault (Number × List Char) :=
  match cs with
  | c :: rest =>
      if isExponentMark c then readExponent positive digits exponent rest
      else assemble positive digits exponent cs
  | [] => assemble positive digits exponent cs

def readFraction (positive : Bool) (digits : Nat) (exponent : Int) (cs : List Char) :
    Except Fault (Number × List Char) :=
  let (n, count, rest) := readDigits digits cs
  match rest with
  | c :: _ =>
      if c.isDigit then
        readAfterFraction positive n (exponent - count) (rest.dropWhile Char.isDigit)
      else if count = 0 then failAt .number rest
      else readAfterFraction positive n (exponent - count) rest
  | [] =>
      if count = 0 then failAt .endOfValue rest
      else readAfterFraction positive n (exponent - count) rest

def readAfterWhole (positive : Bool) (digits : Nat) (cs : List Char) :
    Except Fault (Number × List Char) :=
  let whole : Except Fault (Number × List Char) :=
    if positive then .ok (.whole digits, cs)
    else if digits = 0 ∨ 0x8000000000000000 < digits then
      let d := (Double.ofRatio? true digits 1).getD .zero
      .ok (.double d, cs)
    else .ok (.whole (-(digits : Int)), cs)
  match cs with
  | c :: rest =>
      if c == '.' then readFraction positive digits 0 rest
      else if isExponentMark c then readExponent positive digits 0 rest
      else whole
  | [] => whole

def readNumber (positive : Bool) : List Char → Except Fault (Number × List Char)
  | [] => failAfter .endOfValue []
  | c :: cs =>
      if c == '0' then
        match cs with
        | d :: _ => if d.isDigit then failAt .number cs else readAfterWhole positive 0 cs
        | [] => readAfterWhole positive 0 cs
      else if c.isDigit then
        let (n, _, rest) := readDigits (digitValue c) cs
        match rest with
        | d :: _ =>
            if d.isDigit then
              let skipped := rest.takeWhile Char.isDigit
              let after := rest.dropWhile Char.isDigit
              let exponent : Int := skipped.length
              match after with
              | e :: tail =>
                  if e == '.' then readFraction positive n exponent tail
                  else if isExponentMark e then readExponent positive n exponent tail
                  else assemble positive n exponent after
              | [] => assemble positive n exponent after
            else readAfterWhole positive n rest
        | [] => readAfterWhole positive n rest
      else failAfter .number cs

mutual
/-- Reads a value; `depth` is how many brackets may still be opened. Every step consumes a
character, so that the length of the text is enough fuel. -/
def readValue : Nat → Nat → List Char → Except Fault (Value × List Char)
  | 0, _, cs => failAt .endOfValue cs
  | fuel + 1, depth, text =>
      match skipSpaces text with
      | [] => failAt .endOfValue []
      | c :: cs =>
          if c == 'n' then readWord .null "ull".toList cs
          else if c == 't' then readWord (.bool true) "rue".toList cs
          else if c == 'f' then readWord (.bool false) "alse".toList cs
          else if c == '-' then do
            let (n, rest) ← readNumber false cs
            .ok (.number n, rest)
          else if c.isDigit then do
            let (n, rest) ← readNumber true (c :: cs)
            .ok (.number n, rest)
          else if c == '\x22' then do
            let (s, rest) ← readString (cs.length + 1) cs []
            .ok (.string s, rest)
          else if c == '[' then
            if depth ≤ 1 then failAt .depth (c :: cs) else readItems fuel (depth - 1) true cs []
          else if c == '\x7b' then
            if depth ≤ 1 then failAt .depth (c :: cs) else readFields fuel (depth - 1) true cs []
          else failAt .value (c :: cs)
def readItems : Nat → Nat → Bool → List Char → List Value → Except Fault (Value × List Char)
  | 0, _, _, cs, _ => failAt .endOfArray cs
  | fuel + 1, depth, first, text, done =>
      let next (cs : List Char) : Except Fault (Value × List Char) := do
        let (v, rest) ← readValue fuel depth cs
        readItems fuel depth false rest (v :: done)
      match skipSpaces text with
      | [] => failAt .endOfArray []
      | c :: cs =>
          if c == ']' then .ok (.array done.reverse, cs)
          else if first then next (c :: cs)
          else if c == ',' then
            match skipSpaces cs with
            | [] => failAt .endOfValue []
            | d :: ds => if d == ']' then failAt .trailingComma (d :: ds) else next (d :: ds)
          else failAt .arrayComma (c :: cs)
def readFields : Nat → Nat → Bool → List Char → Fields → Except Fault (Value × List Char)
  | 0, _, _, cs, _ => failAt .endOfObject cs
  | fuel + 1, depth, first, text, done =>
      let next (cs : List Char) : Except Fault (Value × List Char) := do
        let (name, rest) ← readString (cs.length + 1) (cs.drop 1) []
        match skipSpaces rest with
        | [] => failAt .endOfObject []
        | c :: after =>
            if c == ':' then do
              let (v, rest) ← readValue fuel depth after
              readFields fuel depth false rest (insertByName name v done)
            else failAt .colon (c :: after)
      match skipSpaces text with
      | [] => failAt .endOfObject []
      | c :: cs =>
          if c == '\x7d' then .ok (.object done, cs)
          else if first then
            if c == '\x22' then next (c :: cs) else failAt .key (c :: cs)
          else if c == ',' then
            match skipSpaces cs with
            | [] => failAt .endOfValue []
            | d :: ds =>
                if d == '\x22' then next (d :: ds)
                else if d == '\x7d' then failAt .trailingComma (d :: ds)
                else failAt .key (d :: ds)
          else failAt .objectComma (c :: cs)
end

structure ParseError where
  cause : Cause
  line : Nat
  column : Nat
deriving DecidableEq, Repr

def ParseError.message (e : ParseError) : String :=
  e.cause.message ++ " at line " ++ toString e.line ++ " column " ++ toString e.column

def placeAfter (cs : List Char) : Nat × Nat :=
  cs.foldl (fun (line, column) c =>
    if c = '\n' then (line + 1, 0) else (line, column + c.utf8Size)) (1, 0)

def Fault.locate (fault : Fault) (text : List Char) : ParseError :=
  let (line, column) := placeAfter (text.take (text.length - fault.rest.length))
  match fault.next, fault.rest with
  | true, '\n' :: _ => ⟨fault.cause, line + 1, 0⟩
  | true, _ :: _ => ⟨fault.cause, line, column + 1⟩
  | _, _ => ⟨fault.cause, line, column⟩

def depthLimit : Nat := 128

def readDocument (text : List Char) : Except Fault Value := do
  let (v, rest) ← readValue (2 * text.length + 2) depthLimit text
  match skipSpaces rest with
  | [] => .ok v
  | c :: cs => .error ⟨.trailingCharacters, c :: cs, true⟩

def parse (text : String) : Except ParseError Value :=
  (readDocument text.toList).mapError fun fault => fault.locate text.toList

end Proofread.Json
