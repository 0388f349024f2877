import Proofread.Yaml.Token

set_option autoImplicit false

namespace Proofread.Yaml.Name

def endsAnchor (cs : List Char) : Bool :=
  endsWord cs || cs.head?.any fun c =>
    c == '?' || c == ':' || c == ',' || c == ']' || c == '\x7d' || c == '%' || c == '@' ||
      c == '\x60'

def readAnchor (activity : Activity) (start : Mark) (c : Cursor) :
    Except Fault (String × Cursor) :=
  let (name, rest) := c.span isNameChar
  if !name.isEmpty && endsAnchor rest.chars then .ok (String.ofList name, rest)
  else .error (.form .anchorName rest.mark (some (activity, start)))

def isUriChar (verbatim : Bool) (c : Char) : Bool :=
  isNameChar c || c == ';' || c == '/' || c == '?' || c == ':' || c == '@' || c == '&' ||
    c == '=' || c == '+' || c == '$' || c == '.' || c == '!' || c == '~' || c == '*' ||
    c == '\'' || c == '(' || c == ')' || (verbatim && (c == ',' || c == '[' || c == ']'))

def leadingOctet? (octet : Nat) : Option (Nat × Nat) :=
  if octet < 0x80 then some (1, octet)
  else if 0xC0 ≤ octet && octet < 0xE0 then some (2, octet - 0xC0)
  else if 0xE0 ≤ octet && octet < 0xF0 then some (3, octet - 0xE0)
  else if 0xF0 ≤ octet && octet < 0xF8 then some (4, octet - 0xF0)
  else none

def readOctet (activity : Activity) (start : Mark) (c : Cursor) : Except Fault (Nat × Cursor) :=
  match c.chars with
  | '%' :: a :: b :: _ =>
      match Literal.natural? 16 [a, b] with
      | some octet => .ok (octet, c.skipMany 3)
      | none => .error (.form .escapedOctet c.mark (some (activity, start)))
  | _ => .error (.form .escapedOctet c.mark (some (activity, start)))

def readTrailing (activity : Activity) (start : Mark) (n : Nat) (c : Cursor) :
    Nat → Except Fault (Char × Cursor)
  | 0 => .ok (Char.ofNat n, c)
  | count + 1 => do
      let (octet, rest) ← readOctet activity start c
      if 0x80 ≤ octet && octet < 0xC0 then
        readTrailing activity start (n * 64 + (octet - 0x80)) rest count
      else .error (.form .trailingOctet c.mark (some (activity, start)))

def readEscaped (activity : Activity) (start : Mark) (c : Cursor) :
    Except Fault (Char × Cursor) := do
  let (octet, rest) ← readOctet activity start c
  match leadingOctet? octet with
  | none => .error (.form .leadingOctet c.mark (some (activity, start)))
  | some (count, n) => readTrailing activity start n rest (count - 1)

def readUriChars (verbatim : Bool) (activity : Activity) (start : Mark) :
    Nat → Cursor → Except Fault (List Char × Cursor)
  | 0, c => .ok ([], c)
  | fuel + 1, c =>
      match c.next? with
      | none => .ok ([], c)
      | some char =>
          if char == '%' then do
            let (escaped, rest) ← readEscaped activity start c
            let (more, rest) ← readUriChars verbatim activity start fuel rest
            .ok (escaped :: more, rest)
          else if isUriChar verbatim char then do
            let (more, rest) ← readUriChars verbatim activity start fuel c.skip
            .ok (char :: more, rest)
          else .ok ([], c)

def readUri (verbatim : Bool) (activity : Activity) (start : Mark) (lead : List Char)
    (c : Cursor) : Except Fault (String × Cursor) := do
  let (chars, rest) ← readUriChars verbatim activity start c.chars.length c
  if lead.isEmpty && chars.isEmpty then
    .error (.form .tagUri rest.mark (some (activity, start)))
  else .ok (String.ofList (lead.drop 1 ++ chars), rest)

def readHandle (c : Cursor) : List Char × Cursor :=
  let (name, rest) := c.skip.span isNameChar
  if rest.has '!' then ('!' :: name ++ ['!'], rest.skip) else ('!' :: name, rest)

def isClosedHandle (handle : List Char) : Bool :=
  1 < handle.length && handle.getLast? == some '!'

/-- A tag from its exclamation mark on: its handle, which says where it is defined, and the rest of
it. A verbatim tag and the bare mark have no handle. -/
def readTagParts (start : Mark) (c : Cursor) : Except Fault (String × String × Cursor) :=
  if (c.chars.drop 1).head? == some '<' then do
    let (suffix, rest) ← readUri true .tagContent start [] (c.skipMany 2)
    if rest.has '>' then .ok ("", suffix, rest.skip)
    else .error (.form .tagClose rest.mark (some (.tag, start)))
  else
    let (handle, rest) := readHandle c
    if isClosedHandle handle then do
      let (suffix, rest) ← readUri false .tagContent start [] rest
      .ok (String.ofList handle, suffix, rest)
    else do
      let (suffix, rest) ← readUri false .tagContent start handle rest
      if suffix.isEmpty then .ok ("", "!", rest) else .ok ("!", suffix, rest)

def readTag (inFlow : Bool) (start : Mark) (c : Cursor) :
    Except Fault (String × String × Cursor) := do
  let (handle, suffix, rest) ← readTagParts start c
  if endsWord rest.chars || (inFlow && rest.has ',') then .ok (handle, suffix, rest)
  else .error (.form .tagBlank rest.mark (some (.tag, start)))

def readVersionNumber (start : Mark) (c : Cursor) : Except Fault (Nat × Cursor) :=
  let (digits, rest) := c.span Char.isDigit
  if 9 < digits.length then
    .error (.form .versionLength (c.skipMany 9).mark (some (.versionDirective, start)))
  else match Literal.natural? 10 digits with
    | some n => .ok (n, rest)
    | none => .error (.form .versionNumber c.mark (some (.versionDirective, start)))

def readVersion (start : Mark) (c : Cursor) : Except Fault (TokenKind × Cursor) := do
  let (major, c) ← readVersionNumber start c.skipBlanks
  if c.has '.' then
    let (minor, c) ← readVersionNumber start c.skip
    .ok (.versionDirective major minor, c)
  else .error (.form .versionPoint c.mark (some (.versionDirective, start)))

def readHandleDefinition (start : Mark) (c : Cursor) : Except Fault (TokenKind × Cursor) :=
  let c := c.skipBlanks
  if !c.has '!' then .error (.form .tagMark c.mark (some (.directiveHandle, start)))
  else
    let (handle, c) := readHandle c
    if handle ≠ ['!'] && !isClosedHandle handle then
      .error (.form .tagMark c.mark (some (.directiveHandleEnd, start)))
    else if !c.chars.head?.any isBlank then
      .error (.form .handleBlank c.mark (some (.handleDirective, start)))
    else do
      let (uri, c) ← readUri true .directiveUri start [] c.skipBlanks
      if endsWord c.chars then .ok (.handleDirective (String.ofList handle) uri, c)
      else .error (.form .uriBlank c.mark (some (.handleDirective, start)))

def readDirective (start : Mark) (c : Cursor) : Except Fault (TokenKind × Mark × Cursor) := do
  let (name, c) := c.span isNameChar
  if name.isEmpty then .error (.form .directiveName c.mark (some (.directive, start)))
  else if !endsWord c.chars then
    .error (.form .directiveNameEnd c.mark (some (.directive, start)))
  else
    let (kind, c) ←
      if name == "YAML".toList then readVersion start c
      else if name == "TAG".toList then readHandleDefinition start c
      else .error (.form .directiveKind c.mark (some (.directive, start)))
    let line := c.skipBlanks.skipComment
    if line.atLineEnd then .ok (kind, c.mark, line.skipBreak)
    else .error (.form .directiveEnd line.mark (some (.directive, start)))

end Proofread.Yaml.Name
