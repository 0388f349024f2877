import Proofread.Json.Value

set_option autoImplicit false

namespace Proofread.Json

def hexDigit (n : Nat) : Char :=
  if n < 10 then Char.ofNat (48 + n) else Char.ofNat (87 + n)

def escapeChar (c : Char) : List Char :=
  if c = '\x22' then ['\\', '\x22']
  else if c = '\\' then ['\\', '\\']
  else if c = '\x08' then ['\\', 'b']
  else if c = '\x0c' then ['\\', 'f']
  else if c = '\n' then ['\\', 'n']
  else if c = '\r' then ['\\', 'r']
  else if c = '\t' then ['\\', 't']
  else if c.toNat < 0x20 then
    ['\\', 'u', '0', '0', hexDigit (c.toNat / 16), hexDigit (c.toNat % 16)]
  else [c]

def quoted (s : String) : String :=
  "\"" ++ String.ofList (s.toList.flatMap escapeChar) ++ "\""

namespace Value

def renderBool (b : Bool) : String :=
  if b then "true" else "false"

mutual
def compact : Value → String
  | .null => "null"
  | .bool b => renderBool b
  | .number n => n.render
  | .string s => quoted s
  | .array items => "[" ++ String.intercalate "," (compactItems items) ++ "]"
  | .object fields => "\x7b" ++ String.intercalate "," (compactFields fields) ++ "\x7d"
def compactItems : List Value → List String
  | [] => []
  | v :: rest => compact v :: compactItems rest
def compactFields : List (String × Value) → List String
  | [] => []
  | (name, v) :: rest => (quoted name ++ ":" ++ compact v) :: compactFields rest
end

def newline (depth : Nat) : String :=
  "\n" ++ String.ofList (List.replicate (2 * depth) ' ')

def block (opening closing : String) (depth : Nat) (entries : List String) : String :=
  match entries with
  | [] => opening ++ closing
  | _ =>
      opening ++ newline (depth + 1) ++ String.intercalate ("," ++ newline (depth + 1)) entries ++
        newline depth ++ closing

mutual
def indented (depth : Nat) : Value → String
  | .null => "null"
  | .bool b => renderBool b
  | .number n => n.render
  | .string s => quoted s
  | .array items => block "[" "]" depth (indentedItems (depth + 1) items)
  | .object fields => block "\x7b" "\x7d" depth (indentedFields (depth + 1) fields)
def indentedItems (depth : Nat) : List Value → List String
  | [] => []
  | v :: rest => indented depth v :: indentedItems depth rest
def indentedFields (depth : Nat) : List (String × Value) → List String
  | [] => []
  | (name, v) :: rest =>
      (quoted name ++ ": " ++ indented depth v) :: indentedFields depth rest
end

end Value

end Proofread.Json
