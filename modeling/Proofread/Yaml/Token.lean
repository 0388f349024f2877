import Proofread.Yaml.Fault

set_option autoImplicit false

namespace Proofread.Yaml

inductive ScalarStyle where
  | plain
  | singleQuoted
  | doubleQuoted
  | literal
  | folded
deriving DecidableEq, Repr

inductive TokenKind where
  | versionDirective (major minor : Nat)
  | handleDirective (handle uri : String)
  | documentStart
  | documentEnd
  | blockSequenceStart
  | blockMappingStart
  | blockEnd
  | flowSequenceStart
  | flowSequenceEnd
  | flowMappingStart
  | flowMappingEnd
  | blockEntry
  | flowEntry
  | key
  | value
  | reference (name : String)
  | anchor (name : String)
  | tag (handle suffix : String)
  | scalar (style : ScalarStyle) (text : String)
deriving DecidableEq, Repr

structure Token where
  kind : TokenKind
  start : Mark
  stop : Mark
deriving DecidableEq, Repr

/-- The tokens of a text up to its end, or up to where it cannot be read. -/
inductive Tokens where
  | finish (place : Mark)
  | broken (fault : Fault)
  | cons (token : Token) (rest : Tokens)
deriving DecidableEq, Repr

namespace Tokens

def ofList : List Token → Tokens → Tokens
  | [], ending => ending
  | t :: ts, ending => .cons t (ofList ts ending)

def size : Tokens → Nat
  | finish _ => 0
  | broken _ => 0
  | cons _ rest => rest.size + 1

end Tokens

end Proofread.Yaml
