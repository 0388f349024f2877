import Proofread.Yaml.Node.Grammar
import Proofread.Yaml.Token.Lexer

set_option autoImplicit false

namespace Proofread.Yaml

structure Document where
  root : Node
  ending : Option Fault

namespace Document

def standardHandles : Handles :=
  [("!", "!"), ("!!", "tag:yaml.org,2002:")]

def isKnownVersion (major minor : Nat) : Bool :=
  major == 1 && (minor == 1 || minor == 2)

def readDirectives (versionSeen : Bool) (handles : Handles) :
    Tokens → Except Fault (Handles × Tokens)
  | .broken fault => .error fault
  | .finish place => .error (.form .documentStart place none)
  | .cons t rest =>
      match t.kind with
      | .versionDirective major minor =>
          if versionSeen then .error (.form .versionTwice t.start none)
          else if isKnownVersion major minor then readDirectives true handles rest
          else .error (.form .versionUnknown t.start none)
      | .handleDirective handle uri =>
          if (handles.lookup handle).isSome then .error (.form .handleTwice t.start none)
          else readDirectives versionSeen (handles ++ [(handle, uri)]) rest
      | .documentStart => .ok (handles ++ standardHandles, rest)
      | _ => .error (.form .documentStart t.start none)

def isBoundary : TokenKind → Bool
  | .versionDirective _ _ | .handleDirective _ _ | .documentStart | .documentEnd => true
  | _ => false

def faultAfterEnd? : Tokens → Option Fault
  | .finish _ => none
  | .broken _ => some .severalDocuments
  | .cons t rest => if t.kind == .documentEnd then faultAfterEnd? rest else some .severalDocuments

def faultAfterRoot? : Tokens → Option Fault
  | .finish _ => none
  | .broken fault => some fault
  | .cons t rest => if t.kind == .documentEnd then faultAfterEnd? rest else some .severalDocuments

def ofRoot (handles : Handles) (ts : Tokens) : Document :=
  match Grammar.node handles true [] ts with
  | (root, .error _) => ⟨root, none⟩
  | (root, .ok left) => ⟨root, faultAfterRoot? left.tokens⟩

def ofContent (handles : Handles) (ts : Tokens) : Document :=
  let empty : Document := ⟨.emptyScalar (Grammar.mark ts), faultAfterRoot? ts⟩
  match ts with
  | .broken fault => ⟨.broken fault, none⟩
  | .finish _ => empty
  | .cons t _ => if isBoundary t.kind then empty else ofRoot handles ts

def ofTokens (ts : Tokens) : Document :=
  match ts with
  | .broken fault => ⟨.broken fault, none⟩
  | .finish place => ⟨.emptyScalar place, none⟩
  | .cons t _ =>
      if isBoundary t.kind && t.kind != .documentEnd then
        match readDirectives false [] ts with
        | .error fault => ⟨.broken fault, none⟩
        | .ok (handles, rest) => ofContent handles rest
      else ofRoot standardHandles ts

def ofText (text : List Char) : Document :=
  ofTokens (Tokens.ofText text)

end Document

end Proofread.Yaml
