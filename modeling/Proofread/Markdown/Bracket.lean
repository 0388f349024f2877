import Proofread.Markdown.Definition
import Proofread.Markdown.Inline

set_option autoImplicit false

namespace Proofread.Markdown

open Chars

structure Bracket where
  image : Bool
  active : Bool
  start : Nat
  stop : Nat
  before : InlinesRev

structure InlineContext where
  chars : Chars
  containers : List Container
  definitions : List Definition

namespace InlineContext

def resume (context : InlineContext) (i : Nat) : Nat :=
  skipContainers context.chars context.containers i

def url? (context : InlineContext) (label : List Char) : Option String :=
  (context.definitions.find? (·.label == label)).map (·.url)

def tokensAfter (i : Nat) : List Token → List Token
  | [] => []
  | token :: rest =>
      if token.stop ≤ i then tokensAfter i rest
      else { token with start := max token.start i } :: rest

/-- Line ends of a code span are spaces, and the marks of its containers are left out. -/
def codeChars (context : InlineContext) (i stop : Nat) : List Char :=
  if h : i < stop ∧ i < context.chars.size then
    let c := context.chars[i]
    if isLineEnd c then
      let next := min stop (max (i + 1) (context.resume (i + 1)))
      ' ' :: codeChars context next stop
    else c :: codeChars context (i + 1) stop
  else []
termination_by stop - i
decreasing_by
  · omega
  · omega

def codeValue (context : InlineContext) (start stop : Nat) : String :=
  let cs := codeChars context start stop
  let padded := cs.head? == some ' ' && cs.getLast? == some ' ' && cs.any (· != ' ')
  String.ofList (if padded then (cs.drop 1).dropLast else cs)

def closingBackticks? (count : Nat) : List Token → Option (Token × List Token)
  | [] => none
  | token :: rest =>
      match token.kind with
      | .backticks n _ => if n = count then some (token, rest) else closingBackticks? count rest
      | _ => closingBackticks? count rest

def skipSeparator (context : InlineContext) (i : Nat) : Nat :=
  let cs := context.chars
  let j := skipWhile isLineBlank cs i
  let k := match cs.lineEnd? j with
    | some next => context.resume next
    | none => j
  skipWhile isLineBlank cs k

def inlineTarget? (context : InlineContext) (i : Nat) : Option (Nat × String) :=
  let cs := context.chars
  if cs.has i '(' then
    match destination? cs 32 (context.skipSeparator (i + 1)) with
    | none => none
    | some destination =>
        let j := context.skipSeparator destination.stop
        let k := match inlineTitle? cs j with
          | some stop => context.skipSeparator stop
          | none => j
        if cs.has k ')' then some (k + 1, unescape destination.source) else none
  else none

inductive ReferenceTail where
  | full (label : List Char) (stop : Nat)
  | collapsed (rest : List Token)
  | shortcut

def referenceLabel? (context : InlineContext) (cs : Chars) (i : Nat) :
    Option (Nat × List Char) :=
  if cs.has i '[' then label? cs (fun j => some (context.resume j)) (i + 1) else none

def referenceTail (context : InlineContext) (tokens : List Token) : ReferenceTail :=
  match tokens with
  | [] => .shortcut
  | token :: _ =>
      let cs := context.chars
      if cs.has token.start '[' && cs.has (token.start + 1) ']' then .collapsed (tokens.drop 2)
      else match context.referenceLabel? cs token.start with
        | some (stop, label) => .full label stop
        | none => .shortcut

def spendBracket (i : Nat) : List Token → List Token × List Token
  | [] => ([], [])
  | token :: rest =>
      if token.stop ≤ i then
        let (marked, after) := spendBracket i rest
        (token :: marked, after)
      else ({ token with kind := .close false } :: rest, rest)

end InlineContext

structure Brackets where
  stack : List Bracket
  content : InlinesRev

namespace Brackets

def push (state : Brackets) (part : Inline) : Brackets :=
  { state with content := part :: state.content }

def openBracket (state : Brackets) (image : Bool) (token : Token) : Brackets :=
  ⟨⟨image, true, token.start, token.stop, state.content⟩ :: state.stack, []⟩

def asText (bracket : Bracket) (outer : List Bracket) (content : InlinesRev) (token : Token) :
    Brackets :=
  ⟨outer, .text token.start token.stop :: content ++
    .text bracket.start bracket.stop :: bracket.before⟩

def asLink (bracket : Bracket) (outer : List Bracket) (content : InlinesRev) (url : String)
    (stop : Nat) : Brackets :=
  let link := Inline.link bracket.image url bracket.start stop (resolveEmphasis content.reverse)
  let outer :=
    if bracket.image then outer
    else outer.map fun around => if around.image then around else { around with active := false }
  ⟨outer, link :: bracket.before⟩

def finish (state : Brackets) : InlinesRev :=
  state.stack.foldl
    (fun content bracket => content ++ .text bracket.start bracket.stop :: bracket.before)
    state.content

def close (context : InlineContext) (state : Brackets) (token : Token) (mayRefer : Bool)
    (rest : List Token) : Brackets × List Token :=
  let text := Inline.text token.start token.stop
  match state.stack with
  | [] => (state.push text, rest)
  | bracket :: outer =>
      let failed := asText bracket outer state.content token
      if !bracket.active then (failed, rest)
      else match context.inlineTarget? token.stop with
        | some (stop, url) =>
            (asLink bracket outer state.content url stop, InlineContext.tokensAfter stop rest)
        | none =>
            let own (after : List Token) : Brackets × List Token :=
              if !mayRefer then (failed, rest)
              else
                let inside := context.chars.extract 0 token.stop
                match context.referenceLabel? inside (bracket.stop - 1) with
                | none => (failed, rest)
                | some (stop, label) =>
                    if stop ≠ token.stop then (failed, rest)
                    else match context.url? label with
                      | some url => (asLink bracket outer state.content url stop, after)
                      | none => (failed, rest)
            match context.referenceTail rest with
            | .full label stop =>
                let (marked, after) := InlineContext.spendBracket (stop - 1) rest
                match context.url? label with
                | some url => (asLink bracket outer state.content url stop, after)
                | none => (failed, marked)
            | .collapsed after => own after
            | .shortcut => own rest

def step (context : InlineContext) (state : Brackets) (token : Token) (rest : List Token) :
    Brackets × List Token :=
  let cs := context.chars
  let plain := Inline.text token.start token.stop
  match token.kind with
  | .text => (state.push plain, rest)
  | .literal value => (state.push (.literal value token.start token.stop), rest)
  | .emphasis mark count canOpen canClose =>
      (state.push (.marks mark count canOpen canClose token.start), rest)
  | .softBreak => (state.push (.softBreak token.start token.stop), rest)
  | .hardBreak backslash => (state.push (.hardBreak backslash token.start token.stop), rest)
  | .linkOpen => (state.openBracket false token, rest)
  | .imageOpen => (state.openBracket true token, rest)
  | .close mayRefer => close context state token mayRefer rest
  | .backticks count escaped =>
      let wanted := if escaped then count - 1 else count
      if wanted = 0 then (state.push plain, rest)
      else match InlineContext.closingBackticks? wanted rest with
        | none => (state.push plain, rest)
        | some (closer, after) =>
            let value := context.codeValue token.stop closer.start
            if escaped then
              let tick := Inline.text token.start (token.start + 1)
              ((state.push tick).push (.code value (token.start + 1) closer.stop), after)
            else (state.push (.code value token.start closer.stop), after)
  | .lessThan =>
      match rest with
      | [] => (state.push plain, rest)
      | next :: _ =>
          match addressEnd? cs next.start with
          | some stop =>
              let address := Inline.text (token.start + 1) stop
              let link := Inline.link false (cs.sliceString next.start stop) token.start (stop + 1)
                [address]
              (state.push link, InlineContext.tokensAfter (stop + 1) rest)
          | none =>
              match inlineHtmlEnd? cs context.resume (next.start - 1) with
              | some (stop, gaps) =>
                  let value := String.ofList (sliceAround cs token.start stop gaps)
                  (state.push (.html value token.start stop), InlineContext.tokensAfter stop rest)
              | none => (state.push plain, rest)

def readTokens (context : InlineContext) : Nat → Brackets → List Token → Brackets
  | _, state, [] => state
  | 0, state, _ => state
  | fuel + 1, state, token :: rest =>
      let (next, remaining) := state.step context token rest
      readTokens context fuel next remaining

end Brackets

def inlines (context : InlineContext) (tokens : List Token) : List Inline :=
  resolveEmphasis (Brackets.readTokens context tokens.length ⟨[], []⟩ tokens).finish.reverse

end Proofread.Markdown
