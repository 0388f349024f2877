import Proofread.Yaml.Node

set_option autoImplicit false

namespace Proofread.Yaml

abbrev Anchors := List (String × Nat)

namespace Anchors

/-- An anchor gets the count of the names known before as its number; defining a name again does not
make it another name. -/
def define (anchors : Anchors) (name : String) : Anchors :=
  (name, anchors.length) :: anchors.filter fun entry => entry.1 != name

end Anchors

abbrev Handles := List (String × String)

namespace Grammar

/-- What is left of the tokens, fewer than the bound, and the anchors known there. -/
abbrev Left (bound : Nat) := { left : Anchors × Tokens // left.2.size < bound }

namespace Left

def anchors {bound : Nat} (left : Left bound) : Anchors := left.1.1

def tokens {bound : Nat} (left : Left bound) : Tokens := left.1.2

def widen {a b : Nat} (h : a ≤ b) (left : Left a) : Left b :=
  ⟨left.1, Nat.lt_of_lt_of_le left.2 h⟩

end Left

def mark : Tokens → Mark
  | .finish place => place
  | .broken _ => .start
  | .cons t _ => t.start

def kind? : Tokens → Option TokenKind
  | .cons t _ => some t.kind
  | _ => none

def breakOf? : Tokens → Option Fault
  | .broken fault => some fault
  | _ => none

def startsWith (kinds : List TokenKind) (ts : Tokens) : Bool :=
  (kind? ts).any kinds.contains

def unexpected (problem : Problem) (ts : Tokens) (activity : Activity) (start : Mark) : Fault :=
  .form problem (mark ts) (some (activity, start))

abbrev Read (α : Type) (bound : Nat) := α × Except Fault (Left bound)

structure Lead where
  start : Mark
  anchor : Option String
  tag : Option (String × String × Mark)

def Lead.isBare (lead : Lead) : Bool :=
  lead.anchor.isNone && lead.tag.isNone

/-- The tokens after what stands in front of a node: fewer, unless nothing does. -/
abbrev AfterLead (lead : Lead) (ts : Tokens) :=
  { rest : Tokens // rest.size ≤ ts.size ∧ (lead.isBare = false → rest.size < ts.size) }

def readLead (ts : Tokens) : (lead : Lead) × AfterLead lead ts :=
  match ts with
  | .cons ⟨.anchor name, start, _⟩ (.cons ⟨.tag handle suffix, place, _⟩ rest) =>
      ⟨⟨start, some name, some (handle, suffix, place)⟩, rest, by simp only [Tokens.size]; omega⟩
  | .cons ⟨.tag handle suffix, start, _⟩ (.cons ⟨.anchor name, _, _⟩ rest) =>
      ⟨⟨start, some name, some (handle, suffix, start)⟩, rest, by simp only [Tokens.size]; omega⟩
  | .cons ⟨.anchor name, start, _⟩ rest =>
      ⟨⟨start, some name, none⟩, rest, by simp [Tokens.size]⟩
  | .cons ⟨.tag handle suffix, start, _⟩ rest =>
      ⟨⟨start, none, some (handle, suffix, start)⟩, rest, by simp [Tokens.size]⟩
  | ts => ⟨⟨mark ts, none, none⟩, ts, by simp [Lead.isBare]⟩

def resolveTag (handles : Handles) (lead : Lead) : Except Fault (Option String) :=
  match lead.tag with
  | none => .ok none
  | some (handle, suffix, place) =>
      if handle.isEmpty then .ok (some suffix)
      else match handles.lookup handle with
        | some uri => .ok (some (uri ++ suffix))
        | none => .error (.form .handleUnknown place (some (.node, lead.start)))

def scalarTag (tag : Option String) : Option String :=
  if tag == some "!" then none else tag

def enter (anchors : Anchors) (lead : Lead) (tag : Option String) : Anchors × Properties :=
  match lead.anchor with
  | none => (anchors, ⟨lead.start, none, tag⟩)
  | some name => (anchors.define name, ⟨lead.start, some anchors.length, tag⟩)

inductive FlowStep (ts : Tokens) where
  | entry (rest : Tokens) (h : rest.size ≤ ts.size)
  | close (rest : Tokens) (h : rest.size < ts.size)
  | fault (fault : Fault)

def flowStep (close : TokenKind) (fault : Fault) (first : Bool) (ts : Tokens) : FlowStep ts :=
  match ts with
  | .broken fault => .fault fault
  | .finish place => if first then .entry (.finish place) (Nat.le_refl _) else .fault fault
  | .cons t rest =>
      if t.kind == close then .close rest (by simp [Tokens.size])
      else if first then .entry (.cons t rest) (Nat.le_refl _)
      else if t.kind == .flowEntry then
        match rest with
        | .broken fault => .fault fault
        | .finish place => .entry (.finish place) (by simp [Tokens.size])
        | .cons next rest =>
            if next.kind == close then .close rest (by simp only [Tokens.size]; omega)
            else .entry (.cons next rest) (by simp [Tokens.size])
      else .fault fault

mutual
def node (handles : Handles) (block : Bool) (anchors : Anchors) (ts : Tokens) :
    Read Node ts.size :=
  match ts with
  | .cons ⟨.reference name, start, _⟩ rest =>
      match anchors.lookup name with
      | some number => (.reference start number, .ok ⟨(anchors, rest), by simp [Tokens.size]⟩)
      | none => (.broken (.unknownAnchor start), .error (.unknownAnchor start))
  | ts =>
      let ⟨lead, after⟩ := readLead ts
      match (breakOf? after.1).elim (resolveTag handles lead) .error with
      | .error fault => (.broken fault, .error fault)
      | .ok tag => content handles block anchors lead tag after
termination_by (ts.size, 1)
decreasing_by
  rcases Nat.lt_or_eq_of_le after.2.1 with smaller | same
  · exact Prod.Lex.left _ _ smaller
  · simp only [same]; exact Prod.Lex.right _ (by decide)
/-- The node after its anchor and tag. A sequence in a block mapping may stand at the column of the
keys, where no token says that it starts. -/
def content (handles : Handles) (block : Bool) (anchors : Anchors) (lead : Lead)
    (tag : Option String) {ts : Tokens} (after : AfterLead lead ts) : Read Node ts.size :=
  let (entered, properties) := enter anchors lead tag
  let missing (rest : Tokens) (h : lead.isBare = false → rest.size < ts.size) :
      Read Node ts.size :=
    if bare : lead.isBare = false then
      (.scalar properties .plain "", .ok ⟨(entered, rest), h bare⟩)
    else
      let fault := unexpected .nodeContent rest (if block then .blockNode else .flowNode)
        lead.start
      (.broken fault, .error fault)
  match h : after.1 with
  | .cons t rest =>
      have shorter : rest.size < ts.size := by
        have := after.2.1
        simp only [h, Tokens.size] at this
        omega
      match t.kind, block with
      | .scalar style text, _ =>
          (.scalar { properties with tag := scalarTag tag } style text,
            .ok ⟨(entered, rest), shorter⟩)
      | .flowSequenceStart, _ =>
          let (items, left) := flowItems handles t.start true entered rest
          (.sequence properties items, left.map (Left.widen shorter))
      | .flowMappingStart, _ =>
          let (entries, left) := flowEntries handles t.start true entered rest
          (.mapping properties entries, left.map (Left.widen shorter))
      | .blockEntry, true =>
          let (items, left) := unindentedItems handles t.stop entered rest
          (.sequence properties items, left.map (Left.widen shorter))
      | .blockSequenceStart, true =>
          let (items, left) := blockItems handles t.start entered rest
          (.sequence properties items, left.map (Left.widen shorter))
      | .blockMappingStart, true =>
          let (entries, left) := blockEntries handles t.start entered rest
          (.mapping properties entries, left.map (Left.widen shorter))
      | _, _ => missing after.1 after.2.2
  | _ => missing after.1 after.2.2
termination_by (after.1.size, 0)
decreasing_by all_goals simp only [h, Tokens.size]; omega
def nodeUnless (kinds : List TokenKind) (handles : Handles) (block : Bool) (empty : Mark)
    (anchors : Anchors) (ts : Tokens) : Read Node (ts.size + 1) :=
  if startsWith kinds ts then
    (.emptyScalar empty, .ok ⟨(anchors, ts), Nat.lt_succ_self _⟩)
  else
    let (n, left) := node handles block anchors ts
    (n, left.map (Left.widen (Nat.le_succ _)))
termination_by (ts.size, 2)
def blockItems (handles : Handles) (start : Mark) (anchors : Anchors) (ts : Tokens) :
    Read (List Node) (ts.size + 1) :=
  match ts with
  | .cons ⟨.blockEntry, _, stop⟩ rest =>
      match nodeUnless [.blockEntry, .blockEnd] handles true stop anchors rest with
      | (item, .error fault) => ([item], .error fault)
      | (item, .ok left) =>
          have := left.2
          let (items, left') := blockItems handles start left.anchors left.tokens
          (item :: items, left'.map (Left.widen (by simp only [Tokens.size, Left.tokens]; omega)))
  | .cons ⟨.blockEnd, _, _⟩ rest => ([], .ok ⟨(anchors, rest), by simp only [Tokens.size]; omega⟩)
  | .broken fault => ([.broken fault], .error fault)
  | ts =>
      let fault := unexpected .sequenceEntry ts .blockSequence start
      ([.broken fault], .error fault)
termination_by (ts.size, 3)
decreasing_by all_goals simp only [Tokens.size, Left.tokens]; omega
/-- The entries of a block sequence that is not indented, after the indicator of the first. -/
def unindentedItems (handles : Handles) (entry : Mark) (anchors : Anchors) (ts : Tokens) :
    Read (List Node) (ts.size + 1) :=
  match nodeUnless [.blockEntry, .key, .value, .blockEnd] handles true entry anchors ts with
  | (item, .error fault) => ([item], .error fault)
  | (item, .ok left) =>
      have := left.2
      match h : left.1.2 with
      | .broken fault => ([item, .broken fault], .error fault)
      | .cons ⟨.blockEntry, _, stop⟩ rest =>
          let (items, left') := unindentedItems handles stop left.anchors rest
          (item :: items, left'.map (Left.widen (by simp only [h, Tokens.size] at this; omega)))
      | _ => ([item], .ok left)
termination_by (ts.size, 3)
decreasing_by
  · exact Prod.Lex.right _ (by decide)
  · simp only [h, Tokens.size] at this; omega
def blockEntries (handles : Handles) (start : Mark) (anchors : Anchors) (ts : Tokens) :
    Read (List (Node × Node)) (ts.size + 1) :=
  match ts with
  | .cons ⟨.key, _, stop⟩ rest =>
      match nodeUnless [.key, .value, .blockEnd] handles true stop anchors rest with
      | (key, .error fault) => ([(key, .broken fault)], .error fault)
      | (key, .ok left) =>
          have := left.2
          match blockValue handles left.anchors left.tokens with
          | (value, .error fault) => ([(key, value)], .error fault)
          | (value, .ok left') =>
              have := left'.2
              let (entries, left'') := blockEntries handles start left'.anchors left'.tokens
              ((key, value) :: entries,
                left''.map (Left.widen (by simp only [Tokens.size, Left.tokens] at *; omega)))
  | .cons ⟨.blockEnd, _, _⟩ rest => ([], .ok ⟨(anchors, rest), by simp only [Tokens.size]; omega⟩)
  | .broken fault => ([(.broken fault, .broken fault)], .error fault)
  | ts =>
      let fault := unexpected .mappingKey ts .blockMapping start
      ([(.broken fault, .broken fault)], .error fault)
termination_by (ts.size, 3)
decreasing_by all_goals simp only [Tokens.size, Left.tokens] at *; omega
def blockValue (handles : Handles) (anchors : Anchors) (ts : Tokens) : Read Node (ts.size + 1) :=
  match ts with
  | .broken fault => (.broken fault, .error fault)
  | .cons ⟨.value, _, stop⟩ rest =>
      let (value, left) := nodeUnless [.key, .value, .blockEnd] handles true stop anchors rest
      (value, left.map (Left.widen (by simp [Tokens.size])))
  | ts => (.emptyScalar (mark ts), .ok ⟨(anchors, ts), Nat.lt_succ_self _⟩)
termination_by (ts.size, 0)
decreasing_by all_goals simp only [Tokens.size] at *; omega
def flowItems (handles : Handles) (start : Mark) (first : Bool) (anchors : Anchors)
    (ts : Tokens) : Read (List Node) (ts.size + 1) :=
  let fault := unexpected .flowSequenceEntry ts .flowSequence start
  match flowStep .flowSequenceEnd fault first ts with
  | .fault fault => ([.broken fault], .error fault)
  | .close rest h => ([], .ok ⟨(anchors, rest), by simp only; omega⟩)
  | .entry rest h =>
      match flowItem handles anchors rest with
      | (item, .error fault) => ([item], .error fault)
      | (item, .ok left) =>
          have := left.2
          let (items, left') := flowItems handles start false left.anchors left.tokens
          (item :: items, left'.map (Left.widen (by simp only [Left.tokens] at *; omega)))
termination_by (ts.size, 6)
decreasing_by
  · omega
  · simp only [Left.tokens] at *; omega
def flowItem (handles : Handles) (anchors : Anchors) (ts : Tokens) : Read Node ts.size :=
  match ts with
  | .cons ⟨.key, start, _⟩ rest =>
      let (pair, left) := flowPair handles anchors rest
      (.mapping ⟨start, none, none⟩ pair,
        left.map (Left.widen (by simp [Tokens.size])))
  | ts => node handles false anchors ts
termination_by (ts.size, 5)
decreasing_by
  · simp only [Tokens.size] at *; omega
  · exact Prod.Lex.right _ (by decide)
/-- The only entry of a mapping in a flow sequence, after the key indicator. The token that shows
that the key is left out is passed over. -/
def flowPair (handles : Handles) (anchors : Anchors) (ts : Tokens) :
    Read (List (Node × Node)) (ts.size + 1) :=
  match flowPairKey handles anchors ts with
  | (key, .error fault) => ([(key, .broken fault)], .error fault)
  | (key, .ok left) =>
      have := left.2
      match flowValue [.flowEntry, .flowSequenceEnd] handles left.anchors left.tokens with
      | (value, .error fault) => ([(key, value)], .error fault)
      | (value, .ok left') =>
          match breakOf? left'.tokens with
          | some fault => ([(key, value), (.broken fault, .broken fault)], .error fault)
          | none =>
              ([(key, value)], .ok (left'.widen (by simp only [Left.tokens] at *; omega)))
termination_by (ts.size, 4)
decreasing_by
  · exact Prod.Lex.right _ (by decide)
  · simp only [Left.tokens] at *; omega
def flowPairKey (handles : Handles) (anchors : Anchors) (ts : Tokens) :
    Read Node (ts.size + 1) :=
  match ts with
  | .cons t rest =>
      if [TokenKind.value, .flowEntry, .flowSequenceEnd].contains t.kind then
        (.emptyScalar t.stop, .ok ⟨(anchors, rest), by simp only [Tokens.size]; omega⟩)
      else
        let (key, left) := node handles false anchors (.cons t rest)
        (key, left.map (Left.widen (Nat.le_succ _)))
  | ts =>
      let (key, left) := node handles false anchors ts
      (key, left.map (Left.widen (Nat.le_succ _)))
termination_by (ts.size, 2)
def flowValue (kinds : List TokenKind) (handles : Handles) (anchors : Anchors) (ts : Tokens) :
    Read Node (ts.size + 1) :=
  match ts with
  | .broken fault => (.broken fault, .error fault)
  | .cons ⟨.value, _, _⟩ rest =>
      let (value, left) := nodeUnless kinds handles false (mark rest) anchors rest
      (value, left.map (Left.widen (by simp [Tokens.size])))
  | ts => (.emptyScalar (mark ts), .ok ⟨(anchors, ts), Nat.lt_succ_self _⟩)
termination_by (ts.size, 0)
decreasing_by all_goals simp only [Tokens.size] at *; omega
def flowEntries (handles : Handles) (start : Mark) (first : Bool) (anchors : Anchors)
    (ts : Tokens) : Read (List (Node × Node)) (ts.size + 1) :=
  let fault := unexpected .flowMappingEntry ts .flowMapping start
  match flowStep .flowMappingEnd fault first ts with
  | .fault fault => ([(.broken fault, .broken fault)], .error fault)
  | .close rest h => ([], .ok ⟨(anchors, rest), by simp only; omega⟩)
  | .entry rest h =>
      match flowEntry handles anchors rest with
      | (entry, .error fault) => ([entry], .error fault)
      | (entry, .ok left) =>
          have := left.2
          let (entries, left') := flowEntries handles start false left.anchors left.tokens
          (entry :: entries, left'.map (Left.widen (by simp only [Left.tokens] at *; omega)))
termination_by (ts.size, 5)
decreasing_by
  · omega
  · simp only [Left.tokens] at *; omega
def flowEntry (handles : Handles) (anchors : Anchors) (ts : Tokens) :
    Read (Node × Node) ts.size :=
  match ts with
  | .cons ⟨.key, _, _⟩ rest =>
      match nodeUnless [.value, .flowEntry, .flowMappingEnd] handles false (mark rest) anchors
          rest with
      | (key, .error fault) => ((key, .broken fault), .error fault)
      | (key, .ok left) =>
          have := left.2
          let (value, left') :=
            flowValue [.flowEntry, .flowMappingEnd] handles left.anchors left.tokens
          ((key, value),
            left'.map (Left.widen (by simp only [Tokens.size, Left.tokens] at *; omega)))
  | ts =>
      match node handles false anchors ts with
      | (key, .error fault) => ((key, .broken fault), .error fault)
      | (key, .ok left) =>
          match breakOf? left.tokens with
          | some fault => ((key, .broken fault), .error fault)
          | none => ((key, .emptyScalar (mark left.tokens)), .ok left)
termination_by (ts.size, 3)
decreasing_by
  · simp only [Tokens.size] at *; omega
  · simp only [Tokens.size, Left.tokens] at *; omega
  · exact Prod.Lex.right _ (by decide)
end

end Grammar

end Proofread.Yaml
