import Proofread.Json.Value
import Proofread.Yaml.Document

/-!
Reading the contents of a document as data of a given shape. A decoder follows aliases, a limited
number of times, and collections are nested up to a limited depth. The first thing that does not fit
is the fault, even if the text breaks off behind it.
-/

set_option autoImplicit false

namespace Proofread.Yaml

open Json (Value)

structure Source where
  anchored : List (Nat × Node)
  aliasLimit : Nat

/-- The state is the number of aliases followed. -/
abbrev Decoder := ReaderT Source (StateT Nat (Except Fault))

structure Place where
  path : Path
  depth : Nat

namespace Place

def top : Place := ⟨.root, 128⟩

def field (place : Place) (key : Node) : Place :=
  match key with
  | .scalar _ _ text => { place with path := .field place.path text }
  | _ => { place with path := .unnamed place.path }

def item (place : Place) (index : Nat) : Place :=
  { place with path := .item place.path index }

end Place

namespace Decoder

def fail {α : Type} (place : Place) (mark : Mark) (mismatch : Mismatch) : Decoder α :=
  throw (.contents mismatch place.path mark)

def follow (n : Node) : Decoder Node :=
  match n with
  | .reference _ number => do
      let source ← read
      let followed ← modifyGet fun count => (count + 1, count + 1)
      if source.aliasLimit < followed then throw .tooManyAliases
      else return (source.anchored.lookup number).getD n
  | n => return n

def boolTag : String := "tag:yaml.org,2002:bool"
def intTag : String := "tag:yaml.org,2002:int"
def floatTag : String := "tag:yaml.org,2002:float"
def nullTag : String := "tag:yaml.org,2002:null"

def isLocalTag (tag : Option String) : Bool :=
  tag.any fun t => t.startsWith "!"

/-- The meaning of a scalar. A standard tag demands what it names; a scalar that is not plain is
text otherwise. -/
def literal (tag : Option String) (style : ScalarStyle) (text : String) :
    Except Mismatch Literal :=
  let demand (found : Option Literal) (expected : String) : Except Mismatch Literal :=
    match found with
    | some l => .ok l
    | none => .error (.value text expected)
  if tag == some boolTag then demand ((Literal.bool? text).map .bool) "a boolean"
  else if tag == some intTag then demand (Literal.whole? text) "an integer"
  else if tag == some floatTag then demand (Literal.double? text) "a float"
  else if tag == some nullTag then
    demand (if text ∈ Literal.nullNames then some .null else none) "null"
  else if style == .plain && (tag.isNone || isLocalTag tag) then .ok (Literal.ofPlain text)
  else .ok (.text text)

def mismatch (n : Node) (expected : String) : Mismatch :=
  match n with
  | .scalar p style text =>
      match literal p.tag style text with
      | .ok l => .kind (.literal l) expected
      | .error m => m
  | .sequence _ _ => .kind .sequence expected
  | _ => .kind .mapping expected

def refuse {α : Type} (place : Place) (n : Node) (expected : String) : Decoder α :=
  match n with
  | .broken fault => throw fault
  | n => fail place n.mark (mismatch n expected)

def string (expected : String) (place : Place) (n : Node) : Decoder String := do
  match ← follow n with
  | .scalar _ _ text => return text
  | n => refuse place n expected

def bool (place : Place) (n : Node) : Decoder Bool := do
  let n ← follow n
  let found := match n with
    | .scalar p style text =>
        if style == .plain || (style == .literal && p.tag == some boolTag) then Literal.bool? text
        else none
    | _ => none
  match found with
  | some b => return b
  | none => refuse place n "a boolean"

def isLeftOut (style : ScalarStyle) (text : String) : Bool :=
  style == .plain && text.isEmpty

def entries (expected : String) (place : Place) (n : Node) :
    Decoder (Place × Mark × List (Node × Node)) := do
  match ← follow n with
  | .mapping p entries =>
      match place.depth with
      | 0 => throw (.tooDeep p.mark)
      | depth + 1 => return (⟨place.path, depth⟩, p.mark, entries)
  | .scalar p style text =>
      if isLeftOut style text then return (place, p.mark, [])
      else refuse place (.scalar p style text) expected
  | n => refuse place n expected

def items (place : Place) (n : Node) : Decoder (Place × List Node) := do
  match ← follow n with
  | .sequence p items =>
      match place.depth with
      | 0 => throw (.tooDeep p.mark)
      | depth + 1 => return (⟨place.path, depth⟩, items)
  | .scalar p style text =>
      if isLeftOut style text then return (place, [])
      else refuse place (.scalar p style text) "a sequence"
  | n => refuse place n "a sequence"

def list {α : Type} (item : Place → Node → Decoder α) (place : Place) (n : Node) :
    Decoder (List α) := do
  let (place, items) ← items place n
  items.zipIdx.mapM fun (n, index) => item (place.item index) n

def map {α : Type} (value : Place → Node → Decoder α) (place : Place) (n : Node) :
    Decoder (NameMap α) := do
  let (place, _, entries) ← entries "a map" place n
  entries.foldlM (fun known (key, n) => do
    let name ← string "a string" place key
    return known.insert name (← value (place.field key) n)) .empty

/-- A mapping with named fields. Each entry changes the record read so far; the record is complete
at the end of the mapping. -/
def record {α β : Type} (expected : String) (start : α)
    (entry : α → String → Decoder Unit → Place → Node → Decoder α)
    (complete : Place → Mark → α → Decoder β) (place : Place) (n : Node) : Decoder β := do
  let (inner, mark, entries) ← entries expected place n
  let read ← entries.foldlM (fun known (key, n) => do
    let name ← string "field identifier" inner key
    entry known name (fail place mark (.duplicate name)) (inner.field key) n) start
  complete place mark read

def ignore (n : Node) : Decoder Unit :=
  match n.fault? with
  | some fault => throw fault
  | none => return ()

def once {α : Type} (known : Option α) (twice : Decoder Unit) (value : Decoder α) :
    Decoder (Option α) := do
  if known.isSome then twice
  return some (← value)

def required {α : Type} (name : String) (place : Place) (mark : Mark) (value : Option α) :
    Decoder α :=
  match value with
  | some a => return a
  | none => fail place mark (.missing name)

end Decoder

def decodeDocument {α : Type} (decoder : Place → Node → Decoder α) (document : Document) :
    Except Fault α :=
  let source : Source := ⟨document.root.anchored.reverse, document.root.events * 100⟩
  match ((decoder .top document.root).run source).run 0 with
  | .error fault => .error fault
  | .ok (a, _) =>
      match document.ending with
      | some fault => .error fault
      | none => .ok a

def decode {α : Type} (decoder : Place → Node → Decoder α) (s : String) : Except Fault α :=
  decodeDocument decoder (Document.ofText s.toList)

end Proofread.Yaml
