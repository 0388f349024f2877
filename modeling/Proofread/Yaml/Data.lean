import Proofread.Yaml.Decode

set_option autoImplicit false

namespace Proofread.Yaml

open Json (Value)

inductive Data where
  | literal (l : Literal)
  | sequence (items : List Data)
  | mapping (entries : List (Data × Data))

namespace Decoder

def jsonLiteral (place : Place) (mark : Mark) : Literal → Decoder Value
  | .null | .infinity _ | .notANumber => return .null
  | .bool b => return .bool b
  | .whole n => return .number (.whole n)
  | .wide _ => fail place mark .range
  | .double d => return .number (.double d)
  | .text s => return .string s

def tagOf : Node → Option String
  | .scalar p _ _ | .sequence p _ | .mapping p _ => p.tag
  | _ => none

def anyLiteral (place : Place) (p : Properties) (style : ScalarStyle) (text : String) :
    Decoder Literal :=
  match literal p.tag style text with
  | .ok l => return l
  | .error m => fail place p.mark m

/-- Decoding one level of a value of any shape: what is made of a scalar, of a sequence and of a
mapping, the latter two if the level below can be decoded. -/
structure AnyShape (α : Type) where
  tagged : Mismatch
  expected : String
  scalar : Place → Mark → Literal → Decoder α
  sequence : (Path → Node → Decoder α) → Path → List Node → Decoder α
  mapping : (Path → Node → Decoder α) → Path → List (Node × Node) → Decoder α

namespace AnyShape

variable {α : Type}

def level (shape : AnyShape α) (below : Option (Path → Node → Decoder α)) (path : Path)
    (n : Node) : Decoder α := do
  let place : Place := ⟨path, 0⟩
  let n ← follow n
  if isLocalTag (tagOf n) then fail place n.mark shape.tagged
  match n, below with
  | .scalar p style text, _ => shape.scalar place p.mark (← anyLiteral place p style text)
  | .sequence _ items, some below => shape.sequence below path items
  | .mapping _ entries, some below => shape.mapping below path entries
  | .sequence p _, none | .mapping p _, none => throw (.tooDeep p.mark)
  | n, _ => refuse place n shape.expected

def within (shape : AnyShape α) : Nat → Path → Node → Decoder α
  | 0 => shape.level none
  | depth + 1 => shape.level (some (shape.within depth))

def decode (shape : AnyShape α) (place : Place) (n : Node) : Decoder α :=
  shape.within place.depth place.path n

end AnyShape

def valuePath (path : Path) (key : Node) : Path :=
  (Place.field ⟨path, 0⟩ key).path

def itemsOf {α : Type} (below : Path → Node → Decoder α) (path : Path) (items : List Node) :
    Decoder (List α) :=
  items.zipIdx.mapM fun (n, index) => below (.item path index) n

def jsonFields (below : Path → Node → Decoder Value) (path : Path) (entries : List (Node × Node)) :
    Decoder (List (String × Value)) :=
  entries.zipIdx.foldlM (fun known ((key, value), index) => do
    let name ← string (if index = 0 then "a string key" else "a string") ⟨path, 0⟩ key
    return insertByName name (← below (valuePath path key) value) known) []

def jsonShape : AnyShape Value where
  tagged := .kind .tagged "any valid JSON value"
  expected := "any valid JSON value"
  scalar := jsonLiteral
  sequence below path items := return .array (← itemsOf below path items)
  mapping below path entries := return .object (← jsonFields below path entries)

def json : Place → Node → Decoder Value :=
  jsonShape.decode

def dataLiteral (place : Place) (mark : Mark) : Literal → Decoder Data
  | .wide n => fail place mark (.kind (.literal (.wide n)) "any value")
  | l => return .literal l

def dataShape : AnyShape Data where
  tagged := .taggedContent
  expected := "any value"
  scalar := dataLiteral
  sequence below path items := return .sequence (← itemsOf below path items)
  mapping below path entries := return .mapping (← entries.mapM fun (key, value) => do
    let k ← below path key
    return (k, ← below (valuePath path key) value))

def data : Place → Node → Decoder Data :=
  dataShape.decode

end Decoder

namespace Data

def found : Data → Found
  | literal l => .literal l
  | sequence _ => .sequence
  | mapping _ => .mapping

def key (first : Bool) : Data → Except Mismatch String
  | literal (.text s) => .ok s
  | d => .error (.kind d.found (if first then "a string key" else "a string"))

def literalToJson : Literal → Value
  | .null | .infinity _ | .notANumber | .wide _ => .null
  | .bool b => .bool b
  | .whole n => .number (.whole n)
  | .double d => .number (.double d)
  | .text s => .string s

mutual
def toJson : Data → Except Mismatch Value
  | literal l => .ok (literalToJson l)
  | sequence items => (itemsToJson items).map .array
  | mapping entries => (entriesToJson true [] entries).map .object
def itemsToJson : List Data → Except Mismatch (List Value)
  | [] => .ok []
  | item :: rest => do
      let value ← item.toJson
      .ok (value :: (← itemsToJson rest))
def entriesToJson (first : Bool) (known : List (String × Value)) :
    List (Data × Data) → Except Mismatch (List (String × Value))
  | [] => .ok known
  | (k, v) :: rest => do
      let name ← k.key first
      let value ← v.toJson
      entriesToJson false (insertByName name value known) rest
end

end Data

end Proofread.Yaml
