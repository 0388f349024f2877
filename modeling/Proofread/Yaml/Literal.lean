import Proofread.Decimal.Shortest
import Proofread.Text.Quoted

set_option autoImplicit false

namespace Proofread.Yaml

open Decimal (Double)

inductive Literal where
  | null
  | bool (b : Bool)
  | whole (n : Int)
  | wide (n : Int)
  | double (d : Double)
  | infinity (negative : Bool)
  | notANumber
  | text (s : String)
deriving DecidableEq, Repr

namespace Literal

def leastWhole : Int := -0x8000000000000000
def greatestWhole : Int := 0xFFFFFFFFFFFFFFFF
def leastWide : Int := -0x80000000000000000000000000000000
def greatestWide : Int := 0xFFFFFFFFFFFFFFFFFFFFFFFFFFFFFFFF

def positionalLayout : Decimal.Layout := ⟨-400, 400, false⟩

def render : Literal → String
  | null => "unit value"
  | bool b => "boolean `" ++ toString b ++ "`"
  | whole n => "integer `" ++ toString n ++ "`"
  | wide n => "integer `" ++ toString n ++ "` as " ++ (if n < 0 then "i128" else "u128")
  | double d => "floating point `" ++ positionalLayout.render d ++ "`"
  | infinity negative => "floating point `" ++ (if negative then "-inf" else "inf") ++ "`"
  | notANumber => "floating point `NaN`"
  | text s => "string " ++ Text.quoted s

def nullNames : List String := ["null", "Null", "NULL", "~"]
def trueNames : List String := ["true", "True", "TRUE"]
def falseNames : List String := ["false", "False", "FALSE"]
def infinityNames : List String := [".inf", ".Inf", ".INF"]
def negativeInfinityNames : List String := ["-.inf", "-.Inf", "-.INF"]
def notANumberNames : List String := [".nan", ".NaN", ".NAN"]

def bool? (s : String) : Option Bool :=
  if s ∈ trueNames then some true
  else if s ∈ falseNames then some false
  else none

def digitValue? (c : Char) : Option Nat :=
  if c.isDigit then some (c.toNat - 48)
  else if 'a' ≤ c && c ≤ 'f' then some (c.toNat - 87)
  else if 'A' ≤ c && c ≤ 'F' then some (c.toNat - 55)
  else none

def digitsFrom? (base : Nat) : Nat → List Char → Option Nat
  | n, [] => some n
  | n, c :: rest =>
      match digitValue? c with
      | some d => if d < base then digitsFrom? base (n * base + d) rest else none
      | none => none

def natural? (base : Nat) (cs : List Char) : Option Nat :=
  if cs.isEmpty then none else digitsFrom? base 0 cs

def hasLeadingZero (cs : List Char) : Bool :=
  let digits := match cs with
    | c :: rest => if c == '-' || c == '+' then rest else cs
    | [] => []
  match digits with
  | '0' :: rest => !rest.isEmpty && rest.all Char.isDigit
  | _ => false

def magnitude? : List Char → Option Nat
  | '0' :: 'x' :: rest => natural? 16 rest
  | '0' :: 'o' :: rest => natural? 8 rest
  | '0' :: 'b' :: rest => natural? 2 rest
  | cs => if hasLeadingZero cs then none else natural? 10 cs

def integer? : List Char → Option Int
  | '-' :: rest => (magnitude? rest).map fun n => -(n : Int)
  | '+' :: rest => (magnitude? rest).map Int.ofNat
  | cs => (magnitude? cs).map Int.ofNat

def whole? (s : String) : Option Literal :=
  match integer? s.toList with
  | none => none
  | some n =>
      if leastWhole ≤ n && n ≤ greatestWhole then some (.whole n)
      else if leastWide ≤ n && n ≤ greatestWide then some (.wide n)
      else none

def greatestExponent : Nat := 100000

def exponent? (cs : List Char) : Option Int :=
  match cs with
  | '-' :: rest => (natural? 10 rest).map fun n => -(n : Int)
  | '+' :: rest => (natural? 10 rest).map Int.ofNat
  | rest => (natural? 10 rest).map Int.ofNat

def scaled? (negative : Bool) (digits : Nat) (exponent : Int) : Option Double :=
  if digits = 0 || exponent < -(greatestExponent : Int) then
    some { Double.zero with negative := negative }
  else if (greatestExponent : Int) < exponent then none
  else Double.ofDecimal? negative digits exponent

def unsignedDouble? (negative : Bool) (cs : List Char) : Option Double :=
  let leading := cs.takeWhile Char.isDigit
  let (fraction, rest) := match cs.dropWhile Char.isDigit with
    | '.' :: tail => (tail.takeWhile Char.isDigit, tail.dropWhile Char.isDigit)
    | rest => ([], rest)
  let exponent := match rest with
    | [] => some 0
    | c :: tail => if c == 'e' || c == 'E' then exponent? tail else none
  match natural? 10 (leading ++ fraction), exponent with
  | some digits, some e => scaled? negative digits (e - fraction.length)
  | _, _ => none

def finite? : List Char → Option Double
  | '-' :: rest => unsignedDouble? true rest
  | '+' :: rest => unsignedDouble? false rest
  | cs => unsignedDouble? false cs

def double? (s : String) : Option Literal :=
  let unsigned := if s.startsWith "+" then String.ofList (s.toList.drop 1) else s
  if unsigned ∈ infinityNames then some (.infinity false)
  else if s ∈ negativeInfinityNames then some (.infinity true)
  else if s ∈ notANumberNames then some .notANumber
  else (finite? s.toList).map .double

def ofPlain (s : String) : Literal :=
  if s.isEmpty || s ∈ nullNames then .null
  else match bool? s with
    | some b => .bool b
    | none =>
        match whole? s with
        | some n => n
        | none =>
            if hasLeadingZero s.toList then .text s
            else (double? s).getD (.text s)

end Literal

end Proofread.Yaml
