import Proofread.Decimal.Shortest
import Proofread.NameMap

set_option autoImplicit false

namespace Proofread.Json

open Decimal (Double)

inductive Number where
  | whole (n : Int)
  | double (d : Double)
deriving DecidableEq, Repr

namespace Number

def leastSigned : Int := -0x8000000000000000
def greatestSigned : Int := 0x7FFFFFFFFFFFFFFF

def signed? : Number → Option Int
  | whole n => if leastSigned ≤ n && n ≤ greatestSigned then some n else none
  | double _ => none

def natural? : Number → Option Nat
  | whole n => if 0 ≤ n then some n.toNat else none
  | double _ => none

def render : Number → String
  | whole n => toString n
  | double d => Decimal.jsonLayout.render d

end Number

inductive Value where
  | null
  | bool (b : Bool)
  | number (n : Number)
  | string (s : String)
  | array (items : List Value)
  | object (fields : List (String × Value))
deriving Repr, Inhabited

abbrev Fields := List (String × Value)

namespace Value

def ofNat (n : Nat) : Value :=
  .number (.whole n)

def field? (name : String) : Value → Option Value
  | .object fields => fields.lookup name
  | _ => none

mutual
def decEq : (a b : Value) → Decidable (a = b)
  | .null, .null => .isTrue rfl
  | .bool a, .bool b => if h : a = b then .isTrue (by rw [h]) else .isFalse (by simp [h])
  | .number a, .number b => if h : a = b then .isTrue (by rw [h]) else .isFalse (by simp [h])
  | .string a, .string b => if h : a = b then .isTrue (by rw [h]) else .isFalse (by simp [h])
  | .array a, .array b =>
      match decEqList a b with
      | .isTrue h => .isTrue (by rw [h])
      | .isFalse h => .isFalse (by simp [h])
  | .object a, .object b =>
      match decEqFields a b with
      | .isTrue h => .isTrue (by rw [h])
      | .isFalse h => .isFalse (by simp [h])
  | .null, .bool _ | .null, .number _ | .null, .string _ | .null, .array _ | .null, .object _
  | .bool _, .null | .bool _, .number _ | .bool _, .string _ | .bool _, .array _
  | .bool _, .object _ | .number _, .null | .number _, .bool _ | .number _, .string _
  | .number _, .array _ | .number _, .object _ | .string _, .null | .string _, .bool _
  | .string _, .number _ | .string _, .array _ | .string _, .object _ | .array _, .null
  | .array _, .bool _ | .array _, .number _ | .array _, .string _ | .array _, .object _
  | .object _, .null | .object _, .bool _ | .object _, .number _ | .object _, .string _
  | .object _, .array _ => .isFalse (by simp)
def decEqList : (a b : List Value) → Decidable (a = b)
  | [], [] => .isTrue rfl
  | [], _ :: _ => .isFalse (by simp)
  | _ :: _, [] => .isFalse (by simp)
  | a :: as, b :: bs =>
      match decEq a b, decEqList as bs with
      | .isTrue h, .isTrue g => .isTrue (by rw [h, g])
      | .isFalse h, _ => .isFalse (by simp [h])
      | _, .isFalse g => .isFalse (by simp [g])
def decEqFields : (a b : List (String × Value)) → Decidable (a = b)
  | [], [] => .isTrue rfl
  | [], _ :: _ => .isFalse (by simp)
  | _ :: _, [] => .isFalse (by simp)
  | (n, a) :: as, (m, b) :: bs =>
      match instDecidableEqString n m, decEq a b, decEqFields as bs with
      | .isTrue h, .isTrue g, .isTrue f => .isTrue (by rw [h, g, f])
      | .isFalse h, _, _ => .isFalse (by simp [h])
      | _, .isFalse g, _ => .isFalse (by simp [g])
      | _, _, .isFalse f => .isFalse (by simp [f])
end

instance : DecidableEq Value := decEq

end Value

end Proofread.Json
