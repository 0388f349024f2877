set_option autoImplicit false

namespace Proofread.Text

def bytes (s : String) : List UInt8 :=
  s.toByteArray.data.toList

theorem bytes_encode (s : String) : bytes s = s.toList.flatMap String.utf8EncodeChar := by
  rw [bytes, ← String.utf8Encode_toList]
  simp [List.utf8Encode]

-- The lists differ at some place, and at the first such place the left one is smaller.
inductive Parts : List UInt8 → List UInt8 → Prop where
  | here (a b : UInt8) (left right : List UInt8) (less : a < b) : Parts (a :: left) (b :: right)
  | later (a : UInt8) (left right : List UInt8) (parts : Parts left right) :
      Parts (a :: left) (a :: right)

theorem parts_less (left right : List UInt8) (parts : Parts left right) (u v : List UInt8) :
    left ++ u < right ++ v := by
  induction parts with
  | here a b left right less => exact List.cons_lt_cons_iff.mpr (Or.inl less)
  | later a left right _ ih => exact List.cons_lt_cons_iff.mpr (Or.inr ⟨rfl, ih⟩)

theorem parts_cons (m n : Nat) (left right : List UInt8) (small : n < 256)
    (order : m < n ∨ m = n ∧ Parts left right) :
    Parts (UInt8.ofNat m :: left) (UInt8.ofNat n :: right) := by
  rcases order with less | ⟨same, parts⟩
  · apply Parts.here
    rw [UInt8.lt_iff_toNat_lt, UInt8.toNat_ofNat', UInt8.toNat_ofNat']
    omega
  · rw [same]
    exact .later _ left right parts

theorem parts_one (v w : Nat) (less : v % 64 < w % 64) :
    Parts [UInt8.ofNat (v % 64 + 128)] [UInt8.ofNat (w % 64 + 128)] :=
  parts_cons _ _ [] [] (by omega) (Or.inl (by omega))

theorem parts_two (v w : Nat) (less : v % 4096 < w % 4096) :
    Parts [UInt8.ofNat (v / 64 % 64 + 128), UInt8.ofNat (v % 64 + 128)]
      [UInt8.ofNat (w / 64 % 64 + 128), UInt8.ofNat (w % 64 + 128)] := by
  have digits : v / 64 % 64 + 128 < w / 64 % 64 + 128 ∨
      v / 64 % 64 + 128 = w / 64 % 64 + 128 ∧ v % 64 < w % 64 := by omega
  exact parts_cons _ _ _ _ (by omega) (digits.imp_right (And.imp_right (parts_one v w)))

theorem parts_three (v w : Nat) (less : v % 262144 < w % 262144) :
    Parts [UInt8.ofNat (v / 4096 % 64 + 128), UInt8.ofNat (v / 64 % 64 + 128),
        UInt8.ofNat (v % 64 + 128)]
      [UInt8.ofNat (w / 4096 % 64 + 128), UInt8.ofNat (w / 64 % 64 + 128),
        UInt8.ofNat (w % 64 + 128)] := by
  have digits : v / 4096 % 64 + 128 < w / 4096 % 64 + 128 ∨
      v / 4096 % 64 + 128 = w / 4096 % 64 + 128 ∧ v % 4096 < w % 4096 := by omega
  exact parts_cons _ _ _ _ (by omega) (digits.imp_right (And.imp_right (parts_two v w)))

inductive Encodes (v : Nat) : List UInt8 → Prop where
  | one (most : v ≤ 127) : Encodes v [UInt8.ofNat v]
  | two (least : 127 < v) (most : v ≤ 2047) :
      Encodes v [UInt8.ofNat (v / 64 % 32 + 192), UInt8.ofNat (v % 64 + 128)]
  | three (least : 2047 < v) (most : v ≤ 65535) :
      Encodes v [UInt8.ofNat (v / 4096 % 16 + 224), UInt8.ofNat (v / 64 % 64 + 128),
        UInt8.ofNat (v % 64 + 128)]
  | four (least : 65535 < v) (most : v < 0x110000) :
      Encodes v [UInt8.ofNat (v / 262144 % 8 + 240), UInt8.ofNat (v / 4096 % 64 + 128),
        UInt8.ofNat (v / 64 % 64 + 128), UInt8.ofNat (v % 64 + 128)]

theorem character_encodes (c : Char) : Encodes c.val.toNat (String.utf8EncodeChar c) := by
  have bound : c.val.toNat < 0x110000 := by
    rcases c.valid with low | high
    · exact Nat.lt_trans low (by decide)
    · exact high.2
  rw [String.utf8EncodeChar]
  by_cases one : c.val.toNat ≤ 127
  · rw [if_pos one]
    exact .one one
  · rw [if_neg one]
    by_cases two : c.val.toNat ≤ 2047
    · rw [if_pos two]
      exact .two (Nat.not_le.mp one) two
    · rw [if_neg two]
      by_cases three : c.val.toNat ≤ 65535
      · rw [if_pos three]
        exact .three (Nat.not_le.mp two) three
      · rw [if_neg three]
        exact .four (Nat.not_le.mp three) bound

-- A shorter encoding has a smaller first byte; encodings of one length compare as digits do.
theorem encodings_part (v w : Nat) (left right : List UInt8) (less : v < w) (first : Encodes v left)
    (second : Encodes w right) : Parts left right := by
  cases first with
  | one most =>
      cases second with
      | one _ => exact parts_cons v w [] [] (by omega) (Or.inl less)
      | two | three | four => exact parts_cons _ _ _ _ (by omega) (Or.inl (by omega))
  | two least most =>
      cases second with
      | one _ => omega
      | two _ _ =>
          have digits : v / 64 % 32 + 192 < w / 64 % 32 + 192 ∨
              v / 64 % 32 + 192 = w / 64 % 32 + 192 ∧ v % 64 < w % 64 := by omega
          exact parts_cons _ _ _ _ (by omega) (digits.imp_right (And.imp_right (parts_one v w)))
      | three | four => exact parts_cons _ _ _ _ (by omega) (Or.inl (by omega))
  | three least most =>
      cases second with
      | one | two => omega
      | three _ _ =>
          have digits : v / 4096 % 16 + 224 < w / 4096 % 16 + 224 ∨
              v / 4096 % 16 + 224 = w / 4096 % 16 + 224 ∧ v % 4096 < w % 4096 := by omega
          exact parts_cons _ _ _ _ (by omega) (digits.imp_right (And.imp_right (parts_two v w)))
      | four => exact parts_cons _ _ _ _ (by omega) (Or.inl (by omega))
  | four least most =>
      cases second with
      | one | two | three => omega
      | four _ _ =>
          have digits : v / 262144 % 8 + 240 < w / 262144 % 8 + 240 ∨
              v / 262144 % 8 + 240 = w / 262144 % 8 + 240 ∧ v % 262144 < w % 262144 := by omega
          exact parts_cons _ _ _ _ (by omega) (digits.imp_right (And.imp_right (parts_three v w)))

theorem characters_less (left right : List Char) (less : left < right) :
    left.flatMap String.utf8EncodeChar < right.flatMap String.utf8EncodeChar := by
  induction left generalizing right with
  | nil =>
      cases right with
      | nil => exact absurd less (List.not_lt_nil [])
      | cons d right =>
          cases encoded : (d :: right).flatMap String.utf8EncodeChar with
          | nil =>
              rw [List.flatMap_cons, List.append_eq_nil_iff] at encoded
              exact absurd encoded.1 String.utf8EncodeChar_ne_nil
          | cons a rest => exact List.nil_lt_cons a rest
  | cons c left ih =>
      cases right with
      | nil => exact absurd less (List.not_lt_nil _)
      | cons d right =>
          rw [List.flatMap_cons, List.flatMap_cons]
          rcases List.cons_lt_cons_iff.mp less with smaller | ⟨same, later⟩
          · have parts := encodings_part c.val.toNat d.val.toNat _ _ smaller (character_encodes c)
              (character_encodes d)
            exact parts_less _ _ parts _ _
          · rw [same]
            exact List.append_left_lt (ih right later)

theorem bytes_lt (a b : String) : bytes a < bytes b ↔ a < b := by
  have onto : ∀ s t : String, s < t → bytes s < bytes t := by
    intro s t less
    rw [bytes_encode, bytes_encode]
    exact characters_less s.toList t.toList less
  constructor
  · intro less
    by_cases below : a < b
    · exact below
    · by_cases above : b < a
      · exact absurd (onto b a above) (List.lt_asymm less)
      · have same : a = b := String.le_antisymm (String.not_lt.mp above) (String.not_lt.mp below)
        rw [same] at less
        exact absurd less (List.lt_irrefl _)
  · exact onto a b

end Proofread.Text
