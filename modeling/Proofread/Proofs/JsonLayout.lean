import Mathlib.Data.List.TakeWhile
import Proofread.Json.Parser
import Proofread.Json.Printer

set_option autoImplicit false

namespace Proofread.Json

theorem hex_value_digit (n : Nat) (small : n < 16) : hexValue? (hexDigit n) = some n := by
  have all : ∀ n < 16, hexValue? (hexDigit n) = some n := by decide
  exact all n small

theorem read_control (c : Char) (control : c.toNat < 0x20) (rest : List Char) :
    readEscape ('u' :: '0' :: '0' :: hexDigit (c.toNat / 16) :: hexDigit (c.toNat % 16) :: rest) =
      .ok (c, rest) := by
  have high := hex_value_digit (c.toNat / 16) (by omega)
  have low := hex_value_digit (c.toNat % 16) (by omega)
  have zero : hexValue? '0' = some 0 := by decide
  have whole : c.toNat / 16 * 16 + c.toNat % 16 = c.toNat := by omega
  have digits : readHexDigits
      ('0' :: '0' :: hexDigit (c.toNat / 16) :: hexDigit (c.toNat % 16) :: rest) =
        .ok (c.toNat, rest) := by
    simp [readHexDigits, zero, high, low, whole]
  have trailing : isTrailing c.toNat = false := by
    simp [isTrailing]
    omega
  have leading : isLeading c.toNat = false := by
    simp [isLeading]
    omega
  simp [readEscape, digits, trailing, leading, Char.ofNat_toNat, bind, Except.bind]

theorem read_escaped (c : Char) (rest done : List Char) (fuel : Nat) :
    readString (fuel + 1) (escapeChar c ++ rest) done = readString fuel rest (c :: done) := by
  rw [escapeChar]
  split_ifs with quote backslash backspace feed newline ret tab control
  · subst quote
    rfl
  · subst backslash
    rfl
  · subst backspace
    rfl
  · subst feed
    rfl
  · subst newline
    rfl
  · subst ret
    rfl
  · subst tab
    rfl
  · have read := read_control c control rest
    simp only [List.cons_append, List.nil_append, readString, read]
    rfl
  · simp [readString, quote, backslash, control]

theorem read_string_escaped (s rest done : List Char) (fuel : Nat) (enough : s.length < fuel) :
    readString fuel (s.flatMap escapeChar ++ '\x22' :: rest) done =
      .ok (String.ofList (done.reverse ++ s), rest) := by
  induction s generalizing done fuel with
  | nil =>
      cases fuel with
      | zero => cases enough
      | succ fuel => simp [readString]
  | cons c s ih =>
      cases fuel with
      | zero => cases enough
      | succ fuel =>
          rw [List.flatMap_cons, List.append_assoc, read_escaped,
            ih (c :: done) fuel (by simpa using enough)]
          simp

@[simp] theorem quoted_list (s : String) :
    (quoted s).toList = '\x22' :: (s.toList.flatMap escapeChar ++ ['\x22']) := by
  simp [quoted]

theorem quoted_one_way (s t : String) (r u : List Char)
    (same : (quoted s).toList ++ r = (quoted t).toList ++ u) : s = t ∧ r = u := by
  rw [quoted_list, quoted_list, List.cons_append, List.cons_append, List.append_assoc,
    List.append_assoc] at same
  have inner := (List.cons.inj same).2
  have first := read_string_escaped s.toList r [] (s.toList.length + t.toList.length + 1) (by omega)
  have second := read_string_escaped t.toList u [] (s.toList.length + t.toList.length + 1) (by omega)
  rw [List.singleton_append, List.singleton_append] at inner
  rw [inner, second] at first
  have both := Prod.mk.inj (Except.ok.inj first)
  simp at both
  exact ⟨both.1.symm, both.2.symm⟩

def Ends (rest : List Char) : Prop :=
  ∀ c ∈ rest.head?, c.isDigit = false

theorem digits_are_digits (n : Nat) : ∀ c ∈ Nat.toDigits 10 n, c.isDigit = true :=
  fun _ listed => Nat.isDigit_of_mem_toDigits (by decide) (by decide) listed

theorem digits_one_way (m n : Nat) (r u : List Char) (endsR : Ends r) (endsU : Ends u)
    (same : Nat.toDigits 10 m ++ r = Nat.toDigits 10 n ++ u) : m = n ∧ r = u := by
  have run : ∀ (k : Nat) (rest : List Char), Ends rest →
      (Nat.toDigits 10 k ++ rest).takeWhile Char.isDigit = Nat.toDigits 10 k := by
    intro k rest ends
    rw [List.takeWhile_append_of_pos (digits_are_digits k)]
    cases rest with
    | nil => simp
    | cons c rest => simp [ends c rfl]
  have digits := congrArg (List.takeWhile Char.isDigit) same
  rw [run m r endsR, run n u endsU] at digits
  have number := congrArg (fun cs => Nat.ofDigitChars 10 cs 0) digits
  simp only [Nat.ofDigitChars_toDigits (b := 10) (by decide) (by decide)] at number
  rw [digits] at same
  exact ⟨number, List.append_cancel_left same⟩

theorem whole_list (n : Int) : (Number.whole n).render.toList =
    if 0 ≤ n then Nat.toDigits 10 n.toNat else '-' :: Nat.toDigits 10 (-n).toNat := by
  rw [Number.render, Int.toString_eq_repr, Int.repr_eq_if]
  split_ifs with nonnegative
  · exact Nat.toList_repr
  · rw [String.toList_append, Nat.toList_repr]
    rfl

theorem digits_not_minus (n : Nat) (r u : List Char) : Nat.toDigits 10 n ++ r ≠ '-' :: u := by
  intro same
  cases shape : Nat.toDigits 10 n with
  | nil => exact Nat.toDigits_ne_nil shape
  | cons c rest =>
      rw [shape, List.cons_append] at same
      have digit := digits_are_digits n c (by simp [shape])
      rw [(List.cons.inj same).1] at digit
      exact absurd digit (by decide)

theorem whole_one_way (m n : Int) (r u : List Char) (endsR : Ends r) (endsU : Ends u)
    (same : (Number.whole m).render.toList ++ r = (Number.whole n).render.toList ++ u) :
    m = n ∧ r = u := by
  rw [whole_list, whole_list] at same
  by_cases left : 0 ≤ m
  · by_cases right : 0 ≤ n
    · rw [if_pos left, if_pos right] at same
      have read := digits_one_way m.toNat n.toNat r u endsR endsU same
      exact ⟨by omega, read.2⟩
    · rw [if_pos left, if_neg right, List.cons_append] at same
      exact absurd same (digits_not_minus m.toNat r _)
  · by_cases right : 0 ≤ n
    · rw [if_neg left, if_pos right, List.cons_append] at same
      exact absurd same.symm (digits_not_minus n.toNat u _)
    · rw [if_neg left, if_neg right, List.cons_append, List.cons_append] at same
      have read := digits_one_way (-m).toNat (-n).toNat r u endsR endsU (List.cons.inj same).2
      exact ⟨by omega, read.2⟩

-- Whatever follows, the texts of the two things agree only if the things do.
def OneWay {α : Type} (text : α → String) (a b : α) : Prop :=
  ∀ r u, Ends r → Ends u → (text a).toList ++ r = (text b).toList ++ u → a = b ∧ r = u

def behind (separator ending : List Char) (entries : List String) : List Char :=
  entries.flatMap (fun e => ',' :: separator ++ e.toList) ++ '\n' :: ending

theorem behind_ends (separator ending : List Char) (entries : List String) (r : List Char) :
    Ends (behind separator ending entries ++ r) := by
  intro c starts
  cases entries with
  | nil =>
      simp [behind] at starts
      subst c
      decide
  | cons e rest =>
      simp [behind] at starts
      subst c
      decide

theorem behind_one_way {α : Type} (text : α → String) (separator ending : List Char)
    (as bs : List α) (each : ∀ a ∈ as, ∀ b ∈ bs, OneWay text a b) (r u : List Char)
    (same : behind separator ending (as.map text) ++ r =
      behind separator ending (bs.map text) ++ u) : as = bs ∧ r = u := by
  induction as generalizing bs with
  | nil =>
      cases bs with
      | nil => exact ⟨rfl, List.append_cancel_left same⟩
      | cons b bs => simp [behind] at same
  | cons a as ih =>
      cases bs with
      | nil => simp [behind] at same
      | cons b bs =>
          have split : ∀ (e : α) (rest : List α) (more : List Char),
              behind separator ending ((e :: rest).map text) ++ more =
                ',' :: separator ++ ((text e).toList ++
                  (behind separator ending (rest.map text) ++ more)) := by
            intro e rest more
            simp [behind]
          rw [split, split] at same
          have read := each a List.mem_cons_self b List.mem_cons_self _ _
            (behind_ends separator ending (as.map text) r)
            (behind_ends separator ending (bs.map text) u) (List.append_cancel_left same)
          have others := ih bs (fun a listed b among => each a (List.mem_cons_of_mem _ listed) b
            (List.mem_cons_of_mem _ among)) read.2
          exact ⟨by rw [read.1, others.1], others.2⟩

namespace Value

@[simp] theorem newline_list (depth : Nat) :
    (newline depth).toList = '\n' :: List.replicate (2 * depth) ' ' := by
  simp [newline]

theorem intercalate_list (separator first : String) (rest : List String) :
    (String.intercalate separator (first :: rest)).toList =
      first.toList ++ rest.flatMap fun e => separator.toList ++ e.toList := by
  induction rest generalizing first with
  | nil => simp
  | cons second rest ih =>
      rw [String.intercalate_cons_cons, String.toList_append, ih]
      simp

theorem block_list (opening closing : String) (depth : Nat) (first : String)
    (rest : List String) :
    (block opening closing depth (first :: rest)).toList =
      opening.toList ++ (newline (depth + 1)).toList ++ (first.toList ++
        behind (newline (depth + 1)).toList (List.replicate (2 * depth) ' ' ++ closing.toList)
          rest) := by
  have comma : ("," ++ newline (depth + 1)).toList = ',' :: (newline (depth + 1)).toList := by
    simp
  simp only [block, String.toList_append, intercalate_list, comma, newline_list depth, behind,
    List.append_assoc, List.cons_append]

theorem block_one_way {α : Type} (text : α → String) (opening : String) (closing : Char)
    (visible : closing ≠ '\n') (depth : Nat) (as bs : List α)
    (each : ∀ a ∈ as, ∀ b ∈ bs, OneWay text a b) (r u : List Char)
    (same : (block opening (.singleton closing) depth (as.map text)).toList ++ r =
      (block opening (.singleton closing) depth (bs.map text)).toList ++ u) : as = bs ∧ r = u := by
  cases as with
  | nil =>
      cases bs with
      | nil => exact ⟨rfl, List.append_cancel_left same⟩
      | cons b bs =>
          rw [List.map_cons, block_list, newline_list] at same
          simp [block] at same
          exact absurd same.1 visible
  | cons a as =>
      cases bs with
      | nil =>
          rw [List.map_cons, block_list, newline_list] at same
          simp [block] at same
          exact absurd same.1.symm visible
      | cons b bs =>
          simp only [List.map_cons, block_list, List.append_assoc] at same
          have inner := List.append_cancel_left (List.append_cancel_left same)
          have read := each a List.mem_cons_self b List.mem_cons_self _ _ (behind_ends _ _ _ r)
            (behind_ends _ _ _ u) inner
          have others := behind_one_way text _ _ as bs (fun a listed b among =>
            each a (List.mem_cons_of_mem _ listed) b (List.mem_cons_of_mem _ among)) r u read.2
          exact ⟨by rw [read.1, others.1], others.2⟩

inductive Whole : Value → Prop where
  | null : Whole .null
  | bool (b : Bool) : Whole (.bool b)
  | number (n : Int) : Whole (.number (.whole n))
  | string (s : String) : Whole (.string s)
  | array (items : List Value) (all : ∀ v ∈ items, Whole v) : Whole (.array items)
  | object (fields : List (String × Value)) (all : ∀ field ∈ fields, Whole field.2) :
      Whole (.object fields)

inductive Form where
  | null | bool | number | string | array | object

def form : Value → Form
  | .null => .null
  | .bool _ => .bool
  | .number _ => .number
  | .string _ => .string
  | .array _ => .array
  | .object _ => .object

def formOf (c : Char) : Form :=
  if c = 'n' then .null
  else if c = 't' then .bool
  else if c = 'f' then .bool
  else if c = '\x22' then .string
  else if c = '[' then .array
  else if c = '\x7b' then .object
  else .number

theorem form_of_digit (c : Char) (digit : c.isDigit = true) : formOf c = .number := by
  have other : ∀ d : Char, d.isDigit = false → c ≠ d := by
    intro d plain same
    rw [same, plain] at digit
    cases digit
  simp only [formOf, if_neg (other 'n' (by decide)), if_neg (other 't' (by decide)),
    if_neg (other 'f' (by decide)), if_neg (other '\x22' (by decide)),
    if_neg (other '[' (by decide)), if_neg (other '\x7b' (by decide))]

theorem block_starts (opening : Char) (closing : String) (depth : Nat) (entries : List String) :
    ∃ rest, (block (.singleton opening) closing depth entries).toList = opening :: rest := by
  cases entries with
  | nil => exact ⟨closing.toList, by simp [block]⟩
  | cons first rest =>
      rw [block_list]
      exact ⟨_, by rw [String.toList_singleton, List.append_assoc, List.singleton_append]⟩

-- The first character of a layout tells the form of the value.
theorem indented_starts (v : Value) (whole : Whole v) (depth : Nat) :
    ∃ c rest, (v.indented depth).toList = c :: rest ∧ formOf c = v.form := by
  cases whole with
  | null => exact ⟨'n', "ull".toList, by simp [indented], rfl⟩
  | bool b =>
      cases b with
      | true => exact ⟨'t', "rue".toList, by simp [indented, renderBool], rfl⟩
      | false => exact ⟨'f', "alse".toList, by simp [indented, renderBool], rfl⟩
  | number n =>
      rw [indented, whole_list]
      split_ifs with nonnegative
      · cases digits : Nat.toDigits 10 n.toNat with
        | nil => exact absurd digits Nat.toDigits_ne_nil
        | cons c rest =>
            exact ⟨c, rest, rfl, form_of_digit c (digits_are_digits n.toNat c (by simp [digits]))⟩
      · exact ⟨_, _, rfl, rfl⟩
  | string s =>
      rw [indented, quoted_list]
      exact ⟨_, _, rfl, rfl⟩
  | array items all =>
      obtain ⟨rest, starts⟩ := block_starts '[' "]" depth (indentedItems (depth + 1) items)
      exact ⟨_, rest, starts, rfl⟩
  | object fields all =>
      obtain ⟨rest, starts⟩ := block_starts '\x7b' "\x7d" depth (indentedFields (depth + 1) fields)
      exact ⟨_, rest, starts, rfl⟩

theorem same_form (v w : Value) (wholeV : Whole v) (wholeW : Whole w) (depth : Nat)
    (r u : List Char) (same : (v.indented depth).toList ++ r = (w.indented depth).toList ++ u) :
    v.form = w.form := by
  obtain ⟨c, restV, startsV, formV⟩ := indented_starts v wholeV depth
  obtain ⟨d, restW, startsW, formW⟩ := indented_starts w wholeW depth
  rw [startsV, startsW] at same
  rw [← formV, ← formW, (List.cons.inj same).1]

def indentedField (depth : Nat) (field : String × Value) : String :=
  quoted field.1 ++ ": " ++ field.2.indented depth

theorem indented_items_map (depth : Nat) (items : List Value) :
    indentedItems depth items = items.map (indented depth) := by
  induction items with
  | nil => rfl
  | cons v rest ih => rw [indentedItems, ih, List.map_cons]

theorem indented_fields_map (depth : Nat) (fields : List (String × Value)) :
    indentedFields depth fields = fields.map (indentedField depth) := by
  induction fields with
  | nil => rfl
  | cons field rest ih =>
      obtain ⟨name, v⟩ := field
      rw [indentedFields, ih, List.map_cons]
      rfl

theorem field_one_way (depth : Nat) (a b : String × Value)
    (value : OneWay (indented depth) a.2 b.2) : OneWay (indentedField depth) a b := by
  intro r u endsR endsU same
  simp only [indentedField, String.toList_append, List.append_assoc] at same
  have name := quoted_one_way a.1 b.1 _ _ same
  have read := value r u endsR endsU (List.append_cancel_left name.2)
  exact ⟨Prod.ext name.1 read.1, read.2⟩

theorem indented_one_way (v w : Value) (wholeV : Whole v) (wholeW : Whole w) (depth : Nat) :
    OneWay (indented depth) v w := by
  induction wholeV generalizing w depth with
  | null =>
      intro r u _ _ same
      have form := same_form .null w .null wholeW depth r u same
      cases wholeW with
      | null => exact ⟨rfl, List.append_cancel_left same⟩
      | _ => cases form
  | bool a =>
      intro r u _ _ same
      have form := same_form (.bool a) w (.bool a) wholeW depth r u same
      cases wholeW with
      | bool b =>
          cases a with
          | true =>
              cases b with
              | true => exact ⟨rfl, List.append_cancel_left same⟩
              | false => simp [indented, renderBool] at same
          | false =>
              cases b with
              | true => simp [indented, renderBool] at same
              | false => exact ⟨rfl, List.append_cancel_left same⟩
      | _ => cases form
  | number m =>
      intro r u endsR endsU same
      have form := same_form _ w (.number m) wholeW depth r u same
      cases wholeW with
      | number n =>
          have read := whole_one_way m n r u endsR endsU same
          exact ⟨by rw [read.1], read.2⟩
      | _ => cases form
  | string s =>
      intro r u _ _ same
      have form := same_form _ w (.string s) wholeW depth r u same
      cases wholeW with
      | string t =>
          have read := quoted_one_way s t r u same
          exact ⟨by rw [read.1], read.2⟩
      | _ => cases form
  | array items all ih =>
      intro r u _ _ same
      have form := same_form _ w (.array items all) wholeW depth r u same
      cases wholeW with
      | array others allToo =>
          rw [indented, indented, indented_items_map, indented_items_map] at same
          have read := block_one_way (indented (depth + 1)) "[" ']' (by decide) depth items others
            (fun a listed b among => ih a listed b (allToo b among) (depth + 1)) r u same
          exact ⟨by rw [read.1], read.2⟩
      | _ => cases form
  | object fields all ih =>
      intro r u _ _ same
      have form := same_form _ w (.object fields all) wholeW depth r u same
      cases wholeW with
      | object others allToo =>
          rw [indented, indented, indented_fields_map, indented_fields_map] at same
          have read := block_one_way (indentedField (depth + 1)) "\x7b" '\x7d' (by decide) depth
            fields others (fun a listed b among => field_one_way (depth + 1) a b
              (ih a listed b.2 (allToo b among) (depth + 1))) r u same
          exact ⟨by rw [read.1], read.2⟩
      | _ => cases form

-- A text is the layout of one value at most.
theorem indented_inj (v w : Value) (wholeV : Whole v) (wholeW : Whole w) (depth : Nat) :
    v.indented depth = w.indented depth ↔ v = w := by
  constructor
  · intro same
    have nothing : Ends [] := fun c starts => by cases starts
    exact (indented_one_way v w wholeV wholeW depth [] [] nothing nothing (by rw [same])).1
  · intro same
    rw [same]

end Value

end Proofread.Json
