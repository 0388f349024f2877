import Proofread.Document.LineIndex
import Proofread.Lint.Rules.RawText

/-!
The places of a text: the points that reading it passes, each with the line, the column and the
offset reached so far. Reading only moves forward, so the places of one text are ordered by line and
column as they are by offset. The line index and the search for characters give the same places.
-/

set_option autoImplicit false

namespace Proofread

namespace Text

def offsetsOf (needle : Char) (offset : Nat) : List Char → List Nat
  | [] => []
  | c :: rest =>
      let later := offsetsOf needle (offset + c.utf8Size) rest
      if c = needle then offset :: later else later

theorem mem_offsets_of (needle : Char) (start offset : Nat) (text : List Char) :
    offset ∈ offsetsOf needle start text ↔
      ∃ before after, text = before ++ needle :: after ∧ offset = start + byteLength before := by
  induction text generalizing start with
  | nil => simp [offsetsOf]
  | cons c rest ih =>
      have split : (∃ before after, c :: rest = before ++ needle :: after ∧
          offset = start + byteLength before) ↔
          (c = needle ∧ offset = start) ∨ ∃ before after, rest = before ++ needle :: after ∧
            offset = start + c.utf8Size + byteLength before := by
        constructor
        · rintro ⟨before, after, whole, here⟩
          cases before with
          | nil =>
              injection whole with head _
              exact Or.inl ⟨head, here⟩
          | cons d before =>
              injection whole with head others
              subst head
              exact Or.inr ⟨before, after, others, by rw [here, byteLength, Nat.add_assoc]⟩
        · rintro (⟨head, here⟩ | ⟨before, after, whole, here⟩)
          · exact ⟨[], rest, by rw [head]; rfl, here⟩
          · exact ⟨c :: before, after, by rw [whole]; rfl, by rw [here, byteLength, Nat.add_assoc]⟩
      rw [split, offsetsOf, ← ih (start + c.utf8Size)]
      by_cases found : c = needle
      · rw [if_pos found, List.mem_cons, and_iff_right found]
      · rw [if_neg found, or_iff_right fun here => found here.1]

end Text

namespace Point

open Text

theorem not_after_refl (p : Point) : p.notAfter p = true := by
  grind

theorem not_after_of_before (p q : Point) (ahead : p.before q = true) : p.notAfter q = true := by
  grind

theorem before_of_before_not_after (p q r : Point) (ahead : p.before q = true)
    (within : q.notAfter r = true) : p.before r = true := by
  grind

theorem before_trans (p q r : Point) (first : p.before q = true) (second : q.before r = true) :
    p.before r = true :=
  before_of_before_not_after p q r first (not_after_of_before q r second)

def advance (p : Point) (c : Char) : Point :=
  if c = '\n' then ⟨p.line + 1, 1, p.offset + c.utf8Size⟩
  else ⟨p.line, p.column + 1, p.offset + c.utf8Size⟩

def after (start : Point) (read : List Char) : Point :=
  read.foldl advance start

def origin : Point :=
  ⟨1, 1, 0⟩

@[simp] theorem origin_offset : origin.offset = 0 := rfl

@[simp] theorem after_append (start : Point) (a b : List Char) :
    start.after (a ++ b) = (start.after a).after b :=
  List.foldl_append

theorem advance_before (p : Point) (c : Char) : p.before (p.advance c) = true := by
  rw [before_iff, advance]
  by_cases newline : c = '\n'
  · rw [if_pos newline]
    exact Or.inl (Nat.lt_succ_self _)
  · rw [if_neg newline]
    exact Or.inr ⟨rfl, Nat.lt_succ_self _⟩

@[simp] theorem advance_offset (p : Point) (c : Char) :
    (p.advance c).offset = p.offset + c.utf8Size := by
  rw [advance]
  by_cases newline : c = '\n'
  · rw [if_pos newline]
  · rw [if_neg newline]

@[simp] theorem after_offset (start : Point) (read : List Char) :
    (start.after read).offset = start.offset + byteLength read := by
  induction read generalizing start with
  | nil => rfl
  | cons c rest ih =>
      have step := ih (start.advance c)
      rw [advance_offset, Nat.add_assoc] at step
      exact step

theorem offset_after_origin (read : List Char) :
    (origin.after read).offset = byteLength read := by
  simp

theorem before_after (start : Point) (c : Char) (rest : List Char) :
    start.before (start.after (c :: rest)) = true := by
  induction rest generalizing start c with
  | nil => exact advance_before start c
  | cons d rest ih =>
      exact before_trans start (start.advance c) _ (advance_before start c)
        (ih (start.advance c) d)

theorem after_counts (backwards : List Char) :
    origin.after backwards.reverse =
      ⟨1 + backwards.count '\n', 1 + (backwards.takeWhile (· ≠ '\n')).length,
        byteLength backwards.reverse⟩ := by
  induction backwards with
  | nil => rfl
  | cons c rest ih =>
      rw [List.reverse_cons, after_append, ih, byte_length_append]
      by_cases newline : c = '\n'
      · subst newline
        simp [after, advance, byteLength, Nat.add_assoc]
      · simp [after, advance, byteLength, newline, Nat.add_assoc]

def In (text : List Char) (p : Point) : Prop :=
  ∃ read, read <+: text ∧ p = origin.after read

-- Of two beginnings of a text, the one with fewer bytes is a beginning of the other.
theorem prefix_of_bytes (text a b : List Char) (left : a <+: text) (right : b <+: text)
    (bytes : byteLength a ≤ byteLength b) : a <+: b := by
  rcases Nat.le_total a.length b.length with shorter | longer
  · exact List.prefix_of_prefix_length_le left right shorter
  · obtain ⟨more, extended⟩ := List.prefix_of_prefix_length_le right left longer
    cases more with
    | nil =>
        have same : a = b := by rw [← extended, List.append_nil]
        exact ⟨[], by rw [same, List.append_nil]⟩
    | cons c rest =>
        have positive := byte_length_positive c rest
        rw [← extended, byte_length_append] at bytes
        omega

theorem not_after_of_offset (text : List Char) (p q : Point) (left : p.In text) (right : q.In text)
    (bytes : p.offset ≤ q.offset) : p.notAfter q = true := by
  obtain ⟨a, inText, here⟩ := left
  obtain ⟨b, inTextToo, there⟩ := right
  simp only [here, there, offset_after_origin] at bytes
  obtain ⟨more, extended⟩ := prefix_of_bytes text a b inText inTextToo bytes
  rw [← extended, after_append, ← here] at there
  rw [there]
  cases more with
  | nil => exact not_after_refl p
  | cons c rest => exact not_after_of_before _ _ (before_after p c rest)

theorem before_of_offset (text : List Char) (p q : Point) (left : p.In text) (right : q.In text)
    (bytes : p.offset < q.offset) : p.before q = true := by
  obtain ⟨a, inText, here⟩ := left
  obtain ⟨b, inTextToo, there⟩ := right
  have sizes := bytes
  simp only [here, there, offset_after_origin] at sizes
  obtain ⟨more, extended⟩ := prefix_of_bytes text a b inText inTextToo (Nat.le_of_lt sizes)
  cases more with
  | nil =>
      rw [← extended, List.append_nil] at sizes
      exact absurd sizes (Nat.lt_irrefl _)
  | cons c rest =>
      rw [← extended, after_append, ← here] at there
      rw [there]
      exact before_after p c rest

theorem not_after_iff_offset (text : List Char) (p q : Point) (left : p.In text)
    (right : q.In text) : p.notAfter q = true ↔ p.offset ≤ q.offset := by
  refine ⟨?_, not_after_of_offset text p q left right⟩
  intro within
  by_cases fewer : q.offset < p.offset
  · have ahead := before_of_offset text q p right left fewer
    grind
  · exact Nat.le_of_not_lt fewer

theorem before_iff_offset (text : List Char) (p q : Point) (left : p.In text) (right : q.In text) :
    p.before q = true ↔ p.offset < q.offset := by
  refine ⟨?_, before_of_offset text p q left right⟩
  intro ahead
  by_cases fewer : q.offset ≤ p.offset
  · have within := not_after_of_offset text q p right left fewer
    grind
  · exact Nat.lt_of_not_le fewer

end Point

def Span.In (text : List Char) (span : Span) : Prop :=
  span.start.In text ∧ span.stop.In text

theorem Span.contains_iff_offset (text : List Char) (span : Span) (place : Point)
    (ends : span.In text) (inside : place.In text) :
    span.contains place = true ↔
      span.start.offset ≤ place.offset ∧ place.offset < span.stop.offset := by
  rw [contains, Bool.and_eq_true, Point.not_after_iff_offset text _ _ ends.1 inside,
    Point.before_iff_offset text _ _ inside ends.2]

namespace LineIndex

open Text Point

theorem following_starts (offset : Nat) (text : List Char) (line : Line)
    (listed : line ∈ Line.following offset text) : offset < line.start := by
  induction text generalizing offset with
  | nil => cases listed
  | cons c rest ih =>
      have width := c.utf8Size_pos
      simp only [Line.following] at listed
      by_cases newline : c = '\n'
      · rw [if_pos newline, List.mem_cons] at listed
        rcases listed with first | later
        · rw [first]
          exact Nat.lt_add_of_pos_right width
        · have further := ih (offset + c.utf8Size) later
          omega
      · rw [if_neg newline] at listed
        have further := ih (offset + c.utf8Size) listed
        omega

theorem last_up_to_stays (offset number : Nat) (line : Line) (lines : List Line)
    (past : ∀ next ∈ lines, offset < next.start) :
    lastUpTo offset number line lines = (number, line) := by
  cases lines with
  | nil => rfl
  | cons next rest =>
      have beyond := past next List.mem_cons_self
      rw [lastUpTo, if_neg (by omega)]

-- The search for a line, followed along the text: `passed` is what is read of the current line, and
-- the line that is found differs from it by the line feeds in `read`.
theorem last_up_to_reaches (read rest passed : List Char) (number : Nat) (line : Line)
    (current : line.rest = passed ++ (read ++ rest)) :
    ∃ n found tail,
      lastUpTo (line.start + byteLength passed + byteLength read) number line
          (Line.following (line.start + byteLength passed) (read ++ rest)) = (n, found) ∧
        found.rest = tail ++ rest ∧
        found.start + byteLength tail = line.start + byteLength passed + byteLength read ∧
        Point.after ⟨number, passed.length + 1, line.start + byteLength passed⟩ read =
          ⟨n, tail.length + 1, line.start + byteLength passed + byteLength read⟩ := by
  induction read generalizing passed number line with
  | nil =>
      refine ⟨number, line, passed, ?_, current, rfl, rfl⟩
      apply last_up_to_stays
      intro next listed
      exact following_starts _ _ next listed
  | cons c read ih =>
      have total : line.start + byteLength passed + byteLength (c :: read) =
          line.start + byteLength passed + c.utf8Size + byteLength read := by
        simp only [byteLength]
        omega
      rw [total]
      by_cases newline : c = '\n'
      · obtain ⟨n, found, tail, reached, remaining, place, moved⟩ :=
          ih [] (number + 1) ⟨line.start + byteLength passed + c.utf8Size, read ++ rest⟩ rfl
        simp only [byteLength, Nat.add_zero] at reached place moved
        refine ⟨n, found, tail, ?_, remaining, place, ?_⟩
        · rw [← reached]
          simp only [List.cons_append, Line.following, if_pos newline, lastUpTo]
          rw [if_pos (by omega)]
        · rw [← moved, Point.after, List.foldl_cons, advance, if_pos newline]
          rfl
      · have width : byteLength (passed ++ [c]) = byteLength passed + c.utf8Size := by simp
        obtain ⟨n, found, tail, reached, remaining, place, moved⟩ :=
          ih (passed ++ [c]) number line (by rw [current]; simp)
        rw [width, ← Nat.add_assoc] at reached place moved
        refine ⟨n, found, tail, ?_, remaining, place, ?_⟩
        · rw [← reached]
          simp only [List.cons_append, Line.following, if_neg newline]
        · rw [← moved, Point.after, List.foldl_cons, advance, if_neg newline]
          simp only [List.length_append, List.length_singleton]
          rfl

theorem line_at_reaches (read rest : List Char) :
    ∃ n line tail, (ofText (read ++ rest)).lineAt (byteLength read) = (n, line) ∧
      line.rest = tail ++ rest ∧ line.start + byteLength tail = byteLength read ∧
      origin.after read = ⟨n, tail.length + 1, byteLength read⟩ := by
  obtain ⟨n, line, tail, reached, remaining, place, moved⟩ :=
    last_up_to_reaches read rest [] 1 ⟨0, read ++ rest⟩ rfl
  simp only [byteLength, Nat.zero_add] at reached place moved
  exact ⟨n, line, tail, reached, remaining, place, moved⟩

theorem point_after (read rest : List Char) :
    (ofText (read ++ rest)).point (byteLength read) = origin.after read := by
  obtain ⟨n, line, tail, reached, remaining, place, moved⟩ := line_at_reaches read rest
  have whole : min (byteLength read) (ofText (read ++ rest)).size = byteLength read := by simp
  have column : takeBytes (byteLength read - line.start) line.rest = tail := by
    rw [remaining, ← place, Nat.add_sub_cancel_left, take_bytes_append]
  simp only [point, whole, reached, column, moved]

end LineIndex

namespace Lint.Rules

open Text Point

-- Reading on from the place behind `read`: the counters of the search are that place.
theorem char_points_from_indexed (needle : Char) (read rest : List Char) :
    charPointsFrom needle (origin.after read) rest =
      (offsetsOf needle (byteLength read) rest).map (LineIndex.ofText (read ++ rest)).point := by
  induction rest generalizing read with
  | nil => rfl
  | cons c rest ih =>
      have here := LineIndex.point_after read (c :: rest)
      have longer : read ++ c :: rest = (read ++ [c]) ++ rest := by simp
      have width : byteLength read + c.utf8Size = byteLength (read ++ [c]) := by simp
      have next : (if c = '\n' then
          (⟨(origin.after read).line + 1, 1, (origin.after read).offset + c.utf8Size⟩ : Point)
          else ⟨(origin.after read).line, (origin.after read).column + 1,
            (origin.after read).offset + c.utf8Size⟩) = origin.after (read ++ [c]) := by
        rw [after_append]
        rfl
      rw [charPointsFrom, next, ih (read ++ [c]), offsetsOf, width, ← longer]
      by_cases found : c = needle
      · rw [if_pos found, if_pos found, List.map_cons, here]
      · rw [if_neg found, if_neg found]

theorem char_points_indexed (contents : String) (needle : Char) :
    charPoints contents needle =
      (offsetsOf needle 0 contents.toList).map (LineIndex.ofText contents.toList).point :=
  char_points_from_indexed needle [] contents.toList

theorem char_points_in (contents : String) (needle : Char) (place : Point)
    (listed : place ∈ charPoints contents needle) : place.In contents.toList := by
  rw [char_points_indexed, List.mem_map] at listed
  obtain ⟨offset, stands, here⟩ := listed
  obtain ⟨before, after, whole, bytes⟩ := (mem_offsets_of needle 0 offset _).mp stands
  rw [Nat.zero_add] at bytes
  rw [whole, bytes, LineIndex.point_after] at here
  exact ⟨before, ⟨needle :: after, whole.symm⟩, here.symm⟩

end Lint.Rules

end Proofread
