import Proofread.Proofs.ParsedSpans

set_option autoImplicit false

namespace Proofread

namespace Point

def Less (p q : Point) : Prop :=
  p.le q = true ∧ q.le p = false

theorem not_after_of_le (p q : Point) (ordered : p.le q = true) : p.notAfter q = true := by
  grind

theorem le_iff_offset (text : List Char) (p q : Point) (left : p.In text) (right : q.In text) :
    p.le q = true ↔ p.offset ≤ q.offset := by
  constructor
  · intro ordered
    exact (not_after_iff_offset text p q left right).mp (not_after_of_le p q ordered)
  · intro bytes
    have within := not_after_of_offset text p q left right bytes
    grind

theorem less_iff_offset (text : List Char) (p q : Point) (left : p.In text) (right : q.In text) :
    p.Less q ↔ p.offset < q.offset := by
  rw [Less, ← Bool.not_eq_true, le_iff_offset text p q left right,
    le_iff_offset text q p right left]
  omega

theorem same_place (text : List Char) (p q : Point) (left : p.In text) (right : q.In text)
    (same : p.offset = q.offset) : p = q := by
  have forward := not_after_of_offset text p q left right (Nat.le_of_eq same)
  have backward := not_after_of_offset text q p right left (Nat.le_of_eq same.symm)
  rw [not_after_iff] at forward backward
  obtain ⟨line, column, offset⟩ := p
  obtain ⟨line', column', offset'⟩ := q
  simp only at forward backward same
  have lines : line = line' := by omega
  have columns : column = column' := by omega
  rw [lines, columns, same]

end Point

namespace Text

theorem split_bytes_append (read rest : List Char) :
    splitBytes? (byteLength read) (read ++ rest) = some (read, rest) := by
  induction read with
  | nil => cases rest <;> rfl
  | cons c read ih =>
      have positive := byte_length_positive c read
      have fits : c.utf8Size ≤ byteLength (c :: read) := Nat.le_add_right _ _
      rw [List.cons_append, splitBytes?, if_neg (by omega), if_pos fits]
      simp only [byteLength, Nat.add_sub_cancel_left, ih, Option.map_some]

theorem slice_part (before inside rest : List Char) :
    slice? (before ++ (inside ++ rest)) (byteLength before) (byteLength (before ++ inside)) =
      some inside := by
  have width : byteLength (before ++ inside) - byteLength before = byteLength inside := by simp
  have ordered : byteLength before ≤ byteLength (before ++ inside) := by simp
  rw [slice?, if_pos ordered, split_bytes_append, Option.bind_some, width, split_bytes_append,
    Option.map_some]

end Text

namespace LineIndex

open Text Point

-- The contract of a search: `n` is the number of starts up to the offset, and these come first.
def Splits (starts : List Nat) (offset n : Nat) : Prop :=
  n ≤ starts.length ∧ ∀ i start, starts[i]? = some start → (start ≤ offset ↔ i < n)

theorem splits_unique (starts : List Nat) (offset m n : Nat) (left : Splits starts offset m)
    (right : Splits starts offset n) : m = n := by
  obtain ⟨mBound, mSplit⟩ := left
  obtain ⟨nBound, nSplit⟩ := right
  have same : ∀ i, i < starts.length → (i < m ↔ i < n) := by
    intro i inside
    have here : starts[i]? = some starts[i] := List.getElem?_eq_getElem inside
    exact (mSplit i _ here).symm.trans (nSplit i _ here)
  rcases Nat.lt_trichotomy m n with fewer | equal | more
  · have gap := same m (by omega)
    omega
  · exact equal
  · have gap := same n (by omega)
    omega

theorem sorted_before (starts : List Nat) (sorted : starts.Pairwise (· < ·)) (i j a b : Nat)
    (left : starts[i]? = some a) (right : starts[j]? = some b) (ordered : i ≤ j) : a ≤ b := by
  obtain ⟨inside, here⟩ := List.getElem?_eq_some_iff.mp left
  obtain ⟨inside', there⟩ := List.getElem?_eq_some_iff.mp right
  rcases Nat.lt_or_eq_of_le ordered with earlier | same
  · have less := List.pairwise_iff_getElem.mp sorted i j inside inside' earlier
    omega
  · subst same
    omega

-- What is outside the window is settled: the starts before it are up to the offset, and those after
-- it past the offset.
theorem search_splits (starts : List Nat) (sorted : starts.Pairwise (· < ·)) (offset low high : Nat)
    (window : low ≤ high) (bound : high ≤ starts.length)
    (below : ∀ i start, starts[i]? = some start → i < low → start ≤ offset)
    (above : ∀ i start, starts[i]? = some start → high ≤ i → offset < start) :
    ∃ n, search? starts offset low high = some n ∧ Splits starts offset n := by
  fun_induction search? starts offset low high with
  | case1 low high inside middle missing =>
      have outside := List.getElem?_eq_none_iff.mp missing
      omega
  | case2 low high inside middle start read reached ih =>
      refine ih (by omega) bound ?_ above
      intro i earlier here before
      have ordered := sorted_before starts sorted i middle earlier start here read (by omega)
      omega
  | case3 low high inside middle start read past ih =>
      refine ih (by omega) (by omega) below ?_
      intro i later here after
      have ordered := sorted_before starts sorted middle i start later read here after
      omega
  | case4 low high empty =>
      refine ⟨low, rfl, by omega, ?_⟩
      intro i start here
      constructor
      · intro reached
        by_cases after : high ≤ i
        · have past := above i start here after
          omega
        · omega
      · exact below i start here

theorem following_sorted (offset : Nat) (text : List Char) :
    ((Line.following offset text).map Line.start).Pairwise (· < ·) := by
  induction text generalizing offset with
  | nil => exact List.Pairwise.nil
  | cons c rest ih =>
      simp only [Line.following]
      by_cases newline : c = '\n'
      · rw [if_pos newline, List.map_cons, List.pairwise_cons]
        refine ⟨?_, ih (offset + c.utf8Size)⟩
        intro start listed
        obtain ⟨line, later, same⟩ := List.mem_map.mp listed
        rw [← same]
        exact following_starts (offset + c.utf8Size) rest line later
      · rw [if_neg newline]
        exact ih (offset + c.utf8Size)

theorem starts_sorted (text : List Char) : (ofText text).starts.Pairwise (· < ·) := by
  refine List.pairwise_cons.mpr ⟨?_, following_sorted 0 text⟩
  intro start listed
  obtain ⟨line, later, same⟩ := List.mem_map.mp listed
  rw [← same]
  exact following_starts 0 text line later

theorem last_up_to_splits (offset number : Nat) (line : Line) (lines : List Line)
    (sorted : ((line :: lines).map Line.start).Pairwise (· < ·)) (begun : line.start ≤ offset) :
    ∃ k found, lastUpTo offset number line lines = (number + k, found) ∧
      (line :: lines)[k]? = some found ∧ Splits ((line :: lines).map Line.start) offset (k + 1) := by
  induction lines generalizing number line with
  | nil =>
      refine ⟨0, line, rfl, rfl, Nat.le_refl _, ?_⟩
      intro i start here
      cases i with
      | zero =>
          have same : line.start = start := Option.some.inj here
          omega
      | succ i => cases here
  | cons next rest ih =>
      rw [List.map_cons, List.pairwise_cons] at sorted
      obtain ⟨first, others⟩ := sorted
      by_cases reached : next.start ≤ offset
      · obtain ⟨k, found, walked, listed, bound, split⟩ := ih (number + 1) next others reached
        refine ⟨k + 1, found, ?_, listed, Nat.succ_le_succ bound, ?_⟩
        · rw [lastUpTo, if_pos reached, walked]
          congr 1
          omega
        · intro i start here
          cases i with
          | zero =>
              have same : line.start = start := Option.some.inj here
              omega
          | succ i =>
              have later := split i start here
              omega
      · refine ⟨0, line, by rw [lastUpTo, if_neg reached]; rfl, rfl, Nat.succ_le_succ (Nat.zero_le _),
          ?_⟩
        intro i start here
        cases i with
        | zero =>
            have same : line.start = start := Option.some.inj here
            omega
        | succ i =>
            have past := sorted_before _ others 0 i next.start start rfl here (Nat.zero_le i)
            omega

-- A line begins behind a part of the text and holds the rest.
theorem following_parts (read rest : List Char) (line : Line)
    (listed : line ∈ Line.following (byteLength read) rest) :
    ∃ before, read ++ rest = before ++ line.rest ∧ byteLength before = line.start := by
  induction rest generalizing read with
  | nil => cases listed
  | cons c rest ih =>
      have next : byteLength read + c.utf8Size = byteLength (read ++ [c]) := by simp
      have longer : read ++ c :: rest = (read ++ [c]) ++ rest := by simp
      rw [Line.following, next] at listed
      rw [longer]
      by_cases newline : c = '\n'
      · rw [if_pos newline, List.mem_cons] at listed
        rcases listed with first | later
        · exact ⟨read ++ [c], by rw [first], by rw [first]⟩
        · exact ih (read ++ [c]) later
      · rw [if_neg newline] at listed
        exact ih (read ++ [c]) listed

theorem line_parts (text : List Char) (line : Line)
    (listed : line ∈ (ofText text).first :: (ofText text).others) :
    ∃ before, text = before ++ line.rest ∧ byteLength before = line.start := by
  rcases List.mem_cons.mp listed with first | later
  · exact ⟨[], by rw [first]; rfl, by rw [first]; rfl⟩
  · exact following_parts [] text line later

theorem locate_place (read rest : List Char) :
    locate? (read ++ rest) (byteLength read) =
      some ((ofText (read ++ rest)).point (byteLength read)) := by
  have whole : min (byteLength read) (ofText (read ++ rest)).size = byteLength read := by simp
  have sorted := starts_sorted (read ++ rest)
  obtain ⟨n, line, tail, reached, remaining, place, moved⟩ := line_at_reaches read rest
  obtain ⟨k, found, walked, listed, split⟩ := last_up_to_splits (byteLength read) 1
    (ofText (read ++ rest)).first (ofText (read ++ rest)).others sorted (Nat.zero_le _)
  obtain ⟨number, same⟩ := Prod.mk.inj (walked.symm.trans reached)
  subst same
  obtain ⟨before, text, begins⟩ :=
    line_parts (read ++ rest) found (List.mem_of_getElem? listed)
  have behind : read = before ++ tail := by
    rw [remaining, ← List.append_assoc] at text
    exact List.append_cancel_right text
  obtain ⟨m, searched, split'⟩ := search_splits (ofText (read ++ rest)).starts sorted
    (byteLength read) 0 _ (Nat.zero_le _) (Nat.le_refl _)
    (fun _ _ _ before => absurd before (Nat.not_lt_zero _))
    (fun i start here outside => by
      rw [List.getElem?_eq_none outside] at here
      cases here)
  have count : m = k + 1 := splits_unique _ _ _ _ split' split
  have start : (ofText (read ++ rest)).starts[k]? = some found.start := by
    rw [starts, List.getElem?_map, listed]
    rfl
  have inside : slice? (read ++ rest) found.start (byteLength read) = some tail := by
    rw [← begins, behind, List.append_assoc]
    exact slice_part before tail rest
  rw [locate?, point_after, moved]
  simp only [whole, searched, Option.bind_some, count, Nat.succ_ne_zero, if_false,
    Nat.add_sub_cancel, start, inside, Option.map_some]
  rw [← number, Nat.add_comm]

theorem past_place (text : List Char) (offset : Nat) (past : byteLength text ≤ offset) :
    min offset (ofText text).size = min (byteLength text) (ofText text).size := by
  rw [size_bytes]
  omega

theorem point_past (text : List Char) (offset : Nat) (past : byteLength text ≤ offset) :
    (ofText text).point offset = (ofText text).point (byteLength text) := by
  simp only [point, past_place text offset past]

theorem locate_point (text : List Char) (offset : Nat)
    (between : offset < byteLength text → Boundary text offset) :
    locate? text offset = some ((ofText text).point offset) := by
  by_cases inside : offset < byteLength text
  · obtain ⟨read, ⟨rest, whole⟩, same⟩ := between inside
    rw [← whole, ← same]
    exact locate_place read rest
  · have past := Nat.le_of_not_lt inside
    have stop := locate_place text []
    rw [List.append_nil] at stop
    rw [point_past text offset past, ← stop]
    simp only [locate?, past_place text offset past]

theorem boundary_place (text : List Char) (offset : Nat) (boundary : Boundary text offset) :
    ((ofText text).point offset).In text ∧ ((ofText text).point offset).offset = offset := by
  obtain ⟨read, ⟨rest, whole⟩, same⟩ := boundary
  have here := point_after read rest
  rw [whole, same] at here
  exact ⟨⟨read, ⟨rest, whole⟩, here⟩, by rw [here, offset_after_origin, same]⟩

theorem line_index_isomorphism (text : List Char) :
    (∀ read rest, text = read ++ rest →
      (ofText text).point (byteLength read) =
        ⟨1 + read.count '\n', 1 + (read.reverse.takeWhile (· ≠ '\n')).length,
          byteLength read⟩) ∧
    (∀ offset, byteLength text ≤ offset →
      (ofText text).point offset = (ofText text).point (byteLength text)) ∧
    (∀ offset, (offset < byteLength text → Boundary text offset) →
      locate? text offset = some ((ofText text).point offset)) ∧
    (∀ a b, Boundary text a → Boundary text b →
      (a < b ↔ ((ofText text).point a).Less ((ofText text).point b)) ∧
      (a < b ↔ ((ofText text).point a).before ((ofText text).point b) = true)) ∧
    ∀ a b offset, Boundary text a → Boundary text b → Boundary text offset →
      (Span.contains ⟨(ofText text).point a, (ofText text).point b⟩
        ((ofText text).point offset) = true ↔ a ≤ offset ∧ offset < b) := by
  refine ⟨?_, point_past text, locate_point text, ?_, ?_⟩
  · intro read rest whole
    have counts := after_counts read.reverse
    rw [List.reverse_reverse, List.count_reverse] at counts
    rw [whole, point_after, counts]
  · intro a b left right
    obtain ⟨here, from_a⟩ := boundary_place text a left
    obtain ⟨there, from_b⟩ := boundary_place text b right
    have three := less_iff_offset text _ _ here there
    have two := before_iff_offset text _ _ here there
    rw [from_a, from_b] at three two
    exact ⟨three.symm, two.symm⟩
  · intro a b offset left right inside
    obtain ⟨here, from_a⟩ := boundary_place text a left
    obtain ⟨there, from_b⟩ := boundary_place text b right
    obtain ⟨place, from_offset⟩ := boundary_place text offset inside
    rw [Span.contains_iff_offset text ⟨(ofText text).point a, (ofText text).point b⟩ _
      ⟨here, there⟩ place, from_a, from_b, from_offset]

def accentedLines : List Char :=
  ['é', '\n', '\n', 'x']

theorem line_index_isomorphism_accents :
    accentedLines = ['é', '\n'] ++ ['\n', 'x'] ∧ (ofText accentedLines).point 3 = ⟨2, 1, 3⟩ ∧
      byteLength accentedLines ≤ 9 ∧ (ofText accentedLines).point 9 = ⟨3, 2, 5⟩ ∧
      Boundary accentedLines 3 ∧ Boundary accentedLines 4 ∧
      locate? accentedLines 4 = some ⟨3, 1, 4⟩ ∧ Point.Less ⟨2, 1, 3⟩ ⟨3, 1, 4⟩ ∧
      Span.contains ⟨⟨2, 1, 3⟩, ⟨3, 2, 5⟩⟩ ⟨3, 1, 4⟩ = true := by
  obtain ⟨counts, past, located, ordered, covered⟩ := line_index_isomorphism accentedLines
  have three : Boundary accentedLines 3 := ⟨['é', '\n'], ⟨['\n', 'x'], rfl⟩, rfl⟩
  have four : Boundary accentedLines 4 := ⟨['é', '\n', '\n'], ⟨['x'], rfl⟩, rfl⟩
  have five : Boundary accentedLines 5 := ⟨accentedLines, List.prefix_refl _, rfl⟩
  have second : (ofText accentedLines).point 3 = ⟨2, 1, 3⟩ := counts ['é', '\n'] ['\n', 'x'] rfl
  have third : (ofText accentedLines).point 4 = ⟨3, 1, 4⟩ :=
    counts ['é', '\n', '\n'] ['x'] rfl
  have stop : (ofText accentedLines).point 5 = ⟨3, 2, 5⟩ := counts accentedLines [] rfl
  have less := (ordered 3 4 three four).1.mp (by decide)
  have inside := (covered 3 5 4 three five four).mpr (by decide)
  rw [second, third] at less
  rw [second, third, stop] at inside
  refine ⟨rfl, second, by decide, (past 9 (by decide)).trans stop, three, four, ?_, less, inside⟩
  rw [located 4 fun _ => four, third]

end LineIndex

end Proofread
