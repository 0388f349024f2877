import Proofread.Proofs.ReportedPlaces

set_option autoImplicit false

namespace Proofread

open Text Point

theorem Text.trim_end_solid (text : List Char) (c : Char)
    (last : (trimEnd text).getLast? = some c) : isBlank c = false := by
  have stopped := List.head?_dropWhile_not isBlank text.reverse
  rw [trimEnd, List.getLast?_reverse] at last
  rw [last] at stopped
  exact stopped

-- White space is cut off no further than to the last other character.
theorem Text.trim_end_keeps (kept rest : List Char) (c : Char) (solid : isBlank c = false) :
    kept ++ [c] <+: trimEnd (kept ++ [c] ++ rest) := by
  have front : (kept ++ [c]).reverse = c :: kept.reverse := by simp
  have stays : (c :: kept.reverse).dropWhile isBlank = c :: kept.reverse := by
    rw [List.dropWhile_cons, if_neg (by simp [solid])]
  rw [trimEnd, ← List.reverse_suffix, List.reverse_reverse, front, List.reverse_append, front,
    List.dropWhile_append, stays]
  by_cases blank : (rest.reverse.dropWhile isBlank).isEmpty = true
  · exact ⟨[], (if_pos blank).symm⟩
  · rw [if_neg blank]
    exact List.suffix_append _ _

theorem Point.same_prefix (text a b : List Char) (left : a <+: text) (right : b <+: text)
    (bytes : byteLength a = byteLength b) : a = b := by
  have forward := prefix_of_bytes text a b left right (Nat.le_of_eq bytes)
  have backward := prefix_of_bytes text b a right left (Nat.le_of_eq bytes.symm)
  exact forward.eq_of_length (Nat.le_antisymm forward.length_le backward.length_le)

def Span.Trimmed (text : List Char) (span : Span) : Prop :=
  ∃ read inside rest, text = read ++ (inside ++ rest) ∧
    span = ⟨origin.after read, origin.after (read ++ inside)⟩ ∧
    ∀ c, inside.getLast? = some c → isBlank c = false

namespace Span

theorem trimmed_within (text : List Char) (span : Span) (trimmed : span.Trimmed text) :
    span.Within text := by
  obtain ⟨read, inside, rest, whole, same, _⟩ := trimmed
  refine ⟨⟨⟨read, ⟨inside ++ rest, whole.symm⟩, by rw [same]⟩,
    ⟨read ++ inside, ⟨rest, by rw [whole, List.append_assoc]⟩, by rw [same]⟩⟩, ?_⟩
  have grown := after_offset (origin.after read) inside
  simp only [same, after_append, grown]
  exact Nat.le_add_right _ _

theorem trimmed_joined (text : List Char) (s t : Span) (left : s.Trimmed text)
    (right : t.Trimmed text) (adjacent : s.stop.offset = t.start.offset) :
    (Span.mk s.start t.stop).Trimmed text := by
  obtain ⟨read, inside, rest, whole, first, solid⟩ := left
  obtain ⟨read', inside', rest', whole', second, solid'⟩ := right
  subst first
  subst second
  simp only [offset_after_origin] at adjacent
  have same : read ++ inside = read' :=
    same_prefix text _ _ ⟨rest, by rw [whole, List.append_assoc]⟩ ⟨_, whole'.symm⟩ adjacent
  subst same
  refine ⟨read, inside ++ inside', rest', ?_, by rw [List.append_assoc], ?_⟩
  · rw [whole', List.append_assoc, List.append_assoc]
  · intro c last
    rw [List.getLast?_append] at last
    cases behind : inside'.getLast? with
    | none =>
        rw [behind, Option.none_or] at last
        exact solid c last
    | some d =>
        rw [behind, Option.some_or] at last
        exact solid' c (behind.trans last)

end Span

namespace LineIndex

section

variable (text : List Char) (start stop : Nat) (left : Boundary text start)
  (right : Boundary text stop) (forward : start ≤ stop)

include left right forward

theorem span_trimmed :
    ((ofText text).span start stop).Trimmed text ∧
      ((ofText text).span start stop).start.offset = start ∧
      ((ofText text).span start stop).stop.offset ≤ stop := by
  obtain ⟨read, inside, rest, whole, first, last, same⟩ :=
    span_forward text start stop left right forward
  obtain ⟨blanks, trimmed⟩ := trim_end_prefix inside
  have shorter := byte_length_append (read ++ trimEnd inside) blanks
  rw [List.append_assoc, trimmed, last] at shorter
  rw [same]
  refine ⟨⟨read, trimEnd inside, blanks ++ rest, ?_, rfl, trim_end_solid inside⟩, ?_, ?_⟩
  · rw [whole, ← List.append_assoc (trimEnd inside), trimmed]
  · simp [first]
  · rw [offset_after_origin]
    omega

theorem span_covers (inner : Span) (trimmed : inner.Trimmed text) (solid : inner.start ≠ inner.stop)
    (above : start ≤ inner.start.offset) (below : inner.stop.offset ≤ stop) :
    inner.stop.offset ≤ ((ofText text).span start stop).stop.offset := by
  obtain ⟨read, inside, rest, whole, first, last, same⟩ :=
    span_forward text start stop left right forward
  obtain ⟨before, part, after, whole', own, visible⟩ := trimmed
  subst own
  simp only [offset_after_origin] at above below
  rw [same, offset_after_origin, offset_after_origin]
  have partIn : before ++ part <+: text := ⟨after, by rw [whole', List.append_assoc]⟩
  have insideIn : read ++ inside <+: text := ⟨rest, by rw [whole, List.append_assoc]⟩
  -- The part starts behind `read`, and `read ++ inside` reaches beyond it.
  obtain ⟨lead, behind⟩ := prefix_of_bytes text read before ⟨_, whole.symm⟩ ⟨_, whole'.symm⟩
    (by rw [first]; exact above)
  obtain ⟨more, reaches⟩ := prefix_of_bytes text (before ++ part) (read ++ inside) partIn insideIn
    (by rw [last]; exact below)
  have nonempty : part ≠ [] := by
    intro empty
    apply solid
    rw [empty, List.append_nil]
  obtain ⟨init, c, split⟩ := List.eq_nil_or_concat part |>.resolve_left nonempty
  rw [List.concat_eq_append] at split
  have inner : inside = (lead ++ init) ++ [c] ++ more := by
    rw [← behind, split] at reaches
    simp only [List.append_assoc] at reaches ⊢
    exact (List.append_cancel_left reaches).symm
  have kept := trim_end_keeps (lead ++ init) more c (visible c (by rw [split]; simp))
  rw [← inner] at kept
  obtain ⟨further, trimmed⟩ := kept
  have total : read ++ trimEnd inside = before ++ part ++ further := by
    rw [← trimmed, ← behind, split]
    simp only [List.append_assoc]
  rw [total]
  simp

end

end LineIndex

end Proofread
