import Proofread.Proofs.IgnoredTabs
import Proofread.Proofs.LineOrder
import Proofread.Proofs.ReportedPlaces

set_option autoImplicit false

namespace Proofread

namespace Text

theorem offsets_of_increasing (needle : Char) (start : Nat) (text : List Char) :
    (offsetsOf needle start text).Pairwise (· < ·) := by
  induction text generalizing start with
  | nil => exact List.Pairwise.nil
  | cons c rest ih =>
      rw [offsetsOf]
      by_cases found : c = needle
      · rw [if_pos found, List.pairwise_cons]
        refine ⟨?_, ih (start + c.utf8Size)⟩
        intro offset later
        obtain ⟨before, after, _, here⟩ := (mem_offsets_of needle _ offset rest).mp later
        have width := c.utf8Size_pos
        omega
      · rw [if_neg found]
        exact ih (start + c.utf8Size)

end Text

open Text Point

namespace Markdown

theorem tree_spans_in (text : List Char) (events : List Event)
    (between : BetweenCharacters text events) (n : Node)
    (listed : n ∈ (treeOfEvents text events).preorder) :
    ∃ span, n.span = some span ∧ span.In text := by
  rw [Node.preorder_root] at listed
  rcases List.mem_cons.mp listed with root | below
  · have start := (LineIndex.boundary_place text 0 (boundary_start text)).1
    have stop := (LineIndex.boundary_place text _ (boundary_stop text)).1
    exact ⟨_, by rw [root]; rfl, start, stop⟩
  · obtain ⟨span, placed, within⟩ := nodes_within text events between n below
    exact ⟨span, placed, within.ends⟩

end Markdown

namespace Lint

open Markdown (BetweenCharacters treeOfEvents)

theorem tab_starts_agree (text : String) (events : List Markdown.Event)
    (between : BetweenCharacters text.toList events) (place : Point)
    (tab : place ∈ Rules.charPoints text '\t') (n : Node)
    (listed : n ∈ (treeOfEvents text.toList events).preorder) (span : Span)
    (placed : n.span = some span) (same : span.start.offset = place.offset) :
    span.start = place := by
  obtain ⟨own, here, ends⟩ := Markdown.tree_spans_in text.toList events between n listed
  rw [placed] at here
  cases here
  exact same_place text.toList _ _ ends.1 (Rules.char_points_in text '\t' place tab) same

theorem locations_agree (text : String) :
    (∀ needle : Char,
      Rules.charPoints text needle =
        (offsetsOf needle 0 text.toList).map (LineIndex.ofText text.toList).point ∧
      (offsetsOf needle 0 text.toList).Pairwise (· < ·) ∧
      ∀ offset, offset ∈ offsetsOf needle 0 text.toList ↔
        ∃ before after, text.toList = before ++ needle :: after ∧ offset = byteLength before) ∧
    ∀ (p : Pipeline) (config : Resolved) (tree : Node) (file : LintFile), file.contents = text →
      ∀ m ∈ p.emitted tree file ⟨Rules.noTabs, "no-tabs", config⟩,
        ∃ place, m.location = some (.point place) ∧
          (∀ n ∈ (Markdown.parse text).preorder, ∀ span, n.span = some span →
            span.start.offset = place.offset → span.start = place) ∧
          ∀ events, BetweenCharacters text.toList events →
            ∀ n ∈ (treeOfEvents text.toList events).preorder, ∀ span, n.span = some span →
              span.start.offset = place.offset → span.start = place := by
  refine ⟨?_, ?_⟩
  · intro needle
    refine ⟨Rules.char_points_indexed text needle, offsets_of_increasing needle 0 _, ?_⟩
    intro offset
    rw [mem_offsets_of]
    simp only [Nat.zero_add]
  · intro p config tree file document m emitted
    subst document
    simp only [Pipeline.emitted, Pipeline.messagesOf, Pipeline.findings, Rules.noTabs,
      Findings.ofEmissions, List.map_map, List.mem_map] at emitted
    obtain ⟨place, tab, same⟩ := emitted
    have agree := fun events between => tab_starts_agree file.contents events between place tab
    refine ⟨place, by rw [← same]; rfl, ?_, agree⟩
    exact agree (Markdown.events file.contents.toList) (Markdown.events_between _)

def taggedTab : String :=
  "é <b>\tc"

theorem locations_agree_tagged :
    Pipeline.emitted .empty (Markdown.parse taggedTab) (.ofContents taggedTab)
        ⟨Rules.noTabs, "no-tabs", .ofSeverity .warn none⟩ = [tabMessage none (some false) ⟨1, 6, 6⟩] ∧
      ∃ n ∈ (Markdown.parse taggedTab).preorder, n.kind = .text "\tc" ∧
        ∃ span, n.span = some span ∧ span.start.offset = 6 ∧ span.start = ⟨1, 6, 6⟩ := by
  have reported : Pipeline.emitted .empty (Markdown.parse taggedTab) (.ofContents taggedTab)
      ⟨Rules.noTabs, "no-tabs", .ofSeverity .warn none⟩ = [tabMessage none (some false) ⟨1, 6, 6⟩] := by
    decide +kernel
  have text : (Markdown.parse taggedTab).preorder[4]?.map
      (fun n => (n.kind, n.span.map fun span => span.start.offset)) =
        some (.text "\tc", some 6) := by decide +kernel
  obtain ⟨n, here, read⟩ := Option.map_eq_some_iff.mp text
  obtain ⟨kind, start⟩ := Prod.mk.inj read
  obtain ⟨span, placed, offset⟩ := Option.map_eq_some_iff.mp start
  have listed := List.mem_of_getElem? here
  obtain ⟨place, points, agree, _⟩ := (locations_agree taggedTab).2 .empty (.ofSeverity .warn none)
    (Markdown.parse taggedTab) (.ofContents taggedTab) rfl
    (tabMessage none (some false) ⟨1, 6, 6⟩) (by rw [reported]; exact List.mem_cons_self)
  cases points
  exact ⟨reported, n, listed, kind, span, placed, offset, agree n listed span placed offset⟩

end Lint

end Proofread
