import Proofread.Proofs.LineOrder
import Proofread.Proofs.Replay
import Proofread.Proofs.Stopping

set_option autoImplicit false

namespace Proofread

namespace Point

def Alike (p q : Point) : Prop :=
  p.line = q.line ∧ p.column = q.column

theorem alike_symm (p q : Point) (alike : p.Alike q) : q.Alike p :=
  ⟨alike.1.symm, alike.2.symm⟩

theorem not_after_alike (p q r : Point) (alike : q.Alike r) : p.notAfter q = p.notAfter r := by
  rw [notAfter, notAfter, alike.1, alike.2]

theorem before_alike (p q r : Point) (alike : p.Alike q) : p.before r = q.before r := by
  rw [before, before, alike.1, alike.2]

theorem le_iff_not_after (p q : Point) :
    p.le q = true ↔ p.notAfter q = true ∧ (p.Alike q → p.offset ≤ q.offset) := by
  rw [le_iff, not_after_iff, Alike]
  omega

end Point

theorem Span.contains_alike (s : Span) (p q : Point) (alike : p.Alike q) :
    s.contains p = s.contains q := by
  rw [contains, contains, s.start.not_after_alike p q alike, p.before_alike q s.stop alike]

namespace Lint

theorem ignored_alike (tree : Node) (ruleId : String) (p q : Point) (alike : p.Alike q) :
    IgnoredAt tree ruleId p ↔ IgnoredAt tree ruleId q := by
  simp only [IgnoredAt, fun s : Span => s.contains_alike p q alike]

-- The toggle stands at the line and column of the places, and its offset parts them: it is above
-- that of the first and not above that of the second.
def Toggle.Parts (t : Toggle) (p q : Point) : Prop :=
  t.place.Alike p ∧ p.offset < t.place.offset ∧ t.place.offset ≤ q.offset

theorem reached_or_parted (t : Toggle) (p q : Point) (alike : p.Alike q)
    (order : p.offset ≤ q.offset) :
    t.place.le q = true ↔ t.place.le p = true ∨ t.Parts p q := by
  obtain ⟨line, column⟩ := alike
  rw [Point.le_iff, Point.le_iff, Toggle.Parts, Point.Alike]
  omega

def Reaches (toggles : List Toggle) (ruleId : String) (place : Point) (t : Toggle) : Prop :=
  ∃ before after, toggles = before ++ t :: after ∧ concerns t.rules ruleId = true ∧
    t.place.le place = true ∧
    ∀ later ∈ after, concerns later.rules ruleId = true → later.place.le place = false

def lastReached (toggles : List Toggle) (ruleId : String) (place : Point) : Option Toggle :=
  (toggles.filter fun t => concerns t.rules ruleId && t.place.le place).getLast?

theorem last_reached_iff (toggles : List Toggle) (ruleId : String) (place : Point) (t : Toggle) :
    lastReached toggles ruleId place = some t ↔ Reaches toggles ruleId place t := by
  rw [lastReached, List.getLast?_filter, find_last, Reaches]
  simp only [Bool.and_eq_true, and_assoc, Bool.and_eq_false_imp]

theorem last_reached_none (toggles : List Toggle) (ruleId : String) (place : Point) :
    lastReached toggles ruleId place = none ↔
      ∀ t ∈ toggles, concerns t.rules ruleId = true → t.place.le place = false := by
  rw [lastReached, List.getLast?_eq_none_iff, List.filter_eq_nil_iff]
  simp only [Bool.and_eq_true, not_and, Bool.not_eq_true]

def onAt (toggles : List Toggle) (ruleId : String) (place : Point) : Bool :=
  ((lastReached toggles ruleId place).map Toggle.enabled).getD true

theorem replay_on_at (tree : Node) (c : Controls) (collected : Controls.collect tree = .ok c)
    (ruleId : String) (place : Point) :
    (Switches.replay place (Node.preorderList tree.children)).isOn ruleId =
      onAt c.toggles ruleId place := by
  rw [Switches.replay, Switches.is_on_run, ← Controls.collect_toggles tree c collected, onAt,
    lastReached]
  cases (c.toggles.filter fun t => concerns t.rules ruleId && t.place.le place).getLast? <;> rfl

section

variable (toggles : List Toggle) (ruleId : String) (p q : Point) (alike : p.Alike q)
  (order : p.offset ≤ q.offset)

include alike order

theorem unreached_before (t : Toggle) (unreached : t.place.le q = false) :
    t.place.le p = false := by
  rw [← Bool.not_eq_true, reached_or_parted t p q alike order, not_or] at unreached
  exact (Bool.not_eq_true _).mp unreached.1

-- Unless the last toggle that the later place has reached parts the two, it is the last for both.
theorem last_reached_shared
    (shared : ∀ t, Reaches toggles ruleId q t → t.place.le p = true) :
    lastReached toggles ruleId p = lastReached toggles ruleId q := by
  cases last : lastReached toggles ruleId q with
  | none =>
      rw [last_reached_none] at last ⊢
      intro t listed about
      exact unreached_before p q alike order t (last t listed about)
  | some t =>
      rw [last_reached_iff] at last ⊢
      have reached := shared t last
      obtain ⟨before, after, split, about, _, others⟩ := last
      refine ⟨before, after, split, about, reached, fun later listed concerned => ?_⟩
      exact unreached_before p q alike order later (others later listed concerned)

theorem on_at_differs :
    onAt toggles ruleId p ≠ onAt toggles ruleId q ↔
      ∃ t, Reaches toggles ruleId q t ∧ t.Parts p q ∧ t.enabled ≠ onAt toggles ruleId p := by
  have state : ∀ t, Reaches toggles ruleId q t → onAt toggles ruleId q = t.enabled := by
    intro t reaches
    rw [onAt, (last_reached_iff toggles ruleId q t).mpr reaches]
    rfl
  constructor
  · intro differ
    by_cases parted : ∃ t, Reaches toggles ruleId q t ∧ t.Parts p q
    · obtain ⟨t, reaches, parts⟩ := parted
      refine ⟨t, reaches, parts, ?_⟩
      rw [← state t reaches]
      exact differ.symm
    · have shared : ∀ t, Reaches toggles ruleId q t → t.place.le p = true := by
        intro t reaches
        have reached := reaches.choose_spec.choose_spec.2.2.1
        exact ((reached_or_parted t p q alike order).mp reached).resolve_right
          fun parts => parted ⟨t, reaches, parts⟩
      rw [onAt, onAt, last_reached_shared toggles ruleId p q alike order shared] at differ
      exact absurd rfl differ
  · rintro ⟨t, reaches, _, switched⟩
    rw [state t reaches]
    exact switched.symm

end

theorem allows_differ (tree : Node) (c : Controls) (collected : Controls.collect tree = .ok c)
    (a b : Message) (p q : Point) (rule : a.ruleId = b.ruleId) (startA : a.start? = some p)
    (startB : b.start? = some q) (alike : p.Alike q) :
    c.allows a ≠ c.allows b ↔
      ¬ IgnoredAt tree a.ruleId p ∧ onAt c.toggles a.ruleId p ≠ onAt c.toggles a.ruleId q := by
  have first := allows_placed tree c collected a p startA
  have second := allows_placed tree c collected b q startB
  rw [replay_on_at tree c collected] at first second
  rw [← rule, ← ignored_alike tree a.ruleId p q alike] at second
  rw [ne_eq, Bool.eq_iff_iff, first, second]
  by_cases ignored : IgnoredAt tree a.ruleId p
  · simp only [ignored, not_true_eq_false, false_and]
  · simp only [ignored, not_false_eq_true, true_and, ← Bool.eq_iff_iff, ne_eq]

theorem alike_starts_decided (tree : Node) (c : Controls)
    (collected : Controls.collect tree = .ok c) (a b : Message) (p q : Point)
    (rule : a.ruleId = b.ruleId) (startA : a.start? = some p) (startB : b.start? = some q)
    (alike : p.Alike q) :
    (IgnoredAt tree a.ruleId p ↔ IgnoredAt tree b.ruleId q) ∧
    (∀ t : Toggle, t.place.le p = true ↔
      t.place.notAfter p = true ∧ (t.place.Alike p → t.place.offset ≤ p.offset)) ∧
    (p.offset ≤ q.offset →
      (c.allows a ≠ c.allows b ↔ ¬ IgnoredAt tree a.ruleId p ∧
        ∃ t, Reaches c.toggles a.ruleId q t ∧ t.Parts p q ∧
          t.enabled ≠ (Switches.replay p (Node.preorderList tree.children)).isOn a.ruleId)) ∧
    ((∀ t ∈ c.toggles, concerns t.rules a.ruleId = true → ¬ t.Parts p q ∧ ¬ t.Parts q p) →
      c.allows a = c.allows b) := by
  have differ := allows_differ tree c collected a b p q rule startA startB alike
  refine ⟨?_, fun t => t.place.le_iff_not_after p, ?_, ?_⟩
  · rw [← rule]
    exact ignored_alike tree a.ruleId p q alike
  · intro order
    rw [differ, on_at_differs c.toggles a.ruleId p q alike order, replay_on_at tree c collected]
  · intro apart
    have among : ∀ r t, Reaches c.toggles a.ruleId r t →
        t ∈ c.toggles ∧ concerns t.rules a.ruleId = true := by
      rintro r t ⟨before, after, split, about, _⟩
      exact ⟨by simp [split], about⟩
    refine Decidable.byContradiction fun different => ?_
    have states := (differ.mp different).2
    rcases Nat.le_total p.offset q.offset with order | order
    · obtain ⟨t, reaches, parts, _⟩ := (on_at_differs _ _ p q alike order).mp states
      obtain ⟨listed, about⟩ := among q t reaches
      exact (apart t listed about).1 parts
    · obtain ⟨t, reaches, parts, _⟩ :=
        (on_at_differs _ _ q p (p.alike_symm q alike) order).mp states.symm
      obtain ⟨listed, about⟩ := among p t reaches
      exact (apart t listed about).2 parts

def endedComment : Node :=
  ⟨.root, some ⟨⟨1, 1, 0⟩, ⟨3, 4, 24⟩⟩, [
    .leaf (.html "<!--lint disable-->") (some ⟨⟨1, 1, 0⟩, ⟨1, 20, 19⟩⟩),
    .leaf (.heading 1) (some ⟨⟨3, 1, 21⟩, ⟨3, 4, 24⟩⟩)]⟩

def endedControls : Controls :=
  ⟨[⟨⟨1, 20, 19⟩, [], false⟩], []⟩

theorem alike_starts_decided_ended :
    Controls.collect endedComment = .ok endedControls ∧
      endedControls.allows (reportAt "no-tabs" ⟨1, 20, 7⟩) ≠
        endedControls.allows (reportAt "no-tabs" ⟨1, 20, 19⟩) ∧
      endedControls.allows (reportAt "no-tabs" ⟨1, 20, 19⟩) =
        endedControls.allows (reportAt "no-tabs" ⟨1, 20, 30⟩) := by
  have collected : Controls.collect endedComment = .ok endedControls := rfl
  have visible : ¬ IgnoredAt endedComment "no-tabs" ⟨1, 20, 7⟩ := by
    rw [← ignored_any endedComment endedControls collected]
    decide
  refine ⟨collected, ?_, ?_⟩
  · obtain ⟨_, _, exactly, _⟩ := alike_starts_decided endedComment endedControls collected
      (reportAt "no-tabs" ⟨1, 20, 7⟩) (reportAt "no-tabs" ⟨1, 20, 19⟩) ⟨1, 20, 7⟩ ⟨1, 20, 19⟩
      rfl rfl rfl ⟨rfl, rfl⟩
    refine (exactly (by decide)).mpr ⟨visible, ⟨⟨1, 20, 19⟩, [], false⟩,
      ⟨[], [], rfl, rfl, rfl, nofun⟩, ⟨⟨rfl, rfl⟩, by decide, by decide⟩, ?_⟩
    rw [replay_on_at endedComment endedControls collected]
    decide
  · obtain ⟨_, _, _, same⟩ := alike_starts_decided endedComment endedControls collected
      (reportAt "no-tabs" ⟨1, 20, 19⟩) (reportAt "no-tabs" ⟨1, 20, 30⟩) ⟨1, 20, 19⟩ ⟨1, 20, 30⟩
      rfl rfl rfl ⟨rfl, rfl⟩
    refine same fun t listed _ => ?_
    obtain rfl := List.mem_singleton.mp listed
    exact ⟨fun parts => absurd parts.2.1 (by decide), fun parts => absurd parts.2.1 (by decide)⟩

theorem offset_decides :
    Controls.collect endedComment = .ok endedControls ∧
      (⟨1, 20, 0⟩ : Point).Alike ⟨1, 20, 19⟩ ∧
      endedControls.allows (reportAt "no-tabs" ⟨1, 20, 0⟩) = true ∧
      endedControls.allows (reportAt "no-tabs" ⟨1, 20, 19⟩) = false :=
  ⟨rfl, ⟨rfl, rfl⟩, rfl, rfl⟩

end Lint

end Proofread
