import Proofread.Proofs.HeadingRemarks

set_option autoImplicit false

namespace Proofread.Lint

def Deeper (previous heading : Heading) : Prop :=
  previous.depth.toNat + 1 < heading.depth.toNat

def incrementReason : String :=
  "Heading levels should increment by one level at a time"

def Skips (all : List Heading) (i : Nat) (heading : Heading) (reason : String) : Prop :=
  reason = incrementReason ∧
    ∃ j previous, j + 1 = i ∧ all[j]? = some previous ∧ Deeper previous heading

-- A heading of the greatest depth that there is has another one right behind it.
def Overruns (all : List Heading) : Prop :=
  ∃ before previous heading after, all = before ++ previous :: heading :: after ∧
    previous.depth = 255

theorem overruns_cons (first : Heading) (rest : List Heading) :
    Overruns (first :: rest) ↔ (first.depth = 255 ∧ rest ≠ []) ∨ Overruns rest := by
  constructor
  · rintro ⟨before, previous, heading, after, split, greatest⟩
    cases before with
    | nil =>
        cases split
        exact Or.inl ⟨greatest, List.cons_ne_nil _ _⟩
    | cons b others =>
        cases split
        exact Or.inr ⟨others, previous, heading, after, rfl, greatest⟩
  · rintro (⟨greatest, followed⟩ | ⟨before, previous, heading, after, rfl, greatest⟩)
    · obtain ⟨heading, after, rfl⟩ := List.exists_cons_of_ne_nil followed
      exact ⟨[], first, heading, after, rfl, greatest⟩
    · exact ⟨first :: before, previous, heading, after, rfl, greatest⟩

theorem skips_level_overflows (previous : Option UInt8) (depth : UInt8) :
    Rules.skipsLevel? previous depth = none ↔ previous = some 255 := by
  cases previous with
  | none => simp [Rules.skipsLevel?]
  | some before => simp [Rules.skipsLevel?, Rules.byteAfter?]

-- Below the greatest depth, bytes are compared as numbers are.
theorem skips_level_counts (previous : Option UInt8) (depth : UInt8) (skips : Bool)
    (made : Rules.skipsLevel? previous depth = some skips) :
    skips = previous.any fun before => before.toNat + 1 < depth.toNat := by
  cases previous with
  | none =>
      cases made
      rfl
  | some before =>
      simp only [Rules.skipsLevel?, Rules.byteAfter?] at made
      by_cases greatest : before = 255
      · rw [if_pos greatest] at made
        cases made
      · rw [if_neg greatest] at made
        cases made
        have small : before.toNat < 255 := by
          have bound := before.toNat_lt
          have other : before.toNat ≠ 255 := fun same => greatest (UInt8.toNat_inj.mp same)
          omega
        have next : (before + 1).toNat = before.toNat + 1 := by
          rw [UInt8.toNat_add, UInt8.toNat_one]
          omega
        simp only [Option.any_some, UInt8.lt_iff_toNat_lt, next]

theorem increments_overflow (previous : Option UInt8) (all : List Heading) :
    Rules.incrementReports previous all = none ↔
      (previous = some 255 ∧ all ≠ []) ∨ Overruns all := by
  induction all generalizing previous with
  | nil => simp [Rules.incrementReports, Overruns]
  | cons heading rest ih =>
      have behind := ih (some heading.depth)
      rw [Option.some.injEq, ← overruns_cons] at behind
      rw [← behind, ← skips_level_overflows previous heading.depth, Rules.incrementReports]
      cases Rules.skipsLevel? previous heading.depth with
      | none => simp
      | some skips => cases Rules.incrementReports (some heading.depth) rest <;> simp

def incrementJudge (before : List Heading) (heading : Heading) : Option String :=
  if before.getLast?.any fun previous => previous.depth.toNat + 1 < heading.depth.toNat then
    some incrementReason
  else none

theorem increments_remarked (before rest : List Heading) (reports : List Emission)
    (made : Rules.incrementReports (before.getLast?.map Heading.depth) rest = some reports) :
    reports = (remarks incrementJudge before rest).map Remark.report := by
  induction rest generalizing before reports with
  | nil =>
      cases made
      rfl
  | cons heading rest ih =>
      rw [Rules.incrementReports] at made
      obtain ⟨skips, compared, made⟩ := Option.bind_eq_some_iff.mp made
      obtain ⟨behind, later, made⟩ := Option.bind_eq_some_iff.mp made
      have others := ih (before ++ [heading]) behind (by rwa [List.getLast?_concat])
      have counted := skips_level_counts _ _ skips compared
      rw [Option.any_map] at counted
      cases made
      rw [others, counted, remarks, incrementJudge]
      cases before.getLast?.any _ <;> rfl

theorem increment_due (all : List Heading) (i : Nat) (heading : Heading) (reason : String)
    (found : all[i]? = some heading) :
    incrementJudge (all.take i) heading = some reason ↔ Skips all i heading reason := by
  rw [incrementJudge, Skips, Option.ite_none_right_eq_some, Option.some.injEq, Option.any_eq_true]
  simp only [previous_iff all i _ heading found, decide_eq_true_eq, Deeper]
  grind

theorem increments_reported (all : List Heading) (reports : List Emission)
    (made : Rules.incrementReports none all = some reports) :
    Reported all (Skips all) reports := by
  rw [increments_remarked [] all reports made]
  exact remarks_reported incrementJudge all _ (increment_due all)

theorem increments_counted_in_bytes (tree : Node) (context : RuleContext)
    (options : Option Json.Value) :
    (Overruns (headings tree) →
      Rules.headingIncrement.check tree context options = .overflowed) ∧
    ((Rules.headingIncrement.check tree context options).failure = none ∧
        Reported (headings tree) (Skips (headings tree))
          (Rules.headingIncrement.check tree context options).emissions ↔
      ¬ Overruns (headings tree)) := by
  have overflows := increments_overflow none (headings tree)
  simp only [reduceCtorEq, false_and, false_or] at overflows
  rw [← overflows]
  simp only [Rules.headingIncrement]
  cases made : Rules.incrementReports none (headings tree) with
  | none => simp [Findings.overflowed]
  | some reports => simpa [Findings.ofEmissions] using increments_reported _ reports made

def steepTree : Node :=
  ⟨.root, none, [
    .leaf (.heading 255) (some ⟨⟨1, 1, 0⟩, ⟨1, 4, 3⟩⟩),
    .leaf (.heading 1) (some ⟨⟨2, 1, 4⟩, ⟨2, 4, 7⟩⟩)]⟩

theorem increment_overflows :
    Rules.headingIncrement.check steepTree ⟨"", none, [], "heading-increment"⟩ none = .overflowed ∧
    (∀ i heading reason, (headings steepTree)[i]? = some heading →
      ¬ Skips (headings steepTree) i heading reason) ∧
    ¬ ((Rules.headingIncrement.check steepTree ⟨"", none, [], "heading-increment"⟩ none).failure =
        none ∧
      Reported (headings steepTree) (Skips (headings steepTree))
        (Rules.headingIncrement.check steepTree ⟨"", none, [], "heading-increment"⟩
          none).emissions) := by
  refine ⟨by decide, ?_, fun ended => absurd ended.1 (by decide)⟩
  rintro i heading reason found ⟨_, j, previous, rfl, before, deeper⟩
  have known : headings steepTree =
      [⟨255, "", ⟨⟨1, 1, 0⟩, ⟨1, 4, 3⟩⟩⟩, ⟨1, "", ⟨⟨2, 1, 4⟩, ⟨2, 4, 7⟩⟩⟩] := by decide
  rw [known] at found before
  cases j with
  | zero =>
      cases found
      cases before
      rw [Deeper] at deeper
      exact absurd deeper (by decide)
  | succ k => cases found

end Proofread.Lint
