import Proofread.Proofs.HeadingReports

set_option autoImplicit false

namespace Proofread.Lint

structure Remark where
  place : Nat
  heading : Heading
  reason : String
deriving DecidableEq

def Remark.report (remark : Remark) : Emission :=
  Rules.Heading.report remark.heading remark.reason

-- The reports are those that are due, one for each place and reason and in the order of the places.
def Reported (all : List Heading) (Due : Nat → Heading → String → Prop)
    (emissions : List Emission) : Prop :=
  ∃ listed : List Remark, emissions = listed.map Remark.report ∧
    listed.Pairwise (fun a b => a.place < b.place) ∧
    ∀ remark, remark ∈ listed ↔
      all[remark.place]? = some remark.heading ∧ Due remark.place remark.heading remark.reason

section

variable {α : Type} (all : List α) (i : Nat)

theorem earlier_iff (a : α) : a ∈ all.take i ↔ ∃ j < i, all[j]? = some a := by
  rw [List.mem_iff_getElem?]
  simp only [List.getElem?_take, Option.ite_none_right_eq_some]

theorem previous_iff (a here : α) (found : all[i]? = some here) :
    (all.take i).getLast? = some a ↔ ∃ j, j + 1 = i ∧ all[j]? = some a := by
  rw [List.getLast?_take]
  cases i with
  | zero => simp
  | succ j =>
      have inside : j < all.length := Nat.lt_of_succ_lt (List.getElem?_eq_some_iff.mp found).1
      simp [List.getElem?_eq_getElem inside]

end

variable (judge : List Heading → Heading → Option String)

-- The remarks on headings that stand behind others, where `judge` knows those before the heading.
def remarks (before : List Heading) : List Heading → List Remark
  | [] => []
  | heading :: rest =>
      match judge before heading with
      | some reason => ⟨before.length, heading, reason⟩ :: remarks (before ++ [heading]) rest
      | none => remarks (before ++ [heading]) rest

theorem remark_here (before rest : List Heading) (heading : Heading) (remark : Remark)
    (here : remark.place = before.length) :
    ((before ++ heading :: rest)[remark.place]? = some remark.heading ∧
        judge ((before ++ heading :: rest).take remark.place) remark.heading = some remark.reason) ↔
      heading = remark.heading ∧ judge before heading = some remark.reason := by
  rw [here, List.take_left, List.getElem?_append_right (Nat.le_refl _), Nat.sub_self,
    List.getElem?_cons_zero, Option.some.injEq]
  constructor
  · rintro ⟨rfl, due⟩
    exact ⟨rfl, due⟩
  · rintro ⟨rfl, due⟩
    exact ⟨rfl, due⟩

theorem mem_remarks (before rest : List Heading) (remark : Remark) :
    remark ∈ remarks judge before rest ↔ before.length ≤ remark.place ∧
      (before ++ rest)[remark.place]? = some remark.heading ∧
      judge ((before ++ rest).take remark.place) remark.heading = some remark.reason := by
  induction rest generalizing before with
  | nil =>
      simp only [remarks, List.append_nil, List.not_mem_nil, false_iff]
      rintro ⟨behind, found, _⟩
      rw [List.getElem?_eq_none behind] at found
      cases found
  | cons heading rest ih =>
      have here := remark_here judge before rest heading remark
      have later := ih (before ++ [heading])
      rw [List.append_assoc, List.singleton_append, List.length_append, List.length_singleton]
        at later
      have places : before.length ≤ remark.place ↔
          remark.place = before.length ∨ before.length + 1 ≤ remark.place := by omega
      rw [places, or_and_right, ← later, and_congr_right here, remarks]
      cases judged : judge before heading with
      | none => simp
      | some reason =>
          rw [List.mem_cons]
          apply or_congr_left
          obtain ⟨place, other, said⟩ := remark
          simp only [Remark.mk.injEq, Option.some.injEq]
          grind

theorem remarks_increasing (before rest : List Heading) :
    (remarks judge before rest).Pairwise (fun a b => a.place < b.place) := by
  induction rest generalizing before with
  | nil => exact .nil
  | cons heading rest ih =>
      rw [remarks]
      cases judge before heading with
      | none => exact ih _
      | some reason =>
          refine .cons ?_ (ih _)
          intro remark later
          have behind := ((mem_remarks judge _ rest remark).mp later).1
          rw [List.length_append, List.length_singleton] at behind
          exact behind

theorem remarks_reported (all : List Heading) (Due : Nat → Heading → String → Prop)
    (judged : ∀ i heading reason, all[i]? = some heading →
      (judge (all.take i) heading = some reason ↔ Due i heading reason)) :
    Reported all Due ((remarks judge [] all).map Remark.report) := by
  refine ⟨remarks judge [] all, rfl, remarks_increasing judge [] all, ?_⟩
  intro remark
  have listed := mem_remarks judge [] all remark
  rw [List.nil_append] at listed
  rw [listed]
  simp only [List.length_nil, Nat.zero_le, true_and]
  exact and_congr_right (judged remark.place remark.heading remark.reason)

end Proofread.Lint
