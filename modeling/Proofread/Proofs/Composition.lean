import Proofread.Lint.Rules.RawText
import Proofread.Proofs.Pass

set_option autoImplicit false

namespace Proofread.Lint

def Outcome.messages : Outcome → List Message
  | .success file => file.messages
  | _ => []

theorem flat_map_filter {α β : Type} (keep : α → Bool) (f : α → List β) (items : List α) :
    (items.filter keep).flatMap f = items.flatMap fun item => if keep item then f item else [] := by
  induction items with
  | nil => rfl
  | cons item rest ih =>
      cases kept : keep item with
      | true => simp [kept, ih]
      | false => simp [kept, ih]

namespace Pipeline

section

variable (settings : Settings) (strip : Bool) (tree : Node) (path : Option String)
  (contents : String)

def freshPass (attached : List AttachedRule) : Outcome :=
  processTree ⟨attached, settings, strip⟩ tree ⟨path, contents, []⟩

-- The messages of a rule that the directives keep, and none if the rule is off.
def share (c : Controls) (a : AttachedRule) : List Message :=
  if a.config.enabled then
    (emitted ⟨[], settings, strip⟩ (view ⟨[], settings, strip⟩ tree) ⟨path, contents, []⟩ a).filter
      c.allows
  else []

def FreshCompletes (attached : List AttachedRule) : Prop :=
  Completes ⟨[], settings, strip⟩ (view ⟨[], settings, strip⟩ tree) ⟨path, contents, []⟩
    (attached.filter (·.config.enabled))

theorem fresh_pass_succeeds (attached : List AttachedRule) (kept : LintFile) :
    freshPass settings strip tree path contents attached = .success kept ↔
      FreshCompletes settings strip tree path contents attached ∧
        ∃ c, Controls.collect (view ⟨[], settings, strip⟩ tree) = .ok c ∧
          kept = ⟨path, contents,
            attached.flatMap (share settings strip tree path contents c)⟩ := by
  have shares : ∀ c : Controls,
      ((attached.filter (·.config.enabled)).flatMap (emitted ⟨[], settings, strip⟩
          (view ⟨[], settings, strip⟩ tree) ⟨path, contents, []⟩)).filter c.allows =
        attached.flatMap (share settings strip tree path contents c) := by
    intro c
    rw [List.filter_flatMap, flat_map_filter]
    rfl
  simp only [← shares]
  exact process_tree_succeeds ⟨attached, settings, strip⟩ tree ⟨path, contents, []⟩ kept

theorem fresh_completes_append (a b : List AttachedRule) :
    FreshCompletes settings strip tree path contents (a ++ b) ↔
      FreshCompletes settings strip tree path contents a ∧
        FreshCompletes settings strip tree path contents b := by
  simp only [FreshCompletes, List.filter_append, completes_append]

theorem fresh_completes_perm (a b : List AttachedRule) (reordered : a.Perm b) :
    FreshCompletes settings strip tree path contents a ↔
      FreshCompletes settings strip tree path contents b := by
  have enabled := reordered.filter (·.config.enabled)
  exact ⟨fun all e listed => all e (enabled.mem_iff.mpr listed),
    fun all e listed => all e (enabled.mem_iff.mp listed)⟩

theorem fresh_pass_append (a b : List AttachedRule) (keptA keptB : LintFile)
    (first : freshPass settings strip tree path contents a = .success keptA)
    (second : freshPass settings strip tree path contents b = .success keptB) :
    freshPass settings strip tree path contents (a ++ b) =
      .success ⟨path, contents, keptA.messages ++ keptB.messages⟩ := by
  rw [fresh_pass_succeeds] at first second ⊢
  obtain ⟨completesA, c, collected, rfl⟩ := first
  obtain ⟨completesB, d, collectedAgain, rfl⟩ := second
  have same : c = d := Except.ok.inj (collected.symm.trans collectedAgain)
  subst same
  refine ⟨(fresh_completes_append settings strip tree path contents a b).mpr
    ⟨completesA, completesB⟩, c, collected, ?_⟩
  simp only [List.flatMap_append]

theorem fresh_pass_shares (attached : List AttachedRule) (kept : LintFile)
    (passed : freshPass settings strip tree path contents attached = .success kept) :
    kept.messages =
      attached.flatMap fun a => (freshPass settings strip tree path contents [a]).messages := by
  obtain ⟨completes, c, collected, rfl⟩ := (fresh_pass_succeeds ..).mp passed
  have alone : ∀ a ∈ attached, share settings strip tree path contents c a =
      (freshPass settings strip tree path contents [a]).messages := by
    intro a listed
    -- Alone the rule meets the same document, so it completes there too.
    have completesAlone : FreshCompletes settings strip tree path contents [a] := by
      intro e on
      obtain ⟨single, enabled⟩ := List.mem_filter.mp on
      rw [List.mem_singleton.mp single] at enabled ⊢
      exact completes a (List.mem_filter.mpr ⟨listed, enabled⟩)
    have passedAlone := (fresh_pass_succeeds settings strip tree path contents [a] _).mpr
      ⟨completesAlone, c, collected, rfl⟩
    rw [passedAlone]
    exact (List.flatMap_singleton ..).symm
  rw [List.flatMap_def, List.flatMap_def, List.map_congr_left alone]

theorem fresh_pass_perm_succeeds (a b : List AttachedRule) (reordered : a.Perm b) :
    (freshPass settings strip tree path contents a).isSuccess =
      (freshPass settings strip tree path contents b).isSuccess := by
  have oneWay : ∀ x y : List AttachedRule, x.Perm y →
      (freshPass settings strip tree path contents x).isSuccess = true →
        (freshPass settings strip tree path contents y).isSuccess = true := by
    intro x y order success
    cases passed : freshPass settings strip tree path contents x with
    | success kept =>
        obtain ⟨completes, c, collected, _⟩ := (fresh_pass_succeeds ..).mp passed
        have completesToo := (fresh_completes_perm settings strip tree path contents x y order).mp
          completes
        rw [(fresh_pass_succeeds settings strip tree path contents y _).mpr
          ⟨completesToo, c, collected, rfl⟩]
        rfl
    | configurationError e =>
        rw [passed] at success
        cases success
    | processingFailure failure =>
        rw [passed] at success
        cases success
    | overflow =>
        rw [passed] at success
        cases success
  exact Bool.eq_iff_iff.mpr ⟨oneWay a b reordered, oneWay b a reordered.symm⟩

theorem fresh_pass_enabled (attached : List AttachedRule) :
    freshPass settings strip tree path contents (attached.filter (·.config.enabled)) =
      freshPass settings strip tree path contents attached :=
  process_tree_enabled ⟨attached, settings, strip⟩ tree ⟨path, contents, []⟩

end

theorem fatal_perm (a b : LintFile) (reordered : a.messages.Perm b.messages) :
    a.hasFatal = b.hasFatal := by
  rw [Bool.eq_iff_iff, LintFile.hasFatal, LintFile.hasFatal, List.any_eq_true, List.any_eq_true]
  simp only [reordered.mem_iff]

theorem attached_rules_compose (settings : Settings) (strip : Bool) (tree : Node)
    (path : Option String) (contents : String) :
    (∀ (a b : List AttachedRule) (keptA keptB : LintFile),
      freshPass settings strip tree path contents a = .success keptA →
      freshPass settings strip tree path contents b = .success keptB →
        freshPass settings strip tree path contents (a ++ b) =
          .success ⟨path, contents, keptA.messages ++ keptB.messages⟩) ∧
    (∀ a b : List AttachedRule, a.Perm b →
      (freshPass settings strip tree path contents a).isSuccess =
          (freshPass settings strip tree path contents b).isSuccess ∧
        ∀ keptA keptB : LintFile,
          freshPass settings strip tree path contents a = .success keptA →
          freshPass settings strip tree path contents b = .success keptB →
            keptA.messages.Perm keptB.messages ∧ keptA.hasFatal = keptB.hasFatal ∧
            keptA.messages = a.flatMap (fun e =>
              (freshPass settings strip tree path contents [e]).messages) ∧
            keptB.messages = b.flatMap (fun e =>
              (freshPass settings strip tree path contents [e]).messages)) ∧
    ∀ attached : List AttachedRule,
      freshPass settings strip tree path contents (attached.filter (·.config.enabled)) =
        freshPass settings strip tree path contents attached := by
  refine ⟨fresh_pass_append settings strip tree path contents, ?_,
    fresh_pass_enabled settings strip tree path contents⟩
  intro a b reordered
  refine ⟨fresh_pass_perm_succeeds settings strip tree path contents a b reordered, ?_⟩
  intro keptA keptB passedA passedB
  have sharesA := fresh_pass_shares settings strip tree path contents a keptA passedA
  have sharesB := fresh_pass_shares settings strip tree path contents b keptB passedB
  have messages : keptA.messages.Perm keptB.messages := by
    rw [sharesA, sharesB]
    exact reordered.flatMap_right _
  exact ⟨messages, fatal_perm keptA keptB messages, sharesA, sharesB⟩

def tabsAsErrors : AttachedRule :=
  ⟨Rules.noTabs, "no-tabs", .ofSeverity .error none⟩

def newlineAsWarning : AttachedRule :=
  ⟨Rules.finalNewline, "final-newline", .ofSeverity .warn none⟩

def tabsOff : AttachedRule :=
  ⟨Rules.noTabs, "no-tabs", .ofSeverity .off none⟩

def tabbedTree : Node :=
  ⟨.root, none, [
    .leaf .paragraph (some ⟨⟨1, 1, 0⟩, ⟨1, 3, 2⟩⟩),
    .leaf (.html "<!--lint disable no-tabs-->") (some ⟨⟨3, 1, 4⟩, ⟨3, 28, 31⟩⟩),
    .leaf .paragraph (some ⟨⟨5, 1, 33⟩, ⟨5, 3, 35⟩⟩)]⟩

def tabbedText : String :=
  "a\t\n\n<!--lint disable no-tabs-->\n\nb\t"

theorem attached_rules_compose_tabs :
    ∃ keptA keptB : LintFile,
      freshPass [] false tabbedTree none tabbedText [tabsAsErrors, tabsOff] = .success keptA ∧
      freshPass [] false tabbedTree none tabbedText [newlineAsWarning] = .success keptB ∧
      keptA.messages.map (·.ruleId) = ["no-tabs"] ∧
      keptB.messages.map (·.ruleId) = ["final-newline"] ∧
      freshPass [] false tabbedTree none tabbedText [tabsAsErrors, tabsOff, newlineAsWarning] =
        .success ⟨none, tabbedText, keptA.messages ++ keptB.messages⟩ ∧
      freshPass [] false tabbedTree none tabbedText [newlineAsWarning, tabsAsErrors] =
        .success ⟨none, tabbedText, keptB.messages ++ keptA.messages⟩ := by
  refine ⟨_, _, rfl, rfl, rfl, rfl, ?_, ?_⟩
  · exact (attached_rules_compose [] false tabbedTree none tabbedText).1
      [tabsAsErrors, tabsOff] [newlineAsWarning] _ _ rfl rfl
  · have appended := (attached_rules_compose [] false tabbedTree none tabbedText).1
      [newlineAsWarning] [tabsAsErrors, tabsOff] _ _ rfl rfl
    have enabled := (attached_rules_compose [] false tabbedTree none tabbedText).2.2
      [newlineAsWarning, tabsAsErrors, tabsOff]
    exact enabled.trans appended

end Pipeline

end Proofread.Lint
