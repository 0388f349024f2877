import Proofread.Text.Blank

set_option autoImplicit false

namespace Proofread.Text

theorem infix_separated (pattern a b : List Char) (c : Char) (absent : c ∉ pattern) :
    pattern <:+: a ++ c :: b ↔ pattern <:+: a ∨ pattern <:+: b := by
  constructor
  · rintro ⟨before, after, whole⟩
    rw [List.append_assoc, List.append_eq_append_iff] at whole
    -- The occurrence begins inside `a`, and then ends there or reaches `c`, or it begins behind `a`.
    rcases whole with ⟨left, beforeC, cut⟩ | ⟨gap, afterA, cut⟩
    · rcases List.append_eq_append_iff.mp cut with ⟨tail, leftEq, _⟩ | ⟨reach, patternEq, cut⟩
      · exact Or.inl ⟨before, tail, by rw [beforeC, leftEq, List.append_assoc]⟩
      · cases reach with
        | nil => exact Or.inl ⟨before, [], by simp [beforeC, patternEq]⟩
        | cons d reach =>
            obtain ⟨rfl, _⟩ := List.cons.inj cut
            exact absurd (by simp [patternEq]) absent
    · cases gap with
      | nil =>
          cases pattern with
          | nil => exact Or.inl ⟨[], a, rfl⟩
          | cons d pattern =>
              obtain ⟨rfl, _⟩ := List.cons.inj cut
              exact absurd List.mem_cons_self absent
      | cons d gap =>
          obtain ⟨_, rest⟩ := List.cons.inj cut
          refine Or.inr ⟨gap, after, ?_⟩
          rw [List.append_assoc]
          exact rest.symm
  · rintro (inside | inside)
    · exact inside.trans ⟨[], c :: b, rfl⟩
    · exact inside.trans ⟨a ++ [c], [], by simp⟩

theorem blank_absent (pattern : List Char) (solid : ∀ c ∈ pattern, isBlank c = false) (c : Char)
    (blank : isBlank c = true) : c ∉ pattern := by
  intro listed
  rw [solid c listed] at blank
  cases blank

theorem infix_blanks (pattern space rest : List Char) (visible : pattern ≠ [])
    (solid : ∀ c ∈ pattern, isBlank c = false) (blank : ∀ c ∈ space, isBlank c = true) :
    pattern <:+: space ++ rest ↔ pattern <:+: rest := by
  induction space with
  | nil => rfl
  | cons c space ih =>
      obtain ⟨first, others⟩ := List.forall_mem_cons.mp blank
      have absent := blank_absent pattern solid c first
      have separated := infix_separated pattern [] (space ++ rest) c absent
      rw [List.nil_append, List.infix_nil] at separated
      rw [List.cons_append, separated, ih others, or_iff_right visible]

theorem infix_gap (pattern left space right : List Char) (visible : pattern ≠ [])
    (solid : ∀ c ∈ pattern, isBlank c = false) (blank : ∀ c ∈ space, isBlank c = true)
    (spaced : space ≠ []) :
    pattern <:+: left ++ space ++ right ↔ pattern <:+: left ∨ pattern <:+: right := by
  cases space with
  | nil => exact absurd rfl spaced
  | cons c space =>
      obtain ⟨first, others⟩ := List.forall_mem_cons.mp blank
      have absent := blank_absent pattern solid c first
      rw [List.append_assoc, List.cons_append,
        infix_separated pattern left (space ++ right) c absent,
        infix_blanks pattern space right visible solid others]

theorem infix_words_from (pattern : List Char) (visible : pattern ≠ [])
    (solid : ∀ c ∈ pattern, isBlank c = false) (rest run : List Char) :
    pattern <:+: run.reverse ++ rest ↔ ∃ word ∈ wordsFrom rest run, pattern <:+: word := by
  induction rest generalizing run with
  | nil =>
      cases run with
      | nil => simp [wordsFrom, visible]
      | cons c run => simp [wordsFrom]
  | cons c rest ih =>
      by_cases blank : isBlank c = true
      · have absent := blank_absent pattern solid c blank
        have remaining := ih []
        rw [List.reverse_nil, List.nil_append] at remaining
        rw [infix_separated pattern run.reverse rest c absent, remaining, wordsFrom, if_pos blank]
        cases run with
        | nil => simp [visible]
        | cons d run => simp
      · have longer := ih (c :: run)
        rw [List.reverse_cons, List.append_assoc, List.singleton_append] at longer
        rw [longer, wordsFrom, if_neg blank]

theorem infix_words (pattern text : List Char) (visible : pattern ≠ [])
    (solid : ∀ c ∈ pattern, isBlank c = false) :
    pattern <:+: text ↔ ∃ word ∈ words text, pattern <:+: word :=
  infix_words_from pattern visible solid text []

-- White space, a word that reaches up to the next white space or to the end, and so on.
inductive Worded : List Char → List (List Char) → Prop
  | done (space : List Char) (gap : ∀ c ∈ space, isBlank c = true) : Worded space []
  | word (space word rest : List Char) (others : List (List Char))
      (gap : ∀ c ∈ space, isBlank c = true) (visible : word ≠ [])
      (solid : ∀ c ∈ word, isBlank c = false) (ends : rest.head?.all isBlank = true)
      (following : Worded rest others) : Worded (space ++ word ++ rest) (word :: others)

theorem words_from_separated (a b run : List Char) (c : Char) (blank : isBlank c = true) :
    wordsFrom (a ++ c :: b) run = wordsFrom a run ++ words b := by
  induction a generalizing run with
  | nil =>
      rw [List.nil_append, wordsFrom.eq_2, if_pos blank, wordsFrom.eq_1, words]
      cases run <;> rfl
  | cons d a ih =>
      rw [List.cons_append, wordsFrom, wordsFrom]
      by_cases cut : isBlank d = true
      · rw [if_pos cut, if_pos cut, ih]
        cases run <;> rfl
      · rw [if_neg cut, if_neg cut, ih]

theorem words_separated (a b : List Char) (c : Char) (blank : isBlank c = true) :
    words (a ++ c :: b) = words a ++ words b :=
  words_from_separated a b [] c blank

theorem words_behind_gap (space rest : List Char) (blank : ∀ c ∈ space, isBlank c = true) :
    words (space ++ rest) = words rest := by
  induction space with
  | nil => rfl
  | cons c space ih =>
      obtain ⟨first, others⟩ := List.forall_mem_cons.mp blank
      have separated := words_separated [] (space ++ rest) c first
      rw [List.nil_append] at separated
      rw [List.cons_append, separated, ih others]
      rfl

theorem words_blank (space : List Char) (blank : ∀ c ∈ space, isBlank c = true) :
    words space = [] := by
  have behind := words_behind_gap space [] blank
  rwa [List.append_nil] at behind

theorem words_before_gap (text space : List Char) (blank : ∀ c ∈ space, isBlank c = true) :
    words (text ++ space) = words text := by
  cases space with
  | nil => rw [List.append_nil]
  | cons c space =>
      obtain ⟨first, others⟩ := List.forall_mem_cons.mp blank
      rw [words_separated text space c first, words_blank space others, List.append_nil]

theorem words_from_solid (word run : List Char) (solid : ∀ c ∈ word, isBlank c = false) :
    wordsFrom word run = wordsFrom [] (word.reverse ++ run) := by
  induction word generalizing run with
  | nil => rfl
  | cons c word ih =>
      obtain ⟨first, others⟩ := List.forall_mem_cons.mp solid
      rw [wordsFrom.eq_2, if_neg (by simp [first]), ih (c :: run) others, List.reverse_cons,
        List.append_assoc, List.singleton_append]

theorem words_solid (word : List Char) (visible : word ≠ [])
    (solid : ∀ c ∈ word, isBlank c = false) : words word = [word] := by
  rw [words, words_from_solid word [] solid, wordsFrom, List.append_nil,
    if_neg (by simp [visible]), List.reverse_reverse]

theorem words_first (word rest : List Char) (visible : word ≠ [])
    (solid : ∀ c ∈ word, isBlank c = false) (ends : rest.head?.all isBlank = true) :
    words (word ++ rest) = word :: words rest := by
  have alone := words_solid word visible solid
  cases rest with
  | nil => rw [List.append_nil, alone]; rfl
  | cons c rest =>
      have blank : isBlank c = true := by simpa using ends
      have behind := words_separated [] rest c blank
      rw [List.nil_append] at behind
      rw [words_separated word rest c blank, alone, behind]
      rfl

theorem words_of_worded (text : List Char) (listed : List (List Char))
    (worded : Worded text listed) : words text = listed := by
  induction worded with
  | done space gap => exact words_blank space gap
  | word space word rest others gap visible solid ends following ih =>
      rw [List.append_assoc, words_behind_gap space _ gap, words_first word rest visible solid ends,
        ih]

theorem worded_behind_gap (text : List Char) (listed : List (List Char)) (c : Char)
    (blank : isBlank c = true) (worded : Worded text listed) : Worded (c :: text) listed := by
  cases worded with
  | done _ gap => exact .done (c :: text) (List.forall_mem_cons.mpr ⟨blank, gap⟩)
  | word space word rest others gap visible solid ends following =>
      exact .word (c :: space) word rest others (List.forall_mem_cons.mpr ⟨blank, gap⟩) visible solid
        ends following

theorem worded_from (rest run : List Char) (solid : ∀ c ∈ run, isBlank c = false) :
    Worded (run.reverse ++ rest) (wordsFrom rest run) := by
  have nothing : ∀ c ∈ ([] : List Char), isBlank c = true :=
    fun c listed => absurd listed List.not_mem_nil
  induction rest generalizing run with
  | nil =>
      cases run with
      | nil => exact .done [] nothing
      | cons d run =>
          exact .word [] (d :: run).reverse [] [] nothing (by simp)
            (fun c listed => solid c (List.mem_reverse.mp listed)) rfl (.done [] nothing)
  | cons c rest ih =>
      by_cases blank : isBlank c = true
      · have following := worded_behind_gap rest _ c blank
          (ih [] (fun d listed => absurd listed List.not_mem_nil))
        rw [wordsFrom, if_pos blank]
        cases run with
        | nil => exact following
        | cons d run =>
            exact .word [] (d :: run).reverse (c :: rest) _ nothing (by simp)
              (fun c listed => solid c (List.mem_reverse.mp listed)) (by simp [blank]) following
      · have worded := ih (c :: run) (List.forall_mem_cons.mpr ⟨by simpa using blank, solid⟩)
        rw [List.reverse_cons, List.append_assoc, List.singleton_append] at worded
        rwa [wordsFrom, if_neg blank]

theorem words_iff (text : List Char) (listed : List (List Char)) :
    words text = listed ↔ Worded text listed := by
  constructor
  · rintro rfl
    exact worded_from text [] (fun c listed => absurd listed List.not_mem_nil)
  · exact words_of_worded text listed

theorem words_nil_iff (text : List Char) : words text = [] ↔ ∀ c ∈ text, isBlank c = true := by
  constructor
  · intro nothing
    cases (words_iff text []).mp nothing with
    | done _ gap => exact gap
  · exact words_blank text

end Proofread.Text
