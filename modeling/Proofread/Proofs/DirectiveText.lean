import Proofread.Lint.Pipeline
import Proofread.Proofs.Words

set_option autoImplicit false

namespace Proofread.Lint

open Text (isBlank trim words)

def closing : List Char :=
  "-->".toList

def SingleComment (text : List Char) : Prop :=
  (∃ before, text = before ++ closing) ∧
    ∀ before after, text = before ++ closing ++ after → after = []

def Opening (text : List Char) : Prop :=
  ∃ gap space, text = "<!--".toList ++ gap ++ "lint".toList ++ space ∧
    (∀ c ∈ gap, isBlank c = true) ∧ (∀ c ∈ space, isBlank c = true) ∧ space ≠ []

theorem drop_lead_iff (lead text rest : List Char) :
    dropLead? lead text = some rest ↔ text = lead ++ rest := by
  rw [dropLead?]
  by_cases leads : text.take lead.length = lead
  · rw [if_pos leads, Option.some.injEq]
    constructor
    · intro dropped
      rw [← dropped]
      exact (leads ▸ List.take_append_drop lead.length text).symm
    · intro whole
      rw [whole, List.drop_left]
  · rw [if_neg leads]
    simp only [reduceCtorEq, false_iff]
    intro whole
    exact leads (by rw [whole, List.take_left])

theorem drop_tail_iff (tail text before : List Char) :
    dropTail? tail text = some before ↔ text = before ++ tail := by
  rw [dropTail?, Option.map_eq_some_iff]
  constructor
  · rintro ⟨reversed, dropped, rfl⟩
    have whole := congrArg List.reverse ((drop_lead_iff _ _ _).mp dropped)
    simpa using whole
  · intro whole
    exact ⟨before.reverse, (drop_lead_iff _ _ _).mpr (by simp [whole]), List.reverse_reverse before⟩

theorem drop_blanks (space rest : List Char) (blank : ∀ c ∈ space, isBlank c = true)
    (solid : rest.head?.any isBlank = false) : (space ++ rest).dropWhile isBlank = rest := by
  rw [List.dropWhile_append_of_pos blank]
  cases rest with
  | nil => rfl
  | cons c rest =>
      have visible : isBlank c = false := by simpa using solid
      rw [List.dropWhile_cons, if_neg (by simp [visible])]

theorem blanks_before (text : List Char) : ∀ c ∈ text.takeWhile isBlank, isBlank c = true :=
  List.all_eq_true.mp List.all_takeWhile

theorem solid_after (text : List Char) : (text.dropWhile isBlank).head?.any isBlank = false := by
  have stopped := List.head?_dropWhile_not isBlank text
  cases first : (text.dropWhile isBlank).head? with
  | none => rfl
  | some c => simpa [first] using stopped

theorem head_before_closing (body : List Char) :
    (body ++ closing).head?.any isBlank = body.head?.any isBlank := by
  cases body <;> rfl

-- A body is what stands between the opening with all its white space and the last `-->`.
theorem directive_body_iff (text body : List Char) :
    directiveBody? text = some body ↔
      body.head?.any isBlank = false ∧
        ∃ opening, Opening opening ∧ trim text = opening ++ body ++ closing := by
  rw [directiveBody?]
  simp only [Option.bind_eq_bind, Option.bind_eq_some_iff, drop_lead_iff]
  constructor
  · rintro ⟨inside, whole, after, named, read⟩
    by_cases spaced : after.head?.any isBlank = true
    · rw [if_pos spaced, drop_tail_iff] at read
      have solid := solid_after after
      rw [read] at solid
      refine ⟨(head_before_closing body).symm.trans solid, _, ⟨inside.takeWhile isBlank,
        after.takeWhile isBlank, rfl, blanks_before inside, blanks_before after, ?_⟩, ?_⟩
      · cases after with
        | nil => cases spaced
        | cons c after =>
            have first : isBlank c = true := by simpa using spaced
            simp [first]
      · have gap := List.takeWhile_append_dropWhile (p := isBlank) (l := inside)
        have space := List.takeWhile_append_dropWhile (p := isBlank) (l := after)
        rw [named] at gap
        rw [read] at space
        calc trim text = "<!--".toList ++ inside := whole
          _ = "<!--".toList ++ (inside.takeWhile isBlank ++ ("lint".toList ++ after)) := by
              rw [gap]
          _ = "<!--".toList ++ (inside.takeWhile isBlank ++ ("lint".toList ++
                (after.takeWhile isBlank ++ (body ++ closing)))) := by
              rw [closing, space]
          _ = _ := by simp only [List.append_assoc, closing]
    · rw [if_neg spaced] at read
      cases read
  · rintro ⟨solid, opening, ⟨gap, space, rfl, gapBlank, spaceBlank, spaced⟩, whole⟩
    refine ⟨gap ++ ("lint".toList ++ (space ++ (body ++ closing))), by simp [whole],
      space ++ (body ++ closing), ?_, ?_⟩
    · exact drop_blanks gap _ gapBlank rfl
    · rw [drop_blanks space _ spaceBlank (by rw [head_before_closing, solid]), if_pos]
      · exact (drop_tail_iff _ _ _).mpr rfl
      · cases space with
        | nil => exact absurd rfl spaced
        | cons c space => simpa using (List.forall_mem_cons.mp spaceBlank).1

theorem closing_solid : ∀ c ∈ closing, isBlank c = false := by
  intro c listed
  have among : c = '-' ∨ c = '>' := by simpa [closing] using listed
  rcases among with rfl | rfl
  · rfl
  · rfl

-- A mark that begins inside the last one would have `>` where that one has `-`.
theorem overlap_of_closing (reach after : List Char) (cut : closing ++ after = reach ++ closing) :
    after = [] ∨ closing <:+: reach := by
  match reach with
  | [] => exact Or.inl (List.append_right_eq_self.mp cut)
  | [c] => simp [closing] at cut
  | [c, d] => simp [closing] at cut
  | c :: d :: e :: reach =>
      simp only [closing, String.reduceToList, List.cons_append, List.cons.injEq] at cut
      obtain ⟨rfl, rfl, rfl, _⟩ := cut
      exact Or.inr ⟨[], reach, rfl⟩

theorem single_comment_iff (before : List Char) :
    SingleComment (before ++ closing) ↔ ¬ closing <:+: before := by
  constructor
  · rintro ⟨_, first⟩ ⟨left, right, inside⟩
    have rest := first left (right ++ closing) (by rw [← inside]; simp)
    exact absurd (List.append_eq_nil_iff.mp rest).2 (by decide)
  · intro absent
    refine ⟨⟨before, rfl⟩, ?_⟩
    intro left right whole
    rw [List.append_assoc, List.append_eq_append_iff] at whole
    rcases whole with ⟨reach, _, cut⟩ | ⟨reach, beforeEq, cut⟩
    · have lengths := congrArg List.length cut
      simp only [List.length_append] at lengths
      exact List.eq_nil_of_length_eq_zero (by omega)
    · rcases overlap_of_closing reach right cut with ended | inside
      · exact ended
      · exact absurd (inside.trans ⟨left, [], by simp [beforeEq]⟩) absent

theorem opening_transparent (opening body : List Char) (opens : Opening opening) :
    closing <:+: opening ++ body ↔ closing <:+: body := by
  obtain ⟨gap, space, rfl, gapBlank, spaceBlank, spaced⟩ := opens
  have lead : ¬ closing <:+: "<!--".toList ++ gap ++ "lint".toList := by
    by_cases joined : gap = []
    · rw [joined]
      decide
    · rw [Text.infix_gap closing _ gap _ (by decide) closing_solid gapBlank joined]
      decide
  rw [Text.infix_gap closing _ space _ (by decide) closing_solid spaceBlank spaced,
    or_iff_right lead]

theorem single_comment_of_body (text body : List Char) (read : directiveBody? text = some body) :
    SingleComment (trim text) ↔ ¬ ∃ word ∈ words body, closing <:+: word := by
  obtain ⟨_, opening, opens, whole⟩ := (directive_body_iff text body).mp read
  rw [whole, single_comment_iff, opening_transparent opening body opens,
    Text.infix_words closing body (by decide) closing_solid]

-- A further `-->` stands between the opening of a directive and its last `-->`.
def Straddles (text : List Char) : Prop :=
  ∃ opening body, Opening opening ∧ text = opening ++ body ++ closing ∧ closing <:+: body

theorem opening_extends (opening space : List Char) (opens : Opening opening)
    (blank : ∀ c ∈ space, isBlank c = true) : Opening (opening ++ space) := by
  obtain ⟨gap, first, rfl, gapBlank, firstBlank, spaced⟩ := opens
  refine ⟨gap, first ++ space, by simp only [List.append_assoc], gapBlank, ?_,
    List.append_ne_nil_of_left_ne_nil spaced space⟩
  intro c listed
  rcases List.mem_append.mp listed with inFirst | inSpace
  · exact firstBlank c inFirst
  · exact blank c inSpace

-- White space at the start of what stands between belongs to the opening.
theorem body_of_cut (text opening body : List Char) (opens : Opening opening)
    (whole : trim text = opening ++ body ++ closing) :
    directiveBody? text = some (body.dropWhile isBlank) := by
  have cut := List.takeWhile_append_dropWhile (p := isBlank) (l := body)
  refine (directive_body_iff text _).mpr ⟨solid_after body, _,
    opening_extends opening _ opens (blanks_before body), ?_⟩
  rw [whole, List.append_assoc opening (body.takeWhile isBlank), cut]

theorem straddles_iff (text : List Char) :
    Straddles (trim text) ↔
      ∃ body, directiveBody? text = some body ∧ ∃ word ∈ words body, closing <:+: word := by
  have inWord := fun body => Text.infix_words closing body (by decide) closing_solid
  constructor
  · rintro ⟨opening, body, opens, whole, inside⟩
    have cut := List.takeWhile_append_dropWhile (p := isBlank) (l := body)
    refine ⟨body.dropWhile isBlank, body_of_cut text opening body opens whole, ?_⟩
    rw [← cut, Text.infix_blanks closing _ _ (by decide) closing_solid (blanks_before body)]
      at inside
    exact (inWord _).mp inside
  · rintro ⟨body, read, inside⟩
    obtain ⟨_, opening, opens, whole⟩ := (directive_body_iff text body).mp read
    exact ⟨opening, body, opens, whole, (inWord body).mpr inside⟩

def Keyword.word : Keyword → String
  | .enable => "enable"
  | .disable => "disable"
  | .ignore => "ignore"

theorem keyword_of_word (word : String) (keyword : Keyword)
    (named : Keyword.ofWord? word = some keyword) : word = keyword.word := by
  rw [Keyword.ofWord?] at named
  by_cases enables : word = "enable"
  · rw [if_pos enables] at named
    cases named
    exact enables
  · rw [if_neg enables] at named
    by_cases disables : word = "disable"
    · rw [if_pos disables] at named
      cases named
      exact disables
    · rw [if_neg disables] at named
      by_cases ignores : word = "ignore"
      · rw [if_pos ignores] at named
        cases named
        exact ignores
      · rw [if_neg ignores] at named
        cases named

theorem keyword_whole (keyword : Keyword) : ¬ closing <:+: keyword.word.toList := by
  intro inside
  have dash : '-' ∈ keyword.word.toList := inside.mem (by decide)
  cases keyword <;> simp [Keyword.word] at dash

namespace Comment

def readWords : Comment → List String
  | ordinary => []
  | directive d => d.keyword.word :: d.rules
  | unknownKeyword word => [word]

theorem read_words_directive (listed : List String) (d : Directive)
    (read : ofWords listed = directive d) : listed = d.keyword.word :: d.rules := by
  cases listed with
  | nil => cases read
  | cons word rules =>
      rw [ofWords] at read
      cases named : Keyword.ofWord? word with
      | none => rw [named] at read; cases read
      | some keyword =>
          rw [named] at read
          cases read
          rw [keyword_of_word word keyword named]

theorem read_words_prefix (listed : List String) : (ofWords listed).readWords <+: listed := by
  cases read : ofWords listed with
  | ordinary => exact List.nil_prefix
  | directive d => exact (read_words_directive listed d read ▸ List.prefix_refl _)
  | unknownKeyword word =>
      cases listed with
      | nil => cases read
      | cons first rules =>
          rw [ofWords] at read
          cases named : Keyword.ofWord? first with
          | none =>
              rw [named] at read
              cases read
              exact ⟨rules, rfl⟩
          | some keyword => rw [named] at read; cases read

theorem of_words_ordinary (listed : List String) : ofWords listed = ordinary ↔ listed = [] := by
  cases listed with
  | nil => exact ⟨fun _ => rfl, fun _ => rfl⟩
  | cons word rules =>
      rw [ofWords]
      cases Keyword.ofWord? word <;> simp

theorem of_html_body (value : String) (body : List Char)
    (read : directiveBody? value.toList = some body) :
    ofHtml value = ofWords ((words body).map String.ofList) := by
  rw [ofHtml, read]

theorem body_of_html (value : String) (read : ofHtml value ≠ ordinary) :
    ∃ body, directiveBody? value.toList = some body := by
  cases cut : directiveBody? value.toList with
  | none => exact absurd (by rw [ofHtml, cut]) read
  | some body => exact ⟨body, rfl⟩

end Comment

theorem straddling_is_read (value : String) :
    (Comment.ofHtml value ≠ .ordinary ∧ ¬ SingleComment (trim value.toList)) ↔
      Straddles (trim value.toList) := by
  rw [straddles_iff]
  constructor
  · rintro ⟨read, severed⟩
    obtain ⟨body, cut⟩ := Comment.body_of_html value read
    rw [single_comment_of_body value.toList body cut] at severed
    exact ⟨body, cut, Classical.not_not.mp severed⟩
  · rintro ⟨body, cut, word, listed, inside⟩
    constructor
    · rw [Comment.of_html_body value body cut, Ne, Comment.of_words_ordinary, List.map_eq_nil_iff]
      exact List.ne_nil_of_mem listed
    · rw [single_comment_of_body value.toList body cut]
      exact fun whole => whole ⟨word, listed, inside⟩

theorem single_comment_words (value : String) (single : SingleComment (trim value.toList)) :
    ∀ word ∈ (Comment.ofHtml value).readWords, ¬ closing <:+: word.toList := by
  intro word reads
  cases cut : directiveBody? value.toList with
  | none =>
      rw [Comment.ofHtml, cut] at reads
      cases reads
  | some body =>
      rw [Comment.of_html_body value body cut] at reads
      obtain ⟨chars, listed, rfl⟩ := List.mem_map.mp ((Comment.read_words_prefix _).mem reads)
      rw [String.toList_ofList]
      intro inside
      exact (single_comment_of_body value.toList body cut).mp single ⟨chars, listed, inside⟩

theorem single_comment_rules (value : String) (d : Directive)
    (read : Comment.ofHtml value = .directive d) :
    SingleComment (trim value.toList) ↔ ∀ rule ∈ d.rules, ¬ closing <:+: rule.toList := by
  constructor
  · intro single rule listed
    refine single_comment_words value single rule ?_
    rw [read]
    exact List.mem_cons_of_mem _ listed
  · intro whole
    obtain ⟨body, cut⟩ := Comment.body_of_html value (by rw [read]; simp)
    rw [Comment.of_html_body value body cut] at read
    have all := Comment.read_words_directive _ d read
    rw [single_comment_of_body value.toList body cut]
    rintro ⟨chars, listed, inside⟩
    have named : String.ofList chars ∈ d.keyword.word :: d.rules :=
      all ▸ List.mem_map_of_mem listed
    rcases List.mem_cons.mp named with keyword | rule
    · rw [← String.toList_ofList (l := chars), keyword] at inside
      exact keyword_whole d.keyword inside
    · exact whole _ rule (by rwa [String.toList_ofList])

-- What is read of a value keeps within one comment exactly if nothing straddles; and a directive
-- straddles exactly if one of its rules does.
theorem comment_read_across (value : String) :
    ((Comment.ofHtml value ≠ .ordinary ∧ ¬ SingleComment (trim value.toList)) ↔
        Straddles (trim value.toList)) ∧
      (SingleComment (trim value.toList) →
        ∀ word ∈ (Comment.ofHtml value).readWords, ¬ closing <:+: word.toList) ∧
      ∀ d, Comment.ofHtml value = .directive d →
        (SingleComment (trim value.toList) ↔ ∀ rule ∈ d.rules, ¬ closing <:+: rule.toList) :=
  ⟨straddling_is_read value, single_comment_words value, single_comment_rules value⟩

def sideBySide : Node :=
  .leaf (.html "<!--lint disable--><!--lint enable-->") (some ⟨⟨1, 1, 0⟩, ⟨1, 38, 37⟩⟩)

theorem two_comments_read_as_one :
    (Comment.ofHtml "<!--lint disable no-tabs--> <!-- see above -->" =
        .directive ⟨.disable, ["no-tabs-->", "<!--", "see", "above"]⟩ ∧
      ¬ SingleComment (trim "<!--lint disable no-tabs--> <!-- see above -->".toList)) ∧
    (Comment.ofHtml "<!--lint disable--><!--lint enable-->" =
        .unknownKeyword "disable--><!--lint" ∧
      ¬ SingleComment (trim "<!--lint disable--><!--lint enable-->".toList)) ∧
    Pipeline.empty.processTree ⟨.root, none, [sideBySide]⟩ ⟨none, "", []⟩ =
      .processingFailure ⟨"lint", unknownKeywordReason "disable--><!--lint", some "marklint",
        some ⟨⟨1, 1, 0⟩, ⟨1, 38, 37⟩⟩, ⟨none, "", []⟩⟩ := by
  refine ⟨⟨by decide +kernel, ?_⟩, ⟨by decide +kernel, ?_⟩, by decide +kernel⟩
  · rintro ⟨_, first⟩
    have nothing := first "<!--lint disable no-tabs".toList " <!-- see above -->".toList
      (by decide +kernel)
    exact absurd nothing (by decide)
  · rintro ⟨_, first⟩
    have nothing := first "<!--lint disable".toList "<!--lint enable-->".toList
      (by decide +kernel)
    exact absurd nothing (by decide)

end Proofread.Lint
