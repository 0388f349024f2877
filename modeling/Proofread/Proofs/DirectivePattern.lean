import Mathlib.Data.List.Forall2
import Proofread.Proofs.DirectiveText

/-!
Directives as a pattern, `^<!--\s*lint\s+(.*?)\s*-->$`, where `\s` is white space and the dot any
character. The pieces of a pattern are tried one after the other, each in the order of its own
preference, and a choice is given up if the rest of the text does not match the rest of the pattern.
Here the preferences do not matter: whatever the runs around the group take, its words are those
between `lint` and the last `-->`.
-/

set_option autoImplicit false

namespace Proofread.Lint

open Text (isBlank trim words Worded)

-- A run consists of characters of one kind, and is as long or as short as the rest allows.
inductive Piece where
  | exact (lead : List Char)
  | longest (least : Nat) (kind : Char → Bool)
  | shortest (least : Nat) (kind : Char → Bool)

namespace Piece

-- The ways to cut off a run, the shortest run first.
def runs (kind : Char → Bool) : List Char → List (List Char × List Char)
  | [] => [([], [])]
  | c :: rest =>
      ([], c :: rest) ::
        if kind c then (runs kind rest).map fun cut => (c :: cut.1, cut.2) else []

def attempts (text : List Char) : Piece → List (List Char × List Char)
  | exact lead => ((dropLead? lead text).map fun rest => (lead, rest)).toList
  | longest least kind => ((runs kind text).filter fun cut => least ≤ cut.1.length).reverse
  | shortest least kind => (runs kind text).filter fun cut => least ≤ cut.1.length

def parts? : List Piece → List Char → Option (List (List Char))
  | [], [] => some []
  | [], _ :: _ => none
  | piece :: pieces, text =>
      (piece.attempts text).findSome? fun cut => (parts? pieces cut.2).map (cut.1 :: ·)

def Fits : Piece → List Char → Prop
  | exact lead, taken => taken = lead
  | longest least kind, taken => least ≤ taken.length ∧ ∀ c ∈ taken, kind c = true
  | shortest least kind, taken => least ≤ taken.length ∧ ∀ c ∈ taken, kind c = true

theorem runs_iff (kind : Char → Bool) (text taken rest : List Char) :
    (taken, rest) ∈ runs kind text ↔ text = taken ++ rest ∧ ∀ c ∈ taken, kind c = true := by
  induction text generalizing taken with
  | nil =>
      simp only [runs, List.mem_singleton, Prod.mk.injEq, List.nil_eq, List.append_eq_nil_iff]
      grind
  | cons c text ih =>
      -- The empty run is the first one, and the others begin with `c`.
      by_cases fits : kind c = true
      · simp only [runs, if_pos fits, List.mem_cons, List.mem_map, Prod.mk.injEq]
        cases taken <;> grind
      · simp only [runs, if_neg fits, List.mem_singleton, Prod.mk.injEq]
        cases taken <;> grind

theorem attempts_iff (piece : Piece) (text taken rest : List Char) :
    (taken, rest) ∈ piece.attempts text ↔ text = taken ++ rest ∧ piece.Fits taken := by
  cases piece with
  | exact lead =>
      simp only [attempts, Fits, Option.mem_toList, Option.map_eq_some_iff, drop_lead_iff,
        Prod.mk.injEq]
      grind
  | longest least kind =>
      simp only [attempts, Fits, List.mem_reverse, List.mem_filter, runs_iff, decide_eq_true_eq]
      grind
  | shortest least kind =>
      simp only [attempts, Fits, List.mem_filter, runs_iff, decide_eq_true_eq]
      grind

theorem parts_fit (pieces : List Piece) (text : List Char) (parts : List (List Char))
    (found : parts? pieces text = some parts) :
    parts.flatten = text ∧ List.Forall₂ Fits pieces parts := by
  induction pieces generalizing text parts with
  | nil =>
      cases text with
      | nil =>
          cases found
          exact ⟨rfl, .nil⟩
      | cons c text => cases found
  | cons piece pieces ih =>
      rw [parts?] at found
      obtain ⟨⟨taken, rest⟩, attempted, continued⟩ := List.exists_of_findSome?_eq_some found
      obtain ⟨others, matched, rfl⟩ := Option.map_eq_some_iff.mp continued
      obtain ⟨cut, fits⟩ := (attempts_iff piece text taken rest).mp attempted
      obtain ⟨whole, fit⟩ := ih rest others matched
      exact ⟨by rw [List.flatten_cons, whole, cut], .cons fits fit⟩

theorem parts_found (pieces : List Piece) (parts : List (List Char))
    (fit : List.Forall₂ Fits pieces parts) : (parts? pieces parts.flatten).isSome := by
  induction fit with
  | nil => rfl
  | @cons piece taken pieces parts fits fit ih =>
      have attempted := (attempts_iff piece (taken ++ parts.flatten) taken parts.flatten).mpr
        ⟨rfl, fits⟩
      rw [parts?, List.flatten_cons, List.findSome?_isSome_iff]
      exact ⟨_, attempted, by simpa using ih⟩

end Piece

def directivePattern : List Piece :=
  [.exact "<!--".toList, .longest 0 isBlank, .exact "lint".toList, .longest 1 isBlank,
    .shortest 0 fun _ => true, .longest 0 isBlank, .exact closing]

def directiveGroup? (text : List Char) : Option (List Char) :=
  (Piece.parts? directivePattern text).bind (·[4]?)

theorem directive_parts (parts : List (List Char)) :
    List.Forall₂ Piece.Fits directivePattern parts ↔
      ∃ gap space group trail,
        parts = ["<!--".toList, gap, "lint".toList, space, group, trail, closing] ∧
        (∀ c ∈ gap, isBlank c = true) ∧ (space ≠ [] ∧ ∀ c ∈ space, isBlank c = true) ∧
        ∀ c ∈ trail, isBlank c = true := by
  constructor
  · intro fit
    simp only [directivePattern, List.forall₂_cons_left_iff, List.forall₂_nil_left_iff,
      Piece.Fits] at fit
    obtain ⟨_, _, rfl, ⟨gap, _, ⟨_, gapBlank⟩, ⟨_, _, rfl, ⟨space, _, ⟨spaced, spaceBlank⟩, ⟨group, _,
      _, ⟨trail, _, ⟨_, trailBlank⟩, ⟨_, _, rfl, rfl, rfl⟩, rfl⟩, rfl⟩, rfl⟩, rfl⟩, rfl⟩, rfl⟩ := fit
    exact ⟨gap, space, group, trail, rfl, gapBlank,
      ⟨List.length_pos_iff.mp spaced, spaceBlank⟩, trailBlank⟩
  · rintro ⟨gap, space, group, trail, rfl, gapBlank, ⟨spaced, spaceBlank⟩, trailBlank⟩
    exact .cons rfl (.cons ⟨Nat.zero_le _, gapBlank⟩ (.cons rfl (.cons
      ⟨List.length_pos_iff.mpr spaced, spaceBlank⟩ (.cons ⟨Nat.zero_le _, fun _ _ => rfl⟩ (.cons
        ⟨Nat.zero_le _, trailBlank⟩ (.cons rfl .nil))))))

theorem group_read (text group : List Char) (found : directiveGroup? text = some group) :
    ∃ opening trail, Opening opening ∧ (∀ c ∈ trail, isBlank c = true) ∧
      text = opening ++ (group ++ trail) ++ closing := by
  obtain ⟨parts, matched, fourth⟩ := Option.bind_eq_some_iff.mp found
  obtain ⟨whole, fit⟩ := Piece.parts_fit directivePattern text parts matched
  obtain ⟨gap, space, captured, trail, rfl, gapBlank, ⟨spaced, spaceBlank⟩, trailBlank⟩ :=
    (directive_parts parts).mp fit
  obtain rfl : captured = group := by simpa using fourth
  refine ⟨_, trail, ⟨gap, space, rfl, gapBlank, spaceBlank, spaced⟩, trailBlank, ?_⟩
  rw [← whole]
  simp only [List.flatten_cons, List.flatten_nil, List.append_assoc, List.append_nil]

theorem group_exists (opening body : List Char) (opens : Opening opening) :
    ∃ group, directiveGroup? (opening ++ body ++ closing) = some group := by
  obtain ⟨gap, space, rfl, gapBlank, spaceBlank, spaced⟩ := opens
  have found := Piece.parts_found directivePattern _ ((directive_parts _).mpr
    ⟨gap, space, body, [], rfl, gapBlank, ⟨spaced, spaceBlank⟩,
      fun c listed => absurd listed List.not_mem_nil⟩)
  obtain ⟨parts, matched⟩ := Option.isSome_iff_exists.mp found
  have fit := (Piece.parts_fit directivePattern _ parts matched).2
  obtain ⟨_, _, group, _, rfl, _⟩ := (directive_parts parts).mp fit
  simp only [List.flatten_cons, List.flatten_nil, List.append_nil, List.nil_append] at matched
  refine ⟨group, ?_⟩
  simp only [List.append_assoc, directiveGroup?, matched]
  rfl

namespace Comment

def ofGroup : Option (List Char) → Comment
  | none => ordinary
  | some group => ofWords ((words group).map String.ofList)

theorem of_html_words (value : String) (opening body : List Char) (opens : Opening opening)
    (whole : trim value.toList = opening ++ body ++ closing) :
    ofHtml value = ofWords ((words body).map String.ofList) := by
  have cut := List.takeWhile_append_dropWhile (p := isBlank) (l := body)
  rw [of_html_body value _ (body_of_cut value.toList opening body opens whole),
    ← Text.words_behind_gap _ _ (blanks_before body), cut]

theorem of_html_cut (value : String) (read : ofHtml value ≠ ordinary) :
    ∃ opening body, Opening opening ∧ trim value.toList = opening ++ body ++ closing := by
  obtain ⟨body, cut⟩ := body_of_html value read
  obtain ⟨_, opening, opens, whole⟩ := (directive_body_iff _ _).mp cut
  exact ⟨opening, body, opens, whole⟩

theorem of_html_group (value : String) :
    ofHtml value = ofGroup (directiveGroup? (trim value.toList)) := by
  cases found : directiveGroup? (trim value.toList) with
  | some group =>
      obtain ⟨opening, trail, opens, blank, whole⟩ := group_read _ group found
      rw [of_html_words value opening _ opens whole, Text.words_before_gap group trail blank, ofGroup]
  | none =>
      by_contra read
      obtain ⟨opening, body, opens, whole⟩ := of_html_cut value read
      obtain ⟨group, matched⟩ := group_exists opening body opens
      rw [← whole, found] at matched
      cases matched

theorem of_words_keyword (keyword : Keyword) (rules : List String) :
    ofWords (keyword.word :: rules) = directive ⟨keyword, rules⟩ := by
  have named : Keyword.ofWord? keyword.word = some keyword := by cases keyword <;> rfl
  rw [ofWords, named]

theorem of_words_unknown (word : String) (rules : List String)
    (other : ∀ keyword : Keyword, word ≠ keyword.word) :
    ofWords (word :: rules) = unknownKeyword word := by
  rw [ofWords]
  cases named : Keyword.ofWord? word with
  | none => rfl
  | some keyword => exact absurd (keyword_of_word word keyword named) (other keyword)

theorem of_html_special (value : String) :
    ofHtml value ≠ ordinary ↔
      ∃ opening body, Opening opening ∧ trim value.toList = opening ++ body ++ closing ∧
        ∃ c ∈ body, isBlank c = false := by
  constructor
  · intro read
    obtain ⟨opening, body, opens, whole⟩ := of_html_cut value read
    refine ⟨opening, body, opens, whole, ?_⟩
    rw [of_html_words value opening body opens whole, Ne, of_words_ordinary,
      List.map_eq_nil_iff, Text.words_nil_iff] at read
    simpa using read
  · rintro ⟨opening, body, opens, whole, c, listed, solid⟩
    rw [of_html_words value opening body opens whole, Ne, of_words_ordinary,
      List.map_eq_nil_iff, Text.words_nil_iff]
    intro blank
    rw [blank c listed] at solid
    cases solid

end Comment

theorem directive_scanned (value : String) :
    Comment.ofHtml value = Comment.ofGroup (directiveGroup? (trim value.toList)) ∧
    (Comment.ofHtml value ≠ .ordinary ↔
      ∃ opening body, Opening opening ∧ trim value.toList = opening ++ body ++ closing ∧
        ∃ c ∈ body, isBlank c = false) ∧
    ∀ opening body, Opening opening → trim value.toList = opening ++ body ++ closing →
      (∃ c ∈ body, isBlank c = false) →
      ∃ first others, (∀ listed, Worded body listed ↔ listed = first :: others) ∧
        (∀ keyword : Keyword, first = keyword.word.toList →
          Comment.ofHtml value = .directive ⟨keyword, others.map String.ofList⟩) ∧
        ((∀ keyword : Keyword, first ≠ keyword.word.toList) →
          Comment.ofHtml value = .unknownKeyword (String.ofList first) ∧
          ∀ place next, Controls.ofNode (.html value) (some place) next =
            .error ⟨"Unknown keyword `" ++ String.ofList first ++
              "`: expected `'enable'`, `'disable'`, or `'ignore'`", place⟩) := by
  refine ⟨Comment.of_html_group value, Comment.of_html_special value, ?_⟩
  intro opening body opens whole ⟨c, inBody, solid⟩
  have read := Comment.of_html_words value opening body opens whole
  cases listed : words body with
  | nil =>
      rw [(Text.words_nil_iff body).mp listed c inBody] at solid
      cases solid
  | cons first others =>
      rw [listed, List.map_cons] at read
      refine ⟨first, others, ?_, ?_, ?_⟩
      · intro other
        rw [← Text.words_iff, listed, eq_comm]
      · intro keyword named
        rw [read, named, String.ofList_toList, Comment.of_words_keyword]
      · intro unnamed
        have unknown : Comment.ofHtml value = .unknownKeyword (String.ofList first) := by
          rw [read]
          apply Comment.of_words_unknown
          intro keyword same
          exact unnamed keyword (by rw [← same, String.toList_ofList])
        refine ⟨unknown, fun place next => ?_⟩
        rw [Controls.ofNode, unknown]
        rfl

def spreadComment : String :=
  "<!-- \nlint\t ignore no-tabs-\u2003a -->\n"

def spreadOpening : List Char :=
  "<!-- \nlint\t ".toList

def spreadBody : List Char :=
  "ignore no-tabs-\u2003a ".toList

def dashedBody : List Char :=
  "enable-".toList

theorem directive_scanned_dashes :
    (Opening spreadOpening ∧ trim spreadComment.toList = spreadOpening ++ spreadBody ++ closing ∧
      Comment.ofHtml spreadComment = .directive ⟨.ignore, ["no-tabs-", "a"]⟩) ∧
    Opening "<!--lint ".toList ∧
      trim "<!--lint enable--->".toList = "<!--lint ".toList ++ dashedBody ++ closing ∧
      Comment.ofHtml "<!--lint enable--->" = .unknownKeyword "enable-" := by
  have spreadOpens : Opening spreadOpening :=
    ⟨[' ', '\n'], ['\t', ' '], by decide, List.all_eq_true.mp rfl, List.all_eq_true.mp rfl,
      List.cons_ne_nil _ _⟩
  have opens : Opening "<!--lint ".toList :=
    ⟨[], [' '], by decide, List.all_eq_true.mp rfl, List.all_eq_true.mp rfl, List.cons_ne_nil _ _⟩
  have spreadWhole : trim spreadComment.toList = spreadOpening ++ spreadBody ++ closing := by decide
  have whole : trim "<!--lint enable--->".toList = "<!--lint ".toList ++ dashedBody ++ closing := by
    decide
  refine ⟨⟨spreadOpens, spreadWhole, ?_⟩, opens, whole, ?_⟩
  · obtain ⟨first, others, unique, named, _⟩ := (directive_scanned spreadComment).2.2 _ _
      spreadOpens spreadWhole ⟨'i', by decide, by decide⟩
    have read := (unique ["ignore".toList, "no-tabs-".toList, "a".toList]).mp
      ((Text.words_iff _ _).mp (by decide))
    obtain ⟨rfl, rfl⟩ := List.cons.inj read
    exact named .ignore rfl
  · obtain ⟨first, others, unique, _, unknown⟩ := (directive_scanned "<!--lint enable--->").2.2 _ _
      opens whole ⟨'e', by decide, by decide⟩
    have read := (unique ["enable-".toList]).mp ((Text.words_iff _ _).mp (by decide))
    obtain ⟨rfl, rfl⟩ := List.cons.inj read
    exact (unknown fun keyword => by cases keyword <;> decide).1

example : Comment.ofHtml "<!--lint-->" = .ordinary ∧
    Comment.ofHtml "<!-- lint \n -->" = .ordinary := by
  decide

end Proofread.Lint
