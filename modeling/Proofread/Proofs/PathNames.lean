import Mathlib.Data.List.Infix
import Proofread.Files.View

set_option autoImplicit false

namespace Proofread.Files

theorem split_slashes_split (text : List Char) : splitSlashes text = text.splitOn '/' := by
  induction text with
  | nil => rfl
  | cons c rest ih =>
      rw [splitSlashes, ih, List.splitOn_cons_eq_if_modifyHead]
      by_cases slash : c = '/'
      · simp [slash]
      · rw [if_neg slash, if_neg (by simpa using slash)]
        cases split : rest.splitOn '/' with
        | nil => exact absurd split (List.splitOn_ne_nil _ _)
        | cons name names => rfl

theorem split_slashes_free (text : List Char) : ∀ name ∈ splitSlashes text, '/' ∉ name := by
  induction text with
  | nil => simp [splitSlashes]
  | cons c rest ih =>
      rw [splitSlashes]
      by_cases slash : c = '/'
      · simpa [slash] using ih
      · rw [if_neg slash]
        cases split : splitSlashes rest with
        | nil => simpa using Ne.symm slash
        | cons name names =>
            rw [split] at ih
            simpa [Ne.symm slash] using ih

theorem path_names_ne_nil (path : String) : pathNames path ≠ [] := by
  rw [pathNames, split_slashes_split]
  simp

theorem path_names_free (path : String) : ∀ name ∈ pathNames path, '/' ∉ name.toList := by
  intro name listed
  obtain ⟨chars, among, rfl⟩ := List.mem_map.mp listed
  rw [String.toList_ofList]
  exact split_slashes_free path.toList chars among

theorem path_names_join (names : List String) (visible : names ≠ [])
    (free : ∀ name ∈ names, '/' ∉ name.toList) : pathNames ("/".intercalate names) = names := by
  have slash : "/".toList = ['/'] := rfl
  rw [pathNames, split_slashes_split, String.toList_intercalate, slash,
    List.splitOn_intercalate '/' (by simpa using free) (by simpa using visible), List.map_map]
  simp [Function.comp_def]

theorem path_names_text (path : String) : "/".intercalate (pathNames path) = path := by
  have slash : "/".toList = ['/'] := rfl
  rw [← String.toList_inj, String.toList_intercalate, slash, pathNames, List.map_map,
    split_slashes_split]
  simp [Function.comp_def, List.intercalate_splitOn]

theorem path_names_single (name : String) (free : '/' ∉ name.toList) : pathNames name = [name] := by
  rw [pathNames, split_slashes_split, List.splitOn_eq_singleton free]
  simp

theorem path_names_behind (directory name : String) (free : '/' ∉ name.toList) :
    pathNames (directory ++ "/" ++ name) = pathNames directory ++ [name] := by
  have text : (directory ++ "/" ++ name).toList = directory.toList ++ '/' :: name.toList := by simp
  rw [pathNames, text, split_slashes_split, List.splitOn_append_cons_self,
    List.splitOn_eq_singleton free, List.map_append, ← split_slashes_split]
  simp [pathNames]

theorem path_names_closed (directory : String) (closed : directory.toList.getLast? = some '/') :
    ∃ names, pathNames directory = names ++ [""] ∧
      ∀ name : String, '/' ∉ name.toList → pathNames (directory ++ name) = names ++ [name] := by
  obtain ⟨front, text⟩ := List.getLast?_eq_some_iff.mp closed
  have split : directory = String.ofList front ++ "/" := by
    rw [← String.toList_inj, text]
    simp
  refine ⟨pathNames (String.ofList front), ?_, fun name free => ?_⟩
  · have empty := path_names_behind (String.ofList front) "" (by simp)
    rwa [String.append_empty, ← split] at empty
  · rw [split]
    exact path_names_behind (String.ofList front) name free

theorem absolute_iff (path : String) :
    isAbsolute path = true ↔ ∃ name names, pathNames path = "" :: name :: names := by
  rw [isAbsolute, decide_eq_true_iff, pathNames, split_slashes_split]
  cases text : path.toList with
  | nil => simp
  | cons c rest =>
      rw [List.splitOn_cons_eq_if_modifyHead]
      by_cases slash : c = '/'
      · cases split : rest.splitOn '/' with
        | nil => exact absurd split (List.splitOn_ne_nil _ _)
        | cons name names => simp [slash]
      · cases split : rest.splitOn '/' with
        | nil => exact absurd split (List.splitOn_ne_nil _ _)
        | cons name names => simp [slash]

def counted : List String → List String
  | [] => []
  | name :: before => if countsAfter before name then name :: counted before else counted before

def components (path : String) : List String :=
  (counted (pathNames path).reverse).reverse

theorem named_counts (name : String) (before : List String) (visible : name ≠ "")
    (moves : name ≠ ".") : countsAfter before name = true := by
  simp [countsAfter, visible, moves]

theorem counted_trim (names : List String) : counted (trimNames names) = counted names := by
  induction names with
  | nil => rfl
  | cons name before ih =>
      rw [trimNames]
      by_cases counts : countsAfter before name = true
      · rw [if_pos counts]
      · rw [if_neg counts, counted, if_neg counts, ih]

theorem parents_of_trim (absolute : Bool) (names : List String) :
    parentsOf absolute (trimNames names) = parentsOf absolute names := by
  induction names with
  | nil => rfl
  | cons name before ih =>
      rw [trimNames]
      by_cases counts : countsAfter before name = true
      · rw [if_pos counts]
      · rw [if_neg counts, parentsOf, if_neg counts, ih]

theorem trim_suffix (names : List String) : trimNames names <:+ names := by
  induction names with
  | nil => exact List.suffix_refl []
  | cons name before ih =>
      rw [trimNames]
      by_cases counts : countsAfter before name = true
      · rw [if_pos counts]
      · rw [if_neg counts]
        exact ih.trans (List.suffix_cons name before)

theorem trim_visible (names before : List String) (name : String)
    (trimmed : trimNames names = name :: before) : name ≠ "" := by
  induction names with
  | nil => cases trimmed
  | cons first others ih =>
      rw [trimNames] at trimmed
      by_cases counts : countsAfter others first = true
      · rw [if_pos counts] at trimmed
        obtain ⟨rfl, rfl⟩ := List.cons.inj trimmed
        rw [countsAfter, Bool.and_eq_true, decide_eq_true_iff] at counts
        exact counts.1
      · rw [if_neg counts] at trimmed
        exact ih trimmed

-- Names in reverse order, at whose end stands an empty one exactly if the path is absolute.
structure Rooted (absolute : Bool) (names : List String) : Prop where
  free : ∀ name ∈ names, '/' ∉ name.toList
  top : ∀ name, names.getLast? = some name → (name = "" ↔ absolute = true)

theorem rooted_suffix (absolute : Bool) (names shorter : List String)
    (suffix : shorter <:+ names) (rooted : Rooted absolute names) : Rooted absolute shorter := by
  obtain ⟨others, rfl⟩ := suffix
  refine ⟨fun name listed => rooted.free name (List.mem_append_right others listed), ?_⟩
  intro name last
  refine rooted.top name ?_
  rw [List.getLast?_append, last, Option.some_or]

theorem path_rooted (path : String) (visible : path ≠ "") :
    Rooted (isAbsolute path) (pathNames path).reverse := by
  refine ⟨fun name listed => path_names_free path name (List.mem_reverse.mp listed), ?_⟩
  intro name first
  rw [List.getLast?_reverse] at first
  rw [absolute_iff]
  cases names : pathNames path with
  | nil => exact absurd names (path_names_ne_nil path)
  | cons own rest =>
      rw [names, List.head?_cons, Option.some.injEq] at first
      subst first
      cases rest with
      | nil =>
          refine iff_of_false ?_ (by simp)
          rintro rfl
          rw [← path_names_text path, names] at visible
          exact visible rfl
      | cons next rest => simp

section

variable (absolute : Bool) (names : List String) (rooted : Rooted absolute names)

include rooted

-- Either nothing but the top is left of the names, or the text has all that are left.
theorem rendered_names :
    (trimNames names = [] ∧
      renderNames absolute (trimNames names) = if absolute then "/" else "") ∨
    (pathNames (renderNames absolute (trimNames names)) = (trimNames names).reverse ∧
      isAbsolute (renderNames absolute (trimNames names)) = absolute) := by
  cases trimmed : trimNames names with
  | nil => exact Or.inl ⟨rfl, rfl⟩
  | cons name before =>
      have left : Rooted absolute (name :: before) := by
        rw [← trimmed]
        exact rooted_suffix absolute names _ (trim_suffix names) rooted
      have read : pathNames (renderNames absolute (name :: before)) = (name :: before).reverse :=
        path_names_join _ (by simp) fun own listed => left.free own (List.mem_reverse.mp listed)
      refine Or.inr ⟨read, ?_⟩
      rw [Bool.eq_iff_iff, absolute_iff, read]
      cases order : (name :: before).reverse with
      | nil => simp at order
      | cons top others =>
          have last : (name :: before).getLast? = some top := by
            rw [← List.head?_reverse, order, List.head?_cons]
          rw [← left.top top last]
          cases others with
          | nil =>
              have alone : name :: before = [top] := by
                rw [← List.reverse_reverse (name :: before), order, List.reverse_singleton]
              obtain ⟨rfl, _⟩ := List.cons.inj alone
              exact iff_of_false (by simp) (trim_visible names before name trimmed)
          | cons next rest => simp

theorem rendered_path :
    isAbsolute (renderNames absolute (trimNames names)) = absolute ∧
      components (renderNames absolute (trimNames names)) = (counted names).reverse ∧
      parents (renderNames absolute (trimNames names)) = parentsOf absolute names := by
  rw [← counted_trim names, ← parents_of_trim absolute names]
  rcases rendered_names absolute names rooted with ⟨empty, text⟩ | ⟨read, flag⟩
  · rw [text, empty]
    cases absolute <;> decide
  · rw [components, parents, read, flag, List.reverse_reverse]
    exact ⟨rfl, rfl, rfl⟩

end

theorem tails_front (names : List String) : names.tails = names :: names.tails.tail := by
  cases names <;> rfl

theorem parents_of_prefixes (absolute : Bool) (names : List String)
    (rooted : Rooted absolute names) :
    (parentsOf absolute names).map components = (counted names).tails.tail.map List.reverse ∧
      ∀ above ∈ parentsOf absolute names, isAbsolute above = absolute := by
  induction names with
  | nil => exact ⟨rfl, nofun⟩
  | cons name before ih =>
      have left := rooted_suffix absolute (name :: before) before (List.suffix_cons _ _) rooted
      obtain ⟨others, flags⟩ := ih left
      rw [parentsOf, counted]
      by_cases counts : countsAfter before name = true
      · obtain ⟨flag, own, _⟩ := rendered_path absolute before left
        rw [if_pos counts, if_pos counts, List.map_cons, own, others, List.tails_cons,
          List.tail_cons, tails_front (counted before), List.map_cons, List.tail_cons]
        refine ⟨rfl, fun above listed => ?_⟩
        rcases List.mem_cons.mp listed with rfl | higher
        · exact flag
        · exact flags above higher
      · rw [if_neg counts, if_neg counts]
        exact ⟨others, flags⟩

theorem parents_of_step (absolute : Bool) (names : List String) (rooted : Rooted absolute names)
    (above : String) (rest : List String) (up : parentsOf absolute names = above :: rest) :
    parents above = rest := by
  induction names with
  | nil => cases up
  | cons name before ih =>
      have left := rooted_suffix absolute (name :: before) before (List.suffix_cons _ _) rooted
      rw [parentsOf] at up
      by_cases counts : countsAfter before name = true
      · rw [if_pos counts] at up
        obtain ⟨rfl, rfl⟩ := List.cons.inj up
        exact (rendered_path absolute before left).2.2
      · rw [if_neg counts] at up
        exact ih left up

theorem directories_components (path : String) :
    (path :: parents path).map components = (components path).inits.reverse := by
  rw [List.inits_eq_tails, List.reverse_reverse, components, List.reverse_reverse, tails_front,
    List.map_cons, List.map_cons]
  by_cases visible : path = ""
  · subst visible
    decide
  · rw [parents, (parents_of_prefixes _ _ (path_rooted path visible)).1]
    rfl

theorem parents_absolute (path : String) :
    ∀ above ∈ parents path, isAbsolute above = isAbsolute path := by
  by_cases visible : path = ""
  · subst visible
    decide
  · exact (parents_of_prefixes _ _ (path_rooted path visible)).2

theorem parents_step (path above : String) (rest : List String)
    (up : parents path = above :: rest) : parents above = rest := by
  by_cases visible : path = ""
  · subst visible
    cases up
  · exact parents_of_step _ _ (path_rooted path visible) above rest up

theorem join_cases (directory name : String) :
    (directory = "" ∧ join directory name = name) ∨
    (directory.toList.getLast? = some '/' ∧ join directory name = directory ++ name) ∨
    (directory ≠ "" ∧ join directory name = directory ++ "/" ++ name) := by
  rw [join]
  split
  · next last =>
      rw [List.getLast?_eq_none_iff, String.toList_eq_nil_iff] at last
      exact Or.inl ⟨last, rfl⟩
  · next last => exact Or.inr (Or.inl ⟨last, rfl⟩)
  · next c other last =>
      refine Or.inr (Or.inr ⟨?_, rfl⟩)
      rintro rfl
      cases last

theorem absolute_behind (path more : String) (visible : path ≠ "") :
    isAbsolute (path ++ more) = isAbsolute path := by
  rw [isAbsolute, isAbsolute, String.toList_append]
  cases text : path.toList with
  | nil => exact absurd (String.toList_eq_nil_iff.mp text) visible
  | cons c rest => rfl

section

variable (directory name : String) (free : '/' ∉ name.toList)

include free

theorem join_absolute : isAbsolute (join directory name) = isAbsolute directory := by
  rcases join_cases directory name with ⟨rfl, joined⟩ | ⟨last, joined⟩ | ⟨visible, joined⟩
  · rw [joined, isAbsolute]
    refine decide_eq_false fun first => free ?_
    exact List.mem_of_mem_head? first
  · refine joined ▸ absolute_behind directory name ?_
    rintro rfl
    cases last
  · rw [joined, String.append_assoc]
    exact absolute_behind directory _ visible

theorem components_join (visible : name ≠ "") (moves : name ≠ ".") :
    components (join directory name) = components directory ++ [name] := by
  have added : ∀ names, (counted (names ++ [name]).reverse).reverse =
      (counted names.reverse).reverse ++ [name] := by
    intro names
    rw [List.reverse_concat, counted, if_pos (named_counts name _ visible moves), List.reverse_cons]
  rcases join_cases directory name with ⟨rfl, joined⟩ | ⟨last, joined⟩ | ⟨_, joined⟩
  · rw [joined, components, path_names_single name free]
    exact added []
  · obtain ⟨names, own, longer⟩ := path_names_closed directory last
    rw [joined, components, components, longer name free, own, added, List.reverse_concat, counted]
    rfl
  · rw [joined, components, path_names_behind directory name free, added]
    rfl

end

-- Each name leads somewhere, two dots like any other name.
def Named (names : List String) : Prop :=
  ∀ name ∈ names, name ≠ "" ∧ name ≠ "." ∧ '/' ∉ name.toList

def top (absolute : Bool) : List String :=
  if absolute then [""] else []

def spelled (absolute : Bool) (names : List String) : String :=
  (if absolute then "/" else "") ++ "/".intercalate names

theorem path_names_inj (a b : String) (same : pathNames a = pathNames b) : a = b := by
  rw [← path_names_text a, same, path_names_text]

theorem spelled_join (absolute : Bool) (names : List String) (some : names ≠ []) :
    spelled absolute names = "/".intercalate (top absolute ++ names) := by
  cases absolute with
  | false => exact String.empty_append
  | true =>
      have behind := String.intercalate_cons_of_ne_nil (s := "/") (t := "") some
      rw [String.empty_append] at behind
      exact behind.symm

theorem path_names_spelled (absolute : Bool) (names : List String) (named : Named names)
    (some : names ≠ []) : pathNames (spelled absolute names) = top absolute ++ names := by
  rw [spelled_join absolute names some, path_names_join _ (by simp [some])]
  intro name listed
  rcases List.mem_append.mp listed with top | own
  · cases absolute with
    | false => cases top
    | true =>
        rw [List.mem_singleton.mp top]
        simp
  · exact (named name own).2.2

theorem spelled_absolute (absolute : Bool) (names : List String) (named : Named names) :
    isAbsolute (spelled absolute names) = absolute := by
  cases names with
  | nil => cases absolute <;> decide
  | cons name rest =>
      rw [Bool.eq_iff_iff, absolute_iff, path_names_spelled absolute _ named (by simp)]
      have visible := (named name List.mem_cons_self).1
      cases absolute with
      | false => simp [top, visible]
      | true => simp [top]

theorem named_tail (name : String) (names : List String) (named : Named (name :: names)) :
    Named names :=
  fun own listed => named own (List.mem_cons_of_mem name listed)

theorem rendered_spelled (absolute : Bool) (names : List String) (named : Named names) :
    renderNames absolute (trimNames (names ++ top absolute)) = spelled absolute names.reverse := by
  cases names with
  | nil => cases absolute <;> decide
  | cons name before =>
      obtain ⟨visible, moves, _⟩ := named name List.mem_cons_self
      rw [spelled_join absolute _ (by simp), List.cons_append, trimNames,
        if_pos (named_counts name _ visible moves), renderNames]
      · cases absolute <;> simp [top]
      · simp

theorem parents_of_spelled (absolute : Bool) (names : List String) (named : Named names) :
    parentsOf absolute (names ++ top absolute) =
      names.tails.tail.map fun above => spelled absolute above.reverse := by
  induction names with
  | nil => cases absolute <;> decide
  | cons name before ih =>
      obtain ⟨visible, moves, _⟩ := named name List.mem_cons_self
      have others := named_tail name before named
      rw [List.cons_append, parentsOf, if_pos (named_counts name _ visible moves),
        rendered_spelled absolute before others, ih others, List.tails_cons, List.tail_cons,
        tails_front before, List.map_cons, List.tail_cons]

theorem directories_spelled (absolute : Bool) (names : List String) (named : Named names) :
    spelled absolute names :: parents (spelled absolute names) =
      names.inits.reverse.map (spelled absolute) := by
  cases names with
  | nil => cases absolute <;> decide
  | cons name rest =>
      have reversed : Named (name :: rest).reverse :=
        fun own listed => named own (List.mem_reverse.mp listed)
      have ends : (top absolute).reverse = top absolute := by
        cases absolute <;> rfl
      rw [parents, spelled_absolute absolute _ named,
        path_names_spelled absolute _ named (by simp), List.reverse_append, ends,
        parents_of_spelled absolute _ reversed, List.inits_eq_tails, List.reverse_reverse,
        tails_front (name :: rest).reverse, List.map_cons, List.map_cons, List.reverse_reverse,
        List.map_map, List.tail_cons]
      rfl

theorem join_spelled (absolute : Bool) (names : List String) (named : Named names) (name : String)
    (leads : Named [name]) :
    join (spelled absolute names) name = spelled absolute (names ++ [name]) := by
  obtain ⟨visible, _, free⟩ := leads name List.mem_cons_self
  cases names with
  | nil =>
      refine path_names_inj _ _ ?_
      rw [List.nil_append, path_names_spelled absolute [name] leads (by simp)]
      cases absolute with
      | false => exact path_names_single name free
      | true => exact path_names_behind "" name free
  | cons first rest =>
      have longer : Named (first :: rest ++ [name]) := by
        intro own listed
        rcases List.mem_append.mp listed with inner | last
        · exact named own inner
        · exact leads own last
      have read := path_names_spelled absolute (first :: rest) named (by simp)
      have solid : (pathNames (spelled absolute (first :: rest))).getLast? ≠ some "" := by
        rw [read, List.getLast?_append_of_ne_nil _ (by simp)]
        intro last
        exact (named "" (List.mem_of_getLast? last)).1 rfl
      refine path_names_inj _ _ ?_
      rw [path_names_spelled absolute _ longer (by simp)]
      rcases join_cases (spelled absolute (first :: rest)) name with
        ⟨empty, _⟩ | ⟨last, _⟩ | ⟨_, joined⟩
      · rw [empty] at solid
        exact absurd rfl solid
      · obtain ⟨others, closed, _⟩ := path_names_closed _ last
        rw [closed, List.getLast?_concat] at solid
        exact absurd rfl solid
      · rw [joined, path_names_behind _ name free, read, List.append_assoc]

end Proofread.Files
