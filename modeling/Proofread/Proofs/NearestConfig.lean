import Proofread.Command.Check
import Proofread.Files.Tree
import Proofread.Proofs.DefaultConfig
import Proofread.Proofs.PathNames

set_option autoImplicit false

namespace Proofread

open Files (FileFault FileTree FileView)

theorem Files.FileTree.is_file_iff (tree : FileTree) (path : String) :
    tree.view.isFile path = true ↔ ∃ bytes, tree.resolve path = .ok (.file bytes) := by
  change tree.isFile path = true ↔ _
  rw [isFile]
  cases tree.resolve path with
  | error fault => simp
  | ok found => cases found <;> simp

namespace Lint.LintConfig

theorem candidates_components (root : String) :
    (candidates root).map Files.components =
      (Files.components root).inits.reverse.map (· ++ [fileName]) := by
  have joined : ∀ directory, Files.components (Files.join directory fileName) =
      Files.components directory ++ [fileName] := by
    intro directory
    exact Files.components_join directory fileName (by decide) (by decide) (by decide)
  rw [← Files.directories_components, candidates, List.map_map, List.map_map]
  exact List.map_congr_left fun directory _ => joined directory

theorem candidates_absolute (root : String) :
    ∀ place ∈ candidates root, Files.isAbsolute place = Files.isAbsolute root := by
  intro place listed
  obtain ⟨directory, above, rfl⟩ := List.mem_map.mp listed
  rw [Files.join_absolute directory fileName (by decide)]
  rcases List.mem_cons.mp above with rfl | higher
  · rfl
  · exact Files.parents_absolute root directory higher

theorem candidates_spelled (absolute : Bool) (names : List String) (named : Files.Named names) :
    candidates (Files.spelled absolute names) =
      names.inits.reverse.map fun above => Files.spelled absolute (above ++ [fileName]) := by
  have leads : Files.Named [fileName] := by
    rw [Files.Named, List.forall_mem_singleton]
    decide
  rw [candidates, Files.directories_spelled absolute names named, List.map_map]
  refine List.map_congr_left fun above listed => ?_
  have part : above <+: names := (List.mem_inits above names).mp (List.mem_reverse.mp listed)
  exact Files.join_spelled absolute above (fun name own => named name (part.subset own)) fileName
    leads

theorem find_nearest (view : FileView) (root path : String) :
    find? view root = some path ↔ ∃ nearer farther,
      candidates root = nearer ++ path :: farther ∧ view.isFile path = true ∧
        ∀ other ∈ nearer, view.isFile other = false := by
  rw [find?, List.find?_eq_some_iff_append]
  simp only [Bool.not_eq_true']
  constructor
  · rintro ⟨found, nearer, farther, split, others⟩
    exact ⟨nearer, farther, split, found, others⟩
  · rintro ⟨nearer, farther, split, found, others⟩
    exact ⟨found, nearer, farther, split, others⟩

theorem find_nothing (view : FileView) (root : String) :
    find? view root = none ↔ ∀ place ∈ candidates root, view.isFile place = false := by
  rw [find?, List.find?_eq_none]
  simp only [Bool.not_eq_true]

-- The search as a climb: it looks into a directory, and if nothing is there goes on one above.
theorem find_climbs (view : FileView) (root : String) :
    find? view root =
      if view.isFile (Files.join root fileName) = true then some (Files.join root fileName)
      else (Files.parents root).head?.bind (find? view) := by
  rw [find?, candidates, List.map_cons]
  by_cases here : view.isFile (Files.join root fileName) = true
  · rw [List.find?_cons_of_pos here, if_pos here]
  · rw [List.find?_cons_of_neg here, if_neg here]
    cases up : Files.parents root with
    | nil => rfl
    | cons above rest =>
        rw [List.head?_cons, Option.bind_some, find?, candidates,
          Files.parents_step root above rest up]

inductive Holds (view : FileView) (path : String) : LintConfig → Prop where
  | blank (contents : String) (read : view.read path = .ok contents)
      (nothing : (Text.trimString contents).isEmpty = true) : Holds view path .empty
  | written (contents : String) (config : LintConfig) (read : view.read path = .ok contents)
      (visible : (Text.trimString contents).isEmpty = false)
      (decoded : Yaml.decode decode contents = .ok config) : Holds view path config

inductive Unusable (view : FileView) (path : String) : LintError → Prop where
  | missing (unread : view.read path = .error .notFound) : Unusable view path (.configNotFound path)
  | unreadable (fault : FileFault) (there : fault ≠ .notFound)
      (unread : view.read path = .error fault) : Unusable view path (.file fault)
  | malformed (contents : String) (fault : Yaml.Fault) (read : view.read path = .ok contents)
      (visible : (Text.trimString contents).isEmpty = false)
      (faulty : Yaml.decode decode contents = .error fault) :
      Unusable view path (.configSyntax path fault.message)

theorem holds_loaded (view : FileView) (path : String) (config : LintConfig)
    (holds : Holds view path config) : load view path = .ok config := by
  cases holds with
  | blank contents read nothing =>
      simp only [load, read, parse, nothing, if_true]
  | written contents _ read visible decoded =>
      simp only [load, read, parse, visible, Bool.false_eq_true, if_false, decoded]

theorem unusable_refused (view : FileView) (path : String) (e : LintError)
    (unusable : Unusable view path e) : load view path = .error e := by
  cases unusable with
  | missing unread => rw [load, unread]
  | unreadable fault there unread =>
      rw [load, unread]
      cases fault with
      | notFound => exact absurd rfl there
      | _ => rfl
  | malformed contents fault read visible faulty =>
      simp only [load, read, parse, visible, Bool.false_eq_true, if_false, faulty]

theorem holds_or_unusable (view : FileView) (path : String) :
    (∃ config, Holds view path config) ∨ ∃ e, Unusable view path e := by
  cases read : view.read path with
  | error fault =>
      by_cases gone : fault = .notFound
      · subst gone
        exact Or.inr ⟨_, .missing read⟩
      · exact Or.inr ⟨_, .unreadable fault gone read⟩
  | ok contents =>
      cases blank : (Text.trimString contents).isEmpty with
      | true => exact Or.inl ⟨_, .blank contents read blank⟩
      | false =>
          cases decoded : Yaml.decode decode contents with
          | ok config => exact Or.inl ⟨config, .written contents config read blank decoded⟩
          | error fault => exact Or.inr ⟨_, .malformed contents fault read blank decoded⟩

end Lint.LintConfig

namespace Command.Check

open Lint (LintConfig LintError Pipeline Registry ReportFormat SwitchedOn)
open Lint.LintConfig (Holds Unusable candidates fileName find?)

theorem choose_config_chosen (view : FileView) (registry : Registry) (root : String)
    (config : Option String) (path : String) (chosen : config.or (find? view root) = some path) :
    chooseConfig view registry root config = LintConfig.load view path := by
  cases config with
  | some given =>
      rw [Option.some_or, Option.some.injEq] at chosen
      rw [chooseConfig, chosen]
  | none =>
      rw [Option.none_or] at chosen
      rw [chooseConfig, chosen]

def Refused (view : FileView) (registry : Registry) (path : String) (e : LintError) : Prop :=
  Unusable view path e ∨ ∃ own, Holds view path own ∧ Pipeline.ofConfig registry own = .error e

section

variable (view : FileView) (registry : Registry) (root : String) (config : Option String)
  (format : String)

theorem set_up_chosen (form : ReportFormat) (known : ReportFormat.ofName? format = some form)
    (own : LintConfig) (loaded : chooseConfig view registry root config = .ok own) :
    setUp view registry root config format =
      (Pipeline.ofConfig registry own).map fun p => (p, form) := by
  simp only [setUp, known, loaded]

theorem set_up_refused (form : ReportFormat) (known : ReportFormat.ofName? format = some form)
    (path : String) (chosen : config.or (find? view root) = some path) (e : LintError)
    (refused : Refused view registry path e) :
    setUp view registry root config format = .error e := by
  have loads := choose_config_chosen view registry root config path chosen
  rcases refused with unusable | ⟨own, holds, failed⟩
  · rw [LintConfig.unusable_refused view path e unusable] at loads
    simp only [setUp, known, loads]
  · rw [LintConfig.holds_loaded view path own holds] at loads
    rw [set_up_chosen view registry root config format form known own loads, failed]
    rfl

-- A faulty set-up ends the check before a file is read, and so does an unknown format.
theorem run_refused (e : LintError) (files : List String)
    (refused : ∀ form, ReportFormat.ofName? format = some form →
      setUp view registry root config format = .error e) :
    run view registry root config files format =
      .ok (setUpAnswer
        (if ReportFormat.ofName? format = none then .unknownFormat format else e)) := by
  cases known : ReportFormat.ofName? format with
  | none => simp only [run, setUp, known, if_true]
  | some form => simp only [run, refused form known, reduceCtorEq, if_false]

end

theorem builtin_switched_on : ∃ p, Pipeline.ofConfig .builtin (.allRules .builtin) = .ok p ∧
    p.settings = [] ∧ p.stripSpans = false ∧
      List.Forall₂ (SwitchedOn .builtin) Registry.builtin.ids p.attached := by
  obtain ⟨p, made⟩ : ∃ p, Pipeline.ofConfig .builtin (.allRules .builtin) = .ok p := ⟨_, rfl⟩
  exact ⟨p, made, Pipeline.all_rules_made _ p made⟩

theorem nearest_config_decides (view : FileView) (registry : Registry) (root : String) :
    (∀ absolute names, Files.Named names → root = Files.spelled absolute names →
      candidates root =
        names.inits.reverse.map fun above => Files.spelled absolute (above ++ [fileName])) ∧
    ((candidates root).map Files.components =
        (Files.components root).inits.reverse.map (· ++ [fileName]) ∧
      ∀ place ∈ candidates root, Files.isAbsolute place = Files.isAbsolute root) ∧
    (∀ path, find? view root = some path ↔ ∃ nearer farther,
      candidates root = nearer ++ path :: farther ∧ view.isFile path = true ∧
        ∀ other ∈ nearer, view.isFile other = false) ∧
    (find? view root = none ↔ ∀ place ∈ candidates root, view.isFile place = false) ∧
    (find? view root =
      if view.isFile (Files.join root fileName) = true then some (Files.join root fileName)
      else (Files.parents root).head?.bind (find? view)) ∧
    (∀ (tree : FileTree) (path : String),
      tree.view.isFile path = true ↔ ∃ bytes, tree.resolve path = .ok (.file bytes)) ∧
    (∀ config path, config.or (find? view root) = some path →
      ((∃ own, Holds view path own) ∨ ∃ e, Unusable view path e) ∧
      (∀ own, Holds view path own → ∀ format form, ReportFormat.ofName? format = some form →
        setUp view registry root config format =
          (Pipeline.ofConfig registry own).map fun p => (p, form)) ∧
      ∀ e, Refused view registry path e → ∀ files format,
        run view registry root config files format = .ok ⟨2, "", "Error: " ++
          (if ReportFormat.ofName? format = none then LintError.unknownFormat format
            else e).message ++ "\n"⟩) ∧
    (find? view root = none → ∀ format form, ReportFormat.ofName? format = some form →
      ∃ p, setUp view .builtin root none format = .ok (p, form) ∧ p.settings = [] ∧
        p.stripSpans = false ∧
          List.Forall₂ (SwitchedOn .builtin) Registry.builtin.ids p.attached) := by
  refine ⟨fun absolute names named spelled =>
      spelled ▸ LintConfig.candidates_spelled absolute names named,
    ⟨LintConfig.candidates_components root, LintConfig.candidates_absolute root⟩,
    LintConfig.find_nearest view root, LintConfig.find_nothing view root,
    LintConfig.find_climbs view root, FileTree.is_file_iff, ?_, ?_⟩
  · intro config path chosen
    have loads := choose_config_chosen view registry root config path chosen
    refine ⟨LintConfig.holds_or_unusable view path, ?_, ?_⟩
    · intro own holds format form known
      rw [LintConfig.holds_loaded view path own holds] at loads
      exact set_up_chosen view registry root config format form known own loads
    · intro e refused files format
      rw [run_refused view registry root config format e files fun form known =>
        set_up_refused view registry root config format form known path chosen e refused]
      simp [setUpAnswer, lines, Answer.setupCode]
  · intro nothing format form known
    obtain ⟨p, made, standard⟩ := builtin_switched_on
    have all : chooseConfig view .builtin root none = .ok (.allRules .builtin) := by
      rw [chooseConfig, nothing]
    refine ⟨p, ?_, standard⟩
    rw [set_up_chosen view .builtin root none format form known _ all, made]
    rfl

def brokenTree : FileTree :=
  .directory [(fileName, .file "rules: \x7b\x7d".toUTF8),
    ("docs", .directory [(fileName, .file ⟨#[0xff]⟩),
      ("guide", .directory [(fileName, .directory [])])])]

theorem nearest_config_decides_broken :
    candidates "docs/guide" =
        ["docs/guide/.marklint.yml", "docs/.marklint.yml", ".marklint.yml"] ∧
      find? brokenTree.view "docs/guide" = some "docs/.marklint.yml" ∧
      run brokenTree.view .builtin "docs/guide" none ["a.md"] "json" =
        .ok ⟨2, "", "Error: IO error: stream did not contain valid UTF-8\n"⟩ ∧
      run brokenTree.view .builtin "" (some "own.yml") ["a.md"] "json" =
        .ok ⟨2, "", "Error: Configuration not found: own.yml\n"⟩ ∧
      ∃ p, setUp FileTree.empty.view .builtin "docs" none "json" = .ok (p, .json) ∧
        List.Forall₂ (SwitchedOn .builtin) Registry.builtin.ids p.attached := by
  obtain ⟨spelled, _, found, _, _, _, chosen, _⟩ :=
    nearest_config_decides brokenTree.view .builtin "docs/guide"
  have listed : candidates "docs/guide" =
      ["docs/guide/.marklint.yml", "docs/.marklint.yml", ".marklint.yml"] := by
    rw [spelled false ["docs", "guide"] (by unfold Files.Named; decide) (by decide)]
    decide
  have nearest : find? brokenTree.view "docs/guide" = some "docs/.marklint.yml" :=
    (found _).mpr ⟨["docs/guide/.marklint.yml"], [".marklint.yml"], listed, by decide +kernel,
      by decide +kernel⟩
  refine ⟨listed, nearest, ?_, ?_, ?_⟩
  · obtain ⟨_, _, fails⟩ := chosen none _ (by rw [nearest]; rfl)
    exact fails _ (.inl (.unreadable .notText nofun (by decide +kernel))) ["a.md"] "json"
  · obtain ⟨_, _, _, _, _, _, given, _⟩ := nearest_config_decides brokenTree.view .builtin ""
    obtain ⟨_, _, fails⟩ := given (some "own.yml") _ rfl
    exact fails _ (.inl (.missing (by decide +kernel))) ["a.md"] "json"
  · obtain ⟨_, _, _, nowhere, _, _, _, standard⟩ :=
      nearest_config_decides FileTree.empty.view .builtin "docs"
    obtain ⟨p, made, _, _, on⟩ := standard (nowhere.mpr (by decide +kernel)) "json" .json rfl
    exact ⟨p, made, on⟩

end Command.Check

end Proofread
