import Mathlib.Data.Finset.Card
import Proofread.Proofs.Configuration
import Proofread.Proofs.Pass

set_option autoImplicit false

namespace Proofread.Lint

namespace Registry

-- The registry was reached by these registrations, those of the rules it began with included.
inductive Registered : List Rule → Registry → Prop where
  | empty : Registered [] .empty
  | builtin : Registered builtinRules .builtin
  | register (history : List Rule) (registry : Registry) (rule : Rule)
      (before : Registered history registry) :
      Registered (history ++ [rule]) (registry.register rule)

theorem registered_rules (history : List Rule) (registry : Registry)
    (registered : Registered history registry) : registry = ofRules history := by
  induction registered with
  | empty => rfl
  | builtin => rfl
  | register history registry rule _ ih => rw [ih, ofRules, ofRules, List.foldl_concat]

def LastOf (history : List Rule) (id : String) (rule : Rule) : Prop :=
  ∃ before after, history = before ++ rule :: after ∧ rule.id = id ∧
    ∀ later ∈ after, later.id ≠ id

theorem of_rules_last (history : List Rule) (id : String) (rule : Rule) :
    (ofRules history).get? id = some rule ↔ LastOf history id rule := by
  rw [of_rules_get, find_last, LastOf]
  simp only [decide_eq_true_eq, decide_eq_false_iff_not, ne_eq]

theorem of_rules_missing (history : List Rule) (id : String) :
    (ofRules history).get? id = none ↔ ∀ rule ∈ history, rule.id ≠ id := by
  rw [of_rules_get, List.find?_eq_none]
  simp only [List.mem_reverse, decide_eq_true_eq, ne_eq]

theorem ids_found (registry : Registry) (id : String) :
    id ∈ registry.ids ↔ ∃ rule, registry.get? id = some rule := by
  rw [ids, NameMap.names, List.mem_map]
  constructor
  · rintro ⟨⟨own, rule⟩, listed, rfl⟩
    exact ⟨rule, (registry.rules.get_some own rule).mpr listed⟩
  · rintro ⟨rule, found⟩
    exact ⟨(id, rule), (registry.rules.get_some id rule).mp found, rfl⟩

theorem of_rules_ids (history : List Rule) (id : String) :
    id ∈ (ofRules history).ids ↔ ∃ rule ∈ history, rule.id = id := by
  rw [ids_found, ← Option.isSome_iff_exists, ← Option.ne_none_iff_isSome, ne_eq, of_rules_missing]
  simp only [ne_eq, not_forall, not_not, exists_prop]

theorem ids_increasing (registry : Registry) : registry.ids.Pairwise fun a b => a < b := by
  rw [ids, NameMap.names, List.pairwise_map]
  exact registry.rules.ordered

theorem of_rules_size (history : List Rule) :
    (ofRules history).size = (history.map (·.id)).toFinset.card := by
  have distinct : (ofRules history).ids.Nodup :=
    (ids_increasing _).imp fun less => String.ne_of_lt less
  have same : (history.map (·.id)).toFinset = (ofRules history).ids.toFinset := by
    ext id
    rw [List.mem_toFinset, List.mem_toFinset, of_rules_ids, List.mem_map]
  rw [same, List.toFinset_card_of_nodup distinct, ids, NameMap.names, List.length_map,
    size]

end Registry

theorem sets_on (rule : Rule) (config : Resolved) :
    Sets rule (.bool true) (some config) ↔ config = .ofSeverity rule.defaultSeverity none := by
  constructor
  · intro sets
    cases sets with
    | on => rfl
    | form _ _ shaped _ => exact absurd rfl (shaped true)
  · rintro rfl
    exact .on

structure SwitchedOn (registry : Registry) (id : String) (a : AttachedRule) : Prop where
  current : registry.get? id = some a.rule
  own : a.rule.id = id
  severity : a.config.severity = a.rule.defaultSeverity
  options : a.config.options = none
  enabled : a.config.enabled = true ↔ a.rule.defaultSeverity ≠ .off

def Rejects (registry : Registry) (id detail : String) : Prop :=
  ∃ rule, registry.get? id = some rule ∧ rule.validate none = .error detail

theorem switched_on_refused (registry : Registry) (id : String) (known : id ∈ registry.ids)
    (e : LintError) :
    Refused registry (id, .bool true) e ↔
      ∃ detail, Rejects registry id detail ∧ e = .invalidOptions id detail := by
  constructor
  · intro refused
    cases refused with
    | unregistered _ _ missing =>
        obtain ⟨rule, found⟩ := (Registry.ids_found registry id).mp known
        rw [missing] at found
        cases found
    | severity _ _ rule text found invalid => cases invalid
    | options _ _ rule config detail found sets rejected =>
        rw [(sets_on rule config).mp sets, Resolved.of_severity_options] at rejected
        exact ⟨detail, ⟨rule, found, rejected⟩, rfl⟩
  · rintro ⟨detail, ⟨rule, found, rejected⟩, rfl⟩
    exact .options id _ rule _ detail found .on (by simpa using rejected)

theorem switched_on_attaches (registry : Registry) (id : String) (a : AttachedRule)
    (attaches : Attaches registry (id, .bool true) a) : SwitchedOn registry id a := by
  have standard := (sets_on a.rule a.config).mp attaches.sets
  refine ⟨attaches.found, attaches.own, ?_, ?_, ?_⟩
  · simp [standard]
  · simp [standard]
  · simp [standard]

namespace Pipeline

section

variable (registry : Registry)

theorem switched_on_entry (entry : String × Json.Value) :
    entry ∈ (LintConfig.allRules registry).rules.entries ↔
      ∃ id ∈ registry.ids, entry = (id, .bool true) := by
  constructor
  · intro listed
    obtain ⟨own, known, rfl⟩ := List.mem_map.mp listed
    exact ⟨own.1, List.mem_map.mpr ⟨own, known, rfl⟩, rfl⟩
  · rintro ⟨id, known, rfl⟩
    obtain ⟨own, listed, rfl⟩ := List.mem_map.mp known
    exact List.mem_map.mpr ⟨own, listed, rfl⟩

theorem all_rules_refused (e : LintError) :
    ofConfig registry (.allRules registry) = .error e ↔
      ∃ id detail, Rejects registry id detail ∧ e = .invalidOptions id detail ∧
        ∀ lesser other, Rejects registry lesser other → ¬ lesser < id := by
  have listed : ∀ id detail, Rejects registry id detail → id ∈ registry.ids := by
    rintro id detail ⟨rule, found, _⟩
    exact (Registry.ids_found registry id).mpr ⟨rule, found⟩
  rw [of_config_refused registry]
  constructor
  · rintro ⟨entry, member, refused, first⟩
    obtain ⟨id, known, rfl⟩ := (switched_on_entry registry _).mp member
    obtain ⟨detail, rejects, same⟩ := (switched_on_refused registry id known e).mp refused
    refine ⟨id, detail, rejects, same, ?_⟩
    intro lesser other rejectsToo less
    have knownToo := listed lesser other rejectsToo
    exact first (lesser, .bool true) ((switched_on_entry registry _).mpr ⟨lesser, knownToo, rfl⟩) less _
      ((switched_on_refused registry lesser knownToo _).mpr ⟨other, rejectsToo, rfl⟩)
  · rintro ⟨id, detail, rejects, same, first⟩
    have known := listed id detail rejects
    refine ⟨(id, .bool true), (switched_on_entry registry _).mpr ⟨id, known, rfl⟩,
      (switched_on_refused registry id known e).mpr ⟨detail, rejects, same⟩, ?_⟩
    intro entry member less d refused
    obtain ⟨lesser, knownToo, rfl⟩ := (switched_on_entry registry _).mp member
    obtain ⟨other, rejectsToo, _⟩ := (switched_on_refused registry lesser knownToo d).mp refused
    exact first lesser other rejectsToo less

theorem all_rules_fails :
    (∃ e, ofConfig registry (.allRules registry) = .error e) ↔
      ∃ id detail, Rejects registry id detail := by
  rw [of_config_fails registry]
  constructor
  · rintro ⟨entry, member, e, refused⟩
    obtain ⟨id, known, rfl⟩ := (switched_on_entry registry _).mp member
    obtain ⟨detail, rejects, _⟩ := (switched_on_refused registry id known e).mp refused
    exact ⟨id, detail, rejects⟩
  · rintro ⟨id, detail, rule, found, rejected⟩
    have known := (Registry.ids_found registry id).mpr ⟨rule, found⟩
    exact ⟨_, (switched_on_entry registry _).mpr ⟨id, known, rfl⟩, _,
      (switched_on_refused registry id known _).mpr ⟨detail, ⟨rule, found, rejected⟩, rfl⟩⟩

theorem all_rules_made (p : Pipeline)
    (made : ofConfig registry (.allRules registry) = .ok p) :
    p.settings = [] ∧ p.stripSpans = false ∧
      List.Forall₂ (SwitchedOn registry) registry.ids p.attached := by
  obtain ⟨settings, spans, follow⟩ := of_config_made registry _ p made
  refine ⟨settings, spans, ?_⟩
  have on : (LintConfig.allRules registry).rules.entries.filter (·.2 ≠ .bool false) =
      registry.ids.map fun id => (id, .bool true) := by
    rw [Registry.ids, NameMap.names, List.map_map]
    refine List.filter_eq_self.mpr ?_
    intro entry member
    obtain ⟨id, _, rfl⟩ := (switched_on_entry registry entry).mp member
    simp
  rw [on, List.forall₂_map_left_iff] at follow
  exact follow.imp fun id a attaches => switched_on_attaches registry id a attaches

end

theorem switched_on_runs (registry : Registry) (ids : List String) (p : Pipeline)
    (follow : List.Forall₂ (SwitchedOn registry) ids p.attached) :
    p.enabledRules = p.attached.filter (·.rule.defaultSeverity ≠ .off) := by
  refine List.filter_congr ?_
  intro a listed
  obtain ⟨id, _, on⟩ := related_source (SwitchedOn registry) ids p.attached follow a listed
  rw [Bool.eq_iff_iff, on.enabled, decide_eq_true_iff]

end Pipeline

theorem all_rules_registered (history : List Rule) (registry : Registry)
    (registered : Registry.Registered history registry) :
    (registry.ids.Pairwise fun a b => Text.bytes a < Text.bytes b) ∧
    (∀ id, id ∈ registry.ids ↔ ∃ rule ∈ history, rule.id = id) ∧
    (∀ id rule, registry.get? id = some rule ↔ Registry.LastOf history id rule) ∧
    (∀ id, registry.get? id = none ↔ ∀ rule ∈ history, rule.id ≠ id) ∧
    registry.size = (history.map (·.id)).toFinset.card ∧
    (∀ e, Pipeline.ofConfig registry (.allRules registry) = .error e ↔
      ∃ id detail, Rejects registry id detail ∧ e = .invalidOptions id detail ∧
        ∀ lesser other, Rejects registry lesser other →
          ¬ Text.bytes lesser < Text.bytes id) ∧
    ((∃ e, Pipeline.ofConfig registry (.allRules registry) = .error e) ↔
      ∃ id detail, Rejects registry id detail) ∧
    ∀ p, Pipeline.ofConfig registry (.allRules registry) = .ok p →
      p.settings = [] ∧ p.stripSpans = false ∧
      List.Forall₂ (SwitchedOn registry) registry.ids p.attached ∧
      ∀ tree file, p.processTree tree file =
        Pipeline.processTree
          { p with attached := p.attached.filter (·.rule.defaultSeverity ≠ .off) } tree file := by
  rw [Registry.registered_rules history registry registered]
  simp only [Text.bytes_lt]
  refine ⟨Registry.ids_increasing _, Registry.of_rules_ids history,
    Registry.of_rules_last history, Registry.of_rules_missing history,
    Registry.of_rules_size history,
    Pipeline.all_rules_refused _, Pipeline.all_rules_fails _, ?_⟩
  intro p made
  obtain ⟨settings, spans, follow⟩ := Pipeline.all_rules_made _ p made
  refine ⟨settings, spans, follow, fun tree file => ?_⟩
  rw [← Pipeline.switched_on_runs _ _ p follow, Pipeline.process_tree_enabled]

theorem builtin_take_absent (rule : Rule) (listed : rule ∈ Registry.builtinRules) :
    rule.validate none = .ok () := by
  simp only [Registry.builtinRules, List.mem_cons, List.not_mem_nil, or_false] at listed
  rcases listed with rfl | rfl | rfl | rfl | rfl | rfl | rfl <;> rfl

def quietTabs : Rule :=
  { Rules.noTabs with defaultSeverity := .off }

def demanding : Rule where
  id := "demanding"
  description := "Wants options"
  defaultSeverity := .warn
  validate options := if options.isSome then .ok () else .error "options are needed"
  check _ _ _ := .ofEmissions []

theorem all_rules_registered_quiet :
    Registry.get? (Registry.builtin.register quietTabs) "no-tabs" = some quietTabs ∧
    (Registry.builtin.register quietTabs).size = 7 ∧
    (∃ p, Pipeline.ofConfig (Registry.builtin.register quietTabs)
        (.allRules (Registry.builtin.register quietTabs)) = .ok p ∧
      List.Forall₂ (SwitchedOn (Registry.builtin.register quietTabs))
        (Registry.builtin.register quietTabs).ids p.attached) ∧
    Pipeline.ofConfig (Registry.builtin.register demanding)
        (.allRules (Registry.builtin.register demanding)) =
      .error (.invalidOptions "demanding" "options are needed") := by
  have quiet : Registry.Registered (Registry.builtinRules ++ [quietTabs])
      (Registry.builtin.register quietTabs) := .register _ _ _ .builtin
  have wanting : Registry.Registered (Registry.builtinRules ++ [demanding])
      (Registry.builtin.register demanding) := .register _ _ _ .builtin
  obtain ⟨_, _, quietLast, _, quietSize, _, _, quietMade⟩ := all_rules_registered _ _ quiet
  obtain ⟨_, _, wantingLast, _, _, wantingFails, _, _⟩ := all_rules_registered _ _ wanting
  refine ⟨?_, ?_, ?_, ?_⟩
  · refine (quietLast "no-tabs" quietTabs).mpr ⟨Registry.builtinRules, [], rfl, rfl, ?_⟩
    intro later listed
    cases listed
  · rw [quietSize]
    rfl
  · have made : ∃ p, Pipeline.ofConfig (Registry.builtin.register quietTabs)
        (.allRules (Registry.builtin.register quietTabs)) = .ok p := ⟨_, rfl⟩
    obtain ⟨p, success⟩ := made
    exact ⟨p, success, (quietMade p success).2.2.1⟩
  · refine (wantingFails _).mpr
      ⟨"demanding", "options are needed", ⟨demanding, rfl, rfl⟩, rfl, ?_⟩
    rintro lesser detail ⟨rule, found, rejected⟩ less
    obtain ⟨before, after, split, own, _⟩ := (wantingLast lesser rule).mp found
    have listed : rule ∈ Registry.builtinRules ++ [demanding] := by
      rw [split]
      exact List.mem_append_right before List.mem_cons_self
    rcases List.mem_append.mp listed with builtin | last
    · rw [builtin_take_absent rule builtin] at rejected
      cases rejected
    · rw [← own, List.mem_singleton.mp last, Text.bytes_lt] at less
      exact absurd less (String.lt_irrefl "demanding")

end Proofread.Lint
