import Proofread.Proofs.FailedPass
import Proofread.Proofs.ParsedSpans
import Proofread.Proofs.SpanlessPass

set_option autoImplicit false

namespace Proofread

open Text Point

def Point.Counted (text : String) (p : Point) : Prop :=
  ∃ before after : String, text = before ++ after ∧ p.offset = before.utf8ByteSize ∧
    p.line = 1 + before.toList.count '\n' ∧
    p.column = 1 + (before.toList.reverse.takeWhile (· ≠ '\n')).length

def Location.Counted (text : String) : Location → Prop
  | .point p => p.Counted text
  | .range span => span.start.Counted text ∧ span.stop.Counted text ∧
      span.start.offset ≤ span.stop.offset

theorem Text.byte_length_size (cs : List Char) : byteLength cs = (String.ofList cs).utf8ByteSize := by
  induction cs with
  | nil => rfl
  | cons c rest ih =>
      rw [byteLength, ih]
      simp [String.utf8ByteSize, List.utf8Encode]

theorem Point.counted_of_in (text : String) (p : Point) (place : p.In text.toList) :
    p.Counted text := by
  obtain ⟨read, ⟨rest, whole⟩, here⟩ := place
  have counts := after_counts read.reverse
  rw [List.reverse_reverse] at counts
  refine ⟨String.ofList read, String.ofList rest, ?_, ?_, ?_, ?_⟩
  · rw [← String.ofList_append, whole, String.ofList_toList]
  · rw [here, counts, byte_length_size]
  · rw [here, counts, String.toList_ofList, List.count_reverse]
  · rw [here, counts, String.toList_ofList]

theorem Span.within_counted (text : String) (span : Span) (within : span.Within text.toList) :
    (Location.range span).Counted text :=
  ⟨counted_of_in text _ within.ends.1, counted_of_in text _ within.ends.2, within.forward⟩

namespace Lint

open Markdown (BetweenCharacters treeOfEvents)

theorem headings_placed (text : List Char) (events : List Markdown.Event)
    (between : BetweenCharacters text events) (heading : Heading)
    (listed : heading ∈ headings (treeOfEvents text events)) : heading.span.Within text := by
  rw [headings, List.mem_filterMap] at listed
  obtain ⟨n, visited, read⟩ := listed
  rw [Node.preorder_root] at visited
  rcases List.mem_cons.mp visited with root | below
  · rw [root] at read
    cases read
  · obtain ⟨span, placed, within⟩ := Markdown.nodes_within text events between n below
    have same : span = heading.span :=
      Option.some.inj (placed.symm.trans (heading_fields n heading read).2)
    rw [← same]
    exact within

theorem tabs_placed (contents : String) (place : Point)
    (listed : place ∈ Rules.charPoints contents '\t') : place.Counted contents :=
  Point.counted_of_in contents place (Rules.char_points_in contents '\t' place listed)

theorem origin_counted (text : String) : Point.origin.Counted text :=
  Point.counted_of_in text origin ⟨[], List.nil_prefix, rfl⟩

def Emission.Placed (text : String) (e : Emission) : Prop :=
  ∃ reason location, e = .report reason (some location) ∧ location.Counted text

theorem builtin_emissions_placed (rule : Rule) (builtin : rule ∈ Registry.builtinRules)
    (tree : Node) (context : RuleContext) (options : Option Json.Value)
    (placed : ∀ heading ∈ headings tree, heading.span.Within context.contents.toList)
    (e : Emission) (emitted : e ∈ (rule.check tree context options).emissions) :
    e.Placed context.contents := by
  obtain ⟨reason, location, report, place⟩ :=
    builtin_emission_cases rule builtin tree context options e emitted
  refine ⟨reason, location, report, ?_⟩
  rcases place with start | ⟨tab, listed, here⟩ | ⟨heading, known, here⟩
  · rw [start]
    exact origin_counted context.contents
  · rw [here]
    exact tabs_placed context.contents tab listed
  · rw [here]
    exact Span.within_counted context.contents heading.span (placed heading known)

namespace Pipeline

theorem view_headings (p : Pipeline) (tree : Node) (Q : Heading → Prop)
    (all : ∀ heading ∈ headings tree, Q heading) : ∀ heading ∈ headings (p.view tree), Q heading := by
  rw [view]
  cases p.stripSpans with
  | false => exact all
  | true =>
      intro heading listed
      rw [if_pos rfl, headings_without_spans] at listed
      cases listed

theorem reports_placed (p : Pipeline) (builtin : ∀ a ∈ p.attached, a.rule ∈ Registry.builtinRules)
    (tree : Node) (shallow : ¬ Overruns (headings tree)) (path : Option String) (text : String)
    (placed : ∀ heading ∈ headings tree, heading.span.Within text.toList) :
    ∃ left, (p.processTree tree ⟨path, text, []⟩).lastFile? = some left ∧
      ∀ m ∈ left.messages, ∃ location, m.location = some location ∧ location.Counted text := by
  rcases process_tree_leaves p tree ⟨path, text, []⟩ with exceeds | ⟨left, last, _, _, origins⟩
  · obtain ⟨a, enabled, failed⟩ := process_tree_overflows p tree _ exceeds
    have long := (builtin_overflows a.rule (builtin a (List.mem_filter.mp enabled).1)
      a.config.options (p.view tree) _).mp failed
    exact absurd ((view_overruns p tree).mp long.2).2 shallow
  refine ⟨left, last, ?_⟩
  intro m listed
  rcases origins m listed with earlier | ⟨a, enabled, emitted⟩
  · cases earlier
  · obtain ⟨e, found, same⟩ := List.mem_map.mp emitted
    obtain ⟨reason, location, report, counted⟩ := builtin_emissions_placed a.rule
      (builtin a (List.mem_filter.mp enabled).1) (p.view tree) _ a.config.options
      (view_headings p tree _ placed) e found
    rw [report] at same
    exact ⟨location, by rw [← same]; rfl, counted⟩

end Pipeline

theorem reported_places_counted (p : Pipeline)
    (builtin : ∀ a ∈ p.attached, a.rule ∈ Registry.builtinRules) (path : Option String)
    (text : String) :
    (∀ events, BetweenCharacters text.toList events →
      ∃ left, (p.processTree (treeOfEvents text.toList events) ⟨path, text, []⟩).lastFile? =
        some left ∧
        ∀ m ∈ left.messages, ∃ location, m.location = some location ∧ location.Counted text) ∧
    ∃ left, (p.process ⟨path, text, []⟩).lastFile? = some left ∧
      ∀ m ∈ left.messages, ∃ location, m.location = some location ∧ location.Counted text := by
  have placed := fun events between =>
    Pipeline.reports_placed p builtin (treeOfEvents text.toList events)
      (events_never_overrun text.toList events) path text
      (headings_placed text.toList events between)
  exact ⟨placed, placed (Markdown.events text.toList) (Markdown.events_between _)⟩

def accentedText : String :=
  "### é!\n\tx\n"

def accentRules : Pipeline :=
  ⟨[⟨Rules.firstHeadingLevel, "first-heading-level", .ofSeverity .warn none⟩,
    ⟨Rules.noTabs, "no-tabs", .ofSeverity .error none⟩], [], false⟩

def overlongEvents : List Markdown.Event :=
  [⟨.enter (.heading .h3), 0, 99⟩, ⟨.leave, 0, 99⟩]

theorem reported_places_counted_accents :
    (∃ left, (accentRules.process ⟨none, accentedText, []⟩).lastFile? = some left ∧
      left.messages.map (·.location) =
        [some (.range ⟨⟨1, 1, 0⟩, ⟨1, 7, 7⟩⟩), some (.point ⟨2, 1, 8⟩)] ∧
      ∀ m ∈ left.messages, ∃ location, m.location = some location ∧
        location.Counted accentedText) ∧
    ∃ left, (accentRules.processTree (treeOfEvents accentedText.toList overlongEvents)
        ⟨none, accentedText, []⟩).lastFile? = some left ∧
      left.messages.map (·.location) =
        [some (.range ⟨⟨1, 1, 0⟩, ⟨2, 3, 10⟩⟩), some (.point ⟨2, 1, 8⟩)] ∧
      ∀ m ∈ left.messages, ∃ location, m.location = some location ∧
        location.Counted accentedText := by
  have builtin : ∀ a ∈ accentRules.attached, a.rule ∈ Registry.builtinRules := by
    simp [accentRules, Registry.builtinRules]
  have between : BetweenCharacters accentedText.toList overlongEvents := by
    intro event listed offset ends inside
    have size : byteLength accentedText.toList = 11 := by decide +kernel
    have least : offset = 0 ∨ offset = 99 := by
      simp only [overlongEvents, List.mem_cons, List.not_mem_nil, or_false] at listed
      rcases listed with rfl | rfl <;> simpa using ends
    rcases least with rfl | rfl
    · exact Markdown.boundary_start _
    · omega
  have counted := reported_places_counted accentRules builtin none accentedText
  refine ⟨?_, ?_⟩
  · obtain ⟨left, last, places⟩ := counted.2
    refine ⟨left, last, ?_, places⟩
    have found : (accentRules.process ⟨none, accentedText, []⟩).lastFile?.map
        (fun file => file.messages.map (·.location)) =
          some [some (.range ⟨⟨1, 1, 0⟩, ⟨1, 7, 7⟩⟩), some (.point ⟨2, 1, 8⟩)] := by
      decide +kernel
    rw [last] at found
    exact Option.some.inj found
  · obtain ⟨left, last, places⟩ := counted.1 overlongEvents between
    refine ⟨left, last, ?_, places⟩
    have found : (accentRules.processTree (treeOfEvents accentedText.toList overlongEvents)
        ⟨none, accentedText, []⟩).lastFile?.map (fun file => file.messages.map (·.location)) =
          some [some (.range ⟨⟨1, 1, 0⟩, ⟨2, 3, 10⟩⟩), some (.point ⟨2, 1, 8⟩)] := by
      decide +kernel
    rw [last] at found
    exact Option.some.inj found

end Lint

end Proofread
