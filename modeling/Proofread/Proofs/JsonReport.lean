import Mathlib.Data.List.Forall2
import Proofread.Lint.Report
import Proofread.Proofs.JsonLayout

set_option autoImplicit false

namespace Proofread

open Json (Value)

def Point.withoutOffset (p : Point) : Point :=
  ⟨p.line, p.column, 0⟩

def Location.withoutOffsets : Location → Location
  | .point place => .point place.withoutOffset
  | .range span => .range ⟨span.start.withoutOffset, span.stop.withoutOffset⟩

namespace Lint

def Message.withoutOffsets (m : Message) : Message :=
  { m with location := m.location.map Location.withoutOffsets }

structure Message.Alike (m n : Message) : Prop where
  ruleId : m.ruleId = n.ruleId
  reason : m.reason = n.reason
  file : m.file = n.file
  fatal : m.fatal = n.fatal
  start : m.start?.map (fun p => (p.line, p.column)) = n.start?.map fun p => (p.line, p.column)
  stop : (m.location.bind Location.stop?).map (fun p => (p.line, p.column)) =
    (n.location.bind Location.stop?).map fun p => (p.line, p.column)

theorem Message.without_offsets_alike (m n : Message) :
    m.withoutOffsets = n.withoutOffsets ↔ m.source = n.source ∧ m.Alike n := by
  obtain ⟨ruleId, reason, file, location, fatal, source⟩ := m
  obtain ⟨ruleIdN, reasonN, fileN, locationN, fatalN, sourceN⟩ := n
  have place : location.map Location.withoutOffsets = locationN.map Location.withoutOffsets ↔
      (location.map Location.start).map (fun p => (p.line, p.column)) =
          (locationN.map Location.start).map (fun p => (p.line, p.column)) ∧
        (location.bind Location.stop?).map (fun p => (p.line, p.column)) =
          (locationN.bind Location.stop?).map fun p => (p.line, p.column) := by
    rcases location with _ | ⟨p⟩ | ⟨span⟩ <;> rcases locationN with _ | ⟨q⟩ | ⟨other⟩ <;>
      simp [Location.withoutOffsets, Point.withoutOffset, Location.start, Location.stop?]
  simp only [withoutOffsets, Message.mk.injEq, place]
  constructor
  · rintro ⟨id, why, path, ⟨start, stop⟩, flag, origin⟩
    exact ⟨origin, id, why, path, flag, start, stop⟩
  · rintro ⟨origin, id, why, path, flag, start, stop⟩
    exact ⟨id, why, path, ⟨start, stop⟩, flag, origin⟩

namespace Report

def textOf (name : String) (entry : Value) : String :=
  match entry.field? name with
  | some (.string text) => text
  | _ => ""

def fileOf (entry : Value) : Option String :=
  match entry.field? "file" with
  | some (.string path) => some path
  | _ => none

def pointOf (lineName columnName : String) (entry : Value) : Option Point :=
  match entry.field? lineName, entry.field? columnName with
  | some (.number (.whole line)), some (.number (.whole column)) =>
      some ⟨line.toNat, column.toNat, 0⟩
  | _, _ => none

def fatalOf (label : String) : Option Bool :=
  if label = "error" then some true else if label = "warning" then some false else none

def messageOf (entry : Value) : Message where
  ruleId := textOf "rule_id" entry
  reason := textOf "reason" entry
  file := fileOf entry
  location :=
    match pointOf "line" "column" entry, pointOf "end_line" "end_column" entry with
    | none, _ => none
    | some start, none => some (.point start)
    | some start, some stop => some (.range ⟨start, stop⟩)
  fatal := fatalOf (textOf "severity" entry)
  source := textOf "source" entry

theorem fatal_of_label (m : Message) : fatalOf m.severityLabel = m.fatal := by
  rcases fatal : m.fatal with _ | _ | _ <;> simp [Message.severityLabel, fatalOf, fatal]

theorem message_of_json (m : Message) : messageOf (jsonMessage m) = m.withoutOffsets := by
  have fatal : fatalOf (textOf "severity" (jsonMessage m)) = m.fatal := fatal_of_label m
  obtain ⟨ruleId, reason, file, location, flag, source⟩ := m
  rw [messageOf, fatal]
  cases file with
  | none => rcases location with _ | ⟨p⟩ | ⟨span⟩ <;> rfl
  | some path => rcases location with _ | ⟨p⟩ | ⟨span⟩ <;> rfl

theorem json_without_offsets (m : Message) : jsonMessage m.withoutOffsets = jsonMessage m := by
  obtain ⟨ruleId, reason, file, location, flag, source⟩ := m
  rcases location with _ | ⟨p⟩ | ⟨span⟩ <;> rfl

theorem json_message_inj (m n : Message) :
    jsonMessage m = jsonMessage n ↔ m.withoutOffsets = n.withoutOffsets := by
  constructor
  · intro same
    have read := congrArg messageOf same
    simpa only [message_of_json] using read
  · intro same
    rw [← json_without_offsets m, same, json_without_offsets]

theorem maps_alike {α β : Type} (f : α → β) (as bs : List α) :
    as.map f = bs.map f ↔ List.Forall₂ (fun a b => f a = f b) as bs := by
  rw [← List.forall₂_map_right_iff, ← List.forall₂_map_left_iff, List.forall₂_eq_eq_eq]

theorem entries_alike (ms ns : List Message) :
    ms.map jsonMessage = ns.map jsonMessage ↔
      ms.map Message.withoutOffsets = ns.map Message.withoutOffsets := by
  rw [maps_alike, maps_alike]
  simp only [json_message_inj]

theorem messages_alike (ms ns : List Message) :
    ms.map Message.withoutOffsets = ns.map Message.withoutOffsets ↔
      List.Forall₂ (fun m n => m.source = n.source ∧ m.Alike n) ms ns := by
  rw [maps_alike]
  simp only [Message.without_offsets_alike]

def labelled (label : String) (entry : Value) : Bool :=
  decide (entry.field? "severity" = some (.string label))

def documentOf (entries : List Value) : Value :=
  .object [("messages", .array entries), ("summary", .object [("total", .ofNat entries.length),
    ("errors", .ofNat (entries.countP (labelled "error"))),
    ("warnings", .ofNat (entries.countP (labelled "warning")))])]

theorem labelled_json (label : String) (m : Message) :
    labelled label (jsonMessage m) = decide (m.severityLabel = label) := by
  have severity : (jsonMessage m).field? "severity" = some (.string m.severityLabel) := rfl
  simp [labelled, severity]

theorem labelled_error (m : Message) : labelled "error" (jsonMessage m) = m.isFatal := by
  rw [labelled_json]
  rcases fatal : m.fatal with _ | _ | _ <;> simp [Message.severityLabel, Message.isFatal, fatal]

theorem labelled_warning (m : Message) : labelled "warning" (jsonMessage m) = m.isWarning := by
  rw [labelled_json]
  rcases fatal : m.fatal with _ | _ | _ <;> simp [Message.severityLabel, Message.isWarning, fatal]

theorem labelled_somehow (m : Message) : labelled "error" (jsonMessage m) ∨
    labelled "warning" (jsonMessage m) ∨ labelled "info" (jsonMessage m) := by
  simp only [labelled_json]
  rcases fatal : m.fatal with _ | _ | _ <;> simp [Message.severityLabel, fatal]

theorem json_document (ms : List Message) :
    json ms = (documentOf (ms.map jsonMessage)).indented 0 := by
  have errors : (ms.map jsonMessage).countP (labelled "error") = errorCount ms := by
    rw [errorCount, List.countP_map]
    exact List.countP_congr fun m _ => by rw [Function.comp_apply, labelled_error]
  have warnings : (ms.map jsonMessage).countP (labelled "warning") = warningCount ms := by
    rw [warningCount, List.countP_map]
    exact List.countP_congr fun m _ => by rw [Function.comp_apply, labelled_warning]
  rw [documentOf, errors, warnings, List.length_map]
  rfl

theorem of_nat_whole (n : Nat) : (Value.ofNat n).Whole :=
  .number n

theorem json_message_whole (m : Message) : (jsonMessage m).Whole := by
  have place : ∀ (lineName columnName : String) (p : Option Point),
      ∀ field ∈ placeFields lineName columnName p, field.2.Whole := by
    intro lineName columnName p field listed
    cases p with
    | none => cases listed
    | some p =>
        simp [placeFields] at listed
        rcases listed with rfl | rfl
        · exact of_nat_whole p.line
        · exact of_nat_whole p.column
  have path : ∀ field ∈ fileFields m.file, field.2.Whole := by
    intro field listed
    cases file : m.file with
    | none =>
        rw [file] at listed
        cases listed
    | some path =>
        rw [file] at listed
        rw [List.mem_singleton.mp listed]
        exact .string path
  refine .object _ fun field listed => ?_
  rcases List.mem_append.mp listed with front | stop
  · rcases List.mem_append.mp front with front | start
    · rcases List.mem_append.mp front with fixed | file
      · simp at fixed
        rcases fixed with rfl | rfl | rfl | rfl <;> exact .string _
      · exact path field file
    · exact place _ _ _ field start
  · exact place _ _ _ field stop

theorem document_whole (entries : List Value) (all : ∀ entry ∈ entries, entry.Whole) :
    (documentOf entries).Whole := by
  refine .object _ (List.forall_mem_cons.mpr ⟨.array entries all,
    List.forall_mem_singleton.mpr (.object _ fun field listed => ?_)⟩)
  simp at listed
  rcases listed with rfl | rfl | rfl <;> exact of_nat_whole _

theorem report_document_whole (ms : List Message) : (documentOf (ms.map jsonMessage)).Whole := by
  refine document_whole _ fun entry listed => ?_
  obtain ⟨m, _, rfl⟩ := List.mem_map.mp listed
  exact json_message_whole m

theorem json_inj (ms ns : List Message) :
    json ms = json ns ↔ ms.map Message.withoutOffsets = ns.map Message.withoutOffsets := by
  rw [json_document, json_document, Value.indented_inj _ _ (report_document_whole ms)
    (report_document_whole ns), ← entries_alike]
  constructor
  · intro same
    have fields := List.cons.inj (Value.object.inj same)
    exact Value.array.inj (Prod.mk.inj fields.1).2
  · intro same
    rw [same]

theorem json_report_faithful (ms : List Message) :
    (∀ ns, json ms = json ns ↔
      ms.map Message.withoutOffsets = ns.map Message.withoutOffsets) ∧
    (∀ ns, json ms = json ns ↔
      List.Forall₂ (fun m n => m.source = n.source ∧ m.Alike n) ms ns) ∧
    ∃ entries, List.Forall₂ (fun m entry => messageOf entry = m.withoutOffsets) ms entries ∧
      (∀ entry ∈ entries, labelled "error" entry ∨ labelled "warning" entry ∨
        labelled "info" entry) ∧
      json ms = (documentOf entries).indented 0 ∧
        ∀ v : Value, v.Whole → v.indented 0 = json ms → v = documentOf entries := by
  refine ⟨json_inj ms, ?_, ms.map jsonMessage, ?_, ?_, json_document ms, ?_⟩
  · intro ns
    rw [json_inj, messages_alike]
  · rw [List.forall₂_map_right_iff, List.forall₂_same]
    exact fun m _ => message_of_json m
  · intro entry listed
    obtain ⟨m, _, rfl⟩ := List.mem_map.mp listed
    exact labelled_somehow m
  · intro v whole same
    rw [json_document] at same
    exact (Value.indented_inj v _ whole (report_document_whole ms) 0).mp same

def noteAt (reason : String) (offset : Nat) : Message :=
  ⟨"notes", reason, some "a.md", some (.point ⟨2, 3, offset⟩), some true, engineTag⟩

theorem json_report_faithful_notes :
    json [noteAt "\"" 5] = json [noteAt "\"" 9] ∧
      json [noteAt "\"" 5] ≠ json [noteAt "\\\"" 5] ∧
      ∃ entry, labelled "error" entry = true ∧
        ∀ v : Value, v.Whole → v.indented 0 = json [noteAt "\"" 5] → v = documentOf [entry] := by
  obtain ⟨offsets, told, entries, _, _, _, unique⟩ := json_report_faithful [noteAt "\"" 5]
  have shown := unique _ (report_document_whole [noteAt "\"" 5]) (json_document _).symm
  refine ⟨(offsets [noteAt "\"" 9]).mpr rfl, ?_, jsonMessage (noteAt "\"" 5), rfl, ?_⟩
  · intro same
    have alike := (told [noteAt "\\\"" 5]).mp same
    have reasons := (List.forall₂_cons.mp alike).1.2.reason
    exact absurd reasons (by decide)
  · intro v whole same
    exact (unique v whole same).trans shown.symm

def relayedNote : Message :=
  { noteAt "late" 5 with source := "relay" }

theorem sources_told_apart :
    (noteAt "late" 5).Alike relayedNote ∧ json [noteAt "late" 5] ≠ json [relayedNote] ∧
      ¬ ∀ ms ns, json ms = json ns ↔ List.Forall₂ Message.Alike ms ns := by
  have alike : (noteAt "late" 5).Alike relayedNote := ⟨rfl, rfl, rfl, rfl, rfl, rfl⟩
  have apart : json [noteAt "late" 5] ≠ json [relayedNote] := by
    intro same
    have shown := (json_inj _ _).mp same
    exact absurd shown (by decide)
  exact ⟨alike, apart, fun told => apart ((told _ _).mpr (.cons alike .nil))⟩

end Report

end Lint

end Proofread
