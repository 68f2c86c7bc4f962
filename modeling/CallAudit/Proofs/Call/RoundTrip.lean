import CallAudit.Call.Data
import CallAudit.Call.File
import CallAudit.Proofs.Check.Validated
import CallAudit.Proofs.File.Lines
import CallAudit.Proofs.Json.RoundTrip

/-!
# Round trips of calls

Calls that were written to a file are loaded from it in their order. Nothing of them has changed but the
order of fields in objects among their arguments, and they are written as the same text again.
-/

namespace CallAudit

namespace Datum

theorem lookup_map_snd {α β : Type} (f : α → β) (fields : List (String × α)) (name : String) :
    (fields.map fun field => (field.1, f field.2)).lookup name = (fields.lookup name).map f := by
  induction fields with
  | nil => rfl
  | cons field fields ih =>
    rw [List.map_cons, List.lookup_cons, List.lookup_cons, ih]
    cases name == field.1 <;> rfl

/-- An object in order has under each name what the object had there, in order. -/
theorem exists_ordered_object {fields : List (String × Datum)}
    (hdistinct : (fields.map (·.1)).Nodup) :
    ∃ others, ordered (.object fields) = .object others ∧
      ∀ name, others.lookup name = (fields.lookup name).map ordered := by
  refine ⟨_, ordered_object fields, fun name => ?_⟩
  rw [lookup_map_snd, lookup_eq_of_perm hdistinct (List.mergeSort_perm fields byFieldName).symm]

end Datum

namespace Checked

variable {α : Type} {name : String} {check : Datum → Checked α} {fields : List (String × Datum)}

theorem required_of_lookup {d : Datum} {a : α} (hlookup : fields.lookup name = some d)
    (hcheck : check d = .valid a) : required name check fields = .valid a := by
  rw [required, hlookup]
  exact within_eq_valid_iff.mpr hcheck

theorem optional_of_lookup {default : α} {d : Datum} {a : α} (hlookup : fields.lookup name = some d)
    (hcheck : check d = .valid a) : optional name default check fields = .valid a := by
  rw [optional, hlookup]
  exact within_eq_valid_iff.mpr hcheck

/-- Items that each pass a check pass it together. -/
theorem all_of_forall₂ {ds : List Datum} {as : List α}
    (hitems : List.Forall₂ (fun d a => check d = .valid a) ds as) (index : Nat) :
    all check index ds = .valid as := by
  induction hitems generalizing index with
  | nil => rfl
  | cons hitem _ ih => rw [all, hitem, within, ih]; rfl

end Checked

section Parts

open Checked

theorem ofDatum_ofName (name : Option String) :
    orNull text (Datum.ofName name).ordered = .valid name := by
  cases name <;> rfl

theorem Expression.ofDatum_toDatum (e : Expression) : ofDatum e.toDatum.ordered = .valid e := by
  obtain ⟨fields, hfields, hlookup⟩ : ∃ fields, e.toDatum.ordered = .object fields ∧
      ∀ name, fields.lookup name = _ :=
    Datum.exists_ordered_object (by simp)
  have hkind : required "node_type" text fields = .valid e.kind :=
    required_of_lookup (hlookup "node_type") rfl
  have hsource : optional "source" "" text fields = .valid e.source :=
    optional_of_lookup (hlookup "source") rfl
  rw [hfields, ofDatum, object, hkind, hsource]
  rfl

theorem Receiver.ofDatum_toDatum (receiver : Receiver) :
    ofDatum receiver.toDatum.ordered = .valid receiver := by
  cases receiver with
  | none => rfl
  | named name => rfl
  | expression e =>
    have hread := e.ofDatum_toDatum
    rw [Expression.toDatum, Datum.ordered] at hread
    rw [toDatum, Expression.toDatum, Datum.ordered, ofDatum, hread] <;> simp

theorem PlaceKind.ofDatum_name (kind : PlaceKind) : ofDatum (.text kind.name) = .valid kind := by
  cases kind <;> rfl

theorem Place.ofDatum_toDatum (p : Place) : ofDatum p.toDatum.ordered = .valid p := by
  obtain ⟨fields, hfields, hlookup⟩ : ∃ fields, p.toDatum.ordered = .object fields ∧
      ∀ name, fields.lookup name = _ :=
    Datum.exists_ordered_object (by simp)
  have hkind : optional "type" .elsewhere PlaceKind.ofDatum fields = .valid p.kind :=
    optional_of_lookup (hlookup "type") p.kind.ofDatum_name
  have htemplate : optional "template" none (orNull text) fields = .valid p.template :=
    optional_of_lookup (hlookup "template") (ofDatum_ofName p.template)
  have hfield : classField fields = "class" := by
    rw [classField, hlookup "class"]
    rfl
  have hclass : optional "class" none (orNull text) fields = .valid p.className :=
    optional_of_lookup (hlookup "class") (ofDatum_ofName p.className)
  rw [hfields, ofDatum, object, hkind, htemplate, hfield, hclass]
  rfl

theorem Span.ofDatum_toDatum (s : Span) : ofDatum s.toDatum.ordered = .valid s := by
  obtain ⟨fields, hfields, hlookup⟩ : ∃ fields, s.toDatum.ordered = .object fields ∧
      ∀ name, fields.lookup name = _ :=
    Datum.exists_ordered_object (by simp)
  have hpath : required "path" text fields = .valid s.path :=
    required_of_lookup (hlookup "path") rfl
  have hline : optional "line" none (orNull int) fields = .valid s.line := by
    refine optional_of_lookup (hlookup "line") ?_
    cases s.line <;> rfl
  rw [hfields, ofDatum, object, hpath, hline]
  rfl

end Parts

namespace Call

open Checked

/-- The call with the fields of all objects among its arguments in order. -/
def ordered (call : Call) : Call := { call with args := call.args.map Datum.ordered }

/-- Calls that differ in nothing but the order of fields in objects among their arguments. -/
structure Reordered (call other : Call) : Prop where
  same : other = { call with args := other.args }
  args : List.Forall₂ Datum.Reordered call.args other.args

theorem reordered_ordered (call : Call) : call.Reordered call.ordered where
  same := rfl
  args := by
    rw [ordered, List.forall₂_map_right_iff, List.forall₂_same]
    exact fun arg _ => arg.reordered_ordered

/-- A call is read from the datum that it is written as, in whatever order the fields stand. -/
theorem ofDatum_toDatum (call : Call) : ofDatum call.toDatum.ordered = .valid call.ordered := by
  obtain ⟨fields, hfields, hlookup⟩ : ∃ fields, call.toDatum.ordered = .object fields ∧
      ∀ name, fields.lookup name = _ :=
    Datum.exists_ordered_object (by simp)
  have hmethod : required "method" text fields = .valid call.method :=
    required_of_lookup (hlookup "method") rfl
  have hreceiver : optional "target" .none Receiver.ofDatum fields = .valid call.receiver :=
    optional_of_lookup (hlookup "target") call.receiver.ofDatum_toDatum
  have hchain : optional "chain" [] chainOfDatum fields = .valid call.chain := by
    refine optional_of_lookup (hlookup "chain") (all_of_forall₂ ?_ 0)
    rw [Datum.orderedAll_eq_map, List.forall₂_map_left_iff, List.forall₂_map_left_iff,
      List.forall₂_same]
    exact fun name _ => ofDatum_ofName name
  have hplace : optional "location" .unknown Place.ofDatum fields = .valid call.place :=
    optional_of_lookup (hlookup "location") call.place.ofDatum_toDatum
  have hargs : optional "args" [] argsOfDatum fields = .valid call.ordered.args := by
    refine optional_of_lookup (hlookup "args") (all_of_forall₂ ?_ 0)
    rw [Datum.orderedAll_eq_map, ordered, List.forall₂_same]
    exact fun _ _ => rfl
  have hnested : optional "nested" false bool fields = .valid call.nested :=
    optional_of_lookup (hlookup "nested") rfl
  have hspan : optional "src_span" none (orNull Span.ofDatum) fields = .valid call.span := by
    refine optional_of_lookup (hlookup "src_span") ?_
    cases call.span with
    | none => rfl
    | some span =>
      change map some (Span.ofDatum span.toDatum.ordered) = .valid (some span)
      rw [span.ofDatum_toDatum]
      rfl
  rw [hfields, ofDatum, object, hmethod, hreceiver, hchain, hplace, hargs, hnested, hspan]
  rfl

section Written

variable {calls : List Call} {call : Call}

/-- Whether the arguments of a call can be held by JSON. -/
def IsJson (call : Call) : Prop := ∀ arg ∈ call.args, arg.IsJson

theorem isJson_toDatum (hcall : call.IsJson) : call.toDatum.IsJson := by
  have hname (name : Option String) : (Datum.ofName name).IsJson := by
    cases name with
    | none => exact .null
    | some name => exact .text name
  refine .object (by simp) ?_
  simp only [List.forall_mem_cons]
  refine ⟨.text _, ?_, .list ?_, ?_, .list hcall, .bool _, ?_, by simp⟩
  · cases call.receiver with
    | none => exact .null
    | named name => exact .text name
    | expression e => exact .object (by simp) (by simp [Datum.IsJson.text])
  · simpa using fun name _ => hname name
  · refine .object (by simp) ?_
    simp only [List.forall_mem_cons]
    exact ⟨.text _, hname _, hname _, by simp⟩
  · cases call.span with
    | none => exact .null
    | some span =>
      refine .object (by simp) ?_
      simp only [List.forall_mem_cons]
      refine ⟨.text _, ?_, by simp⟩
      cases span.line with
      | none => exact .null
      | some line => exact .int line

section Line

/-- Whether a line is the text of an object that a call is read from. -/
def IsLineOf (line : String) (call : Call) : Prop :=
  ∃ fields, (Datum.object fields).IsJson ∧ Json.write? (.object fields) = some line ∧
    ofDatum (Datum.object fields).ordered = .valid call

variable {line : String}

theorem isLineOf_of_write? (hcall : call.IsJson) (hwrite : Json.write? call.toDatum = some line) :
    IsLineOf line call.ordered :=
  ⟨_, isJson_toDatum hcall, hwrite, ofDatum_toDatum call⟩

theorem forall₂_isLineOf {lines : List String} (hcalls : ∀ call ∈ calls, call.IsJson)
    (hlines : List.Forall₂ (fun call line => Json.write? (toDatum call) = some line) calls lines) :
    List.Forall₂ IsLineOf lines (calls.map ordered) := by
  induction hlines with
  | nil => exact .nil
  | cons hline _ ih =>
    obtain ⟨hcall, hcalls⟩ := List.forall_mem_cons.mp hcalls
    exact .cons (isLineOf_of_write? hcall hline) (ih hcalls)

theorem ofLine_of_isLineOf (hline : IsLineOf line call) : ofLine (Bytes.ofText line) = .ok call := by
  obtain ⟨fields, hjson, hwrite, hcall⟩ := hline
  obtain ⟨hread, _⟩ := Json.read?_of_write? hjson hwrite
  rw [ofLine, Bytes.text?_ofText, Option.bind_some, hread]
  dsimp only
  rw [hcall]

/-- The line of a call is an object between braces, so there is nothing to strip from it. -/
theorem stripped_of_isLineOf (hline : IsLineOf line call) :
    Bytes.stripped (Bytes.ofText line) = Bytes.ofText line ∧
      (Bytes.ofText line).isEmpty = false := by
  obtain ⟨fields, _, hwrite, _⟩ := hline
  obtain ⟨inner, hinner⟩ : ∃ inner, line.toList = '{' :: inner ++ ['}'] :=
    ⟨_, Json.toList_of_write? hwrite⟩
  have hbytes : Bytes.ofText line =
      123 :: inner.flatMap String.utf8EncodeChar ++ [125] := by
    rw [Bytes.ofText_eq_flatMap, hinner, List.flatMap_append, List.flatMap_cons]
    rfl
  rw [hbytes]
  refine ⟨Bytes.stripped_eq ?_ ?_, rfl⟩
  · rintro byte ⟨⟩
    rfl
  · rw [List.getLast?_concat]
    rintro byte ⟨⟩
    rfl

variable {lines : List String}

theorem ofLines_of_forall₂ (hlines : List.Forall₂ IsLineOf lines calls) (number : Nat) :
    ofLines number (lines.map Bytes.ofText) = .ok calls := by
  induction hlines generalizing number with
  | nil => rfl
  | cons hline _ ih =>
    obtain ⟨hstripped, hfilled⟩ := stripped_of_isLineOf hline
    rw [List.map_cons, ofLines, hstripped, hfilled, if_neg Bool.false_ne_true,
      ofLine_of_isLineOf hline, ih]
    rfl

/-- Loading lines gives the calls that they are the lines of. -/
theorem load_of_lines (hlines : List.Forall₂ IsLineOf lines calls) {path : String}
    (hpath : Path.canExist path = true) :
    load path (.file (Bytes.ofText (linesText lines))) =
      ⟨[.callsLoaded calls.length path], .ok calls⟩ := by
  have hprinted : ∀ bytes ∈ lines.map Bytes.ofText, ∀ byte ∈ bytes, (0x20 : UInt8) ≤ byte := by
    intro bytes hbytes
    obtain ⟨line, hline, rfl⟩ := List.mem_map.mp hbytes
    obtain ⟨call, _, fields, _, hwrite, _⟩ := Json.exists_left_of_forall₂ hlines.flip hline
    intro byte hbyte
    refine Bytes.le_of_mem_ofText (fun c hc => ?_) hbyte
    rw [Json.toList_of_write? hwrite] at hc
    exact Json.le_of_mem_render _ c hc
  have hbytes : ofBytes (Bytes.ofText (linesText lines)) = .ok calls := by
    rw [ofBytes, Bytes.ofText_linesText, Bytes.lines_flatMap hprinted]
    exact ofLines_of_forall₂ hlines 1
  rw [load, hpath, Bool.not_true, if_neg Bool.false_ne_true, hbytes]

end Line

/-- Loading what was written gives the calls with the fields in their arguments in order. -/
theorem load_of_writeLines? (hcalls : ∀ call ∈ calls, call.IsJson) {text : String}
    (hwrite : Json.writeLines? (calls.map toDatum) = some text) {path : String}
    (hpath : Path.canExist path = true) :
    load path (.file (Bytes.ofText text)) =
      ⟨[.callsLoaded calls.length path], .ok (calls.map ordered)⟩ := by
  obtain ⟨lines, hlines, rfl⟩ := Json.exists_lines_of_writeLines? hwrite
  rw [List.forall₂_map_left_iff] at hlines
  rw [load_of_lines (forall₂_isLineOf hcalls hlines) hpath, List.length_map]

end Written

end Call

end CallAudit
