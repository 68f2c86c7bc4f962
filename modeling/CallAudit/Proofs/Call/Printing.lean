import CallAudit.Call.Data
import CallAudit.Call.File
import CallAudit.Proofs.Check.Validated
import CallAudit.Proofs.Json.Range

/-!
# Printing loaded calls

What is read as JSON can be written as JSON, and so can a call that is made of it, with one exception: a
line number may be given by a text, whose digits may be too many for the word that it is written as.
-/

namespace CallAudit

namespace Checked

variable {α : Type} {check : Datum → Checked α}

def value? : Checked α → Option α
  | valid a => some a
  | invalid _ => none

theorem value?_eq_some_iff {checked : Checked α} {a : α} :
    checked.value? = some a ↔ checked = .valid a := by
  cases checked <;> simp [value?]

theorem exists_of_orNull {d : Datum} (hgiven : d ≠ .null) {value : Option α}
    (hread : orNull check d = .valid value) : ∃ a, check d = .valid a ∧ value = some a := by
  unfold orNull at hread
  split at hread
  · exact absurd rfl hgiven
  · obtain ⟨a, ha, hvalue⟩ := map_eq_valid_iff.mp hread
    exact ⟨a, ha, hvalue.symm⟩

/-- An optional field that may be null has the value that its datum is read as, if it is there. -/
theorem eq_of_optional_orNull (hnull : (check .null).value? = none) {name : String}
    {fields : List (String × Datum)} {value : Option α}
    (hread : optional name none (orNull check) fields = .valid value) :
    value = (fields.lookup name).bind fun d => (check d).value? := by
  unfold optional at hread
  cases hfield : fields.lookup name with
  | none =>
    rw [hfield] at hread
    cases hread
    rfl
  | some d =>
    rw [hfield] at hread
    have hread := within_eq_valid_iff.mp hread
    rw [Option.bind_some]
    by_cases hgiven : d = .null
    · subst hgiven
      cases hread
      exact hnull.symm
    · obtain ⟨a, ha, rfl⟩ := exists_of_orNull hgiven hread
      rw [ha, value?]

theorem eq_of_all_valid {index : Nat} {ds others : List α} (hread : all valid index ds = .valid others) :
    others = ds := by
  induction ds generalizing index others with
  | nil =>
    cases hread
    rfl
  | cons d ds ih =>
    obtain ⟨_, hfirst, rest, hrest, rfl⟩ := both_eq_valid_iff.mp hread
    cases hfirst
    rw [ih hrest]

/-- An integer that is not given by a text fits in a word if its datum can be printed. -/
theorem fits_of_int {d : Datum} (hprintable : d.IsPrintable) (hgiven : ∀ s, d ≠ .text s) {i : Int}
    (hint : int d = .valid i) : Word.fits i = true := by
  cases d with
  | bool b =>
    cases hint
    cases b <;> rfl
  | int j =>
    cases hint
    exact hprintable.writable
  | double x =>
    rw [int] at hint
    split at hint
    · cases hint
    · split at hint
      · cases hint
      · split at hint
        · next hfits =>
          cases hint
          rw [Word.sizeFits, Bool.and_eq_true, decide_eq_true_eq, decide_eq_true_eq] at hfits
          rw [Word.fits, Bool.and_eq_true, decide_eq_true_eq, decide_eq_true_eq]
          unfold Word.signedEnd at hfits ⊢
          unfold Word.unsignedEnd
          omega
        · cases hint
  | text s => exact absurd rfl (hgiven s)
  | _ => cases hint

end Checked

theorem Datum.IsPrintable.of_field? {d x : Datum} (hprintable : d.IsPrintable) {name : String}
    (hfield : d.field? name = some x) : x.IsPrintable := by
  cases d with
  | object fields =>
    have hfields := isPrintable_object_iff.mp hprintable
    exact hfields.each (name, x) ((lookup_eq_some_iff_mem hfields.distinct).mp hfield)
  | _ => cases hfield

/-- The line of a span is read from its field. -/
theorem Span.line_eq_of_ofDatum {d : Datum} {span : Span} (hread : ofDatum d = .valid span) :
    span.line = (d.field? "line").bind fun x => (Checked.int x).value? := by
  cases d with
  | object fields =>
    rw [ofDatum, Checked.object] at hread
    simp only [Checked.seq_eq_valid_iff, Checked.functorMap_eq_valid_iff] at hread
    obtain ⟨_, ⟨path, _, rfl⟩, line, hline, rfl⟩ := hread
    exact Checked.eq_of_optional_orNull rfl hline
  | _ => cases hread

namespace Call

open Checked (optional orNull object)

/-- The line that a call stands on, if it is known. -/
def line? (call : Call) : Option Int := call.span.bind Span.line

/-- Whether a call can be written as JSON. -/
def isPrintable (call : Call) : Bool := (Json.write? call.toDatum).isSome

/-- What a datum of a call gives as the line. -/
def givenLine? (d : Datum) : Option Datum := (d.field? "src_span").bind (Datum.field? "line")

/-- Whether a datum of a call gives a line by the digits of a number that does not fit in a word. -/
def HasLongLine (d : Datum) : Prop :=
  ∃ text line, givenLine? d = some (.text text) ∧ Checked.intOfText text.toList = .valid line ∧
    Word.fits line = false

section Read

variable {d : Datum} {call : Call}

/-- The arguments and the span of a call, as they were read. -/
theorem exists_fields_of_ofDatum (hread : ofDatum d = .valid call) :
    ∃ fields, d = .object fields ∧ optional "args" [] argsOfDatum fields = .valid call.args ∧
      optional "src_span" none (orNull Span.ofDatum) fields = .valid call.span := by
  cases d with
  | object fields =>
    refine ⟨fields, rfl, ?_⟩
    rw [ofDatum, object] at hread
    simp only [Checked.seq_eq_valid_iff, Checked.functorMap_eq_valid_iff] at hread
    obtain ⟨_, ⟨_, ⟨_, ⟨_, ⟨_, ⟨_, ⟨method, _, rfl⟩, receiver, _, rfl⟩, chain, _, rfl⟩, place, _, rfl⟩,
      args, hargs, rfl⟩, nested, _, rfl⟩, span, hspan, rfl⟩ := hread
    exact ⟨hargs, hspan⟩
  | _ => cases hread

theorem args_isPrintable (hprintable : d.IsPrintable) (hread : ofDatum d = .valid call) :
    (Datum.list call.args).IsPrintable := by
  obtain ⟨fields, rfl, hargs, _⟩ := exists_fields_of_ofDatum hread
  obtain hnone | ⟨x, hfield, hx⟩ := Checked.of_optional_eq_valid hargs
  · rw [hnone]
    exact Datum.isPrintable_list_iff.mpr (by simp)
  · cases x with
    | list ds =>
      rw [Checked.eq_of_all_valid hx]
      exact hprintable.of_field? hfield
    | _ => cases hx

/-- The line of a call is read from what its datum gives. -/
theorem line?_eq_of_ofDatum (hread : ofDatum d = .valid call) :
    call.line? = (givenLine? d).bind fun x => (Checked.int x).value? := by
  obtain ⟨fields, rfl, _, hspan⟩ := exists_fields_of_ofDatum hread
  have hvalue := Checked.eq_of_optional_orNull rfl hspan
  rw [line?, hvalue, givenLine?, Datum.field?]
  cases hfield : fields.lookup "src_span" with
  | none => rfl
  | some x =>
    rw [Option.bind_some, Option.bind_some]
    have hx : orNull Span.ofDatum x = .valid call.span := by
      unfold Checked.optional at hspan
      rw [hfield] at hspan
      exact Checked.within_eq_valid_iff.mp hspan
    by_cases hgiven : x = .null
    · subst hgiven
      rfl
    · obtain ⟨span, hread, _⟩ := Checked.exists_of_orNull hgiven hx
      rw [hread]
      exact Span.line_eq_of_ofDatum hread

theorem isWritable_toDatum (hargs : (Datum.list call.args).IsPrintable) :
    Json.isWritable call.toDatum = call.line?.all Word.fits := by
  have hname (name : Option String) : Json.isWritable (Datum.ofName name) = true := by
    cases name <;> rfl
  have hreceiver : Json.isWritable call.receiver.toDatum = true := by
    cases call.receiver <;> rfl
  have hchain : Json.isWritable (.list (call.chain.map Datum.ofName)) = true := by
    refine Json.allWritable_iff.mpr fun d hd => ?_
    obtain ⟨name, _, rfl⟩ := List.mem_map.mp hd
    exact hname name
  have hplace : Json.isWritable call.place.toDatum = true := by
    simp [Place.toDatum, Json.isWritable, Json.fieldsWritable, hname]
  have hspan : Json.isWritable ((call.span.map Span.toDatum).getD .null) =
      call.line?.all Word.fits := by
    rw [line?]
    cases call.span with
    | none => rfl
    | some span =>
      obtain ⟨path, line⟩ := span
      cases line with
      | none => rfl
      | some line => simp [Span.toDatum, Json.isWritable, Json.fieldsWritable]
  rw [toDatum, Json.isWritable]
  simp only [Json.fieldsWritable, hreceiver, hchain, hplace, hargs.writable, hspan]
  simp [Json.isWritable]

/-- A call that was read from printable data cannot be written if and only if its line is too long. -/
theorem isPrintable_eq_false_iff (hprintable : d.IsPrintable) (hread : ofDatum d = .valid call) :
    call.isPrintable = false ↔ HasLongLine d := by
  have hwrite : call.isPrintable = false ↔
      ∃ line, call.line? = some line ∧ Word.fits line = false := by
    unfold isPrintable Json.write?
    rw [isWritable_toDatum (args_isPrintable hprintable hread)]
    cases call.line? with
    | none => simp
    | some line => cases hfits : Word.fits line <;> simp [hfits]
  rw [hwrite, line?_eq_of_ofDatum hread]
  constructor
  · rintro ⟨line, hline, hlong⟩
    obtain ⟨x, hgiven, hx⟩ := Option.bind_eq_some_iff.mp hline
    have hint : Checked.int x = .valid line := Checked.value?_eq_some_iff.mp hx
    obtain ⟨span, hspan, hfield⟩ := Option.bind_eq_some_iff.mp hgiven
    have hprintable := (hprintable.of_field? hspan).of_field? hfield
    by_cases htext : ∃ text, x = .text text
    · obtain ⟨text, rfl⟩ := htext
      exact ⟨text, line, hgiven, hint, hlong⟩
    · have hfits := Checked.fits_of_int hprintable (fun s hs => htext ⟨s, hs⟩) hint
      rw [hlong] at hfits
      cases hfits
  · rintro ⟨text, line, hgiven, hline, hlong⟩
    refine ⟨line, ?_, hlong⟩
    rw [hgiven, Option.bind_some, Checked.int, hline, Checked.value?]

end Read

/-- The lines of a file that are not blank, without the blanks around them. -/
def contentLines (bytes : List UInt8) : List (List UInt8) :=
  ((Bytes.lines bytes).map Bytes.stripped).filter fun line => !line.isEmpty

/-- The datum that a line is the JSON text of. -/
def datumOfLine? (line : List UInt8) : Option Datum :=
  (Bytes.text? line).bind fun text => Json.read? .machine text.toList

theorem exists_datum_of_ofLine {line : List UInt8} {call : Call} (hread : ofLine line = .ok call) :
    ∃ d, datumOfLine? line = some d ∧ ofDatum d = .valid call := by
  unfold ofLine at hread
  split at hread
  · cases hread
  · next d hd =>
    split at hread
    · next hcall =>
      cases hread
      exact ⟨d, hd, hcall⟩
    · cases hread

/-- Loaded calls come from the lines that are not blank, one from each. -/
theorem forall₂_of_ofLines {number : Nat} {lines : List (List UInt8)} {calls : List Call}
    (hread : ofLines number lines = .ok calls) :
    List.Forall₂ (fun line call => ofLine line = .ok call)
      ((lines.map Bytes.stripped).filter fun line => !line.isEmpty) calls := by
  induction lines generalizing number calls with
  | nil =>
    cases hread
    exact .nil
  | cons line rest ih =>
    rw [ofLines] at hread
    split at hread
    · next hblank =>
      rw [List.map_cons, List.filter_cons_of_neg (by simp [hblank])]
      exact ih hread
    · next hfilled =>
      rw [List.map_cons, List.filter_cons_of_pos (by simpa using hfilled)]
      split at hread
      · cases hread
      · next call hcall =>
        cases hrest : ofLines (number + 1) rest with
        | error fault =>
          rw [hrest] at hread
          cases hread
        | ok calls =>
          rw [hrest] at hread
          cases hread
          exact .cons hcall (ih hrest)

theorem ofBytes_of_load {path : String} {bytes : List UInt8} {calls : List Call}
    (hload : (load path (.file bytes)).outcome = .ok calls) : ofBytes bytes = .ok calls := by
  unfold load at hload
  split at hload
  · cases hload
  · cases hbytes : ofBytes bytes with
    | error fault =>
      simp only [hbytes] at hload
      cases hload
    | ok read =>
      simp only [hbytes] at hload
      cases hload
      rfl

/-- Every loaded call can be written unless its line gives a number that is too long. -/
theorem forall₂_of_load {path : String} {bytes : List UInt8} {calls : List Call}
    (hload : (load path (.file bytes)).outcome = .ok calls) :
    List.Forall₂ (fun line call => ∃ d, datumOfLine? line = some d ∧ ofDatum d = .valid call ∧
      (call.isPrintable = false ↔ HasLongLine d)) (contentLines bytes) calls := by
  refine (forall₂_of_ofLines (ofBytes_of_load hload)).imp fun line call hline => ?_
  obtain ⟨d, hd, hcall⟩ := exists_datum_of_ofLine hline
  obtain ⟨text, _, hread⟩ := Option.bind_eq_some_iff.mp hd
  exact ⟨d, hd, hcall, isPrintable_eq_false_iff (Json.isPrintable_of_read? hread) hcall⟩

end Call

end CallAudit
