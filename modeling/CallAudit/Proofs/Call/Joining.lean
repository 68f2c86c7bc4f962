import Mathlib
import CallAudit.Call.File
import CallAudit.Proofs.File.Lines

/-!
# Calls files put together

A calls file is loaded line by line, so of two files put together the calls are those of the first and then
those of the second, and a fault in the second keeps its reason and is counted on from the lines of the
first. A file that has a fault is never loaded in part: its first line with a fault is named.
-/

namespace CallAudit.Call

/-- What a line holds: nothing if it is blank, and else a call or a fault. -/
def content? (line : List UInt8) : Option (Except LineFault Call) :=
  if (Bytes.stripped line).isEmpty then none else some (ofLine (Bytes.stripped line))

/-- Nothing of some lines is left out of what is read from them: that is all the calls on them, in order,
    or the number and the fault of the first line that has one. -/
inductive AllOrFirstFault (number : Nat) (lines : List (List UInt8)) :
    Except (Nat × LineFault) (List Call) → Prop
  | all (calls : List Call) (each : lines.filterMap content? = calls.map .ok) :
      AllOrFirstFault number lines (.ok calls)
  | firstFault (before : List (List UInt8)) (calls : List Call) {line : List UInt8}
      {after : List (List UInt8)} {fault : LineFault} (parts : lines = before ++ line :: after)
      (each : before.filterMap content? = calls.map .ok) (bad : content? line = some (.error fault)) :
      AllOrFirstFault number lines (.error (number + before.length, fault))

namespace AllOrFirstFault

variable {number : Nat} {line : List UInt8} {lines : List (List UInt8)}
  {read : Except (Nat × LineFault) (List Call)}

theorem cons_blank (hread : AllOrFirstFault (number + 1) lines read) (hline : content? line = none) :
    AllOrFirstFault number (line :: lines) read := by
  cases hread with
  | all calls each => exact .all calls (by rw [List.filterMap_cons_none hline, each])
  | firstFault before calls parts each hbad =>
    rw [Nat.add_assoc, Nat.add_comm 1]
    exact .firstFault (line :: before) calls (by rw [parts, List.cons_append])
      (by rw [List.filterMap_cons_none hline, each]) hbad

theorem cons_call {call : Call} (hread : AllOrFirstFault (number + 1) lines read)
    (hline : content? line = some (.ok call)) :
    AllOrFirstFault number (line :: lines) (read.map (call :: ·)) := by
  cases hread with
  | all calls each =>
    exact .all (call :: calls) (by rw [List.filterMap_cons_some hline, each, List.map_cons])
  | firstFault before calls parts each hbad =>
    rw [Nat.add_assoc, Nat.add_comm 1]
    exact .firstFault (line :: before) (call :: calls) (by rw [parts, List.cons_append])
      (by rw [List.filterMap_cons_some hline, each, List.map_cons]) hbad

end AllOrFirstFault

theorem ofLines_cons (number : Nat) (line : List UInt8) (rest : List (List UInt8)) :
    ofLines number (line :: rest) =
      match content? line with
      | none => ofLines (number + 1) rest
      | some (.error fault) => .error (number, fault)
      | some (.ok call) => (ofLines (number + 1) rest).map (call :: ·) := by
  rw [ofLines, content?]
  split
  · rfl
  · cases ofLine (Bytes.stripped line) <;> rfl

section Lines

/-- The calls on some lines come before those on further lines, which are counted on. -/
theorem ofLines_append (number : Nat) (lines others : List (List UInt8)) :
    ofLines number (lines ++ others) = ofLines number lines >>= fun calls =>
      (ofLines (number + lines.length) others).map (calls ++ ·) := by
  induction lines generalizing number with
  | nil => cases h : ofLines number others <;> simp [ofLines, h, Except.map, bind, Except.bind]
  | cons line lines ih =>
    rw [List.cons_append, ofLines_cons, ofLines_cons, ih, List.length_cons, Nat.add_assoc,
      Nat.add_comm 1]
    cases content? line with
    | none => rfl
    | some read =>
      cases read with
      | error fault => rfl
      | ok call =>
        cases ofLines (number + 1) lines with
        | error fault => rfl
        | ok calls => cases ofLines (number + (lines.length + 1)) others <;> rfl

/-- Lines that are counted from a higher number on have their faults at higher numbers. -/
theorem ofLines_add (offset number : Nat) (lines : List (List UInt8)) :
    ofLines (offset + number) lines =
      (ofLines number lines).mapError fun (number, fault) => (offset + number, fault) := by
  induction lines generalizing number with
  | nil => rfl
  | cons line lines ih =>
    rw [ofLines_cons, ofLines_cons, Nat.add_assoc, ih]
    cases content? line with
    | none => rfl
    | some read =>
      cases read with
      | error fault => rfl
      | ok call => cases ofLines (number + 1) lines <;> rfl

/-- Either every line that is not blank holds a call, or there is a first line with a fault. -/
theorem allOrFirstFault_ofLines (number : Nat) (lines : List (List UInt8)) :
    AllOrFirstFault number lines (ofLines number lines) := by
  induction lines generalizing number with
  | nil => exact .all [] rfl
  | cons line lines ih =>
    rw [ofLines_cons]
    cases hcontent : content? line with
    | none => exact (ih (number + 1)).cons_blank hcontent
    | some read =>
      cases read with
      | error fault => exact .firstFault [] [] rfl rfl hcontent
      | ok call => exact (ih (number + 1)).cons_call hcontent

end Lines

/-- The lines of bytes that end with a line feed are loaded first, and the others counted on from them. -/
theorem ofBytes_append {first : List UInt8} (hended : first = [] ∨ first.getLast? = some 10)
    (second : List UInt8) :
    ofBytes (first ++ second) = ofBytes first >>= fun calls =>
      ((ofBytes second).mapError fun (number, fault) => (Bytes.lineEnds first + number, fault)).map
        (calls ++ ·) := by
  rw [ofBytes, Bytes.lines_append hended, ofLines_append, Bytes.length_lines hended, Nat.add_comm 1,
    ofLines_add]
  rfl

/-- A file at a path that can exist is loaded, or a line of it is named. -/
theorem outcome_load_file {path : String} (hpath : Path.canExist path = true) (bytes : List UInt8) :
    (load path (.file bytes)).outcome =
      (ofBytes bytes).mapError fun (number, fault) => .badLine path number fault := by
  rw [load, hpath]
  cases ofBytes bytes <;> rfl

theorem outcome_load_of_not_canExist {path : String} (hpath : Path.canExist path = false)
    (view : FileView) : (load path view).outcome = .error .badValue := by
  simp only [load, hpath]
  rfl

/-- What is put after a file that is loaded adds its calls, or its fault, counted on from the lines of the
    file. What is put after a file that has a fault does not matter. -/
theorem outcome_load_append (path : String) {first : List UInt8}
    (hended : first = [] ∨ first.getLast? = some 10) (second : List UInt8) :
    (load path (.file (first ++ second))).outcome =
      (load path (.file first)).outcome >>= fun calls =>
        match (load path (.file second)).outcome with
        | .ok others => .ok (calls ++ others)
        | .error (.badLine path number fault) =>
          .error (.badLine path (Bytes.lineEnds first + number) fault)
        | .error failure => .error failure := by
  cases hpath : Path.canExist path with
  | false => rw [outcome_load_of_not_canExist hpath, outcome_load_of_not_canExist hpath]; rfl
  | true =>
    rw [outcome_load_file hpath, outcome_load_file hpath, outcome_load_file hpath,
      ofBytes_append hended]
    cases ofBytes first with
    | error fault => rfl
    | ok calls => cases ofBytes second <;> rfl

/-- Loading takes files put together to their calls put together. -/
theorem load_append (path : String) {first : List UInt8}
    (hended : first = [] ∨ first.getLast? = some 10) (second : List UInt8) :
    (∀ calls, (load path (.file first)).outcome = .ok calls →
      (∀ others, (load path (.file second)).outcome = .ok others →
        (load path (.file (first ++ second))).outcome = .ok (calls ++ others)) ∧
      ∀ number fault, (load path (.file second)).outcome = .error (.badLine path number fault) →
        (load path (.file (first ++ second))).outcome =
          .error (.badLine path (Bytes.lineEnds first + number) fault)) ∧
    (∀ failure, (load path (.file first)).outcome = .error failure →
      (load path (.file (first ++ second))).outcome = .error failure) ∧
    ∀ bytes, Path.canExist path = true →
      ∃ read, AllOrFirstFault 1 (Bytes.lines bytes) read ∧
        (load path (.file bytes)).outcome =
          read.mapError fun (number, fault) => .badLine path number fault := by
  rw [outcome_load_append path hended]
  refine ⟨fun calls hfirst => ⟨fun others hsecond => ?_, fun number fault hsecond => ?_⟩,
    fun failure hfirst => ?_, fun bytes hpath => ?_⟩
  · rw [hfirst, hsecond]
    rfl
  · rw [hfirst, hsecond]
    rfl
  · rw [hfirst]
    rfl
  · exact ⟨ofBytes bytes, allOrFirstFault_ofLines 1 _, outcome_load_file hpath bytes⟩

/-- Each pair of a carriage return and a line feed ends one line, and the lines that are blank count. -/
theorem load_append_of_blank_line :
    let first : List UInt8 := Bytes.ofText "\x7b\"method\":\"find\"\x7d\r\n\r\n"
    (first = [] ∨ first.getLast? = some 10) ∧
    (load "calls.jsonl" (.file first)).outcome = .ok [ofChain "find" []] ∧
    (load "calls.jsonl" (.file [10, 120])).outcome = .error (.badLine "calls.jsonl" 2 .notJson) ∧
    (load "calls.jsonl" (.file (first ++ [10, 120]))).outcome =
      .error (.badLine "calls.jsonl" 4 .notJson) := by
  intro first
  have hended : first.getLast? = some 10 := by decide +kernel
  have hends : Bytes.lineEnds first = 2 := by decide +kernel
  have hlines : Bytes.lines first = [Bytes.ofText "\x7b\"method\":\"find\"\x7d", []] := by decide +kernel
  have hcall : content? (Bytes.ofText "\x7b\"method\":\"find\"\x7d") = some (.ok (ofChain "find" [])) := by cbv
  have hblank : content? [] = none := rfl
  have hbad : content? [120] = some (.error .notJson) := by cbv
  have hfirst : (load "calls.jsonl" (.file first)).outcome = .ok [ofChain "find" []] := by
    rw [outcome_load_file (by decide), ofBytes, hlines, ofLines_cons, hcall, ofLines_cons, hblank]
    rfl
  have hsecond : (load "calls.jsonl" (.file [10, 120])).outcome =
      .error (.badLine "calls.jsonl" 2 .notJson) := by
    have hlines : Bytes.lines [10, 120] = [[], [120]] := by decide
    rw [outcome_load_file (by decide), ofBytes, hlines, ofLines_cons, hblank, ofLines_cons, hbad]
    rfl
  have hadded := ((load_append "calls.jsonl" (.inr hended) [10, 120]).1 _ hfirst).2 2 _ hsecond
  rw [hends] at hadded
  exact ⟨.inr hended, hfirst, hsecond, hadded⟩

end CallAudit.Call
