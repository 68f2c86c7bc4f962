import CallAudit.Proofs.File.Lines
import CallAudit.Proofs.Json.Range
import CallAudit.Proofs.Json.Writing

/-!
# The text of a datum as its identity

Data have the same bytes exactly when they differ in nothing but the order of fields: the bytes are read
back as the datum with its fields in order, and the order of fields leaves no trace in them. No line ends
within them, so data that are written a line each are found again between the line feeds.
-/

namespace CallAudit

namespace Datum

theorem IsJson.namesOnce {d : Datum} (hd : d.IsJson) : d.NamesOnce := by
  induction hd with
  | null => exact .null
  | bool b => exact .bool b
  | int i => exact .int i
  | @double d _ => exact .double d
  | text s => exact .text s
  | list _ ih => exact .list ih
  | object hdistinct _ ih => exact .object hdistinct ih

/-- Data that are one datum once their fields are in order differ in nothing but that order. -/
theorem reordered_of_ordered_eq {a b : Datum} (ha : a.IsJson) (h : a.ordered = b.ordered) :
    a.Reordered b := by
  induction ha generalizing b with
  | null => cases b <;> cases h; exact .null
  | bool => cases b <;> cases h; exact .bool _
  | int => cases b <;> cases h; exact .int _
  | double => cases b <;> cases h; exact .double _
  | text => cases b <;> cases h; exact .text _
  | @list items _ ih =>
    cases b with
    | list others =>
      have hitems : items.map ordered = others.map ordered := by
        simpa only [ordered, list.injEq, orderedAll_eq_map] using h
      exact .list (Json.forall₂_of_map_eq hitems fun item hitem other _ hsame => ih item hitem hsame)
    | _ => cases h
  | @object fields _ _ ih =>
    cases b with
    | object others =>
      have hperm : (orderedFields fields).Perm (orderedFields others) :=
        Json.perm_of_mergeSort_eq (object.inj h)
      rw [orderedFields_eq_map, orderedFields_eq_map] at hperm
      obtain ⟨matched, hnames, hvalues, horder⟩ :=
        Json.exists_matched_of_map_perm hperm fun field hfield other _ hsame => ih field hfield hsame
      exact .object hnames hvalues horder
    | _ => cases h

end Datum

namespace Json

section Identity

variable {a b : Datum} {s t : String}

/-- The bytes are read back as the datum with its fields in order. -/
theorem reordered_of_bytes_eq (ha : a.IsJson) (hb : b.IsJson) (hs : write? a = some s)
    (ht : write? b = some t) (h : Bytes.ofText s = Bytes.ofText t) : a.Reordered b := by
  obtain ⟨hreadA, _⟩ := read?_of_write? ha hs
  obtain ⟨hreadB, _⟩ := read?_of_write? hb ht
  rw [Bytes.ofText_inj.mp h, hreadB] at hreadA
  exact Datum.reordered_of_ordered_eq ha (Option.some.inj hreadA).symm

theorem bytes_eq_of_reordered (ha : a.IsJson) (hs : write? a = some s) (ht : write? b = some t)
    (horder : a.Reordered b) : Bytes.ofText s = Bytes.ofText t := by
  have hrender := render_eq_of_reordered ha.namesOnce horder
  rw [← toList_of_write? hs, ← toList_of_write? ht] at hrender
  rw [String.toList_inj.mp hrender]

theorem le_of_mem_bytes (hs : write? a = some s) {byte : UInt8} (hbyte : byte ∈ Bytes.ofText s) :
    0x20 ≤ byte := by
  refine Bytes.le_of_mem_ofText (fun c hc => ?_) hbyte
  rw [toList_of_write? hs] at hc
  exact le_of_mem_render a c hc

/-- There is no end of a line among the bytes. -/
theorem not_mem_bytes (hs : write? a = some s) : 10 ∉ Bytes.ofText s ∧ 13 ∉ Bytes.ofText s :=
  ⟨fun hfeed => absurd (le_of_mem_bytes hs hfeed) (by decide),
    fun hreturn => absurd (le_of_mem_bytes hs hreturn) (by decide)⟩

end Identity

section Counting

theorem writeLines?_cons (d : Datum) (data : List Datum) :
    writeLines? (d :: data) =
      (write? d).bind fun line => (writeLines? data).map (line ++ "\n" ++ ·) := by
  rw [writeLines?, List.mapM_cons]
  cases write? d with
  | none => rfl
  | some line =>
    cases h : data.mapM write? <;> simp [writeLines?, h, String.join_cons]

/-- The lines go after what was written before them, and are counted on from it. -/
theorem foldlM_add? (written : Written) (data : List Datum) :
    data.foldlM Written.add? written =
      (writeLines? data).map fun text => ⟨written.count + data.length, written.text ++ text⟩ := by
  induction data generalizing written with
  | nil => simp [writeLines?]
  | cons d data ih =>
    rw [List.foldlM_cons, Written.add?, writeLines?_cons]
    cases write? d with
    | none => rfl
    | some line =>
      simp only [Option.map_some, Option.bind_eq_bind, Option.bind_some, ih, Option.map_map]
      congr 1
      funext text
      simp [Nat.add_assoc, Nat.add_comm 1, String.append_assoc]

/-- As many lines are counted as there are data. -/
theorem writeCounted?_eq (data : List Datum) :
    writeCounted? data = (writeLines? data).map fun text => ⟨data.length, text⟩ := by
  rw [writeCounted?, foldlM_add?]
  simp

/-- Data that can each be written are written a line each, and these are found again between the line
    feeds. -/
theorem exists_written {data : List Datum} (hdata : ∀ d ∈ data, (write? d).isSome = true) :
    ∃ lines written, List.Forall₂ (fun d line => write? d = some line) data lines ∧
      writeCounted? data = some written ∧ written.count = lines.length ∧
      (Bytes.ofText written.text).splitOn 10 = lines.map Bytes.ofText ++ [[]] := by
  obtain ⟨text, htext⟩ : ∃ text, writeLines? data = some text := by
    refine Option.ne_none_iff_exists'.mp fun h => ?_
    obtain ⟨d, hd, hnone⟩ := writeLines?_eq_none_iff.mp h
    simpa [hnone] using hdata d hd
  obtain ⟨lines, hlines, rfl⟩ := exists_lines_of_writeLines? htext
  refine ⟨lines, ⟨data.length, linesText lines⟩, hlines, ?_, hlines.length_eq, ?_⟩
  · rw [writeCounted?_eq, htext]
    rfl
  · rw [Bytes.ofText_linesText]
    refine Bytes.splitOn_flatMap fun bytes hbytes => ?_
    obtain ⟨line, hline, rfl⟩ := List.mem_map.mp hbytes
    obtain ⟨d, _, hwrite⟩ := exists_left_of_forall₂ hlines hline
    exact (not_mem_bytes hwrite).1

end Counting

/-- All printable data are written, and have the same bytes exactly when they differ in nothing but the
    order of fields. The bytes have no end of a line in them, and those of many data, written a line each,
    are the pieces between the line feeds of the whole, as many as are counted. -/
theorem bytes_eq_iff_reordered :
    (∀ {d : Datum}, d.IsPrintable → ∃ s, write? d = some s) ∧
    (∀ {a b : Datum} {s t : String}, a.IsJson → b.IsJson → write? a = some s → write? b = some t →
      (Bytes.ofText s = Bytes.ofText t ↔ a.Reordered b)) ∧
    (∀ {d : Datum} {s : String}, d.IsJson → write? d = some s →
      10 ∉ Bytes.ofText s ∧ 13 ∉ Bytes.ofText s) ∧
    ∀ {data : List Datum}, (∀ d ∈ data, d.IsJson ∧ (write? d).isSome = true) →
      ∃ lines written, List.Forall₂ (fun d line => write? d = some line) data lines ∧
        writeCounted? data = some written ∧ written.count = lines.length ∧
        (Bytes.ofText written.text).splitOn 10 = lines.map Bytes.ofText ++ [[]] := by
  refine ⟨fun hd => ⟨_, if_pos hd.writable⟩, fun ha hb hs ht => ⟨?_, ?_⟩, fun _ hs => not_mem_bytes hs,
    fun hdata => exists_written fun d hd => (hdata d hd).2⟩
  · exact reordered_of_bytes_eq ha hb hs ht
  · exact bytes_eq_of_reordered ha hs ht

/-- The number one as a double is not written as the whole number is. Two orders of fields are written
    alike, and as two lines. -/
theorem bytes_eq_iff_reordered_one :
    let one : Datum := .double ⟨0x3FF0000000000000⟩
    let object : Datum := .object [("double", one), ("int", .int 1)]
    let swapped : Datum := .object [("int", .int 1), ("double", one)]
    ∃ s t line line', write? one = some s ∧ write? (.int 1) = some t ∧
      write? object = some line ∧ write? swapped = some line' ∧
      Bytes.ofText s ≠ Bytes.ofText t ∧ Bytes.ofText line = Bytes.ofText line' ∧
      10 ∉ Bytes.ofText line ∧
      ∃ written, writeCounted? [object, swapped] = some written ∧ written.count = 2 ∧
        (Bytes.ofText written.text).splitOn 10 = [Bytes.ofText line, Bytes.ofText line', []] := by
  intro one object swapped
  obtain ⟨hwrite, hiff, hends, hwritten⟩ := bytes_eq_iff_reordered
  have hone : one.IsJson := .double (by decide)
  have hobject : object.IsJson := by
    refine .object (by decide) ?_
    simp only [List.forall_mem_cons]
    exact ⟨hone, .int 1, nofun⟩
  have hswapped : swapped.IsJson := by
    refine .object (by decide) ?_
    simp only [List.forall_mem_cons]
    exact ⟨.int 1, hone, nofun⟩
  have hdata : ∀ d ∈ [object, swapped], d.IsJson ∧ (write? d).isSome = true := by
    simp only [List.forall_mem_cons]
    exact ⟨⟨hobject, rfl⟩, ⟨hswapped, rfl⟩, nofun⟩
  obtain ⟨s, hs⟩ := hwrite ⟨hone, rfl⟩
  obtain ⟨t, ht⟩ := hwrite ⟨.int 1, rfl⟩
  obtain ⟨lines, written, hlines, hcounted, hcount, hsplit⟩ := hwritten hdata
  obtain _ | ⟨hline, _ | ⟨hline', _ | _⟩⟩ := hlines
  have hdistinct (d : Double) : ¬ (Datum.double d).Reordered (.int 1) := nofun
  have hreordered : object.Reordered swapped :=
    .object rfl (.cons (.double _) (.cons (.int 1) .nil)) (.swap _ _ _)
  exact ⟨s, t, _, _, hs, ht, hline, hline', fun h => hdistinct _ ((hiff hone (.int 1) hs ht).mp h),
    (hiff hobject hswapped hline hline').mpr hreordered, (hends hobject hline).1, written, hcounted,
    hcount, hsplit⟩

end Json

end CallAudit
