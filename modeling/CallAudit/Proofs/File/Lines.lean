import CallAudit.Event
import CallAudit.File.Contents
import Mathlib.Data.List.Basic
import Mathlib.Tactic.SplitIfs

/-!
# Bytes and lines of a text

A text is read back from its bytes, and lines without control characters are found again in a text that
they were written to, each ended by a line feed. Bytes that end with a line feed have their lines whatever
is put after them.
-/

namespace CallAudit.Bytes

/-- The bytes of a text in UTF-8. -/
def ofText (s : String) : List UInt8 := s.toByteArray.data.toList

theorem ofText_eq_flatMap (s : String) : ofText s = s.toList.flatMap String.utf8EncodeChar := by
  rw [ofText, ← String.utf8Encode_toList, List.utf8Encode, List.toList_data_toByteArray]

theorem ofText_append (s t : String) : ofText (s ++ t) = ofText s ++ ofText t := by
  simp only [ofText_eq_flatMap, String.toList_append, List.flatMap_append]

theorem text?_ofText (s : String) : text? (ofText s) = some s := by
  have hbytes : (⟨(ofText s).toArray⟩ : ByteArray) = s.toByteArray := by
    rw [ofText, Array.toArray_toList]
  rw [text?, hbytes, String.fromUTF8?, dif_pos s.isValidUTF8]
  rfl

theorem ofText_inj {s t : String} : ofText s = ofText t ↔ s = t := by
  refine ⟨fun h => ?_, congrArg ofText⟩
  have hread := congrArg text? h
  rwa [text?_ofText, text?_ofText, Option.some.injEq] at hread

/-- A character that is no control character has no byte that ends a line. -/
theorem le_of_mem_utf8EncodeChar {c : Char} (hc : 0x20 ≤ c.toNat) {byte : UInt8}
    (hbyte : byte ∈ String.utf8EncodeChar c) : 0x20 ≤ byte := by
  have hvalue : c.val.toNat = c.toNat := rfl
  have hle {n : Nat} (hlow : 0x20 ≤ n) (hhigh : n < 256) : (0x20 : UInt8) ≤ UInt8.ofNat n := by
    rw [UInt8.le_iff_toNat_le, UInt8.toNat_ofNat_of_lt' hhigh]
    exact hlow
  unfold String.utf8EncodeChar at hbyte
  dsimp only at hbyte
  rw [hvalue] at hbyte
  split_ifs at hbyte <;> simp only [List.mem_cons, List.not_mem_nil, or_false] at hbyte
  · subst hbyte
    exact hle (by omega) (by omega)
  · obtain rfl | rfl := hbyte
    all_goals exact hle (by omega) (by omega)
  · obtain rfl | rfl | rfl := hbyte
    all_goals exact hle (by omega) (by omega)
  · obtain rfl | rfl | rfl | rfl := hbyte
    all_goals exact hle (by omega) (by omega)

theorem le_of_mem_ofText {s : String} (hs : ∀ c ∈ s.toList, 0x20 ≤ c.toNat) {byte : UInt8}
    (hbyte : byte ∈ ofText s) : 0x20 ≤ byte := by
  rw [ofText_eq_flatMap] at hbyte
  obtain ⟨c, hc, hmem⟩ := List.mem_flatMap.mp hbyte
  exact le_of_mem_utf8EncodeChar (hs c hc) hmem

section Lines

theorem linesFrom_return {rest : List UInt8} (hrest : rest.head? ≠ some 10) (line : List UInt8) :
    linesFrom line (13 :: rest) = line.reverse :: lines rest := by
  rw [linesFrom]
  · rfl
  · rintro others rfl
    exact hrest rfl

theorem linesFrom_other {byte : UInt8} (hfeed : byte ≠ 10) (hreturn : byte ≠ 13)
    (line rest : List UInt8) : linesFrom line (byte :: rest) = linesFrom (byte :: line) rest := by
  rw [linesFrom]
  · exact hfeed
  · exact fun _ h => absurd h hreturn
  · exact hreturn

/-- A line feed ends the line before it. -/
theorem linesFrom_append {line : List UInt8} (hline : ∀ byte ∈ line, 0x20 ≤ byte)
    (before rest : List UInt8) :
    linesFrom before (line ++ 10 :: rest) = (before.reverse ++ line) :: lines rest := by
  induction line generalizing before with
  | nil =>
    rw [List.nil_append, List.append_nil]
    rfl
  | cons byte line ih =>
    obtain ⟨hbyte, hline⟩ := List.forall_mem_cons.mp hline
    have hfeed : byte ≠ 10 := by
      rintro rfl
      exact absurd hbyte (by decide)
    have hreturn : byte ≠ 13 := by
      rintro rfl
      exact absurd hbyte (by decide)
    rw [List.cons_append, linesFrom_other hfeed hreturn, ih hline, List.reverse_cons, List.append_assoc]
    rfl

/-- Lines are found again that were each ended by a line feed. -/
theorem lines_flatMap {texts : List (List UInt8)}
    (htexts : ∀ text ∈ texts, ∀ byte ∈ text, 0x20 ≤ byte) :
    lines (texts.flatMap (· ++ [10])) = texts := by
  induction texts with
  | nil => rfl
  | cons text texts ih =>
    obtain ⟨htext, htexts⟩ := List.forall_mem_cons.mp htexts
    rw [List.flatMap_cons, List.append_assoc, List.singleton_append, lines, linesFrom_append htext,
      ih htexts]
    rfl

/-- Lines are found again between line feeds if they have none in them. -/
theorem splitOn_flatMap {texts : List (List UInt8)} (htexts : ∀ text ∈ texts, 10 ∉ text) :
    (texts.flatMap (· ++ [10])).splitOn 10 = texts ++ [[]] := by
  induction texts with
  | nil => rfl
  | cons text texts ih =>
    obtain ⟨htext, htexts⟩ := List.forall_mem_cons.mp htexts
    have hsplit (rest : List UInt8) :
        (text ++ 10 :: rest).splitOn 10 = text.splitOn 10 ++ rest.splitOn 10 :=
      List.splitOnP_append_cons text rest (beq_self_eq_true 10)
    rw [List.flatMap_cons, List.append_assoc, List.singleton_append, hsplit,
      List.splitOn_eq_singleton htext, ih htexts]
    rfl

theorem ofText_linesText (lines : List String) :
    ofText (linesText lines) = (lines.map ofText).flatMap (· ++ [10]) := by
  induction lines with
  | nil => rfl
  | cons line lines ih =>
    have hjoin : linesText (line :: lines) = line ++ "\n" ++ linesText lines := by
      simp [linesText, String.join_cons]
    have hfeed : ofText "\n" = [10] := rfl
    rw [hjoin, ofText_append, ofText_append, hfeed, ih, List.map_cons, List.flatMap_cons]

/-- Nothing is stripped from a line that neither starts nor ends with a blank. -/
theorem stripped_eq {line : List UInt8} (hhead : ∀ byte ∈ line.head?, isBlank byte = false)
    (hlast : ∀ byte ∈ line.getLast?, isBlank byte = false) : stripped line = line := by
  have hdrop {bytes : List UInt8} (hhead : ∀ byte ∈ bytes.head?, isBlank byte = false) :
      bytes.dropWhile isBlank = bytes := by
    cases bytes with
    | nil => rfl
    | cons byte bytes => exact List.dropWhile_cons_of_neg (by simp [hhead byte rfl])
  rw [stripped, hdrop hhead, hdrop (by simpa using hlast), List.reverse_reverse]

end Lines

section Joining

/-- The number of ends of lines: line feeds, and carriage returns that no line feed follows. -/
def lineEnds : List UInt8 → Nat
  | [] => 0
  | byte :: rest =>
    (if byte = 10 ∨ byte = 13 ∧ rest.head? ≠ some 10 then 1 else 0) + lineEnds rest

/-- A line feed is the end of a line whatever follows, and whatever stands before it. -/
theorem linesFrom_feed_append (line bytes rest : List UInt8) :
    linesFrom line (bytes ++ 10 :: rest) = linesFrom line (bytes ++ [10]) ++ lines rest := by
  fun_induction linesFrom line bytes with
  | case1 | case2 => rfl
  | case3 line bytes ih | case4 line bytes ih => exact congrArg (line.reverse :: ·) ih
  | case5 line bytes hbytes ih =>
    cases bytes with
    -- The line feed belongs to the carriage return before it, so both end one line.
    | nil => rfl
    | cons byte bytes =>
      have hhead : byte ≠ 10 := fun h => hbytes bytes (h ▸ rfl)
      have hstep (others : List UInt8) : linesFrom line (13 :: byte :: bytes ++ others) =
          line.reverse :: lines (byte :: bytes ++ others) :=
        linesFrom_return (by simpa using hhead) line
      rw [hstep, hstep]
      exact congrArg (line.reverse :: ·) ih
  | case6 line byte bytes hfeed _ hreturn ih =>
    rw [List.cons_append, List.cons_append, linesFrom_other hfeed hreturn,
      linesFrom_other hfeed hreturn, ih]

theorem length_linesFrom_feed (line bytes : List UInt8) :
    (linesFrom line (bytes ++ [10])).length = lineEnds (bytes ++ [10]) := by
  fun_induction linesFrom line bytes with
  | case1 | case2 => rfl
  | case3 line bytes ih =>
    rw [List.cons_append, linesFrom, List.length_cons, ih, lineEnds]
    simp [Nat.add_comm]
  | case4 line bytes ih =>
    rw [List.cons_append, List.cons_append, linesFrom, List.length_cons, ih, lineEnds, lineEnds]
    simp [Nat.add_comm]
  | case5 line bytes hbytes ih =>
    cases bytes with
    | nil => rfl
    | cons byte bytes =>
      have hhead : byte ≠ 10 := fun h => hbytes bytes (h ▸ rfl)
      rw [List.cons_append, linesFrom_return (by simpa), List.length_cons, lines, ih, lineEnds]
      simp [hhead, Nat.add_comm]
  | case6 line byte bytes hfeed _ hreturn ih =>
    have hother : ¬(byte = 10 ∨ byte = 13 ∧ (bytes ++ [10]).head? ≠ some 10) := by
      rintro (h | ⟨h, -⟩)
      · exact hfeed h
      · exact hreturn h
    rw [List.cons_append, linesFrom_other hfeed hreturn, ih, lineEnds, if_neg hother, Nat.zero_add]

variable {bytes : List UInt8} (hended : bytes = [] ∨ bytes.getLast? = some 10)

include hended

/-- The lines of bytes that end with a line feed are followed by the lines of what is put after them. -/
theorem lines_append (rest : List UInt8) : lines (bytes ++ rest) = lines bytes ++ lines rest := by
  obtain rfl | hlast := hended
  · rfl
  · obtain ⟨before, rfl⟩ := List.getLast?_eq_some_iff.mp hlast
    rw [List.append_assoc, List.singleton_append]
    exact linesFrom_feed_append [] before rest

/-- There are as many of them as there are ends of lines. -/
theorem length_lines : (lines bytes).length = lineEnds bytes := by
  obtain rfl | hlast := hended
  · rfl
  · obtain ⟨before, rfl⟩ := List.getLast?_eq_some_iff.mp hlast
    exact length_linesFrom_feed [] before

end Joining

end CallAudit.Bytes
