import CallAudit.Json.Reader
import CallAudit.Json.Writer
import Mathlib.Tactic.SplitIfs

/-!
# Texts in JSON

A text that is written in quotes is read back, and reading it leaves what is written after it. So the
written text determines both.
-/

namespace CallAudit.Json

theorem fourHex?_of_control {n : Nat} (hn : n < 0x20) (rest : List Char) :
    fourHex? ('0' :: '0' :: Nat.digitChar (n / 16) :: Nat.digitChar (n % 16) :: rest) =
      some (n, rest) := by
  have hdigits : ∀ n < 0x20,
      ['0', '0', Nat.digitChar (n / 16), Nat.digitChar (n % 16)].all isHexDigit = true ∧
        valueInBase 16 ['0', '0', Nat.digitChar (n / 16), Nat.digitChar (n % 16)] = n := by
    decide
  obtain ⟨hhex, hvalue⟩ := hdigits n hn
  simp [fourHex?, hhex, hvalue]

/-- What a character is written as is read as that character. -/
theorem textChars?_escapeChar (fuel : Nat) (c : Char) (rest : List Char) :
    textChars? (fuel + 1) (escapeChar c ++ rest) =
      (textChars? fuel rest).map fun (cs, rest) => (c :: cs, rest) := by
  have hchar {n : Nat} (hn : c.toNat = n) : Char.ofNat n = c := hn ▸ Char.ofNat_toNat c
  unfold escapeChar
  split_ifs with hquote hslash h8 h9 h10 h12 h13 hcontrol
  · obtain rfl := beq_iff_eq.mp hquote
    rfl
  · obtain rfl := beq_iff_eq.mp hslash
    rfl
  · exact hchar h8 ▸ rfl
  · exact hchar h9 ▸ rfl
  · exact hchar h10 ▸ rfl
  · exact hchar h12 ▸ rfl
  · exact hchar h13 ▸ rfl
  · have hcode : codeEscape? ('0' :: '0' :: Nat.digitChar (c.toNat / 16) ::
        Nat.digitChar (c.toNat % 16) :: rest) = some (c, rest) := by
      have hlow : c.toNat < 0xD800 := by omega
      simp [codeEscape?, fourHex?_of_control hcontrol, hlow]
    simp [textChars?, hcode]
  · simp [textChars?, hquote, hslash, hcontrol]

/-- A written text is read back, given a step for each of its characters and one for the quote. -/
theorem textChars?_of_escaped {fuel : Nat} {cs : List Char} (hfuel : cs.length < fuel)
    (rest : List Char) :
    textChars? fuel (cs.flatMap escapeChar ++ '"' :: rest) = some (cs, rest) := by
  induction cs generalizing fuel with
  | nil =>
    obtain ⟨fuel, rfl⟩ := Nat.exists_eq_add_of_lt hfuel
    simp [textChars?]
  | cons c cs ih =>
    cases fuel with
    | zero => simp at hfuel
    | succ fuel =>
      rw [List.flatMap_cons, List.append_assoc, textChars?_escapeChar,
        ih (by simpa using hfuel)]
      rfl

theorem renderText_append (s : String) (rest : List Char) :
    renderText s ++ rest = '"' :: (s.toList.flatMap escapeChar ++ '"' :: rest) := by
  simp [renderText]

/-- A written text tells the text and where it ends. -/
theorem renderText_append_inj {s t : String} {rest rest' : List Char} :
    renderText s ++ rest = renderText t ++ rest' ↔ s = t ∧ rest = rest' := by
  refine ⟨fun h => ?_, fun ⟨hs, hrest⟩ => by rw [hs, hrest]⟩
  rw [renderText_append, renderText_append, List.cons.injEq] at h
  have hread := congrArg (textChars? (s.toList.length + t.toList.length + 1)) h.2
  rw [textChars?_of_escaped (by omega), textChars?_of_escaped (by omega), Option.some.injEq,
    Prod.mk.injEq] at hread
  exact ⟨String.toList_inj.mp hread.1, hread.2⟩

theorem renderText_inj {s t : String} : renderText s = renderText t ↔ s = t := by
  have h := @renderText_append_inj s t [] []
  simpa using h

end CallAudit.Json
