import CallAudit.Number.Style
import Mathlib.Data.List.Basic
import Mathlib.Tactic.SplitIfs

/-!
# Texts of numbers

Numbers are written with digits, signs, points and exponent marks. The text of an integer has neither of
the last two and tells the integer; that of a double has one of them.
-/

namespace CallAudit

/-- The characters that numbers are written with. -/
def isNumberChar (c : Char) : Bool := c.isDigit || c == '-' || c == '+' || c == '.' || c == 'e'

theorem isNumberChar_of_isDigit {c : Char} (hc : c.isDigit = true) : isNumberChar c = true := by
  simp [isNumberChar, hc]

theorem isDigit_of_mem_toDigits {n : Nat} {c : Char} (hc : c ∈ Nat.toDigits 10 n) :
    c.isDigit = true :=
  Nat.isDigit_of_mem_toDigits (by decide) (by decide) hc

theorem toDigits_inj {m n : Nat} (h : Nat.toDigits 10 m = Nat.toDigits 10 n) : m = n := by
  have hvalue := congrArg (Nat.ofDigitChars 10 · 0) h
  simpa only [Nat.ofDigitChars_ten_toDigits] using hvalue

section IntegerText

theorem integerText_ne_nil (i : Int) : integerText i ≠ [] := by
  unfold integerText
  split
  · simp
  · exact Nat.toDigits_ne_nil

theorem isDigit_or_minus_of_mem_integerText {i : Int} {c : Char} (hc : c ∈ integerText i) :
    c.isDigit = true ∨ c = '-' := by
  unfold integerText at hc
  split at hc
  · cases hc with
    | head => exact .inr rfl
    | tail _ hdigit => exact .inl (isDigit_of_mem_toDigits hdigit)
  · exact .inl (isDigit_of_mem_toDigits hc)

theorem isNumberChar_of_mem_integerText {i : Int} {c : Char} (hc : c ∈ integerText i) :
    isNumberChar c = true := by
  cases isDigit_or_minus_of_mem_integerText hc with
  | inl hdigit => exact isNumberChar_of_isDigit hdigit
  | inr hminus => exact hminus ▸ rfl

/-- A minus sign is no digit, so the first character tells the sign. -/
theorem minus_cons_ne_toDigits (digits : List Char) (n : Nat) : '-' :: digits ≠ Nat.toDigits 10 n := by
  intro h
  have hminus : '-' ∈ Nat.toDigits 10 n := h ▸ List.mem_cons_self
  exact absurd (isDigit_of_mem_toDigits hminus) (by decide)

theorem integerText_inj {i j : Int} : integerText i = integerText j ↔ i = j := by
  refine ⟨fun h => ?_, fun h => h ▸ rfl⟩
  unfold integerText at h
  split_ifs at h with hi hj hj
  · have habs := toDigits_inj (List.cons.inj h).2
    omega
  · exact absurd h (minus_cons_ne_toDigits _ _)
  · exact absurd h.symm (minus_cons_ne_toDigits _ _)
  · have habs := toDigits_inj h
    omega

end IntegerText

namespace NumberStyle

theorem mem_of_mem_significant {digits : List Char} {c : Char} (hc : c ∈ significant digits) :
    c ∈ digits := by
  have hkept := (List.dropWhile_sublist _).subset (List.mem_reverse.mp hc)
  exact List.mem_reverse.mp hkept

/-- Number characters with a point or an exponent mark among them. -/
structure IsDoubleText (text : List Char) : Prop where
  number : ∀ c ∈ text, isNumberChar c = true
  marked : ∃ c ∈ text, c = '.' ∨ c = 'e'

theorem IsDoubleText.minus {text : List Char} (htext : IsDoubleText text) :
    IsDoubleText ('-' :: text) where
  number := by
    rintro c (_ | ⟨_, hc⟩)
    exacts [rfl, htext.number c hc]
  marked := by
    obtain ⟨c, hc, hmark⟩ := htext.marked
    exact ⟨c, List.mem_cons_of_mem _ hc, hmark⟩

section Digits

variable {digits : List Char}

/-- Digits that are written positionally have a point before, after or between them. -/
theorem isDoubleText_positional (hdigits : ∀ c ∈ digits, isNumberChar c = true) (whole : Int) :
    IsDoubleText (positional digits whole) := by
  unfold positional
  dsimp only
  split_ifs
  · refine ⟨?_, '.', by simp, .inl rfl⟩
    simp only [List.mem_cons, List.mem_append, List.mem_replicate]
    rintro c (rfl | rfl | ⟨_, rfl⟩ | hc)
    exacts [rfl, rfl, rfl, hdigits c hc]
  · refine ⟨?_, '.', by simp, .inl rfl⟩
    simp only [List.mem_cons, List.mem_append, List.mem_replicate, List.not_mem_nil, or_false]
    rintro c ((hc | ⟨_, rfl⟩) | rfl | rfl)
    exacts [hdigits c hc, rfl, rfl, rfl]
  · refine ⟨?_, '.', by simp, .inl rfl⟩
    simp only [List.mem_cons, List.mem_append]
    rintro c (hc | rfl | hc)
    exacts [hdigits c (List.mem_of_mem_take hc), rfl, hdigits c (List.mem_of_mem_drop hc)]

theorem isDoubleText_scientific (style : NumberStyle)
    (hdigits : ∀ c ∈ digits, isNumberChar c = true) (exponent : Int) :
    IsDoubleText (style.scientific digits exponent) := by
  have hrest : ∀ c ∈ (if (digits.drop 1).isEmpty then [] else '.' :: digits.drop 1),
      isNumberChar c = true := by
    split
    · simp
    · rintro c (_ | ⟨_, hc⟩)
      exacts [rfl, hdigits c (List.mem_of_mem_drop hc)]
  have hsign : isNumberChar (if exponent < 0 then '-' else '+') = true := by
    split <;> rfl
  unfold scientific
  refine ⟨?_, 'e', by simp, .inr rfl⟩
  simp only [List.mem_cons, List.mem_append, List.mem_replicate]
  rintro c ((hc | hc) | rfl | rfl | ⟨_, rfl⟩ | hc)
  exacts [hdigits c (List.mem_of_mem_take hc), hrest c hc, rfl, hsign, rfl,
    isNumberChar_of_isDigit (isDigit_of_mem_toDigits hc)]

end Digits

theorem isDoubleText_decimalText (style : NumberStyle) (decimal : Decimal) :
    IsDoubleText (style.decimalText decimal) := by
  have hdigits : ∀ c ∈ significant (Nat.toDigits 10 decimal.digits), isNumberChar c = true :=
    fun c hc => isNumberChar_of_isDigit (isDigit_of_mem_toDigits (mem_of_mem_significant hc))
  unfold decimalText
  dsimp only
  split_ifs
  · exact isDoubleText_positional hdigits _
  · exact isDoubleText_scientific style hdigits _

theorem isDoubleText_finiteText (style : NumberStyle) (d : Double) :
    IsDoubleText (style.finiteText d) := by
  have hbody : IsDoubleText
      (if d.magnitude = 0 then ['0', '.', '0'] else style.decimalText d.shortest) := by
    split
    · exact ⟨List.all_eq_true.mp rfl, '.', by simp, .inl rfl⟩
    · exact isDoubleText_decimalText style _
  cases hsign : d.isNegative with
  | true => simpa only [finiteText, hsign, if_true] using hbody.minus
  | false => simpa only [finiteText, hsign, Bool.false_eq_true, if_false] using hbody

/-- No integer is written like a double. -/
theorem IsDoubleText.ne_integerText {text : List Char} (htext : IsDoubleText text) (i : Int) :
    text ≠ integerText i := by
  rintro rfl
  obtain ⟨c, hc, rfl | rfl⟩ := htext.marked
  all_goals
    have hdigit := isDigit_or_minus_of_mem_integerText hc
    revert hdigit
    decide

end NumberStyle

end CallAudit
