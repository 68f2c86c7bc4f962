import CallAudit.Json.Reader
import CallAudit.Proofs.Json.Number
import CallAudit.Proofs.Number.Shortest

/-!
# Reading numbers

A number is read back from its text, in whatever style it was written, if what follows the text cannot be
a part of it.
-/

namespace CallAudit

section Digits

theorem digitsValue_eq_ofDigitChars (digits : List Char) :
    digitsValue digits = Nat.ofDigitChars 10 digits 0 := by
  simp only [digitsValue, Nat.ofDigitChars_eq_foldl, Nat.mul_comm 10]

theorem digitsValue_toDigits (n : Nat) : digitsValue (Nat.toDigits 10 n) = n := by
  rw [digitsValue_eq_ofDigitChars, Nat.ofDigitChars_ten_toDigits]

theorem digitsValue_append_zeros (digits : List Char) (zeros : Nat) :
    digitsValue (digits ++ List.replicate zeros '0') = digitsValue digits * 10 ^ zeros := by
  rw [digitsValue_eq_ofDigitChars, digitsValue_eq_ofDigitChars, Nat.ofDigitChars_append,
    Nat.ofDigitChars_replicate_zero, Nat.mul_comm]

theorem digitsValue_zeros_append (zeros : Nat) (digits : List Char) :
    digitsValue (List.replicate zeros '0' ++ digits) = digitsValue digits := by
  rw [digitsValue_eq_ofDigitChars, digitsValue_eq_ofDigitChars, Nat.ofDigitChars_append,
    Nat.ofDigitChars_replicate_zero, Nat.mul_zero]

/-- What is not significant are zeros at the end. -/
theorem exists_significant_append_zeros (digits : List Char) :
    ∃ zeros, digits = NumberStyle.significant digits ++ List.replicate zeros '0' := by
  refine ⟨(digits.reverse.takeWhile (· == '0')).length, ?_⟩
  have hzeros : digits.reverse.takeWhile (· == '0') =
      List.replicate (digits.reverse.takeWhile (· == '0')).length '0' := by
    refine List.eq_replicate_iff.mpr ⟨rfl, fun c hc => ?_⟩
    exact beq_iff_eq.mp (List.all_eq_true.mp List.all_takeWhile c hc)
  have hsplit := congrArg List.reverse (List.takeWhile_append_dropWhile
    (p := (· == '0')) (l := digits.reverse))
  rw [List.reverse_append, List.reverse_reverse, hzeros, List.reverse_replicate] at hsplit
  exact hsplit.symm

/-- The digits of a positive number do not start with a zero. -/
theorem head?_toDigits_ne_zero {n : Nat} (hn : n ≠ 0) : (Nat.toDigits 10 n).head? ≠ some '0' := by
  induction n using Nat.strongRecOn with
  | ind n ih =>
    by_cases hlt : n < 10
    · have hdigit : ∀ n < 10, n ≠ 0 → Nat.digitChar n ≠ '0' := by decide
      rw [Nat.toDigits_of_lt_base hlt]
      simpa using hdigit n hlt hn
    · rw [Nat.toDigits_of_base_le (by decide) (by omega),
        List.head?_append_of_ne_nil _ Nat.toDigits_ne_nil]
      exact ih (n / 10) (by omega) (by omega)

end Digits

namespace Json

/-- What may follow a value: nothing, a comma or a closing bracket. -/
def Follows (rest : List Char) : Prop := ∀ c ∈ rest.head?, c = ',' ∨ c = ']' ∨ c = '}'

section Parts

variable {digits rest : List Char}

theorem someDigits?_append (hne : digits ≠ []) (hdigits : ∀ c ∈ digits, c.isDigit = true)
    (hrest : ∀ c ∈ rest.head?, c.isDigit = false) :
    someDigits? (digits ++ rest) = some (digits, rest) := by
  have hnone : rest.takeWhile Char.isDigit = [] := by
    cases rest with
    | nil => rfl
    | cons c rest => simp [hrest c rfl]
  have htake : (digits ++ rest).takeWhile Char.isDigit = digits := by
    rw [List.takeWhile_append_of_pos hdigits, hnone, List.append_nil]
  unfold someDigits?
  simp [htake, hne]

theorem decimals?_of_ne (hrest : rest.head? ≠ some '.') : decimals? rest = some ([], rest) := by
  unfold decimals?
  split
  · simp at hrest
  · rfl

theorem Follows.exponent? (hrest : Follows rest) : Json.exponent? rest = some (none, rest) := by
  cases rest with
  | nil => rfl
  | cons c rest =>
    obtain rfl | rfl | rfl := hrest c rfl <;> rfl

theorem Follows.isDigit (hrest : Follows rest) : ∀ c ∈ rest.head?, c.isDigit = false := by
  intro c hc
  obtain rfl | rfl | rfl := hrest c hc <;> rfl

theorem Follows.head?_ne (hrest : Follows rest) : rest.head? ≠ some '.' := by
  intro hpoint
  have hc := hrest '.' hpoint
  revert hc
  decide

end Parts

section Whole

variable {whole decimals next rest : List Char} {exponent : Option Int}

/-- The sign of a number is written before its digits. -/
def signed (negative : Bool) (text : List Char) : List Char := if negative then '-' :: text else text

/-- A number that is not led by a needless zero is read in its parts. -/
theorem number?_signed (range : NumberRange) (negative : Bool) (hne : whole ≠ [])
    (hwhole : ∀ c ∈ whole, c.isDigit = true) (hlead : whole.head? = some '0' → whole.length = 1)
    (hnext : ∀ c ∈ next.head?, c.isDigit = false) {after : List Char}
    (hdecimals : decimals? next = some (decimals, after))
    (hexponent : exponent? after = some (exponent, rest)) :
    number? range (signed negative (whole ++ next)) =
      if decimals.isEmpty && exponent.isNone then
        (integerDatum? range
          (if negative then -(digitsValue whole : Int) else digitsValue whole)).map (·, rest)
      else
        (doubleDatum? range (Double.ofDecimal negative (digitsValue (whole ++ decimals))
          (exponent.getD 0 - decimals.length))).map (·, rest) := by
  have hsign : ((signed negative (whole ++ next)).head? == some '-') = negative := by
    cases negative with
    | true => rfl
    | false =>
      obtain ⟨c, cs, rfl⟩ := List.exists_cons_of_ne_nil hne
      have hc : c ≠ '-' := by
        rintro rfl
        exact absurd (hwhole '-' (by simp)) (by decide)
      simpa [signed] using hc
  have hunsigned : (if negative then (signed negative (whole ++ next)).tail
      else signed negative (whole ++ next)) = whole ++ next := by
    cases negative <;> rfl
  have hzero : (whole.head? == some '0' && decide (1 < whole.length)) = false := by
    by_cases hhead : whole.head? = some '0'
    · simp [hlead hhead]
    · simp [hhead]
  unfold number?
  dsimp only
  rw [hsign, hunsigned, someDigits?_append hne hwhole hnext]
  dsimp only
  rw [hzero, if_neg Bool.false_ne_true, hdecimals]
  dsimp only
  rw [hexponent]
  dsimp only
  split
  · next hinteger =>
    have hnone : decimals = [] := by simpa using (Bool.and_eq_true_iff.mp hinteger).1
    rw [hnone, List.append_nil]
  · rfl

/-- An integer in range is read back from its text. -/
theorem number?_integerText {range : NumberRange} {i : Int}
    (hinteger : integerDatum? range i = some (.int i)) (hrest : Follows rest) :
    number? range (integerText i ++ rest) = some (.int i, rest) := by
  have htext : integerText i ++ rest =
      signed (decide (i < 0)) (Nat.toDigits 10 i.natAbs ++ rest) := by
    unfold integerText signed
    by_cases hi : i < 0 <;> simp [hi]
  have hlead : (Nat.toDigits 10 i.natAbs).head? = some '0' → (Nat.toDigits 10 i.natAbs).length = 1 := by
    intro hhead
    by_cases hzero : i.natAbs = 0
    · rw [hzero]
      rfl
    · exact absurd hhead (head?_toDigits_ne_zero hzero)
  have hvalue : (if decide (i < 0) = true then -(i.natAbs : Int) else i.natAbs) = i := by
    split
    · next hi =>
      have hi := of_decide_eq_true hi
      omega
    · next hi =>
      have hi : ¬i < 0 := by simpa using hi
      omega
  rw [htext, number?_signed _ _ Nat.toDigits_ne_nil (fun c => isDigit_of_mem_toDigits) hlead
    hrest.isDigit (decimals?_of_ne hrest.head?_ne) hrest.exponent?, digitsValue_toDigits, hvalue,
    hinteger]
  rfl

/-- A number with a point is read as its digits without the point, shifted by those after it. -/
theorem number?_point (range : NumberRange) (negative : Bool) (hne : whole ≠ [])
    (hwhole : ∀ c ∈ whole, c.isDigit = true) (hlead : whole.head? = some '0' → whole.length = 1)
    (hne' : decimals ≠ []) (hdecimals : ∀ c ∈ decimals, c.isDigit = true) (hrest : Follows rest) :
    number? range (signed negative (whole ++ '.' :: decimals ++ rest)) =
      (doubleDatum? range (Double.ofDecimal negative (digitsValue (whole ++ decimals))
        (-(decimals.length : Int)))).map (·, rest) := by
  have hpoint : decimals? ('.' :: decimals ++ rest) = some (decimals, rest) :=
    someDigits?_append hne' hdecimals hrest.isDigit
  rw [List.append_assoc, number?_signed _ _ hne hwhole hlead (by simp) hpoint hrest.exponent?]
  simp [hne']

/-- A number with an exponent may have a point behind the first of its digits. -/
theorem number?_exponent (range : NumberRange) (negative : Bool) {lead : Char}
    {others after : List Char} {exponent : Int} (hlead : lead.isDigit = true)
    (hothers : ∀ c ∈ others, c.isDigit = true) (hafter : after.head? = some 'e')
    (hexponent : exponent? after = some (some exponent, rest)) :
    number? range (signed negative
        (lead :: ((if others.isEmpty then [] else '.' :: others) ++ after))) =
      (doubleDatum? range (Double.ofDecimal negative (digitsValue (lead :: others))
        (exponent - others.length))).map (·, rest) := by
  have hmark : ∀ c ∈ after.head?, c.isDigit = false := by
    rw [hafter]
    rintro c ⟨⟩
    rfl
  have hwhole : ∀ c ∈ [lead], c.isDigit = true := by simpa using hlead
  cases others with
  | nil =>
    have hread := number?_signed range negative (List.cons_ne_nil lead [])
      hwhole (fun _ => rfl) hmark (decimals?_of_ne (by simp [hafter])) hexponent
    simpa using hread
  | cons c others =>
    have hdecimals : decimals? ('.' :: (c :: others) ++ after) = some (c :: others, after) :=
      someDigits?_append (List.cons_ne_nil _ _) hothers hmark
    have hread := number?_signed range negative (List.cons_ne_nil lead [])
      hwhole (fun _ => rfl) (by simp) hdecimals hexponent
    simpa using hread

/-- An exponent is written with its sign, and zeros before its digits are read over. -/
theorem exponent?_written (zeros : Nat) (exponent : Int) (hrest : Follows rest) :
    exponent? ('e' :: (if exponent < 0 then '-' else '+') ::
      (List.replicate zeros '0' ++ Nat.toDigits 10 exponent.natAbs) ++ rest) =
        some (some exponent, rest) := by
  have hdigits : ∀ c ∈ List.replicate zeros '0' ++ Nat.toDigits 10 exponent.natAbs,
      c.isDigit = true := by
    intro c hc
    cases List.mem_append.mp hc with
    | inl hzero => exact List.eq_of_mem_replicate hzero ▸ rfl
    | inr hdigit => exact isDigit_of_mem_toDigits hdigit
  have hread := someDigits?_append (List.append_ne_nil_of_right_ne_nil _ Nat.toDigits_ne_nil) hdigits
    hrest.isDigit
  rw [List.append_assoc] at hread
  by_cases hsign : exponent < 0
  · simp [exponent?, hsign, hread, digitsValue_zeros_append, digitsValue_toDigits, abs_of_neg]
  · simp [exponent?, hsign, hread, digitsValue_zeros_append, digitsValue_toDigits, abs_of_nonneg,
      Int.not_lt.mp hsign]

end Whole

end Json

namespace NumberStyle

open Json

/-- The text of a positive decimal number is read, with either sign, as a decimal of the same value. -/
def Spells (text : List Char) (decimal : Decimal) : Prop :=
  ∀ (range : NumberRange) (negative : Bool) {rest : List Char}, Follows rest → ∃ read : Decimal,
    (∀ n : Double.Neighbourhood, n.holdsDecimal read = n.holdsDecimal decimal) ∧
      number? range (signed negative (text ++ rest)) =
        (doubleDatum? range (Double.ofDecimal negative read.digits read.exponent)).map (·, rest)

theorem Spells.congr {text : List Char} {decimal other : Decimal} (h : Spells text decimal)
    (hother : ∀ n : Double.Neighbourhood, n.holdsDecimal decimal = n.holdsDecimal other) :
    Spells text other := by
  intro range negative rest hrest
  obtain ⟨read, hread, hnumber⟩ := h range negative hrest
  exact ⟨read, fun n => (hread n).trans (hother n), hnumber⟩

section Spelling

variable {digits : List Char}

theorem isDigit_of_mem_zeros {zeros : Nat} {c : Char} (hc : c ∈ List.replicate zeros '0') :
    c.isDigit = true :=
  List.eq_of_mem_replicate hc ▸ rfl

theorem isDigit_of_mem_zero {c : Char} (hc : c ∈ ['0']) : c.isDigit = true :=
  @isDigit_of_mem_zeros 1 c hc

theorem spells_point (whole decimals : List Char) (hne : whole ≠ [])
    (hwhole : ∀ c ∈ whole, c.isDigit = true) (hlead : whole.head? = some '0' → whole.length = 1)
    (hne' : decimals ≠ []) (hdecimals : ∀ c ∈ decimals, c.isDigit = true) :
    Spells (whole ++ '.' :: decimals) ⟨digitsValue (whole ++ decimals), -(decimals.length : Int)⟩ :=
  fun _ _ _ hrest => ⟨_, fun _ => rfl, number?_point _ _ hne hwhole hlead hne' hdecimals hrest⟩

theorem spells_positional (hne : digits ≠ []) (hdigits : ∀ c ∈ digits, c.isDigit = true)
    (hlead : digits.head? ≠ some '0') (whole : Int) :
    Spells (positional digits whole) ⟨digitsValue digits, whole - digits.length⟩ := by
  unfold positional
  dsimp only
  split_ifs with hsmall hlong
  · -- The digits are behind the point, after as many zeros as the exponent is below zero.
    have hspells := spells_point ['0'] _ (List.cons_ne_nil _ _) (fun _ => isDigit_of_mem_zero)
      (fun _ => rfl)
      (List.append_ne_nil_of_right_ne_nil (List.replicate (-whole).toNat '0') hne)
      (fun c hc => (List.mem_append.mp hc).elim isDigit_of_mem_zeros (hdigits c))
    refine hspells.congr fun n => ?_
    have hvalue : digitsValue (['0'] ++ (List.replicate (-whole).toNat '0' ++ digits)) =
        digitsValue digits :=
      digitsValue_zeros_append ((-whole).toNat + 1) digits
    have hexponent : -((List.replicate (-whole).toNat '0' ++ digits).length : Int) =
        whole - digits.length := by
      rw [List.length_append, List.length_replicate]
      omega
    rw [hvalue, hexponent]
  · -- The digits are before the point, and zeros fill the places up to it.
    have hspells := spells_point (digits ++ List.replicate (whole.toNat - digits.length) '0') ['0']
      (List.append_ne_nil_of_left_ne_nil hne _)
      (fun c hc => (List.mem_append.mp hc).elim (hdigits c) isDigit_of_mem_zeros)
      (fun hhead => absurd hhead (by rwa [List.head?_append_of_ne_nil _ hne]))
      (List.cons_ne_nil _ _) (fun _ => isDigit_of_mem_zero)
    refine hspells.congr fun n => ?_
    rw [List.append_assoc, ← List.replicate_succ', digitsValue_append_zeros,
      Double.Neighbourhood.holdsDecimal_mul_pow]
    congr 2
    simp only [List.length_singleton]
    omega
  · have hspells := spells_point (digits.take whole.toNat) (digits.drop whole.toNat)
      (by simp [hne]; omega)
      (fun c hc => hdigits c (List.mem_of_mem_take hc))
      (fun hhead => absurd hhead (by rwa [List.head?_take, if_neg (by omega)]))
      (by simp; omega) (fun c hc => hdigits c (List.mem_of_mem_drop hc))
    refine hspells.congr fun n => ?_
    rw [List.take_append_drop, List.length_drop]
    congr 2
    omega

theorem spells_scientific (style : NumberStyle) (hne : digits ≠ [])
    (hdigits : ∀ c ∈ digits, c.isDigit = true) (exponent : Int) :
    Spells (style.scientific digits exponent)
      ⟨digitsValue digits, exponent - (digits.length - 1 : Int)⟩ := by
  obtain ⟨lead, others, rfl⟩ := List.exists_cons_of_ne_nil hne
  intro range negative rest hrest
  refine ⟨_, fun _ => rfl, ?_⟩
  have hexponent := exponent?_written
    (style.exponentWidth - (Nat.toDigits 10 exponent.natAbs).length) exponent hrest
  have hread := number?_exponent range negative (hdigits lead List.mem_cons_self)
    (fun c hc => hdigits c (List.mem_cons_of_mem _ hc)) rfl hexponent
  simpa [scientific] using hread

/-- The text of a decimal spells it in whatever style it is written. -/
theorem spells_decimalText (style : NumberStyle) {decimal : Decimal} (hdigits : decimal.digits ≠ 0) :
    Spells (style.decimalText decimal) decimal := by
  obtain ⟨zeros, hall⟩ := exists_significant_append_zeros (Nat.toDigits 10 decimal.digits)
  have hhead := head?_toDigits_ne_zero hdigits
  have hvalue : digitsValue (significant (Nat.toDigits 10 decimal.digits)) * 10 ^ zeros =
      decimal.digits := by
    rw [← digitsValue_append_zeros, ← hall, digitsValue_toDigits]
  have hlength := congrArg List.length hall
  rw [List.length_append, List.length_replicate] at hlength
  unfold decimalText
  dsimp only
  generalize hcount : (Nat.toDigits 10 decimal.digits).length = count at hlength ⊢
  generalize hsignificant : significant (Nat.toDigits 10 decimal.digits) = digits at *
  have hne : digits ≠ [] := by
    rintro rfl
    rw [hall, List.nil_append, List.head?_replicate] at hhead
    simp at hvalue
    exact hdigits hvalue.symm
  have hlead : digits.head? ≠ some '0' := by
    rwa [hall, List.head?_append_of_ne_nil _ hne] at hhead
  have hdecimal : ∀ c ∈ digits, c.isDigit = true := by
    intro c hc
    exact isDigit_of_mem_toDigits (hall ▸ List.mem_append_left _ hc)
  have hsame (n : Double.Neighbourhood) :
      n.holdsDecimal ⟨digitsValue digits, decimal.exponent + zeros⟩ = n.holdsDecimal decimal := by
    rw [← Double.Neighbourhood.holdsDecimal_mul_pow, hvalue]
  split_ifs
  · refine (spells_positional hne hdecimal hlead _).congr fun n => ?_
    rw [← hsame n]
    congr 2
    omega
  · refine (spells_scientific style hne hdecimal _).congr fun n => ?_
    rw [← hsame n]
    congr 2
    omega

end Spelling

end NumberStyle

namespace Double

/-- Of all zeros only two are doubles. -/
theorem ofSignAndRest_zero {d : Double} (hzero : d.magnitude = 0) :
    ofSignAndRest d.isNegative 0 = d := by
  have hsignificand : d.significand = 0 := by
    by_contra hne
    exact Nat.mul_ne_zero hne (Nat.two_pow_pos d.shift).ne' hzero
  have hshift : d.shift = 0 := by
    by_contra hne
    have hleast := d.implicitBit_le_significand hne
    rw [hsignificand] at hleast
    exact absurd hleast (by decide)
  have hrest : d.rest = 0 := by rw [rest_eq, hsignificand, hshift, Nat.zero_mul]
  rw [← hrest, ofSignAndRest_rest]

end Double

namespace Json

/-- A finite double is read back from its text in any style. -/
theorem number?_finiteText (style : NumberStyle) (range : NumberRange) {d : Double}
    (hfinite : d.isFinite = true) {rest : List Char} (hrest : Follows rest) :
    number? range (style.finiteText d ++ rest) = some (.double d, rest) := by
  have hdouble : doubleDatum? range d = some (.double d) := by
    simp [doubleDatum?, hfinite]
  by_cases hzero : d.magnitude = 0
  · have htext : style.finiteText d ++ rest =
        signed d.isNegative (['0'] ++ '.' :: ['0'] ++ rest) := by
      unfold NumberStyle.finiteText signed
      cases d.isNegative <;> simp [hzero]
    have hdigit (c : Char) (hc : c ∈ ['0']) : c.isDigit = true := NumberStyle.isDigit_of_mem_zero hc
    rw [htext, number?_point _ _ (List.cons_ne_nil _ _) hdigit (fun _ => rfl) (List.cons_ne_nil _ _)
      hdigit hrest]
    have hread : Double.ofDecimal d.isNegative (digitsValue (['0'] ++ ['0']))
        (-(['0'].length : Int)) = d :=
      Double.ofSignAndRest_zero hzero
    rw [hread, hdouble]
    rfl
  · have htext : style.finiteText d ++ rest =
        signed d.isNegative (style.decimalText d.shortest ++ rest) := by
      unfold NumberStyle.finiteText signed
      cases d.isNegative <;> simp [hzero]
    have hshortest := Double.holdsDecimal_shortest hzero
    have hdigits : d.shortest.digits ≠ 0 :=
      Double.digits_ne_zero_of_holdsDecimal hzero hshortest
    obtain ⟨read, hread, hnumber⟩ :=
      NumberStyle.spells_decimalText style hdigits range d.isNegative hrest
    rw [← hread] at hshortest
    rw [htext, hnumber, Double.ofDecimal_of_holdsDecimal hfinite hzero hshortest, hdouble]
    rfl

end Json

end CallAudit
