import CallAudit.Proofs.Json.Canonical
import CallAudit.Proofs.Json.NumberReading

/-!
# Reading back what was written

The text of a datum is read as that datum with the fields of every object in the order of their names.
Whatever follows the text is left, so texts of items make texts of lists.
-/

namespace CallAudit

namespace Json

theorem not_blank_of_leadOf {c : Char} {d : Datum} (h : leadOf c = lead d) :
    isBlank c = false ∧ c ≠ ']' := by
  have hleads : ∀ c ∈ [' ', '\t', '\n', '\r', ']'], leadOf c ∉ ['n', 't', '0', '"', '[', '{'] := by
    simp [leadOf, isNumberChar]
  have hlead : leadOf c ∈ ['n', 't', '0', '"', '[', '{'] := by
    rw [h]
    cases d <;> simp [lead]
  have hne (c' : Char) (hc' : c' ∈ [' ', '\t', '\n', '\r', ']']) : c ≠ c' := by
    rintro rfl
    exact hleads c hc' hlead
  refine ⟨?_, hne ']' (by simp)⟩
  simp [isBlank, hne]

/-- A text that is read as a datum whatever follows it, in no more steps than it has characters. -/
structure IsTextOf (range : NumberRange) (text : List Char) (d : Datum) : Prop where
  starts : ∃ c rest, text = c :: rest ∧ isBlank c = false ∧ c ≠ ']'
  reads : ∀ fuel rest, text.length ≤ fuel → Follows rest →
    value? range fuel (text ++ rest) = some (d, rest)

namespace IsTextOf

variable {range : NumberRange} {text : List Char} {d : Datum}

theorem skipBlanks (h : IsTextOf range text d) (rest : List Char) :
    Json.skipBlanks (text ++ rest) = text ++ rest := by
  obtain ⟨c, cs, rfl, hc, _⟩ := h.starts
  simp [Json.skipBlanks, hc]

/-- A text may stand alone. -/
theorem read? (h : IsTextOf range text d) : Json.read? range text = some d := by
  have hreads := h.reads (2 * text.length + 1) [] (by omega) (by simp [Follows])
  have hskip := h.skipBlanks []
  rw [List.append_nil] at hreads hskip
  rw [Json.read?, hskip, hreads]
  rfl

end IsTextOf

section Single

variable {range : NumberRange}

theorem value?_quote (fuel : Nat) (rest : List Char) :
    value? range (fuel + 1) ('"' :: rest) =
      (textChars? (rest.length + 1) rest).map fun (s, rest) => (.text (.ofList s), rest) := rfl

/-- What starts like a number is read as one. -/
theorem value?_of_number {c : Char} (hc : isNumberChar c = true) (fuel : Nat) (rest : List Char) :
    value? range (fuel + 1) (c :: rest) = number? range (c :: rest) := by
  have hne (c' : Char) (hc' : isNumberChar c' = false) : (c == c') = false := by
    rw [beq_eq_false_iff_ne]
    rintro rfl
    rw [hc] at hc'
    cases hc'
  unfold value?
  rw [hne '"' rfl, hne '[' rfl, hne '{' rfl, hne 'n' rfl, hne 't' rfl, hne 'f' rfl]
  rfl

theorem isTextOf_number {text : List Char} {d : Datum} (hne : text ≠ [])
    (htext : ∀ c ∈ text, isNumberChar c = true)
    (hread : ∀ {rest}, Follows rest → number? range (text ++ rest) = some (d, rest)) :
    IsTextOf range text d := by
  obtain ⟨c, cs, rfl⟩ := List.exists_cons_of_ne_nil hne
  have hc := htext c List.mem_cons_self
  constructor
  · have hlead : leadOf c = lead (.int 0) := by rw [leadOf, hc, if_pos rfl]; rfl
    exact ⟨c, cs, rfl, not_blank_of_leadOf hlead⟩
  · intro fuel rest hfuel hrest
    obtain ⟨fuel, rfl⟩ := Nat.exists_eq_add_of_le' (Nat.le_trans (Nat.le_add_left 1 cs.length) hfuel)
    rw [List.cons_append, value?_of_number hc]
    exact hread hrest

theorem isTextOf_word {c : Char} {cs : List Char} {d : Datum} (hc : isBlank c = false ∧ c ≠ ']')
    (hword : ∀ fuel rest, value? range (fuel + 1) (c :: cs ++ rest) = some (d, rest)) :
    IsTextOf range (c :: cs) d where
  starts := ⟨c, cs, rfl, hc⟩
  reads := by
    intro fuel rest hfuel _
    obtain ⟨fuel, rfl⟩ := Nat.exists_eq_add_of_le' (Nat.le_trans (Nat.le_add_left 1 cs.length) hfuel)
    exact hword fuel rest

theorem isTextOf_null : IsTextOf range ['n', 'u', 'l', 'l'] .null :=
  isTextOf_word ⟨rfl, by decide⟩ fun _ _ => rfl

theorem isTextOf_true : IsTextOf range ['t', 'r', 'u', 'e'] (.bool true) :=
  isTextOf_word ⟨rfl, by decide⟩ fun _ _ => rfl

theorem isTextOf_false : IsTextOf range ['f', 'a', 'l', 's', 'e'] (.bool false) :=
  isTextOf_word ⟨rfl, by decide⟩ fun _ _ => rfl

theorem length_le_escaped (cs : List Char) : cs.length ≤ (cs.flatMap escapeChar).length := by
  have hchar (c : Char) : 0 < (escapeChar c).length := by
    unfold escapeChar
    split_ifs <;> simp
  induction cs with
  | nil => simp
  | cons c cs ih =>
    have hc := hchar c
    rw [List.flatMap_cons, List.length_append, List.length_cons]
    omega

/-- A text in quotes gives the reader as many steps as it needs. -/
theorem textChars?_renderText (s : String) (rest : List Char) :
    textChars? ((s.toList.flatMap escapeChar ++ '"' :: rest).length + 1)
      (s.toList.flatMap escapeChar ++ '"' :: rest) = some (s.toList, rest) := by
  have hlength := length_le_escaped s.toList
  refine textChars?_of_escaped ?_ rest
  rw [List.length_append]
  omega

theorem isTextOf_renderText (s : String) : IsTextOf range (renderText s) (.text s) where
  starts := ⟨'"', _, rfl, rfl, by decide⟩
  reads := by
    intro fuel rest hfuel _
    obtain ⟨fuel, rfl⟩ := Nat.exists_eq_add_of_le' (Nat.le_trans (Nat.le_add_left 1 _) hfuel)
    rw [renderText_append, value?_quote, textChars?_renderText]
    simp

end Single

section Collections

variable {range : NumberRange}

theorem setField_of_not_mem {fields : List (String × Datum)} {name : String} {d : Datum}
    (hname : name ∉ fields.map (·.1)) : setField fields name d = fields ++ [(name, d)] := by
  induction fields with
  | nil => rfl
  | cons field fields ih =>
    obtain ⟨other, old⟩ := field
    rw [List.map_cons, List.mem_cons, not_or] at hname
    have hne : (other == name) = false := beq_eq_false_iff_ne.mpr (Ne.symm hname.1)
    rw [setField, hne, if_neg Bool.false_ne_true, ih hname.2, List.cons_append]

/-- Texts with commas between them are read item by item. -/
theorem items?_of_texts {texts : List (List Char)} {ds : List Datum}
    (htexts : List.Forall₂ (IsTextOf range) texts ds) (hne : texts ≠ []) {fuel : Nat}
    (hfuel : (joinWithCommas texts).length < fuel) (rest : List Char) :
    items? range fuel (joinWithCommas texts ++ ']' :: rest) = some (ds, rest) := by
  induction htexts generalizing fuel with
  | nil => exact absurd rfl hne
  | @cons text d texts ds htext htexts ih =>
    cases fuel with
    | zero => exact absurd hfuel (Nat.not_lt_zero _)
    | succ fuel =>
      cases htexts with
      | nil =>
        rw [joinWithCommas] at hfuel ⊢
        have hread := htext.reads fuel (']' :: rest) (by omega) (by simp [Follows])
        rw [items?, htext.skipBlanks, hread]
        rfl
      | @cons next _ texts _ hnext hothers =>
        have hjoin : joinWithCommas (text :: next :: texts) =
            text ++ ',' :: joinWithCommas (next :: texts) := rfl
        rw [hjoin, List.length_append, List.length_cons] at hfuel
        have hread := htext.reads fuel (',' :: (joinWithCommas (next :: texts) ++ ']' :: rest))
          (by omega) (by simp [Follows])
        have htail : items? range fuel (joinWithCommas (next :: texts) ++ ']' :: rest) = _ :=
          ih (List.cons_ne_nil _ _) (by omega)
        rw [hjoin, List.append_assoc, List.cons_append, items?, htext.skipBlanks, hread]
        simp [Json.skipBlanks, isBlank, htail]

/-- The text of a field is read as the field, which is added to those before it. -/
theorem fields?_renderField {name : String} {text : List Char} {d : Datum}
    (htext : IsTextOf range text d) {done : List (String × Datum)} (hname : name ∉ done.map (·.1))
    {fuel : Nat} (hfuel : text.length ≤ fuel) {after : List Char} (hafter : Follows after) :
    fields? range (fuel + 1) done (renderField (name, text) ++ after) =
      match skipBlanks after with
      | '}' :: rest => some (done ++ [(name, d)], rest)
      | ',' :: rest => fields? range fuel (done ++ [(name, d)]) rest
      | _ => none := by
  have hfield : renderField (name, text) ++ after =
      '"' :: (name.toList.flatMap escapeChar ++ '"' :: ':' :: (text ++ after)) := by
    simp [renderField, renderText]
  have hquote (rest : List Char) : skipBlanks ('"' :: rest) = '"' :: rest := rfl
  have hcolon (rest : List Char) : skipBlanks (':' :: rest) = ':' :: rest := rfl
  have hstep := fields?.eq_def range (fuel + 1) done
    ('"' :: (name.toList.flatMap escapeChar ++ '"' :: ':' :: (text ++ after)))
  simp only [hquote, textChars?_renderText, hcolon, htext.skipBlanks,
    htext.reads fuel after hfuel hafter, String.ofList_toList, setField_of_not_mem hname] at hstep
  rw [hfield]
  exact hstep

/-- Texts of fields with commas between them are read field by field. -/
theorem fields?_of_texts {texts : List (String × List Char)} {fields done : List (String × Datum)}
    (htexts : List.Forall₂ (fun text field => text.1 = field.1 ∧ IsTextOf range text.2 field.2)
      texts fields)
    (hne : texts ≠ []) (hdistinct : ((done ++ fields).map (·.1)).Nodup) {fuel : Nat}
    (hfuel : (joinWithCommas (texts.map renderField)).length < fuel) (rest : List Char) :
    fields? range fuel done (joinWithCommas (texts.map renderField) ++ '}' :: rest) =
      some (done ++ fields, rest) := by
  induction htexts generalizing fuel done with
  | nil => exact absurd rfl hne
  | @cons text field texts fields htext htexts ih =>
    obtain ⟨name, text⟩ := text
    obtain ⟨_, d⟩ := field
    obtain ⟨rfl, htext⟩ := htext
    dsimp only at htext hdistinct
    have hname : name ∉ done.map (·.1) := by
      rw [List.map_append, List.nodup_append] at hdistinct
      exact fun hmem => hdistinct.2.2 name hmem name List.mem_cons_self rfl
    have hlength : text.length < (renderField (name, text)).length := by
      simp [renderField]
      omega
    cases fuel with
    | zero => exact absurd hfuel (Nat.not_lt_zero _)
    | succ fuel =>
      cases htexts with
      | nil =>
        rw [List.map_singleton, joinWithCommas] at hfuel ⊢
        exact fields?_renderField htext hname (by omega) (by simp [Follows])
      | @cons next other texts fields hnext hothers =>
        have hjoin : joinWithCommas (((name, text) :: next :: texts).map renderField) =
            renderField (name, text) ++ ',' :: joinWithCommas ((next :: texts).map renderField) := rfl
        rw [hjoin, List.length_append, List.length_cons] at hfuel
        rw [hjoin, List.append_assoc, List.cons_append,
          fields?_renderField htext hname (by omega) (by simp [Follows])]
        have hdistinct' : ((done ++ [(name, d)] ++ other :: fields).map (·.1)).Nodup := by
          rwa [List.append_assoc]
        have hless : (joinWithCommas ((next :: texts).map renderField)).length < fuel := by omega
        have htail := ih (List.cons_ne_nil _ _) hdistinct' hless
        rw [List.append_assoc] at htail
        exact htail

theorem value?_bracket {rest : List Char} (hrest : (skipBlanks rest).head? ≠ some ']') (fuel : Nat) :
    value? range (fuel + 1) ('[' :: rest) =
      (items? range fuel (skipBlanks rest)).map fun (ds, rest) => (.list ds, rest) := by
  rw [value?, if_neg (by decide), if_pos (beq_self_eq_true _)]
  split
  · next hempty => simp [hempty] at hrest
  · rfl

theorem value?_brace {rest : List Char} (hrest : (skipBlanks rest).head? ≠ some '}') (fuel : Nat) :
    value? range (fuel + 1) ('{' :: rest) =
      (fields? range fuel [] (skipBlanks rest)).map fun (fields, rest) => (.object fields, rest) := by
  rw [value?, if_neg (by decide), if_neg (by decide), if_pos (beq_self_eq_true _)]
  split
  · next hempty => simp [hempty] at hrest
  · rfl

/-- The texts of a list's items are written between brackets. -/
theorem isTextOf_list {texts : List (List Char)} {ds : List Datum}
    (htexts : List.Forall₂ (IsTextOf range) texts ds) :
    IsTextOf range ('[' :: joinWithCommas texts ++ [']']) (.list ds) := by
  refine ⟨⟨'[', _, rfl, rfl, by decide⟩, fun fuel rest hfuel _ => ?_⟩
  cases fuel with
  | zero => simp at hfuel
  | succ fuel =>
    rw [List.length_append, List.length_cons, List.length_singleton] at hfuel
    cases htexts with
    | nil => rfl
    | @cons text d texts ds htext htexts =>
      have hitems := items?_of_texts (.cons htext htexts) (List.cons_ne_nil _ _)
        (Nat.lt_of_succ_le (Nat.le_of_succ_le_succ hfuel)) rest
      have hskip : skipBlanks (joinWithCommas (text :: texts) ++ ']' :: rest) =
          joinWithCommas (text :: texts) ++ ']' :: rest := by
        rw [joinWithCommas_cons, List.append_assoc, htext.skipBlanks]
      have hstart : (joinWithCommas (text :: texts) ++ ']' :: rest).head? ≠ some ']' := by
        obtain ⟨c, cs, rfl, _, hc⟩ := htext.starts
        simpa [joinWithCommas_cons] using hc
      rw [List.append_assoc, List.cons_append, List.singleton_append,
        value?_bracket (by rwa [hskip]), hskip, hitems]
      rfl

/-- The texts of an object's fields are written between braces. -/
theorem isTextOf_object {texts : List (String × List Char)} {fields : List (String × Datum)}
    (htexts : List.Forall₂ (fun text field => text.1 = field.1 ∧ IsTextOf range text.2 field.2)
      texts fields)
    (hdistinct : (fields.map (·.1)).Nodup) :
    IsTextOf range ('{' :: joinWithCommas (texts.map renderField) ++ ['}']) (.object fields) := by
  refine ⟨⟨'{', _, rfl, rfl, by decide⟩, fun fuel rest hfuel _ => ?_⟩
  cases fuel with
  | zero => simp at hfuel
  | succ fuel =>
    rw [List.length_append, List.length_cons, List.length_singleton] at hfuel
    cases htexts with
    | nil => rfl
    | @cons text field texts fields htext htexts =>
      have hfields : fields? range fuel [] (joinWithCommas ((text :: texts).map renderField) ++
          '}' :: rest) = some (field :: fields, rest) :=
        fields?_of_texts (.cons htext htexts) (List.cons_ne_nil _ _) hdistinct
          (Nat.lt_of_succ_le (Nat.le_of_succ_le_succ hfuel)) rest
      have hquote : joinWithCommas ((text :: texts).map renderField) ++ '}' :: rest =
          '"' :: (text.1.toList.flatMap escapeChar ++ '"' :: ':' :: text.2 ++
            (texts.map renderField).flatMap (',' :: ·) ++ '}' :: rest) := by
        rw [List.map_cons, joinWithCommas_cons]
        simp [renderField, renderText]
      have hskip : skipBlanks (joinWithCommas ((text :: texts).map renderField) ++ '}' :: rest) =
          joinWithCommas ((text :: texts).map renderField) ++ '}' :: rest := by
        rw [hquote]
        rfl
      rw [List.append_assoc, List.cons_append, List.singleton_append,
        value?_brace (by rw [hskip, hquote]; simp), hskip, hfields]
      rfl

end Collections

end Json

end CallAudit
