import CallAudit.Proofs.Json.Number
import CallAudit.Proofs.Json.Text

/-!
# Where the text of a datum ends

A scan that counts open brackets and keeps out of quoted texts passes over the text of a datum and stops
at the comma or bracket after it. So texts of data with commas between them can be told apart.
-/

namespace CallAudit.Json

/-- Where a scan is: outside of quoted texts, inside of one, or behind a backslash there. -/
inductive ScanMode where
  | outside
  | inside
  | escaped

/-- What is left of a text from the first comma or closing bracket on that stands neither in a quoted text
    nor between brackets that the scan has passed. -/
def skip : Nat → ScanMode → List Char → List Char
  | _, _, [] => []
  | depth, .escaped, _ :: rest => skip depth .inside rest
  | depth, .inside, c :: rest =>
    if c == '"' then skip depth .outside rest
    else if c == '\\' then skip depth .escaped rest
    else skip depth .inside rest
  | depth, .outside, c :: rest =>
    if c == '"' then skip depth .inside rest
    else if c == '[' || c == '{' then skip (depth + 1) .outside rest
    else if c == ']' || c == '}' then
      match depth with
      | 0 => c :: rest
      | depth + 1 => skip depth .outside rest
    else if c == ',' && depth == 0 then c :: rest
    else skip depth .outside rest

/-- A scan between so many brackets or more passes over a text and goes on behind it. -/
def Skipped (least : Nat) (text : List Char) : Prop :=
  ∀ depth, least ≤ depth → ∀ rest, skip depth .outside (text ++ rest) = skip depth .outside rest

/-- A scan between no brackets goes no further. -/
def Stops (text : List Char) : Prop := skip 0 .outside text = text

namespace Skipped

variable {least : Nat} {text text' rest rest' : List Char}

theorem nil : Skipped least [] := fun _ _ _ => rfl

theorem append (htext : Skipped least text) (htext' : Skipped least text') :
    Skipped least (text ++ text') := by
  intro depth hdepth rest
  rw [List.append_assoc, htext depth hdepth, htext' depth hdepth]

theorem mono {more : Nat} (htext : Skipped least text) (hmore : least ≤ more) : Skipped more text :=
  fun depth hdepth => htext depth (Nat.le_trans hmore hdepth)

/-- What brackets are put around need only be passed between brackets. -/
theorem between {opening closing : Char} (htext : Skipped 1 text)
    (hopening : opening = '[' ∨ opening = '{') (hclosing : closing = ']' ∨ closing = '}') :
    Skipped 0 (opening :: text ++ [closing]) := by
  intro depth _ rest
  have hopened : skip depth .outside (opening :: (text ++ closing :: rest)) =
      skip (depth + 1) .outside (text ++ closing :: rest) := by
    obtain rfl | rfl := hopening <;> rfl
  have hclosed : skip (depth + 1) .outside (closing :: rest) = skip depth .outside rest := by
    obtain rfl | rfl := hclosing <;> rfl
  rw [List.append_assoc, List.cons_append, List.singleton_append, hopened,
    htext (depth + 1) (Nat.le_add_left 1 depth), hclosed]

/-- Two texts that a scan passes and stops behind are told apart from what follows them. -/
theorem append_inj (htext : Skipped 0 text) (htext' : Skipped 0 text') (hrest : Stops rest)
    (hrest' : Stops rest') (h : text ++ rest = text' ++ rest') : text = text' ∧ rest = rest' := by
  have hleft : rest = rest' := by
    have hskip := congrArg (skip 0 .outside) h
    rwa [htext 0 (Nat.le_refl 0), htext' 0 (Nat.le_refl 0), hrest, hrest'] at hskip
  rw [hleft] at h
  exact ⟨List.append_cancel_right h, hleft⟩

end Skipped

/-- The characters that mean nothing to a scan outside of quoted texts. -/
def isPlainChar (c : Char) : Bool :=
  !(c == '"' || c == '[' || c == '{' || c == ']' || c == '}' || c == ',')

theorem skipped_of_plain {text : List Char} (hplain : text.all isPlainChar = true) :
    Skipped 0 text := by
  induction text with
  | nil => exact .nil
  | cons c text ih =>
    rw [List.all_cons, Bool.and_eq_true] at hplain
    obtain ⟨hc, hrest⟩ := hplain
    intro depth hdepth rest
    rw [List.cons_append, ← ih hrest depth hdepth rest]
    simp only [isPlainChar, Bool.not_eq_true', Bool.or_eq_false_iff] at hc
    simp [skip, hc]

theorem skipped_of_number {text : List Char} (hnumber : ∀ c ∈ text, isNumberChar c = true) :
    Skipped 0 text := by
  refine skipped_of_plain (List.all_eq_true.mpr fun c hc => ?_)
  have hnumber := hnumber c hc
  by_contra hspecial
  simp only [isPlainChar, Bool.not_eq_true, Bool.not_eq_false', Bool.or_eq_true, beq_iff_eq]
    at hspecial
  obtain ((((rfl | rfl) | rfl) | rfl) | rfl) | rfl := hspecial <;> cases hnumber

/-- A scan inside of a quoted text stays there until the quote that ends it. -/
theorem skip_escapeChar (depth : Nat) (c : Char) (rest : List Char) :
    skip depth .inside (escapeChar c ++ rest) = skip depth .inside rest := by
  have hstays {c : Char} (hquote : (c == '"') = false) (hslash : (c == '\\') = false)
      (rest : List Char) : skip depth .inside (c :: rest) = skip depth .inside rest := by
    simp [skip, hquote, hslash]
  unfold escapeChar
  split_ifs with hquote hslash h8 h9 h10 h12 h13 hcontrol
  iterate 7 rfl
  · have hdigits : ∀ n < 0x20, (Nat.digitChar (n / 16) == '"') = false ∧
        (Nat.digitChar (n / 16) == '\\') = false ∧ (Nat.digitChar (n % 16) == '"') = false ∧
          (Nat.digitChar (n % 16) == '\\') = false := by
      decide
    obtain ⟨hhigh, hhigh', hlow, hlow'⟩ := hdigits c.toNat hcontrol
    calc skip depth .inside ('\\' :: 'u' :: '0' :: '0' :: Nat.digitChar (c.toNat / 16) ::
          Nat.digitChar (c.toNat % 16) :: rest)
      _ = skip depth .inside (Nat.digitChar (c.toNat / 16) :: Nat.digitChar (c.toNat % 16) :: rest) := rfl
      _ = skip depth .inside (Nat.digitChar (c.toNat % 16) :: rest) := hstays hhigh hhigh' _
      _ = skip depth .inside rest := hstays hlow hlow' _
  · exact hstays (by simpa using hquote) (by simpa using hslash) rest

theorem skipped_renderText (s : String) : Skipped 0 (renderText s) := by
  have hinside (depth : Nat) (cs rest : List Char) :
      skip depth .inside (cs.flatMap escapeChar ++ '"' :: rest) = skip depth .outside rest := by
    induction cs with
    | nil => rfl
    | cons c cs ih => rw [List.flatMap_cons, List.append_assoc, skip_escapeChar, ih]
  intro depth _ rest
  rw [renderText_append]
  exact hinside depth s.toList rest

theorem joinWithCommas_cons (text : List Char) (texts : List (List Char)) :
    joinWithCommas (text :: texts) = text ++ texts.flatMap (',' :: ·) := by
  induction texts generalizing text with
  | nil => simp [joinWithCommas]
  | cons next texts ih =>
    have hnext : joinWithCommas (text :: next :: texts) = text ++ ',' :: joinWithCommas (next :: texts) :=
      rfl
    rw [hnext, ih, List.flatMap_cons, List.cons_append]

section Commas

variable {texts texts' : List (List Char)}

theorem stops_flatMap_comma (texts : List (List Char)) : Stops (texts.flatMap (',' :: ·)) := by
  cases texts <;> rfl

theorem skipped_joinWithCommas (htexts : ∀ text ∈ texts, Skipped 0 text) :
    Skipped 1 (joinWithCommas texts) := by
  have hcomma : Skipped 1 [','] := by
    intro depth hdepth rest
    have hne : depth ≠ 0 := by omega
    simp [skip, hne]
  have htail (texts : List (List Char)) (htexts : ∀ text ∈ texts, Skipped 0 text) :
      Skipped 1 (texts.flatMap (',' :: ·)) := by
    induction texts with
    | nil => exact .nil
    | cons text texts ih =>
      have htext := (htexts text (by simp)).mono (Nat.zero_le 1)
      exact (hcomma.append htext).append (ih fun t ht => htexts t (List.mem_cons_of_mem _ ht))
  cases texts with
  | nil => exact .nil
  | cons text texts =>
    rw [joinWithCommas_cons]
    exact ((htexts text (by simp)).mono (Nat.zero_le 1)).append
      (htail texts fun t ht => htexts t (List.mem_cons_of_mem _ ht))

/-- Texts that a scan passes are told apart by the commas between them. -/
theorem joinWithCommas_inj (htexts : ∀ text ∈ texts, Skipped 0 text ∧ text ≠ [])
    (htexts' : ∀ text ∈ texts', Skipped 0 text ∧ text ≠ [])
    (h : joinWithCommas texts = joinWithCommas texts') : texts = texts' := by
  have htail {texts texts' : List (List Char)} (htexts : ∀ text ∈ texts, Skipped 0 text)
      (htexts' : ∀ text ∈ texts', Skipped 0 text)
      (h : texts.flatMap (',' :: ·) = texts'.flatMap (',' :: ·)) : texts = texts' := by
    induction texts generalizing texts' with
    | nil => cases texts' <;> simp_all
    | cons text texts ih =>
      cases texts' with
      | nil => simp at h
      | cons text' texts' =>
        rw [List.flatMap_cons, List.flatMap_cons, List.cons_append, List.cons_append,
          List.cons.injEq] at h
        obtain ⟨rfl, hrest⟩ := (htexts text (by simp)).append_inj (htexts' text' (by simp))
          (stops_flatMap_comma texts) (stops_flatMap_comma texts') h.2
        rw [ih (fun t ht => htexts t (List.mem_cons_of_mem _ ht))
          (fun t ht => htexts' t (List.mem_cons_of_mem _ ht)) hrest]
  cases texts with
  | nil =>
    cases texts' with
    | nil => rfl
    | cons text' texts' => simp_all [joinWithCommas, joinWithCommas_cons]
  | cons text texts =>
    cases texts' with
    | nil => simp_all [joinWithCommas, joinWithCommas_cons]
    | cons text' texts' =>
      rw [joinWithCommas_cons, joinWithCommas_cons] at h
      obtain ⟨rfl, hrest⟩ := (htexts text (by simp)).1.append_inj (htexts' text' (by simp)).1
        (stops_flatMap_comma texts) (stops_flatMap_comma texts') h
      rw [htail (fun t ht => (htexts t (List.mem_cons_of_mem _ ht)).1)
        (fun t ht => (htexts' t (List.mem_cons_of_mem _ ht)).1) hrest]

end Commas

/-- The fields of an object are written in some order, each with a colon after its name. -/
theorem skipped_renderField {field : String × List Char} (hfield : Skipped 0 field.2) :
    Skipped 0 (renderField field) := by
  have hcolon : Skipped 0 [':'] := skipped_of_plain rfl
  exact (skipped_renderText field.1).append (hcolon.append hfield)

theorem skipped_renderDouble (d : Double) : Skipped 0 (renderDouble d) := by
  unfold renderDouble
  split
  · exact skipped_of_number (NumberStyle.isDoubleText_finiteText _ d).number
  · exact skipped_of_plain rfl

mutual

/-- A scan passes over the text of a datum. -/
theorem skipped_render : ∀ d : Datum, Skipped 0 (render d)
  | .null => skipped_of_plain rfl
  | .bool true => skipped_of_plain rfl
  | .bool false => skipped_of_plain rfl
  | .int _ => skipped_of_number fun _ => isNumberChar_of_mem_integerText
  | .double d => skipped_renderDouble d
  | .text s => skipped_renderText s
  | .moment m => skipped_renderText (m.iso "T")
  | .list items =>
    (skipped_joinWithCommas (skipped_renderAll items)).between (.inl rfl) (.inl rfl)
  | .object fields => by
    refine (skipped_joinWithCommas fun text htext => ?_).between (.inr rfl) (.inr rfl)
    obtain ⟨field, hfield, rfl⟩ := List.mem_map.mp htext
    exact skipped_renderField (skipped_renderFields fields field (List.mem_mergeSort.mp hfield))
termination_by structural d => d

theorem skipped_renderAll : ∀ ds : List Datum, ∀ text ∈ renderAll ds, Skipped 0 text
  | [], _, htext => by cases htext
  | d :: ds, text, htext => by
    cases htext with
    | head => exact skipped_render d
    | tail _ hrest => exact skipped_renderAll ds text hrest
termination_by structural ds => ds

theorem skipped_renderFields :
    ∀ (fields : List (String × Datum)), ∀ field ∈ renderFields fields, Skipped 0 field.2
  | [], _, hfield => by cases hfield
  | (name, d) :: fields, field, hfield => by
    cases hfield with
    | head => exact skipped_render d
    | tail _ hrest => exact skipped_renderFields fields field hrest
termination_by structural fields => fields

end

end CallAudit.Json
