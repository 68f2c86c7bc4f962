import CallAudit.Proofs.Check.Naming

/-!
# The table of warning codes

The codes of the registered checks are listed by their symbols. Names are told apart when checks are added,
symbols are not: where checks have a symbol in common, one code stands for all of them.
-/

namespace CallAudit

/-- A check with a symbol and a code, as its warnings carry them. -/
structure Check.IsMarked (check : Check) (symbol : String) (code : Int) : Prop where
  symbol_eq : check.config.warningSymbol = .text symbol
  symbol_ne : symbol ≠ ""
  code_eq : check.codeInUse = .ok (.int code)

theorem Check.IsMarked.marks_of_warnings {check : Check} {symbol : String} {code : Int}
    (h : check.IsMarked symbol code) {scan : Scan} {found : List Warning}
    (hfound : check.warnings scan = .ok found) :
    ∀ warning ∈ found, warning.symbol = .text symbol ∧ warning.code = .int code := by
  intro warning hwarning
  obtain ⟨-, hsymbol, hcode⟩ := Check.marks_of_warnings hfound warning hwarning
  rw [h.code_eq] at hcode
  exact ⟨hsymbol.trans h.symbol_eq, (Except.ok.inj hcode).symm⟩

namespace Registry

/-- The code that a table has for a symbol. -/
def codeFor? (table : List (Datum × Datum)) (symbol : String) : Option Datum :=
  (table.find? fun entry => entry.1.same (.text symbol)).map (·.2)

section Table

variable {symbol symbol' : String} {code : Datum} {table : List (Datum × Datum)}

theorem codeFor?_cons (key : Datum) :
    codeFor? ((key, code) :: table) symbol =
      if key.same (.text symbol) then some code else codeFor? table symbol := by
  rw [codeFor?, List.find?_cons]
  cases hkey : key.same (.text symbol) <;> rfl

/-- A changed table has the new code for the symbol, and those that it had for the others. -/
theorem codeFor?_setEntry :
    codeFor? (setEntry (.text symbol) code table) symbol' =
      if symbol = symbol' then some code else codeFor? table symbol' := by
  induction table with
  | nil => simp only [setEntry, codeFor?_cons, Datum.same_text, beq_iff_eq]
  | cons entry rest ih =>
    obtain ⟨key, old⟩ := entry
    rw [setEntry]
    by_cases hkey : key.same (.text symbol) = true
    · rw [if_pos hkey, Datum.same_text_right_iff.mp hkey]
      simp only [codeFor?_cons, Datum.same_text, beq_iff_eq]
      split <;> rfl
    · rw [if_neg hkey, codeFor?_cons, codeFor?_cons, ih]
      by_cases hkey' : key.same (.text symbol') = true
      · have hne : symbol ≠ symbol' := by
          rintro rfl
          exact hkey hkey'
        rw [if_pos hkey', if_pos hkey', if_neg hne]
      · rw [if_neg hkey', if_neg hkey']

end Table

section Codes

variable {registry : Registry} {symbol : Nat → String} {code : Nat → Int}

/-- A check with a symbol and a code adds its code under its symbol. -/
theorem addCode_of_isMarked {position : Nat} (table : List (Datum × Datum))
    (hmarked : (registry.checkAt position).IsMarked (symbol position) (code position)) :
    registry.addCode table position =
      .ok (setEntry (.text (symbol position)) (.int (code position)) table) := by
  have hsymbol : Config.requiredField "warning_symbol" (.text (symbol position)) =
      .ok (.text (symbol position)) := by
    rw [Config.requiredField, if_neg]
    simpa [Datum.isVoid] using hmarked.symbol_ne
  rw [addCode, hmarked.symbol_eq, hsymbol, hmarked.code_eq]
  rfl

/-- The table that is made of some checks has for each symbol the code of the last of them with it. -/
theorem exists_codes {registered : List Nat}
    (hmarked : ∀ position ∈ registered,
      (registry.checkAt position).IsMarked (symbol position) (code position)) :
    ∃ table, registered.foldlM registry.addCode [] = .ok table ∧
      ∀ shown, codeFor? table shown =
        (registered.reverse.find? (symbol · == shown)).map fun position => .int (code position) := by
  induction registered using List.reverseRecOn with
  | nil => exact ⟨[], rfl, fun _ => rfl⟩
  | append_singleton earlier last ih =>
    obtain ⟨table, htable, hcodes⟩ := ih fun position hposition =>
      hmarked position (List.mem_append_left _ hposition)
    have hlast := addCode_of_isMarked table (hmarked last (by simp))
    refine ⟨setEntry (.text (symbol last)) (.int (code last)) table, ?_, fun shown => ?_⟩
    · rw [List.foldlM_append, htable]
      change [last].foldlM registry.addCode table = _
      rw [List.foldlM_cons, hlast]
      rfl
    · rw [codeFor?_setEntry, hcodes, List.reverse_append]
      by_cases hshown : symbol last = shown
      · simp [hshown]
      · simp [hshown]

/-- A table with the code of the last check for each symbol has the codes of all of them exactly if checks
    with the same symbol have the same code. -/
theorem codes_complete_iff {registered : List Nat} {table : List (Datum × Datum)}
    (hcodes : ∀ shown, codeFor? table shown =
      (registered.reverse.find? (symbol · == shown)).map fun position => .int (code position)) :
    (∀ position ∈ registered,
      codeFor? table (symbol position) = some (.int (code position))) ↔
      ∀ first ∈ registered, ∀ second ∈ registered,
        symbol first = symbol second → code first = code second := by
  constructor
  · intro hcomplete first hfirst second hsecond hsymbol
    have hcode := hcomplete first hfirst
    rw [hsymbol, hcomplete second hsecond] at hcode
    exact (Datum.int.inj (Option.some.inj hcode)).symm
  · intro hagree position hposition
    rw [hcodes]
    cases hlast : registered.reverse.find? (symbol · == symbol position) with
    | none =>
      have hother := List.find?_eq_none.mp hlast position (List.mem_reverse.mpr hposition)
      exact absurd (beq_self_eq_true _) hother
    | some last =>
      have hsymbol := List.find?_some hlast
      have hmem := List.mem_reverse.mp (List.mem_of_find?_eq_some hlast)
      rw [Option.map_some, hagree last hmem position hposition (eq_of_beq hsymbol)]

end Codes

/-- If every registered check has a symbol and a code, there is a table of the codes, and it has for each
    symbol the code of the check that was added last with it. So every check has in it the code that its
    warnings carry exactly if checks with the same symbol have the same code. -/
theorem warning_codes_complete_iff (checks : List Check) (steps : List Step)
    (symbol : Nat → String) (code : Nat → Int)
    (hmarked : ∀ position ∈ ((ofChecks checks).additions steps).map (·.2),
      (((ofChecks checks).after steps).checkAt position).IsMarked (symbol position) (code position)) :
    let registry := (ofChecks checks).after steps
    let registered := ((ofChecks checks).additions steps).map (·.2)
    (∀ position ∈ registered, ∀ (scan : Scan) (warnings : List Warning),
      ((onCheck position (Check.run scan)).run registry).outcome = .ok warnings →
      ∀ warning ∈ warnings,
        warning.symbol = .text (symbol position) ∧ warning.code = .int (code position)) ∧
    ∃ table, (warningCodes.run registry).outcome = .ok table ∧
      (∀ shown, codeFor? table shown =
        (registered.reverse.find? (symbol · == shown)).map fun position => .int (code position)) ∧
      ((∀ position ∈ registered,
        codeFor? table (symbol position) = some (.int (code position))) ↔
        ∀ first ∈ registered, ∀ second ∈ registered,
          symbol first = symbol second → code first = code second) := by
  intro registry registered
  have hentries : registry.entries.map (·.2) = registered :=
    congrArg _ (entries_after_ofChecks checks steps)
  obtain ⟨table, htable, hcodes⟩ := exists_codes hmarked
  refine ⟨?_, table, ?_, hcodes, codes_complete_iff hcodes⟩
  · intro position hposition scan warnings hrun
    rw [outcome_onCheck_run] at hrun
    exact (hmarked position hposition).marks_of_warnings hrun
  · have houtcome := (warningCodes_goesAs registry (.refl registry)).2
    rw [hentries] at houtcome
    exact houtcome.trans htable

/-- Two checks have the same symbol and codes of their own. The code of the first is not in the table. -/
theorem warning_codes_incomplete_of_shared_symbol :
    let config (name : String) (code : Int) : Config :=
      { name := .text name, description := .null, warningSymbol := .text "SQL"
        warningCode := .int code, targets := .list [], methods := .list [] }
    let checks := [Check.ofConfig (config "First" 1), Check.ofConfig (config "Second" 2)]
    let registry := (ofChecks checks).after [.add 0, .add 1]
    (positions.run registry).outcome = .ok [0, 1] ∧
      (registry.checkAt 0).IsMarked "SQL" 1 ∧ (registry.checkAt 1).IsMarked "SQL" 2 ∧
      ∃ table, (warningCodes.run registry).outcome = .ok table ∧
        codeFor? table "SQL" = some (.int 2) := by
  intro config checks registry
  have hadded : ((ofChecks checks).additions [.add 0, .add 1]).map (·.2) = [0, 1] := rfl
  have hfirst : (registry.checkAt 0).IsMarked "SQL" 1 := ⟨rfl, by decide, rfl⟩
  have hsecond : (registry.checkAt 1).IsMarked "SQL" 2 := ⟨rfl, by decide, rfl⟩
  have hmarked : ∀ position ∈ ((ofChecks checks).additions [.add 0, .add 1]).map (·.2),
      (registry.checkAt position).IsMarked "SQL" (position + 1) := by
    rw [hadded]
    intro position hposition
    cases hposition with
    | head => exact hfirst
    | tail _ hposition =>
      rw [List.mem_singleton.mp hposition]
      exact hsecond
  obtain ⟨-, table, htable, hcodes, -⟩ := warning_codes_complete_iff checks [.add 0, .add 1]
    (fun _ => "SQL") (fun position => position + 1) hmarked
  refine ⟨rfl, hfirst, hsecond, table, htable, ?_⟩
  rw [hcodes, hadded]
  rfl

end Registry

end CallAudit
