import CallAudit.Proofs.Check.Selection
import CallAudit.Proofs.Value.Equivalence

/-!
# The arguments that are looked at

Positions may be negative, repeated or out of range. Each one within range leads to one argument, and of
these arguments the first of each equality class is looked at, in the order of the positions.
-/

namespace CallAudit

/-- Methods give positions for a method. There are none, and all arguments are meant, if the methods are
    listed, if the method is not among the fields, or if its field has the word for all. -/
inductive Datum.GivesPositions (method : String) : Datum → Option (List Int) → Prop
  | listed (items : List Datum) : GivesPositions method (.list items) none
  | unnamed {fields : List (String × Datum)} (unnamed : fields.lookup method = none) :
      GivesPositions method (.object fields) none
  | all {fields : List (String × Datum)} (configured : fields.lookup method = some (.text allArguments)) :
      GivesPositions method (.object fields) none
  | one {fields : List (String × Datum)} {position : Int}
      (configured : fields.lookup method = some (.int position)) :
      GivesPositions method (.object fields) (some [position])
  | several {fields : List (String × Datum)} {positions : List Int}
      (configured : fields.lookup method = some (.list (positions.map .int))) :
      GivesPositions method (.object fields) (some positions)

namespace Check

variable {config : Config} {positions : Option (List Int)}

theorem argumentPositions_of_gives {method : String}
    (hpositions : config.methods.GivesPositions method positions) :
    argumentPositions config method = .ok positions := by
  rw [argumentPositions]
  generalize config.methods = methods at hpositions ⊢
  cases hpositions with
  | listed items => rfl
  | unnamed hunnamed => simp only [hunnamed]
  | all hconfigured => simp only [hconfigured, positions?, if_pos]
  | one hconfigured => simp only [hconfigured, positions?]
  | several hconfigured => simp only [hconfigured, Datum.positions?_ints]

theorem relevantArguments_of_gives {call : Call}
    (hpositions : config.methods.GivesPositions call.method positions) :
    relevantArguments config call =
      .ok (Datum.distinct ((argumentsAt call.args positions).filter fun a => !a.isNull)) := by
  rw [relevantArguments, argumentPositions_of_gives hpositions]
  rfl

section Places

variable {count : Nat} {position : Int}

/-- A position stands for a place, counted from the front or back from the end. -/
def Denotes (position : Int) (place : Fin count) : Prop := position = place ∨ position = place - count

/-- Whether a position stands for one of so many places. -/
def isWithin (count : Nat) (position : Int) : Bool := -count ≤ position && position < count

/-- The places that positions lead to: those of the positions within range, in their order. -/
inductive LeadsTo : Option (List Int) → List (Fin count) → Prop
  | all : LeadsTo none (List.finRange count)
  | given {positions : List Int} {places : List (Fin count)}
      (each : List.Forall₂ Denotes (positions.filter (isWithin count)) places) :
      LeadsTo (some positions) places

theorem isWithin_iff : isWithin count position = true ↔ -count ≤ position ∧ position < count := by
  rw [isWithin, Bool.and_eq_true, decide_eq_true_iff, decide_eq_true_iff]

/-- A position is within range just if it stands for a place. -/
theorem isWithin_iff_exists_denotes :
    isWithin count position = true ↔ ∃ place : Fin count, Denotes position place := by
  rw [isWithin_iff]
  constructor
  · rintro ⟨hlow, hhigh⟩
    by_cases hfront : 0 ≤ position
    · refine ⟨⟨position.toNat, by omega⟩, .inl ?_⟩
      exact (Int.toNat_of_nonneg hfront).symm
    · refine ⟨⟨(count + position).toNat, by omega⟩, .inr ?_⟩
      have hnonneg : 0 ≤ count + position := by omega
      rw [Int.toNat_of_nonneg hnonneg]
      omega
  · rintro ⟨place, hplace⟩
    have hbound := place.isLt
    cases hplace with
    | inl hfront => omega
    | inr hback => omega

theorem argumentAt?_of_denotes {arguments : List Datum} {place : Fin arguments.length}
    (hplace : Denotes position place) : argumentAt? arguments position = some arguments[place] := by
  have hbound := place.isLt
  rw [argumentAt?]
  cases hplace with
  | inl hfront =>
    have hindex : position.toNat = place := by omega
    rw [if_pos (by omega), hindex]
    exact List.getElem?_eq_getElem hbound
  | inr hback =>
    have hindex : (arguments.length + position).toNat = place := by omega
    rw [if_neg (by omega), if_pos (by omega), hindex]
    exact List.getElem?_eq_getElem hbound

theorem argumentAt?_of_not_within {arguments : List Datum}
    (houtside : ¬isWithin arguments.length position = true) : argumentAt? arguments position = none := by
  rw [isWithin_iff] at houtside
  rw [argumentAt?]
  split
  · next hfront => exact List.getElem?_eq_none (by omega)
  · next hback => exact if_neg (by omega)

/-- Each position within range yields the argument at its place, and no other position yields any. -/
theorem exists_places (arguments : List Datum) (positions : List Int) :
    ∃ places : List (Fin arguments.length),
      List.Forall₂ Denotes (positions.filter (isWithin arguments.length)) places ∧
        positions.filterMap (argumentAt? arguments) = places.map arguments.get := by
  induction positions with
  | nil => exact ⟨[], .nil, rfl⟩
  | cons position positions ih =>
    obtain ⟨places, heach, harguments⟩ := ih
    by_cases hwithin : isWithin arguments.length position = true
    · obtain ⟨place, hplace⟩ := isWithin_iff_exists_denotes.mp hwithin
      refine ⟨place :: places, ?_, ?_⟩
      · rw [List.filter_cons_of_pos hwithin]
        exact .cons hplace heach
      · rw [List.filterMap_cons_some (argumentAt?_of_denotes hplace), harguments]
        rfl
    · refine ⟨places, ?_, ?_⟩
      · rwa [List.filter_cons_of_neg hwithin]
      · rw [List.filterMap_cons_none (argumentAt?_of_not_within hwithin), harguments]

/-- The arguments at some positions are those at the places that the positions lead to. -/
theorem exists_leadsTo (arguments : List Datum) (positions : Option (List Int)) :
    ∃ places : List (Fin arguments.length), LeadsTo positions places ∧
      argumentsAt arguments positions = places.map arguments.get := by
  cases positions with
  | none => exact ⟨_, .all, (List.map_get_finRange arguments).symm⟩
  | some positions =>
    obtain ⟨places, heach, harguments⟩ := exists_places arguments positions
    exact ⟨places, .given heach, harguments⟩

end Places

/-- Of the arguments at some places, those that are not null and that equal none before them. -/
structure AreFirsts (arguments : List Datum) (places : List (Fin arguments.length))
    (relevant : List Datum) : Prop where
  not_null : .null ∉ relevant
  distinct : relevant.Pairwise fun a b => a.same b = false ∧ b.same a = false
  covers : ∀ place ∈ places, arguments[place] ≠ .null → ∃ a ∈ relevant, a.same arguments[place] = true
  firsts : relevant = withoutEarlier Datum.same ((places.map arguments.get).filter fun a => !a.isNull)

theorem areFirsts_distinct {arguments : List Datum} (hordinary : ∀ a ∈ arguments, a.IsOrdinary)
    (places : List (Fin arguments.length)) :
    AreFirsts arguments places
      (Datum.distinct ((places.map arguments.get).filter fun a => !a.isNull)) := by
  have hgiven : ∀ a ∈ (places.map arguments.get).filter (fun a => !a.isNull), a.IsOrdinary := by
    intro a ha
    obtain ⟨place, _, rfl⟩ := List.mem_map.mp (List.mem_filter.mp ha).1
    exact hordinary _ (List.get_mem arguments place)
  refine ⟨fun hnull => ?_, Datum.pairwise_distinct hgiven, fun place hplace hsome => ?_,
    Datum.distinct_eq_withoutEarlier hgiven⟩
  · simpa [Datum.isNull] using (firstOfEach_sublist _).subset hnull
  · apply Datum.exists_mem_distinct hgiven
    have hkept : (!arguments[place].isNull) = true := by
      cases hargument : arguments[place] with
      | null => exact absurd hargument hsome
      | _ => rfl
    exact List.mem_filter.mpr ⟨List.mem_map.mpr ⟨place, hplace, rfl⟩, hkept⟩

/-- The arguments to look at are known whatever the positions are, however far out of range. None of them is
    null and no two are equal. Every argument other than null that a position leads to equals one of them,
    and they are the first ones that do, in the order of the positions. That positions from both ends lead
    to the same place makes no difference. Arguments need not be JSON: infinite numbers are fine, and so are
    dates and times. -/
theorem relevantArguments_are_firsts (config : Config) (call : Call) {positions : Option (List Int)}
    (hpositions : config.methods.GivesPositions call.method positions)
    (hordinary : ∀ a ∈ call.args, a.IsOrdinary) :
    ∃ places relevant, LeadsTo positions places ∧ relevantArguments config call = .ok relevant ∧
      AreFirsts call.args places relevant := by
  obtain ⟨places, hplaces, harguments⟩ := exists_leadsTo call.args positions
  refine ⟨places, _, hplaces, ?_, areFirsts_distinct hordinary places⟩
  rw [relevantArguments_of_gives hpositions, harguments]

/-- One place is given from both ends, two positions are out of range, and two arguments are the number one,
    of which the double is given first. -/
theorem relevantArguments_are_firsts_of_repeated :
    let positions : List Int := [2, 7, -2, 3, 1, 0, -9]
    let one : Double := ⟨0x3FF0000000000000⟩
    let config : Config :=
      { name := .null, description := .null, warningSymbol := .null, warningCode := .null
        targets := .list [], methods := .object [("find", .list (positions.map .int))] }
    let call : Call :=
      { Call.ofChain "find" [] with args := [.bool true, .null, .list [.int 1], .double one] }
    config.methods.GivesPositions call.method (some positions) ∧ (∀ a ∈ call.args, a.IsOrdinary) ∧
      ∃ places, LeadsTo (some positions) places ∧
        AreFirsts call.args places [.list [.int 1], .double one] := by
  intro positions one config call
  have hpositions : config.methods.GivesPositions call.method (some positions) := .several rfl
  have hjson : ∀ a ∈ call.args, a.IsJson := by
    simp only [call, List.forall_mem_cons]
    exact ⟨.bool true, .null, .list (by simp [Datum.IsJson.int]), .double (by decide), by simp⟩
  have hordinary : ∀ a ∈ call.args, a.IsOrdinary := fun a ha => (hjson a ha).isOrdinary
  have hgiven : (argumentsAt call.args (some positions)).filter (fun a => !a.isNull) =
      [.list [.int 1], .list [.int 1], .double one, .bool true] := rfl
  have hlist : (Datum.list [.int 1]).same (.list [.int 1]) = true := by decide +kernel
  have hdouble : (Datum.double one).same (.list [.int 1]) = false := by decide +kernel
  have hbool : (Datum.bool true).same (.double one) = true := by decide +kernel
  have hdistinct : Datum.distinct [.list [.int 1], .list [.int 1], .double one, .bool true] =
      [.list [.int 1], .double one] := by
    simp [Datum.distinct, firstOfEach, hlist, hdouble, hbool]
  obtain ⟨places, relevant, hplaces, hrelevant, hfirsts⟩ :=
    relevantArguments_are_firsts config call hpositions hordinary
  rw [relevantArguments_of_gives hpositions, hgiven, hdistinct, Except.ok.injEq] at hrelevant
  exact ⟨hpositions, hordinary, places, hplaces, hrelevant ▸ hfirsts⟩

end Check

end CallAudit
