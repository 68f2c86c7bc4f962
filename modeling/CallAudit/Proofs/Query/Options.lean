import CallAudit.Proofs.Store.Lookup
import CallAudit.Query.Basic

/-!
# Options of a query

What an option can be given and what it asks for: the first of its spellings that asks for something
decides, and that is put to a name or to the lack of one.
-/

namespace CallAudit

/-- A criterion as a value that a query may be given. -/
def Criterion.toValue : Criterion → Value
  | .equals v => .exact v
  | .oneOf vs => .anyOf vs
  | .matching r => .pattern r

namespace Value

/-- Nothing, null, a name, a pattern, or a collection of names and nulls. -/
inductive IsOption : Value → Prop
  | absent : IsOption .absent
  | null : IsOption .null
  | name (s : String) : IsOption (.text s)
  | regex (r : Regex) : IsOption (.regex r)
  | list {items : List Value} (names : ∀ item ∈ items, item.name?.isSome = true) :
      IsOption (.list items)
  | tuple {items : List Value} (names : ∀ item ∈ items, item.name?.isSome = true) :
      IsOption (.tuple items)
  | bag (frozen : Bool) {items : List Value} (names : ∀ item ∈ items, item.name?.isSome = true) :
      IsOption (.bag frozen items)

/-- A name or the lack of one, or a pattern. -/
def IsPart (v : Value) : Prop := v.name?.isSome = true ∨ ∃ r, v = .regex r

/-- An option, or a list with patterns among its names. -/
inductive IsRequest : Value → Prop
  | option {v : Value} (option : IsOption v) : IsRequest v
  | list {items : List Value} (parts : ∀ item ∈ items, item.IsPart) : IsRequest (.list items)

/-- An option as it is, or the criterion made from it. -/
inductive IsSpelling : Value → Prop
  | raw {v : Value} (option : IsOption v) : IsSpelling v
  | wrapped {v : Value} {criterion : Criterion} (option : IsOption v)
      (made : Criterion.ofValue v = .ok criterion) : IsSpelling criterion.toValue

/-- What the spellings of an option come to: the first that is neither absent nor null, without the
    criterion around it; null if there is none but one of them is null; else nothing. -/
def resolve (spellings : List Value) : Value :=
  match spellings.find? fun v => !v.isAbsent && !v.isNull with
  | some v => v.unwrap
  | none => if spellings.any isNull then .null else .absent

/-- Whether an option asks for a name, or for the lack of one. A pattern is looked for in the name, and
    in the empty text if there is none. -/
def asksFor : Value → Option String → Bool
  | .null, name => name.isNone
  | .text s, name => name == some s
  | .regex r, name => r.foundIn (name.getD "")
  | .list items, name => items.any fun item => item.name? == some name
  | .tuple items, name => items.any fun item => item.name? == some name
  | .bag _ items, name => items.any fun item => item.name? == some name
  | _, _ => false

theorem pick_unwrap_eq_resolve (one several : Value) :
    (pick one several).unwrap = resolve [one, several] := by
  unfold pick resolve
  cases hone : one.isAbsent <;> cases hnull : one.isNull <;> cases hseveral : several.isAbsent <;>
    cases hnulls : several.isNull <;> simp [hone, hnull, hseveral, hnulls, unwrap]

theorem IsOption.unwrap_eq {v : Value} (hoption : IsOption v) : v.unwrap = v := by
  cases hoption <;> rfl

theorem IsRequest.unwrap_eq {v : Value} (hrequest : IsRequest v) : v.unwrap = v := by
  cases hrequest with
  | option option => exact option.unwrap_eq
  | list parts => rfl

theorem IsSpelling.isOption_unwrap {v : Value} (hspelling : IsSpelling v) : IsOption v.unwrap := by
  cases hspelling with
  | raw option => rwa [option.unwrap_eq]
  | @wrapped v criterion option made =>
    cases hitems : v.members? with
    | some items =>
      have hnames : ∀ item ∈ items, item.name?.isSome = true := by
        cases option <;> simp_all [members?]
      rw [Criterion.ofValue_of_members hitems made]
      exact .bag true fun item hitem => hnames item ((firstOfEach_sublist items).subset hitem)
    | none =>
      cases option with
      | absent | null | name s | regex r => cases made; constructor
      | list names | tuple names | bag frozen names => cases hitems

theorem isOption_resolve {spellings : List Value} (hspellings : ∀ v ∈ spellings, IsSpelling v) :
    IsOption (resolve spellings) := by
  unfold resolve
  split
  · next v hfound => exact (hspellings v (List.mem_of_find?_eq_some hfound)).isOption_unwrap
  · split
    · exact .null
    · exact .absent

/-- The criterion of a collection of names holds of its members. -/
theorem holds_oneOf_toSet (items : List Value) (name : Option String) :
    (Criterion.oneOf (toSet items)).holds (ofName name) =
      items.any fun item => item.name? == some name := by
  rw [Criterion.holds, isIn_toSet (ofName_same_iff name), isIn]
  refine List.any_congr rfl fun item => ?_
  rw [Bool.eq_iff_iff, ofName_same_iff, beq_iff_eq, name?_eq_some_iff]

theorem toSet?_of_parts {items : List Value} (hparts : ∀ item ∈ items, item.IsPart) :
    toSet? items = some (toSet items) := by
  refine if_pos ((allStable_iff items).mpr fun item hitem => ?_)
  obtain hname | ⟨r, rfl⟩ := hparts item hitem
  · obtain ⟨name, hname⟩ := Option.isSome_iff_exists.mp hname
    rw [name?_eq_some_iff.mp hname, isStable_ofName]
  · rfl

theorem toSet?_of_names {items : List Value} (hnames : ∀ item ∈ items, item.name?.isSome = true) :
    toSet? items = some (toSet items) :=
  toSet?_of_parts fun item hitem => .inl (hnames item hitem)

/-- An option that asks for something stands for a criterion, which holds of the names that the option
    asks for. -/
theorem IsOption.exists_criterion {v : Value} (hoption : IsOption v) (hgiven : v.isAbsent = false) :
    ∃ criterion, Criterion.ofValue v = .ok criterion ∧ criterion.WellFormed ∧
      ∀ name, criterion.holds (ofName name) = v.asksFor name := by
  cases hoption with
  | absent => cases hgiven
  | null => exact ⟨.equals .null, rfl, rfl, fun name => by cases name <;> rfl⟩
  | name s =>
    refine ⟨.equals (.text s), rfl, rfl, fun name => ?_⟩
    cases name with
    | none => rfl
    | some other => simp [Criterion.holds, ofName, same, asksFor]
  | regex r => exact ⟨.matching r, rfl, trivial, fun name => by cases name <;> rfl⟩
  | list names | tuple names | bag frozen names =>
    refine ⟨.oneOf (toSet _), ?_, Criterion.wellFormed_oneOf_toSet _, holds_oneOf_toSet _⟩
    simp [Criterion.ofValue, members?, toSet?_of_names names]

/-- So does a list with patterns among its names, of which the patterns equal no name. -/
theorem IsRequest.exists_criterion {v : Value} (hrequest : IsRequest v) (hgiven : v.isAbsent = false) :
    ∃ criterion, Criterion.ofValue v = .ok criterion ∧ criterion.WellFormed ∧
      ∀ name, criterion.holds (ofName name) = v.asksFor name := by
  cases hrequest with
  | option option => exact option.exists_criterion hgiven
  | list parts =>
    refine ⟨.oneOf (toSet _), ?_, Criterion.wellFormed_oneOf_toSet _, holds_oneOf_toSet _⟩
    simp [Criterion.ofValue, members?, toSet?_of_parts parts]

end Value

end CallAudit
