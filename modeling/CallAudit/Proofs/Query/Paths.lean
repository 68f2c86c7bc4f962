import CallAudit.Proofs.Query.Chains

/-!
# Queries for paths

A path is asked for by its segments with dots between them. As long as no segment is empty or has a dot in
it, the text tells the segments, so a query for a path accepts exactly the chains with these segments. So
does a collection in which the path stands among members that the head of the chain is not.
-/

namespace CallAudit

namespace Chain

/-- The known segments of a chain before the last. -/
def known (chain : Segments) : List String := chain.dropLast.filterMap id

/-- Whether a name can be told apart among others with dots between them. -/
structure IsSegment (name : String) : Prop where
  nonempty : name ≠ ""
  undotted : '.' ∉ name.toList

instance (name : String) : Decidable (IsSegment name) :=
  decidable_of_iff (name ≠ "" ∧ '.' ∉ name.toList) ⟨fun h => ⟨h.1, h.2⟩, fun h => ⟨h.1, h.2⟩⟩

def startsWithCapital (name : String) : Bool := name.toList.head?.any fun c => 'A' ≤ c && c ≤ 'Z'

section Segments

variable {names others : List String} (hnames : ∀ name ∈ names, IsSegment name)
  (hothers : ∀ name ∈ others, IsSegment name)

include hnames

/-- Segments are found again between the dots that separate them. -/
theorem splitOn_intercalate_dot (hsome : names ≠ []) :
    (".".intercalate names).toList.splitOn '.' = names.map String.toList := by
  rw [String.toList_intercalate]
  refine List.splitOn_intercalate '.' ?_ (by simpa using hsome)
  intro chars hchars
  obtain ⟨name, hname, rfl⟩ := List.mem_map.mp hchars
  exact (hnames name hname).undotted

theorem intercalate_dot_ne_empty (hsome : names ≠ []) : ".".intercalate names ≠ "" := by
  intro hempty
  have hsplit := splitOn_intercalate_dot hnames hsome
  rw [hempty] at hsplit
  obtain ⟨name, rfl, hname⟩ := List.map_eq_singleton_iff.mp (hsplit.symm : names.map _ = [[]])
  exact (hnames name List.mem_cons_self).nonempty (String.toList_eq_nil_iff.mp hname)

include hothers in
/-- Two lists of segments have one text only if they are the same. -/
theorem intercalate_dot_inj : ".".intercalate names = ".".intercalate others ↔ names = others := by
  refine ⟨fun h => ?_, fun h => h ▸ rfl⟩
  by_cases hsome : names = []
  · subst hsome
    by_contra hne
    exact intercalate_dot_ne_empty hothers (Ne.symm hne) h.symm
  · have hsome' : others ≠ [] := by
      rintro rfl
      exact intercalate_dot_ne_empty hnames hsome h
    have hsplit := splitOn_intercalate_dot hnames hsome
    rw [h, splitOn_intercalate_dot hothers hsome'] at hsplit
    exact (List.map_inj_right fun _ _ => String.toList_injective).mp hsplit.symm

/-- Segments denote a path if there are several, or the only one does not start with a capital letter. -/
theorem isPathName_intercalate_iff (hsome : names ≠ []) :
    isPathName (".".intercalate names) = true ↔
      2 ≤ names.length ∨ ∃ name, names = [name] ∧ startsWithCapital name = false := by
  cases names with
  | nil => exact absurd rfl hsome
  | cons name rest =>
    cases rest with
    | nil =>
      have hundotted : name.toList.contains '.' = false := by
        simpa using (hnames name List.mem_cons_self).undotted
      rw [String.intercalate_singleton, isPathName_eq, isClassName, hundotted]
      simp [startsWithCapital]
    | cons next rest => simp [isPathName, String.intercalate_cons_cons]

end Segments

/-- The path of a chain is the text of some segments if and only if they are its known ones. -/
theorem path_eq_intercalate_iff {chain : Segments} {names : List String}
    (hchain : ∀ name ∈ known chain, IsSegment name) (hnames : ∀ name ∈ names, IsSegment name) :
    path chain = ".".intercalate names ↔ known chain = names := by
  rw [path, dotted_eq_intercalate]
  exact intercalate_dot_inj hchain hnames

end Chain

namespace ChainTest

open Chain

/-- A collection in which one path is asked for, and else nothing that the head of a chain is. -/
structure AsksForPath (v : Value) (members : List Value) (path : String) (chain : Segments) : Prop where
  members_eq : v.members? = some members
  path_mem : .text path ∈ members
  path_eq : ∀ m ∈ members, isPathQuery m = true → m = .text path
  head_ne : ∀ m ∈ members, isPathQuery m = false → m ≠ .ofName (Chain.head chain)

section Collection

variable {v : Value} {members : List Value} {path : String} {chain : Segments}

/-- A member that is no path asks for the head of a chain. -/
theorem eq_head_of_goesBy {m : Value} (hplain : isPathQuery m = false)
    (hgoes : m.name?.any (goesBy chain) = true) : m = .ofName (Chain.head chain) := by
  obtain ⟨name, hname, hmeets⟩ := (Option.any_eq_true _ _).mp hgoes
  obtain rfl := Value.name?_eq_some_iff.mp hname
  cases name with
  | none => rw [Option.isNone_iff_eq_none.mp hmeets]
  | some s =>
    rw [goesBy_of_not_isPathName hplain, beq_iff_eq] at hmeets
    rw [hmeets]

/-- In such a collection only the path matters. -/
theorem AsksForPath.any_goesBy (h : AsksForPath v members path chain) :
    (members.any fun m => m.name?.any (goesBy chain)) = goesBy chain (some path) := by
  rw [Bool.eq_iff_iff, List.any_eq_true]
  constructor
  · rintro ⟨m, hm, hgoes⟩
    cases hquery : isPathQuery m with
    | true =>
      obtain rfl := h.path_eq m hm hquery
      exact hgoes
    | false => exact absurd (eq_head_of_goesBy hquery hgoes) (h.head_ne m hm hquery)
  · intro hgoes
    exact ⟨.text path, h.path_mem, hgoes⟩

/-- A collection of stable members stands for a test that compares the path of a chain. -/
theorem AsksForPath.exists_chainTest (h : AsksForPath v members path chain)
    (hpath : isPathName path = true) (hstable : ∀ m ∈ members, m.isStable = true) :
    ∃ test, ofValue v = .ok test ∧ (test.accepts chain = true ↔ Chain.path chain = path) := by
  have hheads : Value.toSet? (members.filter fun m => !isPathQuery m) =
      some (Value.toSet (members.filter fun m => !isPathQuery m)) :=
    if_pos ((Value.allStable_iff _).mpr fun m hm => hstable m (List.mem_filter.mp hm).1)
  refine ⟨.anyOf (Value.toSet (members.filter fun m => !isPathQuery m))
    (members.filterMap pathText?), ?_, ?_⟩
  · simp only [ofValue, h.members_eq, hheads]
  · rw [Value.accepts_anyOf, h.any_goesBy, goesBy_of_isPathName hpath, beq_iff_eq]

/-- A collection stands for no test if a member can change, for such a member is no path. -/
theorem ofValue_of_unstable (hmembers : v.members? = some members) {m : Value} (hm : m ∈ members)
    (hunstable : m.isStable = false) : ofValue v = .error .notStable := by
  have hplain : isPathQuery m = false := by
    cases m with
    | text s => cases hunstable
    | _ => rfl
  have hheads : Value.toSet? (members.filter fun m => !isPathQuery m) = none := by
    refine if_neg fun hall => ?_
    have hstable := (Value.allStable_iff _).mp hall m (List.mem_filter.mpr ⟨hm, by simp [hplain]⟩)
    rw [hunstable] at hstable
    cases hstable
  simp only [ofValue, hmembers, hheads]

end Collection

/-- Names that are segments denote a path if they are several, or one that does not start with a capital
    letter. A query for the path accepts exactly the chains whose known segments before the last are
    these names, and so does every collection of stable members in which the path is the only one and the
    head of the chain is not asked for. A collection with a member that can change stands for no test. -/
theorem accepts_iff_known_eq {chain : Segments} {names : List String}
    (hchain : ∀ name ∈ known chain, IsSegment name) (hnames : ∀ name ∈ names, IsSegment name)
    (hsome : names ≠ []) :
    (isPathQuery (.text (".".intercalate names)) = true ↔
      2 ≤ names.length ∨ ∃ name, names = [name] ∧ startsWithCapital name = false) ∧
    (isPathQuery (.text (".".intercalate names)) = true →
      (∃ test, ofValue (.text (".".intercalate names)) = .ok test ∧
        (test.accepts chain = true ↔ known chain = names)) ∧
      ∀ v members, AsksForPath v members (".".intercalate names) chain →
        ((∀ m ∈ members, m.isStable = true) →
          ∃ test, ofValue v = .ok test ∧ (test.accepts chain = true ↔ known chain = names)) ∧
        ((∃ m ∈ members, m.isStable = false) → ofValue v = .error .notStable)) := by
  have hsame := path_eq_intercalate_iff hchain hnames
  refine ⟨isPathName_intercalate_iff hnames hsome, fun hpath => ⟨?_, fun v members h => ⟨?_, ?_⟩⟩⟩
  · have hpath : isPathName (".".intercalate names) = true := hpath
    refine ⟨.path (".".intercalate names), ?_, ?_⟩
    · simp [ofValue, Value.members?, pathText?, hpath]
    · rw [accepts, beq_iff_eq]
      exact hsame
  · intro hstable
    obtain ⟨test, htest, haccepts⟩ := h.exists_chainTest hpath hstable
    exact ⟨test, htest, haccepts.trans hsame⟩
  · rintro ⟨m, hm, hunstable⟩
    exact ofValue_of_unstable h.members_eq hm hunstable

/-- The association of a model is asked for beside another model and chains without a known head. The call
    on the association is accepted, though a segment of its chain is not known. -/
theorem accepts_iff_known_eq_of_association :
    let chain : Segments := [some "User", none, some "posts", some "find"]
    let v : Value := .bag true [.null, .text "User.posts", .text "Post"]
    known chain = ["User", "posts"] ∧ ∃ test, ofValue v = .ok test ∧ test.accepts chain = true := by
  intro chain v
  have hsegments : ∀ name ∈ ["User", "posts"], IsSegment name := by decide
  have hasks : AsksForPath v [.null, .text "User.posts", .text "Post"] "User.posts" chain :=
    { members_eq := rfl
      path_mem := by simp
      path_eq := by simp [isPathQuery, isPathName]
      head_ne := by simp [isPathQuery, isPathName, chain, Chain.head, Value.ofName] }
  have hlaw := (@accepts_iff_known_eq chain _ hsegments hsegments (by simp)).2 rfl
  obtain ⟨test, htest, haccepts⟩ := (hlaw.2 v _ hasks).1 (by simp [Value.isStable])
  exact ⟨rfl, test, htest, haccepts.mpr rfl⟩

/-- Not every collection stands for a test: a list in which a path stands beside another list does not. -/
theorem not_forall_exists_chainTest :
    ¬ ∀ (chain : Segments) (names : List String) (v : Value) (members : List Value),
      (∀ name ∈ known chain, IsSegment name) → (∀ name ∈ names, IsSegment name) → names ≠ [] →
      isPathQuery (.text (".".intercalate names)) = true →
      AsksForPath v members (".".intercalate names) chain →
      ∃ test, ofValue v = .ok test ∧ (test.accepts chain = true ↔ known chain = names) := by
  intro hlaw
  have hsegments : ∀ name ∈ ["User", "posts"], IsSegment name := by decide
  have hasks : AsksForPath (.list [.text "User.posts", .list [.text "x"]])
      [.text "User.posts", .list [.text "x"]] "User.posts" [some "User", some "posts", some "find"] :=
    { members_eq := rfl
      path_mem := by simp
      path_eq := by simp [isPathQuery]
      head_ne := by simp [isPathQuery, isPathName, Chain.head, Value.ofName] }
  obtain ⟨test, htest, -⟩ := hlaw [some "User", some "posts", some "find"] ["User", "posts"] _ _
    hsegments hsegments (by simp) rfl hasks
  cases htest

end ChainTest

end CallAudit
