import CallAudit.CommandLine.Report
import Mathlib.Data.List.Forall2

/-!
# Loading checks

The bytes of a checks file are loaded if they are the text of a TOML document that lists configurations.
What is wrong with a text is reported as a failure of the file. Bytes that are no text, and an integer with
too many digits, are not: they end the program without a message.
-/

namespace CallAudit

namespace Config

/-- What a document lists as its checks: none if it does not say. -/
def listedChecks (fields : Toml.Fields) : Datum := (fields.lookup tableName).getD (.list [])

/-- A text is a document that lists some tables as its checks. -/
def HasTables (text : String) (tables : List Datum) : Prop :=
  ∃ fields, Toml.read text = .ok fields ∧ listedChecks fields = .list tables

/-- The configurations that tables are, table by table. -/
abbrev AreConfigs (tables : List Datum) (configs : List Config) : Prop :=
  List.Forall₂ (fun table config => ofDatum table = .valid config) tables configs

/-- What is wrong with the text of a checks file: it is no TOML, its checks are no list, or one of them is
    no configuration. Of several such the first is named. -/
inductive IsFault (path text : String) : Failure → Prop
  | notToml (malformed : Toml.read text = .error .malformed) : IsFault path text (.checksNotToml path)
  | notTables {fields : Toml.Fields} (document : Toml.read text = .ok fields)
      (single : ∀ tables, listedChecks fields ≠ .list tables) :
      IsFault path text (.checksNotTables path)
  | badCheck {before after : List Datum} {table : Datum} {configs : List Config}
      {issues : List Issue} (tables : HasTables text (before ++ table :: after))
      (valid : AreConfigs before configs) (invalid : ofDatum table = .invalid issues) :
      IsFault path text (.badCheck path (before.length + 1) issues)

/-- What ends the loading of a checks file and is not reported as a fault of it. -/
inductive IsUnreported (bytes : List UInt8) : Failure → Prop
  | notText (undecodable : Bytes.text? bytes = none) : IsUnreported bytes .notUtf8
  | oversized {text : String} (decoded : Bytes.text? bytes = some text)
      (oversized : Toml.read text = .error .oversizedInteger) : IsUnreported bytes .badValue

theorem IsFault.exists_message {path text : String} {failure : Failure}
    (hfault : IsFault path text failure) : ∃ message, failure.message? = some message := by
  cases hfault <;> exact ⟨_, rfl⟩

theorem IsUnreported.message? {bytes : List UInt8} {failure : Failure}
    (hunreported : IsUnreported bytes failure) : failure.message? = none := by
  cases hunreported <;> rfl

variable {path : String} {bytes : List UInt8}

/-- Tables are loaded if all of them are configurations. -/
theorem ofTables_of_areConfigs {tables : List Datum} {configs : List Config}
    (hvalid : AreConfigs tables configs) (position : Nat) :
    ofTables path position tables = .ok configs := by
  induction hvalid generalizing position with
  | nil => rfl
  | cons hconfig _ ih =>
    rw [ofTables, hconfig]
    dsimp only
    rw [ih]
    rfl

/-- The first table that is no configuration is named by its position. -/
theorem ofTables_of_invalid {before after : List Datum} {table : Datum} {configs : List Config}
    {issues : List Issue} (hvalid : AreConfigs before configs) (hinvalid : ofDatum table = .invalid issues)
    (position : Nat) :
    ofTables path position (before ++ table :: after) =
      .error (.badCheck path (position + before.length) issues) := by
  induction hvalid generalizing position with
  | nil =>
    rw [List.nil_append, ofTables, hinvalid]
    rfl
  | @cons first _ rest _ hconfig _ ih =>
    have hposition : position + 1 + rest.length = position + (first :: rest).length := by
      rw [List.length_cons]
      omega
    rw [List.cons_append, ofTables, hconfig]
    dsimp only
    rw [ih, hposition]
    rfl

/-- All tables are configurations, or there is a first one that is none. -/
theorem areConfigs_or_invalid (tables : List Datum) :
    (∃ configs, AreConfigs tables configs) ∨
      ∃ before table after configs issues, tables = before ++ table :: after ∧
        AreConfigs before configs ∧ ofDatum table = .invalid issues := by
  induction tables with
  | nil => exact .inl ⟨[], .nil⟩
  | cons table rest ih =>
    cases htable : ofDatum table with
    | invalid issues => exact .inr ⟨[], table, rest, [], issues, rfl, .nil, htable⟩
    | valid config =>
      obtain ⟨configs, hvalid⟩ | ⟨before, bad, after, configs, issues, rfl, hvalid, hinvalid⟩ := ih
      · exact .inl ⟨config :: configs, .cons htable hvalid⟩
      · exact .inr ⟨table :: before, bad, after, config :: configs, issues, rfl, .cons htable hvalid,
          hinvalid⟩

theorem ofBytes_of_hasTables {text : String} {tables : List Datum}
    (htext : Bytes.text? bytes = some text) (htables : HasTables text tables) :
    ofBytes path bytes = ofTables path 1 tables := by
  obtain ⟨fields, hread, hlisted⟩ := htables
  unfold listedChecks at hlisted
  rw [ofBytes, htext]
  simp only [hread, hlisted]

theorem ofBytes_of_isFault {text : String} {failure : Failure} (htext : Bytes.text? bytes = some text)
    (hfault : IsFault path text failure) : ofBytes path bytes = .error failure := by
  cases hfault with
  | notToml malformed =>
    rw [ofBytes, htext]
    simp only [malformed]
  | notTables document single =>
    rw [ofBytes, htext]
    simp only [document]
    split
    · next tables htables => exact absurd htables (single tables)
    · rfl
  | @badCheck before after table configs issues tables valid invalid =>
    rw [ofBytes_of_hasTables htext tables, ofTables_of_invalid valid invalid, Nat.add_comm]

theorem ofBytes_of_isUnreported {failure : Failure} (hunreported : IsUnreported bytes failure) :
    ofBytes path bytes = .error failure := by
  cases hunreported with
  | notText undecodable => rw [ofBytes, undecodable]
  | oversized decoded oversized =>
    rw [ofBytes, decoded]
    simp only [oversized]

/-- A checks file has something that is not reported, or it has a fault, or all its tables are
    configurations. -/
theorem ofBytes_cases (path : String) (bytes : List UInt8) :
    (∃ failure, IsUnreported bytes failure ∧ ofBytes path bytes = .error failure) ∨
    ∃ text, Bytes.text? bytes = some text ∧
      ((∃ failure, IsFault path text failure ∧ ofBytes path bytes = .error failure) ∨
        ∃ tables configs, HasTables text tables ∧ AreConfigs tables configs ∧
          ofBytes path bytes = .ok configs) := by
  have hunreported {failure : Failure} (h : IsUnreported bytes failure) :
      ∃ failure, IsUnreported bytes failure ∧ ofBytes path bytes = .error failure :=
    ⟨failure, h, ofBytes_of_isUnreported h⟩
  cases htext : Bytes.text? bytes with
  | none => exact .inl (hunreported (.notText htext))
  | some text =>
    have hfault {failure : Failure} (h : IsFault path text failure) :
        ∃ failure, IsFault path text failure ∧ ofBytes path bytes = .error failure :=
      ⟨failure, h, ofBytes_of_isFault htext h⟩
    cases hread : Toml.read text with
    | error error =>
      cases error with
      | malformed => exact .inr ⟨text, rfl, .inl (hfault (.notToml hread))⟩
      | oversizedInteger => exact .inl (hunreported (.oversized htext hread))
    | ok fields =>
      refine .inr ⟨text, rfl, ?_⟩
      by_cases hlisted : ∃ tables, listedChecks fields = .list tables
      · obtain ⟨tables, htables⟩ := hlisted
        have hhas : HasTables text tables := ⟨fields, hread, htables⟩
        obtain ⟨configs, hvalid⟩ | ⟨before, table, after, configs, issues, rfl, hvalid, hinvalid⟩ :=
          areConfigs_or_invalid tables
        · refine .inr ⟨tables, configs, hhas, hvalid, ?_⟩
          rw [ofBytes_of_hasTables htext hhas, ofTables_of_areConfigs hvalid]
        · exact .inl (hfault (.badCheck hhas hvalid hinvalid))
      · exact .inl (hfault (.notTables hread fun tables h => hlisted ⟨tables, h⟩))

theorem ofBytes_eq_ok_iff {configs : List Config} :
    ofBytes path bytes = .ok configs ↔ ∃ text tables, Bytes.text? bytes = some text ∧
      HasTables text tables ∧ AreConfigs tables configs := by
  constructor
  · intro hok
    obtain ⟨failure, _, herror⟩ | ⟨text, htext, ⟨failure, _, herror⟩ |
      ⟨tables, others, htables, hvalid, hothers⟩⟩ := ofBytes_cases path bytes
    · cases hok.symm.trans herror
    · cases hok.symm.trans herror
    · cases hok.symm.trans hothers
      exact ⟨text, tables, htext, htables, hvalid⟩
  · rintro ⟨text, tables, htext, htables, hvalid⟩
    rw [ofBytes_of_hasTables htext htables, ofTables_of_areConfigs hvalid]

theorem ofBytes_eq_error_iff {failure : Failure} :
    ofBytes path bytes = .error failure ↔
      (∃ text, Bytes.text? bytes = some text ∧ IsFault path text failure) ∨
        IsUnreported bytes failure := by
  constructor
  · intro hfails
    obtain ⟨other, hunreported, herror⟩ | ⟨text, htext, ⟨other, hfault, herror⟩ |
      ⟨tables, configs, _, _, hok⟩⟩ := ofBytes_cases path bytes
    · cases hfails.symm.trans herror
      exact .inr hunreported
    · cases hfails.symm.trans herror
      exact .inl ⟨text, htext, hfault⟩
    · cases hfails.symm.trans hok
  · rintro (⟨text, htext, hfault⟩ | hunreported)
    · exact ofBytes_of_isFault htext hfault
    · exact ofBytes_of_isUnreported hunreported

theorem outcome_load (path : String) (bytes : List UInt8) :
    (load path (.file bytes)).outcome = ofBytes path bytes := by
  rw [load]
  cases ofBytes path bytes <;> rfl

theorem load_of_error {failure : Failure} (hfails : ofBytes path bytes = .error failure) :
    load path (.file bytes) = .ofExcept (.error failure) := by
  rw [load]
  simp only [hfails]

end Config

namespace CommandLine

variable {files : Files}

/-- A command whose checks cannot be loaded ends before it does anything else. -/
theorem answer_of_load_error {command : CheckCommand} {failure : Failure}
    (hload : Config.load command.checks (files command.checks) = .ofExcept (.error failure)) :
    (Task.check command).answer files = ⟨[], .error failure⟩ := by
  have hfail : loadRegistry files command.checks = Action.fail failure := by
    rw [loadRegistry, hload]
    rfl
  rw [Task.answer, CheckCommand.results, hfail]
  rfl

/-- Checks that cannot be loaded are all that a command reports, if it reports them. -/
theorem report_of_load_error {command : CheckCommand} {failure : Failure}
    (hload : Config.load command.checks (files command.checks) = .ofExcept (.error failure))
    (verbose : Bool) :
    Command.report ⟨verbose, .check command⟩ files =
      match failure.message? with
      | some message => ⟨"", s!"error: {message}\n", .exit 2⟩
      | none => ⟨"", "", .abort failure⟩ := by
  have htold : linesText (eventLines verbose []) = "" := rfl
  rw [Command.report]
  dsimp only
  rw [answer_of_load_error hload]
  dsimp only
  rw [htold]
  cases failure.message? with
  | none => rfl
  | some message => simp only [String.empty_append]

end CommandLine

open CommandLine in
/-- A checks file gives a configuration for each of its tables, in order, or it fails to load. A fault of
    its text is reported as such, and a command that reads it prints the message and nothing else. Bytes
    that are no text and integers that are too large are the only failures that no command reports. -/
theorem Config.load_fails_iff (path : String) (bytes : List UInt8) :
    (∀ configs, (load path (.file bytes)).outcome = .ok configs ↔
      ∃ text tables, Bytes.text? bytes = some text ∧ HasTables text tables ∧ AreConfigs tables configs) ∧
    (∀ failure, (load path (.file bytes)).outcome = .error failure ↔
      (∃ text, Bytes.text? bytes = some text ∧ IsFault path text failure) ∨
        IsUnreported bytes failure) ∧
    ∀ (verbose : Bool) (calls : String) (models : List String) (files : Files),
      files path = .file bytes →
      (∀ text failure, Bytes.text? bytes = some text → IsFault path text failure →
        ∃ message, failure.message? = some message ∧
          Command.report ⟨verbose, .check ⟨calls, path, models⟩⟩ files =
            ⟨"", s!"error: {message}\n", .exit 2⟩) ∧
      ∀ failure, IsUnreported bytes failure →
        Command.report ⟨verbose, .check ⟨calls, path, models⟩⟩ files = ⟨"", "", .abort failure⟩ := by
  simp only [outcome_load]
  refine ⟨fun configs => ofBytes_eq_ok_iff, fun failure => ofBytes_eq_error_iff, ?_⟩
  intro verbose calls models files hfile
  have hload {failure : Failure} (hfails : ofBytes path bytes = .error failure) :
      load path (files path) = .ofExcept (.error failure) := hfile ▸ load_of_error hfails
  constructor
  · intro text failure htext hfault
    obtain ⟨message, hmessage⟩ := hfault.exists_message
    refine ⟨message, hmessage, ?_⟩
    rw [report_of_load_error (hload (ofBytes_of_isFault htext hfault)), hmessage]
  · intro failure hunreported
    rw [report_of_load_error (hload (ofBytes_of_isUnreported hunreported)), hunreported.message?]

/-- A byte that begins no character ends the program without a message, and a line that is no statement is
    reported. -/
theorem Config.load_fails_iff_of_invalid_utf8 :
    let command : CommandLine.Command := ⟨false, .check ⟨"calls.jsonl", "checks.toml", []⟩⟩
    command.report (fun _ => .file [0xFF]) = ⟨"", "", .abort .notUtf8⟩ ∧
    command.report (fun _ => .file [0x78]) =
      ⟨"", "error: Invalid TOML in checks.toml\n", .exit 2⟩ := by
  intro command
  have hundecodable : Bytes.text? [0xFF] = none := by decide
  have hdecoded : Bytes.text? [0x78] = some "x" := by decide
  have hmalformed : Toml.read "x" = .error .malformed := by rfl
  obtain ⟨_, _, hunreported⟩ := load_fails_iff "checks.toml" [0xFF]
  obtain ⟨_, _, hreported⟩ := load_fails_iff "checks.toml" [0x78]
  refine ⟨(hunreported false _ [] (fun _ => .file [0xFF]) rfl).2 _ (.notText hundecodable), ?_⟩
  obtain ⟨message, hmessage, hreport⟩ :=
    (hreported false "calls.jsonl" [] (fun _ => .file [0x78]) rfl).1 _ _ hdecoded (.notToml hmalformed)
  cases hmessage
  exact hreport

end CallAudit
