import CallAudit.Proofs.Call.Printing
import CallAudit.Proofs.CommandLine.Union
import CallAudit.Proofs.Query.Rescan

/-!
# How far a query prints

A query prints the calls that it finds in order. Only a call with too long a line number stops it, and
the calls before that one have been printed by then.
-/

namespace CallAudit

namespace CommandLine

section Found

variable {calls : List Call} {query : Query} {sites : List Site}
  (hfound : ((storeOf calls).find query).outcome = .ok sites)

include hfound

theorem call_mem_of_find {site : Site} (hsite : site ∈ sites) : site.call ∈ calls := by
  have hrep : (storeOf calls).Represents (sitesOf calls) :=
    Store.Represents.empty.insertAll (sitesOf calls)
  have hlive := (Store.IsScan.find query).mem hrep hfound site hsite
  rw [← map_call_sitesOf calls]
  exact List.mem_map_of_mem hlive

theorem QueryCommand.outcome_of_found {command : QueryCommand} {files : Files}
    (hload : (Call.load command.calls (files command.calls)).outcome = .ok calls)
    (hasked : command.asked = .ok query) :
    command.outcome files = .ok (sites.map fun site => site.call.toDatum) := by
  rw [outcome, hload, Except.ok_bind, hasked, Except.ok_bind, hfound, Except.ok_bind]
  rfl

end Found

/-- The calls of a file come from its lines, and each can be printed unless its line gives a number that is
    too long for a word. Whatever a query finds among them is written as a whole if each call can be
    printed, and a command prints what it finds up to the first call that cannot. -/
theorem query_stops_iff {path : String} {bytes : List UInt8} {calls : List Call}
    (hload : (Call.load path (.file bytes)).outcome = .ok calls) :
    List.Forall₂ (fun line call => ∃ d, Call.datumOfLine? line = some d ∧ Call.ofDatum d = .valid call ∧
      (call.isPrintable = false ↔ Call.HasLongLine d)) (Call.contentLines bytes) calls ∧
    ∀ query sites, ((storeOf calls).find query).outcome = .ok sites →
      (∀ site ∈ sites, site.call ∈ calls) ∧
      (Json.writeLines? (sites.map (·.call.toDatum)) = none ↔
        ∃ site ∈ sites, site.call.isPrintable = false) ∧
      ∀ (verbose : Bool) (command : QueryCommand) (files : Files), command.calls = path →
        files path = .file bytes → command.asked = .ok query →
        let report := Command.report ⟨verbose, .query command⟩ files
        ∃ lines, List.Forall₂ (fun site line => Json.write? site.call.toDatum = some line)
            (sites.takeWhile (·.call.isPrintable)) lines ∧
          report.output = linesText lines ∧
          report.ending = if sites.all (·.call.isPrintable) then .exit 0 else .abort .notWritable := by
  refine ⟨Call.forall₂_of_load hload, fun query sites hfound => ⟨fun site hsite =>
    call_mem_of_find hfound hsite, ?_, ?_⟩⟩
  · rw [Json.writeLines?_eq_none_iff]
    simp [Call.isPrintable]
  · intro verbose command files hpath hfile hasked
    have hload' : (Call.load command.calls (files command.calls)).outcome = .ok calls := by
      rw [hpath, hfile, hload]
    have houtcome : (Task.query command).outcome files = .ok (sites.map fun site => site.call.toDatum) :=
      QueryCommand.outcome_of_found hfound hload' hasked
    obtain ⟨houtput, hending⟩ := report_of_ok houtcome verbose
    obtain ⟨lines, hprinted, hlines⟩ :=
      exists_printedLines (sites.map fun site => site.call.toDatum)
    rw [List.takeWhile_map, List.forall₂_map_left_iff] at hlines
    rw [List.all_map] at hprinted
    rw [hprinted] at houtput hending
    exact ⟨lines, hlines, houtput, hending⟩

/-- Of two calls that a query finds the second stands on a line whose number has 65 bits: the first is
    printed, and then the program ends without a message. -/
theorem query_stops_iff_of_long_line :
    let first : Call := .ofChain "find" []
    let second : Call := { first with span := some ⟨"a.rb", some 0x10000000000000000⟩ }
    let command : QueryCommand := ⟨"calls.jsonl", [], false, ["find"], false, false⟩
    ∃ bytes line, (Call.load "calls.jsonl" (.file bytes)).outcome = .ok [first, second] ∧
      Json.write? first.toDatum = some line ∧
      (Command.report ⟨false, .query command⟩ fun _ => .file bytes).output = linesText [line] ∧
      (Command.report ⟨false, .query command⟩ fun _ => .file bytes).ending = .abort .notWritable := by
  intro first second command
  let fields : List (String × Datum) :=
    [("method", .text "find"),
      ("src_span", .object [("line", .text "18446744073709551616"), ("path", .text "a.rb")])]
  obtain ⟨line, hline⟩ : ∃ line, Json.write? first.toDatum = some line := ⟨_, rfl⟩
  obtain ⟨long, hlong⟩ : ∃ long, Json.write? (.object fields) = some long := ⟨_, rfl⟩
  have hfirst : Call.IsLineOf line first :=
    ⟨_, Call.isJson_toDatum (by simp [first, Call.ofChain, Call.IsJson]), hline, first.ofDatum_toDatum⟩
  have hsecond : Call.IsLineOf long second := by
    have hordered : (Datum.object fields).ordered = .object fields := by
      refine Datum.ordered_object_eq_self (List.pairwise_pair.mpr (by decide)) ?_
      simp only [fields, List.forall_mem_cons]
      refine ⟨rfl, Datum.ordered_object_eq_self (List.pairwise_pair.mpr (by decide)) ?_, by simp⟩
      simp only [List.forall_mem_cons]
      exact ⟨rfl, rfl, by simp⟩
    have hjson : (Datum.object fields).IsJson := by
      refine .object (by simp [fields]) ?_
      simp only [fields, List.forall_mem_cons]
      refine ⟨.text _, .object (by simp) ?_, by simp⟩
      simp only [List.forall_mem_cons]
      exact ⟨.text _, .text _, by simp⟩
    exact ⟨fields, hjson, hlong, by rw [hordered]; rfl⟩
  have hload : (Call.load "calls.jsonl" (.file (Bytes.ofText (linesText [line, long])))).outcome =
      .ok [first, second] :=
    congrArg Answer.outcome (Call.load_of_lines (.cons hfirst (.cons hsecond .nil)) rfl)
  have hwell : command.WellFormed := by
    refine ⟨rfl, by simp [command], ?_⟩
    simp only [command, List.forall_mem_singleton]
    exact ⟨_, rfl⟩
  have hrep : (storeOf [first, second]).Represents (sitesOf [first, second]) :=
    Store.Represents.empty.insertAll _
  have hfound : ((storeOf [first, second]).find command.toQuery).outcome =
      .ok [⟨0, first⟩, ⟨1, second⟩] := by
    have hfirst : command.finds first = true := by decide
    have hsecond : command.finds second = true := by decide
    rw [QueryCommand.find_toQuery hwell hrep]
    simp [sitesOf, hfirst, hsecond]
  obtain ⟨_, hstops⟩ := query_stops_iff hload
  obtain ⟨_, _, hprints⟩ := hstops command.toQuery _ hfound
  obtain ⟨lines, hlines, houtput, hending⟩ :=
    hprints false command (fun _ => .file _) rfl rfl (QueryCommand.asked_eq hwell)
  have hshort : first.isPrintable = true := by rw [Call.isPrintable, hline, Option.isSome_some]
  have hstopped : second.isPrintable = false := rfl
  simp only [List.takeWhile_cons, List.all_cons, hshort, hstopped] at hlines hending
  cases hlines with
  | cons hwritten hrest =>
    cases hrest
    cases hline.symm.trans hwritten
    exact ⟨_, line, hload, hline, houtput, hending⟩

end CommandLine

end CallAudit
