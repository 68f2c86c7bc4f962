import CallAudit.Proofs.Store.Ordinals

/-!
# Looking up is matching

Whatever has happened to a store, looking up finds the entries that meet the criterion: named buckets and
buckets found by a pattern, one bucket or many, in whatever order they are gone through. A removal that
failed may have left the two kinds of buckets with different entries, so each kind has a log of its own;
while every step completes, the two are one.
-/

namespace CallAudit

namespace Buckets

/-- Looking up buckets filters their log, in whatever order the buckets stand. -/
theorem Logs.union_eq {keyOf : Entry → Option (Option String)} {next : Nat} {buckets : Buckets}
    {log : List Entry} (hlogs : Logs keyOf next buckets log) {criterion : Criterion}
    (hwell : criterion.WellFormed) {order : Buckets} (hperm : order.Perm buckets) :
    order.union criterion = .ok ((log.filter fun entry =>
      (keyOf entry).any fun key => criterion.holds (.ofName key)).map (·.site)) :=
  (hlogs.groups.of_perm hperm).union_eq hlogs.ascending hwell

end Buckets

namespace Store

/-- While every step completes, both kinds of buckets have the log of the live sites. -/
theorem Represents.map_site_eq {store : Store} {live : List Site} (hrep : store.Represents live)
    {methodLog receiverLog : List Entry} (hmethods : store.byMethod.HasLog methodLog)
    (hreceivers : store.byReceiver.HasLog receiverLog) :
    methodLog.map (·.site) = live ∧
      receiverLog = methodLog.filter (!·.site.call.receiver.isExpression) := by
  obtain ⟨log, hindexes, rfl⟩ := hrep
  have hlog : methodLog = log :=
    hmethods.unique ⟨hindexes.contents_byMethod_perm.symm, hindexes.ascending⟩
  have hkeyed (entry : Entry) :
      entry.receiverKey.isSome = !entry.site.call.receiver.isExpression := by
    unfold Entry.receiverKey
    cases entry.site.call.receiver <;> rfl
  have hperm := hindexes.byReceiver.contents_perm
  simp only [hkeyed] at hperm
  subst hlog
  exact ⟨rfl, hreceivers.unique ⟨hperm.symm, hindexes.ascending.sublist List.filter_sublist⟩⟩

/-- Whatever has happened to a store, there is one log of the entries in its buckets by method and one of
    those in its buckets by receiver, each entry once and in the order of addition, and looking up a
    criterion finds the entries of the log that meet it. Neither the order of the buckets nor that of the
    values in a set makes a difference. While every step completes, the logs are the live sites and those
    of them that are not on an expression. -/
theorem Reachable.lookup_eq_filter {store : Store} (hreachable : store.Reachable) :
    ∃ methodLog receiverLog : List Entry,
      store.byMethod.HasLog methodLog ∧ store.byReceiver.HasLog receiverLog ∧
      (∀ live, store.Tracks live → methodLog.map (·.site) = live ∧
        receiverLog = methodLog.filter (!·.site.call.receiver.isExpression)) ∧
      (∀ criterion : Criterion, criterion.WellFormed →
        store.withMethod criterion = .ok ((methodLog.filter fun entry =>
          criterion.holds (.text entry.site.call.method)).map (·.site)) ∧
        store.withReceiver criterion = .ok ((receiverLog.filter fun entry =>
          !entry.site.call.receiver.isExpression &&
            criterion.holds entry.site.call.receiver.value).map (·.site)) ∧
        (∀ order, order.Perm store.byMethod →
          Buckets.union order criterion = store.withMethod criterion) ∧
        ∀ order, order.Perm store.byReceiver →
          Buckets.union order criterion = store.withReceiver criterion) ∧
      ∀ values others : List Value, values.Perm others →
        store.withMethod (.oneOf values) = store.withMethod (.oneOf others) ∧
        store.withReceiver (.oneOf values) = store.withReceiver (.oneOf others) := by
  obtain ⟨⟨methodLog, hmethods⟩, receiverLog, hreceivers⟩ := hreachable.logged
  have hnumbered := hreachable.numbered
  refine ⟨methodLog, receiverLog, hmethods.hasLog, hreceivers.hasLog, fun live htracks => ?_,
    fun criterion hwell => ⟨?_, ?_, fun order hperm => ?_, fun order hperm => ?_⟩,
    fun values others hperm => ⟨?_, ?_⟩⟩
  · exact htracks.represents.map_site_eq hmethods.hasLog hreceivers.hasLog
  · exact hmethods.union_eq hwell (.refl _)
  · rw [withReceiver, hreceivers.union_eq hwell (.refl _)]
    simp only [Entry.receiverKey, Receiver.any_key?]
  · rw [withMethod, hmethods.union_eq hwell hperm, hmethods.union_eq hwell (.refl _)]
  · rw [withReceiver, hreceivers.union_eq hwell hperm, hreceivers.union_eq hwell (.refl _)]
  · exact hnumbered.byMethod.union_oneOf_eq_of_perm hperm
  · exact hnumbered.byReceiver.union_oneOf_eq_of_perm hperm

/-- After a removal that failed and a further addition, the buckets by method lack a site that those by
    receiver still have, and the bucket of its method has been made anew. -/
theorem lookup_eq_filter_after_failure :
    let plain : Site := ⟨0, { Call.ofChain "find" [] with args := [.text "id"] }⟩
    let listed : Site := ⟨1, { Call.ofChain "where" [] with args := [.list []] }⟩
    let again : Site := ⟨2, { Call.ofChain "find" [] with receiver := .expression ⟨"call", "x"⟩ }⟩
    let test : SiteTest := fun site =>
      (Criterion.oneOf [.tuple [.text "id"]]).test (.tuple (site.call.args.map .ofDatum))
    let added := ((Step.add [plain, listed]).action.run .empty).state
    let failed := ((Step.removeWhere test).action.run added).state
    let store := ((Step.add [again]).action.run failed).state
    store.withMethod (.oneOf [.text "find", .text "where", .null]) = .ok [listed, again] ∧
      store.withReceiver (.equals .null) = .ok [plain, listed] := by
  intro plain listed again test added failed store
  have hreachable : store.Reachable := .step (.add _) (.step (.removeWhere _) (.step (.add _) .empty))
  obtain ⟨methodLog, receiverLog, hmethods, hreceivers, _, hlookup, _⟩ := hreachable.lookup_eq_filter
  have hmethodLog : methodLog = [⟨1, listed⟩, ⟨2, again⟩] :=
    hmethods.unique ⟨.refl _, by simp⟩
  have hreceiverLog : receiverLog = [⟨0, plain⟩, ⟨1, listed⟩] :=
    hreceivers.unique ⟨.refl _, by simp⟩
  subst hmethodLog hreceiverLog
  have hset : (Criterion.oneOf [.text "find", .text "where", .null]).WellFormed := by
    simp [Criterion.WellFormed, Value.same, Value.magnitude?]
  exact ⟨(hlookup _ hset).1, (hlookup (.equals .null) rfl).2.1⟩

end Store

end CallAudit
