import ModelGateway.Proofs.Health.TestRequests

/-!
# What tests are charged

A test of a channel is charged at the price of the tested model if its answer brings usage, and else
not at all.  Its result does not depend on the ledger.
-/

namespace ModelGateway.Tester

theorem stream_build (name : String) (kind : TestKind) :
    (TestRequest.build name kind).stream = false := by
  have hlimited : (TestRequest.limited name).stream = false := by
    unfold TestRequest.limited
    split <;> rfl
  unfold TestRequest.build
  split
  · rfl
  · cases kind <;> exact hlimited

theorem isFor_requestFor {call : Call} {channel : Channel} {model : String}
    (h : call.IsFor channel model false) (kind : TestKind) :
    (requestFor call kind).1.IsFor channel model false := by
  unfold requestFor
  cases call.mode with
  | embeddings => exact h
  | _ => exact ⟨h.channelId_eq, h.group_eq, h.requestedModel_eq, stream_build _ _⟩

theorem order_eq_ok {s : Settings} {channel : Channel} {model : String} {kind : TestKind}
    {o : Order} (h : order s channel model kind = .ok o) :
    s.pricing.priceFor model = .ok o.price ∧ o.call.IsFor channel model false := by
  unfold order at h
  cases hname : channel.provider.untestableName? with
  | some name =>
      rw [hname] at h
      split at h <;> cases h
  | none =>
      rw [hname] at h
      cases hkey : channel.keys.head? with
      | none =>
          rw [hkey] at h
          cases h
      | some key =>
          rw [hkey] at h
          obtain ⟨call, hprepare, h⟩ := eq_ok_of_bind h
          obtain ⟨price, hprice, h⟩ := eq_ok_of_bind h
          obtain rfl := Except.ok.inj h
          have hcall := Call.isFor_of_prepare hprepare
          exact ⟨hcall.requestedModel_eq ▸ hprice, isFor_requestFor hcall kind⟩

variable {σ : Type}

/-- The result of a test and the ledger after it. -/
structure Tested (s : Settings) (network : Network σ) (elapsedNanos : Nat) (channel : Channel)
    (requested : Option String) (kind : TestKind) (w : RelayState σ) (run : ProbeRun)
    (after : RelayState σ) : Prop where
  blind : ∀ ledger, ∃ ledger',
    probe s network elapsedNanos channel requested kind (w.withLedger ledger) =
      (run, after.withLedger ledger')
  unordered : ∀ f, order s channel (TestRequest.modelFor channel requested) kind = .error f →
    run.result = some ⟨TestRequest.modelFor channel requested, elapsedNanos, some f⟩ ∧ after = w ∧
      ∀ network', probe s network' elapsedNanos channel requested kind w = (run, w)
  unpriced : ∀ f, s.pricing.priceFor (TestRequest.modelFor channel requested) = .error f →
    ∃ f', order s channel (TestRequest.modelFor channel requested) kind = .error f'
  ordered : ∀ o, order s channel (TestRequest.modelFor channel requested) kind = .ok o →
    s.pricing.priceFor (TestRequest.modelFor channel requested) = .ok o.price ∧
      (∀ usage, (o.relayed s network w).outcome = .ok usage →
        run.result = some ⟨TestRequest.modelFor channel requested, elapsedNanos, none⟩ ∧
          ∃ entry : LedgerEntry, after.ledger.entries = w.ledger.entries ++ [entry] ∧
            entry.Bills channel.id channel.group (TestRequest.modelFor channel requested) false
              o.price s.pricing.quotaPerUnit usage) ∧
      (∀ halt, (o.relayed s network w).outcome = .error halt →
        after.ledger = w.ledger ∧ ∃ f, halt = .failed f ∧
          run.result = some ⟨TestRequest.modelFor channel requested, elapsedNanos, some f⟩)

variable {s : Settings} {network : Network σ} {elapsedNanos : Nat} {channel : Channel}
  {requested : Option String} {kind : TestKind} {w : RelayState σ}

theorem probe_of_refused {f : RelayFailure}
    (h : order s channel (TestRequest.modelFor channel requested) kind = .error f)
    (network : Network σ) (elapsedNanos : Nat) (w : RelayState σ) :
    probe s network elapsedNanos channel requested kind w =
      (⟨0, some ⟨TestRequest.modelFor channel requested, elapsedNanos, some f⟩⟩, w) := by
  unfold probe
  simp only [h]
  rfl

theorem tested_of_refused {f : RelayFailure}
    (h : order s channel (TestRequest.modelFor channel requested) kind = .error f) :
    Tested s network elapsedNanos channel requested kind w
      ⟨0, some ⟨TestRequest.modelFor channel requested, elapsedNanos, some f⟩⟩ w where
  blind ledger := ⟨ledger, probe_of_refused h ..⟩
  unordered f' h' := by
    obtain rfl := Except.error.inj (h.symm.trans h')
    exact ⟨rfl, rfl, fun network' => probe_of_refused h ..⟩
  unpriced _ _ := ⟨f, h⟩
  ordered o ho := nomatch h.symm.trans ho

theorem not_marked {o : Order} (h : o.call.isStream = false) : ¬ o.Marked s network w := by
  rintro ⟨r, -, -, hstreamed, -⟩
  have hplain : (o.answered s network w).1.isStream = false := by
    obtain ⟨prompt, written, hrecounts⟩ :=
      Relay.recounts_answered (RelayState.services s network) o.call o.request w
    rw [Order.answered, hrecounts]
    exact h
  exact absurd hstreamed (by rw [Wire.isStreamed_of_plain hplain]; nofun)

theorem tested_of_order {o : Order}
    (h : order s channel (TestRequest.modelFor channel requested) kind = .ok o)
    (hopen : w.ledger.isClosed = false) (hfits : o.Fits s network w) :
    Tested s network elapsedNanos channel requested kind w
      (probe s network elapsedNanos channel requested kind w).1
      (probe s network elapsedNanos channel requested kind w).2 := by
  obtain ⟨hprice, hcall⟩ := order_eq_ok h
  have hmark : ¬ o.Marked s network w := not_marked hcall.isStream_eq
  rw [probe_of_order h]
  refine {
    blind := fun ledger => ?_
    unordered := fun f hf => nomatch h.symm.trans hf
    unpriced := fun f hf => nomatch hprice.symm.trans hf
    ordered := fun o' ho' => ?_ }
  · refine ⟨o.settle s.pricing (o.relayed s network w) ledger, ?_⟩
    rw [probe_of_order h, Order.run_withLedger]
  · obtain rfl := Except.ok.inj (h.symm.trans ho')
    refine ⟨hprice, fun usage husage => ?_, fun halt hhalt => ?_⟩
    · obtain ⟨entry, hentries, hbills⟩ := Order.entries_of_usage hopen husage
      refine ⟨?_, entry, hentries, hbills.of_isFor hcall⟩
      change (failure? (o.relayed s network w).outcome).map _ = _
      rw [husage]
      rfl
    · -- What is read as a whole cannot crash: where there is no usage there is a failure.
      obtain ⟨f, rfl⟩ := (Order.clean_relayed hfits hmark).eq_failed hhalt
      refine ⟨Order.ledger_of_no_usage fun usage husage => ?_, f, rfl, ?_⟩
      · cases hhalt.symm.trans husage
      · change (failure? (o.relayed s network w).outcome).map _ = _
        rw [hhalt]
        rfl

theorem tested_probe (hopen : w.ledger.isClosed = false)
    (hfits : ∀ o, order s channel (TestRequest.modelFor channel requested) kind = .ok o →
      o.Fits s network w) :
    Tested s network elapsedNanos channel requested kind w
      (probe s network elapsedNanos channel requested kind w).1
      (probe s network elapsedNanos channel requested kind w).2 := by
  cases h : order s channel (TestRequest.modelFor channel requested) kind with
  | error f =>
      rw [probe_of_refused h]
      exact tested_of_refused h
  | ok o => exact tested_of_order h hopen (hfits o h)

end ModelGateway.Tester
