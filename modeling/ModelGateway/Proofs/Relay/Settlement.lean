import ModelGateway.Gateway.Basic
import ModelGateway.Proofs.Relay.Endings
import ModelGateway.Proofs.Relay.Worlds

/-!
# Settling orders

An order whose round yields usage leaves one entry in the ledger, and every other order none.  The
client has the head of the answer exactly if there is an entry, but for a stream that begins with a
byte order mark, of which it has the head and nothing else.
-/

namespace ModelGateway

namespace Stream

theorem head_write {s : Stream} (h : s.headSent = true) (w : Write) :
    (s.write w).head = s.head ∧ (s.write w).headSent = true := by
  cases w with
  | head status contentType => simp [write, writeHead, h]
  | chunk octets =>
      simp only [write, writeChunk, h, if_true]
      split
      · exact ⟨rfl, h⟩
      · split <;> exact ⟨rfl, rfl⟩

theorem head_writeAll {s : Stream} (h : s.headSent = true) (writes : List Write) :
    (s.writeAll writes).head = s.head := by
  induction writes generalizing s with
  | nil => rfl
  | cons w writes ih =>
      obtain ⟨hhead, hsent⟩ := head_write h w
      exact (ih hsent).trans hhead

theorem head_writeAll_fresh (status : Nat) (contentType : String) (rest : List Write) :
    (fresh.writeAll (.head status contentType :: rest)).head = some (status, contentType) :=
  head_writeAll rfl rest

end Stream

namespace Relayed

def head? (r : Relayed) : Option (Nat × String) :=
  r.writes.findSome? fun
    | .head status contentType => some (status, contentType)
    | .chunk _ => none

theorem response_of_head {r : Relayed} {status : Nat} {contentType : String} {rest : List Write}
    (h : r.writes = .head status contentType :: rest) :
    r.response.status = status ∧ r.response.headers = ClientResponse.headersFor contentType := by
  unfold response
  rw [h]
  dsimp only
  rw [Stream.head_writeAll_fresh]
  exact ⟨rfl, rfl⟩

theorem response_of_failed {r : Relayed} {f : RelayFailure} (hwrites : r.writes = [])
    (houtcome : r.outcome = .error (.failed f)) : r.response = .ofError (.relay f) := by
  unfold response
  rw [hwrites, houtcome]
  rfl

/-- What a client has: the writes of the round, or the failure.  There is a head exactly if there is
usage, but for a stream that is cut off. -/
structure Answers (r : Relayed) (cut : Prop) : Prop where
  headed : ∀ status contentType, r.head? = some (status, contentType) →
    r.response.status = status ∧ r.response.headers = ClientResponse.headersFor contentType
  unheaded : r.head? = none →
    ∃ f, r.outcome = .error (.failed f) ∧ r.response = .ofError (.relay f)
  head_iff : r.head?.isSome ↔ (∃ usage, r.outcome = .ok usage) ∨ cut

theorem answers_of_head {r : Relayed} {cut : Prop} {status : Nat} {contentType : String}
    {rest : List Write} (hwrites : r.writes = .head status contentType :: rest)
    (h : (∃ usage, r.outcome = .ok usage) ∨ cut) : r.Answers cut := by
  have hhead : r.head? = some (status, contentType) := by
    rw [head?, hwrites]
    rfl
  refine ⟨fun status' contentType' h' => ?_, fun h' => ?_, ?_⟩
  · obtain ⟨rfl, rfl⟩ := Prod.mk.inj (Option.some.inj (hhead.symm.trans h'))
    exact response_of_head hwrites
  · cases hhead.symm.trans h'
  · exact iff_of_true (by rw [hhead]; rfl) h

theorem answers_of_failed {r : Relayed} {cut : Prop} {f : RelayFailure} (hwrites : r.writes = [])
    (houtcome : r.outcome = .error (.failed f)) (hcut : ¬ cut) : r.Answers cut := by
  have hhead : r.head? = none := by
    rw [head?, hwrites]
    rfl
  refine ⟨fun status' contentType' h' => ?_, fun _ => ?_, ?_⟩
  · cases hhead.symm.trans h'
  · exact ⟨f, houtcome, response_of_failed hwrites houtcome⟩
  · refine iff_of_false (by rw [hhead]; nofun) ?_
    rintro (⟨usage, husage⟩ | hc)
    · cases houtcome.symm.trans husage
    · exact hcut hc

end Relayed

theorem eq_ok_of_bind {ε α β : Type} {x : Except ε α} {f : α → Except ε β} {b : β}
    (h : (x >>= f) = .ok b) : ∃ a, x = .ok a ∧ f a = .ok b := by
  cases x with
  | error e => cases h
  | ok a => exact ⟨a, rfl, h⟩

/-- A call for the given channel. -/
structure Call.IsFor (call : Call) (channel : Channel) (model : String) (isStream : Bool) :
    Prop where
  channelId_eq : call.channelId = channel.id
  group_eq : call.group = channel.group
  requestedModel_eq : call.requestedModel = model
  isStream_eq : call.isStream = isStream

theorem Call.isFor_of_prepare {channel : Channel} {key model : String} {mode : RelayMode}
    {timeoutMs : Nat} {call : Call} (h : Call.prepare channel key model mode timeoutMs = .ok call) :
    call.IsFor channel model false := by
  unfold prepare start at h
  cases hwire : channel.provider.wire? with
  | none => simp [hwire] at h
  | some wire =>
      simp only [hwire, withAliases_eq] at h
      cases haliases : channel.aliases? with
      | none => simp [haliases] at h
      | some table =>
          simp only [haliases] at h
          split at h
          · obtain rfl := Except.ok.inj h
            exact ⟨rfl, rfl, rfl, rfl⟩
          · cases h

/-- An entry for the use of a model on a channel. -/
structure LedgerEntry.Bills (entry : LedgerEntry) (channelId : Int) (group model : String)
    (isStream : Bool) (price : Price) (quotaPerUnit : Float) (usage : Usage) : Prop where
  channelId_eq : entry.channelId = channelId
  group_eq : entry.group = group
  model_eq : entry.model = model
  promptTokens_eq : entry.promptTokens = usage.prompt
  completionTokens_eq : entry.completionTokens = usage.completion
  isStream_eq : entry.isStream = isStream
  quota_eq : entry.quota = price.quota usage quotaPerUnit

theorem LedgerEntry.Bills.of_isFor {entry : LedgerEntry} {call : Call} {channel : Channel}
    {model : String} {isStream : Bool} {price : Price} {quotaPerUnit : Float} {usage : Usage}
    (hcall : call.IsFor channel model isStream)
    (h : entry.Bills call.channelId call.group call.requestedModel call.isStream price quotaPerUnit
      usage) :
    entry.Bills channel.id channel.group model isStream price quotaPerUnit usage := by
  obtain ⟨hid, hgroup, hmodel, hstream⟩ := hcall
  rwa [hid, hgroup, hmodel, hstream] at h

theorem Ledger.entries_add {ledger : Ledger} (h : ledger.isClosed = false) (entry : LedgerEntry) :
    (ledger.add entry).entries = ledger.entries ++ [entry] := by
  rw [add, record, h]
  rfl

/-! ## Orders -/

namespace Order

variable {σ : Type}

def answered (o : Order) (s : Settings) (network : Network σ) (w : RelayState σ) :
    Call × Except RelayFailure HttpResponse :=
  (Relay.answered (RelayState.services s network) o.call o.request w).1

def relayed (o : Order) (s : Settings) (network : Network σ) (w : RelayState σ) : Relayed :=
  (RelayState.relay s network o.call o.request w).1

def Fits (o : Order) (s : Settings) (network : Network σ) (w : RelayState σ) : Prop :=
  Relay.Fits s.gemini (o.answered s network w).1 (o.answered s network w).2

def Marked (o : Order) (s : Settings) (network : Network σ) (w : RelayState σ) : Prop :=
  Relay.Marked s.gemini (o.answered s network w).1 (o.answered s network w).2

theorem run_eq (o : Order) (s : Settings) (network : Network σ) (w : RelayState σ) :
    o.run s network w =
      let (relayed, after) := RelayState.relay s network o.call o.request w
      (relayed, { after with ledger := o.settle s.pricing relayed after.ledger }) := rfl

theorem relayed_eq (o : Order) (s : Settings) (network : Network σ) (w : RelayState σ) :
    o.relayed s network w = (Relay.finish s.gemini (o.answered s network w).1
      (o.answered s network w).2 w.stamp).1 := by
  rw [relayed, RelayState.relay_eq]
  rfl

theorem run_withLedger (o : Order) (s : Settings) (network : Network σ) (w : RelayState σ)
    (ledger : Ledger) :
    o.run s network (w.withLedger ledger) =
      ((o.run s network w).1, (o.run s network w).2.withLedger
        (o.settle s.pricing (o.relayed s network w) ledger)) := by
  rw [run_eq, run_eq, RelayState.blind_relay s network o.call o.request w ledger]
  rfl

theorem relayed_withLedger (o : Order) (s : Settings) (network : Network σ) (w : RelayState σ)
    (ledger : Ledger) :
    o.relayed s network (w.withLedger ledger) = o.relayed s network w := by
  rw [relayed, RelayState.blind_relay s network o.call o.request w ledger]
  rfl

theorem ledger_run (o : Order) (s : Settings) (network : Network σ) (w : RelayState σ) :
    (o.run s network w).2.ledger =
      o.settle s.pricing (o.relayed s network w) w.ledger := by
  rw [run_eq]
  change o.settle s.pricing (o.relayed s network w)
    (RelayState.relay s network o.call o.request w).2.ledger = _
  rw [(RelayState.blind_relay s network o.call o.request).ledger_eq]

variable {o : Order} {s : Settings} {network : Network σ} {w : RelayState σ}

theorem bills_entry (usage : Usage) :
    (o.entry s.pricing (o.relayed s network w) usage).Bills o.call.channelId o.call.group
      o.call.requestedModel o.call.isStream o.price s.pricing.quotaPerUnit usage := by
  have hcall : (o.relayed s network w).call = (o.answered s network w).1 := by
    rw [relayed_eq, Relay.call_finish]
  obtain ⟨prompt, written, hrecounts⟩ :=
    Relay.recounts_answered (RelayState.services s network) o.call o.request w
  have hsent : (o.relayed s network w).call =
      { o.call with promptTokens := prompt, cacheWriteTokens := written } := hcall.trans hrecounts
  unfold entry Ledger.entryOf
  rw [hsent]
  exact ⟨rfl, rfl, rfl, rfl, rfl, rfl, rfl⟩

theorem entries_of_usage (hopen : w.ledger.isClosed = false) {usage : Usage}
    (h : (o.relayed s network w).outcome = .ok usage) :
    ∃ entry : LedgerEntry,
      (o.run s network w).2.ledger.entries = w.ledger.entries ++ [entry] ∧
      entry.Bills o.call.channelId o.call.group o.call.requestedModel o.call.isStream o.price
        s.pricing.quotaPerUnit usage := by
  refine ⟨o.entry s.pricing (o.relayed s network w) usage, ?_, bills_entry usage⟩
  rw [ledger_run, settle, h]
  exact Ledger.entries_add hopen _

theorem ledger_of_no_usage (h : ∀ usage, (o.relayed s network w).outcome ≠ .ok usage) :
    (o.run s network w).2.ledger = w.ledger := by
  rw [ledger_run, settle]
  cases houtcome : (o.relayed s network w).outcome with
  | ok usage => exact absurd houtcome (h usage)
  | error halt => rfl

theorem clean_relayed (hfits : o.Fits s network w) (hmark : ¬ o.Marked s network w) :
    (⟨(o.relayed s network w).writes, (o.relayed s network w).outcome⟩ : Handled).Clean := by
  rw [relayed_eq]
  exact Relay.clean_finish hfits hmark w.stamp

theorem relayed_of_marked (h : o.Marked s network w) :
    (o.relayed s network w).writes = [Write.startEvents] ∧
      (o.relayed s network w).outcome = .error .crashed := by
  rw [relayed_eq, Relay.finish_of_marked h]
  exact ⟨rfl, rfl⟩

theorem answers_relayed (hfits : o.Fits s network w) :
    (o.relayed s network w).Answers (o.Marked s network w) := by
  by_cases hmark : o.Marked s network w
  · exact Relayed.answers_of_head (relayed_of_marked hmark).1 (.inr hmark)
  · have hclean := clean_relayed hfits hmark
    rcases hrelayed : o.relayed s network w with ⟨call, writes, outcome⟩
    rw [hrelayed] at hclean
    cases hclean with
    | answered status contentType rest usage =>
        exact Relayed.answers_of_head rfl (.inl ⟨usage, rfl⟩)
    | failed f => exact Relayed.answers_of_failed rfl rfl hmark

end Order

end ModelGateway
