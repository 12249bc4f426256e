import ModelGateway.Proofs.Channel.Rows

/-!
# The table after a history of changes

The contents of the table are told from the changes alone, channel by channel: its configuration is
the one put last, and its status and its response time are the last ones set since it was put first,
whatever was put in between.
-/

namespace ModelGateway

namespace ChannelRow

variable {row : ChannelRow} {c : Channel}

theorem channel?_ofChannel (c : Channel) :
    (ofChannel c).channel? = some { c with responseTimeMs := 0, testTime := none } := by
  simp [channel?, ofChannel, Provider.ofName?_name, ChannelStatus.ofNumber_number]

theorem channel?_configured (h : row.channel? = some c) (configuration : Channel) :
    (row.configured configuration).channel? =
      some { configuration with
        status := c.status
        responseTimeMs := c.responseTimeMs
        testTime := c.testTime } := by
  obtain ⟨provider, -, rfl⟩ := Option.map_eq_some_iff.mp h
  simp [channel?, configured, ofChannel, Provider.ofName?_name]

theorem channel?_status (h : row.channel? = some c) (status : ChannelStatus)
    (reason : Option String) :
    { row with status := status.number, reason }.channel? = some { c with status } := by
  obtain ⟨provider, hprovider, rfl⟩ := Option.map_eq_some_iff.mp h
  simp [channel?, hprovider, ChannelStatus.ofNumber_number]

theorem channel?_responseTime (h : row.channel? = some c) (ms : Int) (now : Instant) :
    { row with responseTimeMs := ms, testTime := some now.text }.channel? =
      some { c with responseTimeMs := ms, testTime := Instant.parse? now.text } := by
  obtain ⟨provider, hprovider, rfl⟩ := Option.map_eq_some_iff.mp h
  simp [channel?, hprovider]

end ChannelRow

namespace Channel

def revised (c : Channel) (configuration? : Option Channel) (status? : Option ChannelStatus)
    (measured? : Option (Int × Instant)) : Channel :=
  { configuration?.getD c with
    status := status?.getD c.status
    responseTimeMs := (measured?.map (·.1)).getD c.responseTimeMs
    testTime := (measured?.map fun m => Instant.parse? m.2.text).getD c.testTime }

theorem revised_none (c : Channel) : c.revised none none none = c := rfl

theorem revised_revised (c : Channel) (configuration? configuration?' : Option Channel)
    (status? status?' : Option ChannelStatus) (measured? measured?' : Option (Int × Instant)) :
    (c.revised configuration? status? measured?).revised configuration?' status?' measured?' =
      c.revised (configuration?'.or configuration?) (status?'.or status?)
        (measured?'.or measured?) := by
  cases configuration?' <;> cases status?' <;> cases measured?' <;> simp [revised]

end Channel

namespace ChannelTable

variable {t : ChannelTable} {id : Int} {c : Channel}

private theorem exists_map_channel? {rows : List ChannelRow}
    (h : ∀ row ∈ rows, ∃ c, row.channel? = some c) :
    ∃ channels : List Channel, rows.map ChannelRow.channel? = channels.map some := by
  induction rows with
  | nil => exact ⟨[], rfl⟩
  | cons row rest ih =>
      obtain ⟨⟨c, hc⟩, hrest⟩ := List.forall_mem_cons.mp h
      obtain ⟨channels, hchannels⟩ := ih hrest
      exact ⟨c :: channels, by simp [hc, hchannels]⟩

/-- The table, as a map from ids to channels. -/
structure Holds (t : ChannelTable) (channel? : Int → Option Channel) : Prop where
  ordered : t.Ordered
  reads : ∀ id, (t.find? id).map ChannelRow.channel? = (channel? id).map some

namespace Holds

variable {channel? : Int → Option Channel}

theorem empty : Holds {} fun _ => none where
  ordered := List.Pairwise.nil
  reads _ := rfl

theorem congr (h : t.Holds channel?) {told? : Int → Option Channel}
    (heq : ∀ id, channel? id = told? id) : t.Holds told? := by
  rwa [← funext heq]

theorem find?_eq_none (h : t.Holds channel?) (hnone : channel? id = none) :
    t.find? id = none := by
  simpa [hnone] using h.reads id

theorem exists_row (h : t.Holds channel?) (hsome : channel? id = some c) :
    ∃ row, t.find? id = some row ∧ row.channel? = some c := by
  simpa [hsome] using h.reads id

theorem isSome_find? (h : t.Holds channel?) (id : Int) :
    (t.find? id).isSome = (channel? id).isSome := by
  simpa using congrArg Option.isSome (h.reads id)

theorem get (h : t.Holds channel?) (id : Int) : t.get id = .ok (channel? id) := by
  cases hc : channel? id with
  | none => simp [ChannelTable.get, h.find?_eq_none hc]
  | some c =>
      obtain ⟨row, hrow, hread⟩ := h.exists_row hc
      simp [ChannelTable.get, hrow, hread]

theorem list (h : t.Holds channel?) :
    ∃ channels, t.list = .ok channels ∧ channels.Pairwise (·.id < ·.id) ∧
      ∀ c, c ∈ channels ↔ channel? c.id = some c := by
  have hread : ∀ row ∈ t.rows, ∃ c, row.channel? = some c := by
    intro row hrow
    have hreads := h.reads row.id
    rw [h.ordered.find?_of_mem hrow] at hreads
    cases hc : channel? row.id with
    | none => simp [hc] at hreads
    | some c => exact ⟨c, by simpa [hc] using hreads⟩
  obtain ⟨channels, hchannels⟩ := exists_map_channel? hread
  have hlist : t.list = .ok channels := list_eq_ok_iff.mpr hchannels
  refine ⟨channels, hlist, h.ordered.pairwise_of_list hlist, fun c => ⟨fun hc => ?_, fun hc => ?_⟩⟩
  · obtain ⟨row, hrow, hread⟩ := h.ordered.find?_of_list hlist hc
    have := h.reads c.id
    simpa [hrow, hread] using this.symm
  · obtain ⟨row, hrow, hread⟩ := h.exists_row hc
    obtain ⟨listed, hmem, -, hlisted⟩ := exists_of_find?_of_list hlist hrow
    obtain rfl : listed = c := Option.some.inj (hlisted.symm.trans hread)
    exact hmem

end Holds

/-! ## Changes -/

inductive Change where
  | put (c : Channel)
  | setStatus (id : Int) (status : ChannelStatus) (reason : Option String)
  | setResponseTime (id ms : Int) (now : Instant)

namespace Change

def apply (t : ChannelTable) : Change → ChannelTable
  | put c => t.upsert c
  | setStatus id status reason => (t.setStatus id status reason).2
  | setResponseTime id ms now => t.setResponseTime id ms now

def configuration? (id : Int) : Change → Option Channel
  | put c => if c.id = id then some c else none
  | _ => none

def status? (id : Int) : Change → Option ChannelStatus
  | setStatus i status _ => if i = id then some status else none
  | _ => none

def measured? (id : Int) : Change → Option (Int × Instant)
  | setResponseTime i ms now => if i = id then some (ms, now) else none
  | _ => none

def seen (id : Int) (c? : Option Channel) (change : Change) : Option Channel :=
  match c? with
  | none => (change.configuration? id).map ({ · with responseTimeMs := 0, testTime := none })
  | some c =>
    some (c.revised (change.configuration? id) (change.status? id) (change.measured? id))

theorem seen_put_of_ne (hne : c.id ≠ id) (c? : Option Channel) : seen id c? (.put c) = c? := by
  cases c? <;>
    simp [seen, configuration?, status?, measured?, hne, Channel.revised_none]

theorem seen_setStatus (id i : Int) (status : ChannelStatus) (reason : Option String)
    (c? : Option Channel) :
    seen i c? (.setStatus id status reason) =
      if i = id then c?.map ({ · with status }) else c? := by
  by_cases hid : id = i
  · subst hid
    cases c? <;> simp [seen, configuration?, status?, measured?, Channel.revised]
  · cases c? <;>
      simp [seen, configuration?, status?, measured?, hid, Ne.symm hid, Channel.revised_none]

theorem seen_setResponseTime (id i ms : Int) (now : Instant) (c? : Option Channel) :
    seen i c? (.setResponseTime id ms now) =
      if i = id then
        c?.map ({ · with responseTimeMs := ms, testTime := Instant.parse? now.text })
      else c? := by
  by_cases hid : id = i
  · subst hid
    cases c? <;> simp [seen, configuration?, status?, measured?, Channel.revised]
  · cases c? <;>
      simp [seen, configuration?, status?, measured?, hid, Ne.symm hid, Channel.revised_none]

end Change

def after (changes : List Change) : ChannelTable :=
  changes.foldl Change.apply {}

theorem modify_of_find?_eq_none (h : t.find? id = none) (change : ChannelRow → ChannelRow) :
    t.modify id change = t := by
  have hne : ∀ row ∈ t.rows, row.id ≠ id := by simpa [find?] using h
  have hrows : t.rows.map (fun row => if row.id = id then change row else row) =
      t.rows.map fun row => row :=
    List.map_congr_left fun row hrow => if_neg (hne row hrow)
  rw [ChannelTable.modify, hrows, List.map_id']

theorem Holds.modify {channel? : Int → Option Channel} (h : t.Holds channel?) {id : Int}
    {change : ChannelRow → ChannelRow} {read : Channel → Channel}
    (hid : ∀ row : ChannelRow, row.id = id → (change row).id = id)
    (hread : ∀ row c, row.channel? = some c → (change row).channel? = some (read c)) :
    (t.modify id change).Holds fun i => if i = id then (channel? i).map read else channel? i where
  ordered := h.ordered.modify hid
  reads i := by
    rw [find?_modify hid]
    split
    · cases hc : channel? i with
      | none => simp [h.find?_eq_none hc]
      | some c =>
          obtain ⟨row, hrow, hrowRead⟩ := h.exists_row hc
          simp [hrow, hread row c hrowRead]
    · exact h.reads i

theorem Holds.upsert {channel? : Int → Option Channel} (h : t.Holds channel?) (c : Channel) :
    (t.upsert c).Holds fun i => Change.seen i (channel? i) (.put c) where
  ordered := h.ordered.upsert c
  reads i := by
    by_cases hid : c.id = i
    · subst hid
      rw [find?_upsert_self]
      cases hc : channel? c.id with
      | none =>
          simp [h.find?_eq_none hc, Change.seen, Change.configuration?,
            ChannelRow.channel?_ofChannel]
      | some old =>
          obtain ⟨row, hrow, hread⟩ := h.exists_row hc
          simp [hrow, Change.seen, Change.configuration?, Change.status?, Change.measured?,
            Channel.revised, ChannelRow.channel?_configured hread]
    · rw [find?_upsert_of_ne hid, h.reads i, Change.seen_put_of_ne hid]

theorem Holds.setStatus {channel? : Int → Option Channel} (h : t.Holds channel?) (id : Int)
    (status : ChannelStatus) (reason : Option String) :
    (t.setStatus id status reason).2.Holds fun i =>
      if i = id then (channel? i).map ({ · with status }) else channel? i :=
  h.modify (fun _ hid => hid) fun _ _ hread => ChannelRow.channel?_status hread status reason

theorem Holds.setResponseTime {channel? : Int → Option Channel} (h : t.Holds channel?)
    (id ms : Int) (now : Instant) :
    (t.setResponseTime id ms now).Holds fun i =>
      if i = id then
        (channel? i).map ({ · with responseTimeMs := ms, testTime := Instant.parse? now.text })
      else channel? i :=
  h.modify (fun _ hid => hid) fun _ _ hread => ChannelRow.channel?_responseTime hread ms now

theorem Holds.apply {channel? : Int → Option Channel} (h : t.Holds channel?) (change : Change) :
    (change.apply t).Holds fun id => Change.seen id (channel? id) change := by
  cases change with
  | put c => exact h.upsert c
  | setStatus id status reason =>
      exact (h.setStatus id status reason).congr fun i => (Change.seen_setStatus ..).symm
  | setResponseTime id ms now =>
      exact (h.setResponseTime id ms now).congr fun i => (Change.seen_setResponseTime ..).symm

theorem holds_foldl {channel? : Int → Option Channel} (h : t.Holds channel?)
    (changes : List Change) :
    (changes.foldl Change.apply t).Holds fun id =>
      changes.foldl (Change.seen id) (channel? id) := by
  induction changes generalizing t channel? with
  | nil => exact h
  | cons change rest ih => exact ih (h.apply change)

/-! ## Histories -/

def last {α : Type} (says? : Change → Option α) (changes : List Change) : Option α :=
  (changes.filterMap says?).getLast?

theorem last_cons {α : Type} (says? : Change → Option α) (change : Change)
    (rest : List Change) :
    last says? (change :: rest) = (last says? rest).or (says? change) := by
  cases h : says? change with
  | none => simp [last, h]
  | some said =>
      cases hlast : (rest.filterMap says?).getLast? <;>
        simp [last, h, hlast, List.getLast?_cons]

def firstPut? (id : Int) : List Change → Option (Channel × List Change)
  | [] => none
  | change :: rest =>
    match change.configuration? id with
    | some c => some (c, rest)
    | none => firstPut? id rest

/-- What a history says of a channel: its last configuration since it was put first, its last status
and its last response time. -/
def told (id : Int) (changes : List Change) : Option Channel :=
  (firstPut? id changes).map fun (first, later) =>
    let measured := last (Change.measured? id) later
    { (last (Change.configuration? id) later).getD first with
      status := (last (Change.status? id) later).getD first.status
      responseTimeMs := (measured.map (·.1)).getD 0
      testTime := measured.bind fun m => Instant.parse? m.2.text }

theorem foldl_seen_some (id : Int) (c : Channel) (changes : List Change) :
    changes.foldl (Change.seen id) (some c) =
      some (c.revised (last (Change.configuration? id) changes) (last (Change.status? id) changes)
        (last (Change.measured? id) changes)) := by
  induction changes generalizing c with
  | nil => rfl
  | cons change rest ih =>
      rw [List.foldl_cons, Change.seen, ih, Channel.revised_revised, ← last_cons, ← last_cons,
        ← last_cons]

theorem foldl_seen_none (id : Int) (changes : List Change) :
    changes.foldl (Change.seen id) none = told id changes := by
  induction changes with
  | nil => rfl
  | cons change rest ih =>
      simp only [List.foldl_cons, told, firstPut?, Change.seen]
      cases change.configuration? id with
      | none => exact ih
      | some first =>
          simp only [Option.map_some, foldl_seen_some]
          cases last (Change.measured? id) rest <;>
            cases last (Change.configuration? id) rest <;> simp [Channel.revised]

/-- The table holds what the history of its changes says. -/
theorem holds_after (changes : List Change) : (after changes).Holds (told · changes) :=
  (holds_foldl .empty changes).congr fun id => foldl_seen_none id changes

theorem isSome_told (id : Int) (changes : List Change) :
    (told id changes).isSome ↔ ∃ c, .put c ∈ changes ∧ c.id = id := by
  rw [told, Option.isSome_map]
  induction changes with
  | nil => simp [firstPut?]
  | cons change rest ih =>
      rw [firstPut?]
      cases change with
      | put c =>
          by_cases hid : c.id = id
          · simp [Change.configuration?, hid]
          · simp [Change.configuration?, hid, ih]
      | setStatus | setResponseTime => simpa [Change.configuration?] using ih

/-- After any history of changes, `get` and `list` answer what the history says of each channel, and
the list is in the order of the ids. -/
theorem reads_as_told (changes : List Change) :
    (∀ id, (after changes).get id = .ok (told id changes)) ∧
    (∀ id, (told id changes).isSome ↔ ∃ c, .put c ∈ changes ∧ c.id = id) ∧
    (∃ channels, (after changes).list = .ok channels ∧ channels.Pairwise (·.id < ·.id) ∧
      ∀ c, c ∈ channels ↔ told c.id changes = some c) ∧
    ∀ id status reason ms now,
      ((after changes).setStatus id status reason).1 = (told id changes).isSome ∧
      (told id changes = none →
        ((after changes).setStatus id status reason).2 = after changes ∧
        (after changes).setResponseTime id ms now = after changes) := by
  have hholds := holds_after changes
  refine ⟨hholds.get, (isSome_told · changes), hholds.list, fun id status reason ms now => ?_⟩
  refine ⟨hholds.isSome_find? id, fun hnone => ?_⟩
  have hmissing := hholds.find?_eq_none hnone
  exact ⟨modify_of_find?_eq_none hmissing _, modify_of_find?_eq_none hmissing _⟩

end ChannelTable

end ModelGateway
