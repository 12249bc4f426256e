import ModelGateway.Channel.Table
import ModelGateway.Proofs.Text.Pieces

/-!
# Rows of the table of channels

The table is a partial map from ids to rows.  Ids stay in ascending order when a channel is put, and
a channel that is listed is the reading of the row that stands under its id.
-/

namespace ModelGateway

namespace ChannelRow

variable {row : ChannelRow} {c : Channel}

theorem id_of_channel? (h : row.channel? = some c) : c.id = row.id := by
  obtain ⟨provider, -, rfl⟩ := Option.map_eq_some_iff.mp h
  rfl

theorem status_of_channel? (h : row.channel? = some c) : c.status = .ofNumber row.status := by
  obtain ⟨provider, -, rfl⟩ := Option.map_eq_some_iff.mp h
  rfl

theorem responseTimeMs_of_channel? (h : row.channel? = some c) :
    c.responseTimeMs = row.responseTimeMs := by
  obtain ⟨provider, -, rfl⟩ := Option.map_eq_some_iff.mp h
  rfl

theorem channel?_measured (h : row.channel? = some c) (status : Int) (reason : Option String)
    (responseTimeMs : Int) (testTime : Option String) :
    { row with status, reason, responseTimeMs, testTime }.channel? =
      some { c with
        status := .ofNumber status
        responseTimeMs
        testTime := testTime.bind Instant.parse? } := by
  obtain ⟨provider, hprovider, rfl⟩ := Option.map_eq_some_iff.mp h
  simp [channel?, hprovider]

end ChannelRow

namespace ChannelTable

variable {t : ChannelTable} {id : Int} {row : ChannelRow}

/-- Rows stand in ascending order of their ids. -/
def Ordered (t : ChannelTable) : Prop :=
  t.rows.Pairwise (·.id < ·.id)

theorem id_of_find? (h : t.find? id = some row) : row.id = id := by
  simpa using List.find?_some h

theorem mem_of_find? (h : t.find? id = some row) : row ∈ t.rows :=
  List.mem_of_find?_eq_some h

theorem Ordered.find?_of_mem (h : t.Ordered) (hrow : row ∈ t.rows) :
    t.find? row.id = some row := by
  obtain ⟨rows⟩ := t
  change rows.Pairwise (·.id < ·.id) at h
  change row ∈ rows at hrow
  change rows.find? (·.id == row.id) = some row
  induction rows with
  | nil => simp at hrow
  | cons first rest ih =>
      obtain ⟨hfirst, hrest⟩ := List.pairwise_cons.mp h
      rcases List.mem_cons.mp hrow with rfl | hmem
      · simp
      · have hne : first.id ≠ row.id := Int.ne_of_lt (hfirst row hmem)
        simpa [hne] using ih hrest hmem

/-! ## Putting channels -/

private theorem id_changed {change : ChannelRow → ChannelRow}
    (hid : ∀ row : ChannelRow, row.id = id → (change row).id = id) (row : ChannelRow) :
    (if row.id = id then change row else row).id = row.id := by
  split
  · next h => rw [hid row h, h]
  · rfl

theorem find?_modify {change : ChannelRow → ChannelRow}
    (hid : ∀ row : ChannelRow, row.id = id → (change row).id = id) (other : Int) :
    (t.modify id change).find? other =
      if other = id then (t.find? other).map change else t.find? other := by
  have hfind : (t.modify id change).find? other =
      (t.find? other).map fun row => if row.id = id then change row else row := by
    simp only [ChannelTable.modify, find?, List.find?_map]
    refine congrArg (Option.map _) (congrArg (List.find? · t.rows) (funext fun row => ?_))
    exact congrArg (· == other) (id_changed hid row)
  rw [hfind]
  cases hrow : t.find? other with
  | none => simp
  | some row =>
      obtain rfl : row.id = other := id_of_find? hrow
      split <;> simp [*]

theorem Ordered.modify (h : t.Ordered) {change : ChannelRow → ChannelRow}
    (hid : ∀ row : ChannelRow, row.id = id → (change row).id = id) :
    (t.modify id change).Ordered := by
  refine List.Pairwise.map _ (fun a b hab => ?_) h
  rw [id_changed hid, id_changed hid]
  exact hab

private theorem mem_insertRow {new : ChannelRow} {rows : List ChannelRow} :
    row ∈ insertRow new rows ↔ row = new ∨ row ∈ rows := by
  induction rows with
  | nil => simp [insertRow]
  | cons first rest ih =>
      simp only [insertRow]
      split
      · simp
      · simp only [List.mem_cons, ih]
        tauto

private theorem pairwise_insertRow {new : ChannelRow} {rows : List ChannelRow}
    (h : rows.Pairwise (·.id < ·.id)) (hnew : ∀ row ∈ rows, row.id ≠ new.id) :
    (insertRow new rows).Pairwise (·.id < ·.id) := by
  induction rows with
  | nil => simp [insertRow]
  | cons first rest ih =>
      obtain ⟨hfirst, hrest⟩ := List.pairwise_cons.mp h
      simp only [insertRow]
      split
      · next hlt =>
          refine List.pairwise_cons.mpr ⟨fun row hrow => ?_, h⟩
          rcases List.mem_cons.mp hrow with rfl | hmem
          · exact hlt
          · exact Int.lt_trans hlt (hfirst row hmem)
      · next hge =>
          refine List.pairwise_cons.mpr
            ⟨fun row hrow => ?_, ih hrest fun row hrow => hnew row (by simp [hrow])⟩
          rcases mem_insertRow.mp hrow with rfl | hmem
          · have := hnew first (by simp)
            omega
          · exact hfirst row hmem

private theorem find?_insertRow_self {new : ChannelRow} {rows : List ChannelRow}
    (h : rows.find? (·.id == new.id) = none) :
    (insertRow new rows).find? (·.id == new.id) = some new := by
  induction rows with
  | nil => simp [insertRow]
  | cons first rest ih =>
      obtain ⟨hfirst, hrest⟩ : first.id ≠ new.id ∧ rest.find? (·.id == new.id) = none := by
        simpa [List.find?_eq_none] using h
      simp only [insertRow]
      split
      · simp
      · simpa [hfirst] using ih hrest

private theorem find?_insertRow_of_ne {new : ChannelRow} {rows : List ChannelRow}
    (hne : new.id ≠ id) :
    (insertRow new rows).find? (·.id == id) = rows.find? (·.id == id) := by
  induction rows with
  | nil => simp [insertRow, hne]
  | cons first rest ih =>
      simp only [insertRow]
      split
      · simp [hne]
      · simp only [List.find?_cons, ih]

private theorem find?_configured (t : ChannelTable) (c : Channel) (other : Int) :
    (t.modify c.id (·.configured c)).find? other =
      if other = c.id then (t.find? other).map (·.configured c) else t.find? other := by
  refine find?_modify ?_ other
  exact fun _ _ => rfl

theorem find?_upsert_of_ne {c : Channel} (hne : c.id ≠ id) :
    (t.upsert c).find? id = t.find? id := by
  simp only [ChannelTable.upsert]
  split
  · rw [find?_configured, if_neg (Ne.symm hne)]
  · have hrow : (ChannelRow.ofChannel c).id ≠ id := hne
    exact find?_insertRow_of_ne hrow

theorem find?_upsert_self (t : ChannelTable) (c : Channel) :
    (t.upsert c).find? c.id =
      some (((t.find? c.id).map (·.configured c)).getD (.ofChannel c)) := by
  simp only [ChannelTable.upsert]
  split
  · next row hrow => rw [find?_configured, if_pos rfl, hrow]; rfl
  · next hnone =>
      have hrow : t.rows.find? (·.id == (ChannelRow.ofChannel c).id) = none := hnone
      rw [hnone]
      exact find?_insertRow_self hrow

theorem Ordered.upsert (h : t.Ordered) (c : Channel) : (t.upsert c).Ordered := by
  simp only [ChannelTable.upsert]
  split
  · exact h.modify fun _ _ => rfl
  · next hnone =>
      refine pairwise_insertRow h fun row hrow heq => ?_
      change row.id = c.id at heq
      rw [← heq, h.find?_of_mem hrow] at hnone
      contradiction

theorem list_eq_ok_iff {channels : List Channel} :
    t.list = .ok channels ↔ t.rows.map ChannelRow.channel? = channels.map some := by
  rw [← Text.mapM_eq_some_iff, list]
  cases t.rows.mapM ChannelRow.channel? <;> simp

theorem map_channel?_of_list {channels : List Channel} (h : t.list = .ok channels) :
    t.rows.map ChannelRow.channel? = channels.map some :=
  list_eq_ok_iff.mp h

theorem Ordered.find?_of_list {channels : List Channel} {c : Channel} (h : t.Ordered)
    (hlist : t.list = .ok channels) (hc : c ∈ channels) :
    ∃ row, t.find? c.id = some row ∧ row.channel? = some c := by
  have hmem : some c ∈ t.rows.map ChannelRow.channel? := by
    rw [map_channel?_of_list hlist]
    exact List.mem_map_of_mem hc
  obtain ⟨row, hrow, hread⟩ := List.mem_map.mp hmem
  refine ⟨row, ?_, hread⟩
  rw [ChannelRow.id_of_channel? hread]
  exact h.find?_of_mem hrow

theorem exists_of_find?_of_list {channels : List Channel} (hlist : t.list = .ok channels)
    (hrow : t.find? id = some row) : ∃ c ∈ channels, c.id = id ∧ row.channel? = some c := by
  have hmem : row.channel? ∈ channels.map some := by
    rw [← map_channel?_of_list hlist]
    exact List.mem_map_of_mem (mem_of_find? hrow)
  obtain ⟨c, hc, hread⟩ := List.mem_map.mp hmem
  exact ⟨c, hc, by rw [ChannelRow.id_of_channel? hread.symm, id_of_find? hrow], hread.symm⟩

theorem Ordered.pairwise_of_list {channels : List Channel} (h : t.Ordered)
    (hlist : t.list = .ok channels) : channels.Pairwise (·.id < ·.id) := by
  have hread : (t.rows.map ChannelRow.channel?).Pairwise fun a b =>
      ∀ c d, a = some c → b = some d → c.id < d.id := by
    refine List.Pairwise.map _ (fun a b hab c d hc hd => ?_) h
    rw [ChannelRow.id_of_channel? hc, ChannelRow.id_of_channel? hd]
    exact hab
  rw [map_channel?_of_list hlist] at hread
  exact (List.pairwise_map.mp hread).imp fun hab => hab _ _ rfl rfl

def without (t : ChannelTable) (id : Int) : ChannelTable :=
  ⟨t.rows.filter (·.id ≠ id)⟩

theorem Ordered.without (h : t.Ordered) (id : Int) : (t.without id).Ordered :=
  List.Pairwise.filter _ h

theorem find?_without {other : Int} (hne : other ≠ id) :
    (t.without id).find? other = t.find? other := by
  simp only [ChannelTable.without, find?, List.find?_filter]
  refine congrArg (List.find? · t.rows) (funext fun row => ?_)
  by_cases hrow : row.id = other <;> simp [hrow, hne]

theorem list_without {channels : List Channel} (h : t.list = .ok channels) (id : Int) :
    (t.without id).list = .ok (channels.filter (·.id ≠ id)) := by
  rw [list_eq_ok_iff] at h ⊢
  obtain ⟨rows⟩ := t
  change rows.map ChannelRow.channel? = channels.map some at h
  change (rows.filter (·.id ≠ id)).map ChannelRow.channel? = (channels.filter (·.id ≠ id)).map some
  induction rows generalizing channels with
  | nil =>
      obtain rfl : channels = [] := List.map_eq_nil_iff.mp h.symm
      rfl
  | cons row rest ih =>
      cases channels with
      | nil => contradiction
      | cons c cs =>
          obtain ⟨hread, hrest⟩ := List.cons.inj h
          have hid : c.id = row.id := ChannelRow.id_of_channel? hread
          replace ih := ih hrest
          by_cases hrow : row.id = id
          · simpa [hid, hrow] using ih
          · simpa [hid, hrow, hread] using ih

end ChannelTable

end ModelGateway
