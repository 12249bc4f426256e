import ModelGateway.Proofs.Gateway.Rotation

/-!
# Turns under round robin

Selections made one after the other on one rotation.  The candidates for a model take turns in the
calls for it, whether or not they have a key, and the keys of a channel take turns in its picks,
whatever models these are for.
-/

namespace ModelGateway

theorem Rotation.position_advance {κ : Type} [DecidableEq κ] {key : κ} {counters : List (κ × Nat)}
    (h : position key counters + 1 < wordLimit) (other : κ) :
    position other (advance key counters) =
      position other counters + if key = other then 1 else 0 := by
  by_cases heq : key = other
  · subst heq
    rw [position_advance_self, Nat.mod_eq_of_lt h, if_pos rfl]
  · rw [position_advance_of_ne (Ne.symm heq), if_neg heq, Nat.add_zero]

namespace Balancer

abbrev Choice := Except BalanceError (Channel × String)

def selectAll (dice : Dice) (channels : List Channel) (models : List String) :
    StateM Rotation (List Choice) :=
  models.mapM (select .roundRobin dice channels)

def timesPicked (choices : List Choice) (id : Int) : Nat :=
  choices.countP (chosen? · = some id)

structure HasTurn {α : Type} (items : List α) (place : Rotation → Nat × Rotation) (turn : Nat)
    (r : Rotation) (item : α) : Prop where
  asked : (place r).1 = turn % items.length
  found : items[turn % items.length]? = some item

/-- The choice for a call after the calls for the `earlier` models, which were given `choices`, and
the rotation after it. -/
inductive Due (dice : Dice) (channels : List Channel) (earlier : List String)
    (choices : List Choice) (model : String) (r : Rotation) : Choice → Rotation → Prop
  | noChannel (hnone : candidates channels model = []) :
      Due dice channels earlier choices model r (.error (.noChannel model)) r
  | noKeys {c : Channel} {after : Rotation}
      (hturn : HasTurn (candidates channels model)
        (channelPlace .roundRobin dice model (candidates channels model).length)
        (earlier.count model) r c)
      (hkeys : c.keys = []) (hkept : after.channels = r.channels) :
      Due dice channels earlier choices model r (.error (.noKeys c.id)) after
  | key {c : Channel} {key : String} {after : Rotation}
      (hturn : HasTurn (candidates channels model)
        (channelPlace .roundRobin dice model (candidates channels model).length)
        (earlier.count model) r c)
      (hkey : HasTurn c.keys (keyPlace .roundRobin dice c.id c.keys.length)
        (timesPicked choices c.id) r key) :
      Due dice channels earlier choices model r (.ok (c, key)) after

variable {dice : Dice} {channels : List Channel} {model : String} {r : Rotation}

theorem selectKey_of_nil {strategy : Strategy} {c : Channel} (h : c.keys = []) (r : Rotation) :
    selectKey strategy dice c r = (.error (.noKeys c.id), r) := by
  simp only [selectKey, h]
  rfl

theorem selectKey_of_place {strategy : Strategy} {c : Channel} {key : String}
    (h : c.keys[(keyPlace strategy dice c.id c.keys.length r).1]? = some key) :
    selectKey strategy dice c r =
      (.ok (c, key), (keyPlace strategy dice c.id c.keys.length r).2) := by
  have hkeys : c.keys.isEmpty = false := by
    simpa using List.ne_nil_of_mem (List.mem_of_getElem? h)
  simp only [selectKey]
  rw [if_neg (by simp [hkeys])]
  simp only [bind, StateT.bind]
  generalize keyPlace strategy dice c.id c.keys.length r = placed at h
  obtain ⟨place, after⟩ := placed
  dsimp only at h ⊢
  rw [h]
  rfl

/-- What round robin can do: nothing without a candidate, else the next candidate and its next key
unless it has none. -/
theorem select_cases (dice : Dice) (channels : List Channel) (model : String) (r : Rotation) :
    let found := candidates channels model
    (found = [] ∧ select .roundRobin dice channels model r = (.error (.noChannel model), r)) ∨
      ∃ c, found[Rotation.position model r.models % found.length]? = some c ∧
        ((c.keys = [] ∧ select .roundRobin dice channels model r =
            (.error (.noKeys c.id), { r with models := Rotation.advance model r.models })) ∨
          ∃ key, c.keys[Rotation.position c.id r.channels % c.keys.length]? = some key ∧
            select .roundRobin dice channels model r =
              (.ok (c, key), ⟨Rotation.advance model r.models,
                Rotation.advance c.id r.channels⟩)) := by
  intro found
  by_cases hnil : found = []
  · exact .inl ⟨hnil, select_of_nil hnil r⟩
  have hplace : Rotation.position model r.models % found.length < found.length :=
    Nat.mod_lt _ (List.length_pos_iff.mpr hnil)
  have hfound := List.getElem?_eq_getElem hplace
  generalize found[Rotation.position model r.models % found.length] = c at hfound
  have hselect : select .roundRobin dice channels model r =
      selectKey .roundRobin dice c { r with models := Rotation.advance model r.models } := by
    rw [select_of_ne_nil hnil]
    simp only [channelPlace]
    rw [hfound]
  refine .inr ⟨c, hfound, ?_⟩
  rw [hselect]
  by_cases hkeys : c.keys = []
  · exact .inl ⟨hkeys, selectKey_of_nil hkeys _⟩
  · have hplace : Rotation.position c.id r.channels % c.keys.length < c.keys.length :=
      Nat.mod_lt _ (List.length_pos_iff.mpr hkeys)
    exact .inr ⟨_, List.getElem?_eq_getElem hplace,
      selectKey_of_place (List.getElem?_eq_getElem hplace)⟩

/-! ## Calls one after the other -/

/-- The counter of a model tells the calls for it, and that of a channel its picks. -/
structure Counted (channels : List Channel) (earlier : List String) (choices : List Choice)
    (r : Rotation) : Prop where
  answered : choices.length = earlier.length
  models : ∀ model, candidates channels model ≠ [] →
    Rotation.position model r.models = earlier.count model
  keys : ∀ c ∈ channels, c.keys ≠ [] →
    Rotation.position c.id r.channels = timesPicked choices c.id

variable {earlier : List String} {choices : List Choice}

theorem Counted.picks (h : Counted channels earlier choices r) {c : Channel}
    (hc : c ∈ candidates channels model) {place : Nat} {key : String}
    (hkey : c.keys[place]? = some key) :
    Rotation.position c.id r.channels = timesPicked choices c.id :=
  h.keys c (List.mem_of_mem_filter hc) (List.ne_nil_of_mem (List.mem_of_getElem? hkey))

theorem Counted.due (h : Counted channels earlier choices r) (dice : Dice) (model : String) :
    Due dice channels earlier choices model r (select .roundRobin dice channels model r).1
      (select .roundRobin dice channels model r).2 := by
  rcases select_cases dice channels model r with
    ⟨hnil, hselect⟩ | ⟨c, hfound, ⟨hkeys, hselect⟩ | ⟨key, hkey, hselect⟩⟩ <;> rw [hselect]
  case inl => exact .noChannel hnil
  all_goals
    have hmem := List.mem_of_getElem? hfound
    have hcount := h.models model (List.ne_nil_of_mem hmem)
    rw [hcount] at hfound
    have hturn : HasTurn (candidates channels model)
        (channelPlace .roundRobin dice model (candidates channels model).length)
        (earlier.count model) r c :=
      ⟨congrArg (· % _) hcount, hfound⟩
  case inr.inl => exact .noKeys hturn hkeys rfl
  case inr.inr =>
    have hpicks := h.picks hmem hkey
    rw [hpicks] at hkey
    exact .key hturn ⟨congrArg (· % _) hpicks, hkey⟩

theorem timesPicked_concat (choices : List Choice) (choice : Choice) (id : Int) :
    timesPicked (choices ++ [choice]) id =
      timesPicked choices id + if chosen? choice = some id then 1 else 0 := by
  simp [timesPicked, List.countP_append, List.countP_singleton]

theorem count_concat (earlier : List String) (model other : String) :
    (earlier ++ [model]).count other = earlier.count other + if model = other then 1 else 0 := by
  simp [List.count_append, List.count_singleton]

theorem Counted.select (hids : (channels.map (·.id)).Nodup)
    (h : Counted channels earlier choices r)
    (hlimit : earlier.length + 1 < Rotation.wordLimit) (dice : Dice) (model : String) :
    Counted channels (earlier ++ [model])
      (choices ++ [(select .roundRobin dice channels model r).1])
      (select .roundRobin dice channels model r).2 := by
  have hanswered : ∀ choice, (choices ++ [choice]).length = (earlier ++ [model]).length := by
    simp [h.answered]
  rcases select_cases dice channels model r with
    ⟨hnil, hselect⟩ | ⟨c, hfound, ⟨hkeys, hselect⟩ | ⟨key, hkey, hselect⟩⟩ <;> rw [hselect]
  case inl =>
    refine ⟨hanswered _, fun other hother => ?_, fun c hc hkeys => ?_⟩
    · have hne : model ≠ other := fun heq => hother (heq ▸ hnil)
      rw [h.models other hother, count_concat, if_neg hne, Nat.add_zero]
    · rw [h.keys c hc hkeys, timesPicked_concat]
      simp [chosen?]
  all_goals
    have hmem := List.mem_of_getElem? hfound
    have hcalls := h.models model (List.ne_nil_of_mem hmem)
    have hmodels : ∀ other, candidates channels other ≠ [] →
        Rotation.position other (Rotation.advance model r.models) =
          (earlier ++ [model]).count other := by
      intro other hother
      have hbound := List.count_le_length (a := model) (l := earlier)
      rw [Rotation.position_advance (by omega), h.models other hother, count_concat]
  case inr.inl =>
    refine ⟨hanswered _, hmodels, fun other hother hsome => ?_⟩
    have hne : c.id ≠ other.id := fun heq => by
      obtain rfl := List.inj_on_of_nodup_map hids (List.mem_of_mem_filter hmem) hother heq
      exact hsome hkeys
    rw [h.keys other hother hsome, timesPicked_concat]
    simp [chosen?, hne]
  case inr.inr =>
    refine ⟨hanswered _, hmodels, fun other hother hsome => ?_⟩
    have hpicks := h.picks hmem hkey
    have hbound : timesPicked choices c.id ≤ choices.length := List.countP_le_length
    have hlength := h.answered
    rw [Rotation.position_advance (by omega), h.keys other hother hsome, timesPicked_concat]
    simp [chosen?]

theorem selectAll_append (models more : List String) (r : Rotation) :
    selectAll dice channels (models ++ more) r =
      ((selectAll dice channels models r).1 ++
          (selectAll dice channels more (selectAll dice channels models r).2).1,
        (selectAll dice channels more (selectAll dice channels models r).2).2) := by
  simp only [selectAll, List.mapM_append]
  rfl

theorem selectAll_cons (model : String) (more : List String) (r : Rotation) :
    selectAll dice channels (model :: more) r =
      ((select .roundRobin dice channels model r).1 ::
          (selectAll dice channels more (select .roundRobin dice channels model r).2).1,
        (selectAll dice channels more (select .roundRobin dice channels model r).2).2) := by
  simp only [selectAll, List.mapM_cons]
  rfl

/-- The counters tell what was, after any number of calls that a counter can tell. -/
theorem counted_selectAll (hids : (channels.map (·.id)).Nodup) (dice : Dice) (models : List String)
    (hlimit : models.length < Rotation.wordLimit) :
    Counted channels models (selectAll dice channels models {}).1
      (selectAll dice channels models {}).2 := by
  -- By induction from the last call backwards, since a call is counted after all before it.
  induction models using List.reverseRecOn with
  | nil => exact ⟨rfl, fun _ _ => rfl, fun _ _ _ => rfl⟩
  | append_singleton models model ih =>
      have hlimit : models.length + 1 < Rotation.wordLimit := by simpa using hlimit
      rw [selectAll_append, selectAll_cons]
      exact (ih (by omega)).select hids hlimit dice model

/-- Under round robin the candidates for a model take turns in the calls for it, whether they have a
key or not, and the keys of a channel take turns in its picks. -/
theorem selectAll_due (hids : (channels.map (·.id)).Nodup) (dice : Dice)
    (earlier : List String) (model : String) (later : List String)
    (hlimit : (earlier ++ model :: later).length < Rotation.wordLimit) :
    let choices := (selectAll dice channels (earlier ++ model :: later) {}).1
    let before := (selectAll dice channels earlier {}).2
    let after := (selectAll dice channels (earlier ++ [model]) {}).2
    ∃ choice, choices[earlier.length]? = some choice ∧
      Due dice channels earlier (choices.take earlier.length) model before choice after := by
  intro choices before after
  have hearlier : earlier.length < Rotation.wordLimit := by
    rw [List.length_append] at hlimit
    omega
  have hcounted := counted_selectAll hids dice earlier hearlier
  have hchoices : choices = (selectAll dice channels earlier {}).1 ++
      (select .roundRobin dice channels model before).1 ::
        (selectAll dice channels later (select .roundRobin dice channels model before).2).1 := by
    simp only [choices, selectAll_append, selectAll_cons, before]
  have hafter : after = (select .roundRobin dice channels model before).2 := by
    simp only [after, selectAll_append, selectAll_cons, before]
    rfl
  refine ⟨(select .roundRobin dice channels model before).1, ?_, ?_⟩
  · rw [hchoices, ← hcounted.answered]
    simp
  · rw [hchoices, ← hcounted.answered, List.take_left, hafter]
    exact hcounted.due dice model

def keyedAndKeyless : List Channel :=
  [channel 1 "a\nb", channel 2 ""]
where
  channel (id : Int) (key : String) : Channel := {
    id, name := "one", provider := .openai, baseUrl := none, key, models := "gpt-4o"
    testModel := none, modelMapping := none, group := "default", status := .enabled
    responseTimeMs := 0, autoBan := true, testTime := none }

def keyedAmongOthers : List Channel :=
  [keyedAndKeyless.channel 1 "a\nb",
    { keyedAndKeyless.channel 3 "c" with status := .autoDisabled },
    { keyedAndKeyless.channel 4 "d" with status := .manuallyDisabled, models := "o1" },
    { keyedAndKeyless.channel 5 "e" with models := "o3" },
    keyedAndKeyless.channel 2 ""]

theorem selectAll_due_keyedAndKeyless :
    let earlier := ["gpt-4o", "o1", "gpt-4o"]
    let all := earlier ++ "gpt-4o" :: []
    let choices := (selectAll id keyedAmongOthers all {}).1
    (keyedAmongOthers.map (·.id)).Nodup ∧ all.length < Rotation.wordLimit ∧
      choices.map chosen? = [some 1, none, some 2, some 1] ∧
      ∃ choice, choices[3]? = some choice ∧
        Due id keyedAmongOthers earlier (choices.take 3) "gpt-4o"
          (selectAll id keyedAmongOthers earlier {}).2 choice
          (selectAll id keyedAmongOthers (earlier ++ ["gpt-4o"]) {}).2 := by
  intro earlier all choices
  have hids : (keyedAmongOthers.map (·.id)).Nodup := by decide
  have hlimit : all.length < Rotation.wordLimit := by decide
  exact ⟨hids, hlimit, by decide +kernel, selectAll_due hids id earlier "gpt-4o" [] hlimit⟩

end Balancer

end ModelGateway
