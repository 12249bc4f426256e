import ModelGateway.Proofs.Gateway.Charging

/-!
# Choosing a channel

A call goes to an enabled channel that lists its model and can serve its mode, with a key of that
channel.  Without such a channel the call is refused and the rotation stays as it is.
-/

namespace ModelGateway

namespace Balancer

variable {strategy : Strategy} {dice : Dice} {channels : List Channel} {model key : String}
  {r : Rotation} {channel : Channel}

theorem select_of_nil (h : candidates channels model = []) (r : Rotation) :
    select strategy dice channels model r = (.error (.noChannel model), r) := by
  simp only [select, h]
  rfl

def chosen? : Except BalanceError (Channel × String) → Option Int
  | .ok (channel, _) => some channel.id
  | .error (.noKeys id) => some id
  | .error (.noChannel _) => none

def selectKey (strategy : Strategy) (dice : Dice) (channel : Channel) :
    StateM Rotation (Except BalanceError (Channel × String)) := do
  let keys := channel.keys
  if keys.isEmpty then return .error (.noKeys channel.id)
  match keys[← keyPlace strategy dice channel.id keys.length]? with
  | none => return .error (.noKeys channel.id)
  | some key => return .ok (channel, key)

theorem select_of_ne_nil (h : candidates channels model ≠ []) (r : Rotation) :
    select strategy dice channels model r =
      let found := candidates channels model
      let (place, r) := channelPlace strategy dice model found.length r
      match found[place]? with
      | none => (.error (.noChannel model), r)
      | some channel => selectKey strategy dice channel r := by
  simp only [select, selectKey]
  rw [if_neg (by simpa using h)]
  simp only [bind, StateT.bind]
  rcases channelPlace strategy dice model (candidates channels model).length r with ⟨place, r'⟩
  dsimp only
  cases (candidates channels model)[place]? <;> rfl

theorem selectKey_cases (strategy : Strategy) (dice : Dice) (channel : Channel) (r : Rotation) :
    ((selectKey strategy dice channel r).1 = .error (.noKeys channel.id) ∨
      ∃ key ∈ channel.keys, (selectKey strategy dice channel r).1 = .ok (channel, key)) ∧
    (selectKey strategy dice channel r).2.models = r.models := by
  simp only [selectKey]
  split
  · exact ⟨.inl rfl, rfl⟩
  simp only [bind, StateT.bind]
  have hmodels : (keyPlace strategy dice channel.id channel.keys.length r).2.models = r.models := by
    cases strategy <;> rfl
  generalize keyPlace strategy dice channel.id channel.keys.length r = placed at hmodels
  obtain ⟨place, r'⟩ := placed
  dsimp only at hmodels ⊢
  cases hkey : channel.keys[place]? with
  | none => exact ⟨.inl rfl, hmodels⟩
  | some key => exact ⟨.inr ⟨key, List.mem_of_getElem? hkey, rfl⟩, hmodels⟩

theorem mem_of_select (h : (select strategy dice channels model r).1 = .ok (channel, key)) :
    channel ∈ candidates channels model ∧ key ∈ channel.keys := by
  by_cases hnil : candidates channels model = []
  · simp [select_of_nil hnil] at h
  rw [select_of_ne_nil hnil] at h
  dsimp only at h
  generalize channelPlace strategy dice model (candidates channels model).length r = placed at h
  obtain ⟨place, r'⟩ := placed
  dsimp only at h
  cases hfound : (candidates channels model)[place]? with
  | none => simp [hfound] at h
  | some found =>
      rw [hfound] at h
      rcases (selectKey_cases strategy dice found r').1 with hnone | ⟨key', hkey', hsome⟩
      · cases hnone.symm.trans h
      · obtain ⟨rfl, rfl⟩ := Prod.mk.inj (Except.ok.inj (hsome.symm.trans h))
        exact ⟨List.mem_of_getElem? hfound, hkey'⟩

/-- Under round robin the candidates come in turn, and the counter of the model moves on. -/
theorem select_roundRobin (h : candidates channels model ≠ []) (dice : Dice) (r : Rotation) :
    ∃ channel, (candidates channels model)[Rotation.position model r.models %
        (candidates channels model).length]? = some channel ∧
      chosen? (select .roundRobin dice channels model r).1 = some channel.id ∧
      (select .roundRobin dice channels model r).2.models = Rotation.advance model r.models := by
  have hplace : Rotation.position model r.models % (candidates channels model).length <
      (candidates channels model).length := Nat.mod_lt _ (List.length_pos_iff.mpr h)
  refine ⟨_, List.getElem?_eq_getElem hplace, ?_⟩
  rw [select_of_ne_nil h]
  simp only [channelPlace, List.getElem?_eq_getElem hplace]
  obtain ⟨hchosen, hmodels⟩ := selectKey_cases .roundRobin dice
    (candidates channels model)[Rotation.position model r.models %
      (candidates channels model).length] { r with models := Rotation.advance model r.models }
  refine ⟨?_, hmodels⟩
  rcases hchosen with hnone | ⟨key, -, hsome⟩
  · rw [hnone]
    rfl
  · rw [hsome]
    rfl

end Balancer

namespace Gateway

variable {σ : Type} {g : Gateway σ} {channel : Channel} {model : String} {mode : RelayMode}

/-- A channel that is enabled, lists the model and can serve the mode. -/
structure Offers (g : Gateway σ) (channel : Channel) (model : String) (mode : RelayMode) :
    Prop where
  listed : ∃ channels, g.monitor.store.list = .ok channels ∧ channel ∈ channels
  enabled : channel.status = .enabled
  supports : channel.supportsModel model = true
  native : mode = .native → channel.provider = .gemini

def offered (g : Gateway σ) (model : String) (mode : RelayMode) : List Channel :=
  match g.monitor.store.list with
  | .ok channels => Balancer.candidates (Routing.pool mode channels) model
  | .error _ => []

theorem mem_pool {channels : List Channel} :
    channel ∈ Routing.pool mode channels ↔
      channel ∈ channels ∧ (mode = .native → channel.provider = .gemini) := by
  cases mode <;> simp [Routing.pool]

theorem mem_offered : channel ∈ g.offered model mode ↔ g.Offers channel model mode := by
  unfold offered
  cases hlist : g.monitor.store.list with
  | error e =>
      refine iff_of_false List.not_mem_nil fun h => ?_
      obtain ⟨channels, hchannels, -⟩ := h.listed
      cases hlist.symm.trans hchannels
  | ok channels =>
      simp only [Balancer.candidates, List.mem_filter, mem_pool, Channel.isEnabled,
        Bool.and_eq_true, beq_iff_eq]
      constructor
      · rintro ⟨⟨hmem, hnative⟩, henabled, hsupports⟩
        exact ⟨⟨channels, hlist, hmem⟩, henabled, hsupports, hnative⟩
      · intro h
        obtain ⟨channels', hchannels, hmem⟩ := h.listed
        obtain rfl := Except.ok.inj (hlist.symm.trans hchannels)
        exact ⟨⟨hmem, h.native⟩, h.enabled, h.supports⟩

theorem offered_of_list {channels : List Channel} (h : g.monitor.store.list = .ok channels) :
    g.offered model mode = Balancer.candidates (Routing.pool mode channels) model := by
  rw [offered, h]

variable {env : Surroundings σ} {c : ClientCall} {key : String}

theorem Selects.offers (h : g.Selects env c channel key) :
    g.Offers channel c.model c.request.mode ∧ key ∈ channel.keys := by
  obtain ⟨channels, hlist, hselect⟩ := h
  obtain ⟨hmem, hkey⟩ := Balancer.mem_of_select hselect
  rw [← offered_of_list hlist, mem_offered] at hmem
  exact ⟨hmem, hkey⟩

theorem orderFor_of_offered_nil (env : Surroundings σ)
    (h : g.offered c.model c.request.mode = []) (tokenName : String) :
    ∃ e, orderFor env tokenName c g = (.error e, g.rotation) := by
  unfold orderFor Routing.route
  by_cases hblank : Text.isBlankText c.model = true
  · rw [if_pos hblank]
    exact ⟨_, rfl⟩
  rw [if_neg hblank]
  cases hlist : g.monitor.store.list with
  | error e => exact ⟨_, rfl⟩
  | ok channels =>
      rw [offered_of_list hlist] at h
      simp only [bind, StateT.bind, Balancer.select_of_nil h]
      exact ⟨_, rfl⟩

end Gateway

end ModelGateway
