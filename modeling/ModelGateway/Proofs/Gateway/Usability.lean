import ModelGateway.Proofs.Gateway.Turns

/-!
# Channels that cannot be used

A channel without a key, or of a provider without a wire form, is a candidate like any other.  The
candidate is picked first and then asked for a key and a wire form, so a request selects a usable
channel exactly if the candidate that is due is usable.
-/

namespace ModelGateway

/-- A channel with a key and a wire form. -/
structure Channel.Usable (c : Channel) : Prop where
  keyed : c.keys ≠ []
  wired : c.provider.wire? ≠ none

instance : DecidablePred Channel.Usable := fun c =>
  decidable_of_iff (c.keys ≠ [] ∧ c.provider.wire? ≠ none)
    ⟨fun h => ⟨h.1, h.2⟩, fun h => ⟨h.keyed, h.wired⟩⟩

def Channel.LeadsTo (c : Channel) (model name : String) : Prop :=
  ∃ table, c.aliases? = some table ∧ Alias.resolve table model = .ok name

namespace Balancer

variable {strategy : Strategy} {dice : Dice} {channels found : List Channel} {model : String}
  {r : Rotation} {c : Channel}

/-- The candidate that is picked: the first, the next in turn, or the one that chance takes. -/
def due? (strategy : Strategy) (dice : Dice) (model : String) (found : List Channel)
    (r : Rotation) : Option Channel :=
  match strategy with
  | .firstAvailable => found.head?
  | .roundRobin => found[Rotation.position model r.models % found.length]?
  | .random => found[dice found.length % found.length]?

def inReach (strategy : Strategy) (found : List Channel) : List Channel :=
  match strategy with
  | .firstAvailable => found.take 1
  | .roundRobin | .random => found

theorem due?_eq (strategy : Strategy) (dice : Dice) (model : String) (found : List Channel)
    (r : Rotation) :
    due? strategy dice model found r =
      found[(channelPlace strategy dice model found.length r).1]? := by
  cases strategy with
  | firstAvailable => exact List.head?_eq_getElem?
  | roundRobin => rfl
  | random => rfl

theorem mem_of_due? (h : due? strategy dice model found r = some c) : c ∈ found := by
  rw [due?_eq] at h
  exact List.mem_of_getElem? h

theorem channelPlace_lt {count : Nat} (hcount : 0 < count) (strategy : Strategy) (dice : Dice)
    (model : String) (r : Rotation) : (channelPlace strategy dice model count r).1 < count := by
  cases strategy with
  | firstAvailable => exact hcount
  | roundRobin => exact Nat.mod_lt _ hcount
  | random => exact Nat.mod_lt _ hcount

theorem keyPlace_lt {count : Nat} (hcount : 0 < count) (strategy : Strategy) (dice : Dice)
    (channel : Int) (r : Rotation) : (keyPlace strategy dice channel count r).1 < count := by
  cases strategy with
  | firstAvailable => exact hcount
  | roundRobin => exact Nat.mod_lt _ hcount
  | random => exact Nat.mod_lt _ hcount

theorem due?_eq_none_iff : due? strategy dice model found r = none ↔ found = [] := by
  rw [due?_eq, List.getElem?_eq_none_iff]
  constructor
  · intro hplace
    by_contra hfound
    have hlt := channelPlace_lt (List.length_pos_iff.mpr hfound) strategy dice model r
    omega
  · rintro rfl
    simp

theorem mem_inReach_iff (model : String) :
    c ∈ inReach strategy found ↔ ∃ dice r, due? strategy dice model found r = some c := by
  cases strategy with
  | firstAvailable =>
      cases found with
      | nil => simp [inReach, due?]
      | cons first rest => simp [inReach, due?, eq_comm, (⟨{}⟩ : Nonempty Rotation)]
  | roundRobin =>
      constructor
      · intro hmem
        obtain ⟨i, hi, hplace⟩ := List.getElem_of_mem (show c ∈ found from hmem)
        refine ⟨id, { models := [(model, i)] }, ?_⟩
        simp [due?, Rotation.position, Nat.mod_eq_of_lt hi, List.getElem?_eq_getElem hi, hplace]
      · rintro ⟨dice, r, hdue⟩
        exact mem_of_due? hdue
  | random =>
      constructor
      · intro hmem
        obtain ⟨i, hi, hplace⟩ := List.getElem_of_mem (show c ∈ found from hmem)
        refine ⟨fun _ => i, {}, ?_⟩
        simp [due?, Nat.mod_eq_of_lt hi, List.getElem?_eq_getElem hi, hplace]
      · rintro ⟨dice, r, hdue⟩
        exact mem_of_due? hdue

/-! ## What is chosen -/

theorem select_of_due (h : due? strategy dice model (candidates channels model) r = some c) :
    (c.keys = [] ∧ (select strategy dice channels model r).1 = .error (.noKeys c.id)) ∨
      ∃ key ∈ c.keys, (select strategy dice channels model r).1 = .ok (c, key) := by
  have hne : candidates channels model ≠ [] := List.ne_nil_of_mem (mem_of_due? h)
  rw [due?_eq] at h
  have hselect : (select strategy dice channels model r).1 =
      (selectKey strategy dice c
        (channelPlace strategy dice model (candidates channels model).length r).2).1 := by
    rw [select_of_ne_nil hne]
    dsimp only
    generalize channelPlace strategy dice model (candidates channels model).length r = placed at h
    obtain ⟨place, after⟩ := placed
    dsimp only at h ⊢
    rw [h]
  rw [hselect]
  by_cases hkeys : c.keys = []
  · exact .inl ⟨hkeys, by rw [selectKey_of_nil hkeys]⟩
  · have hlt := keyPlace_lt (List.length_pos_iff.mpr hkeys) strategy dice c.id
      (channelPlace strategy dice model (candidates channels model).length r).2
    have hkey := List.getElem?_eq_getElem hlt
    exact .inr ⟨_, List.getElem_mem hlt, by rw [selectKey_of_place hkey]⟩

end Balancer

namespace Routing

open Balancer (candidates due? inReach)

def Selects (s : RelaySettings) (model : String) (mode : RelayMode) (c : Channel)
    (outcome : Except GatewayError Call) : Prop :=
  ∃ key ∈ c.keys, ∃ call, Call.start c key model mode (s.timeoutSecs * 1000) = .ok call ∧
    ((∃ name, c.LeadsTo model name ∧ outcome = .ok { call with providerModel := name }) ∨
      (∀ name, ¬ c.LeadsTo model name) ∧
        ∃ f, outcome = .error (.relay f) ∧ f.kind = .modelMappingFailed)

/-- What becomes of a request, by the candidate that is due for it. -/
inductive Comes (s : RelaySettings) (model : String) (mode : RelayMode) :
    Option Channel → Except GatewayError Call → Prop
  | noChannel : Comes s model mode none (.error (.balance (.noChannel model)))
  | noKeys {c : Channel} (hkeys : c.keys = []) :
      Comes s model mode (some c) (.error (.balance (.noKeys c.id)))
  | noWire {c : Channel} (hkeys : c.keys ≠ []) (hwire : c.provider.wire? = none) :
      Comes s model mode (some c) (.error (.relay (Call.noWire c.provider)))
  | selected {c : Channel} {outcome : Except GatewayError Call} (husable : c.Usable)
      (hselects : Selects s model mode c outcome) : Comes s model mode (some c) outcome

variable {s : RelaySettings} {dice : Balancer.Dice} {channels : List Channel} {model : String}
  {mode : RelayMode} {r : Rotation} {c : Channel} {outcome : Except GatewayError Call}

theorem noWire_inj {p q : Provider} (h : Call.noWire p = Call.noWire q) : p = q := by
  have hname : p.name = q.name := by simpa [Call.noWire] using h
  rw [← Option.some_inj, ← Provider.ofName?_name p, ← Provider.ofName?_name q, hname]

theorem Selects.ne_balance (h : Selects s model mode c outcome) (e : BalanceError) :
    outcome ≠ .error (.balance e) := by
  rintro rfl
  obtain ⟨key, -, call, -, ⟨name, -, hcall⟩ | ⟨-, f, hfault, -⟩⟩ := h
  · cases hcall
  · cases hfault

theorem Selects.ne_noWire (h : Selects s model mode c outcome) (p : Provider) :
    outcome ≠ .error (.relay (Call.noWire p)) := by
  rintro rfl
  obtain ⟨key, -, call, -, ⟨name, -, hcall⟩ | ⟨-, f, hfault, hkind⟩⟩ := h
  · cases hcall
  · cases hfault
    cases hkind

theorem selects_of_wired {key : String} (hkey : key ∈ c.keys) (hwire : c.provider.wire? ≠ none) :
    Selects s model mode c
      ((Call.prepare c key model mode (s.timeoutSecs * 1000)).mapError .relay) := by
  obtain ⟨wire, hwire⟩ := Option.ne_none_iff_exists'.mp hwire
  have hstart : ∃ call, Call.start c key model mode (s.timeoutSecs * 1000) = .ok call ∧
      call.requestedModel = model := by
    simp [Call.start, hwire]
  obtain ⟨call, hstart, hmodel⟩ := hstart
  refine ⟨key, hkey, call, hstart, ?_⟩
  rw [Call.prepare, hstart]
  dsimp only
  rw [Call.withAliases_eq, hmodel]
  cases haliases : c.aliases? with
  | none =>
      refine .inr ⟨?_, Call.unreadableAliases, rfl, rfl⟩
      rintro name ⟨table, htable, -⟩
      cases haliases.symm.trans htable
  | some table =>
      cases hname : Alias.resolve table model with
      | ok name =>
          refine .inl ⟨name, ⟨table, haliases, hname⟩, ?_⟩
          simp only [hname]
          rfl
      | error fault =>
          simp only [hname]
          refine .inr ⟨?_, fault.failure, rfl, rfl⟩
          rintro name ⟨table', htable, hresolve⟩
          cases haliases.symm.trans htable
          cases hname.symm.trans hresolve

theorem route_eq_callTo (hmodel : Text.isBlankText model = false) :
    (route s dice (.ok channels) model mode r).1 =
      callTo s model mode (Balancer.select s.strategy dice (pool mode channels) model r).1 := by
  unfold route
  rw [if_neg (by simp [hmodel])]
  rfl

/-- The candidate that is due decides what becomes of a request. -/
theorem route_comes (hmodel : Text.isBlankText model = false) :
    Comes s model mode
      (due? s.strategy dice model (candidates (pool mode channels) model) r)
      (route s dice (.ok channels) model mode r).1 := by
  rw [route_eq_callTo hmodel]
  cases hdue : due? s.strategy dice model (candidates (pool mode channels) model) r with
  | none =>
      rw [Balancer.select_of_nil (Balancer.due?_eq_none_iff.mp hdue)]
      exact .noChannel
  | some c =>
      rcases Balancer.select_of_due hdue with ⟨hkeys, hselect⟩ | ⟨key, hkey, hselect⟩
      · rw [hselect]
        exact .noKeys hkeys
      · rw [hselect, callTo]
        by_cases hwire : c.provider.wire? = none
        · have hprepare : Call.prepare c key model mode (s.timeoutSecs * 1000) =
              .error (Call.noWire c.provider) := by
            simp [Call.prepare, Call.start, hwire]
          rw [hprepare]
          exact .noWire (List.ne_nil_of_mem hkey) hwire
        · exact .selected ⟨List.ne_nil_of_mem hkey, hwire⟩ (selects_of_wired hkey hwire)

def SelectsUsable (s : RelaySettings) (model : String) (mode : RelayMode) (found : List Channel)
    (outcome : Except GatewayError Call) : Prop :=
  ∃ c ∈ found, c.Usable ∧ Selects s model mode c outcome

/-- The outcome for the candidate that was due: each error says what that candidate lacks. -/
structure Told (s : RelaySettings) (model : String) (mode : RelayMode) (found : List Channel)
    (due : Option Channel) (outcome : Except GatewayError Call) : Prop where
  usable : SelectsUsable s model mode found outcome ↔ ∃ c, due = some c ∧ c.Usable
  noChannel : outcome = .error (.balance (.noChannel model)) ↔ found = []
  noKeys : ∀ id, outcome = .error (.balance (.noKeys id)) ↔
    ∃ c, due = some c ∧ c.keys = [] ∧ c.id = id
  noWire : ∀ p, outcome = .error (.relay (Call.noWire p)) ↔
    ∃ c, due = some c ∧ c.keys ≠ [] ∧ c.provider.wire? = none ∧ c.provider = p

theorem Comes.told {due : Option Channel} {found : List Channel}
    (h : Comes s model mode due outcome) (hmem : ∀ c, due = some c → c ∈ found)
    (hnone : due = none ↔ found = []) : Told s model mode found due outcome := by
  cases h with
  | noChannel =>
      refine ⟨?_, by simpa using hnone, by simp, by simp⟩
      refine iff_of_false ?_ (by simp)
      rintro ⟨c, -, -, hselects⟩
      exact hselects.ne_balance _ rfl
  | noKeys hkeys =>
      refine ⟨?_, by simpa using hnone, by simp [hkeys], by simp [hkeys]⟩
      refine iff_of_false ?_ (by rintro ⟨_, ⟨⟩, husable⟩; exact husable.keyed hkeys)
      rintro ⟨c, -, -, hselects⟩
      exact hselects.ne_balance _ rfl
  | noWire hkeys hwire =>
      refine ⟨?_, by simpa using hnone, by simp [hkeys], fun p => ?_⟩
      · refine iff_of_false ?_ (by rintro ⟨_, ⟨⟩, husable⟩; exact husable.wired hwire)
        rintro ⟨c, -, -, hselects⟩
        exact hselects.ne_noWire _ rfl
      · simp only [Except.error.injEq, GatewayError.relay.injEq]
        constructor
        · intro h
          exact ⟨_, rfl, hkeys, hwire, noWire_inj h⟩
        · rintro ⟨_, ⟨⟩, -, -, rfl⟩
          rfl
  | @selected c _ husable hselects =>
      refine ⟨?_, ?_, fun id => ?_, fun p => ?_⟩
      · exact iff_of_true ⟨c, hmem c rfl, husable, hselects⟩ ⟨c, rfl, husable⟩
      · exact iff_of_false (hselects.ne_balance _) (by simpa using hnone)
      · refine iff_of_false (hselects.ne_balance _) ?_
        rintro ⟨_, ⟨⟩, hkeys, -⟩
        exact husable.keyed hkeys
      · refine iff_of_false (hselects.ne_noWire _) ?_
        rintro ⟨_, ⟨⟩, -, hwire, -⟩
        exact husable.wired hwire

/-- A request selects a usable channel exactly if the candidate that is due is usable, and otherwise
fails for what that candidate lacks. -/
theorem route_selects_usable_iff (s : RelaySettings) (channels : List Channel) {model : String}
    (hmodel : Text.isBlankText model = false) (mode : RelayMode) :
    let found := candidates (pool mode channels) model
    let routed := fun dice r => (route s dice (.ok channels) model mode r).1
    (∀ dice r,
      Told s model mode found (due? s.strategy dice model found r) (routed dice r)) ∧
    ((∀ dice r, SelectsUsable s model mode found (routed dice r)) ↔
      found ≠ [] ∧ ∀ c ∈ inReach s.strategy found, c.Usable) := by
  intro found routed
  have htold : ∀ dice r,
      Told s model mode found (due? s.strategy dice model found r) (routed dice r) :=
    fun dice r => (route_comes hmodel).told (fun _ => Balancer.mem_of_due?)
      Balancer.due?_eq_none_iff
  refine ⟨htold, fun h => ⟨?_, fun c hc => ?_⟩, fun ⟨hne, hall⟩ dice r => ?_⟩
  · obtain ⟨c, hc, -⟩ := h id {}
    exact List.ne_nil_of_mem hc
  · obtain ⟨dice, r, hdue⟩ := (Balancer.mem_inReach_iff model).mp hc
    obtain ⟨c', hdue', husable⟩ := (htold dice r).usable.mp (h dice r)
    cases hdue.symm.trans hdue'
    exact husable
  · obtain ⟨c, hdue⟩ := Option.ne_none_iff_exists'.mp
      (mt Balancer.due?_eq_none_iff.mp hne : due? s.strategy dice model found r ≠ none)
    exact (htold dice r).usable.mpr
      ⟨c, hdue, hall c ((Balancer.mem_inReach_iff model).mpr ⟨dice, r, hdue⟩)⟩

theorem route_selects_usable_iff_keyedAndKeyless :
    let s : RelaySettings := { strategy := .roundRobin }
    let found := candidates (pool .chat Balancer.keyedAndKeyless) "gpt-4o"
    let routed := fun count =>
      (route s id (.ok Balancer.keyedAndKeyless) "gpt-4o" .chat ⟨[("gpt-4o", count)], []⟩).1
    Text.isBlankText "gpt-4o" = false ∧ found = Balancer.keyedAndKeyless ∧
      SelectsUsable s "gpt-4o" .chat found (routed 4) ∧
      routed 5 = .error (.balance (.noKeys 2)) := by
  intro s found routed
  have hmodel : Text.isBlankText "gpt-4o" = false := by decide
  have hfound : found = Balancer.keyedAndKeyless := by decide +kernel
  have htold := (route_selects_usable_iff s Balancer.keyedAndKeyless hmodel .chat).1 id
  refine ⟨hmodel, hfound, (htold _).usable.mpr ?_, ((htold _).noKeys 2).mpr ?_⟩
  · exact ⟨_, show due? .roundRobin id "gpt-4o" found ⟨[("gpt-4o", 4)], []⟩ =
      some (Balancer.keyedAndKeyless.channel 1 "a\nb") by decide +kernel, by decide +kernel⟩
  · exact ⟨_, show due? .roundRobin id "gpt-4o" found ⟨[("gpt-4o", 5)], []⟩ =
      some (Balancer.keyedAndKeyless.channel 2 "") by decide +kernel, by decide +kernel,
      rfl⟩

theorem keyless_not_passed_over :
    let channels := Balancer.keyedAndKeyless.reverse
    (∃ c ∈ candidates (pool .chat channels) "gpt-4o", c.Usable) ∧
      (route { strategy := .firstAvailable } id (.ok channels) "gpt-4o" .chat {}).1 =
        .error (.balance (.noKeys 2)) := by
  decide +kernel

end Routing

end ModelGateway
