import ModelGateway.Proofs.Channel.Rows
import ModelGateway.Proofs.Gateway.Choices
import Mathlib.Order.Interval.Finset.Nat

/-!
# Rotation under round robin

All picks for a model move one counter, those for native bodies, which only the channels of one
provider can take, and all others.  Picks of one kind rotate as long as none of the other kind comes
in between.  They always do exactly if no channel takes native bodies or there is one channel at
most.
-/

namespace ModelGateway

namespace Rotation

variable {κ : Type} {key other : κ}

theorem position_cons [BEq κ] (key k : κ) (n : Nat) (rest : List (κ × Nat)) :
    position key ((k, n) :: rest) = if key == k then n else position key rest := by
  simp only [position, List.lookup_cons]
  cases key == k <;> rfl

variable [BEq κ] [LawfulBEq κ]

theorem position_advance_self (key : κ) (counters : List (κ × Nat)) :
    position key (advance key counters) = (position key counters + 1) % wordLimit := by
  induction counters with
  | nil =>
      rw [advance, position_cons, if_pos BEq.rfl]
      rfl
  | cons counter rest ih =>
      obtain ⟨k, n⟩ := counter
      by_cases h : k = key
      · subst h
        simp [advance, position_cons]
      · simpa [advance, position_cons, h, Ne.symm h] using ih

theorem position_advance_of_ne (hne : other ≠ key) (counters : List (κ × Nat)) :
    position other (advance key counters) = position other counters := by
  induction counters with
  | nil =>
      rw [advance, position_cons, if_neg (by simpa using hne)]
  | cons counter rest ih =>
      obtain ⟨k, n⟩ := counter
      by_cases h : k = key
      · subst h
        simp [advance, position_cons, hne]
      · simp [advance, position_cons, h, ih]

end Rotation

theorem perm_residues (start count : Nat) :
    ((List.range' start count).map (· % count)).Perm (List.range count) := by
  have hresidues : (List.range' start (start + count - start) : Multiset Nat).map (· % count) =
      List.range count :=
    Nat.multiset_Ico_map_mod start count
  rw [Nat.add_sub_cancel_left] at hresidues
  exact Multiset.coe_eq_coe.mp hresidues

theorem perm_of_places {α : Type} {picked all : List α} (start : Nat)
    (hlength : picked.length = all.length)
    (h : ∀ i (_ : i < picked.length), all[(start + i) % all.length]? = picked[i]?) :
    picked.Perm all := by
  have hpicked : picked.map some =
      ((List.range' start all.length).map (· % all.length)).map (all[·]?) := by
    refine List.ext_getElem? fun i => ?_
    by_cases hi : i < picked.length
    · have hi' : i < all.length := hlength ▸ hi
      simp [hi', h i hi, List.getElem?_eq_getElem hi]
    · have hi' : all.length ≤ i := hlength ▸ Nat.le_of_not_lt hi
      simp [hlength, hi']
  have hall : (List.range all.length).map (all[·]?) = all.map some := by
    refine List.ext_getElem (by simp) fun i _ hi => ?_
    have hi : i < all.length := by simpa using hi
    simp [List.getElem?_eq_getElem hi]
  have hperm : (picked.map some).Perm (all.map some) := by
    rw [hpicked, ← hall]
    exact (perm_residues start all.length).map _
  exact (List.map_perm_map_iff (Option.some_injective α)).mp hperm

/-! ## Picks -/

structure Pick where
  model : String
  native : Bool
  channel : Int
  deriving DecidableEq, Repr

/-- Any consecutive picks, as many as there are channels, take each channel once. -/
def Rotates (channels : List Int) (picks : List Pick) : Prop :=
  ∀ window, window <:+: picks → window.length = channels.length →
    (window.map (·.channel)).Perm channels

namespace Gateway

variable {σ : Type} {env : Surroundings σ} {g : Gateway σ} {model : String}

def pick? (env : Surroundings σ) (g : Gateway σ) (c : ClientCall) : Option Pick :=
  if Text.isBlankText c.model then none
  else
    match g.monitor.store.list with
    | .error _ => none
    | .ok channels =>
      let choice := (Balancer.select g.settings.relay.strategy env.dice
        (Routing.pool c.request.mode channels) c.model g.rotation).1
      (Balancer.chosen? choice).map (⟨c.model, c.request.mode == .native, ·⟩)

def picks (env : Surroundings σ) : List (String × ClientCall) → Gateway σ → List Pick
  | [], _ => []
  | (tokenName, c) :: rest, g =>
    (g.pick? env c).toList ++ picks env rest (serveCall env tokenName c g).2

def picksFor (env : Surroundings σ) (g : Gateway σ) (model : String)
    (calls : List (String × ClientCall)) : List Pick :=
  (picks env calls g).filter (·.model = model)

def callsOf (requests : List ClientRequest) : List (String × ClientCall) :=
  requests.filterMap fun request => request.call?.map (tokenName request, ·)

def picksOfRequests (env : Surroundings σ) : List ClientRequest → Gateway σ → List Pick
  | [], _ => []
  | request :: rest, g =>
    (request.call?.bind (g.pick? env)).toList ++ picksOfRequests env rest (serve env request g).2

/-- As far as nothing is tested, what is picked for requests is picked for their calls. -/
theorem picksOfRequests_eq (env : Surroundings σ) {requests : List ClientRequest}
    (htest : ∀ request ∈ requests, request.isTest = false) (g : Gateway σ) :
    picksOfRequests env requests g = picks env (callsOf requests) g := by
  induction requests generalizing g with
  | nil => rfl
  | cons request rest ih =>
      obtain ⟨hrequest, hrest⟩ := List.forall_mem_cons.mp htest
      have hstands := stands_call? (σ := σ) hrequest
      cases hc : request.call? with
      | none =>
          rw [hc] at hstands
          obtain ⟨response, hserve⟩ := hstands
          simp [picksOfRequests, callsOf, hc, hserve env g, ih hrest]
      | some c =>
          rw [hc] at hstands
          simp [picksOfRequests, callsOf, picks, hc, hstands env g, ih hrest]

/-- The channels among which one is picked for a model. -/
def rounds (g : Gateway σ) (model : String) (native : Bool) : List Int :=
  (g.offered model (if native then .native else .chat)).map (·.id)

def made (g : Gateway σ) (model : String) : Nat :=
  Rotation.position model g.rotation.models

theorem rounds_eq (g : Gateway σ) (model : String) (mode : RelayMode) :
    g.rounds model (mode == .native) = (g.offered model mode).map (·.id) := by
  cases mode <;> rfl

theorem serveCall_kept (env : Surroundings σ) (tokenName : String) (c : ClientCall)
    (g : Gateway σ) :
    (serveCall env tokenName c g).2.settings = g.settings ∧
      (serveCall env tokenName c g).2.monitor.store = g.monitor.store ∧
      (serveCall env tokenName c g).2.rotation = (orderFor env tokenName c g).2 := by
  rcases h : orderFor env tokenName c g with ⟨e | o, rotation⟩
  · rw [serveCall_of_error h]
    exact ⟨rfl, rfl, rfl⟩
  · rw [serveCall_of_order h]
    exact ⟨rfl, rfl, rfl⟩

theorem rounds_serveCall (env : Surroundings σ) (tokenName : String) (c : ClientCall)
    (g : Gateway σ) (model : String) (native : Bool) :
    (serveCall env tokenName c g).2.rounds model native = g.rounds model native := by
  simp only [rounds, offered, (serveCall_kept env tokenName c g).2.1]

theorem pick?_cases (hstrategy : g.settings.relay.strategy = .roundRobin) (env : Surroundings σ)
    (tokenName : String) (c : ClientCall) :
    (g.pick? env c = none ∧
        (orderFor env tokenName c g).2.models = g.rotation.models ∧
        (Text.isBlankText c.model = true ∨ g.offered c.model c.request.mode = [])) ∨
      ∃ p, g.pick? env c = some p ∧ p.model = c.model ∧ p.native = (c.request.mode == .native) ∧
        (g.rounds c.model p.native)[g.made c.model % (g.rounds c.model p.native).length]? =
          some p.channel ∧
        (orderFor env tokenName c g).2.models = Rotation.advance c.model g.rotation.models := by
  unfold pick? orderFor Routing.route
  by_cases hblank : Text.isBlankText c.model = true
  · rw [if_pos hblank, if_pos hblank]
    exact .inl ⟨rfl, rfl, .inl hblank⟩
  rw [if_neg hblank, if_neg hblank]
  cases hlist : g.monitor.store.list with
  | error e => exact .inl ⟨rfl, rfl, .inr (by rw [offered, hlist])⟩
  | ok channels =>
      have hoffered := @offered_of_list _ g c.model c.request.mode _ hlist
      rw [hstrategy]
      dsimp only
      by_cases hnil : Balancer.candidates (Routing.pool c.request.mode channels) c.model = []
      · simp only [bind, StateT.bind, Balancer.select_of_nil hnil]
        exact .inl ⟨rfl, rfl, .inr (hoffered.trans hnil)⟩
      · obtain ⟨channel, hplace, hchosen, hmodels⟩ :=
          Balancer.select_roundRobin hnil env.dice g.rotation
        refine .inr ⟨⟨c.model, c.request.mode == .native, channel.id⟩, ?_, rfl, rfl, ?_, ?_⟩
        · rw [hchosen]
          rfl
        · rw [rounds_eq, hoffered, List.length_map, List.getElem?_map]
          exact congrArg (Option.map Channel.id) hplace
        · exact hmodels

theorem picksFor_cons (hstrategy : g.settings.relay.strategy = .roundRobin)
    (env : Surroundings σ) (tokenName : String) (c : ClientCall) (model : String)
    (rest : List (String × ClientCall)) :
    let after := (serveCall env tokenName c g).2
    (picksFor env g model ((tokenName, c) :: rest) = picksFor env after model rest ∧
        after.made model = g.made model ∧
        (c.model = model → Text.isBlankText model = true ∨
          g.offered model c.request.mode = [])) ∨
      ∃ p, picksFor env g model ((tokenName, c) :: rest) = p :: picksFor env after model rest ∧
        p.native = (c.request.mode == .native) ∧
        (g.rounds model p.native)[g.made model % (g.rounds model p.native).length]? =
          some p.channel ∧
        after.made model = (g.made model + 1) % Rotation.wordLimit := by
  intro after
  have hrotation := (serveCall_kept env tokenName c g).2.2
  rcases pick?_cases hstrategy env tokenName c with
    ⟨hnone, hmodels, hreason⟩ | ⟨p, hpicked, hmodel, hnative, hplace, hmodels⟩
  · refine .inl ⟨?_, ?_, fun h => h ▸ hreason⟩
    · simp [picksFor, picks, hnone, after]
    · rw [made, hrotation, hmodels, made]
  · by_cases heq : c.model = model
    · subst heq
      refine .inr ⟨p, ?_, hnative, hplace, ?_⟩
      · simp [picksFor, picks, hpicked, hmodel, after]
      · rw [made, hrotation, hmodels, Rotation.position_advance_self, made]
    · refine .inl ⟨?_, ?_, fun h => absurd h heq⟩
      · simp [picksFor, picks, hpicked, hmodel, heq, after]
      · rw [made, hrotation, hmodels, Rotation.position_advance_of_ne (Ne.symm heq), made]

/-- The picks for a model come in turn, each out of the channels of its kind. -/
theorem channel_of_picksFor (hstrategy : g.settings.relay.strategy = .roundRobin)
    (calls : List (String × ClientCall))
    (hmade : g.made model + (picksFor env g model calls).length ≤ Rotation.wordLimit) (i : Nat)
    {p : Pick} (hp : (picksFor env g model calls)[i]? = some p) :
    (g.rounds model p.native)[(g.made model + i) % (g.rounds model p.native).length]? =
      some p.channel := by
  -- By induction on the calls; the counter does not begin anew before the last pick.
  induction calls generalizing g i with
  | nil => simp [picksFor, picks] at hp
  | cons call rest ih =>
      obtain ⟨tokenName, c⟩ := call
      have hsettings := (serveCall_kept env tokenName c g).1
      have hrounds := rounds_serveCall env tokenName c g model p.native
      rcases picksFor_cons hstrategy env tokenName c model rest with
        ⟨hpicks, hsame, -⟩ | ⟨first, hpicks, -, hplace, hnext⟩
      · rw [hpicks] at hp hmade
        rw [← hsame] at hmade
        rw [← hrounds, ← hsame]
        exact ih (hsettings ▸ hstrategy) hmade i hp
      · rw [hpicks] at hp hmade
        cases i with
        | zero =>
            obtain rfl : first = p := by simpa using hp
            exact hplace
        | succ i =>
            have hp : (picksFor env (serveCall env tokenName c g).2 model rest)[i]? = some p := by
              simpa using hp
            have hlater : 0 < (picksFor env (serveCall env tokenName c g).2 model rest).length :=
              List.length_pos_of_mem (List.mem_of_getElem? hp)
            rw [List.length_cons] at hmade
            rw [Nat.mod_eq_of_lt (by omega)] at hnext
            have hrest := ih (hsettings ▸ hstrategy) (by omega) i hp
            rwa [hrounds, hnext, Nat.add_assoc, Nat.add_comm 1 i] at hrest

theorem perm_of_window (hstrategy : g.settings.relay.strategy = .roundRobin)
    {calls : List (String × ClientCall)}
    (hmade : g.made model + (picksFor env g model calls).length ≤ Rotation.wordLimit)
    {native : Bool} {window : List Pick} (hwindow : window <:+: picksFor env g model calls)
    (hkind : ∀ p ∈ window, p.native = native)
    (hlength : window.length = (g.rounds model native).length) :
    (window.map (·.channel)).Perm (g.rounds model native) := by
  obtain ⟨before, after, hpicks⟩ := hwindow
  refine perm_of_places (g.made model + before.length) (by simpa using hlength) fun i hi => ?_
  have hi : i < window.length := by simpa using hi
  have hp : (picksFor env g model calls)[before.length + i]? = some window[i] := by
    rw [← hpicks, List.append_assoc, List.getElem?_append_right (Nat.le_add_right _ _),
      Nat.add_sub_cancel_left, List.getElem?_append_left hi, List.getElem?_eq_getElem hi]
  have hplace := channel_of_picksFor hstrategy calls hmade _ hp
  rw [hkind _ (List.getElem_mem hi)] at hplace
  rw [Nat.add_assoc, hplace, List.getElem?_map, List.getElem?_eq_getElem hi]
  rfl

theorem rotates_of_no_native (hstrategy : g.settings.relay.strategy = .roundRobin)
    {calls : List (String × ClientCall)}
    (hmade : g.made model + (picksFor env g model calls).length ≤ Rotation.wordLimit)
    (hnone : g.rounds model true = []) (native : Bool) :
    Rotates (g.rounds model native)
      ((picksFor env g model calls).filter (·.native = native)) := by
  have hplain : ∀ p ∈ picksFor env g model calls, p.native = false := by
    intro p hp
    obtain ⟨i, hi⟩ := List.getElem?_of_mem hp
    have hplace := channel_of_picksFor hstrategy calls hmade i hi
    cases hkind : p.native with
    | false => rfl
    | true => simp [hkind, hnone] at hplace
  intro window hwindow hlength
  cases native with
  | false =>
      rw [List.filter_eq_self.mpr fun p hp => by simpa using hplain p hp] at hwindow
      exact perm_of_window hstrategy hmade hwindow (fun p hp => hplain p (hwindow.subset hp))
        hlength
  | true =>
      rw [hnone] at hlength ⊢
      rw [List.length_eq_zero_iff.mp hlength]
      exact .nil

theorem rotates_of_length_le_one (hstrategy : g.settings.relay.strategy = .roundRobin)
    {calls : List (String × ClientCall)}
    (hmade : g.made model + (picksFor env g model calls).length ≤ Rotation.wordLimit)
    {native : Bool} (hfew : (g.rounds model native).length ≤ 1) :
    Rotates (g.rounds model native)
      ((picksFor env g model calls).filter (·.native = native)) := by
  intro window hwindow hlength
  match window with
  | [] =>
      rw [List.length_eq_zero_iff.mp hlength.symm]
      exact .nil
  | [p] =>
      obtain ⟨hp, hkind⟩ := List.mem_filter.mp (hwindow.subset List.mem_cons_self)
      obtain ⟨before, after, hpicks⟩ := List.append_of_mem hp
      have hsingle : [p] <:+: picksFor env g model calls := ⟨before, after, by simp [hpicks]⟩
      refine perm_of_window hstrategy hmade hsingle (fun q hq => ?_) hlength
      rw [List.mem_singleton.mp hq]
      simpa using hkind
  | _ :: _ :: _ =>
      rw [← hlength] at hfew
      simp at hfew

/-! ## Rounds that are disturbed -/

theorem rounds_sublist (g : Gateway σ) (model : String) :
    (g.rounds model true).Sublist (g.rounds model false) := by
  unfold rounds offered
  cases g.monitor.store.list with
  | error e => exact .slnil
  | ok channels => exact ((List.filter_sublist.filter _).map _)

theorem nodup_rounds (h : g.monitor.store.table.Ordered) (model : String) (native : Bool) :
    (g.rounds model native).Nodup := by
  unfold rounds offered
  cases hlist : g.monitor.store.list with
  | error e => exact List.nodup_nil
  | ok channels =>
      have htable : g.monitor.store.table.list = .ok channels := by
        unfold ChannelStore.list at hlist
        split at hlist
        · cases hlist
        · exact hlist
      have hids : (channels.map (·.id)).Nodup :=
        List.pairwise_map.mpr ((h.pairwise_of_list htable).imp fun hlt => Int.ne_of_lt hlt)
      refine hids.sublist (List.Sublist.map _ ?_)
      cases native
      · exact List.filter_sublist
      · exact List.filter_sublist.trans List.filter_sublist

theorem native_of_picksFor (hstrategy : g.settings.relay.strategy = .roundRobin)
    (hmodel : Text.isBlankText model = false) {calls : List (String × ClientCall)}
    (hcalls : ∀ call ∈ calls, call.2.model = model ∧
      g.rounds model (call.2.request.mode == .native) ≠ []) :
    (picksFor env g model calls).map (·.native) =
      calls.map fun call => call.2.request.mode == .native := by
  induction calls generalizing g with
  | nil => rfl
  | cons call rest ih =>
      obtain ⟨tokenName, c⟩ := call
      obtain ⟨⟨heq, hoffered⟩, hrest⟩ := List.forall_mem_cons.mp hcalls
      have hsettings := (serveCall_kept env tokenName c g).1
      have hlater := ih (hsettings ▸ hstrategy) fun call hcall => by
        rw [rounds_serveCall]
        exact hrest call hcall
      rcases picksFor_cons hstrategy env tokenName c model rest with
        ⟨-, -, hreason⟩ | ⟨p, hpicks, hnative, -⟩
      · rcases hreason heq with hblank | hnil
        · cases hmodel.symm.trans hblank
        · exact absurd (by rw [rounds_eq, hnil]; rfl) hoffered
      · rw [hpicks, List.map_cons, List.map_cons, hlater, hnative]

def plainCall (model : String) : String × ClientCall := ("", ⟨model, .chat { model }, false⟩)

def nativeCall (model : String) : String × ClientCall := ("", ⟨model, .native .null, false⟩)

def disturbed (model : String) (channels : Nat) : List (String × ClientCall) :=
  plainCall model :: nativeCall model :: List.replicate (channels - 1) (plainCall model)

theorem picksFor_disturbed (env : Surroundings σ)
    (hstrategy : g.settings.relay.strategy = .roundRobin)
    (hmodel : Text.isBlankText model = false) (hplain : g.rounds model false ≠ [])
    (hnative : g.rounds model true ≠ []) (channels : Nat) :
    ∃ first between later, picksFor env g model (disturbed model channels) =
        first :: between :: later ∧
      first.native = false ∧ between.native = true ∧ later.length = channels - 1 ∧
      ∀ p ∈ later, p.native = false := by
  have hcalls : ∀ call ∈ disturbed model channels, call.2.model = model ∧
      g.rounds model (call.2.request.mode == .native) ≠ [] := by
    intro call hcall
    rcases List.mem_cons.mp hcall with rfl | hcall
    · exact ⟨rfl, hplain⟩
    rcases List.mem_cons.mp hcall with rfl | hcall
    · exact ⟨rfl, hnative⟩
    · rw [List.eq_of_mem_replicate hcall]
      exact ⟨rfl, hplain⟩
  have hkinds : (picksFor env g model (disturbed model channels)).map (·.native) =
      false :: true :: List.replicate (channels - 1) false := by
    rw [native_of_picksFor hstrategy hmodel hcalls, disturbed]
    simp only [List.map_cons, List.map_replicate]
    rfl
  obtain ⟨first, others, hpicked, hfirst, hothers⟩ := List.map_eq_cons_iff.mp hkinds
  obtain ⟨between, later, rfl, hbetween, hlater⟩ := List.map_eq_cons_iff.mp hothers
  exact ⟨first, between, later, hpicked, hfirst, hbetween,
    by simpa using congrArg List.length hlater,
    fun p hp => List.eq_of_mem_replicate (hlater ▸ List.mem_map_of_mem hp)⟩

/-- A native pick in between has the first channel picked once more before the last one. -/
theorem not_rotates_disturbed (env : Surroundings σ)
    (hstrategy : g.settings.relay.strategy = .roundRobin)
    (hordered : g.monitor.store.table.Ordered) (hmodel : Text.isBlankText model = false)
    (hmade : g.made model + (g.rounds model false).length + 1 ≤ Rotation.wordLimit)
    (hnative : g.rounds model true ≠ []) (hmany : 1 < (g.rounds model false).length) :
    let picked := picksFor env g model (disturbed model (g.rounds model false).length)
    g.made model + picked.length ≤ Rotation.wordLimit ∧
      ¬ Rotates (g.rounds model false) (picked.filter (·.native = false)) := by
  intro picked
  obtain ⟨first, between, later, hpicked, hfirst, hbetween, hcount, hlater⟩ :=
    picksFor_disturbed env hstrategy hmodel (List.length_pos_iff.mp (by omega)) hnative
      (g.rounds model false).length
  change picked = first :: between :: later at hpicked
  obtain ⟨more, hmore⟩ : ∃ more, (g.rounds model false).length = more + 2 :=
    ⟨(g.rounds model false).length - 2, by omega⟩
  rw [hmore, Nat.add_sub_cancel_right (more + 1) 1] at hcount
  have hlimit : g.made model + picked.length ≤ Rotation.wordLimit := by
    rw [hpicked, List.length_cons, List.length_cons, hcount]
    omega
  refine ⟨hlimit, fun hrotates => ?_⟩
  have hfilter : picked.filter (·.native = false) = first :: later := by
    rw [hpicked, List.filter_cons_of_pos (by simpa using hfirst),
      List.filter_cons_of_neg (by simp [hbetween]),
      List.filter_eq_self.mpr fun p hp => by simpa using hlater p hp]
  rw [hfilter] at hrotates
  have hperm := hrotates _ (List.infix_refl _) (by simp [hcount, hmore])
  have hnodup : ((first :: later).map (·.channel)).Nodup :=
    hperm.nodup_iff.mpr (nodup_rounds hordered model false)
  have hlast : picked[more + 2]? = some later[more] := by
    rw [hpicked, List.getElem?_cons_succ, List.getElem?_cons_succ, List.getElem?_eq_getElem]
  have hplaceFirst := channel_of_picksFor hstrategy _ hlimit 0
    (show picked[0]? = some first by rw [hpicked]; rfl)
  have hplaceLast := channel_of_picksFor hstrategy _ hlimit _ hlast
  rw [hfirst, Nat.add_zero] at hplaceFirst
  rw [hlater _ (List.getElem_mem _), ← hmore, Nat.add_mod_right, hplaceFirst] at hplaceLast
  refine (List.nodup_cons.mp hnodup).1 (List.mem_map.mpr ⟨later[more], List.getElem_mem _, ?_⟩)
  exact (Option.some.inj hplaceLast).symm

/-- Picks of one kind take turns as long as no pick of the other kind for the same model comes in
between.  They do so in every run exactly if no channel takes native bodies or there is at most one
channel. -/
theorem rotates_iff (env : Surroundings σ) (g : Gateway σ) (model : String)
    (hstrategy : g.settings.relay.strategy = .roundRobin)
    (hordered : g.monitor.store.table.Ordered) (hmodel : Text.isBlankText model = false)
    (hmade : g.made model + (g.rounds model false).length + 1 ≤ Rotation.wordLimit) :
    (∀ requests : List ClientRequest, (∀ request ∈ requests, request.isTest = false) →
      (picksOfRequests env requests g).filter (·.model = model) =
        picksFor env g model (callsOf requests)) ∧
    (∀ calls native window, g.made model + (picksFor env g model calls).length ≤
        Rotation.wordLimit →
      window <:+: picksFor env g model calls → (∀ p ∈ window, p.native = native) →
      window.length = (g.rounds model native).length →
      (window.map (·.channel)).Perm (g.rounds model native)) ∧
    ((∀ calls native, g.made model + (picksFor env g model calls).length ≤ Rotation.wordLimit →
        Rotates (g.rounds model native)
          ((picksFor env g model calls).filter (·.native = native))) ↔
      g.rounds model true = [] ∨ (g.rounds model false).length ≤ 1) := by
  refine ⟨fun requests htest => ?_,
    fun calls native window hlimit => perm_of_window hstrategy hlimit, ?_, ?_⟩
  · rw [picksOfRequests_eq env htest, picksFor]
  · intro hrotates
    by_contra hboth
    obtain ⟨hnative, hmany⟩ := not_or.mp hboth
    obtain ⟨hlimit, hnot⟩ := not_rotates_disturbed env hstrategy hordered hmodel hmade hnative
      (Nat.lt_of_not_le hmany)
    exact hnot (hrotates _ false hlimit)
  · rintro (hnone | hfew) calls native hlimit
    · exact rotates_of_no_native hstrategy hlimit hnone native
    · refine rotates_of_length_le_one hstrategy hlimit ?_
      cases native with
      | false => exact hfew
      | true => exact (g.rounds_sublist model).length_le.trans hfew

def ofTwoChannels : Gateway Unit where
  settings := { relay := { strategy := .roundRobin } }
  monitor := {
    store := { table := [channel 1 .openai, channel 2 .gemini].foldl ChannelTable.upsert {} }
    world := ⟨(), {}, {}, ⟨0, 0⟩⟩ }
where
  channel (id : Int) (provider : Provider) : Channel := {
    id, name := "one", provider, baseUrl := none, key := "k", models := "gemini-2.5-flash"
    testModel := none, modelMapping := none, group := "default", status := .enabled
    responseTimeMs := 0, autoBan := true, testTime := none }

theorem rotates_iff_two_channels :
    let g := ofTwoChannels
    let model := "gemini-2.5-flash"
    g.settings.relay.strategy = .roundRobin ∧ g.monitor.store.table.Ordered ∧
      Text.isBlankText model = false ∧
      g.made model + (g.rounds model false).length + 1 ≤ Rotation.wordLimit ∧
      (∀ calls window, window <:+: picksFor (answering []) g model calls →
        g.made model + (picksFor (answering []) g model calls).length ≤ Rotation.wordLimit →
        (∀ p ∈ window, p.native = false) → window.length = 2 →
        (window.map (·.channel)).Perm [1, 2]) := by
  intro g model
  have hplain : g.rounds model false = [1, 2] := by decide +kernel
  have hordered : g.monitor.store.table.Ordered := by
    unfold ChannelTable.Ordered
    decide +kernel
  have hmade : g.made model + (g.rounds model false).length + 1 ≤ Rotation.wordLimit := by
    decide +kernel
  obtain ⟨-, halone, -⟩ :=
    rotates_iff (answering []) g model rfl hordered (by decide +kernel) hmade
  refine ⟨rfl, hordered, by decide +kernel, hmade, ?_⟩
  intro calls window hwindow hlimit hkind hlength
  have hround := halone calls false window hlimit hwindow hkind (by rw [hplain]; exact hlength)
  rwa [hplain] at hround

def posted (path : String) (body : Json) : ClientRequest where
  method := "POST"
  target := ⟨path, ""⟩
  headers := [Headers.field Headers.contentTypeName "application/json"]
  body := Json.bytes body

/-- With a native request between them, two chats go to the first of two channels. -/
theorem chats_not_rotated :
    let g := ofTwoChannels
    let model := "gemini-2.5-flash"
    let chat := posted "/v1/chat/completions"
      (.obj [("messages", .arr []), ("model", .str model)])
    let native := posted "/v1beta/models/gemini-2.5-flash:generateContent"
      (.obj [("contents", .arr [.obj [("parts", .arr [.obj [("text", .str "hi")]])]])])
    let picked := picksOfRequests (answering []) [chat, native, chat] g
    g.rounds model false = [1, 2] ∧ g.rounds model true = [2] ∧
      picked = [⟨model, false, 1⟩, ⟨model, true, 2⟩, ⟨model, false, 1⟩] ∧
      ¬ Rotates (g.rounds model false) (picked.filter (·.native = false)) := by
  intro g model chat native picked
  have hplain : g.rounds model false = [1, 2] := by decide +kernel
  have hpicked : picked = [⟨model, false, 1⟩, ⟨model, true, 2⟩, ⟨model, false, 1⟩] := by
    decide +kernel
  refine ⟨hplain, by decide +kernel, hpicked, fun hrotates => ?_⟩
  have hperm := hrotates [⟨model, false, 1⟩, ⟨model, false, 1⟩]
    (by rw [hpicked]; exact List.infix_refl _) (by rw [hplain]; rfl)
  rw [hplain] at hperm
  exact absurd hperm (by decide)

end Gateway

end ModelGateway
