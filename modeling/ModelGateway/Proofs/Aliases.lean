import Mathlib.Data.List.Chain
import ModelGateway.Relay.Call

/-!
# Chains of aliases

A chain that ends is resolved to its end if it has fewer than `maxHops` hops, since the name at the
end takes a lookup of its own.  A cycle is an error and resolves to nothing.
-/

namespace ModelGateway

theorem Call.eq_of_followAliases_eq_error {channel : Channel} {call after : Call} {f : RelayFailure}
    (h : followAliases channel call = (.error f, after)) :
    f.kind = .modelMappingFailed ∧ after = call := by
  unfold followAliases at h
  split at h
  · obtain ⟨hf, rfl⟩ := Prod.mk.inj h
    obtain rfl := Except.error.inj hf
    exact ⟨rfl, rfl⟩
  · split at h
    · cases h
    · obtain ⟨hf, rfl⟩ := Prod.mk.inj h
      obtain rfl := Except.error.inj hf
      exact ⟨rfl, rfl⟩

namespace Alias

variable {table : Table} {source name next target : String} {lookups hops more : Nat}
  {seen : List String}

structure Leads (table : Table) (name next : String) : Prop where
  entry : table.lookup name = some next
  nonblank : Text.isBlankText next = false
  other : next ≠ name

/-- A name without an entry, or with an entry that is blank or the name itself. -/
inductive IsTerminal (table : Table) (name : String) : Prop
  | missing (h : table.lookup name = none)
  | blank {next : String} (h : table.lookup name = some next)
      (hblank : Text.isBlankText next = true)
  | itself (h : table.lookup name = some name)

/-- Entries lead from the first name to the second in the given number of hops. -/
inductive LeadsIn (table : Table) : (hops : Nat) → String → String → Prop
  | here (name : String) : LeadsIn table 0 name name
  | hop {hops : Nat} {name next target : String} (hfirst : Leads table name next)
      (hrest : LeadsIn table hops next target) : LeadsIn table (hops + 1) name target

/-- Following entries from a name leads into a cycle. -/
def ComesBack (table : Table) (source : String) : Prop :=
  ∃ name hops more, LeadsIn table hops source name ∧ LeadsIn table (more + 1) name name

theorem next?_eq_some_iff : next? table name = some next ↔ Leads table name next := by
  unfold next?
  constructor
  · intro h
    split at h
    · next target hentry =>
      split at h
      · cases h
      · next hon =>
        obtain rfl := Option.some.inj h
        obtain ⟨hnonblank, hother⟩ := not_or.mp hon
        exact ⟨hentry, Bool.eq_false_iff.mpr hnonblank, hother⟩
    · cases h
  · rintro ⟨hentry, hnonblank, hother⟩
    simp [hentry, hnonblank, hother]

theorem next?_eq_none_iff : next? table name = none ↔ IsTerminal table name := by
  unfold next?
  constructor
  · intro h
    split at h
    · next target hentry =>
      split at h
      · next hoff =>
        rcases hoff with hblank | rfl
        · exact .blank hentry hblank
        · exact .itself hentry
      · cases h
    · next hentry => exact .missing hentry
  · rintro (hentry | ⟨hentry, hblank⟩ | hentry)
    · rw [hentry]
    · simp [hentry, hblank]
    · simp [hentry]

instance : Decidable (Leads table name next) :=
  decidable_of_iff _ next?_eq_some_iff

instance : Decidable (IsTerminal table name) :=
  decidable_of_iff _ next?_eq_none_iff

theorem Leads.not_isTerminal (h : Leads table name next) : ¬ IsTerminal table name := by
  rw [← next?_eq_none_iff, next?_eq_some_iff.mpr h]
  nofun

theorem Leads.unique (h : Leads table name next) (h' : Leads table name target) : next = target :=
  Option.some.inj (h.entry.symm.trans h'.entry)

theorem LeadsIn.snoc (h : LeadsIn table hops source name) (hlast : Leads table name next) :
    LeadsIn table (hops + 1) source next := by
  induction h with
  | here name => exact .hop hlast (.here next)
  | hop hfirst _ ih => exact .hop hfirst (ih hlast)

theorem leadsIn_of_isChain {names : List String} (h : List.IsChain (Leads table) (name :: names)) :
    LeadsIn table names.length name (names.getLastD name) := by
  induction names generalizing name with
  | nil => exact .here name
  | cons next names ih =>
      obtain ⟨hfirst, hrest⟩ := List.isChain_cons_cons.mp h
      rw [List.getLastD_cons]
      exact .hop hfirst (ih hrest)

theorem ComesBack.exists_next (h : ComesBack table source) :
    ∃ next, Leads table source next ∧ ComesBack table next := by
  obtain ⟨name, hops, more, hto, hround⟩ := h
  cases hto with
  | here =>
      cases hround with
      | hop hfirst hrest => exact ⟨_, hfirst, _, 0, more, .here _, hrest.snoc hfirst⟩
  | hop hfirst hrest => exact ⟨_, hfirst, name, _, more, hrest, hround⟩

theorem ComesBack.not_isTerminal (h : ComesBack table source)
    (hto : LeadsIn table hops source target) : ¬ IsTerminal table target := by
  induction hto with
  | here =>
      obtain ⟨_, hnext, -⟩ := h.exists_next
      exact hnext.not_isTerminal
  | hop hfirst _ ih =>
      obtain ⟨_, hnext, hback⟩ := h.exists_next
      obtain rfl := hnext.unique hfirst
      exact ih hback

/-! ## Following a chain -/

def OnTheWay (table : Table) (seen : List String) (name : String) : Prop :=
  ∀ earlier ∈ seen, ∃ hops, LeadsIn table hops earlier name

theorem OnTheWay.cons (h : OnTheWay table seen name) (hnext : Leads table name next) :
    OnTheWay table (next :: seen) next := by
  refine List.forall_mem_cons.mpr ⟨⟨0, .here next⟩, fun earlier hearlier => ?_⟩
  obtain ⟨hops, hto⟩ := h earlier hearlier
  exact ⟨hops + 1, hto.snoc hnext⟩

theorem OnTheWay.comesBack (h : OnTheWay table seen name) (hnext : Leads table name next)
    (hseen : next ∈ seen) : ComesBack table next := by
  obtain ⟨hops, hto⟩ := h next hseen
  exact ⟨next, 0, hops, .here next, hto.snoc hnext⟩

theorem exists_leadsIn_of_follow (h : follow table source lookups seen name = .ok target) :
    ∃ hops, LeadsIn table hops name target ∧ IsTerminal table target := by
  induction lookups generalizing seen name with
  | zero => cases h
  | succ lookups ih =>
      rw [follow] at h
      split at h
      · next hnext =>
        obtain rfl := Except.ok.inj h
        exact ⟨0, .here name, next?_eq_none_iff.mp hnext⟩
      · next next hnext =>
        split at h
        · cases h
        · obtain ⟨hops, hto, hend⟩ := ih h
          exact ⟨hops + 1, .hop (next?_eq_some_iff.mp hnext) hto, hend⟩

/-- A chain that ends is followed to its end, unless that takes too many lookups. -/
theorem follow_eq_of_isTerminal (hto : LeadsIn table hops name target)
    (hend : IsTerminal table target) (hseen : OnTheWay table seen name) :
    follow table source lookups seen name =
      if hops < lookups then .ok target else .error (.tooLong source) := by
  induction lookups generalizing seen name hops with
  | zero => rfl
  | succ lookups ih =>
      rw [follow]
      cases hto with
      | here => rw [next?_eq_none_iff.mpr hend, if_pos (Nat.succ_pos lookups)]
      | hop hfirst hrest =>
          -- A next name that was seen would make the chain come back, but it has an end.
          have hfresh := fun h => (hseen.comesBack hfirst h).not_isTerminal hrest hend
          simp only [next?_eq_some_iff.mpr hfirst, if_neg hfresh,
            ih hrest (hseen.cons hfirst), Nat.add_lt_add_iff_right]

theorem onTheWay_self (table : Table) (name : String) : OnTheWay table [name] name :=
  List.forall_mem_singleton.mpr ⟨0, .here name⟩

theorem resolve_eq_of_isTerminal (hto : LeadsIn table hops source target)
    (hend : IsTerminal table target) :
    resolve table source = if hops < maxHops then .ok target else .error (.tooLong source) :=
  follow_eq_of_isTerminal hto hend (onTheWay_self table source)

theorem ComesBack.exists_fault (h : ComesBack table source) :
    ∃ fault, resolve table source = .error fault := by
  cases hresolve : resolve table source with
  | error fault => exact ⟨fault, rfl⟩
  | ok target =>
      obtain ⟨hops, hto, hend⟩ := exists_leadsIn_of_follow hresolve
      exact absurd hend (h.not_isTerminal hto)

theorem message_tooLong (source : String) :
    (Fault.tooLong source).message = "model mapping for " ++ source ++ " exceeds 8 hops" := by
  have hlimit : " exceeds " ++ (Nat.repr maxHops ++ " hops") = " exceeds 8 hops" := by
    decide +kernel
  change "model mapping for " ++ source ++ " exceeds " ++ Nat.repr maxHops ++ " hops" = _
  rw [String.append_assoc, String.append_assoc, hlimit]

/-- A name that is resolved is reached by entries and has no entry of its own that leads on, so
resolving it again changes nothing.  A cycle is an error, and a call whose aliases are at fault
keeps its names. -/
theorem resolve_leads_to_end (table : Table) (source : String) :
    (∀ target, resolve table source = .ok target →
      (∃ hops, LeadsIn table hops source target) ∧ IsTerminal table target ∧
        resolve table target = .ok target) ∧
    (ComesBack table source → ∃ fault, resolve table source = .error fault ∧
      fault.failure.kind = .modelMappingFailed) ∧
    ∀ (channel : Channel) (call after : Call) (f : RelayFailure),
      Call.followAliases channel call = (.error f, after) →
        f.kind = .modelMappingFailed ∧ after = call := by
  refine ⟨fun target h => ?_, fun h => ?_, fun channel call after f h => ?_⟩
  · obtain ⟨hops, hto, hend⟩ := exists_leadsIn_of_follow h
    exact ⟨⟨hops, hto⟩, hend, resolve_eq_of_isTerminal (.here target) hend⟩
  · obtain ⟨fault, hfault⟩ := h.exists_fault
    exact ⟨fault, hfault, rfl⟩
  · exact Call.eq_of_followAliases_eq_error h

theorem resolve_leads_to_end_two_chains :
    let table := [("a", "b"), ("b", "c"), ("x", "y"), ("y", "x")]
    let channel : Channel := {
      id := 1, name := "one", provider := .openai, baseUrl := none, key := "k", models := "x"
      testModel := none, modelMapping := some "\x7b\"x\":\"y\",\"y\":\"x\"\x7d"
      group := "default", status := .enabled, responseTimeMs := 0, autoBan := true
      testTime := none }
    let call : Call := {
      channelId := 1, provider := .openai, wire := .openai, requestedModel := "x"
      providerModel := "x", isStream := false, mode := .chat, baseUrl := "", apiKey := "k"
      group := "default", promptTokens := 0, includeUsage := false, cacheWriteTokens := 0
      timeoutMs := 5000 }
    (resolve table "a" = .ok "c" ∧ (∃ hops, LeadsIn table hops "a" "c") ∧ IsTerminal table "c" ∧
      resolve table "c" = .ok "c") ∧
    (ComesBack table "x" ∧ ∃ fault, resolve table "x" = .error fault ∧
      fault.failure.kind = .modelMappingFailed) ∧
    ∃ f, Call.followAliases channel call = (.error f, call) ∧ f.kind = .modelMappingFailed := by
  intro table channel call
  have hfound : resolve table "a" = .ok "c" := by decide
  have hback : ComesBack table "x" :=
    ⟨"x", 0, 1, .here "x", .hop (by decide : Leads table "x" "y")
      (.hop (by decide : Leads table "y" "x") (.here "x"))⟩
  have haliases : channel.aliases? = some [("x", "y"), ("y", "x")] := by decide +kernel
  obtain ⟨f, after, hfollowed⟩ :
      ∃ f after, Call.followAliases channel call = (.error f, after) := by
    rw [Call.followAliases, haliases]
    exact ⟨_, _, rfl⟩
  obtain ⟨-, hcomesBack, hkept⟩ := resolve_leads_to_end table "x"
  obtain ⟨hkind, rfl⟩ := hkept channel call after f hfollowed
  exact ⟨⟨hfound, (resolve_leads_to_end table "a").1 "c" hfound⟩, ⟨hback, hcomesBack hback⟩,
    f, hfollowed, hkind⟩

/-- A chain that ends is resolved to its end exactly if it has fewer than `maxHops` hops. -/
theorem resolve_eq_ok_iff_lt_maxHops (hto : LeadsIn table hops source target)
    (hend : IsTerminal table target) :
    (resolve table source = .ok target ↔ hops < maxHops) ∧
    ((∃ fault, resolve table source = .error fault ∧
      fault.message = "model mapping for " ++ source ++ " exceeds 8 hops") ↔ maxHops ≤ hops) := by
  rw [resolve_eq_of_isTerminal hto hend]
  by_cases h : hops < maxHops
  · simp [h]
  · rw [if_neg h]
    exact ⟨iff_of_false nofun h, iff_of_true ⟨_, rfl, message_tooLong source⟩ (not_lt.mp h)⟩

def ladder (names : List String) : Table :=
  names.zip names.tail

theorem resolve_eq_ok_iff_lt_maxHops_seven :
    let names := ["a", "b", "c", "d", "e", "f", "g", "h"]
    LeadsIn (ladder names) 7 "a" "h" ∧ IsTerminal (ladder names) "h" ∧
      resolve (ladder names) "a" = .ok "h" := by
  intro names
  have hchain : List.IsChain (Leads (ladder names)) names := by decide
  have hto : LeadsIn (ladder names) 7 "a" "h" := leadsIn_of_isChain hchain
  have hend : IsTerminal (ladder names) "h" := by decide
  exact ⟨hto, hend, (resolve_eq_ok_iff_lt_maxHops hto hend).1.mpr (by decide)⟩

theorem eight_hops_refused :
    let names := ["a", "b", "c", "d", "e", "f", "g", "h", "i"]
    LeadsIn (ladder names) 8 "a" "i" ∧ IsTerminal (ladder names) "i" ∧ 8 ≤ maxHops ∧
      resolve (ladder names) "a" = .error (.tooLong "a") := by
  intro names
  have hchain : List.IsChain (Leads (ladder names)) names := by decide
  exact ⟨leadsIn_of_isChain hchain, by decide, by decide, by decide⟩

end Alias

end ModelGateway
