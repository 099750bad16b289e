import AerospikePhp.Connections
import Mathlib.Tactic

/-!
# The handles stay safe

Nobody holds a destroyed handle, the persistent list keeps its handles open,
and a client that does not share its handle is alone with it.  The three flags
of a client say little about this, so the invariant is stated about the handles
that clients, session and persistent list hold.
-/

namespace AerospikePhp

open Transition

namespace Process

def registered (p : Process) : List ℕ :=
  p.persistentList.map fun entry => entry.2.asClient

/-- The handle has been created and not destroyed. -/
def Live (p : Process) (handle : ℕ) : Prop :=
  handle < p.configs.length ∧ handle ∉ p.destroyed

/-- No object holds the handle, and the persistent list neither. -/
def Unheld (p : Process) (handle : ℕ) : Prop :=
  handle ∉ p.registered ∧
    ∀ id client, p.objects id = some client → client.asClient ≠ some handle

/-- Some object holds the handle for itself. -/
def OwnedBy (p : Process) (id handle : ℕ) : Prop :=
  ∃ client, p.objects id = some client ∧ client.isPersistent = false ∧
    client.asClient = some handle

structure Inv (p : Process) : Prop where
  closed_created : ∀ handle ∈ p.closed, handle < p.configs.length
  destroyed_created : ∀ handle ∈ p.destroyed, handle < p.configs.length
  destroyed_once : p.destroyed.Nodup
  registered_live : ∀ handle ∈ p.registered, p.Live handle
  registered_open : ∀ handle ∈ p.registered, handle ∉ p.closed
  registered_once : p.registered.Nodup
  connected : ∀ entry ∈ p.persistentList, entry.2.isConnected = true
  object_live : ∀ id client handle, p.objects id = some client →
    client.asClient = some handle → p.Live handle
  valid_held : ∀ id client, p.objects id = some client →
    client.isValid = true → client.asClient.isSome
  owned_valid : ∀ id client, p.objects id = some client →
    client.isPersistent = false → client.asClient.isSome → client.isValid = true
  owned_alone : ∀ id handle, p.OwnedBy id handle →
    handle ∉ p.registered ∧ ∀ id' client, p.objects id' = some client →
      client.asClient = some handle → id' = id
  session_registered : ∀ client, p.session = some client →
    ∃ handle ∈ p.registered, client.asClient = some handle

/-! ## What one attempt to connect can do -/

section

variable {attempt : Attempt} {config : AsConfig} {handle : ℕ}
variable {client : AerospikeClient} {p : Process}

theorem mem_of_getPersistentHost {hostKey : String} {host : PersistentHost}
    (hhost : p.getPersistentHost hostKey = some host) :
    (hostKey, host) ∈ p.persistentList := by
  obtain ⟨before, after, hlist, -⟩ := List.lookup_eq_some_iff.mp hhost
  rw [hlist]
  simp

/-- The client shares the handle of a host, is the first one of a new host, or
fails to connect. -/
theorem persistentConnect_cases
    (hconnected : ∀ entry ∈ p.persistentList, entry.2.isConnected = true) :
    (∃ host, attempt.aliased = true ∧
      p.getPersistentHost (persistentSearchString config) = some host ∧
      persistentConnect attempt config handle client p =
        ⟨true, { client with
            isPersistent := true, asClient := some host.asClient },
          ((p.destroyHandle handle).countClient
            (persistentSearchString config)).give config host.asClient⟩) ∨
    (attempt.aliased = true ∧
      p.getPersistentHost (persistentSearchString config) = none ∧
      attempt.connects = true ∧
      persistentConnect attempt config handle client p =
        ⟨true, { client with isPersistent := true },
          (p.addPersistentHost (persistentSearchString config) handle).give
            config handle⟩) ∨
    ((attempt.aliased = false ∨
        p.getPersistentHost (persistentSearchString config) = none ∧
        attempt.connects = false) ∧
      persistentConnect attempt config handle client p =
        ⟨false, { client with isPersistent := true }, p⟩) := by
  unfold persistentConnect
  by_cases haliased : attempt.aliased = false
  · exact .inr (.inr ⟨.inl haliased, if_pos haliased⟩)
  · have haliased' : attempt.aliased = true := by simpa using haliased
    simp only [if_neg haliased]
    cases hhost : p.getPersistentHost (persistentSearchString config) with
    | some host =>
        have hopen : host.isConnected = true :=
          hconnected _ (mem_of_getPersistentHost hhost)
        exact .inl ⟨host, haliased', rfl, by simp [hopen]⟩
    | none =>
        by_cases hconnects : attempt.connects = false
        · exact .inr (.inr ⟨.inr ⟨rfl, hconnects⟩, if_pos hconnects⟩)
        · exact .inr (.inl ⟨haliased', rfl, by simpa using hconnects,
            if_neg hconnects⟩)

end

/-! ## The operations keep the invariant -/

section

variable {p : Process} {handle : ℕ}

/-- The handle that `aerospike_new` returns next is held by nobody. -/
theorem Inv.unheld_next (hinv : p.Inv) : p.Unheld p.configs.length := by
  refine ⟨fun hmem => ?_, fun id client hobject hheld => ?_⟩
  · have hlive := hinv.registered_live _ hmem
    exact lt_irrefl _ hlive.1
  · have hlive := hinv.object_live id client _ hobject hheld
    exact lt_irrefl _ hlive.1

theorem Live.new {config : AsConfig} (hlive : p.Live handle) :
    (p.new config).Live handle := by
  refine ⟨?_, hlive.2⟩
  have hlt := hlive.1
  simp only [Process.new, List.length_append, List.length_singleton]
  omega

theorem Inv.live_next (hinv : p.Inv) (config : AsConfig) :
    (p.new config).Live p.configs.length := by
  refine ⟨by simp [Process.new], fun hmem => ?_⟩
  have hlt := hinv.destroyed_created _ hmem
  exact lt_irrefl _ hlt

theorem Inv.new (hinv : p.Inv) (config : AsConfig) : (p.new config).Inv where
  closed_created h hmem :=
    (hinv.closed_created h hmem).trans (by simp [Process.new])
  destroyed_created h hmem :=
    (hinv.destroyed_created h hmem).trans (by simp [Process.new])
  destroyed_once := hinv.destroyed_once
  registered_live h hmem := (hinv.registered_live h hmem).new
  registered_open := hinv.registered_open
  registered_once := hinv.registered_once
  connected := hinv.connected
  object_live id client h hobject hheld :=
    (hinv.object_live id client h hobject hheld).new
  valid_held := hinv.valid_held
  owned_valid := hinv.owned_valid
  owned_alone := hinv.owned_alone
  session_registered := hinv.session_registered

theorem Inv.destroyHandle (hinv : p.Inv) (hlive : p.Live handle)
    (hunheld : p.Unheld handle) : (p.destroyHandle handle).Inv where
  closed_created := hinv.closed_created
  destroyed_created h hmem := by
    rcases List.mem_cons.mp hmem with rfl | hmem
    · exact hlive.1
    · exact hinv.destroyed_created h hmem
  destroyed_once := List.nodup_cons.mpr ⟨hlive.2, hinv.destroyed_once⟩
  registered_live h hmem := by
    have hold := hinv.registered_live h hmem
    refine ⟨hold.1, fun hdestroyed => ?_⟩
    rcases List.mem_cons.mp hdestroyed with rfl | hdestroyed
    · exact hunheld.1 hmem
    · exact hold.2 hdestroyed
  registered_open := hinv.registered_open
  registered_once := hinv.registered_once
  connected := hinv.connected
  object_live id client h hobject hheld := by
    have hold := hinv.object_live id client h hobject hheld
    refine ⟨hold.1, fun hdestroyed => ?_⟩
    rcases List.mem_cons.mp hdestroyed with rfl | hdestroyed
    · exact hunheld.2 id client hobject hheld
    · exact hold.2 hdestroyed
  valid_held := hinv.valid_held
  owned_valid := hinv.owned_valid
  owned_alone := hinv.owned_alone
  session_registered := hinv.session_registered

theorem Inv.closeHandle (hinv : p.Inv) (hcreated : handle < p.configs.length)
    (hshared : handle ∉ p.registered) : (p.closeHandle handle).Inv where
  closed_created h hmem := by
    rcases List.mem_cons.mp hmem with rfl | hmem
    · exact hcreated
    · exact hinv.closed_created h hmem
  destroyed_created := hinv.destroyed_created
  destroyed_once := hinv.destroyed_once
  registered_live := hinv.registered_live
  registered_open h hmem hclosed := by
    rcases List.mem_cons.mp hclosed with rfl | hclosed
    · exact hshared hmem
    · exact hinv.registered_open h hmem hclosed
  registered_once := hinv.registered_once
  connected := hinv.connected
  object_live := hinv.object_live
  valid_held := hinv.valid_held
  owned_valid := hinv.owned_valid
  owned_alone := hinv.owned_alone
  session_registered := hinv.session_registered

theorem Inv.give (hinv : p.Inv) (config : AsConfig) :
    (p.give config handle).Inv := ⟨hinv.1, hinv.2, hinv.3, hinv.4, hinv.5,
  hinv.6, hinv.7, hinv.8, hinv.9, hinv.10, hinv.11, hinv.12⟩

@[simp] theorem registered_countClient (p : Process) (hostKey : String) :
    (p.countClient hostKey).registered = p.registered := by
  unfold registered countClient
  rw [List.map_map]
  refine List.map_congr_left fun entry _ => ?_
  simp only [Function.comp_apply]
  split <;> rfl

theorem Inv.countClient (hinv : p.Inv) (hostKey : String) :
    (p.countClient hostKey).Inv where
  closed_created := hinv.closed_created
  destroyed_created := hinv.destroyed_created
  destroyed_once := hinv.destroyed_once
  registered_live h hmem := by
    rw [registered_countClient] at hmem
    exact hinv.registered_live h hmem
  registered_open h hmem := by
    rw [registered_countClient] at hmem
    exact hinv.registered_open h hmem
  registered_once := by
    rw [registered_countClient]
    exact hinv.registered_once
  connected entry hmem := by
    obtain ⟨old, hold, rfl⟩ := List.mem_map.mp hmem
    split
    · rfl
    · exact hinv.connected old hold
  object_live := hinv.object_live
  valid_held := hinv.valid_held
  owned_valid := hinv.owned_valid
  owned_alone id h howned := by
    rw [registered_countClient]
    exact hinv.owned_alone id h howned
  session_registered client hsession := by
    rw [registered_countClient]
    exact hinv.session_registered client hsession

theorem registered_addPersistentHost (p : Process) (hostKey : String)
    (handle : ℕ) :
    (p.addPersistentHost hostKey handle).registered =
      p.registered ++ [handle] := by
  simp [registered, addPersistentHost]

theorem Inv.addPersistentHost (hinv : p.Inv) (hostKey : String)
    (hlive : p.Live handle) (hopen : handle ∉ p.closed)
    (hunheld : p.Unheld handle) : (p.addPersistentHost hostKey handle).Inv where
  closed_created := hinv.closed_created
  destroyed_created := hinv.destroyed_created
  destroyed_once := hinv.destroyed_once
  registered_live h hmem := by
    rw [registered_addPersistentHost] at hmem
    rcases List.mem_append.mp hmem with hmem | hmem
    · exact hinv.registered_live h hmem
    · obtain rfl := List.mem_singleton.mp hmem
      exact hlive
  registered_open h hmem := by
    rw [registered_addPersistentHost] at hmem
    rcases List.mem_append.mp hmem with hmem | hmem
    · exact hinv.registered_open h hmem
    · obtain rfl := List.mem_singleton.mp hmem
      exact hopen
  registered_once := by
    rw [registered_addPersistentHost]
    exact List.nodup_append.mpr ⟨hinv.registered_once, by simp, by
      rintro h hmem _ hlast rfl
      obtain rfl := List.mem_singleton.mp hlast
      exact hunheld.1 hmem⟩
  connected entry hmem := by
    rcases List.mem_append.mp hmem with hmem | hmem
    · exact hinv.connected entry hmem
    · obtain rfl := List.mem_singleton.mp hmem
      rfl
  object_live := hinv.object_live
  valid_held := hinv.valid_held
  owned_valid := hinv.owned_valid
  owned_alone id h howned := by
    have hold := hinv.owned_alone id h howned
    refine ⟨?_, hold.2⟩
    rw [registered_addPersistentHost, List.mem_append, List.mem_singleton]
    rintro (hmem | rfl)
    · exact hold.1 hmem
    · obtain ⟨client, hobject, -, hheld⟩ := howned
      exact hunheld.2 id client hobject hheld
  session_registered client hsession := by
    obtain ⟨h, hmem, hheld⟩ := hinv.session_registered client hsession
    refine ⟨h, ?_, hheld⟩
    rw [registered_addPersistentHost]
    exact List.mem_append_left _ hmem

/-! ## What an object may become -/

/-- The object `id` may become this client. -/
structure Admits (p : Process) (id : ℕ) (client : AerospikeClient) : Prop where
  live : ∀ handle, client.asClient = some handle → p.Live handle
  valid_held : client.isValid = true → client.asClient.isSome
  owned_valid : client.isPersistent = false → client.asClient.isSome →
    client.isValid = true
  others : ∀ handle, client.asClient = some handle →
    ∀ id', id' ≠ id → ¬ p.OwnedBy id' handle
  alone : client.isPersistent = false → ∀ handle,
    client.asClient = some handle → handle ∉ p.registered ∧
      ∀ id' other, id' ≠ id → p.objects id' = some other →
        other.asClient ≠ some handle

theorem objects_setObject (p : Process) (id : ℕ)
    (object : Option AerospikeClient) (id' : ℕ) :
    (p.setObject id object).objects id' =
      if id' = id then object else p.objects id' :=
  Function.update_apply ..

/-- An object of the new process is the new client or an old object. -/
theorem setObject_some_cases {id id' : ℕ} {client other : AerospikeClient}
    (hobject : (p.setObject id (some client)).objects id' = some other) :
    (id' = id ∧ other = client) ∨ (id' ≠ id ∧ p.objects id' = some other) := by
  rw [objects_setObject] at hobject
  by_cases hid : id' = id
  · rw [if_pos hid] at hobject
    exact .inl ⟨hid, (Option.some.inj hobject).symm⟩
  · rw [if_neg hid] at hobject
    exact .inr ⟨hid, hobject⟩

theorem Inv.setObject_some (hinv : p.Inv) {id : ℕ} {client : AerospikeClient}
    (hadmits : p.Admits id client) : (p.setObject id (some client)).Inv where
  closed_created := hinv.closed_created
  destroyed_created := hinv.destroyed_created
  destroyed_once := hinv.destroyed_once
  registered_live := hinv.registered_live
  registered_open := hinv.registered_open
  registered_once := hinv.registered_once
  connected := hinv.connected
  object_live id' other h hobject hheld := by
    rcases setObject_some_cases hobject with ⟨-, rfl⟩ | ⟨-, hold⟩
    · exact hadmits.live h hheld
    · exact hinv.object_live id' other h hold hheld
  valid_held id' other hobject := by
    rcases setObject_some_cases hobject with ⟨-, rfl⟩ | ⟨-, hold⟩
    · exact hadmits.valid_held
    · exact hinv.valid_held id' other hold
  owned_valid id' other hobject := by
    rcases setObject_some_cases hobject with ⟨-, rfl⟩ | ⟨-, hold⟩
    · exact hadmits.owned_valid
    · exact hinv.owned_valid id' other hold
  owned_alone id' h := by
    rintro ⟨owner, howner, hpersistent, hheld⟩
    rcases setObject_some_cases howner with ⟨rfl, rfl⟩ | ⟨hne, hold⟩
    · obtain ⟨hshared, hothers⟩ := hadmits.alone hpersistent h hheld
      refine ⟨hshared, fun id'' other hobject hsame => ?_⟩
      rcases setObject_some_cases hobject with ⟨hid, -⟩ | ⟨hne, hold⟩
      · exact hid
      · exact absurd hsame (hothers id'' other hne hold)
    · have howned : p.OwnedBy id' h := ⟨owner, hold, hpersistent, hheld⟩
      obtain ⟨hshared, hothers⟩ := hinv.owned_alone id' h howned
      refine ⟨hshared, fun id'' other hobject hsame => ?_⟩
      rcases setObject_some_cases hobject with ⟨rfl, rfl⟩ | ⟨-, hold'⟩
      · exact absurd howned (hadmits.others h hsame id' hne)
      · exact hothers id'' other hold' hsame
  session_registered := hinv.session_registered

theorem setObject_none_object {id id' : ℕ} {other : AerospikeClient}
    (hobject : (p.setObject id none).objects id' = some other) :
    p.objects id' = some other := by
  rw [objects_setObject] at hobject
  split at hobject
  · simp at hobject
  · exact hobject

theorem Inv.setObject_none (hinv : p.Inv) (id : ℕ) :
    (p.setObject id none).Inv where
  closed_created := hinv.closed_created
  destroyed_created := hinv.destroyed_created
  destroyed_once := hinv.destroyed_once
  registered_live := hinv.registered_live
  registered_open := hinv.registered_open
  registered_once := hinv.registered_once
  connected := hinv.connected
  object_live id' other h hobject :=
    hinv.object_live id' other h (setObject_none_object hobject)
  valid_held id' other hobject :=
    hinv.valid_held id' other (setObject_none_object hobject)
  owned_valid id' other hobject :=
    hinv.owned_valid id' other (setObject_none_object hobject)
  owned_alone id' h := by
    rintro ⟨owner, howner, howned⟩
    obtain ⟨hshared, hothers⟩ := hinv.owned_alone id' h
      ⟨owner, setObject_none_object howner, howned⟩
    exact ⟨hshared, fun id'' other hobject =>
      hothers id'' other (setObject_none_object hobject)⟩
  session_registered := hinv.session_registered

/-- A valid client with a handle that nobody holds. -/
theorem admits_unheld {id : ℕ} {client : AerospikeClient}
    (hlive : p.Live handle) (hunheld : p.Unheld handle)
    (hvalid : client.isValid = true) (hheld : client.asClient = some handle) :
    p.Admits id client where
  live h hsame := by
    obtain rfl := Option.some.inj (hheld.symm.trans hsame)
    exact hlive
  valid_held _ := by simp [hheld]
  owned_valid _ _ := hvalid
  others h hsame id' _ howned := by
    obtain rfl := Option.some.inj (hheld.symm.trans hsame)
    obtain ⟨owner, howner, -, hheld'⟩ := howned
    exact hunheld.2 id' owner howner hheld'
  alone _ h hsame := by
    obtain rfl := Option.some.inj (hheld.symm.trans hsame)
    exact ⟨hunheld.1, fun id' other _ => hunheld.2 id' other⟩

/-- A client that shares the handle of a host. -/
theorem admits_shared (hinv : p.Inv) {id : ℕ} {client : AerospikeClient}
    (hmem : handle ∈ p.registered) (hshares : client.isPersistent = true)
    (hheld : client.asClient = some handle) : p.Admits id client where
  live h hsame := by
    obtain rfl := Option.some.inj (hheld.symm.trans hsame)
    exact hinv.registered_live _ hmem
  valid_held _ := by simp [hheld]
  owned_valid hpersistent := by simp [hshares] at hpersistent
  others h hsame id' _ howned := by
    obtain rfl := Option.some.inj (hheld.symm.trans hsame)
    exact (hinv.owned_alone id' _ howned).1 hmem
  alone hpersistent := by simp [hshares] at hpersistent

/-- A client whose flags change, or whose handle goes. -/
theorem admits_flags (hinv : p.Inv) {id : ℕ} {old client : AerospikeClient}
    (hobject : p.objects id = some old)
    (hheld : ∀ h, client.asClient = some h → old.asClient = some h)
    (hvalid : client.isValid = true →
      old.isValid = true ∧ client.asClient = old.asClient)
    (hpersistent : client.isPersistent = false →
      old.isPersistent = false ∧ client.isValid = old.isValid) :
    p.Admits id client where
  live h hsame := hinv.object_live id old h hobject (hheld h hsame)
  valid_held hv := by
    obtain ⟨hold, hsame⟩ := hvalid hv
    rw [hsame]
    exact hinv.valid_held id old hobject hold
  owned_valid hp hsome := by
    obtain ⟨hold, hsame⟩ := hpersistent hp
    obtain ⟨h, hh⟩ := Option.isSome_iff_exists.mp hsome
    rw [hsame]
    exact hinv.owned_valid id old hobject hold (by simp [hheld h hh])
  others h hsame id' hne howned :=
    hne ((hinv.owned_alone id' h howned).2 id old hobject (hheld h hsame)).symm
  alone hp h hsame := by
    obtain ⟨hold, -⟩ := hpersistent hp
    obtain ⟨hshared, hothers⟩ := hinv.owned_alone id h
      ⟨old, hobject, hold, hheld h hsame⟩
    exact ⟨hshared, fun id' other hne hobject' hheld' =>
      hne (hothers id' other hobject' hheld')⟩

end

/-! ## The events keep the invariant -/

section

variable {p : Process}

/-- After an attempt to connect with a new handle, the process keeps the
invariant, no object has changed, and the client holds either the handle of a
host or, without a connection, the new handle. -/
theorem persistentConnect_inv (hinv : p.Inv) (attempt : Attempt)
    (config : AsConfig) (client : AerospikeClient)
    (hclient : client.asClient = some p.configs.length) :
    ∃ connected, persistentConnect attempt config p.configs.length client
        (p.new config) = connected ∧
      connected.process.Inv ∧ connected.client.isPersistent = true ∧
      connected.client.isValid = client.isValid ∧
      connected.process.objects = p.objects ∧
      connected.process.session = p.session ∧
      ((connected.ok = true ∧ ∃ handle ∈ connected.process.registered,
          connected.client.asClient = some handle) ∨
        (connected.ok = false ∧ connected.process = p.new config ∧
          connected.client.asClient = some p.configs.length)) := by
  have hnew := hinv.new config
  have hlive := hinv.live_next config
  have hunheld : (p.new config).Unheld p.configs.length := hinv.unheld_next
  rcases @persistentConnect_cases attempt config p.configs.length client
      (p.new config) hnew.connected with
    ⟨host, -, hhost, hrun⟩ | ⟨-, -, -, hrun⟩ | ⟨-, hrun⟩
  · have hdestroyed := hnew.destroyHandle hlive hunheld
    have hcounted := hdestroyed.countClient (persistentSearchString config)
    refine ⟨_, hrun, hcounted.give config, rfl, rfl, rfl, rfl,
      .inl ⟨rfl, _, ?_, rfl⟩⟩
    have hmem : host.asClient ∈ (p.new config).registered :=
      List.mem_map.mpr ⟨_, mem_of_getPersistentHost hhost, rfl⟩
    rw [← registered_countClient _ (persistentSearchString config)] at hmem
    exact hmem
  · have hopen : p.configs.length ∉ (p.new config).closed := fun hmem =>
      lt_irrefl _ (hinv.closed_created _ hmem)
    have hadded := hnew.addPersistentHost (persistentSearchString config) hlive
      hopen hunheld
    refine ⟨_, hrun, hadded.give config, rfl, rfl, rfl, rfl,
      .inl ⟨rfl, p.configs.length, ?_, hclient⟩⟩
    show p.configs.length ∈ ((p.new config).addPersistentHost _ _).registered
    rw [registered_addPersistentHost]
    simp
  · exact ⟨_, hrun, hnew, rfl, rfl, rfl, rfl, .inr ⟨rfl, rfl, hclient⟩⟩

theorem Inv.create (hinv : p.Inv) (id : ℕ) : (p.create id).Inv := by
  unfold Process.create
  cases p.objects id with
  | some _ => exact hinv
  | none =>
      refine hinv.setObject_some ⟨?_, ?_, ?_, ?_, ?_⟩ <;> simp

theorem Inv.connectObject (hinv : p.Inv) (id : ℕ) (attempt : Attempt)
    (config : AsConfig) (client : AerospikeClient) :
    (p.connectObject id attempt config client).Inv := by
  unfold Process.connectObject
  by_cases hpersistent : attempt.persistent = true
  · obtain ⟨connected, hrun, hafter, hshares, hvalid, hobjects, -, hheld⟩ :=
      persistentConnect_inv hinv attempt config
        { client with asClient := some p.configs.length, isValid := true } rfl
    simp only [hpersistent, if_true, hrun]
    refine hafter.setObject_some ?_
    rcases hheld with ⟨hok, handle, hmem, hheld⟩ | ⟨hfailed, hprocess, hheld⟩
    · simp only [hok]
      exact admits_shared hafter hmem hshares hheld
    · simp only [hfailed]
      rw [hprocess]
      exact admits_unheld (hinv.live_next config) hinv.unheld_next hvalid hheld
  · have hadmits : ∀ client : AerospikeClient, client.isValid = true →
        client.asClient = some p.configs.length →
        (p.new config).Admits id client := fun client hvalid hheld =>
      admits_unheld (hinv.live_next config) hinv.unheld_next hvalid hheld
    simp only [hpersistent, nonPersistentConnect]
    cases attempt.connects with
    | true => exact (hinv.new config).setObject_some (hadmits _ rfl rfl)
    | false => exact (hinv.new config).setObject_some (hadmits _ rfl rfl)

theorem Inv.construct (hinv : p.Inv) (id : ℕ) (attempt : Attempt) :
    (p.construct id attempt).Inv := by
  unfold Process.construct
  cases hobject : p.objects id with
  | none => exact hinv
  | some client =>
      cases attempt.config with
      | none =>
          refine hinv.setObject_some (admits_flags hinv hobject ?_ ?_ ?_) <;>
            simp
      | some config =>
          by_cases hcreated : attempt.created = false
          · simp only [if_pos hcreated]
            refine hinv.setObject_some (admits_flags hinv hobject ?_ ?_ ?_) <;>
              simp
          · simp only [if_neg hcreated]
            exact hinv.connectObject id attempt config _

/-- An object that does not share its handle owns it. -/
theorem Inv.owned (hinv : p.Inv) {id handle : ℕ} {client : AerospikeClient}
    (hobject : p.objects id = some client)
    (hpersistent : client.isPersistent = false)
    (hheld : client.asClient = some handle) :
    p.Live handle ∧ handle ∉ p.registered ∧
      ∀ id' other, p.objects id' = some other →
        other.asClient = some handle → id' = id :=
  ⟨hinv.object_live id client handle hobject hheld,
    hinv.owned_alone id handle ⟨client, hobject, hpersistent, hheld⟩⟩

theorem Inv.close (hinv : p.Inv) (id : ℕ) : (p.close id).Inv := by
  unfold Process.close
  cases hobject : p.objects id with
  | none => exact hinv
  | some client =>
      cases hheld : client.asClient with
      | none => simpa [hheld] using hinv
      | some handle =>
          simp only [hheld]
          by_cases hpersistent : client.isPersistent = true
          · simp only [hpersistent, if_true]
            refine hinv.setObject_some (admits_flags hinv hobject ?_ ?_ ?_) <;>
              simp [hheld, hpersistent]
          · have hfalse : client.isPersistent = false := by
              simpa using hpersistent
            obtain ⟨hlive, hshared, -⟩ := hinv.owned hobject hfalse hheld
            have hclosed := hinv.closeHandle hlive.1 hshared
            simp only [hfalse]
            refine hclosed.setObject_some
              (admits_flags hclosed hobject ?_ ?_ ?_) <;>
              simp [hheld, hfalse]

theorem Inv.reconnect (hinv : p.Inv) (id : ℕ) (connects : Bool) :
    (p.reconnect id connects).Inv := by
  unfold Process.reconnect
  cases hobject : p.objects id with
  | none => exact hinv
  | some client =>
      by_cases hrefused : client.asClient.isNone = true ∨
          client.isConnected = true ∨ connects = false
      · simp only [if_pos hrefused]
        exact hinv
      · simp only [if_neg hrefused]
        refine hinv.setObject_some (admits_flags hinv hobject ?_ ?_ ?_) <;>
          simp

theorem Inv.destruct (hinv : p.Inv) (id : ℕ) : (p.destruct id).Inv := by
  unfold Process.destruct
  split
  · next handle valid connected hobject =>
      obtain ⟨hlive, hshared, -⟩ := hinv.owned hobject rfl rfl
      exact hinv.closeHandle hlive.1 hshared
  · exact hinv

/-- The handle of an object that owned it is held by nobody after it has been
freed. -/
theorem Inv.free (hinv : p.Inv) (id : ℕ) : (p.free id).Inv := by
  unfold Process.free
  split
  · next handle connected hobject =>
      obtain ⟨hlive, hshared, hothers⟩ := hinv.owned hobject rfl rfl
      have hgone := (hinv.closeHandle hlive.1 hshared).setObject_none id
      have hunheld : ((p.closeHandle handle).setObject id none).Unheld handle := by
        refine ⟨hshared, fun id' other hobject' hheld => ?_⟩
        have hid := hothers id' other (setObject_none_object hobject') hheld
        subst hid
        simp [objects_setObject] at hobject'
      exact hgone.destroyHandle hlive hunheld
  · exact hinv.setObject_none id

theorem Inv.setSession (hinv : p.Inv) {session : Option AerospikeClient}
    (hsession : ∀ client, session = some client →
      ∃ handle ∈ p.registered, client.asClient = some handle) :
    ({ p with session := session } : Process).Inv :=
  ⟨hinv.1, hinv.2, hinv.3, hinv.4, hinv.5, hinv.6, hinv.7, hinv.8, hinv.9,
    hinv.10, hinv.11, hsession⟩

/-- The handle that a failed session destroys is its own: a host on the list is
connected, so sharing its handle never fails. -/
theorem Inv.openSession (hinv : p.Inv) (attempt : Attempt) :
    (p.openSession attempt).Inv := by
  unfold Process.openSession
  cases attempt.config with
  | none => exact hinv
  | some config =>
      by_cases hcreated : attempt.created = false
      · simp only [if_pos hcreated]
        exact hinv
      · obtain ⟨connected, hrun, hafter, -, -, -, -, hheld⟩ :=
          persistentConnect_inv hinv attempt config
            ⟨some p.configs.length, true, true, false⟩ rfl
        simp only [if_neg hcreated, hrun]
        rcases hheld with ⟨hok, handle, hmem, hheld⟩ |
          ⟨hfailed, hprocess, hheld⟩
        · simp only [hok, if_true]
          exact hafter.setSession fun client hsession =>
            ⟨handle, hmem, Option.some.inj hsession ▸ hheld⟩
        · simp only [hfailed, hheld, hprocess]
          exact (hinv.new config).destroyHandle (hinv.live_next config)
            hinv.unheld_next

theorem Inv.step (hinv : p.Inv) (event : Event) : (p.step event).Inv := by
  cases event with
  | create id => exact hinv.create id
  | construct id attempt => exact hinv.construct id attempt
  | close id => exact hinv.close id
  | reconnect id connects => exact hinv.reconnect id connects
  | destruct id => exact hinv.destruct id
  | free id => exact hinv.free id
  | openSession attempt => exact hinv.openSession attempt
  | closeSession => exact hinv.setSession (by simp)

theorem inv_start : start.Inv := by
  refine ⟨?_, ?_, ?_, ?_, ?_, ?_, ?_, ?_, ?_, ?_, ?_, ?_⟩ <;>
    simp [start, registered, OwnedBy]

theorem inv_after (events : List Event) : (after events).Inv :=
  @Machine.invariant_runFrom Process Event processMachine Inv
    (fun _ event hinv => hinv.step event) start inv_start events

end

/-! ## Safety -/

/-- What the invariant comes to for the users of the handles. -/
structure Safe (p : Process) : Prop where
  valid_live : ∀ id client, p.objects id = some client →
    client.isValid = true →
    ∃ handle, client.asClient = some handle ∧ p.Live handle
  session_live : ∀ client, p.session = some client →
    ∃ handle, client.asClient = some handle ∧ p.Live handle
  registered_untouched : ∀ handle ∈ p.registered,
    handle ∉ p.closed ∧ handle ∉ p.destroyed
  destroyed_once : p.destroyed.Nodup
  owned_alone : ∀ id handle, p.OwnedBy id handle →
    handle ∉ p.registered ∧
      (∀ client, p.session = some client → client.asClient ≠ some handle) ∧
      ∀ id' client, p.objects id' = some client →
        client.asClient = some handle → id' = id
  connected : ∀ entry ∈ p.persistentList, entry.2.isConnected = true
  shutdown_once : p.shutdown.destroyed.Nodup

theorem destroyed_foldl (entries : List (String × PersistentHost))
    (p : Process) :
    (entries.foldl (fun p entry =>
        (p.closeHandle entry.2.asClient).destroyHandle entry.2.asClient)
      p).destroyed =
      (entries.map fun entry => entry.2.asClient).reverse ++ p.destroyed := by
  induction entries generalizing p with
  | nil => rfl
  | cons entry entries ih =>
      rw [List.foldl_cons, ih]
      simp [destroyHandle, closeHandle]

theorem destroyed_shutdown (p : Process) :
    p.shutdown.destroyed = p.registered.reverse ++ p.destroyed :=
  destroyed_foldl p.persistentList { p with persistentList := [] }

theorem Inv.safe {p : Process} (hinv : p.Inv) : p.Safe where
  valid_live id client hobject hvalid := by
    have hheld := hinv.valid_held id client hobject hvalid
    obtain ⟨handle, hhandle⟩ := Option.isSome_iff_exists.mp hheld
    exact ⟨handle, hhandle, hinv.object_live id client handle hobject hhandle⟩
  session_live client hsession := by
    obtain ⟨handle, hmem, hheld⟩ := hinv.session_registered client hsession
    exact ⟨handle, hheld, hinv.registered_live handle hmem⟩
  registered_untouched handle hmem :=
    ⟨hinv.registered_open handle hmem, (hinv.registered_live handle hmem).2⟩
  destroyed_once := hinv.destroyed_once
  owned_alone id handle howned := by
    obtain ⟨hshared, hothers⟩ := hinv.owned_alone id handle howned
    refine ⟨hshared, fun client hsession hheld => ?_, hothers⟩
    obtain ⟨handle', hmem, hheld'⟩ := hinv.session_registered client hsession
    obtain rfl := Option.some.inj (hheld.symm.trans hheld')
    exact hshared hmem
  connected := hinv.connected
  shutdown_once := by
    rw [destroyed_shutdown]
    refine List.nodup_append.mpr
      ⟨List.nodup_reverse.mpr hinv.registered_once, hinv.destroyed_once, ?_⟩
    rintro handle hmem _ hdestroyed rfl
    exact (hinv.registered_live handle (List.mem_reverse.mp hmem)).2 hdestroyed

/-- The handles are safe after any events. -/
theorem after_safe (events : List Event) : (after events).Safe :=
  (inv_after events).safe

end Process

end AerospikePhp
