import AerospikePhp.HandleSafety
import Mathlib.Tactic

/-!
# Which handles are lost

A handle is lost when it is alive although neither the persistent list nor an
object that would free it holds it.  A lost handle stays lost, and only the
constructor loses handles: that of the object it is called on, when the object
owned one, and the new one, when a persistent client does not connect.
-/

namespace AerospikePhp

open Transition

namespace Process

/-- Nobody will ever destroy the handle. -/
def Lost (p : Process) (handle : ℕ) : Prop :=
  p.Live handle ∧ handle ∉ p.registered ∧ ∀ id, ¬ p.OwnedBy id handle

/-- `persistent_connect` does not give the client a handle of the list. -/
def FailsToShare (p : Process) (attempt : Attempt) (config : AsConfig) : Prop :=
  attempt.aliased = false ∨
    p.getPersistentHost (persistentSearchString config) = none ∧
      attempt.connects = false

/-- The event loses a handle: `__construct` on an object that owns one, or
`__construct` of a persistent client that gets a new handle and no connection. -/
def LosesHandle (p : Process) : Event → Prop
  | .construct id attempt =>
      (∃ handle, p.OwnedBy id handle) ∨
        p.objects id ≠ none ∧ attempt.created = true ∧
          attempt.persistent = true ∧
          ∃ config, attempt.config = some config ∧ p.FailsToShare attempt config
  | _ => False

/-- Every object has been freed and the session closed. -/
def Ended (p : Process) : Prop :=
  (∀ id, p.objects id = none) ∧ p.session = none

/-- The handles that are alive are those of the persistent list. -/
def Accounted (p : Process) : Prop :=
  ∀ handle, p.Live handle ↔ handle ∈ p.registered

/-! ## The operations -/

section

variable {p : Process} {handle : ℕ}

theorem live_destroyHandle {destroyed : ℕ} :
    (p.destroyHandle destroyed).Live handle ↔
      handle ≠ destroyed ∧ p.Live handle := by
  simp [Live, destroyHandle]
  tauto

theorem live_new_of_ne {config : AsConfig} (hne : handle ≠ p.configs.length) :
    (p.new config).Live handle ↔ p.Live handle := by
  have hlt : handle < p.configs.length + 1 ↔ handle < p.configs.length := by
    omega
  simp [Live, Process.new, hlt]

theorem ownedBy_setObject {id id' : ℕ} {object : Option AerospikeClient} :
    (p.setObject id object).OwnedBy id' handle ↔
      if id' = id then
        ∃ client, object = some client ∧ client.isPersistent = false ∧
          client.asClient = some handle
      else p.OwnedBy id' handle := by
  unfold OwnedBy
  simp only [objects_setObject]
  split <;> simp

theorem ownedBy_of_object {id : ℕ} {client : AerospikeClient}
    (hobject : p.objects id = some client) :
    p.OwnedBy id handle ↔
      client.isPersistent = false ∧ client.asClient = some handle := by
  simp [OwnedBy, hobject]

theorem not_ownedBy_of_none {id : ℕ} (hobject : p.objects id = none) :
    ¬ p.OwnedBy id handle := by
  simp [OwnedBy, hobject]

/-- Nothing is lost by an operation that leaves alive, registered and owned
what was. -/
theorem lost_congr {q : Process} (hlive : q.Live handle ↔ p.Live handle)
    (hregistered : handle ∈ q.registered ↔ handle ∈ p.registered)
    (howned : ∀ id, q.OwnedBy id handle ↔ p.OwnedBy id handle) :
    q.Lost handle ↔ p.Lost handle := by
  unfold Lost
  simp only [hlive, hregistered, howned]

theorem lost_setObject {id : ℕ} {object : Option AerospikeClient}
    (howned : (∃ client, object = some client ∧ client.isPersistent = false ∧
      client.asClient = some handle) ↔ p.OwnedBy id handle) :
    (p.setObject id object).Lost handle ↔ p.Lost handle := by
  refine lost_congr Iff.rfl Iff.rfl fun id' => ?_
  rw [ownedBy_setObject]
  split
  · next hid => rw [hid, howned]
  · exact Iff.rfl

end

/-! ## What an event does to the handles that exist -/

section

variable {p : Process} {handle : ℕ}

theorem lost_create (id : ℕ) : (p.create id).Lost handle ↔ p.Lost handle := by
  unfold Process.create
  cases hobject : p.objects id with
  | some _ => exact Iff.rfl
  | none =>
      refine lost_setObject ?_
      simp [OwnedBy, hobject]

theorem lost_close (id : ℕ) : (p.close id).Lost handle ↔ p.Lost handle := by
  unfold Process.close
  cases hobject : p.objects id with
  | none => exact Iff.rfl
  | some client =>
      obtain ⟨asClient, isValid, isPersistent, isConnected⟩ := client
      cases asClient with
      | none => exact Iff.rfl
      | some held =>
          have hset : ∀ q : Process, q.objects = p.objects →
              ((q.setObject id
                (some ⟨some held, isValid, isPersistent, false⟩)).Lost handle ↔
                q.Lost handle) := by
            intro q hsame
            refine lost_setObject ?_
            rw [ownedBy_of_object (hsame ▸ hobject)]
            simp
          cases isPersistent with
          | true => exact hset p rfl
          | false => exact hset (p.closeHandle held) rfl

theorem lost_reconnect (id : ℕ) (connects : Bool) :
    (p.reconnect id connects).Lost handle ↔ p.Lost handle := by
  unfold Process.reconnect
  cases hobject : p.objects id with
  | none => exact Iff.rfl
  | some client =>
      simp only
      split
      · exact Iff.rfl
      · refine lost_setObject ?_
        rw [ownedBy_of_object hobject]
        simp

theorem lost_destruct (id : ℕ) :
    (p.destruct id).Lost handle ↔ p.Lost handle := by
  unfold Process.destruct
  split <;> exact Iff.rfl

/-- An object that is freed takes its handle along, if it owned one. -/
theorem lost_free (hinv : p.Inv) (id : ℕ) :
    (p.free id).Lost handle ↔ p.Lost handle := by
  unfold Process.free
  split
  · next owned connected hobject =>
      have howner : p.OwnedBy id owned := ⟨_, hobject, rfl, rfl⟩
      by_cases hsame : handle = owned
      · subst hsame
        have hnow : ¬ (((p.closeHandle handle).destroyHandle
            handle).setObject id none).Lost handle := by
          rintro ⟨hlive, -⟩
          exact hlive.2 (List.mem_cons_self ..)
        have hbefore : ¬ p.Lost handle := fun hlost => hlost.2.2 id howner
        exact iff_of_false hnow hbefore
      · refine (lost_setObject ?_).trans
          (lost_congr ?_ Iff.rfl fun _ => Iff.rfl)
        · have hother : ¬ p.OwnedBy id handle := by
            rw [ownedBy_of_object hobject]
            simpa using fun h => hsame h.symm
          exact iff_of_false (by simp) hother
        · rw [live_destroyHandle]
          exact ⟨fun h => h.2, fun h => ⟨hsame, h⟩⟩
  · next hnot =>
      refine lost_setObject ?_
      have hnotOwned : ¬ p.OwnedBy id handle := by
        rintro ⟨client, hobject, hpersistent, hheld⟩
        have hvalid := hinv.owned_valid id client hobject hpersistent
          (by simp [hheld])
        obtain ⟨asClient, isValid, isPersistent, isConnected⟩ := client
        simp only at hpersistent hheld hvalid
        subst hpersistent hheld hvalid
        exact hnot handle isConnected hobject
      exact iff_of_false (by simp) hnotOwned

/-! ## What the constructor does -/

/-- The handles of a new process in which only the object `id` has changed and
which may have dealt with the next handle. -/
structure Reconstructed (p q : Process) (id : ℕ) (client : AerospikeClient) :
    Prop where
  live : ∀ handle, handle ≠ p.configs.length → (q.Live handle ↔ p.Live handle)
  registered : ∀ handle, handle ≠ p.configs.length →
    (handle ∈ q.registered ↔ handle ∈ p.registered)
  objects : q.objects = p.objects
  shares : client.isPersistent = false → client.asClient = some p.configs.length

theorem Reconstructed.owned {q : Process} {id : ℕ} {client : AerospikeClient}
    (hq : p.Reconstructed q id client) (hne : handle ≠ p.configs.length)
    (id' : ℕ) :
    (q.setObject id (some client)).OwnedBy id' handle ↔
      id' ≠ id ∧ p.OwnedBy id' handle := by
  rw [ownedBy_setObject]
  by_cases hid : id' = id
  · rw [if_pos hid]
    refine iff_of_false ?_ fun h => h.1 hid
    rintro ⟨other, hsome, hpersistent, hheld⟩
    obtain rfl := Option.some.inj hsome
    have hfresh := hq.shares hpersistent
    exact hne (Option.some.inj (hheld.symm.trans hfresh))
  · rw [if_neg hid]
    have hsame : q.OwnedBy id' handle ↔ p.OwnedBy id' handle := by
      unfold OwnedBy
      rw [hq.objects]
    rw [hsame]
    exact ⟨fun h => ⟨hid, h⟩, fun h => h.2⟩

/-- The object `id` gives up what it owned, and nothing else is lost. -/
theorem Reconstructed.lost (hinv : p.Inv) {q : Process} {id : ℕ}
    {client : AerospikeClient} (hq : p.Reconstructed q id client)
    (hne : handle ≠ p.configs.length) :
    (q.setObject id (some client)).Lost handle ↔
      p.Lost handle ∨ p.OwnedBy id handle := by
  have hlive := hq.live handle hne
  have hregistered := hq.registered handle hne
  constructor
  · rintro ⟨hnow, hshared, howned⟩
    by_cases hid : p.OwnedBy id handle
    · exact .inr hid
    · refine .inl ⟨hlive.mp hnow, fun h => hshared (hregistered.mpr h), ?_⟩
      intro id' howned'
      refine howned id' ((hq.owned hne id').mpr ⟨?_, howned'⟩)
      rintro rfl
      exact hid howned'
  · rintro (⟨hold, hshared, howned⟩ | hid)
    · exact ⟨hlive.mpr hold, fun h => hshared (hregistered.mp h), fun id' h =>
        howned id' ((hq.owned hne id').mp h).2⟩
    · obtain ⟨client', hobject, hpersistent, hheld⟩ := hid
      obtain ⟨hold, hshared, hothers⟩ :=
        hinv.owned hobject hpersistent hheld
      refine ⟨hlive.mpr hold, fun h => hshared (hregistered.mp h), fun id' h => ?_⟩
      obtain ⟨hid, other, hobject', -, hheld'⟩ := (hq.owned hne id').mp h
      exact hid (hothers id' other hobject' hheld')

theorem reconstructed_self (p : Process) (id : ℕ) (client : AerospikeClient)
    (hshares : client.isPersistent = true) :
    p.Reconstructed p id client :=
  ⟨fun _ _ => Iff.rfl, fun _ _ => Iff.rfl, rfl, by simp [hshares]⟩

theorem reconstructed_new (config : AsConfig) (id : ℕ) (client : AerospikeClient)
    (hheld : client.asClient = some p.configs.length) :
    p.Reconstructed (p.new config) id client :=
  ⟨fun _ hne => live_new_of_ne hne, fun _ _ => Iff.rfl, rfl, fun _ => hheld⟩

/-- What the client makes of the new handle. -/
inductive NewHandle (p q : Process) (client : AerospikeClient) : Prop where
  | destroyed (h : p.configs.length ∈ q.destroyed)
  | registered (h : p.configs.length ∈ q.registered)
  | owned (hpersistent : client.isPersistent = false)
      (h : client.asClient = some p.configs.length)

/-- A new handle ends up somewhere, or the client fails to share and keeps it
as if it shared it. -/
theorem persistentConnect_reconstructs (hinv : p.Inv) (attempt : Attempt)
    (config : AsConfig) (id : ℕ) (client : AerospikeClient) :
    ∃ connected, persistentConnect attempt config p.configs.length client
        (p.new config) = connected ∧
      connected.client.isPersistent = true ∧
      (∀ other : AerospikeClient, other.isPersistent = true →
        p.Reconstructed connected.process id other) ∧
      ((p.FailsToShare attempt config ∧ connected.ok = false ∧
          connected.process = p.new config ∧
          connected.client.asClient = client.asClient) ∨
        (¬ p.FailsToShare attempt config ∧ connected.ok = true ∧
          p.NewHandle connected.process connected.client)) := by
  have hnew := hinv.new config
  rcases @persistentConnect_cases attempt config p.configs.length client
      (p.new config) hnew.connected with
    ⟨host, haliased, hhost, hrun⟩ | ⟨haliased, hhost, hconnects, hrun⟩ |
    ⟨hfails, hrun⟩
  · have hnot : ¬ p.FailsToShare attempt config := by
      rintro (hfalse | ⟨hnone, -⟩)
      · simp [haliased] at hfalse
      · have hsame : p.getPersistentHost (persistentSearchString config) =
            some host := hhost
        simp [hnone] at hsame
    refine ⟨_, hrun, rfl, fun other hother => ⟨?_, ?_, rfl, by simp [hother]⟩,
      .inr ⟨hnot, rfl, .destroyed (List.mem_cons_self ..)⟩⟩
    · intro handle hne
      have hlive : ((p.new config).destroyHandle p.configs.length).Live handle ↔
          p.Live handle := by
        rw [live_destroyHandle, live_new_of_ne hne]
        exact ⟨fun h => h.2, fun h => ⟨hne, h⟩⟩
      exact hlive
    · intro handle _
      show handle ∈ (((p.new config).destroyHandle p.configs.length).countClient
        _).registered ↔ _
      rw [registered_countClient]
      exact Iff.rfl
  · have hnot : ¬ p.FailsToShare attempt config := by
      rintro (hfalse | ⟨-, hfalse⟩)
      · simp [haliased] at hfalse
      · simp [hconnects] at hfalse
    have hregistered : ((p.new config).addPersistentHost
        (persistentSearchString config) p.configs.length).registered =
        p.registered ++ [p.configs.length] := registered_addPersistentHost ..
    refine ⟨_, hrun, rfl, fun other hother =>
        ⟨fun handle hne => live_new_of_ne hne, ?_, rfl, by simp [hother]⟩,
      .inr ⟨hnot, rfl, .registered ?_⟩⟩
    · intro handle hne
      show handle ∈ ((p.new config).addPersistentHost _ _).registered ↔ _
      rw [hregistered]
      simp [hne]
    · show _ ∈ ((p.new config).addPersistentHost _ _).registered
      rw [hregistered]
      simp
  · exact ⟨_, hrun, rfl, fun other hother =>
      ⟨fun handle hne => live_new_of_ne hne, fun _ _ => Iff.rfl, rfl,
        by simp [hother]⟩, .inl ⟨hfails, rfl, rfl, rfl⟩⟩

theorem NewHandle.not_lost {q : Process} {id : ℕ} {client : AerospikeClient}
    (hnew : p.NewHandle q client) :
    ¬ (q.setObject id (some client)).Lost p.configs.length := by
  rintro ⟨hlive, hshared, howned⟩
  cases hnew with
  | destroyed h => exact hlive.2 h
  | registered h => exact hshared h
  | owned hpersistent h =>
      refine howned id (ownedBy_setObject.mpr ?_)
      rw [if_pos rfl]
      exact ⟨client, rfl, hpersistent, h⟩

/-- The new handle of a client that fails to share is lost. -/
theorem lost_new (hinv : p.Inv) (config : AsConfig) (id : ℕ)
    {client : AerospikeClient} (hshares : client.isPersistent = true) :
    ((p.new config).setObject id (some client)).Lost p.configs.length := by
  refine ⟨hinv.live_next config, hinv.unheld_next.1, fun id' howned => ?_⟩
  rw [ownedBy_setObject] at howned
  split at howned
  · obtain ⟨other, hsome, hpersistent, -⟩ := howned
    obtain rfl := Option.some.inj hsome
    simp [hshares] at hpersistent
  · obtain ⟨other, hobject, -, hheld⟩ := howned
    exact hinv.unheld_next.2 id' other hobject hheld

theorem connectObject_lost (hinv : p.Inv) (id : ℕ) (attempt : Attempt)
    (config : AsConfig) (client : AerospikeClient) :
    (∀ handle, handle ≠ p.configs.length →
      ((p.connectObject id attempt config client).Lost handle ↔
        p.Lost handle ∨ p.OwnedBy id handle)) ∧
    ((p.connectObject id attempt config client).Lost p.configs.length ↔
      attempt.persistent = true ∧ p.FailsToShare attempt config) := by
  unfold Process.connectObject
  by_cases hpersistent : attempt.persistent = true
  · obtain ⟨connected, hrun, hshares, hreconstructed, hfate⟩ :=
      persistentConnect_reconstructs hinv attempt config id
        { client with asClient := some p.configs.length, isValid := true }
    simp only [hpersistent, if_true, hrun, true_and]
    rcases hfate with ⟨hfails, hok, hprocess, hheld⟩ | ⟨hshared, hok, hnew⟩
    · simp only [hok]
      refine ⟨fun handle hne =>
        (hreconstructed _ hshares).lost hinv hne, iff_of_true ?_ hfails⟩
      rw [hprocess]
      exact lost_new hinv config id hshares
    · simp only [hok, if_true]
      refine ⟨fun handle hne => (hreconstructed
        { connected.client with isConnected := true } hshares).lost hinv hne,
        iff_of_false ?_ hshared⟩
      refine NewHandle.not_lost ?_
      cases hnew with
      | destroyed h => exact .destroyed h
      | registered h => exact .registered h
      | owned hfalse h => simp [hshares] at hfalse
  · have howner : ∀ other : AerospikeClient, other.isPersistent = false →
        other.asClient = some p.configs.length →
        (∀ handle, handle ≠ p.configs.length →
          (((p.new config).setObject id (some other)).Lost handle ↔
            p.Lost handle ∨ p.OwnedBy id handle)) ∧
        (((p.new config).setObject id (some other)).Lost p.configs.length ↔
          attempt.persistent = true ∧ p.FailsToShare attempt config) := by
      intro other hother hheld
      refine ⟨fun handle hne =>
        (reconstructed_new config id other hheld).lost hinv hne,
        iff_of_false ?_ fun h => hpersistent h.1⟩
      exact NewHandle.not_lost (.owned hother hheld)
    simp only [hpersistent, nonPersistentConnect]
    cases attempt.connects with
    | true => simpa [hpersistent] using howner _ rfl rfl
    | false => simpa [hpersistent] using howner _ rfl rfl

theorem not_lost_next : ¬ p.Lost p.configs.length :=
  fun hlost => lt_irrefl _ hlost.1.1

/-- The handles that `__construct` loses. -/
theorem lost_construct (hinv : p.Inv) (id : ℕ) (attempt : Attempt) :
    (∀ handle, handle ≠ p.configs.length →
      ((p.construct id attempt).Lost handle ↔
        p.Lost handle ∨ p.OwnedBy id handle)) ∧
    ((p.construct id attempt).Lost p.configs.length ↔
      p.objects id ≠ none ∧ attempt.created = true ∧
        attempt.persistent = true ∧ ∃ config, attempt.config = some config ∧
          p.FailsToShare attempt config) := by
  unfold Process.construct
  cases hobject : p.objects id with
  | none =>
      have howned : ∀ handle, ¬ p.OwnedBy id handle := fun _ =>
        not_ownedBy_of_none hobject
      exact ⟨fun handle _ => by simp [howned],
        iff_of_false not_lost_next fun h => h.1 rfl⟩
  | some client =>
      have hflags : ∀ other : AerospikeClient, other.isPersistent = true →
          (∀ handle, handle ≠ p.configs.length →
            ((p.setObject id (some other)).Lost handle ↔
              p.Lost handle ∨ p.OwnedBy id handle)) ∧
          ¬ (p.setObject id (some other)).Lost p.configs.length := by
        intro other hother
        exact ⟨fun handle hne =>
          (reconstructed_self p id other hother).lost hinv hne,
          fun hlost => lt_irrefl _ hlost.1.1⟩
      cases hconfig : attempt.config with
      | none =>
          obtain ⟨hold, hnext⟩ := hflags { client with
            isConnected := false, isValid := false, isPersistent := true } rfl
          exact ⟨hold, iff_of_false hnext (by simp)⟩
      | some config =>
          by_cases hcreated : attempt.created = false
          · simp only [if_pos hcreated]
            obtain ⟨hold, hnext⟩ := hflags { client with
              asClient := none, isConnected := false, isValid := false
              isPersistent := true } rfl
            exact ⟨hold, iff_of_false hnext (by simp [hcreated])⟩
          · simp only [if_neg hcreated]
            obtain ⟨hold, hnext⟩ := connectObject_lost hinv id attempt config
              { client with
                isConnected := false, isValid := false, isPersistent := true }
            exact ⟨hold, hnext.trans (by simp [hcreated])⟩

/-- A process whose objects are the old ones and which has dealt with the next
handle loses none. -/
theorem Reconstructed.lost_same {q : Process} {id : ℕ} {client : AerospikeClient}
    (hq : p.Reconstructed q id client) (hnext : ¬ q.Lost p.configs.length) :
    q.Lost handle ↔ p.Lost handle := by
  by_cases hne : handle = p.configs.length
  · rw [hne]
    exact iff_of_false hnext not_lost_next
  · refine lost_congr (hq.live handle hne) (hq.registered handle hne) fun id' => ?_
    unfold OwnedBy
    rw [hq.objects]

/-- A session that does not connect destroys its new handle. -/
theorem lost_openSession (hinv : p.Inv) (attempt : Attempt) :
    (p.openSession attempt).Lost handle ↔ p.Lost handle := by
  unfold Process.openSession
  cases attempt.config with
  | none => exact Iff.rfl
  | some config =>
      by_cases hcreated : attempt.created = false
      · simp only [if_pos hcreated]
      · obtain ⟨connected, hrun, hshares, hreconstructed, hfate⟩ :=
          persistentConnect_reconstructs hinv attempt config 0
            ⟨some p.configs.length, true, true, false⟩
        simp only [if_neg hcreated, hrun]
        have hq := hreconstructed connected.client hshares
        rcases hfate with ⟨-, hok, hprocess, hheld⟩ | ⟨-, hok, hnew⟩
        · simp only [hok, hheld]
          have hafter : p.Reconstructed
              (connected.process.destroyHandle p.configs.length) 0
              connected.client := by
            refine ⟨fun h hne => ?_, hq.registered, hq.objects, hq.shares⟩
            rw [live_destroyHandle, hq.live h hne]
            exact ⟨fun hlive => hlive.2, fun hlive => ⟨hne, hlive⟩⟩
          exact hafter.lost_same fun hlost =>
            hlost.1.2 (List.mem_cons_self ..)
        · simp only [hok, if_true]
          refine Iff.trans Iff.rfl (hq.lost_same ?_)
          rintro ⟨hlive, hshared, -⟩
          cases hnew with
          | destroyed h => exact hlive.2 h
          | registered h => exact hshared h
          | owned hfalse _ => simp [hshares] at hfalse

/-! ## Runs -/

/-- An event that loses no handle leaves the lost ones as they are. -/
theorem lost_step_iff (hinv : p.Inv) {event : Event}
    (hevent : ¬ p.LosesHandle event) :
    (p.step event).Lost handle ↔ p.Lost handle := by
  cases event with
  | create id => exact lost_create id
  | construct id attempt =>
      obtain ⟨hold, hnext⟩ := lost_construct hinv id attempt
      by_cases hne : handle = p.configs.length
      · rw [hne]
        exact iff_of_false (fun h => hevent (.inr (hnext.mp h))) not_lost_next
      · have howned : ¬ p.OwnedBy id handle := fun h => hevent (.inl ⟨_, h⟩)
        exact (hold handle hne).trans (by simp [howned])
  | close id => exact lost_close id
  | reconnect id connects => exact lost_reconnect id connects
  | destruct id => exact lost_destruct id
  | free id => exact lost_free hinv id
  | openSession attempt => exact lost_openSession hinv attempt
  | closeSession => exact Iff.rfl

theorem ne_next_of_lt {h : ℕ} (hlt : h < p.configs.length) :
    h ≠ p.configs.length := ne_of_lt hlt

/-- A lost handle stays lost. -/
theorem lost_step (hinv : p.Inv) (event : Event) (hlost : p.Lost handle) :
    (p.step event).Lost handle := by
  by_cases hevent : p.LosesHandle event
  · cases event with
    | construct id attempt =>
        have hold := (lost_construct hinv id attempt).1 handle
          (ne_next_of_lt hlost.1.1)
        exact hold.mpr (.inl hlost)
    | _ => exact absurd hevent id
  · exact (lost_step_iff hinv hevent).mpr hlost

theorem exists_lost_of_loses (hinv : p.Inv) {event : Event}
    (hevent : p.LosesHandle event) : ∃ handle, (p.step event).Lost handle := by
  cases event with
  | construct id attempt =>
      obtain ⟨hold, hnext⟩ := lost_construct hinv id attempt
      rcases hevent with ⟨handle, howned⟩ | hfails
      · obtain ⟨client, hobject, hpersistent, hheld⟩ := howned
        have hlive := (hinv.owned hobject hpersistent hheld).1
        have hlost := (hold handle (ne_next_of_lt hlive.1)).mpr
          (.inr ⟨client, hobject, hpersistent, hheld⟩)
        exact ⟨handle, hlost⟩
      · exact ⟨_, hnext.mpr hfails⟩
  | _ => exact absurd hevent id

theorem accounted_iff (hinv : p.Inv) (hended : p.Ended) :
    p.Accounted ↔ ∀ handle, ¬ p.Lost handle := by
  have hnobody : ∀ id handle, ¬ p.OwnedBy id handle := fun id _ =>
    not_ownedBy_of_none (hended.1 id)
  constructor
  · rintro haccounted handle ⟨hlive, hshared, -⟩
    exact hshared ((haccounted handle).mp hlive)
  · intro hnone handle
    refine ⟨fun hlive => ?_, hinv.registered_live handle⟩
    by_contra hshared
    exact hnone handle ⟨hlive, hshared, fun id => hnobody id handle⟩

end

/-- Nothing is lost in a run exactly when no event of it loses a handle. -/
theorem not_lost_after_iff (events : List Event) :
    (∀ handle, ¬ (after events).Lost handle) ↔
      processMachine.EveryStep (fun p event => ¬ p.LosesHandle event) start
        events := by
  constructor
  · intro hnone
    by_contra hnot
    obtain ⟨before, event, rest, rfl, -, hbad⟩ :=
      Machine.exists_first_of_not_everyStep hnot
    have hbad : (after before).LosesHandle event := not_not.mp hbad
    obtain ⟨handle, hlost⟩ := exists_lost_of_loses (inv_after before) hbad
    refine hnone handle ?_
    have hrun : after (before ++ event :: rest) =
        processMachine.runFrom ((after before).step event) rest :=
      Machine.runFrom_append start before (event :: rest)
    rw [hrun]
    have hkept : ∀ p event, p.Inv ∧ p.Lost handle →
        (processMachine.step p event).Inv ∧
          (processMachine.step p event).Lost handle :=
      fun p event h => ⟨h.1.step event, lost_step h.1 event h.2⟩
    exact (Machine.invariant_runFrom hkept
      ⟨(inv_after before).step event, hlost⟩ rest).2
  · intro hevery handle
    have hstart : start.Inv ∧ ∀ handle, ¬ start.Lost handle :=
      ⟨inv_start, fun handle hlost => by simpa [start] using hlost.1.1⟩
    have hkept : ∀ p event, (p.Inv ∧ ∀ handle, ¬ p.Lost handle) →
        ¬ p.LosesHandle event → (processMachine.step p event).Inv ∧
          ∀ handle, ¬ (processMachine.step p event).Lost handle :=
      fun p event h hevent => ⟨h.1.step event, fun handle hlost =>
        h.2 handle ((lost_step_iff h.1 hevent).mp hlost)⟩
    exact (Machine.invariant_everyStep hkept hstart hevery).2 handle

/-- When all objects are freed and the session is closed, the handles that are
alive are those of the persistent list, exactly if no event lost one. -/
theorem ended_accounted_iff {events : List Event}
    (hended : (after events).Ended) :
    (after events).Accounted ↔
      processMachine.EveryStep (fun p event => ¬ p.LosesHandle event) start
        events :=
  (accounted_iff (inv_after events) hended).trans (not_lost_after_iff events)

/-- A session that opens and closes loses no handle. -/
theorem ended_accounted_iff_session :
    let events := [.openSession ⟨some default, true, true, true, true⟩,
      .closeSession]
    (after events).Accounted ↔
      processMachine.EveryStep (fun p event => ¬ p.LosesHandle event) start
        events :=
  ended_accounted_iff ⟨fun _ => rfl, rfl⟩

/-- A persistent client that never connects, and is freed. -/
def unconnected : List Event :=
  [.create 0, .construct 0 ⟨some default, true, true, true, false⟩, .free 0]

theorem unconnected_not_accounted :
    (after unconnected).Ended ∧ ¬ (after unconnected).Accounted := by
  have hfreed : ∀ id, (after unconnected).objects id = none := by
    intro id
    rcases eq_or_ne id 0 with rfl | hid
    · rfl
    · have hnever : ∀ first second : Option AerospikeClient,
          Function.update (Function.update (Function.update
            (fun _ => none) 0 first) 0 second) 0 none id = none := by
        intro first second
        simp [Function.update_of_ne hid]
      exact hnever _ _
  refine ⟨⟨hfreed, rfl⟩, fun haccounted => ?_⟩
  have hlive : (after unconnected).Live 0 :=
    ⟨Nat.zero_lt_one, List.not_mem_nil⟩
  exact List.not_mem_nil ((haccounted 0).mp hlive)

end Process

end AerospikePhp
