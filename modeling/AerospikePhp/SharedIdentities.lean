import AerospikePhp.HandleSafety
import Mathlib.Tactic

/-!
# Whose identity a shared handle has

A persistent client takes the handle of the host under its search string, which
is made of the addresses, the user and the shared memory key.  The clients of
one handle have one identity exactly if the search string never leads a client
to a handle that was made for another identity.
-/

namespace AerospikePhp

open Transition

/-- The fields of a configuration that say who its requests come from. -/
structure Identity where
  user : String
  password : String
  tls : TlsConfig
  tlsNames : List (Option String)
  clusterName : Option String
  deriving DecidableEq

def AsConfig.identity (config : AsConfig) : Identity :=
  ⟨config.user, config.password, config.tls,
    config.hosts.map fun host => host.tlsName, config.clusterName⟩

/-- How the servers behind a search string answer an identity. -/
abbrev Servers : Type := String → Identity → Bool

/-- Every attempt to connect is answered by the servers. -/
def Event.AnsweredBy (accepts : Servers) : Event → Prop
  | .construct _ attempt | .openSession attempt => ∀ config,
      attempt.config = some config →
        attempt.connects = accepts (persistentSearchString config) config.identity
  | _ => True

namespace Process

/-- The event asks the persistent list for a handle. -/
def Asks (p : Process) (attempt : Attempt) (config : AsConfig) : Event → Prop
  | .construct id made => made = attempt ∧ p.objects id ≠ none ∧
      attempt.persistent = true ∧ attempt.created = true ∧
      attempt.config = some config
  | .openSession made => made = attempt ∧ attempt.created = true ∧
      attempt.config = some config
  | _ => False

/-- The identity of the configuration that the handle was made with. -/
def identityOf (p : Process) (handle : ℕ) : Option Identity :=
  p.configs[handle]?.map AsConfig.identity

/-- A host that the event finds was made for the identity that asks. -/
def KeepsIdentity (p : Process) (event : Event) : Prop :=
  ∀ attempt config host, p.Asks attempt config event →
    attempt.aliased = true →
    p.getPersistentHost (persistentSearchString config) = some host →
    p.identityOf host.asClient = some config.identity

/-- What persistent clients and sessions rely on. -/
structure Isolated (events : List Event) : Prop where
  /-- Clients with one handle agree. -/
  agree : ∀ config config' handle, (config, handle) ∈ (after events).given →
    (config', handle) ∈ (after events).given →
    config.identity = config'.identity
  /-- The requests of a client carry its own identity. -/
  own : ∀ config handle, (config, handle) ∈ (after events).given →
    (after events).identityOf handle = some config.identity
  /-- Whether an attempt succeeds is up to the servers. -/
  answered : ∀ accepts, (∀ event ∈ events, event.AnsweredBy accepts) →
    ∀ before event rest attempt config, events = before ++ event :: rest →
      (after before).Asks attempt config event → ∀ client,
        (persistentConnect attempt config (after before).configs.length client
            ((after before).new config)).ok =
          (attempt.aliased &&
            accepts (persistentSearchString config) config.identity)

/-! ## What an event does to the persistent list -/

section

variable {p : Process} {event : Event} {attempt : Attempt} {config : AsConfig}

/-- The part of a process that all clients share. -/
def shared (p : Process) :
    List AsConfig × List (String × PersistentHost) × List (AsConfig × ℕ) :=
  (p.configs, p.persistentList, p.given)

theorem shared_step_of_asks (hasks : p.Asks attempt config event) :
    ∃ client, (p.step event).shared =
      (persistentConnect attempt config p.configs.length client
        (p.new config)).process.shared := by
  cases event with
  | construct id made =>
      obtain ⟨rfl, hobject, hpersistent, hcreated, hconfig⟩ := hasks
      obtain ⟨client, hobject⟩ := Option.ne_none_iff_exists'.mp hobject
      refine ⟨{ client with
        asClient := some p.configs.length, isValid := true,
        isPersistent := true, isConnected := false }, ?_⟩
      simp only [Process.step, construct, hobject, hconfig, hcreated,
        connectObject, hpersistent]
      rfl
  | openSession made =>
      obtain ⟨rfl, hcreated, hconfig⟩ := hasks
      refine ⟨⟨some p.configs.length, true, true, false⟩, ?_⟩
      simp only [Process.step, Process.openSession, hconfig, hcreated]
      simp only [Bool.true_eq_false, if_false]
      split
      · rfl
      · split <;> rfl
  | _ => exact hasks.elim

theorem step_of_not_asks (hnot : ∀ attempt config, ¬ p.Asks attempt config event) :
    (p.step event).persistentList = p.persistentList ∧
      (p.step event).given = p.given ∧
      p.configs <+: (p.step event).configs := by
  cases event with
  | create id =>
      simp only [Process.step, Process.create]
      split <;> exact ⟨rfl, rfl, List.prefix_rfl⟩
  | construct id attempt =>
      simp only [Process.step, Process.construct]
      cases hobject : p.objects id with
      | none => exact ⟨rfl, rfl, List.prefix_rfl⟩
      | some client =>
          cases hconfig : attempt.config with
          | none => exact ⟨rfl, rfl, List.prefix_rfl⟩
          | some config =>
              by_cases hcreated : attempt.created = false
              · simp only [if_pos hcreated]
                exact ⟨rfl, rfl, List.prefix_rfl⟩
              · have hpersistent : attempt.persistent = false := by
                  by_contra hpersistent
                  exact hnot attempt config ⟨rfl, by simp [hobject],
                    by simpa using hpersistent, by simpa using hcreated, hconfig⟩
                simp only [if_neg hcreated, connectObject, hpersistent,
                  nonPersistentConnect]
                cases attempt.connects <;>
                  exact ⟨rfl, rfl, List.prefix_append _ _⟩
  | close id =>
      simp only [Process.step, Process.close]
      split
      · split
        · exact ⟨rfl, rfl, List.prefix_rfl⟩
        · split <;> exact ⟨rfl, rfl, List.prefix_rfl⟩
      · exact ⟨rfl, rfl, List.prefix_rfl⟩
  | reconnect id connects =>
      simp only [Process.step, Process.reconnect]
      split
      · split <;> exact ⟨rfl, rfl, List.prefix_rfl⟩
      · exact ⟨rfl, rfl, List.prefix_rfl⟩
  | destruct id =>
      simp only [Process.step, Process.destruct]
      split <;> exact ⟨rfl, rfl, List.prefix_rfl⟩
  | free id =>
      simp only [Process.step, Process.free]
      split <;> exact ⟨rfl, rfl, List.prefix_rfl⟩
  | openSession attempt =>
      simp only [Process.step, Process.openSession]
      cases hconfig : attempt.config with
      | none => exact ⟨rfl, rfl, List.prefix_rfl⟩
      | some config =>
          have hcreated : attempt.created = false := by
            by_contra hcreated
            exact hnot attempt config ⟨rfl, by simpa using hcreated, hconfig⟩
          simp [hcreated]
  | closeSession => exact ⟨rfl, rfl, List.prefix_rfl⟩

theorem answered_of_asks {accepts : Servers}
    (hanswered : event.AnsweredBy accepts)
    (hasks : p.Asks attempt config event) :
    attempt.connects =
      accepts (persistentSearchString config) config.identity := by
  cases event with
  | construct id made =>
      obtain ⟨rfl, -, -, -, hconfig⟩ := hasks
      exact hanswered config hconfig
  | openSession made =>
      obtain ⟨rfl, -, hconfig⟩ := hasks
      exact hanswered config hconfig
  | _ => exact hasks.elim

/-- The search strings of the hosts, each with its handle. -/
def aliases (p : Process) : List (String × ℕ) :=
  p.persistentList.map fun entry => (entry.1, entry.2.asClient)

theorem aliases_countClient (p : Process) (hostKey : String) :
    (p.countClient hostKey).aliases = p.aliases := by
  unfold aliases countClient
  rw [List.map_map]
  refine List.map_congr_left fun entry _ => ?_
  simp only [Function.comp_apply]
  split <;> rfl

theorem mem_aliases_of_getPersistentHost {hostKey : String}
    {host : PersistentHost} (hhost : p.getPersistentHost hostKey = some host) :
    (hostKey, host.asClient) ∈ p.aliases :=
  List.mem_map.mpr ⟨_, mem_of_getPersistentHost hhost, rfl⟩

theorem aliases_congr {q : Process} (hlist : q.persistentList = p.persistentList) :
    q.aliases = p.aliases := congrArg (List.map _) hlist

/-- An event leaves hosts and clients alone, finds a host, or adds one. -/
theorem step_cases (hinv : p.Inv) (event : Event) :
    ((p.step event).aliases = p.aliases ∧ (p.step event).given = p.given ∧
      p.configs <+: (p.step event).configs) ∨
    ∃ attempt config, p.Asks attempt config event ∧
      (p.step event).configs = p.configs ++ [config] ∧
      ((∃ host, attempt.aliased = true ∧
          p.getPersistentHost (persistentSearchString config) = some host ∧
          (p.step event).aliases = p.aliases ∧
          (p.step event).given = (config, host.asClient) :: p.given) ∨
        (attempt.connects = true ∧
          (p.step event).aliases = p.aliases ++
            [(persistentSearchString config, p.configs.length)] ∧
          (p.step event).given = (config, p.configs.length) :: p.given)) := by
  by_cases hasks : ∃ attempt config, p.Asks attempt config event
  · obtain ⟨attempt, config, hasks⟩ := hasks
    obtain ⟨client, hshared⟩ := shared_step_of_asks hasks
    have hnew := hinv.new config
    rcases @persistentConnect_cases attempt config p.configs.length client
        (p.new config) hnew.connected with
      ⟨host, haliased, hhost, hrun⟩ | ⟨-, -, hconnects, hrun⟩ | ⟨-, hrun⟩
    · rw [hrun] at hshared
      simp only [shared, Prod.mk.injEq] at hshared
      obtain ⟨hconfigs, hlist, hgiven⟩ := hshared
      refine .inr ⟨attempt, config, hasks, hconfigs,
        .inl ⟨host, haliased, hhost, ?_, hgiven⟩⟩
      rw [aliases_congr hlist]
      exact aliases_countClient _ _
    · rw [hrun] at hshared
      simp only [shared, Prod.mk.injEq] at hshared
      obtain ⟨hconfigs, hlist, hgiven⟩ := hshared
      refine .inr ⟨attempt, config, hasks, hconfigs, .inr ⟨hconnects, ?_, hgiven⟩⟩
      rw [aliases_congr hlist]
      exact List.map_append
    · rw [hrun] at hshared
      simp only [shared, Prod.mk.injEq] at hshared
      obtain ⟨hconfigs, hlist, hgiven⟩ := hshared
      refine .inl ⟨aliases_congr hlist, hgiven, ?_⟩
      rw [hconfigs]
      exact List.prefix_append _ _
  · have hnot : ∀ attempt config, ¬ p.Asks attempt config event :=
      fun attempt config h => hasks ⟨attempt, config, h⟩
    obtain ⟨hlist, hgiven, hconfigs⟩ := step_of_not_asks hnot
    exact .inl ⟨aliases_congr hlist, hgiven, hconfigs⟩

/-- An event that finds a host goes on the record with its handle. -/
theorem given_of_finds (hinv : p.Inv) {host : PersistentHost}
    (hasks : p.Asks attempt config event) (haliased : attempt.aliased = true)
    (hhost : p.getPersistentHost (persistentSearchString config) = some host) :
    (config, host.asClient) ∈ (p.step event).given := by
  obtain ⟨client, hshared⟩ := shared_step_of_asks hasks
  have hopen : host.isConnected = true :=
    hinv.connected _ (mem_of_getPersistentHost hhost)
  have hhost' : (p.new config).getPersistentHost (persistentSearchString config) =
      some host := hhost
  have hgiven : (p.step event).given =
      (persistentConnect attempt config p.configs.length client
        (p.new config)).process.given := congrArg (fun s => s.2.2) hshared
  rw [hgiven]
  simp [persistentConnect, haliased, hhost', hopen, Process.give]

end

/-! ## What is true of the record after any events -/

section

variable {p q : Process} {handle : ℕ} {identity : Identity}

theorem configs_step (hinv : p.Inv) (event : Event) :
    p.configs <+: (p.step event).configs := by
  rcases step_cases hinv event with ⟨-, -, hconfigs⟩ | ⟨_, _, -, hconfigs, -⟩
  · exact hconfigs
  · rw [hconfigs]
    exact List.prefix_append _ _

theorem given_step (hinv : p.Inv) (event : Event) :
    p.given ⊆ (p.step event).given := by
  rcases step_cases hinv event with ⟨-, hgiven, -⟩ |
    ⟨_, _, -, -, ⟨_, -, -, -, hgiven⟩ | ⟨-, -, hgiven⟩⟩ <;> simp [hgiven]

/-- The configuration of a handle is never replaced. -/
theorem configs_getElem_grows {config : AsConfig}
    (hconfigs : p.configs <+: q.configs)
    (hconfig : p.configs[handle]? = some config) :
    q.configs[handle]? = some config := by
  obtain ⟨added, hadded⟩ := hconfigs
  obtain ⟨hlt, -⟩ := List.getElem?_eq_some_iff.mp hconfig
  rw [← hadded, List.getElem?_append_left hlt, hconfig]

theorem identityOf_grows (hconfigs : p.configs <+: q.configs)
    (hidentity : p.identityOf handle = some identity) :
    q.identityOf handle = some identity := by
  obtain ⟨config, hconfig, rfl⟩ := Option.map_eq_some_iff.mp hidentity
  exact Option.map_eq_some_iff.mpr
    ⟨config, configs_getElem_grows hconfigs hconfig, rfl⟩

/-- A host's handle is on the record with the configuration it was made with. -/
def Recorded (p : Process) : Prop :=
  ∀ entry ∈ p.aliases, ∃ config, p.configs[entry.2]? = some config ∧
    (config, entry.2) ∈ p.given

theorem Recorded.step (hrecorded : p.Recorded) (hinv : p.Inv) (event : Event) :
    (p.step event).Recorded := by
  have hold : ∀ entry ∈ p.aliases, ∃ config,
      (p.step event).configs[entry.2]? = some config ∧
        (config, entry.2) ∈ (p.step event).given := by
    intro entry hentry
    obtain ⟨config, hconfig, hgiven⟩ := hrecorded entry hentry
    exact ⟨config,
      configs_getElem_grows (configs_step hinv event) hconfig,
      given_step hinv event hgiven⟩
  intro entry hentry
  rcases step_cases hinv event with ⟨haliases, -, -⟩ |
    ⟨_, config, -, hconfigs,
      ⟨_, -, -, haliases, -⟩ | ⟨-, haliases, hgiven⟩⟩
  · exact hold entry (haliases ▸ hentry)
  · exact hold entry (haliases ▸ hentry)
  · rw [haliases] at hentry
    rcases List.mem_append.mp hentry with hentry | hnew
    · exact hold entry hentry
    · obtain rfl := List.mem_singleton.mp hnew
      exact ⟨config, by simp [hconfigs], by simp [hgiven]⟩

theorem recorded_after (events : List Event) : (after events).Recorded := by
  have hkept : ∀ p event, p.Inv ∧ p.Recorded →
      (processMachine.step p event).Inv ∧ (processMachine.step p event).Recorded :=
    fun p event h => ⟨h.1.step event, h.2.step h.1 event⟩
  have hstart : start.Inv ∧ start.Recorded :=
    ⟨inv_start, fun entry hentry => by simp [start, aliases] at hentry⟩
  exact (Machine.invariant_runFrom hkept hstart events).2

/-- Clients have the identity of their handle. -/
def Kept (p : Process) : Prop :=
  ∀ entry ∈ p.given, p.identityOf entry.2 = some entry.1.identity

theorem Kept.step (hkept : p.Kept) (hinv : p.Inv) {event : Event}
    (hkeeps : p.KeepsIdentity event) : (p.step event).Kept := by
  have hconfigs := configs_step hinv event
  have hold : ∀ entry ∈ p.given,
      (p.step event).identityOf entry.2 = some entry.1.identity :=
    fun entry hentry => identityOf_grows hconfigs (hkept entry hentry)
  intro entry hentry
  rcases step_cases hinv event with ⟨-, hgiven, -⟩ |
    ⟨attempt, config, hasks, hnew,
      ⟨host, haliased, hhost, -, hgiven⟩ | ⟨-, -, hgiven⟩⟩
  · exact hold entry (hgiven ▸ hentry)
  · rw [hgiven] at hentry
    rcases List.mem_cons.mp hentry with rfl | hentry
    · exact identityOf_grows hconfigs
        (hkeeps attempt config host hasks haliased hhost)
    · exact hold entry hentry
  · rw [hgiven] at hentry
    rcases List.mem_cons.mp hentry with rfl | hentry
    · simp [identityOf, hnew]
    · exact hold entry hentry

/-- The servers have accepted the identity of every host's handle. -/
def Accepted (accepts : Servers) (p : Process) : Prop :=
  ∀ entry ∈ p.aliases, ∃ identity, p.identityOf entry.2 = some identity ∧
    accepts entry.1 identity = true

theorem Accepted.step {accepts : Servers} (haccepted : p.Accepted accepts)
    (hinv : p.Inv) {event : Event} (hanswered : event.AnsweredBy accepts) :
    (p.step event).Accepted accepts := by
  have hold : ∀ entry ∈ p.aliases, ∃ identity,
      (p.step event).identityOf entry.2 = some identity ∧
        accepts entry.1 identity = true := by
    intro entry hentry
    obtain ⟨identity, hidentity, haccepts⟩ := haccepted entry hentry
    exact ⟨identity, identityOf_grows (configs_step hinv event) hidentity,
      haccepts⟩
  intro entry hentry
  rcases step_cases hinv event with ⟨haliases, -, -⟩ |
    ⟨attempt, config, hasks, hconfigs,
      ⟨_, -, -, haliases, -⟩ | ⟨hconnects, haliases, -⟩⟩
  · exact hold entry (haliases ▸ hentry)
  · exact hold entry (haliases ▸ hentry)
  · rw [haliases] at hentry
    rcases List.mem_append.mp hentry with hentry | hnew
    · exact hold entry hentry
    · obtain rfl := List.mem_singleton.mp hnew
      refine ⟨config.identity, by simp [identityOf, hconfigs], ?_⟩
      rw [← answered_of_asks hanswered hasks, hconnects]

end

/-! ## Isolation -/

section

variable {events : List Event}

theorem kept_after
    (hevery : processMachine.EveryStep KeepsIdentity start events) :
    (after events).Kept := by
  have hkept : ∀ p event, p.Inv ∧ p.Kept → p.KeepsIdentity event →
      (processMachine.step p event).Inv ∧ (processMachine.step p event).Kept :=
    fun p event h hkeeps => ⟨h.1.step event, h.2.step h.1 hkeeps⟩
  have hstart : start.Inv ∧ start.Kept :=
    ⟨inv_start, fun entry hentry => by simp [start] at hentry⟩
  exact (Machine.invariant_everyStep hkept hstart hevery).2

theorem accepted_after {accepts : Servers}
    (hanswered : ∀ event ∈ events, event.AnsweredBy accepts) :
    (after events).Accepted accepts := by
  have hkept : ∀ p event, p.Inv ∧ p.Accepted accepts →
      event.AnsweredBy accepts → (processMachine.step p event).Inv ∧
        (processMachine.step p event).Accepted accepts :=
    fun p event h hevent => ⟨h.1.step event, h.2.step h.1 hevent⟩
  have hstart : start.Inv ∧ start.Accepted accepts :=
    ⟨inv_start, fun entry hentry => by simp [start, aliases] at hentry⟩
  exact (Machine.invariant_everyStep hkept hstart
    (Machine.everyStep_of_forall hanswered)).2

/-- An attempt succeeds exactly when the servers accept the identity, if the
host that it finds was made for the same one. -/
theorem ok_eq_accepts {p : Process} {event : Event} {attempt : Attempt}
    {config : AsConfig} {accepts : Servers} (hinv : p.Inv)
    (haccepted : p.Accepted accepts) (hanswered : event.AnsweredBy accepts)
    (hkeeps : p.KeepsIdentity event) (hasks : p.Asks attempt config event)
    (client : AerospikeClient) :
    (persistentConnect attempt config p.configs.length client
        (p.new config)).ok =
      (attempt.aliased &&
        accepts (persistentSearchString config) config.identity) := by
  have hanswer := answered_of_asks hanswered hasks
  have hnew := hinv.new config
  rcases @persistentConnect_cases attempt config p.configs.length client
      (p.new config) hnew.connected with
    ⟨host, haliased, hhost, hrun⟩ | ⟨haliased, -, hconnects, hrun⟩ |
    ⟨hfails, hrun⟩
  · obtain ⟨identity, hidentity, haccepts⟩ :=
      haccepted _ (mem_aliases_of_getPersistentHost hhost)
    have hsame := hkeeps attempt config host hasks haliased hhost
    have heq : identity = config.identity :=
      Option.some.inj (hidentity.symm.trans hsame)
    simp [hrun, haliased, ← heq, haccepts]
  · simp [hrun, haliased, ← hanswer, hconnects]
  · rcases hfails with haliased | ⟨-, hconnects⟩
    · simp [hrun, haliased]
    · simp [hrun, ← hanswer, hconnects]

theorem given_runFrom {p : Process} (hinv : p.Inv) :
    p.given ⊆ (processMachine.runFrom p events).given ∧
      p.configs <+: (processMachine.runFrom p events).configs := by
  induction events generalizing p with
  | nil => exact ⟨fun _ h => h, List.prefix_rfl⟩
  | cons event events ih =>
      obtain ⟨hgiven, hconfigs⟩ := ih (hinv.step event)
      exact ⟨fun _ hmem => hgiven (given_step hinv event hmem),
        (configs_step hinv event).trans hconfigs⟩

end

/-- The clients of every handle have one identity, the one their requests
carry, exactly when no event finds a host that was made for another one. -/
theorem isolated_iff (events : List Event) :
    Isolated events ↔
      processMachine.EveryStep KeepsIdentity start events := by
  constructor
  · intro hisolated
    by_contra hnot
    obtain ⟨before, event, rest, rfl, -, hbad⟩ :=
      Machine.exists_first_of_not_everyStep hnot
    have hinv := inv_after before
    refine hbad fun attempt config host hasks haliased hhost => ?_
    obtain ⟨made, hmade, -⟩ := recorded_after before _
      (mem_aliases_of_getPersistentHost hhost)
    have hmade' : (after before).identityOf host.asClient = some made.identity :=
      congrArg _ hmade
    have hfinds := given_of_finds hinv hasks haliased hhost
    have hrun : after (before ++ event :: rest) =
        processMachine.runFrom ((after before).step event) rest :=
      Machine.runFrom_append start before (event :: rest)
    obtain ⟨hgiven, hconfigs⟩ :=
      @given_runFrom rest _ (hinv.step event)
    rw [← hrun] at hgiven hconfigs
    have hown := hisolated.own config host.asClient (hgiven hfinds)
    rw [identityOf_grows ((configs_step hinv event).trans hconfigs) hmade']
      at hown
    exact hmade'.trans hown
  · intro hevery
    have hkept := kept_after hevery
    refine ⟨fun config config' handle hmem hmem' => ?_,
      fun config handle hmem => hkept _ hmem, ?_⟩
    · exact Option.some.inj ((hkept _ hmem).symm.trans (hkept _ hmem'))
    · rintro accepts hanswered before event rest attempt config rfl hasks client
      rw [Machine.everyStep_append] at hevery
      have hbefore : ∀ event ∈ before, event.AnsweredBy accepts :=
        fun event hevent => hanswered event (List.mem_append_left _ hevent)
      exact ok_eq_accepts (inv_after before) (accepted_after hbefore)
        (hanswered event (by simp)) hevery.2.1 hasks client

/-- One host, one user, and a password. -/
def withPassword (password : String) : AsConfig :=
  { (default : AsConfig) with
    hosts := [⟨"127.0.0.1", none, 3000⟩], user := "ops", password := password }

/-- The second client has the wrong password and would not connect. -/
def wrongPassword : List Event :=
  [.create 0, .construct 0 ⟨some (withPassword "right"), true, true, true, true⟩,
    .create 1, .construct 1 ⟨some (withPassword "wrong"), true, true, true, false⟩]

theorem wrongPassword_not_isolated : ¬ Isolated wrongPassword := by
  intro hisolated
  have hgiven : (after wrongPassword).given =
      [(withPassword "wrong", 0), (withPassword "right", 0)] := by rfl
  have hagree := hisolated.agree (withPassword "wrong") (withPassword "right") 0
    (by simp [hgiven]) (by simp [hgiven])
  exact absurd hagree (by decide)

end Process

end AerospikePhp
