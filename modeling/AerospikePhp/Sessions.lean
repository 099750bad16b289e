import AerospikePhp.KeyRoundTrips
import AerospikePhp.ListMethods
import Mathlib.Tactic

/-!
# The session handler

The functions that PHP calls to keep its sessions in the cluster, one record
with one bin for each session id.  What the cluster answers is a parameter.
-/

namespace AerospikePhp

/-! ## The module and the cluster -/

/-- `AEROSPIKE_SESSION_BIN`. -/
def aerospikeSessionBin : String := "PHP_SESSION"

/-- `aerospike_session_data`. -/
structure SessionData where
  /-- Neither `php_client` nor its `as_client` is NULL. -/
  hasClient : Bool
  ns : String
  set : String

/-- `SUCCESS` and `FAILURE`. -/
inductive PsResult where
  | success
  | failure
  deriving DecidableEq, Repr

def PsResult.ofBool (ok : Bool) : PsResult := if ok then .success else .failure

/-- The calls of the client, all without a policy. -/
inductive SessionCommand where
  | put (key : AsKey) (record : AsRecord)
  | remove (key : AsKey)
  | get (key : AsKey)
  | exists (key : AsKey)
  | touch (key : AsKey) (ttl : ℕ)

structure SessionAnswer where
  err : AsError
  record : Option AsRecord

/-- A cluster that answers from a state of its own. -/
structure Cluster (σ : Type) where
  ask : SessionCommand → σ → SessionAnswer × σ

/-- The state of the cluster, and the warnings that PHP was given. -/
structure SessionState (σ : Type) where
  cluster : σ
  warnings : List String

def SessionState.warn {σ : Type} (s : SessionState σ) (message : String) :
    SessionState σ :=
  { s with warnings := s.warnings ++ [message] }

/-- `verify_session_data`. -/
def verifySessionData (session : SessionData) : Bool := session.hasClient

/-- The key of a session, as `as_key_init` and `as_key_init_str` make it. -/
def SessionData.key (session : SessionData) (sid : String) : AsKey :=
  ⟨session.ns, session.set, .string (cString sid), none⟩

section

variable {σ : Type} (keyInit : AsKey → Bool) (cluster : Cluster σ)
variable (session : SessionData)

def ask (command : SessionCommand) (s : SessionState σ) :
    SessionAnswer × SessionState σ :=
  let (answer, state) := cluster.ask command s.cluster
  (answer, { s with cluster := state })

/-! ## The handlers -/

/-- `PS_WRITE_FUNC`. -/
def psWrite (key val : String) (maxlifetime : Int64) (s : SessionState σ) :
    PsResult × SessionState σ :=
  if verifySessionData session = false then (.failure, s)
  else if keyInit (session.key key) = false then (.failure, s)
  else
    let record : AsRecord :=
      ⟨0, toUint32 maxlifetime, [(aerospikeSessionBin, rawBytes val .php)]⟩
    let (answer, s) := ask cluster (.put (session.key key) record) s
    (.ofBool (answer.err.code = .ok), s)

/-- `PS_DESTROY_FUNC`. -/
def psDestroy (key : String) (s : SessionState σ) : PsResult × SessionState σ :=
  if verifySessionData session = false then (.failure, s)
  else if keyInit (session.key key) = false then (.failure, s)
  else
    let (answer, s) := ask cluster (.remove (session.key key)) s
    (.ofBool (answer.err.code = .ok ∨ answer.err.code = .errRecordNotFound), s)

/-- The value that `PS_READ_FUNC` makes of the bin, or its warning. -/
def sessionValue : Option AsVal → Except String String
  | none => .error "No session data found in record"
  | some (.bytes _ value) => .ok value
  | some (.string value) => .ok (cString value)
  | some _ => .error "Invalid session data returned"

/-- `PS_READ_FUNC`, with the `*val` that it leaves. -/
def psRead (key : String) (s : SessionState σ) :
    (PsResult × Option String) × SessionState σ :=
  if verifySessionData session = false then
    ((.failure, none), s.warn "Invalid session")
  else if keyInit (session.key key) = false then
    ((.failure, none), s.warn "Failed to create an aerospike key")
  else
    let (answer, s) := ask cluster (.get (session.key key)) s
    if answer.err.code = .errRecordNotFound then ((.success, some ""), s)
    else if answer.err.code ≠ .ok then
      ((.failure, none),
        s.warn ("Failed to fetch session entry: " ++ answer.err.message))
    else
      match sessionValue (answer.record.bind (asRecordGet · aerospikeSessionBin)) with
      | .ok value => ((.success, some value), s)
      | .error message => ((.failure, none), s.warn message)

/-- `aerospike_session_exists`: an error counts as an id that does not
exist. -/
def aerospikeSessionExists (sid : String) (s : SessionState σ) :
    Bool × SessionState σ :=
  if verifySessionData session = false then
    (false, s.warn "Invalid Session data in exists")
  else if keyInit (session.key sid) = false then
    (false, s.warn "Failed to create key for session existence")
  else
    let (answer, s) := ask cluster (.exists (session.key sid)) s
    if answer.err.code ≠ .ok ∧ answer.err.code ≠ .errRecordNotFound then
      (false, s.warn ("Existence check failed: " ++ answer.err.message))
    else (answer.err.code = .ok, s)

/-- The loop of `PS_CREATE_SID_FUNC`, from an attempt on and with the number of
attempts left. -/
def createSidLoop (createId : ℕ → Option String) :
    ℕ → ℕ → SessionState σ → Option String × SessionState σ
  | _, 0, s => (none, s)
  | attempt, left + 1, s =>
      match createId attempt with
      | none => createSidLoop createId (attempt + 1) left s
      | some sid =>
          let (found, s) := aerospikeSessionExists keyInit cluster session sid s
          if found then createSidLoop createId (attempt + 1) left s
          else (some sid, s)

/-- `PS_CREATE_SID_FUNC`, given the ids that `php_session_create_id` comes up
with. -/
def psCreateSid (createId : ℕ → Option String) (s : SessionState σ) :
    Option String × SessionState σ :=
  if verifySessionData session = false then (none, s)
  else createSidLoop keyInit cluster session createId 0 5 s

/-- `PS_VALIDATE_SID_FUNC`. -/
def psValidateSid (key : String) (s : SessionState σ) :
    PsResult × SessionState σ :=
  if verifySessionData session = false then (.failure, s)
  else
    let (found, s) := aerospikeSessionExists keyInit cluster session key s
    (.ofBool found, s)

/-- `PS_UPDATE_TIMESTAMP_FUNC`. -/
def psUpdateTimestamp (key : String) (maxlifetime : Int64) (s : SessionState σ) :
    PsResult × SessionState σ :=
  if verifySessionData session = false then
    (.failure, s.warn "Invalid session in update timestamp function")
  else if keyInit (session.key key) = false then (.failure, s)
  else
    let (answer, s) := ask cluster (.touch (session.key key) (toUint32 maxlifetime)) s
    (.ofBool (answer.err.code = .ok), s)

end

/-- A session on a client, with names that `as_key_init` accepts. -/
structure SessionData.Open (session : SessionData) : Prop where
  client : session.hasClient = true
  fits : NamesFit session.ns session.set

/-! ## New ids -/

/-- A cluster whose checks have these outcomes, one after the other, and that
keeps a log. -/
def Cluster.answering (outcome : ℕ → SessionAnswer) :
    Cluster (List (SessionCommand × SessionAnswer)) where
  ask command log := (outcome log.length, log ++ [(command, outcome log.length)])

section

variable {keyInit : AsKey → Bool} {session : SessionData}
variable {outcome : ℕ → SessionAnswer}

/-- The id that is handed out is the one of the last check, which found no
record. -/
def Confirmed (session : SessionData)
    (result : Option String × SessionState (List (SessionCommand × SessionAnswer))) :
    Prop :=
  ∀ sid, result.1 = some sid → ∃ before answer,
    result.2.cluster = before ++ [(.exists (session.key sid), answer)] ∧
      answer.err.code = .errRecordNotFound

/-- The first of these checks that does not find a record gets that very
answer. -/
def FirstMissSure (outcome : ℕ → SessionAnswer) (first count : ℕ) : Prop :=
  ∀ i, first ≤ i → i < first + count → (outcome i).err.code ≠ .ok →
    (outcome i).err.code ≠ .errRecordNotFound →
    ∃ j, first ≤ j ∧ j < i ∧ (outcome j).err.code = .errRecordNotFound

theorem firstMissSure_of_found {first count : ℕ}
    (hfound : (outcome first).err.code = .ok) :
    FirstMissSure outcome first (count + 1) ↔ FirstMissSure outcome (first + 1) count := by
  constructor
  · intro hsure i hfirst hlast hok hmiss
    obtain ⟨j, hj, hji, hcode⟩ := hsure i (by omega) (by omega) hok hmiss
    refine ⟨j, ?_, hji, hcode⟩
    by_contra hlow
    obtain rfl : j = first := by omega
    rw [hfound] at hcode
    cases hcode
  · intro hsure i hfirst hlast hok hmiss
    have hlater : first + 1 ≤ i := by
      by_contra hlow
      obtain rfl : i = first := by omega
      exact hok hfound
    obtain ⟨j, hj, hji, hcode⟩ := hsure i hlater (by omega) hok hmiss
    exact ⟨j, by omega, hji, hcode⟩

theorem firstMissSure_of_miss {first count : ℕ}
    (hmissed : (outcome first).err.code ≠ .ok) :
    FirstMissSure outcome first (count + 1) ↔
      (outcome first).err.code = .errRecordNotFound := by
  constructor
  · intro hsure
    by_contra hother
    obtain ⟨j, hj, hji, -⟩ := hsure first le_rfl (by omega) hmissed hother
    omega
  · intro hcode i hfirst hlast hok hmiss
    refine ⟨first, le_rfl, ?_, hcode⟩
    by_contra hlow
    obtain rfl : i = first := by omega
    exact hmiss hcode

/-- The ids that come up in the attempts. -/
def createdIds (createId : ℕ → Option String) (attempt left : ℕ) : List String :=
  (List.range' attempt left).filterMap createId

theorem keyInit_key (hinit : ∀ key, keyInit key = true ↔ NamesFit key.ns key.set)
    (hopen : session.Open) (sid : String) : keyInit (session.key sid) = true :=
  (hinit _).mpr hopen.fits

/-- What the existence check of an open session comes to. -/
theorem aerospikeSessionExists_open {σ : Type} {cluster : Cluster σ}
    (hinit : ∀ key, keyInit key = true ↔ NamesFit key.ns key.set)
    (hopen : session.Open) (sid : String) (s : SessionState σ) :
    (aerospikeSessionExists keyInit cluster session sid s).1 =
        decide ((cluster.ask (.exists (session.key sid)) s.cluster).1.err.code = .ok) ∧
      (aerospikeSessionExists keyInit cluster session sid s).2.cluster =
        (cluster.ask (.exists (session.key sid)) s.cluster).2 := by
  have hkey := keyInit_key hinit hopen sid
  unfold aerospikeSessionExists verifySessionData ask
  simp only [hopen.client, hkey, Bool.true_eq_false, if_false]
  split
  · next herror => exact ⟨by simp [herror.1], rfl⟩
  · exact ⟨rfl, rfl⟩

theorem createSidLoop_confirmed_iff
    (hinit : ∀ key, keyInit key = true ↔ NamesFit key.ns key.set)
    (hopen : session.Open) (createId : ℕ → Option String) (attempt left : ℕ)
    (s : SessionState (List (SessionCommand × SessionAnswer))) :
    Confirmed session (createSidLoop keyInit (.answering outcome) session createId
        attempt left s) ↔
      FirstMissSure outcome s.cluster.length
        (createdIds createId attempt left).length := by
  induction left generalizing attempt s with
  | zero =>
      constructor
      · intro _ i hfirst hlast
        simp only [createdIds, List.range'_zero, List.filterMap_nil, List.length_nil]
          at hlast
        omega
      · intro _ sid hsid
        cases hsid
  | succ left ih =>
      rw [createSidLoop, createdIds, List.range'_succ, List.filterMap_cons]
      cases hid : createId attempt with
      | none => exact ih (attempt + 1) s
      | some sid =>
          obtain ⟨hfound, hcluster⟩ := @aerospikeSessionExists_open keyInit session
            _ (.answering outcome) hinit hopen sid s
          simp only [List.length_cons]
          by_cases hok : (outcome s.cluster.length).err.code = .ok
          · have htaken : (aerospikeSessionExists keyInit (.answering outcome) session
                sid s).1 = true := by
              rw [hfound]
              exact decide_eq_true hok
            have hlog : (aerospikeSessionExists keyInit (.answering outcome) session
                sid s).2.cluster.length = s.cluster.length + 1 := by
              rw [hcluster]
              exact List.length_append
            rw [if_pos htaken, ih, hlog, firstMissSure_of_found hok]
            rfl
          · have hfree : ¬ (aerospikeSessionExists keyInit (.answering outcome) session
                sid s).1 = true := by
              rw [hfound]
              exact fun htrue => hok (of_decide_eq_true htrue)
            rw [if_neg hfree, firstMissSure_of_miss hok]
            have hlog : (aerospikeSessionExists keyInit (.answering outcome) session
                sid s).2.cluster = s.cluster ++
                  [(.exists (session.key sid), outcome s.cluster.length)] := hcluster
            constructor
            · intro hconfirmed
              obtain ⟨before, answer, hlast, hcode⟩ := hconfirmed sid rfl
              rw [hlog] at hlast
              have hentry := (List.append_inj' hlast rfl).2
              simp only [List.cons.injEq, Prod.mk.injEq, true_and, and_true] at hentry
              rw [hentry]
              exact hcode
            · rintro hcode _ ⟨⟩
              exact ⟨s.cluster, _, hlog, hcode⟩

/-- An id that is handed out was found to be free by its own check if and only if
the first check that does not find a record says so. -/
theorem psCreateSid_confirmed_iff
    (hinit : ∀ key, keyInit key = true ↔ NamesFit key.ns key.set)
    (hopen : session.Open) (createId : ℕ → Option String)
    (outcome : ℕ → SessionAnswer) (warnings : List String) :
    Confirmed session (psCreateSid keyInit (.answering outcome) session createId
        ⟨[], warnings⟩) ↔
      FirstMissSure outcome 0 (createdIds createId 0 5).length := by
  rw [psCreateSid, verifySessionData, if_neg (by simp [hopen.client])]
  exact createSidLoop_confirmed_iff hinit hopen createId 0 5 ⟨[], warnings⟩

end

/-! ## A plain session -/

/-- The names that `as_key_init` accepts. -/
def keyInitByNames (key : AsKey) : Bool := NamesFit key.ns key.set

def SessionData.plain : SessionData := ⟨true, "test", "sessions"⟩

theorem SessionData.plain_open : SessionData.plain.Open := ⟨rfl, by decide⟩

theorem keyInitByNames_iff (key : AsKey) :
    keyInitByNames key = true ↔ NamesFit key.ns key.set := decide_eq_true_iff

/-- The first check finds a record, the others do not. -/
def secondFree : ℕ → SessionAnswer
  | 0 => ⟨.init, none⟩
  | _ + 1 => ⟨⟨.errRecordNotFound, "", false⟩, none⟩

theorem psCreateSid_confirmed_secondFree :
    Confirmed .plain (psCreateSid keyInitByNames (.answering secondFree) .plain
      (fun attempt => some (toString attempt)) ⟨[], []⟩) := by
  refine (psCreateSid_confirmed_iff keyInitByNames_iff SessionData.plain_open _ _ _).mpr ?_
  intro i _ _ hok hmiss
  cases i with
  | zero => exact absurd rfl hok
  | succ i => exact absurd rfl hmiss

/-- Every check fails with a timeout, and the first id is handed out. -/
theorem uncheckedId_handedOut :
    let result := psCreateSid keyInitByNames
      (.answering fun _ => ⟨⟨.other 9, "AEROSPIKE_ERR_TIMEOUT", false⟩, none⟩)
      .plain (fun _ => some "b2k4") ⟨[], []⟩
    result.1 = some "b2k4" ∧ ¬ Confirmed .plain result := by
  intro result
  refine ⟨rfl, fun hconfirmed => ?_⟩
  obtain ⟨before, answer, hlog, hcode⟩ := hconfirmed "b2k4" rfl
  have hlast : [(SessionCommand.exists (SessionData.plain.key "b2k4"),
      (⟨⟨.other 9, "AEROSPIKE_ERR_TIMEOUT", false⟩, none⟩ : SessionAnswer))] =
      before ++ [(.exists (SessionData.plain.key "b2k4"), answer)] := hlog
  have hanswer := congrArg (fun log => log.getLast?.map fun entry => entry.2.err.code) hlast
  simp [hcode] at hanswer

end AerospikePhp
