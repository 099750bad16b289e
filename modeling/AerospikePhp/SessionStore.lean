import AerospikePhp.Library.Refinement
import AerospikePhp.Sessions
import Mathlib.Tactic

/-!
# Sessions as a map from ids to bytes

The cluster as an atomic store of records, the handler over it, and the map
from session ids to bytes that the two come to for all sessions on one
namespace and set.
-/

namespace AerospikePhp

open Refinement System

/-! ## The store -/

/-- The records of the cluster. -/
abbrev Store := AsKey → Option AsRecord

/-- A record after a put, which sets the bins that it is given. -/
def mergeRecord : Option AsRecord → AsRecord → AsRecord
  | none, record => { record with gen := 1 }
  | some old, record =>
      ⟨old.gen + 1, record.ttl, record.bins.foldl
        (fun bins bin => setBin bins bin.1 bin.2) old.bins⟩

def answerOk (record : Option AsRecord) : SessionAnswer := ⟨.init, record⟩

def answerMissing : SessionAnswer :=
  ⟨⟨.errRecordNotFound, "AEROSPIKE_ERR_RECORD_NOT_FOUND", false⟩, none⟩

/-- A cluster that carries out each command at once. -/
def Cluster.atomic : Cluster Store where
  ask
    | .put key record, store =>
        (answerOk none,
          Function.update store key (some (mergeRecord (store key) record)))
    | .remove key, store =>
        match store key with
        | none => (answerMissing, store)
        | some _ => (answerOk none, Function.update store key none)
    | .get key, store | .exists key, store =>
        match store key with
        | none => (answerMissing, store)
        | some record => (answerOk (some record), store)
    | .touch key ttl, store =>
        match store key with
        | none => (answerMissing, store)
        | some record =>
            (answerOk none, Function.update store key
              (some { record with gen := record.gen + 1, ttl := ttl }))

/-- The state with this record under the key, or none. -/
def SessionState.set (s : SessionState Store) (key : AsKey)
    (record : Option AsRecord) : SessionState Store :=
  { s with cluster := Function.update s.cluster key record }

/-! ## Calls of the handler -/

inductive SessionOp where
  | write (sid value : String) (maxlifetime : Int64)
  | read (sid : String)
  | destroy (sid : String)
  | updateTimestamp (sid : String) (maxlifetime : Int64)
  | validateSid (sid : String)

/-- A call, by the session that makes it. -/
structure SessionCall where
  session : SessionData
  op : SessionOp

inductive SessionReply where
  | done (result : PsResult)
  | data (result : PsResult) (value : Option String)
  deriving DecidableEq

def SessionOp.sid : SessionOp → String
  | .write sid _ _ | .read sid | .destroy sid | .updateTimestamp sid _
  | .validateSid sid => sid

section

variable (keyInit : AsKey → Bool)

/-- The handler over the store. -/
def sessionHandler : System (SessionState Store) SessionCall SessionReply where
  step s call :=
    match call.op with
    | .write sid value maxlifetime =>
        (psWrite keyInit .atomic call.session sid value maxlifetime s).map .done id
    | .read sid =>
        (psRead keyInit .atomic call.session sid s).map
          (fun result => .data result.1 result.2) id
    | .destroy sid => (psDestroy keyInit .atomic call.session sid s).map .done id
    | .updateTimestamp sid maxlifetime =>
        (psUpdateTimestamp keyInit .atomic call.session sid maxlifetime s).map .done id
    | .validateSid sid =>
        (psValidateSid keyInit .atomic call.session sid s).map .done id

end

/-! ## What the handler is for -/

/-- The bytes stored for each id. -/
abbrev SessionMap := String → Option String

def SessionMap.reply (map : SessionMap) : SessionOp → SessionReply
  | .write _ _ _ | .destroy _ => .done .success
  | .read sid => .data .success (some ((map sid).getD ""))
  | .updateTimestamp sid _ | .validateSid sid => .done (.ofBool (map sid).isSome)

def SessionMap.next (map : SessionMap) : SessionOp → SessionMap
  | .write sid value _ => Function.update map sid (some value)
  | .destroy sid => Function.update map sid none
  | .read _ | .updateTimestamp _ _ | .validateSid _ => map

/-- A map from session ids to bytes. -/
def sessionMap : System SessionMap SessionCall SessionReply where
  step map call := (map.reply call.op, map.next call.op)

/-- The value that the history leaves for the id: that of the last write if
no destroy came after it. -/
def stored (history : List SessionCall) (sid : String) : Option String :=
  (history.reverse.findSome? fun call =>
    match call.op with
    | .write sid' value _ => if sid' = sid then some (some value) else none
    | .destroy sid' => if sid' = sid then some none else none
    | _ => none).join

theorem sessionMap_after (history : List SessionCall) :
    sessionMap.after (fun _ => none) history = stored history := by
  induction history using List.reverseRecOn with
  | nil => rfl
  | append_singleton history call ih =>
      rw [after_concat, ih]
      funext sid
      obtain ⟨session, op⟩ := call
      unfold stored
      rw [List.reverse_concat, List.findSome?_cons]
      cases op with
      | write sid' value maxlifetime =>
          by_cases hsid : sid' = sid
          · subst hsid
            simp [sessionMap, SessionMap.next]
          · have hsid' : sid ≠ sid' := fun heq => hsid heq.symm
            simp [sessionMap, SessionMap.next, hsid, hsid', Function.update_of_ne]
      | read sid' => rfl
      | destroy sid' =>
          by_cases hsid : sid' = sid
          · subst hsid
            simp [sessionMap, SessionMap.next]
          · have hsid' : sid ≠ sid' := fun heq => hsid heq.symm
            simp [sessionMap, SessionMap.next, hsid, hsid', Function.update_of_ne]
      | updateTimestamp sid' maxlifetime => rfl
      | validateSid sid' => rfl

/-! ## The simulation -/

/-- The record holds these bytes and nothing else. -/
def HoldsBytes : Option AsRecord → Option String → Prop
  | none, none => True
  | some record, some value =>
      record.bins = [(aerospikeSessionBin, .bytes .php value)]
  | _, _ => False

theorem holdsBytes_cases {record : Option AsRecord} {value : Option String}
    (hholds : HoldsBytes record value) :
    (record = none ∧ value = none) ∨ ∃ held bytes, record = some held ∧
      value = some bytes ∧ held.bins = [(aerospikeSessionBin, .bytes .php bytes)] := by
  cases record with
  | none =>
      cases value with
      | none => exact .inl ⟨rfl, rfl⟩
      | some bytes => exact hholds.elim
  | some held =>
      cases value with
      | none => exact hholds.elim
      | some bytes => exact .inr ⟨held, bytes, rfl, rfl, hholds⟩

def sessionKey (ns set sid : String) : AsKey := ⟨ns, set, .string sid, none⟩

/-- The store has the bytes of the map under the keys of the namespace and the
set. -/
def StoresMap (ns set : String) (s : SessionState Store) (map : SessionMap) : Prop :=
  ∀ sid, NulFree sid → HoldsBytes (s.cluster (sessionKey ns set sid)) (map sid)

/-- A call of an open session on the namespace and the set, with an id that is a
C string. -/
structure CallsOn (ns set : String) (call : SessionCall) : Prop where
  isOpen : call.session.Open
  ns : call.session.ns = ns
  set : call.session.set = set
  sid : NulFree call.op.sid

/-- A value that is written is shorter than 2³² bytes. -/
def SizeFits : SessionOp → Prop
  | .write _ value _ => value.length < 2 ^ 32
  | _ => True

section

variable {keyInit : AsKey → Bool} {ns set : String}

theorem CallsOn.key {call : SessionCall} (hcall : CallsOn ns set call) :
    call.session.key call.op.sid = sessionKey ns set call.op.sid := by
  unfold SessionData.key sessionKey
  rw [hcall.ns, hcall.set, (cString_eq_self_iff _).mpr hcall.sid]

/-- Setting the record and the bytes of one id keeps the others. -/
theorem StoresMap.update {s : SessionState Store} {map : SessionMap}
    (hstores : StoresMap ns set s map) {sid : String} {record : Option AsRecord}
    {value : Option String} (hholds : HoldsBytes record value) :
    StoresMap ns set (s.set (sessionKey ns set sid) record)
      (Function.update map sid value) := by
  intro sid' hsid'
  by_cases hsame : sid' = sid
  · subst hsame
    simpa [SessionState.set] using hholds
  · have hkey : sessionKey ns set sid' ≠ sessionKey ns set sid := by
      intro heq
      exact hsame (AsKeyValue.string.inj (congrArg AsKey.value heq))
    simp only [SessionState.set, Function.update_of_ne hkey,
      Function.update_of_ne hsame]
    exact hstores sid' hsid'

theorem holdsBytes_merge {record : Option AsRecord} {value : Option String}
    (hholds : HoldsBytes record value) (ttl : ℕ) (new : String) :
    HoldsBytes (some (mergeRecord record
      ⟨0, ttl, [(aerospikeSessionBin, .bytes .php new)]⟩)) (some new) := by
  cases record with
  | none => rfl
  | some old =>
      cases value with
      | none => exact hholds.elim
      | some bytes =>
          have hbins : old.bins = [(aerospikeSessionBin, .bytes .php bytes)] := hholds
          show List.foldl _ old.bins _ = _
          rw [hbins]
          rfl

end

/-! ## The handler over the store -/

section

variable {keyInit : AsKey → Bool} {session : SessionData}
variable (hinit : ∀ key, keyInit key = true ↔ NamesFit key.ns key.set)
variable (hopen : session.Open) (sid : String) (s : SessionState Store)

include hinit hopen

theorem psWrite_atomic (value : String) (maxlifetime : Int64) :
    psWrite keyInit .atomic session sid value maxlifetime s =
      (.success, s.set (session.key sid) (some (mergeRecord
        (s.cluster (session.key sid)) ⟨0, toUint32 maxlifetime,
          [(aerospikeSessionBin, rawBytes value .php)]⟩))) := by
  have hkey := keyInit_key hinit hopen sid
  rw [psWrite, verifySessionData, hopen.client, hkey]
  rfl

theorem psDestroy_atomic :
    psDestroy keyInit .atomic session sid s =
      (.success, s.set (session.key sid) none) := by
  have hkey := keyInit_key hinit hopen sid
  rw [psDestroy, verifySessionData, hopen.client, hkey]
  cases hrecord : s.cluster (session.key sid) with
  | none =>
      have hsame : Function.update s.cluster (session.key sid) none = s.cluster := by
        rw [← hrecord, Function.update_eq_self]
      simp [ask, Cluster.atomic, hrecord, hsame, answerMissing, PsResult.ofBool,
        SessionState.set]
  | some record =>
      simp [ask, Cluster.atomic, hrecord, answerOk, PsResult.ofBool,
        SessionState.set]

theorem psRead_atomic :
    psRead keyInit .atomic session sid s =
      match s.cluster (session.key sid) with
      | none => ((.success, some ""), s)
      | some record =>
          match sessionValue (asRecordGet record aerospikeSessionBin) with
          | .ok value => ((.success, some value), s)
          | .error message => ((.failure, none), s.warn message) := by
  have hkey := keyInit_key hinit hopen sid
  rw [psRead, verifySessionData, hopen.client, hkey]
  cases hrecord : s.cluster (session.key sid) with
  | none => simp [ask, Cluster.atomic, hrecord, answerMissing]
  | some record =>
      simp only [ask, Cluster.atomic, hrecord, answerOk]
      rfl

theorem psUpdateTimestamp_atomic (maxlifetime : Int64) :
    psUpdateTimestamp keyInit .atomic session sid maxlifetime s =
      match s.cluster (session.key sid) with
      | none => (.failure, s)
      | some record => (.success, s.set (session.key sid) (some
          { record with gen := record.gen + 1, ttl := toUint32 maxlifetime })) := by
  have hkey := keyInit_key hinit hopen sid
  rw [psUpdateTimestamp, verifySessionData, hopen.client, hkey]
  cases hrecord : s.cluster (session.key sid) with
  | none => simp [ask, Cluster.atomic, hrecord, answerMissing, PsResult.ofBool]
  | some record =>
      simp [ask, Cluster.atomic, hrecord, answerOk, PsResult.ofBool, SessionState.set]

theorem psValidateSid_atomic :
    psValidateSid keyInit .atomic session sid s =
      (.ofBool (s.cluster (session.key sid)).isSome, s) := by
  have hkey := keyInit_key hinit hopen sid
  rw [psValidateSid, aerospikeSessionExists, verifySessionData, hopen.client, hkey]
  cases hrecord : s.cluster (session.key sid) with
  | none => simp [ask, Cluster.atomic, hrecord, answerMissing]
  | some record => simp [ask, Cluster.atomic, hrecord, answerOk]

end

section

variable {keyInit : AsKey → Bool} {ns set : String}

/-- One call of the handler does what the map does. -/
theorem sessionHandler_refines
    (hinit : ∀ key, keyInit key = true ↔ NamesFit key.ns key.set) :
    StepRefines (sessionHandler keyInit) sessionMap (StoresMap ns set)
      (fun call => CallsOn ns set call ∧ SizeFits call.op) := by
  rintro s map ⟨session, op⟩ hstores ⟨hcall, hsize⟩
  have hopen : session.Open := hcall.isOpen
  have hkey := hcall.key
  have hheld := holdsBytes_cases (hstores op.sid hcall.sid)
  cases op with
  | write sid value maxlifetime =>
      have hkey' : session.key sid = sessionKey ns set sid := hkey
      simp only [sessionHandler, psWrite_atomic hinit hopen, hkey',
        rawBytes_of_short hsize, Prod.map]
      exact ⟨rfl, hstores.update (holdsBytes_merge (hstores sid hcall.sid) _ value)⟩
  | read sid =>
      have hkey' : session.key sid = sessionKey ns set sid := hkey
      simp only [sessionHandler, psRead_atomic hinit hopen, hkey', Prod.map]
      rcases hheld with ⟨hrecord, hvalue⟩ | ⟨record, value, hrecord, hvalue, hbins⟩
      · have hrecord' : s.cluster (sessionKey ns set sid) = none := hrecord
        have hvalue' : map sid = none := hvalue
        simp only [hrecord', sessionMap, SessionMap.reply, SessionMap.next, hvalue']
        exact ⟨rfl, hstores⟩
      · have hrecord' : s.cluster (sessionKey ns set sid) = some record := hrecord
        have hvalue' : map sid = some value := hvalue
        have hget : asRecordGet record aerospikeSessionBin = some (.bytes .php value) := by
          rw [asRecordGet, hbins]
          rfl
        simp only [hrecord', sessionMap, SessionMap.reply, SessionMap.next, hvalue', hget, sessionValue]
        exact ⟨rfl, hstores⟩
  | destroy sid =>
      have hkey' : session.key sid = sessionKey ns set sid := hkey
      simp only [sessionHandler, psDestroy_atomic hinit hopen, hkey', Prod.map]
      exact ⟨rfl, hstores.update trivial⟩
  | updateTimestamp sid maxlifetime =>
      have hkey' : session.key sid = sessionKey ns set sid := hkey
      simp only [sessionHandler, psUpdateTimestamp_atomic hinit hopen, hkey', Prod.map]
      rcases hheld with ⟨hrecord, hvalue⟩ | ⟨record, value, hrecord, hvalue, hbins⟩
      · have hrecord' : s.cluster (sessionKey ns set sid) = none := hrecord
        have hvalue' : map sid = none := hvalue
        simp only [hrecord', sessionMap, SessionMap.reply, SessionMap.next, hvalue']
        exact ⟨rfl, hstores⟩
      · have hrecord' : s.cluster (sessionKey ns set sid) = some record := hrecord
        have hvalue' : map sid = some value := hvalue
        have hsame : Function.update map sid (some value) = map := by
          rw [← hvalue', Function.update_eq_self]
        have htouched : HoldsBytes (some { record with
            gen := record.gen + 1, ttl := toUint32 maxlifetime }) (some value) := hbins
        have hkept := @StoresMap.update _ _ _ _ hstores sid _ _ htouched
        rw [hsame] at hkept
        simp only [hrecord', sessionMap, SessionMap.reply, SessionMap.next, hvalue']
        exact ⟨rfl, hkept⟩
  | validateSid sid =>
      have hkey' : session.key sid = sessionKey ns set sid := hkey
      simp only [sessionHandler, psValidateSid_atomic hinit hopen, hkey', Prod.map]
      rcases hheld with ⟨hrecord, hvalue⟩ | ⟨record, value, hrecord, hvalue, hbins⟩
      · have hrecord' : s.cluster (sessionKey ns set sid) = none := hrecord
        have hvalue' : map sid = none := hvalue
        simp only [hrecord', sessionMap, SessionMap.reply, SessionMap.next, hvalue']
        exact ⟨rfl, hstores⟩
      · have hrecord' : s.cluster (sessionKey ns set sid) = some record := hrecord
        have hvalue' : map sid = some value := hvalue
        simp only [hrecord', sessionMap, SessionMap.reply, SessionMap.next, hvalue']
        exact ⟨rfl, hstores⟩

/-- A touch leaves the bins of every record alone. -/
theorem psUpdateTimestamp_bins {session : SessionData}
    (hinit : ∀ key, keyInit key = true ↔ NamesFit key.ns key.set)
    (hopen : session.Open) (sid : String) (maxlifetime : Int64)
    (s : SessionState Store) (key : AsKey) :
    ((psUpdateTimestamp keyInit .atomic session sid maxlifetime s).2.cluster key).map
      AsRecord.bins = (s.cluster key).map AsRecord.bins := by
  rw [psUpdateTimestamp_atomic hinit hopen]
  cases hrecord : s.cluster (session.key sid) with
  | none => rfl
  | some record =>
      by_cases hkey : key = session.key sid
      · subst hkey
        simp [SessionState.set, hrecord]
      · simp [SessionState.set, Function.update_of_ne hkey]

/-- After any history of calls by open sessions, all of whose values are shorter
than 2³² bytes, the handler replies as the map of the stored bytes does, and a
touch changes no bins. -/
theorem sessions_keepBytes
    (hinit : ∀ key, keyInit key = true ↔ NamesFit key.ns key.set)
    {s : SessionState Store} (hempty : ∀ sid, s.cluster (sessionKey ns set sid) = none)
    {history : List SessionCall} {call : SessionCall}
    (hcalls : ∀ call' ∈ history ++ [call], CallsOn ns set call')
    (hsizes : ∀ call' ∈ history ++ [call], SizeFits call'.op) :
    (sessionHandler keyInit).reply s history call =
        SessionMap.reply (stored history) call.op ∧
      ∀ sid maxlifetime, call.op = .updateTimestamp sid maxlifetime → ∀ key,
        (((sessionHandler keyInit).after s (history ++ [call])).cluster key).map
            AsRecord.bins =
          (((sessionHandler keyInit).after s history).cluster key).map
            AsRecord.bins := by
  have hstart : StoresMap ns set s fun _ => none := by
    intro sid _
    rw [hempty]
    trivial
  constructor
  · have hreply := (@sessionHandler_refines keyInit ns set hinit).reply hstart
      (fun earlier hmem => ⟨hcalls earlier (List.mem_append_left _ hmem),
        hsizes earlier (List.mem_append_left _ hmem)⟩)
      ⟨hcalls call (by simp), hsizes call (by simp)⟩
    rw [hreply, System.reply, sessionMap_after]
    rfl
  · intro sid maxlifetime hop key
    obtain ⟨session, op⟩ := call
    obtain rfl : op = .updateTimestamp sid maxlifetime := hop
    have hopen : session.Open :=
      (hcalls ⟨session, .updateTimestamp sid maxlifetime⟩ (by simp)).isOpen
    rw [after_concat]
    exact psUpdateTimestamp_bins hinit hopen sid maxlifetime _ key

/-- A value of 2³² bytes is stored as none. -/
theorem huge_stored_empty {value : String} (hsize : value.length = 2 ^ 32) :
    rawBytes value .php = .bytes .php "" := by
  rw [rawBytes, uint32Prefix, hsize, Nat.mod_self, List.take_zero]

end

/-! ## Runs -/

theorem plain_callsOn (op : SessionOp) (hsid : NulFree op.sid) :
    CallsOn "test" "sessions" ⟨.plain, op⟩ :=
  ⟨SessionData.plain_open, rfl, rfl, hsid⟩

/-- Bytes with a NUL are read back after a touch. -/
theorem sessions_keepBytes_nul :
    (sessionHandler keyInitByNames).reply ⟨fun _ => none, []⟩
      [⟨.plain, .write "b2k4" "a\x00b" 1440⟩, ⟨.plain, .updateTimestamp "b2k4" 1440⟩]
      ⟨.plain, .read "b2k4"⟩ = .data .success (some "a\x00b") := by
  have hcalls : ∀ call ∈ [(⟨.plain, .write "b2k4" "a\x00b" 1440⟩ : SessionCall),
      ⟨.plain, .updateTimestamp "b2k4" 1440⟩] ++ [⟨.plain, .read "b2k4"⟩],
      CallsOn "test" "sessions" call := by
    intro call hmem
    simp only [List.cons_append, List.nil_append, List.mem_cons, List.not_mem_nil,
      or_false] at hmem
    rcases hmem with rfl | rfl | rfl <;> exact plain_callsOn _ (by decide)
  have hsizes : ∀ call ∈ [(⟨.plain, .write "b2k4" "a\x00b" 1440⟩ : SessionCall),
      ⟨.plain, .updateTimestamp "b2k4" 1440⟩] ++ [⟨.plain, .read "b2k4"⟩],
      SizeFits call.op := by
    intro call hmem
    simp only [List.cons_append, List.nil_append, List.mem_cons, List.not_mem_nil,
      or_false] at hmem
    rcases hmem with rfl | rfl | rfl
    · exact (by decide : "a\x00b".length < 2 ^ 32)
    · trivial
    · trivial
  exact (sessions_keepBytes keyInitByNames_iff (fun _ => rfl) hcalls hsizes).1

theorem after_write (keyInit : AsKey → Bool) (s : SessionState Store)
    (session : SessionData) (sid value : String) (maxlifetime : Int64) :
    (sessionHandler keyInit).after s [⟨session, .write sid value maxlifetime⟩] =
      (psWrite keyInit .atomic session sid value maxlifetime s).2 := rfl

theorem step_read (keyInit : AsKey → Bool) (s : SessionState Store)
    (session : SessionData) (sid : String) :
    ((sessionHandler keyInit).step s ⟨session, .read sid⟩).1 =
      .data (psRead keyInit .atomic session sid s).1.1
        (psRead keyInit .atomic session sid s).1.2 := rfl

theorem huge_read_empty {value : String} (hsize : value.length = 2 ^ 32) :
    (sessionHandler keyInitByNames).reply ⟨fun _ => none, []⟩
        [⟨.plain, .write "b2k4" value 1440⟩] ⟨.plain, .read "b2k4"⟩ =
      .data .success (some "") := by
  rw [System.reply, after_write, step_read,
    psWrite_atomic keyInitByNames_iff SessionData.plain_open, huge_stored_empty hsize,
    psRead_atomic keyInitByNames_iff SessionData.plain_open]
  simp [SessionState.set, mergeRecord, asRecordGet, sessionValue]

/-- A value of 2³² bytes. -/
def hugeValue : String := String.ofList (List.replicate (2 ^ 32) 'a')

/-- What is read is empty, and not the value that was written. -/
theorem hugeValue_lost :
    (sessionHandler keyInitByNames).reply ⟨fun _ => none, []⟩
        [⟨.plain, .write "b2k4" hugeValue 1440⟩] ⟨.plain, .read "b2k4"⟩ =
      .data .success (some "") ∧ hugeValue ≠ "" := by
  have hsize : hugeValue.length = 2 ^ 32 := length_ofList_replicate (2 ^ 32) 'a'
  refine ⟨huge_read_empty hsize, ?_⟩
  intro hempty
  rw [hempty] at hsize
  simp at hsize

end AerospikePhp
