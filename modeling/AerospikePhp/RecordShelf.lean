import AerospikePhp.RecordRows
import AerospikePhp.RecordBatches
import AerospikePhp.KeyRoundTrips
import Mathlib.Tactic

/-!
# Whole records as a shelf of PHP arrays

Over any history of calls of `put`, `get`, `exists`, `remove`, `getMany` and
`existsMany`, by any objects with any policies that set no condition, the
methods over the cluster reply as the shelf does: what was put is what is read,
values that are put twice are replaced, and a batch reads what single calls
read.
-/

namespace AerospikePhp

set_option synthInstance.maxSize 1024

open Refinement System AssociationList List Method

/-! ## Calls and operations -/

/-- The policy lets every put through. -/
structure PolicyWrite.Unconditional (policy : PolicyWrite) : Prop where
  gen : policy.gen = 0
  «exists» : policy.exists = 0

/-- A list of bin names that says itself where it ends. -/
def NamesDelimited : Option (List String) → Prop
  | none => True
  | some names => names ≠ [] ∧ "" ∉ names

/-- What a `get` with these names asks for. -/
def readRequest (policy : PolicyRead) (key : AsKey) :
    Option (List String) → Request
  | none => .keyGet policy key
  | some names => .keySelect policy key names

def RecordOp.verdict (engine : Engine) (client : Client) (policies : Policies) :
    RecordOp → Verdict Request
  | .put args => putVerdict engine client policies args
  | .get args => getVerdict engine client.hasClient policies (some args)
  | .exists args => existsVerdict engine client policies args
  | .remove args => removeVerdict engine client policies args
  | .getMany args => getManyVerdict engine client policies args
  | .existsMany args => existsManyVerdict engine client policies args

/-- The key arrays of a batch. -/
def RecordOp.batchKeys : RecordOp → List Zval
  | .getMany args => HashTable.values args.keys
  | .existsMany args => HashTable.values args.keys
  | _ => []

/-- What a call asks of the shelf. -/
inductive Asks (engine : Engine) : RecordCall → ShelfOp → Prop
  | put {client : Client} {policies : Policies} {clientError : AsError}
      {args : PutArgs} {policy : Option PolicyWrite} {key : AsKey}
      {record : AsRecord} {bins : HashTable}
      (hverdict : putVerdict engine client policies args =
        .ok (.keyPut policy key record))
      (hplain : (policy.getD policies.write).Unconditional)
      (hstore : args.store = .array bins)
      (hwhole : StoredWhole engine.rt (callSerializer engine args.policy)
        (.array bins)) (hfew : bins.length < 2 ^ 16) :
      Asks engine ⟨client, policies, clientError, .put args⟩
        (.put (engine.place key) bins)
  | get {client : Client} {policies : Policies} {clientError : AsError}
      {args : GetArgs} {policy : PolicyRead} {key : AsKey}
      {names : Option (List String)} (hready : client.Ready)
      (hpolicy : policyOf (zvalToAsPolicyRead engine.init.read args.policy
        policies.read) = .ok policy)
      (hkey : keyOf engine.keyInit args.key = some key)
      (hvalues : policy.deserialize = true)
      (hrequest : filterRequest policy key args.filter =
        some (readRequest policy key names))
      (hnamed : strlen key.ns ≠ 0) (hnames : NamesDelimited names) :
      Asks engine ⟨client, policies, clientError, .get args⟩
        (.get (engine.place key) names)
  | «exists» {client : Client} {policies : Policies} {clientError : AsError}
      {args : ExistsArgs} {policy : PolicyRead} {key : AsKey}
      (hverdict : existsVerdict engine client policies args =
        .ok (.keyExists policy key)) :
      Asks engine ⟨client, policies, clientError, .exists args⟩
        (.exists (engine.place key))
  | remove {client : Client} {policies : Policies} {clientError : AsError}
      {args : RemoveArgs} {policy : PolicyRemove} {key : AsKey}
      (hverdict : removeVerdict engine client policies args =
        .ok (.keyRemove policy key)) (hplain : policy.gen = 0) :
      Asks engine ⟨client, policies, clientError, .remove args⟩
        (.remove (engine.place key))
  | getMany {client : Client} {policies : Policies} {clientError : AsError}
      {args : GetManyArgs} {policy : Option PolicyBatch} {keys : List AsKey}
      {names : Option (List String)}
      (hpolicy : batchVerdict engine client policies args.policy = .ok policy)
      (hvalues : (policy.getD policies.batch).deserialize = true)
      (hfilter : batchBinNames args.filter = .ok names)
      (hkeys : keysEnd engine.keyInit (HashTable.values args.keys) =
        .converted keys)
      (hnamed : ∀ key ∈ keys, strlen key.ns ≠ 0) (hnames : NamesDelimited names) :
      Asks engine ⟨client, policies, clientError, .getMany args⟩
        (.getMany (keys.map engine.place) names)
  | existsMany {client : Client} {policies : Policies} {clientError : AsError}
      {args : ExistsManyArgs} {policy : Option PolicyBatch} {keys : List AsKey}
      (hpolicy : batchVerdict engine client policies args.policy = .ok policy)
      (hkeys : keysEnd engine.keyInit (HashTable.values args.keys) =
        .converted keys)
      (hnamed : ∀ key ∈ keys, strlen key.ns ≠ 0) :
      Asks engine ⟨client, policies, clientError, .existsMany args⟩
        (.existsMany (keys.map engine.place))
  | nothing {call : RecordCall}
      (hlost : keysEnd engine.keyInit call.op.batchKeys ≠ .lost)
      (hverdict : call.op.verdict engine call.client call.policies =
        .error .failed) : Asks engine call .nothing

/-! ## Outcomes and replies -/

def ShowsMetadata (gen : ℕ) (z : Zval) : Prop :=
  ∃ ttl, z = .array [(.str "ttl", ttl),
    (.str "generation", .long (Int64.ofNat gen))]

def ShowsRow (row : Row) (z : Zval) : Prop :=
  ∃ zKey zMeta bins, z = .array [(.str "key", zKey), (.str "metadata", zMeta),
      (.str "bins", .array bins)] ∧
    ShowsMetadata row.gen zMeta ∧ SameTable row.bins bins

/-- An entry of `getMany`. -/
def ShowsRead : Option Row → Zval → Prop
  | some row, z => ShowsRow row z
  | none, z => ∃ zKey, z = missingEntry zKey

/-- An entry of `existsMany`. -/
def ShowsKnown : Option ℕ → Zval → Prop
  | some gen, z => ∃ zKey zMeta, z = existsEntry zKey zMeta ∧
      ShowsMetadata gen zMeta
  | none, z => ∃ zKey, z = existsEntry zKey .null

/-- The call tells the program what the shelf replies. -/
def Shows (outcome : Outcome) : ShelfReply → Prop
  | .done => outcome.reply = some (.long .ok)
  | .missing => outcome.reply = some (.long .errRecordNotFound)
  | .refused => ∃ reply, outcome.reply = some reply ∧ reply.Failed
  | .row row => outcome.Returns fun output =>
      ∃ z, output = some z ∧ ShowsRow row z
  | .known gen => outcome.Returns fun output =>
      ∃ z, output = some z ∧ ShowsMetadata gen z
  | .rows rows => outcome.Returns fun output =>
      ∃ zs, output = some (.array (HashTable.ofValues zs)) ∧
        Forall₂ ShowsRead rows zs
  | .gens gens => outcome.Returns fun output =>
      ∃ zs, output = some (.array (HashTable.ofValues zs)) ∧
        Forall₂ ShowsKnown gens zs

/-- The records of the cluster stand for the rows. -/
def Stocks (rt : Runtime) (records : Records) (shelf : Shelf) : Prop :=
  ∀ place, Option.Rel (HoldsRow rt) (records place) (shelf place)

section

variable {rt : Runtime} {records : Records} {shelf : Shelf}

theorem Stocks.update (hstocks : Stocks rt records shelf) (place : Place)
    {record : Option AsRecord} {row : Option Row}
    (hholds : Option.Rel (HoldsRow rt) record row) :
    Stocks rt (Function.update records place record)
      (Function.update shelf place row) := by
  intro place'
  by_cases hplace : place' = place
  · subst hplace
    simpa using hholds
  · rw [Function.update_of_ne hplace, Function.update_of_ne hplace]
    exact hstocks place'

theorem showsMetadata_of_holds {record : AsRecord} {row : Row}
    (hold : HoldsRow rt record row) :
    ShowsMetadata row.gen (asRecordToZMetadata record) :=
  ⟨.long (Int64.ofNat record.ttl), by rw [← hold.gen]; rfl⟩

/-- A record that stands for a row is shown as the row, under any key with a
namespace. -/
theorem recordZval_shows {record : AsRecord} {row : Row}
    (hold : HoldsRow rt record row) {key : AsKey} (hnamed : strlen key.ns ≠ 0)
    (showPk : Bool) :
    ∃ z, recordZval rt record key showPk = some z ∧ ShowsRow row z := by
  obtain ⟨table, hdecode, hsame⟩ := hold.decodes
  obtain ⟨zKey, hkey⟩ := Option.isSome_iff_exists.mp
    ((keyZval_isSome_iff key showPk).mpr hnamed)
  refine ⟨_, ?_, zKey, asRecordToZMetadata record, table, rfl,
    showsMetadata_of_holds hold, hsame⟩
  unfold recordZval
  rw [hdecode, hkey]
  rfl

end

section

variable {engine : Engine} {oracle : Oracle} {records : Records} {shelf : Shelf}

/-- A place is empty in both, or holds a record that stands for a row. -/
theorem Stocks.cases (hstocks : Stocks engine.rt records shelf) (place : Place) :
    (records place = none ∧ shelf place = none) ∨
      ∃ record row, records place = some record ∧ shelf place = some row ∧
        HoldsRow engine.rt record row := by
  have hholds := hstocks place
  generalize records place = record at hholds ⊢
  generalize shelf place = row at hholds ⊢
  cases hholds with
  | none => exact .inl ⟨rfl, rfl⟩
  | some hold => exact .inr ⟨_, _, rfl, rfl, hold⟩

@[simp] theorem serving_answer (n : ℕ) (request : Request) :
    (engine.serving oracle records).answer n request =
      (engine.serve request records).1 := rfl

/-- The call replies as the shelf does and leaves records that stand for its
rows. -/
def Agrees (engine : Engine) (oracle : Oracle) (records : Records)
    (shelf : Shelf) (call : RecordCall) (op : ShelfOp) : Prop :=
  Shows ((recordClient engine oracle).step records call).1
      (recordShelf.step shelf op).1 ∧
    Stocks engine.rt ((recordClient engine oracle).step records call).2
      (recordShelf.step shelf op).2

/-- The cluster goes on as from the one request of the call. -/
theorem agrees_of_request {call : RecordCall} {op : ShelfOp} {request : Request}
    {outcome : Outcome}
    (hrun : call.op.call.run engine call.client (engine.serving oracle records)
      call.policies call.clientError = outcome)
    (hrequests : outcome.state.requests = [request])
    (hshows : Shows outcome (recordShelf.step shelf op).1)
    (hnext : Stocks engine.rt (engine.serve request records).2
      (recordShelf.step shelf op).2) :
    Agrees engine oracle records shelf call op := by
  unfold Agrees recordClient
  simp only [hrun, hrequests, List.foldl_cons, List.foldl_nil]
  exact ⟨hshows, hnext⟩

/-! ## One call -/

section

variable {client : Client} {policies : Policies} {clientError : AsError}

theorem put_agrees (hrt : Faithful engine.rt)
    (hstocks : Stocks engine.rt records shelf) {args : PutArgs}
    {policy : Option PolicyWrite} {key : AsKey} {record : AsRecord}
    {bins : HashTable}
    (hverdict : putVerdict engine client policies args =
      .ok (.keyPut policy key record))
    (hstore : args.store = .array bins)
    (hwhole : StoredWhole engine.rt (callSerializer engine args.policy)
      (.array bins)) (hfew : bins.length < 2 ^ 16) :
    Agrees engine oracle records shelf ⟨client, policies, clientError, .put args⟩
      (.put (engine.place key) bins) := by
  obtain ⟨hreply, hrequests⟩ := @put_relays engine client
    (engine.serving oracle records) policies args _ hverdict clientError
  obtain ⟨hread, hdistinct⟩ := putVerdict_binsRead hrt hverdict hstore hwhole
    hfew
  refine agrees_of_request rfl hrequests hreply ?_
  exact hstocks.update _ (.some
    (holdsRow_merge (hstocks (engine.place key)) hread hdistinct))

theorem remove_agrees (hstocks : Stocks engine.rt records shelf)
    {args : RemoveArgs} {policy : PolicyRemove} {key : AsKey}
    (hverdict : removeVerdict engine client policies args =
      .ok (.keyRemove policy key)) :
    Agrees engine oracle records shelf
      ⟨client, policies, clientError, .remove args⟩
      (.remove (engine.place key)) := by
  obtain ⟨hreply, hrequests⟩ := @remove_relays engine client
    (engine.serving oracle records) policies args _ hverdict clientError
  refine agrees_of_request rfl hrequests ?_ ?_
  all_goals
    simp only [serving_answer, Engine.serve] at hreply
    simp only [recordShelf, Engine.serve]
    rcases hstocks.cases (engine.place key) with ⟨hrecord, hrow⟩ |
      ⟨record, row, hrecord, hrow, hold⟩
    all_goals simp only [hrecord] at hreply
    all_goals simp only [hrecord, hrow]
  · exact hreply
  · exact hreply
  · exact hstocks
  · exact hstocks.update _ .none

theorem exists_agrees (hstocks : Stocks engine.rt records shelf)
    {args : ExistsArgs} {policy : PolicyRead} {key : AsKey}
    (hverdict : existsVerdict engine client policies args =
      .ok (.keyExists policy key)) :
    Agrees engine oracle records shelf
      ⟨client, policies, clientError, .exists args⟩
      (.exists (engine.place key)) := by
  obtain ⟨⟨hreply, hrequests⟩, houtput⟩ := @exists_relays engine client
    (engine.serving oracle records) policies args _ hverdict clientError
  refine agrees_of_request rfl hrequests ?_ hstocks
  simp only [serving_answer, Engine.serve] at hreply houtput
  simp only [recordShelf]
  rcases hstocks.cases (engine.place key) with ⟨hrecord, hrow⟩ |
    ⟨record, row, hrecord, hrow, hold⟩
  · rw [hrecord] at hreply
    rw [hrow]
    exact hreply
  · rw [hrecord] at hreply houtput
    rw [hrow]
    refine ⟨hreply, _, houtput (keepBins [] record) rfl rfl, ?_⟩
    have hshows := showsMetadata_of_holds (holdsRow_select hold (some []))
    exact hshows

/-- What the cluster answers to a `get` with these names. -/
theorem serve_readRequest (policy : PolicyRead) (key : AsKey)
    (names : Option (List String)) :
    engine.serve (readRequest policy key names) records =
      (recordAnswer ((records (engine.place key)).map (readBins names)),
        records) := by
  cases names with
  | none =>
      show (recordAnswer (records (engine.place key)), records) = _
      cases records (engine.place key) <;> rfl
  | some names => rfl

theorem get_agrees (hstocks : Stocks engine.rt records shelf) {args : GetArgs}
    {policy : PolicyRead} {key : AsKey} {names : Option (List String)}
    (hready : client.Ready)
    (hpolicy : policyOf (zvalToAsPolicyRead engine.init.read args.policy
      policies.read) = .ok policy)
    (hkey : keyOf engine.keyInit args.key = some key)
    (hrequest : filterRequest policy key args.filter =
      some (readRequest policy key names))
    (hnamed : strlen key.ns ≠ 0) :
    Agrees engine oracle records shelf ⟨client, policies, clientError, .get args⟩
      (.get (engine.place key) names) := by
  obtain ⟨hmissing, hfound⟩ := @get_relays engine client
    (engine.serving oracle records) policies args policy key _ hready hpolicy hkey
    hrequest clientError
  simp only [serving_answer, serve_readRequest] at hmissing hfound
  have hnext : Stocks engine.rt
      (engine.serve (readRequest policy key names) records).2 shelf := by
    rw [serve_readRequest]
    exact hstocks
  rcases hstocks.cases (engine.place key) with ⟨hrecord, hrow⟩ |
    ⟨record, row, hrecord, hrow, hold⟩
  · rw [hrecord] at hmissing
    obtain ⟨hreply, hrequests⟩ := hmissing (by simp [recordAnswer])
    refine agrees_of_request rfl hrequests ?_ hnext
    simp only [recordShelf, hrow]
    exact hreply
  · rw [hrecord] at hfound
    have hselected := holdsRow_select hold names
    have hnamed' : strlen (engine.digested key).ns ≠ 0 := by
      simpa using hnamed
    obtain ⟨z, hz, hshows⟩ := recordZval_shows hselected hnamed'
      (policy.key = policyKeySend)
    obtain ⟨⟨hreply, hrequests⟩, houtput⟩ := hfound _ z rfl rfl hz
    refine agrees_of_request rfl hrequests ?_ hnext
    simp only [recordShelf, hrow]
    exact ⟨hreply, z, houtput, hshows⟩

/-! ## Batches -/

/-- What a batch delivers for a place. -/
theorem batchResult_cases (hstocks : Stocks engine.rt records shelf)
    (place : Place) (names : Option (List String)) :
    let result := batchResult ((records place).map (readBins names))
    (result.result = .errRecordNotFound ∧ shelf place = none) ∨
      ∃ row, result.result = .ok ∧
        (shelf place).map (Row.select · names) = some row ∧
        HoldsRow engine.rt result.record row := by
  intro result
  rcases hstocks.cases place with ⟨hrecord, hrow⟩ |
    ⟨record, row, hrecord, hrow, hold⟩
  · refine .inl ⟨?_, hrow⟩
    simp only [result, hrecord, Option.map_none, batchResult]
  · have hselected := holdsRow_select hold names
    refine .inr ⟨row.select names, ?_, by rw [hrow]; rfl, ?_⟩
    · simp only [result, hrecord, Option.map_some, batchResult]
    · simpa only [result, hrecord, Option.map_some, batchResult] using hselected

theorem exists_keyZval {key : AsKey} (hnamed : strlen key.ns ≠ 0) :
    ∃ zKey, keyZval (engine.digested key) true = some zKey := by
  refine Option.isSome_iff_exists.mp ((keyZval_isSome_iff _ _).mpr ?_)
  simpa using hnamed

/-- The entry of `getMany` for a place shows the row of the place. -/
theorem getManyRecord_shows (hstocks : Stocks engine.rt records shelf)
    {key : AsKey} (hnamed : strlen key.ns ≠ 0) (names : Option (List String)) :
    ∃ z, getManyRecord engine.rt (engine.digested key, batchResult
        ((records (engine.place key)).map (readBins names))) = some z ∧
      ShowsRead ((shelf (engine.place key)).map (Row.select · names)) z := by
  obtain ⟨zKey, hkey⟩ := @exists_keyZval engine key hnamed
  unfold getManyRecord
  rcases batchResult_cases hstocks (engine.place key) names with
    ⟨hmissing, hrow⟩ | ⟨row, hok, hrow, hold⟩
  · rw [if_pos hmissing, hkey, hrow]
    exact ⟨_, rfl, zKey, rfl⟩
  · have hnamed' : strlen (engine.digested key).ns ≠ 0 := by simpa using hnamed
    rw [if_neg (by simp [hok]), hrow]
    exact recordZval_shows hold hnamed' true

/-- The entry of `existsMany`. -/
theorem existsManyRecord_shows (hstocks : Stocks engine.rt records shelf)
    {key : AsKey} (hnamed : strlen key.ns ≠ 0) :
    ∃ z, existsManyRecord (engine.digested key, batchResult
        ((records (engine.place key)).map (readBins (some [])))) = some z ∧
      ShowsKnown ((shelf (engine.place key)).map Row.gen) z := by
  obtain ⟨zKey, hkey⟩ := @exists_keyZval engine key hnamed
  unfold existsManyRecord
  rcases batchResult_cases hstocks (engine.place key) (some []) with
    ⟨hmissing, hrow⟩ | ⟨row, hok, hrow, hold⟩
  · rw [if_neg (by simp [hmissing]), if_pos hmissing, hkey, hrow]
    exact ⟨_, rfl, zKey, rfl⟩
  · rw [if_pos hok, hkey]
    obtain ⟨stored, hstored, hselected⟩ := Option.map_eq_some_iff.mp hrow
    have hgen : row.gen = stored.gen := by rw [← hselected]; rfl
    have hshows := showsMetadata_of_holds hold
    rw [hgen] at hshows
    rw [hstored]
    exact ⟨_, rfl, zKey, _, rfl, hshows⟩

theorem getMany_agrees (hstocks : Stocks engine.rt records shelf)
    {args : GetManyArgs} {policy : Option PolicyBatch} {keys : List AsKey}
    {names : Option (List String)}
    (hpolicy : batchVerdict engine client policies args.policy = .ok policy)
    (hfilter : batchBinNames args.filter = .ok names)
    (hkeys : keysEnd engine.keyInit (HashTable.values args.keys) =
      .converted keys) (hnamed : ∀ key ∈ keys, strlen key.ns ≠ 0) :
    Agrees engine oracle records shelf
      ⟨client, policies, clientError, .getMany args⟩
      (.getMany (keys.map engine.place) names) := by
  obtain ⟨hrequests, houtcome⟩ := @getMany_relays engine client
    (engine.serving oracle records) policies args policy names keys hpolicy
    hfilter hkeys clientError
  refine agrees_of_request rfl hrequests ?_ hstocks
  have hreturns := houtcome.returns (by simp [Engine.serve])
    (by intro i hi; simp [Engine.serve, hi])
    (fun key hmem => getManyRecord_shows hstocks (hnamed key hmem) names)
  simp only [recordShelf, List.map_map]
  exact hreturns

theorem existsMany_agrees (hstocks : Stocks engine.rt records shelf)
    {args : ExistsManyArgs} {policy : Option PolicyBatch} {keys : List AsKey}
    (hpolicy : batchVerdict engine client policies args.policy = .ok policy)
    (hkeys : keysEnd engine.keyInit (HashTable.values args.keys) =
      .converted keys) (hnamed : ∀ key ∈ keys, strlen key.ns ≠ 0) :
    Agrees engine oracle records shelf
      ⟨client, policies, clientError, .existsMany args⟩
      (.existsMany (keys.map engine.place)) := by
  obtain ⟨hrequests, houtcome⟩ := @existsMany_relays engine client
    (engine.serving oracle records) policies args policy keys hpolicy hkeys rfl
    clientError
  refine agrees_of_request rfl hrequests ?_ hstocks
  have hreturns := houtcome.returns (by simp [Engine.serve])
    (by intro i hi; simp [Engine.serve, hi]; rfl)
    (fun key hmem => existsManyRecord_shows hstocks (hnamed key hmem))
  simp only [recordShelf, List.map_map]
  exact hreturns

/-! ## Refused calls -/

theorem op_sends {op : RecordOp}
    (hlost : keysEnd engine.keyInit op.batchKeys ≠ .lost) :
    (op.call.run engine client oracle policies clientError).Meets SameRequests
      (op.verdict engine client policies) := by
  cases op with
  | put args => exact call_of_sends clientError (put_sends args)
  | get args => exact get_meets (some args) clientError
  | «exists» args => exact call_of_sends clientError (exists_sends args)
  | remove args => exact call_of_sends clientError (remove_sends args)
  | getMany args =>
      exact call_of_sends clientError (getMany_sends fun _ _ _ => hlost)
  | existsMany args => exact call_of_sends clientError (existsMany_sends hlost)

end

theorem refused_agrees (hstocks : Stocks engine.rt records shelf)
    {call : RecordCall}
    (hlost : keysEnd engine.keyInit call.op.batchKeys ≠ .lost)
    (hverdict : call.op.verdict engine call.client call.policies =
      .error .failed) :
    Agrees engine oracle records shelf call .nothing := by
  have hmeets := @op_sends engine (engine.serving oracle records) call.client
    call.policies call.clientError call.op hlost
  rw [hverdict] at hmeets
  obtain ⟨hfailed, hrequests⟩ := hmeets
  unfold Agrees recordClient
  simp only [hrequests, List.foldl_nil]
  exact ⟨hfailed, hstocks⟩

/-! ## Histories -/

theorem recordClient_simulates (hrt : Faithful engine.rt) :
    Simulates (recordClient engine oracle) recordShelf (Stocks engine.rt)
      (Asks engine) Shows := by
  intro records shelf call op hstocks hasks
  cases hasks with
  | put hverdict _ hstore hwhole hfew =>
      exact put_agrees hrt hstocks hverdict hstore hwhole hfew
  | get hready hpolicy hkey _ hrequest hnamed _ =>
      exact get_agrees hstocks hready hpolicy hkey hrequest hnamed
  | «exists» hverdict => exact exists_agrees hstocks hverdict
  | remove hverdict _ => exact remove_agrees hstocks hverdict
  | getMany hpolicy _ hfilter hkeys hnamed _ =>
      exact getMany_agrees hstocks hpolicy hfilter hkeys hnamed
  | existsMany hpolicy hkeys hnamed =>
      exact existsMany_agrees hstocks hpolicy hkeys hnamed
  | nothing hlost hverdict => exact refused_agrees hstocks hlost hverdict

end

/-- An engine that stores PHP values, with a digest for each of two keys. -/
def Engine.stocking : Engine :=
  { Engine.naming with
    rt := storingRuntime
    iniSerializer := 1
    init :=
      { (default : Policies) with
        read := { (default : PolicyRead) with deserialize := true }
        operate := { (default : PolicyOperate) with deserialize := true }
        batch := { (default : PolicyBatch) with deserialize := true } }
    digest := fun _ value =>
      match value with
      | .integer 1 => "00000000000000000001"
      | _ => "00000000000000000002" }

def stockedTable (n : Int64) : HashTable :=
  [(.str "ns", .string "test"), (.str "set", .string "demo"),
    (.str "key", .long n)]

def stockedKey (n : Int64) : AsKey := ⟨"test", "demo", .integer n, none⟩

def stockedBins : HashTable := [(.str "n", .long 1), (.str "all", storedEverything)]

def stockedCall (op : RecordOp) : RecordCall :=
  ⟨.connected, Engine.stocking.init, .init, op⟩

/-- Two puts under one key, reads of it in four ways, and a remove. -/
def stockedCalls : List RecordOp :=
  [.put ⟨stockedTable 1, .array stockedBins, none, none⟩,
    .put ⟨stockedTable 1, .array [(.str "n", .null)], none, none⟩,
    .put ⟨stockedTable 1, .array [], none, none⟩,
    .get ⟨stockedTable 1, some (.array [(.idx 0, .string "n")]), none⟩,
    .getMany ⟨[(.idx 0, .array (stockedTable 1)), (.idx 1, .array (stockedTable 2))],
      none, none⟩,
    .existsMany ⟨[(.idx 0, .array (stockedTable 1)),
      (.idx 1, .array (stockedTable 2))], none⟩,
    .exists ⟨stockedTable 1, none⟩, .remove ⟨stockedTable 1, none⟩,
    .get ⟨stockedTable 1, none, none⟩]

def stockedOps : List ShelfOp :=
  let place := Engine.stocking.place (stockedKey 1)
  let places := [stockedKey 1, stockedKey 2].map Engine.stocking.place
  [.put place stockedBins, .put place [(.str "n", .null)], .nothing,
    .get place (some ["n"]), .getMany places none, .existsMany places,
    .exists place, .remove place, .get place none]

theorem stockedSerializer_eq :
    callSerializer Engine.stocking none = serializerPhp := by
  decide +kernel

theorem stockedBins_whole : StoredWhole Engine.stocking.rt
    (callSerializer Engine.stocking none) (.array stockedBins) := by
  rw [stockedSerializer_eq]
  constructor
  · rw [stockedBins, Storable]
    simp only [StorableEntries, Storable, true_and, and_true]
    refine ⟨by decide, ?_, storedEverything_whole.storable⟩
    intro entry hmem
    fin_cases hmem <;> exact ⟨by decide, by decide⟩
  · have heverything := storedEverything_whole.short
    simpa [stockedBins, Zval.leaves, leavesOf, Zval.ShortBytes] using heverything

theorem stockedNull_whole : StoredWhole Engine.stocking.rt
    (callSerializer Engine.stocking none) (.array [(.str "n", .null)]) := by
  rw [stockedSerializer_eq]
  constructor
  · simp only [Storable, StorableEntries, and_true]
    refine ⟨by decide, ?_⟩
    intro entry hmem
    fin_cases hmem
    exact ⟨by decide, by decide⟩
  · simp [Zval.leaves, leavesOf, Zval.ShortBytes]

theorem stockedKey_eq (n : Int64) :
    keyOf Engine.stocking.keyInit (stockedTable n) = some (stockedKey n) := by
  have hfit : NamesFit (stockedKey n).ns (stockedKey n).set := by
    simp only [stockedKey]
    decide
  have hsame : Engine.stocking.keyInit = Engine.naming.keyInit := by
    simp only [Engine.stocking]
  have hinit : Engine.stocking.keyInit (stockedKey n) = true := by
    rw [hsame]
    exact (naming_initsByNames (stockedKey n)).mpr hfit
  have hentries : keyEntries (stockedTable n) =
      some ("test", "demo", .userKey (.long n)) := rfl
  simp only [keyOf, hentries, primaryKeyToAsKey, asKeyInit]
  exact congrArg _ (if_pos hinit)

theorem stockedKey_named (n : Int64) : strlen (stockedKey n).ns ≠ 0 :=
  (by decide : strlen "test" ≠ 0)

theorem stockedGet_asks (filter : Option Zval) (names : Option (List String))
    (hrequest : filterRequest Engine.stocking.init.read (stockedKey 1) filter =
      some (readRequest Engine.stocking.init.read (stockedKey 1) names))
    (hnames : NamesDelimited names) :
    Asks Engine.stocking
      (stockedCall (.get ⟨stockedTable 1, filter, none⟩))
      (.get (Engine.stocking.place (stockedKey 1)) names) :=
  .get ⟨rfl, rfl, rfl⟩ rfl (stockedKey_eq 1) rfl hrequest (stockedKey_named 1) hnames

theorem stockedCalls_ask : Forall₂ (Asks Engine.stocking)
    (stockedCalls.map stockedCall) stockedOps := by
  have hfirst : putVerdict Engine.stocking .connected
      Engine.stocking.init ⟨stockedTable 1, .array stockedBins, none, none⟩ =
        .ok (.keyPut none (stockedKey 1) ⟨0, 0, [("n", .integer 1), ("all",
          .map [(.integer 5, .integer 1), (.string "x", .list [.bytes .php "N;",
            .bytes .blob "b", .geojson "{}"])])]⟩) := rfl
  have hsecond : putVerdict Engine.stocking .connected
      Engine.stocking.init ⟨stockedTable 1, .array [(.str "n", .null)], none, none⟩ =
        .ok (.keyPut none (stockedKey 1) ⟨0, 0, [("n", .bytes .php "N;")]⟩) := rfl
  have hthird : putVerdict Engine.stocking .connected
      Engine.stocking.init ⟨stockedTable 1, .array [], none, none⟩ = .error .failed := rfl
  have hexists : existsVerdict Engine.stocking .connected
      Engine.stocking.init ⟨stockedTable 1, none⟩ =
        .ok (.keyExists Engine.stocking.init.read (stockedKey 1)) := rfl
  have hremove : removeVerdict Engine.stocking .connected
      Engine.stocking.init ⟨stockedTable 1, none⟩ =
        .ok (.keyRemove default (stockedKey 1)) := rfl
  have hlost : keysEnd Engine.stocking.keyInit [] ≠ .lost := by simp [keysEnd]
  have hkeys : keysEnd Engine.stocking.keyInit [.array (stockedTable 1),
      .array (stockedTable 2)] = .converted [stockedKey 1, stockedKey 2] := by
    simp only [keysEnd, stockedKey_eq]
  have hnamed : ∀ key ∈ [stockedKey 1, stockedKey 2], strlen key.ns ≠ 0 := by
    simp [stockedKey_named]
  refine .cons (.put hfirst ⟨rfl, rfl⟩ rfl stockedBins_whole (by decide)) ?_
  refine .cons (.put hsecond ⟨rfl, rfl⟩ rfl stockedNull_whole (by decide)) ?_
  refine .cons (.nothing hlost hthird) ?_
  refine .cons (stockedGet_asks _ _ rfl ⟨by simp, by simp⟩) ?_
  refine .cons (.getMany rfl rfl rfl hkeys hnamed trivial) ?_
  refine .cons (.existsMany rfl hkeys hnamed) ?_
  refine .cons (.exists hexists) (.cons (.remove hremove rfl) ?_)
  exact .cons (stockedGet_asks none none rfl trivial) .nil

end AerospikePhp
