import AerospikePhp.SessionStore
import AerospikePhp.Calls
import AerospikePhp.Batches
import Mathlib.Tactic

/-!
# Records as the cluster keeps them

The cluster as an atomic store that is addressed by namespace and digest, the
methods that read and write whole records over it, and the shelf of PHP arrays
that these come to for a program.
-/

namespace AerospikePhp

open Refinement System List

/-! ## The cluster -/

/-- Where the cluster keeps a record: its namespace and its digest. -/
abbrev Place := String × Option String

def Engine.place (engine : Engine) (key : AsKey) : Place :=
  (key.ns, (engine.digested key).digest)

abbrev Records := Place → Option AsRecord

def keepBins (names : List String) (record : AsRecord) : AsRecord :=
  { record with bins := record.bins.filter fun bin => bin.1 ∈ names }

/-- What a batch read asks for. -/
def readBins : Option (List String) → AsRecord → AsRecord
  | none, record => record
  | some names, record => keepBins names record

def recordAnswer : Option AsRecord → Answer
  | some record => { err := .init, record := some record }
  | none =>
      { err := ⟨.errRecordNotFound, "AEROSPIKE_ERR_RECORD_NOT_FOUND", false⟩ }

def batchResult : Option AsRecord → BatchResult
  | some record => ⟨.ok, record⟩
  | none => ⟨.errRecordNotFound, default⟩

/-- The cluster carries out each request on whole records at once, under
policies that set no condition; it leaves the other requests to other parts of
it. -/
def Engine.serve (engine : Engine) (request : Request) (records : Records) :
    Answer × Records :=
  match request with
  | .keyGet _ key => (recordAnswer (records (engine.place key)), records)
  | .keySelect _ key names =>
      (recordAnswer ((records (engine.place key)).map (keepBins names)), records)
  | .keyExists _ key =>
      (recordAnswer ((records (engine.place key)).map (keepBins [])), records)
  | .keyPut _ key record =>
      ({ err := .init }, Function.update records (engine.place key)
        (some (mergeRecord (records (engine.place key)) record)))
  | .keyRemove _ key =>
      match records (engine.place key) with
      | none => (recordAnswer none, records)
      | some _ =>
          ({ err := .init }, Function.update records (engine.place key) none)
  | .batchRead _ reads =>
      ({ err := .init, results := fun i =>
          match reads[i]? with
          | some read => batchResult
              ((records (engine.place read.key)).map (readBins read.binNames))
          | none => default }, records)
  | .batchExists _ keys =>
      ({ err := .init, results := fun i =>
          match keys[i]? with
          | some key => batchResult
              ((records (engine.place key)).map (keepBins []))
          | none => default }, records)
  | _ => ({ err := .init }, records)

/-! ## Calls -/

inductive RecordOp where
  | put (args : PutArgs)
  | get (args : GetArgs)
  | «exists» (args : ExistsArgs)
  | remove (args : RemoveArgs)
  | getMany (args : GetManyArgs)
  | existsMany (args : ExistsManyArgs)

def RecordOp.call : RecordOp → Call
  | .put args => .put (some args)
  | .get args => .get (some args)
  | .exists args => .exists (some args)
  | .remove args => .remove (some args)
  | .getMany args => .getMany (some args)
  | .existsMany args => .existsMany (some args)

/-- A call, with the state of the object that makes it. -/
structure RecordCall where
  client : Client
  policies : Policies
  clientError : AsError
  op : RecordOp

/-- The answers of a cluster with these records. -/
def Engine.serving (engine : Engine) (oracle : Oracle) (records : Records) : Oracle :=
  { oracle with answer := fun _ request => (engine.serve request records).1 }

/-- The methods over the cluster, which none of them asks twice. -/
def recordClient (engine : Engine) (oracle : Oracle) :
    System Records RecordCall Outcome where
  step records call :=
    let outcome := call.op.call.run engine call.client
      (engine.serving oracle records) call.policies call.clientError
    (outcome, outcome.state.requests.foldl
      (fun records request => (engine.serve request records).2) records)

/-! ## What the methods are for -/

/-- A record as a PHP program knows it: how often it was written since it was
created, and its bins. -/
structure Row where
  gen : ℕ
  bins : HashTable

abbrev Shelf := Place → Option Row

def Row.select (row : Row) : Option (List String) → Row
  | none => row
  | some names => { row with bins := row.bins.filter fun entry =>
      ∃ name ∈ names, entry.1 = .str name }

/-- The row after a put, which sets the bins that it is given. -/
def mergeRow : Option Row → HashTable → Row
  | none, bins => ⟨1, bins⟩
  | some row, bins => ⟨row.gen + 1, bins.foldl
      (fun table entry => table.update entry.1 entry.2) row.bins⟩

inductive ShelfOp where
  | put (place : Place) (bins : HashTable)
  | get (place : Place) (names : Option (List String))
  | «exists» (place : Place)
  | remove (place : Place)
  | getMany (places : List Place) (names : Option (List String))
  | existsMany (places : List Place)
  /-- A call whose arguments do not get it to a request. -/
  | nothing

inductive ShelfReply where
  | done
  | missing
  | refused
  | row (row : Row)
  | known (gen : ℕ)
  | rows (rows : List (Option Row))
  | gens (gens : List (Option ℕ))

def ShelfReply.ofRow : Option Row → ShelfReply
  | some held => .row held
  | none => .missing

def ShelfReply.ofGen : Option ℕ → ShelfReply
  | some gen => .known gen
  | none => .missing

/-- A shelf of PHP arrays.  The batch reads are the single ones, one after the
other. -/
def recordShelf : System Shelf ShelfOp ShelfReply where
  step shelf
    | .put place bins =>
        (.done, Function.update shelf place (some (mergeRow (shelf place) bins)))
    | .get place names =>
        (.ofRow ((shelf place).map (Row.select · names)), shelf)
    | .exists place => (.ofGen ((shelf place).map Row.gen), shelf)
    | .remove place =>
        match shelf place with
        | none => (.missing, shelf)
        | some _ => (.done, Function.update shelf place none)
    | .getMany places names =>
        (.rows (places.map fun place => (shelf place).map (Row.select · names)),
          shelf)
    | .existsMany places =>
        (.gens (places.map fun place => (shelf place).map Row.gen), shelf)
    | .nothing => (.refused, shelf)

end AerospikePhp
