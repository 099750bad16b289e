import AerospikePhp.OperateMethods
import AerospikePhp.Predicate
import Mathlib.Tactic

/-!
# Queries, scans and UDF calls

`query`, `queryApply`, `aggregate`, `scan`, `scanApply`, `apply`, and the two
methods that ask after a job.  What a PHP callback does during a query or a
scan is part of the answer to the request.
-/

namespace AerospikePhp

open Procedure Method

section

variable (engine : Engine) (client : Client) (oracle : Oracle)

/-! ## Pieces -/

/-- The options array, unless it is null. -/
def nonNull : Option Zval → Option Zval
  | some .null => none
  | z => z

/-- The loop over the names of the bins to return, when there is room for so
many more.  A name that is too long, or finds no room, is not added. -/
def selectLoop : ℕ → List Zval → Option (List String)
  | _, [] => some []
  | room, .string bin :: bins =>
      if strlen bin > asBinNameMaxLen ∨ room = 0 then selectLoop room bins
      else (selectLoop (room - 1) bins).map (cString bin :: ·)
  | _, _ :: _ => none

/-- The names in the list that `as_scan_select_inita` or `as_query_select_inita`
makes for them. -/
def selectBins (select : HashTable) : Option (List String) :=
  selectLoop (binCapacity select.numElements) (HashTable.values select)

def requireSelect (select : Option HashTable) : Method (List String) :=
  orFail (selectBins (select.getD []))
    (failCleanup .errParam "Bin names must be strings")

/-- `set_query_options_from_policy_hash`.  The boolean is read as an
integer. -/
def setQueryOptionsFromPolicyHash (rt : Runtime) (query : AsQuery)
    (zPolicy : Option Zval) : AsStatus × AsQuery :=
  match zPolicy with
  | none | some .null => (.ok, query)
  | some (.array hash) =>
      match HashTable.indexFind hash optQueryNobins with
      | none => (.ok, query)
      | some (.bool b) =>
          (.ok, { query with
            noBins := decide ((rt.zLval (.bool b)).toInt % 256 ≠ 0) })
      | some _ => (.errParam, query)
  | some _ => (.errParam, query)

/-- `set_scan_options_from_policy_hash`. -/
def setScanOptionsFromPolicyHash (scan : AsScan) (zPolicy : Option Zval) :
    AsStatus × AsScan :=
  match zPolicy with
  | none | some .null => (.ok, scan)
  | some (.array hash) =>
      match HashTable.indexFind hash optScanConcurrently with
      | none => setNoBins hash scan
      | some (.bool b) =>
          setNoBins hash { scan with concurrent := b || scan.concurrent }
      | some _ => (.errParam, scan)
  | some _ => (.errParam, scan)
where
  setNoBins (hash : HashTable) (scan : AsScan) : AsStatus × AsScan :=
    match HashTable.indexFind hash optScanNobins with
    | none => (.ok, scan)
    | some (.bool b) => (.ok, { scan with noBins := b || scan.noBins })
    | some _ => (.errParam, scan)

/-- `INI_INT("aerospike.serializer")`. -/
def iniSerializerType : SerializerType := toInt32 engine.iniSerializer

def requireQueryInit : Method Unit :=
  runIf (oracle.queryInitOk = false)
    (failCleanup .errParam "Unable to create query")

/-- The predicate of a query, which an empty array leaves out. -/
def addPredicate (query : AsQuery) (predicate : HashTable) : Method AsQuery :=
  if HashTable.numElements predicate = 0 then pure query
  else do
    let s ← Proc.get
    let result := addPredicateToQuery engine.indexTypes oracle.whereOk query
      predicate s.err
    setErrTo result.err
    runIf (result.status ≠ .ok) gotoCleanup
    pure result.query

/-- The argument list of a UDF, given up only when the converter returns a
failure. -/
def requireArgs (serializerType : SerializerType) (zArgs : HashTable) :
    Method (Option (List AsVal)) := do
  let converted ← convert (zHashtableToAsList engine.rt serializerType zArgs)
  runIf (converted.status ≠ .ok) gotoCleanup
  pure converted.val

/-- The argument list of a UDF, given up when the error object holds an
error. -/
def requireCleanArgs (serializerType : SerializerType) (zArgs : HashTable) :
    Method (Option (List AsVal)) := do
  let converted ← convert (zHashtableToAsList engine.rt serializerType zArgs)
  cleanupOnError
  pure converted.val

/-! ## Queries -/

structure QueryArgs where
  ns : String
  set : String
  predicate : HashTable
  select : Option HashTable
  policy : Option Zval

/-- Options that do not convert leave the method with nothing reported. -/
def queryBody (policy : Option PolicyQuery) (args : QueryArgs) :
    Method Unit := do
  requireQueryInit oracle
  let options := setQueryOptionsFromPolicyHash engine.rt
    { ns := cString args.ns, set := cString args.set } (nonNull args.policy)
  runIf (options.1 ≠ .ok) (returnLong .errParam)
  let select ← requireSelect args.select
  let query ← addPredicate engine oracle { options.2 with select := select }
    args.predicate
  let _ ← issue oracle (.queryForeach policy query)

def query (args : Option QueryArgs) : Method Reply := do
  resetClientError
  requireConnection client
  let args ← orFail args (failReturn .errParam "Invalid arguments to query")
  runIf (args.ns.length = 0) (failReturn .errParam "Invalid namespace")
  let policy ← whenGiven (nonNull args.policy)
    (requirePolicy queryField
      (zvalToAsPolicyQuery engine.init.query args.policy)
      (failReturn .errParam "Invalid query policy"))
  withCleanup (queryBody engine oracle policy args) cleanupErr

/-- The arguments of `queryApply` and `aggregate`. -/
structure UdfQueryArgs where
  ns : String
  set : String
  predicate : HashTable
  module : String
  function : String
  args : HashTable
  policy : Option Zval

def udfCall (args : UdfQueryArgs) (list : Option (List AsVal)) : UdfCall :=
  ⟨cString args.module, cString args.function, list⟩

def queryApplyBody (policy : PolicyWrite) (args : UdfQueryArgs) :
    Method Unit := do
  requireQueryInit oracle
  let query ← addPredicate engine oracle
    { ns := cString args.ns, set := cString args.set } args.predicate
  let list ← requireArgs engine (iniSerializerType engine) args.args
  runIf (oracle.applyOk = false)
    (failCleanup .errClient "Failed to initialize arguments")
  let answer ← issue oracle
    (.queryBackground policy { query with apply := some (udfCall args list) })
  runIf (answer.err.code = .ok) (setOutput (.long (Int64.ofNat answer.jobId)))

def queryApply (args : Option UdfQueryArgs) : Method Reply := do
  resetClientError
  requireConnection client
  let args ← orFail args
    (failReturn .errParam "Invalid arguments to queryApply")
  setOutput .null
  runIf (args.ns.length = 0) (failReturn .errParam "Invalid namespace")
  let policy ← requirePolicy writeField
    (zvalToAsPolicyWrite engine.init.write args.policy)
    (failReturn .errParam "Invalid policy")
  withCleanup (queryApplyBody engine oracle policy args) cleanupErr

/-- The callback appends each value until one does not convert. -/
def aggregateCallback : List AsVal → HashTable → Method Unit
  | [], _ => pure ()
  | value :: values, table => do
      let converted ← convert (asValToZval engine.rt value)
      if converted.err.code ≠ .ok then pure ()
      else do
        setOutput (.array (table.push (converted.val.getD .null)))
        aggregateCallback values (table.push (converted.val.getD .null))

def aggregateBody (policy : Option PolicyQuery) (args : UdfQueryArgs) :
    Method Unit := do
  requireQueryInit oracle
  let query ← addPredicate engine oracle
    { ns := cString args.ns, set := cString args.set } args.predicate
  let list ← requireCleanArgs engine (iniSerializerType engine) args.args
  runIf (oracle.applyOk = false)
    (failCleanup .errClient "Unable to initialize Argument list")
  setOutput (.array [])
  let answer ← issue oracle
    (.queryForeach policy { query with apply := some (udfCall args list) })
  aggregateCallback engine answer.stream []

def aggregate (args : Option UdfQueryArgs) : Method Reply := do
  resetClientError
  requireConnection client
  let args ← orFail args
    (failReturn .errParam "Invalid Parameters to aggregate")
  setOutput .null
  runIf (args.ns.length = 0) (failReturn .errParam "Invalid namespace")
  runIf (args.module.length = 0) (failReturn .errParam "Invalid module name")
  runIf (args.function.length = 0)
    (failReturn .errParam "Invalid function name")
  let policy ← whenGiven (nonNull args.policy)
    (requirePolicy queryField
      (zvalToAsPolicyQuery engine.init.query args.policy)
      (failReturn .errParam "Invalid query policy"))
  withCleanup (aggregateBody engine oracle policy args) cleanupErr

/-! ## Scans -/

structure ScanArgs where
  ns : String
  set : String
  select : Option HashTable
  policy : Option Zval

def scanBody (policy : PolicyScan) (args : ScanArgs) : Method Unit := do
  let options := setScanOptionsFromPolicyHash
    { ns := cString args.ns, set := cString args.set } args.policy
  runIf (options.1 ≠ .ok) (failCleanup .errParam "Invalid scan options")
  let select ← requireSelect args.select
  let _ ← issue oracle
    (.scanForeach policy { options.2 with select := select })

def scan (args : Option ScanArgs) : Method Reply := do
  resetClientError
  requireConnection client
  let args ← orFail args (failReturn .errParam "Invalid arguments to scan")
  runIf (args.ns.length = 0) (failReturn .errParam "Invalid namespace")
  let policy ← requirePolicy scanField
    (zvalToAsPolicyScan engine.init.scan args.policy)
    (failReturn .errParam "Invalid scan policy")
  withCleanup (scanBody oracle policy args) cleanupErr

structure ScanApplyArgs where
  ns : String
  set : String
  module : String
  function : String
  args : HashTable
  policy : Option Zval

/-- The options are written to the scan before `as_scan_init`, which starts it
anew. -/
def scanApplyBody (policy : PolicyScan) (args : ScanApplyArgs) :
    Method Unit := do
  let options := setScanOptionsFromPolicyHash
    { ns := cString args.ns, set := cString args.set } args.policy
  runIf (options.1 ≠ .ok) (failCleanup .errParam "Invalid scan options")
  let list ← requireArgs engine (iniSerializerType engine) args.args
  runIf (oracle.scanInitOk = false)
    (failCleanup .errParam "Unable to create scan")
  runIf (oracle.applyOk = false)
    (failCleanup .errParam "Failed to add UDF to scan")
  let answer ← issue oracle (.scanBackground policy {
    ns := cString args.ns, set := cString args.set
    apply := some ⟨cString args.module, cString args.function, list⟩ })
  cleanupOnError
  let waited ← issue oracle (.scanWait answer.jobId)
  runIf (waited.err.code = .ok) (setOutput (.long (Int64.ofNat answer.jobId)))

def scanApply (args : Option ScanApplyArgs) : Method Reply := do
  resetClientError
  requireConnection client
  let args ← orFail args
    (failReturn .errParam "Invalid parameters to scanApply")
  setOutput .null
  runIf (args.ns.length = 0) (failReturn .errParam "Empty Namespace")
  runIf (args.module.length = 0 ∨ args.function.length = 0)
    (failReturn .errParam "Module and function must not be empty")
  let policy ← requirePolicy scanField
    (zvalToAsPolicyScan engine.init.scan args.policy)
    (failReturn .errParam "Invalid scan policy")
  withCleanup (scanApplyBody engine oracle policy args) cleanupErr

/-! ## apply -/

structure ApplyArgs where
  key : HashTable
  module : String
  function : String
  args : Option HashTable
  returned : Bool
  policy : Option Zval

def applyArgs (serializerType : SerializerType) (zArgs : Option HashTable) :
    Method (Option (List AsVal)) :=
  match zArgs with
  | some zArgs => requireArgs engine serializerType zArgs
  | none => pure (some [])

def applyBody (args : Option ApplyArgs) : Method Unit := do
  requireConnectionOrCleanup client
  resetClientError
  let args ← orFail args (failReturn .errParam "Invalid parameters for apply")
  runIf (args.returned = true) (setOutput .null)
  let key ← requireKey engine args.key (failCleanup .errParam "Invalid key.")
  let policy ← requirePolicy applyField
    (zvalToAsPolicyApply engine.init.apply args.policy)
    (failCleanup .errParam "Invalid Policy.")
  let serializer := setSerializerFromPolicyHash engine.iniSerializer
    (iniSerializerType engine) args.policy
  runIf (serializer.1 ≠ .ok) (failCleanup .errParam "Invalid serializer type")
  let list ← applyArgs engine serializer.2 args.args
  let answer ← issue oracle (.keyApply policy key
    ⟨cString args.module, cString args.function, list⟩)
  cleanupOnError
  runIf (args.returned = true) do
    forSome answer.value fun value => do
      let status ← writeOutput (asValToZval engine.rt value)
      runIf (status ≠ .ok) (setOutput .null)

def apply (args : Option ApplyArgs) : Method Reply :=
  withCleanup (applyBody engine client oracle args) cleanupErr

/-! ## Jobs -/

/-- `Z_LVAL` of an `int64` is passed on as a `uint64_t`. -/
def jobTable (job : ℕ × ℕ × ℕ) : Zval :=
  .array [(.str "progress_pct", .long (Int64.ofNat job.1)),
    (.str "records_read", .long (Int64.ofNat job.2.1)),
    (.str "status", .long (Int64.ofNat job.2.2))]

structure ScanInfoArgs where
  id : Int64
  policy : Option Zval

def scanInfo (args : Option ScanInfoArgs) : Method Reply := do
  resetClientError
  requireConnection client
  let args ← orFail args
    (failReturn .errParam "Invalid arguments to scan apply.")
  setOutput .null
  let policy ← requirePolicy infoField
    (zvalToAsPolicyInfo engine.init.info args.policy)
    (failReturn .errParam "Invalid policy.")
  let answer ← issue oracle (.info (some policy) (.scanInfo (toUint64 args.id)))
  runIf (answer.err.code ≠ .ok) do
    reportErr
    returnErrCode
  setOutput (jobTable answer.job)
  returnErrCode

structure JobInfoArgs where
  id : Int64
  module : String
  policy : Option Zval

def jobInfoBody (policy : PolicyInfo) (args : JobInfoArgs) : Method Unit := do
  let answer ← issue oracle (.info (some policy)
    (.jobInfo (cString args.module) (toUint64 args.id)))
  cleanupOnError
  setOutput (jobTable answer.job)

def jobInfo (args : Option JobInfoArgs) : Method Reply := do
  resetClientError
  requireConnection client
  let args ← orFail args
    (failReturn .errParam "Invalid arguments to job_info.")
  setOutput .null
  runIf (cString args.module ≠ "query" ∧ cString args.module ≠ "scan")
    (failReturn .errParam "Module argument must be query or scan")
  let policy ← requirePolicy infoField
    (zvalToAsPolicyInfo engine.init.info args.policy)
    (failReturn .errParam "Invalid policy.")
  withCleanup (jobInfoBody oracle policy args) cleanupErr

end

end AerospikePhp
