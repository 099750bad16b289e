import AerospikePhp.Serializers
import AerospikePhp.SentLists
import Mathlib.Tactic

/-!
# The flags of scans and queries

`scan` sets its flags after `as_scan_init` and from the type of the option, and
so every boolean arrives.  `scanApply` sets them before, and `as_scan_init`
starts the scan anew.  `query` and the constructor read the number in the
option, where a boolean holds none.
-/

namespace AerospikePhp

open Procedure Method Proc

/-- The boolean that an options array gives. -/
def boolOption (zPolicy : Option Zval) (index : Int64) : Option Bool :=
  match zPolicy with
  | some (.array hash) =>
      match HashTable.indexFind hash index with
      | some (.bool b) => some b
      | _ => none
  | _ => none

def boolGiven (zPolicy : Option Zval) (index : Int64) : Bool :=
  (boolOption zPolicy index).getD false

def Request.noBins : Request → Option Bool
  | .queryForeach _ query | .queryBackground _ query => some query.noBins
  | .scanForeach _ scan | .scanBackground _ scan => some scan.noBins
  | _ => none

def Request.concurrent : Request → Option Bool
  | .scanForeach _ scan | .scanBackground _ scan => some scan.concurrent
  | _ => none

/-- Every scan and query that the call sends has these flags. -/
def SendsFlags (noBins concurrent : Bool) (outcome : Outcome) : Prop :=
  ∀ request ∈ outcome.state.requests,
    (∀ flag, request.noBins = some flag → flag = noBins) ∧
    (∀ flag, request.concurrent = some flag → flag = concurrent)

/-- The number in a boolean zval, as a `zend_bool`, is the boolean. -/
def PayloadTrue (rt : Runtime) (b : Bool) : Prop :=
  b = decide ((rt.zLval (.bool b)).toInt % 256 ≠ 0)

section

variable {engine : Engine} {client : Client} {oracle : Oracle}
variable {policies : Policies}

/-! ## The requests -/

def scanOptions (args : ScanArgs) : AsStatus × AsScan :=
  setScanOptionsFromPolicyHash
    { ns := cString args.ns, set := cString args.set } args.policy

def scanVerdict (engine : Engine) (client : Client) (policies : Policies)
    (args : ScanArgs) : Verdict Request := do
  ensure client.Ready
  ensure (args.ns.length ≠ 0)
  let policy ← policyOf
    (zvalToAsPolicyScan engine.init.scan args.policy policies.scan)
  ensure ((scanOptions args).1 = .ok)
  let select ← present (selectBins (args.select.getD []))
  .ok (.scanForeach policy { (scanOptions args).2 with select := select })

theorem scan_sends (args : ScanArgs) :
    Sends SameRequests false (cleanWith policies)
      (scan engine client oracle (some args))
      (scanVerdict engine client policies args) := by
  unfold scan scanVerdict
  refine sends_seq yields_resetClientError ?_
  refine sends_bind yields_requireConnection fun _ => ?_
  refine sends_seq (yields_pure args) ?_
  refine sends_bind (yields_check Iff.rfl) fun _ => ?_
  refine sends_bind yields_requirePolicy fun policy => ?_
  refine sends_withCleanup ?_ reports_cleanupErr
  unfold scanBody requireSelect
  refine sends_bind (yields_check not_not.symm) fun _ => ?_
  exact sends_bind yields_orFail fun select => sends_issue

theorem flags_of_waits {request : Request} (hwaits : request.waits = true) :
    request.noBins = none ∧ request.concurrent = none := by
  cases request with
  | scanWait id => exact ⟨rfl, rfl⟩
  | _ => cases hwaits

/-- The flags of a call are those of the one request that its verdict names. -/
theorem sendsFlags_iff {method : Method Reply} {verdict : Verdict Request}
    {noBins concurrent : Bool} (clientError : AsError)
    (hsends : Sends OnlyWaits false (cleanWith policies) method verdict) :
    SendsFlags noBins concurrent (method.call (.start policies clientError)) ↔
      ∀ request, verdict = .ok request →
        (∀ flag, request.noBins = some flag → flag = noBins) ∧
        (∀ flag, request.concurrent = some flag → flag = concurrent) := by
  have hcall := call_of_sends clientError hsends
  unfold SendsFlags
  cases verdict with
  | ok request =>
      obtain ⟨waits, hrequests, hwaits⟩ := meets_onlyWaits hcall
      rw [hrequests]
      constructor
      · rintro hall request' ⟨⟩
        exact hall _ List.mem_cons_self
      · intro hone request' hmem
        rcases List.mem_cons.mp hmem with rfl | hwait
        · exact hone request' rfl
        · obtain ⟨hnoBins, hconcurrent⟩ := flags_of_waits (hwaits request' hwait)
          simp [hnoBins, hconcurrent]
  | error halt =>
      have hnone : (method.call (.start policies clientError)).state.requests =
          [] := by
        cases halt with
        | failed | crashed => exact hcall.2
      rw [hnone]
      exact iff_of_true (fun _ hmem => absurd hmem List.not_mem_nil)
        fun _ hok => by cases hok

/-! ## The options -/

/-- A boolean option, where there is one, is a boolean. -/
theorem setScanOptions_flags {scan : AsScan} (hnoBins : scan.noBins = false)
    (hconcurrent : scan.concurrent = false) {zPolicy : Option Zval}
    (hok : (setScanOptionsFromPolicyHash scan zPolicy).1 = .ok) :
    (setScanOptionsFromPolicyHash scan zPolicy).2.noBins =
        boolGiven zPolicy optScanNobins ∧
      (setScanOptionsFromPolicyHash scan zPolicy).2.concurrent =
        boolGiven zPolicy optScanConcurrently := by
  have hset : ∀ (hash : HashTable) (scan : AsScan), scan.noBins = false →
      (setScanOptionsFromPolicyHash.setNoBins hash scan).1 = .ok →
      (setScanOptionsFromPolicyHash.setNoBins hash scan).2.noBins =
          boolGiven (some (.array hash)) optScanNobins ∧
        (setScanOptionsFromPolicyHash.setNoBins hash scan).2.concurrent =
          scan.concurrent := by
    intro hash scan hnew hok
    unfold setScanOptionsFromPolicyHash.setNoBins at hok ⊢
    unfold boolGiven boolOption
    cases hfind : HashTable.indexFind hash optScanNobins with
    | none => simpa [hfind] using hnew
    | some z =>
        cases z with
        | bool b => simp [hfind, hnew]
        | _ => simp [hfind] at hok
  unfold setScanOptionsFromPolicyHash at hok ⊢
  split at hok
  · exact ⟨hnoBins, hconcurrent⟩
  · exact ⟨hnoBins, hconcurrent⟩
  · next hash =>
      have hgiven : ∀ value,
          HashTable.indexFind hash optScanConcurrently = value →
          boolGiven (some (.array hash)) optScanConcurrently =
            match value with
            | some (.bool b) => b
            | _ => false := by
        rintro value rfl
        unfold boolGiven boolOption
        cases hfind : HashTable.indexFind hash optScanConcurrently with
        | none => simp [hfind]
        | some z => cases z <;> simp [hfind]
      cases hfind : HashTable.indexFind hash optScanConcurrently with
      | none =>
          simp only [hfind] at hok ⊢
          rw [hgiven _ hfind, ← hconcurrent]
          exact hset hash scan hnoBins hok
      | some z =>
          cases z with
          | bool b =>
              simp only [hfind] at hok ⊢
              obtain ⟨hbins, hsame⟩ := hset hash
                { scan with concurrent := b || scan.concurrent } hnoBins hok
              rw [hgiven _ hfind, hsame]
              exact ⟨hbins, by simp [hconcurrent]⟩
          | _ => simp [hfind] at hok
  · cases hok

theorem setQueryOptions_noBins {rt : Runtime} {query : AsQuery}
    (hnew : query.noBins = false) {zPolicy : Option Zval}
    (hok : (setQueryOptionsFromPolicyHash rt query (nonNull zPolicy)).1 = .ok) :
    (setQueryOptionsFromPolicyHash rt query (nonNull zPolicy)).2.noBins =
        boolGiven zPolicy optQueryNobins ↔
      ∀ b, boolOption zPolicy optQueryNobins = some b → PayloadTrue rt b := by
  unfold boolGiven boolOption
  cases zPolicy with
  | none => simpa [nonNull, setQueryOptionsFromPolicyHash] using hnew
  | some z =>
      cases z with
      | null => simpa [nonNull, setQueryOptionsFromPolicyHash] using hnew
      | array hash =>
          simp only [nonNull, setQueryOptionsFromPolicyHash] at hok ⊢
          cases hfind : HashTable.indexFind hash optQueryNobins with
          | none => simpa [hfind] using hnew
          | some z =>
              cases z with
              | bool b =>
                  simp only [Option.getD_some, Option.some.injEq, forall_eq']
                  exact eq_comm
              | _ => simp [hfind] at hok
      | _ => cases hok

/-! ## The calls -/

theorem scanVerdict_flags {args : ScanArgs} {request : Request}
    (hok : scanVerdict engine client policies args = .ok request) :
    request.noBins = some (boolGiven args.policy optScanNobins) ∧
      request.concurrent =
        some (boolGiven args.policy optScanConcurrently) := by
  simp only [scanVerdict, verdict_bind_eq_ok, ensure_eq_ok] at hok
  obtain ⟨-, -, -, -, policy, -, -, hoptions, select, -, hrequest⟩ := hok
  obtain rfl := Except.ok.inj hrequest
  obtain ⟨hnoBins, hconcurrent⟩ := setScanOptions_flags rfl rfl hoptions
  exact ⟨congrArg some hnoBins, congrArg some hconcurrent⟩

/-- Whatever the options say. -/
theorem scanApplyVerdict_flags {args : ScanApplyArgs} {request : Request}
    (hok : scanApplyVerdict engine client oracle policies args = .ok request) :
    request.noBins = some false ∧ request.concurrent = some false := by
  simp only [scanApplyVerdict, verdict_bind_eq_ok, ensure_eq_ok] at hok
  obtain ⟨-, -, -, -, -, -, policy, -, -, -, -, -, -, -, hrequest⟩ := hok
  obtain rfl := Except.ok.inj hrequest
  exact ⟨rfl, rfl⟩

/-- A predicate leaves its query alone but for the clauses. -/
theorem predicateRun_wheres (query : AsQuery) (predicate : HashTable) :
    ∃ wheres, (predicateRun engine oracle query predicate).query =
      { query with wheres := wheres } := by
  by_cases hempty : HashTable.numElements predicate = 0
  · exact ⟨query.wheres, by simp [predicateRun, hempty]⟩
  · have hends := @predicateRun_ends engine oracle predicate query hempty
    cases hend : predicateEnd engine.indexTypes oracle.whereOk predicate with
    | added clause =>
        rw [hend] at hends
        exact ⟨query.wheres ++ [clause], by rw [hends]; rfl⟩
    | refused | lost =>
        rw [hend] at hends
        exact ⟨query.wheres, hends.2.2⟩

theorem predicateVerdict_noBins {query query' : AsQuery} {predicate : HashTable}
    (hok : predicateVerdict engine oracle query predicate = .ok query') :
    query'.noBins = query.noBins := by
  unfold predicateVerdict at hok
  split at hok
  · obtain rfl := Except.ok.inj hok
    obtain ⟨wheres, hwheres⟩ :=
      @predicateRun_wheres engine oracle query predicate
    rw [hwheres]
  · cases hok

theorem queryVerdict_flags {args : QueryArgs} {request : Request}
    (hok : queryVerdict engine client oracle policies args = .ok request) :
    ∃ flag, request.noBins = some flag ∧ request.concurrent = none ∧
      (flag = boolGiven args.policy optQueryNobins ↔
        ∀ b, boolOption args.policy optQueryNobins = some b →
          PayloadTrue engine.rt b) := by
  simp only [queryVerdict, verdict_bind_eq_ok, ensure_eq_ok] at hok
  obtain ⟨-, -, -, -, policy, -, -, -, -, hoptions, select, -, query, hquery,
    hrequest⟩ := hok
  obtain rfl := Except.ok.inj hrequest
  refine ⟨_, rfl, rfl, ?_⟩
  rw [predicateVerdict_noBins hquery]
  exact setQueryOptions_noBins rfl hoptions

/-! ## The constructor -/

/-- The number in a boolean zval, as a `bool`, is the boolean. -/
def ServicesPayload (rt : Runtime) (b : Bool) : Prop :=
  b = decide (rt.zLval (.bool b) ≠ 0)

theorem configure_useServicesAlternate {lib : ClientLibrary} {ini : Ini}
    {zConfig : HashTable} {zOptions : Option HashTable} {c : Configured}
    (hconfigure : configure engine lib ini zConfig zOptions = .ok c) {b : Bool}
    (hgiven : boolOption (zOptions.map .array) useServicesAlternate = some b) :
    c.config.useServicesAlternate = decide (engine.rt.zLval (.bool b) ≠ 0) := by
  obtain ⟨before, -, -, hset⟩ := configure_parts hconfigure
  cases zOptions with
  | none => cases hgiven
  | some options =>
      obtain ⟨connected, alternated, between, -, hservices, hbetween, hlast⟩ :=
        setPolicyDefaultsFromHash_outside
          (f := fun c => c.config.useServicesAlternate) (fun _ _ => rfl) hset
      have hfind : HashTable.indexFind options useServicesAlternate =
          some (.bool b) := by
        simp only [boolOption, Option.map_some] at hgiven
        split at hgiven
        · next hfind => rw [hfind, Option.some.inj hgiven]
        · cases hgiven
      rw [hfind] at hservices
      have halternated := Option.some.inj hservices
      have hvalue : c.config.useServicesAlternate =
          alternated.config.useServicesAlternate := by
        rw [hlast, ← hbetween]
        split <;> rfl
      rw [hvalue, ← halternated]

end

/-- The flags of a scan always arrive.  Those of `scanApply` never do, and those
of a query and of the constructor depend on the number in the boolean. -/
theorem flags_kept_iff (engine : Engine) (client : Client) (oracle : Oracle)
    (policies : Policies) (clientError : AsError) (scanArgs : ScanArgs)
    (applyArgs : ScanApplyArgs) (queryArgs : QueryArgs) (lib : ClientLibrary)
    (ini : Ini) (zConfig : HashTable) (zOptions : Option HashTable) :
    SendsFlags (boolGiven scanArgs.policy optScanNobins)
      (boolGiven scanArgs.policy optScanConcurrently)
      ((scan engine client oracle (some scanArgs)).call
        (.start policies clientError)) ∧
    (SendsFlags (boolGiven applyArgs.policy optScanNobins)
        (boolGiven applyArgs.policy optScanConcurrently)
        ((scanApply engine client oracle (some applyArgs)).call
          (.start policies clientError)) ↔
      ((∃ request, scanApplyVerdict engine client oracle policies applyArgs =
          .ok request) →
        boolGiven applyArgs.policy optScanNobins = false ∧
          boolGiven applyArgs.policy optScanConcurrently = false)) ∧
    (SendsFlags (boolGiven queryArgs.policy optQueryNobins) false
        ((query engine client oracle (some queryArgs)).call
          (.start policies clientError)) ↔
      ((∃ request, queryVerdict engine client oracle policies queryArgs =
          .ok request) →
        ∀ b, boolOption queryArgs.policy optQueryNobins = some b →
          PayloadTrue engine.rt b)) ∧
    ((∀ c, configure engine lib ini zConfig zOptions = .ok c →
        ∀ b, boolOption (zOptions.map .array) useServicesAlternate = some b →
          c.config.useServicesAlternate = b) ↔
      ((∃ c, configure engine lib ini zConfig zOptions = .ok c) →
        ∀ b, boolOption (zOptions.map .array) useServicesAlternate = some b →
          ServicesPayload engine.rt b)) := by
  refine ⟨?_, ?_, ?_, ?_⟩
  · refine (sendsFlags_iff clientError ((scan_sends scanArgs).mono
      onlyWaits_of_sameRequests)).mpr fun request hok => ?_
    obtain ⟨hnoBins, hconcurrent⟩ := scanVerdict_flags hok
    simp [hnoBins, hconcurrent, eq_comm]
  · rw [sendsFlags_iff clientError (scanApply_sends applyArgs)]
    constructor
    · rintro hall ⟨request, hok⟩
      obtain ⟨hnoBins, hconcurrent⟩ := scanApplyVerdict_flags hok
      obtain ⟨hbins, hconc⟩ := hall request hok
      exact ⟨(hbins _ hnoBins).symm, (hconc _ hconcurrent).symm⟩
    · intro hnone request hok
      obtain ⟨hnoBins, hconcurrent⟩ := scanApplyVerdict_flags hok
      obtain ⟨hbins, hconc⟩ := hnone ⟨request, hok⟩
      simp [hnoBins, hconcurrent, hbins, hconc]
  · rw [sendsFlags_iff clientError ((query_sends queryArgs).mono
      onlyWaits_of_sameRequests)]
    constructor
    · rintro hall ⟨request, hok⟩
      obtain ⟨flag, hnoBins, -, hiff⟩ := queryVerdict_flags hok
      exact hiff.mp ((hall request hok).1 flag hnoBins)
    · intro hpayload request hok
      obtain ⟨flag, hnoBins, hconcurrent, hiff⟩ := queryVerdict_flags hok
      have hflag := hiff.mpr (hpayload ⟨request, hok⟩)
      simp [hnoBins, hconcurrent, hflag]
  · constructor
    · rintro hall ⟨c, hok⟩ b hgiven
      exact (hall c hok b hgiven).symm.trans
        (configure_useServicesAlternate hok hgiven)
    · intro hpayload c hok b hgiven
      exact (configure_useServicesAlternate hok hgiven).trans
        (hpayload ⟨c, hok⟩ b hgiven).symm

/-- A background scan without bins. -/
def nobinsScan : ScanApplyArgs where
  ns := "test"
  set := "demo"
  module := "m"
  function := "f"
  args := []
  policy := some (.array [(.idx optScanNobins, .bool true)])

/-- A query without bins. -/
def nobinsQuery : QueryArgs where
  ns := "test"
  set := "demo"
  predicate := []
  select := none
  policy := some (.array [(.idx optQueryNobins, .bool true)])

/-- The background scan returns the bins, and so does the query, when the
boolean happens to hold a zero. -/
theorem nobins_not_sent :
    ¬ SendsFlags true false
        ((scanApply Engine.plain Client.connected Oracle.accepting
          (some nobinsScan)).call (.start default .init)) ∧
      ¬ SendsFlags true false
        ((query Engine.plain Client.connected Oracle.accepting
          (some nobinsQuery)).call (.start default .init)) := by
  constructor
  · intro hflags
    have hfalse := (hflags _ List.mem_cons_self).1 false rfl
    cases hfalse
  · intro hflags
    have hfalse := (hflags _ List.mem_cons_self).1 false rfl
    cases hfalse

end AerospikePhp
