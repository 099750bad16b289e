import AerospikePhp.WriteCalls
import AerospikePhp.ScanFlags
import AerospikePhp.ConnectionGuard
import AerospikePhp.BatchAnswers
import AerospikePhp.RecordBins
import Mathlib.Tactic

/-!
# Lists of bin names

Five methods take a list of bin names, each with a loop of its own.  Two of the
loops look at the length of a name, four at its type, none at the result of the
call that adds the name, and none at NUL bytes.  The other three have room for
as many names as a `uint16_t` says.
-/

namespace AerospikePhp

open Procedure Method Proc AssociationList

/-! ## The names of the array -/

/-- The names in the array, when all its elements are strings. -/
def namesOf : List Zval → Option (List String)
  | [] => some []
  | .string name :: zs => (namesOf zs).map (name :: ·)
  | _ :: _ => none

/-- Names that `as_scan_select` and the others add as they are. -/
def Whole (name : String) : Prop :=
  NulFree name ∧ strlen name ≤ asBinNameMaxLen

theorem namesOf_string (name : String) (zs : List Zval) :
    namesOf (.string name :: zs) = (namesOf zs).map (name :: ·) := rfl

theorem filterBinNames_eq_ok_iff {bins : HashTable} {sent : List String} :
    filterBinNames bins = .ok sent ↔
      ∃ names, namesOf (HashTable.values bins) = some names ∧
        (∀ name ∈ names, name.length ≤ asBinNameMaxLen) ∧
        sent = names.map cString := by
  induction bins generalizing sent with
  | nil =>
      simp only [filterBinNames, HashTable.values_nil, namesOf]
      constructor
      · intro heq
        obtain rfl := Except.ok.inj heq
        exact ⟨[], rfl, by simp, rfl⟩
      · rintro ⟨names, hnames, -, rfl⟩
        obtain rfl := Option.some.inj hnames
        rfl
  | cons entry bins ih =>
      obtain ⟨key, z⟩ := entry
      cases z with
      | string name =>
          rw [filterBinNames, HashTable.values_cons, namesOf_string]
          by_cases hlong : name.length > asBinNameMaxLen
          · simp only [hlong, if_true, reduceCtorEq, false_iff]
            rintro ⟨names, hnames, hfit, -⟩
            obtain ⟨rest, -, rfl⟩ := Option.map_eq_some_iff.mp hnames
            exact absurd (hfit name (by simp)) (not_le.mpr hlong)
          · simp only [hlong, if_false]
            constructor
            · intro heq
              split at heq
              · next rest hrest =>
                  obtain rfl := Except.ok.inj heq
                  obtain ⟨names, hnames, hfit, rfl⟩ := ih.mp hrest
                  refine ⟨name :: names, by rw [hnames]; rfl, ?_, rfl⟩
                  simpa using ⟨not_lt.mp hlong, hfit⟩
              · cases heq
            · rintro ⟨names, hnames, hfit, rfl⟩
              obtain ⟨rest, hrest, rfl⟩ := Option.map_eq_some_iff.mp hnames
              rw [ih.mpr ⟨rest, hrest,
                fun name hmem => hfit name (by simp [hmem]), rfl⟩]
              rfl
      | undef | null | bool _ | long _ | double _ | array _ | object _ _
      | resource | reference _ => simp [filterBinNames, namesOf]

/-- The names that get through a call which drops the long ones. -/
def keptNames (names : List String) : List String :=
  (names.filter (strlen · ≤ asBinNameMaxLen)).map cString

theorem keptNames_cons (name : String) (names : List String) :
    keptNames (name :: names) =
      if strlen name > asBinNameMaxLen then keptNames names
      else cString name :: keptNames names := by
  unfold keptNames
  by_cases hlong : strlen name > asBinNameMaxLen
  · simp [hlong]
  · simp [hlong, not_lt.mp hlong]

theorem selectLoop_eq (room : ℕ) (zs : List Zval) :
    selectLoop room zs =
      (namesOf zs).map fun names => (keptNames names).take room := by
  induction zs generalizing room with
  | nil => simp [selectLoop, namesOf, keptNames]
  | cons z zs ih =>
      cases z with
      | string name =>
          rw [selectLoop, namesOf_string, ih, ih]
          cases namesOf zs with
          | none => simp
          | some names =>
              simp only [Option.map_some, keptNames_cons]
              cases room with
              | zero => simp
              | succ room => by_cases hlong : strlen name > asBinNameMaxLen <;> simp [hlong]
      | undef | null | bool _ | long _ | double _ | array _ | object _ _
      | resource | reference _ => simp only [selectLoop, namesOf, Option.map_none]

theorem length_of_namesOf {zs : List Zval} {names : List String}
    (hnames : namesOf zs = some names) : names.length = zs.length := by
  induction zs generalizing names with
  | nil =>
      obtain rfl := Option.some.inj hnames
      rfl
  | cons z zs ih =>
      cases z with
      | string name =>
          obtain ⟨rest, hrest, rfl⟩ := Option.map_eq_some_iff.mp hnames
          simp [ih hrest]
      | undef | null | bool _ | long _ | double _ | array _ | object _ _
      | resource | reference _ => simp [namesOf] at hnames

theorem numElements_of_namesOf {bins : HashTable} {names : List String}
    (hnames : namesOf (HashTable.values bins) = some names) :
    names.length = bins.numElements := by
  rw [length_of_namesOf hnames, HashTable.length_values]

theorem map_cString_eq_iff (names : List String) :
    names.map cString = names ↔ ∀ name ∈ names, NulFree name := by
  induction names with
  | nil => simp
  | cons name names ih => simp [ih, cString_eq_self_iff]

theorem keptNames_eq_iff (names : List String) :
    keptNames names = names ↔ ∀ name ∈ names, Whole name := by
  constructor
  · intro heq
    have hlength := congrArg List.length heq
    rw [keptNames, List.length_map] at hlength
    have hall := List.filter_sublist.eq_of_length hlength
    rw [keptNames, hall] at heq
    intro name hmem
    refine ⟨(map_cString_eq_iff names).mp heq name hmem, ?_⟩
    rw [← hall] at hmem
    simpa using (List.mem_filter.mp hmem).2
  · intro hwhole
    have hall : names.filter (strlen · ≤ asBinNameMaxLen) = names :=
      List.filter_eq_self.mpr fun name hmem => by simpa using (hwhole name hmem).2
    rw [keptNames, hall]
    exact (map_cString_eq_iff names).mpr fun name hmem => (hwhole name hmem).1

/-- Setting a bin adds its name when there is none of that name. -/
def addName (names : List String) (name : String) : List String :=
  if name ∈ names then names else names ++ [name]

/-- The nil bins for the names. -/
def nilBins (names : List String) : List (String × AsVal) :=
  names.map fun name => (name, .nil)

theorem map_fst_set (bins : List (String × AsVal)) (name : String)
    (value : AsVal) :
    (AssociationList.set sameName bins name value).map Prod.fst =
      addName (bins.map Prod.fst) name := by
  induction bins with
  | nil => simp [AssociationList.set, addName]
  | cons bin bins ih =>
      obtain ⟨name', value'⟩ := bin
      unfold AssociationList.set
      by_cases hname : name' = name
      · simp [addName, sameName, hname]
      · simp only [sameName, hname, decide_false, Bool.false_eq_true, if_false,
          List.map_cons, addName, List.mem_cons, Ne.symm hname, false_or] at ih ⊢
        rw [ih]
        split <;> rfl

theorem map_fst_setAll_nilBins (bins : List (String × AsVal))
    (names : List String) :
    (setAll sameName bins (nilBins names)).map Prod.fst =
      names.foldl addName (bins.map Prod.fst) := by
  induction names generalizing bins with
  | nil => rfl
  | cons name names ih =>
      show (setAll sameName (AssociationList.set sameName bins name .nil)
        (nilBins names)).map Prod.fst = _
      rw [ih, map_fst_set, List.foldl_cons]

/-- The names that are added are some of the new ones. -/
theorem foldl_addName_eq_append (names added : List String) :
    ∃ new, added.foldl addName names = names ++ new ∧ new.Sublist added := by
  induction added generalizing names with
  | nil => exact ⟨[], by simp, .refl _⟩
  | cons name added ih =>
      obtain ⟨new, hnew, hsub⟩ := ih (addName names name)
      by_cases hmem : name ∈ names
      · refine ⟨new, ?_, hsub.cons name⟩
        rw [List.foldl_cons, hnew, addName, if_pos hmem]
      · refine ⟨name :: new, ?_, hsub.cons_cons name⟩
        rw [List.foldl_cons, hnew, addName, if_neg hmem]
        simp

theorem foldl_addName_eq_iff (names added : List String) :
    added.foldl addName names = names ++ added ↔
      added.Nodup ∧ ∀ name ∈ added, name ∉ names := by
  induction added generalizing names with
  | nil => simp
  | cons name added ih =>
      rw [List.foldl_cons]
      by_cases hmem : name ∈ names
      · rw [addName, if_pos hmem]
        refine iff_of_false (fun heq => ?_) fun h => h.2 name (by simp) hmem
        obtain ⟨new, hnew, hsub⟩ := foldl_addName_eq_append names added
        have hlong : new = name :: added :=
          List.append_cancel_left (hnew.symm.trans heq)
        have hlength := hsub.length_le
        simp [hlong] at hlength
      · rw [addName, if_neg hmem]
        have hshift : names ++ name :: added = (names ++ [name]) ++ added := by simp
        rw [hshift, ih]
        simp only [List.nodup_cons, List.mem_append, List.mem_cons,
          List.not_mem_nil, or_false, forall_eq_or_imp]
        constructor
        · rintro ⟨hnodup, hfresh⟩
          exact ⟨⟨fun hin => hfresh name hin (.inr rfl), hnodup⟩, hmem,
            fun other hin hold => hfresh other hin (.inl hold)⟩
        · rintro ⟨⟨hnew, hnodup⟩, -, hfresh⟩
          refine ⟨hnodup, fun other hin hold => ?_⟩
          rcases hold with hold | rfl
          · exact hfresh other hin hold
          · exact hnew hin

theorem setNilLoop_eq (capacity : ℕ) (zs : List Zval)
    (bins : List (String × AsVal)) :
    setNilLoop capacity zs bins = (namesOf zs).map fun names =>
      setAllWithin sameName capacity bins (nilBins (keptNames names)) := by
  induction zs generalizing bins with
  | nil => simp [setNilLoop, namesOf, keptNames, nilBins]
  | cons z zs ih =>
      cases z with
      | string name =>
          rw [setNilLoop, namesOf_string, ih]
          cases namesOf zs with
          | none => simp only [Option.map_none]
          | some names =>
              simp only [Option.map_some, keptNames_cons]
              split
              · rfl
              · rw [asRecordSet_eq_setWithin]
                rfl
      | undef | null | bool _ | long _ | double _ | array _ | object _ _
      | resource | reference _ => simp only [setNilLoop, namesOf, Option.map_none]

theorem length_keptNames_le (names : List String) :
    (keptNames names).length ≤ names.length := by
  rw [keptNames, List.length_map]
  exact List.filter_sublist.length_le

/-- The names that are selected are those of the array when there is room for
them, and each is added as it is. -/
theorem take_keptNames_eq_iff (names : List String) :
    (keptNames names).take (binCapacity names.length) = names ↔
      (∀ name ∈ names, Whole name) ∧ names.length < 2 ^ 16 := by
  rw [← keptNames_eq_iff, ← le_binCapacity_iff]
  constructor
  · intro heq
    have hlength := congrArg List.length heq
    have hkept := length_keptNames_le names
    rw [List.length_take] at hlength
    have hall : (keptNames names).take (binCapacity names.length) =
        keptNames names := List.take_of_length_le (by omega)
    rw [hall] at heq
    exact ⟨heq, by omega⟩
  · rintro ⟨heq, hroom⟩
    rw [heq]
    exact List.take_of_length_le hroom

theorem foldl_keptNames_eq_iff (names : List String) :
    (keptNames names).foldl addName [] = names ↔
      (∀ name ∈ names, Whole name) ∧ names.Nodup := by
  constructor
  · intro heq
    obtain ⟨new, hnew, hsub⟩ := foldl_addName_eq_append [] (keptNames names)
    obtain rfl : new = names := by simpa using hnew.symm.trans heq
    have hkept : new = keptNames new :=
      hsub.eq_of_length_le (length_keptNames_le new)
    refine ⟨(keptNames_eq_iff new).mp hkept.symm, ?_⟩
    rw [← hkept] at heq
    exact ((foldl_addName_eq_iff [] new).mp heq).1
  · rintro ⟨hwhole, hnodup⟩
    rw [(keptNames_eq_iff names).mpr hwhole]
    exact (foldl_addName_eq_iff [] names).mpr ⟨hnodup, by simp⟩

/-- The nil bins of a record are the names of the array when there is room for
them, they are whole and no name comes twice. -/
theorem setNilBins_eq_iff (names : List String) :
    (setAllWithin sameName (binCapacity names.length) []
        (nilBins (keptNames names))).map Prod.fst = names ↔
      (∀ name ∈ names, Whole name) ∧ names.Nodup ∧ names.length < 2 ^ 16 := by
  by_cases hfew : names.length < 2 ^ 16
  · have hkept := length_keptNames_le names
    have hroom : ([] : List (String × AsVal)).length +
        (nilBins (keptNames names)).length ≤ binCapacity names.length := by
      rw [nilBins, List.length_map, List.length_nil]
      have hcapacity := (le_binCapacity_iff names.length).mpr hfew
      omega
    rw [setAllWithin_of_room hroom, map_fst_setAll_nilBins,
      and_iff_left hfew]
    exact foldl_keptNames_eq_iff names
  · refine iff_of_false (fun heq => hfew ?_) fun h => hfew h.2.2
    have hroom : (setAllWithin sameName (binCapacity names.length) []
        (nilBins (keptNames names))).length ≤ binCapacity names.length :=
      length_setAllWithin_le _ (Nat.zero_le _)
    have hlength := congrArg List.length heq
    rw [List.length_map] at hlength
    rw [← le_binCapacity_iff]
    omega

/-! ## What is sent -/

/-- The bin names that the request asks for or, for `removeBin`, sets to nil. -/
def Request.CarriesNames (names : List String) : Request → Prop
  | .keySelect _ _ bins => bins = names
  | .keyPut _ _ record => record.bins.map Prod.fst = names
  | .batchRead _ reads => ∀ read ∈ reads, read.binNames = some names
  | .scanForeach _ scan => scan.select = names
  | .queryForeach _ query => query.select = names
  | _ => False

/-- The call is refused without a request, or its one request has the names of
the array. -/
def ForwardsNames (bins : HashTable) (outcome : Outcome) : Prop :=
  outcome.Refused ∨ ∃ request names, outcome.state.requests = [request] ∧
    namesOf (HashTable.values bins) = some names ∧ request.CarriesNames names

def VerdictForwards (bins : HashTable) : Verdict Request → Prop
  | .ok request => ∃ names, namesOf (HashTable.values bins) = some names ∧
      request.CarriesNames names
  | .error .failed => True
  | .error .crashed => False

def NamesNulFree (bins : HashTable) : Prop :=
  ∀ names, namesOf (HashTable.values bins) = some names →
    ∀ name ∈ names, NulFree name

/-- The names are added as they are, and there is room for them. -/
def NamesSelected (bins : HashTable) : Prop :=
  ∀ names, namesOf (HashTable.values bins) = some names →
    (∀ name ∈ names, Whole name) ∧ names.length < 2 ^ 16

section

variable {engine : Engine} {client : Client} {oracle : Oracle}
variable {policies : Policies} {bins : HashTable}

theorem forwardsNames_iff {outcome : Outcome} {verdict : Verdict Request}
    (hmeets : outcome.Meets SameRequests verdict) :
    ForwardsNames bins outcome ↔ VerdictForwards bins verdict := by
  unfold ForwardsNames
  cases verdict with
  | ok request =>
      obtain ⟨sent, hsent, hsame⟩ := hmeets
      have hone : outcome.state.requests = [request] := hsame.trans hsent
      constructor
      · rintro (⟨-, hnone⟩ | ⟨request', names, hrequest', hnames, hcarries⟩)
        · exact absurd (hone.symm.trans hnone) (by simp)
        · obtain rfl : request = request' := by
            simpa using hone.symm.trans hrequest'
          exact ⟨names, hnames, hcarries⟩
      · rintro ⟨names, hnames, hcarries⟩
        exact .inr ⟨request, names, hone, hnames, hcarries⟩
  | error halt =>
      cases halt with
      | failed => exact iff_of_true (.inl hmeets) trivial
      | crashed =>
          refine iff_of_false ?_ id
          rintro (⟨⟨reply, hreply, -⟩, -⟩ | ⟨request, names, hrequest, -⟩)
          · exact absurd (hmeets.1.symm.trans hreply) (by simp)
          · exact absurd (hmeets.2.symm.trans hrequest) (by simp)

theorem verdictForwards_iff {passes good : Prop} {verdict : Verdict Request}
    (hgated : Gated passes (fun verdict => VerdictForwards bins verdict ↔ good)
      verdict) :
    VerdictForwards bins verdict ↔ (passes → good) := by
  rcases hgated with ⟨hpasses, hverdict⟩ | ⟨hstops, rfl⟩
  · simp only [hpasses, forall_const]
    exact hverdict
  · exact iff_of_true trivial fun hpasses => absurd hpasses hstops

/-! ## get -/

theorem filterNames_forwarded_iff {policy : PolicyRead} {key : AsKey} :
    VerdictForwards bins (present (filterRequest policy key
        (some (.array bins)))) ↔
      (FilterFits (some (.array bins)) → NamesNulFree bins) := by
  apply verdictForwards_iff
  unfold filterRequest FilterFits
  by_cases hlist : HashTable.hashtableIsList bins = false
  · exact .inr ⟨fun hfits => by simp [hlist] at hfits, by simp [hlist, present]⟩
  · simp only [if_neg hlist]
    cases hsent : filterBinNames bins with
    | error message =>
        exact .inr ⟨by simp, rfl⟩
    | ok sent =>
        refine .inl ⟨⟨by simpa using hlist, sent, rfl⟩, ?_⟩
        obtain ⟨names, hnames, -, rfl⟩ := filterBinNames_eq_ok_iff.mp hsent
        simp only [present, VerdictForwards, Request.CarriesNames, hnames,
          Option.some.injEq, exists_eq_left', NamesNulFree, forall_eq',
          map_cString_eq_iff]

theorem getVerdict_forwards_iff (args : GetArgs) :
    VerdictForwards bins (getVerdict engine client.hasClient policies
        (some { args with filter := some (.array bins) })) ↔
      client.hasClient = true ∧
        (({ args with filter := some (.array bins) } : GetArgs).WellFormed engine
          policies → NamesNulFree bins) := by
  cases hhas : client.hasClient with
  | false => exact iff_of_false id (by simp)
  | true =>
      simp only [true_and]
      apply verdictForwards_iff
      show Gated _ _ (policyOf _ >>= fun policy => _)
      unfold policyOf
      refine gated_if fun _ => gated_present fun key _ => ?_
      by_cases hfits : FilterFits (some (.array bins))
      · exact .inl ⟨hfits, filterNames_forwarded_iff.trans
          ⟨fun hfree => hfree hfits, fun hfree _ => hfree⟩⟩
      · rcases @filterRequest_gated _ key (some (.array bins)) with
          ⟨hfits', -⟩ | ⟨-, hfailed⟩
        · exact absurd hfits' hfits
        · exact .inr ⟨hfits, hfailed⟩

/-! ## scan, query and removeBin -/

/-- The checks of `scan`. -/
def ScanPasses (engine : Engine) (client : Client) (policies : Policies)
    (args : ScanArgs) : Prop :=
  client.Ready ∧ args.ns.length ≠ 0 ∧
    (zvalToAsPolicyScan engine.init.scan args.policy policies.scan).status =
      .ok ∧
    (scanOptions args).1 = .ok ∧
    (selectBins (args.select.getD [])).isSome

/-- A loop that selects bins has selected those of the array. -/
theorem selected_forwards_iff {select : List String}
    (hselect : selectBins bins = some select)
    {request : Request}
    (hrequest : ∀ names, request.CarriesNames names ↔ select = names) :
    VerdictForwards bins (.ok request) ↔ NamesSelected bins := by
  rw [selectBins, selectLoop_eq] at hselect
  obtain ⟨names, hnames, rfl⟩ := Option.map_eq_some_iff.mp hselect
  simp only [VerdictForwards, hrequest, hnames, Option.some.injEq,
    exists_eq_left', NamesSelected, forall_eq', ← numElements_of_namesOf hnames,
    take_keptNames_eq_iff]

theorem scanVerdict_forwards_iff (args : ScanArgs) :
    VerdictForwards bins (scanVerdict engine client policies
        { args with select := some bins }) ↔
      (ScanPasses engine client policies { args with select := some bins } →
        NamesSelected bins) := by
  apply verdictForwards_iff
  refine gated_ensure fun _ => gated_ensure fun _ => gated_if fun _ => ?_
  refine gated_ensure fun _ => gated_and_true (gated_present fun select hselect =>
    gated_of_true trivial ?_)
  exact selected_forwards_iff hselect fun _ => Iff.rfl

theorem queryVerdict_forwards_iff (args : QueryArgs) :
    VerdictForwards bins (queryVerdict engine client oracle policies
        { args with select := some bins }) ↔
      (QueryPasses engine client oracle policies
          { args with select := some bins } →
        PredicateGoesOn engine oracle args.predicate → NamesSelected bins) := by
  rw [← and_imp]
  apply verdictForwards_iff
  unfold queryVerdict
  simp only [QueryPasses, and_assoc]
  refine gated_ensure fun _ => gated_ensure fun _ => ?_
  rw [ifGiven_policyOf queryPolicy_of_none]
  refine gated_if fun _ => gated_ensure fun _ => gated_ensure fun _ => ?_
  refine gated_present fun select hselect => ?_
  have hstatus := @predicateRun_status_iff engine oracle
    { (queryOptions engine { args with select := some bins }).2 with
      select := select } args.predicate
  unfold predicateVerdict
  refine gated_congr (gated_and_true (gated_if fun hok => gated_of_true trivial ?_))
    (by rw [← hstatus])
  refine selected_forwards_iff hselect fun names => ?_
  obtain ⟨wheres, hwheres⟩ := @predicateRun_wheres engine oracle
    { (queryOptions engine { args with select := some bins }).2 with
      select := select } args.predicate
  rw [hwheres]
  rfl

/-- All elements are names that are added as they are, none comes twice, and
there is room for them. -/
def NamesRemovable (bins : HashTable) : Prop :=
  ∃ names, namesOf (HashTable.values bins) = some names ∧
    (∀ name ∈ names, Whole name) ∧ names.Nodup ∧ names.length < 2 ^ 16

theorem setNilBins_forwards_iff {policy : Option PolicyWrite} {key : AsKey}
    {record : AsRecord} :
    VerdictForwards bins (orCrash (setNilBins bins) >>=
        fun nils => .ok (.keyPut policy key { record with bins := nils })) ↔
      NamesRemovable bins := by
  unfold NamesRemovable
  rw [setNilBins, setNilLoop_eq]
  cases hnames : namesOf (HashTable.values bins) with
  | none => exact iff_of_false id (by simp)
  | some names =>
      simp only [Option.map_some, Option.some.injEq, exists_eq_left']
      rw [← setNilBins_eq_iff, ← numElements_of_namesOf hnames]
      show (∃ names', _ ∧ _ = names') ↔ _
      simp only [hnames, Option.some.injEq, exists_eq_left']

theorem removeBinVerdict_forwards_iff (args : RemoveBinArgs) :
    VerdictForwards args.bins (removeBinVerdict engine client policies args) ↔
      (RemoveBinPasses engine client policies args →
        (setRecordGeneration args.policy asRecordNew).1 = .ok →
        NamesRemovable args.bins) := by
  rw [← and_imp]
  apply verdictForwards_iff
  unfold removeBinVerdict recordWithGeneration
  refine gated_congr (gated_ensure fun _ => gated_if fun _ =>
    gated_present fun key _ => gated_if fun _ => gated_ensure fun _ =>
    gated_of_true trivial setNilBins_forwards_iff) ?_
  unfold RemoveBinPasses
  tauto

/-! ## getMany -/

/-- What is left of `getMany` after its start, when no key is lost. -/
def readsVerdict (engine : Engine) (policy : Option PolicyBatch)
    (args : GetManyArgs) : Verdict Request :=
  match batchBinNames args.filter, keysEnd engine.keyInit
      (HashTable.values args.keys) with
  | .ok names, .converted keys =>
      .ok (.batchRead policy (keys.map fun key => ⟨key, names⟩))
  | _, _ => .error .failed

/-- A key that cannot be used ends the inner part with an error. -/
theorem getManyInner_refused {policy : Option PolicyBatch}
    {names : Option (List String)} {zKeys : HashTable} {s : CallState}
    (herr : s.err = .init)
    (hkeys : keysEnd engine.keyInit (HashTable.values zKeys) = .refused) :
    ReachesCleanup ((getManyInner engine oracle policy names zKeys).run s)
      fun s' => s'.err.code ≠ .ok ∧ s'.requests = s.requests := by
  have hset : (setOutput (.array [])).run s =
      (.ok (), { s with output := some (.array []) }) := rfl
  have hconvert := @convertKeys_run engine "Keys must be arrays"
    (HashTable.values zKeys) { s with output := some (.array []) } herr
  rw [hkeys] at hconvert
  obtain ⟨s', hrun, hcode, -⟩ := hconvert
  have hsame : Moves SameRequests (convertKeys engine "Keys must be arrays"
      (HashTable.values zKeys)) := inferInstance
  have hmoved := hsame.moves { s with output := some (.array []) }
  rw [hrun] at hmoved
  refine ⟨_, s', ?_, .inr rfl, hcode, hmoved⟩
  unfold getManyInner
  rw [run_bind_ok hset, run_bind_error hrun]

theorem getManyInner_sends {policy : Option PolicyBatch}
    {names : Option (List String)} {zKeys : HashTable} {keys : List AsKey}
    (hkeys : keysEnd engine.keyInit (HashTable.values zKeys) =
      .converted keys) :
    Sends SameRequests true clean (getManyInner engine oracle policy names zKeys)
      (.ok (.batchRead policy (keys.map fun key => ⟨key, names⟩))) := by
  unfold getManyInner
  refine sends_seq (yields_setOutput _) ?_
  have hconvert : Yields true clean
      (convertKeys engine "Keys must be arrays" (HashTable.values zKeys))
      (.ok keys) clean := by
    intro s herr
    have hrun := @convertKeys_run engine "Keys must be arrays"
      (HashTable.values zKeys) s herr
    rw [hkeys] at hrun
    exact ⟨s, hrun, rfl, herr⟩
  exact sends_seq hconvert sends_issue

theorem getManyRest_sends {policy : Option PolicyBatch} {args : GetManyArgs}
    (hlost : ∀ names, batchBinNames args.filter = .ok names →
      keysEnd engine.keyInit (HashTable.values args.keys) ≠ .lost) :
    Sends SameRequests false clean
      (withCleanup (getManyBody engine oracle policy args) cleanupErr)
      (readsVerdict engine policy args) := by
  unfold readsVerdict getManyBody requireBatchBinNames
  cases hfilter : batchBinNames args.filter with
  | error message => exact sends_withCleanup sends_of_fails reports_cleanupErr
  | ok names =>
      cases hkeys : keysEnd engine.keyInit (HashTable.values args.keys) with
      | lost => exact absurd hkeys (hlost names hfilter)
      | converted keys =>
          exact sends_withCleanup_of_ok (sends_seq (yields_pure names)
            (sends_withCleanup_of_ok (getManyInner_sends hkeys)))
      | refused =>
          intro s herr
          obtain ⟨s', ⟨hcode, hrequests⟩, hrun⟩ := getManyWithBatchRead_run
            (@getManyInner_refused engine oracle policy names args.keys s herr
              hkeys)
          have hbody : ((pure names : Method _) >>= fun bins =>
              getManyWithBatchRead engine oracle policy bins args.keys).run s =
              (.ok (), { s' with output := some .null }) := by
            rw [run_bind_ok (run_pure names s), hrun, if_pos hcode]
          obtain ⟨reply, s'', hend, hsame, hfailed⟩ :=
            reports_cleanupErr { s' with output := some .null } hcode
          refine ⟨.ret reply, s'', ?_, hsame.trans hrequests, hfailed⟩
          unfold withCleanup
          rw [run_bind, run_catchExit, hbody]
          exact hend

def getManyVerdict (engine : Engine) (client : Client) (policies : Policies)
    (args : GetManyArgs) : Verdict Request := do
  let policy ← batchVerdict engine client policies args.policy
  readsVerdict engine policy args

/-- Unless a key is lost, which the checks before may prevent. -/
theorem getMany_sends {args : GetManyArgs}
    (hlost : BatchReadPasses engine client policies args.policy →
      ∀ names, batchBinNames args.filter = .ok names →
        keysEnd engine.keyInit (HashTable.values args.keys) ≠ .lost) :
    Sends SameRequests false (cleanWith policies)
      (getMany engine client oracle (some args))
      (getManyVerdict engine client policies args) := by
  rw [getMany_eq]
  refine sends_bind_of_ok (yields_getManyStart args.policy) fun policy hpolicy =>
    getManyRest_sends (hlost ?_)
  exact (batchVerdict_ok_iff args.policy).mp ⟨policy, hpolicy⟩

/-- A lost key ends the call with `AEROSPIKE_OK` and without a request. -/
theorem getMany_lost {args : GetManyArgs} (clientError : AsError)
    (hpasses : BatchReadPasses engine client policies args.policy)
    {names : Option (List String)} (hfilter : batchBinNames args.filter = .ok names)
    (hlost : keysEnd engine.keyInit (HashTable.values args.keys) = .lost) :
    let outcome := (getMany engine client oracle (some args)).call
      (.start policies clientError)
    outcome.reply = some (.long .ok) ∧ outcome.state.requests = [] := by
  obtain ⟨policy, hverdict⟩ := (batchVerdict_ok_iff args.policy).mpr hpasses
  have hstart := @yields_getManyStart engine client policies args.policy
    (.start policies clientError) ⟨rfl, rfl⟩
  rw [hverdict] at hstart
  obtain ⟨s, hrun, hrequests, herr⟩ := hstart
  have hmethod : (getMany engine client oracle (some args)).run
      (.start policies clientError) =
        (withCleanup (getManyBody engine oracle policy args) cleanupErr).run s := by
    rw [getMany_eq, run_bind_ok hrun]
  have hset : (setOutput (.array [])).run s =
      (.ok (), { s with output := some (.array []) }) := rfl
  have hconvert := @convertKeys_run engine "Keys must be arrays"
    (HashTable.values args.keys) { s with output := some (.array []) } herr
  rw [hlost] at hconvert
  have hinner : ReachesCleanup
      ((getManyInner engine oracle policy names args.keys).run s)
      fun s' => s'.err = .init ∧ s'.requests = s.requests := by
    refine ⟨_, { s with output := some (.array []) }, ?_, .inr rfl, herr, rfl⟩
    unfold getManyInner
    rw [run_bind_ok hset, run_bind_error hconvert]
  obtain ⟨s', ⟨herr', hrequests'⟩, hreads⟩ := getManyWithBatchRead_run hinner
  have hbody : (getManyBody engine oracle policy args).run s = (.ok (), s') := by
    unfold getManyBody requireBatchBinNames
    rw [hfilter]
    show (getManyWithBatchRead engine oracle policy names args.keys).run s = _
    rw [hreads, if_neg (by simp [herr', AsError.init])]
  intro outcome
  obtain ⟨hreply, -, hsent⟩ := call_withCleanupErr hbody (.inl rfl)
  have hcall : outcome =
      (withCleanup (getManyBody engine oracle policy args) cleanupErr).call s :=
    call_of_run_eq hmethod
  rw [hcall]
  refine ⟨?_, ?_⟩
  · rw [hreply, herr']
    rfl
  · rw [hsent, hrequests', hrequests]
    rfl

/-- The condition under which `getMany` forwards the names of its filter. -/
def ManyForwards (engine : Engine) (client : Client) (policies : Policies)
    (args : GetManyArgs) (bins : HashTable) : Prop :=
  BatchReadPasses engine client policies args.policy →
    (∃ names, filterBinNames bins = .ok names) →
      keysEnd engine.keyInit (HashTable.values args.keys) ≠ .lost ∧
        ∀ key keys, keysEnd engine.keyInit (HashTable.values args.keys) =
          .converted (key :: keys) → NamesNulFree bins

theorem batchBinNames_cons (entry : ZKey × Zval) (rest : HashTable) :
    batchBinNames (some (entry :: rest)) =
      (filterBinNames (entry :: rest)).map some := by
  rw [batchBinNames]
  · cases filterBinNames (entry :: rest) <;> rfl
  · exact List.cons_ne_nil entry rest

theorem readsVerdict_forwards_iff {policy : Option PolicyBatch}
    (args : GetManyArgs) (entry : ZKey × Zval) (rest : HashTable) :
    VerdictForwards (entry :: rest) (readsVerdict engine policy
        { args with filter := some (entry :: rest) }) ↔
      ((∃ names, filterBinNames (entry :: rest) = .ok names) →
        ∀ key keys, keysEnd engine.keyInit (HashTable.values args.keys) =
          .converted (key :: keys) → NamesNulFree (entry :: rest)) := by
  unfold readsVerdict
  cases hfilter : filterBinNames (entry :: rest) with
  | error message =>
      have hbatch : batchBinNames (some (entry :: rest)) = .error message := by
        rw [batchBinNames_cons, hfilter]
        rfl
      simp only [hbatch]
      exact iff_of_true trivial (by simp)
  | ok sent =>
      have hbatch : batchBinNames (some (entry :: rest)) = .ok (some sent) := by
        rw [batchBinNames_cons, hfilter]
        rfl
      obtain ⟨names, hnames, -, rfl⟩ := filterBinNames_eq_ok_iff.mp hfilter
      simp only [hbatch, Except.ok.injEq, exists_eq', forall_const, NamesNulFree,
        hnames, Option.some.injEq, forall_eq']
      cases keysEnd engine.keyInit (HashTable.values args.keys) with
      | refused | lost => exact iff_of_true trivial (by simp)
      | converted keys =>
          simp only [VerdictForwards, Request.CarriesNames, hnames,
            Option.some.injEq, exists_eq_left', List.forall_mem_map,
            map_cString_eq_iff, KeysEnd.converted.injEq]
          cases keys with
          | nil => simp
          | cons key keys =>
              simp only [List.mem_cons, forall_eq_or_imp, List.cons.injEq]
              exact ⟨fun h _ _ _ => h.1, fun h => ⟨h _ _ ⟨rfl, rfl⟩, fun _ _ =>
                h _ _ ⟨rfl, rfl⟩⟩⟩

theorem getMany_forwards_iff (args : GetManyArgs) (clientError : AsError)
    (entry : ZKey × Zval) (rest : HashTable) :
    ForwardsNames (entry :: rest) ((getMany engine client oracle
        (some { args with filter := some (entry :: rest) })).call
          (.start policies clientError)) ↔
      ManyForwards engine client policies args (entry :: rest) := by
  have hbatch : ∀ names, filterBinNames (entry :: rest) = .ok names →
      batchBinNames (some (entry :: rest)) = .ok (some names) := by
    intro names hnames
    rw [batchBinNames_cons, hnames]
    rfl
  by_cases hlost : BatchReadPasses engine client policies args.policy ∧
      (∃ names, filterBinNames (entry :: rest) = .ok names) ∧
        keysEnd engine.keyInit (HashTable.values args.keys) = .lost
  · obtain ⟨hpasses, ⟨names, hnames⟩, hkeys⟩ := hlost
    refine iff_of_false ?_ fun h => (h hpasses ⟨names, hnames⟩).1 hkeys
    obtain ⟨hreply, hrequests⟩ := @getMany_lost engine client oracle policies
      { args with filter := some (entry :: rest) } clientError hpasses _
      (hbatch names hnames) hkeys
    rintro (⟨⟨reply, hfailed, hbad⟩, -⟩ | ⟨request, sent, hone, -⟩)
    · obtain rfl := Option.some.inj (hreply.symm.trans hfailed)
      exact hbad rfl
    · exact absurd (hrequests.symm.trans hone) (by simp)
  · have hsends := @getMany_sends engine client oracle policies
      { args with filter := some (entry :: rest) } (by
        intro hpasses names hnames hkeys
        refine hlost ⟨hpasses, ?_, hkeys⟩
        cases hfilter : filterBinNames (entry :: rest) with
        | ok sent => exact ⟨sent, rfl⟩
        | error message =>
            rw [batchBinNames_cons, hfilter] at hnames
            cases hnames)
    rw [forwardsNames_iff (call_of_sends clientError hsends)]
    have hcrashed : batchVerdict engine client policies args.policy ≠
      .error .crashed := batchVerdict_ne_crashed args.policy
    unfold getManyVerdict ManyForwards
    cases hverdict : batchVerdict engine client policies args.policy with
    | ok policy =>
        have hpasses := (batchVerdict_ok_iff args.policy).mp ⟨policy, hverdict⟩
        refine (readsVerdict_forwards_iff args entry rest).trans ?_
        simp only [hpasses, forall_const]
        refine forall_congr' fun hnames => ?_
        simp only [iff_and_self]
        exact fun _ hkeys => hlost ⟨hpasses, hnames, hkeys⟩
    | error halt =>
        cases halt with
        | crashed => exact absurd hverdict hcrashed
        | failed =>
            refine iff_of_true trivial fun hpasses => ?_
            obtain ⟨policy, hok⟩ := (batchVerdict_ok_iff args.policy).mpr hpasses
            rw [hverdict] at hok
            cases hok

end

/-- When the five lists of bin names are forwarded as they are. -/
theorem binLists_forwarded_iff (engine : Engine) (client : Client)
    (oracle : Oracle) (policies : Policies) (clientError : AsError)
    (entry : ZKey × Zval) (rest : HashTable) (getArgs : GetArgs)
    (manyArgs : GetManyArgs) (scanArgs : ScanArgs) (queryArgs : QueryArgs)
    (removeArgs : RemoveBinArgs) :
    (ForwardsNames (entry :: rest) ((get engine client oracle
        (some { getArgs with filter := some (.array (entry :: rest)) })).call
          (.start policies clientError)) ↔
      client.hasClient = true ∧
        (({ getArgs with filter := some (.array (entry :: rest)) } :
            GetArgs).WellFormed engine policies →
          NamesNulFree (entry :: rest))) ∧
    (ForwardsNames (entry :: rest) ((getMany engine client oracle
        (some { manyArgs with filter := some (entry :: rest) })).call
          (.start policies clientError)) ↔
      ManyForwards engine client policies manyArgs (entry :: rest)) ∧
    (ForwardsNames (entry :: rest) ((scan engine client oracle
        (some { scanArgs with select := some (entry :: rest) })).call
          (.start policies clientError)) ↔
      (ScanPasses engine client policies
          { scanArgs with select := some (entry :: rest) } →
        NamesSelected (entry :: rest))) ∧
    (ForwardsNames (entry :: rest) ((query engine client oracle
        (some { queryArgs with select := some (entry :: rest) })).call
          (.start policies clientError)) ↔
      (QueryPasses engine client oracle policies
          { queryArgs with select := some (entry :: rest) } →
        PredicateGoesOn engine oracle queryArgs.predicate →
          NamesSelected (entry :: rest))) ∧
    (ForwardsNames (entry :: rest) ((removeBin engine client oracle
        (some { removeArgs with bins := entry :: rest })).call
          (.start policies clientError)) ↔
      (RemoveBinPasses engine client policies
          { removeArgs with bins := entry :: rest } →
        (setRecordGeneration removeArgs.policy asRecordNew).1 = .ok →
          NamesRemovable (entry :: rest))) := by
  refine ⟨?_, ?_, ?_, ?_, ?_⟩
  · rw [forwardsNames_iff (get_meets _ clientError)]
    exact getVerdict_forwards_iff getArgs
  · exact getMany_forwards_iff manyArgs clientError entry rest
  · rw [forwardsNames_iff (call_of_sends clientError (scan_sends _))]
    exact scanVerdict_forwards_iff scanArgs
  · rw [forwardsNames_iff (call_of_sends clientError (query_sends _))]
    exact queryVerdict_forwards_iff queryArgs
  · rw [forwardsNames_iff (call_of_sends clientError (removeBin_sends _))]
    exact removeBinVerdict_forwards_iff { removeArgs with bins := entry :: rest }

/-- A bin to be removed whose name is a byte too long. -/
def longBin : RemoveBinArgs where
  key := [(.str "ns", .string "test"), (.str "set", .string "demo"),
    (.str "key", .long 1)]
  bins := [(.idx 0, .string "a_name_too_long!")]
  policy := none

/-- The record is written without the bin, and the call succeeds. -/
theorem longBin_not_forwarded :
    ¬ForwardsNames longBin.bins
      ((removeBin Engine.plain Client.connected Oracle.accepting
        (some longBin)).call (.start default .init)) := by
  have hsent : ∃ policy key record, ((removeBin Engine.plain Client.connected
      Oracle.accepting (some longBin)).call (.start default .init)).state.requests =
        [.keyPut policy key record] ∧ record.bins = [] := ⟨_, _, _, rfl, rfl⟩
  obtain ⟨policy, key, record, hsent, hbins⟩ := hsent
  rintro (⟨-, hnone⟩ | ⟨request, names, hone, hnames, hcarries⟩)
  · exact absurd (hsent.symm.trans hnone) (by simp)
  · obtain rfl : Request.keyPut policy key record = request := by
      simpa using hsent.symm.trans hone
    obtain rfl := Option.some.inj hnames
    have hempty : record.bins.map Prod.fst = ["a_name_too_long!"] := hcarries
    rw [hbins] at hempty
    cases hempty

end AerospikePhp
