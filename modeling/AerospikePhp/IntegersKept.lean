import AerospikePhp.ForwardedTtls
import AerospikePhp.ConfiguredIntegers
import Mathlib.Tactic

/-!
# Which integers are kept

An integer among the arguments or the options of a call, or of the constructor,
is cast to the width of its field without a check.  It arrives as it is exactly
when it fits.
-/

namespace AerospikePhp

open Procedure Method Proc

section

variable {engine : Engine} {client : Client} {oracle : Oracle}

/-! ## Every call -/

/-- Without arguments nothing is given, and any request will do. -/
theorem moves_call {Args : Type} (call : Option Args → Call)
    {operators : OperatorCodes} {method : Option Args → Method Reply}
    (hoptions : (call none).options = none)
    (httl : (call none).givenTtl operators = none)
    (hport : (call none).givenPort = none)
    (hsome : ∀ args, Moves (SendsOnly ((call (some args)).Respects operators))
      (method (some args))) (args : Option Args) :
    Moves (SendsOnly ((call args).Respects operators)) (method args) := by
  cases args with
  | some args => exact hsome args
  | none =>
      refine ⟨fun s hall request hmem => Call.respects_of ?_ httl hport⟩
      rw [hoptions]
      exact carries_none

theorem call_respects (call : Call) :
    Moves (SendsOnly (call.Respects engine.operators))
      (call.method engine client oracle) := by
  cases call with
  | get args => exact moves_call .get rfl rfl rfl get_respects args
  | «exists» args => exact moves_call .exists rfl rfl rfl exists_respects args
  | put args => exact moves_call .put rfl rfl rfl put_respects args
  | remove args => exact moves_call .remove rfl rfl rfl remove_respects args
  | removeBin args => exact moves_call .removeBin rfl rfl rfl removeBin_respects args
  | getMany args => exact moves_call .getMany rfl rfl rfl getMany_respects args
  | existsMany args => exact moves_call .existsMany rfl rfl rfl existsMany_respects args
  | operate args => exact moves_call .operate rfl rfl rfl operate_respects args
  | operateOrdered args =>
      exact moves_call .operateOrdered rfl rfl rfl operateOrdered_respects args
  | touch args => exact moves_call .touch rfl rfl rfl touch_respects args
  | append args => exact moves_call .append rfl rfl rfl append_respects args
  | prepend args => exact moves_call .prepend rfl rfl rfl prepend_respects args
  | increment args => exact moves_call .increment rfl rfl rfl increment_respects args
  | listSize args => exact moves_call .listSize rfl rfl rfl listSize_respects args
  | listAppend args => exact moves_call .listAppend rfl rfl rfl listAppend_respects args
  | listMerge args => exact moves_call .listMerge rfl rfl rfl listMerge_respects args
  | listInsert args => exact moves_call .listInsert rfl rfl rfl listInsert_respects args
  | listInsertItems args =>
      exact moves_call .listInsertItems rfl rfl rfl listInsertItems_respects args
  | listPop args => exact moves_call .listPop rfl rfl rfl listPop_respects args
  | listPopRange args =>
      exact moves_call .listPopRange rfl rfl rfl listPopRange_respects args
  | listRemove args => exact moves_call .listRemove rfl rfl rfl listRemove_respects args
  | listRemoveRange args =>
      exact moves_call .listRemoveRange rfl rfl rfl listRemoveRange_respects args
  | listTrim args => exact moves_call .listTrim rfl rfl rfl listTrim_respects args
  | listClear args => exact moves_call .listClear rfl rfl rfl listClear_respects args
  | listSet args => exact moves_call .listSet rfl rfl rfl listSet_respects args
  | listGet args => exact moves_call .listGet rfl rfl rfl listGet_respects args
  | listGetRange args =>
      exact moves_call .listGetRange rfl rfl rfl listGetRange_respects args
  | query args => exact moves_call .query rfl rfl rfl query_respects args
  | queryApply args => exact moves_call .queryApply rfl rfl rfl queryApply_respects args
  | aggregate args => exact moves_call .aggregate rfl rfl rfl aggregate_respects args
  | scan args => exact moves_call .scan rfl rfl rfl scan_respects args
  | scanApply args => exact moves_call .scanApply rfl rfl rfl scanApply_respects args
  | apply args => exact moves_call .apply rfl rfl rfl apply_respects args
  | scanInfo args => exact moves_call .scanInfo rfl rfl rfl scanInfo_respects args
  | jobInfo args => exact moves_call .jobInfo rfl rfl rfl jobInfo_respects args
  | info args => exact moves_call .info rfl rfl rfl info_respects args
  | infoMany args => exact moves_call .infoMany rfl rfl rfl infoMany_respects args
  | getNodes =>
      show Moves _ (getNodes client oracle)
      unfold getNodes
      infer_instance
  | addIndex args => exact moves_call .addIndex rfl rfl rfl addIndex_respects args
  | dropIndex args => exact moves_call .dropIndex rfl rfl rfl dropIndex_respects args
  | truncate args => exact moves_call .truncate rfl rfl rfl truncate_respects args
  | getRegistered args =>
      exact moves_call .getRegistered rfl rfl rfl getRegistered_respects args
  | register args => exact moves_call .register rfl rfl rfl register_respects args
  | deregister args => exact moves_call .deregister rfl rfl rfl deregister_respects args
  | listRegistered args =>
      exact moves_call .listRegistered rfl rfl rfl listRegistered_respects args
  | createRole args => exact moves_call .createRole rfl rfl rfl createRole_respects args
  | queryRole args => exact moves_call .queryRole rfl rfl rfl queryRole_respects args
  | queryRoles args => exact moves_call .queryRoles rfl rfl rfl queryRoles_respects args
  | dropRole args => exact moves_call .dropRole rfl rfl rfl dropRole_respects args
  | grantPrivileges args =>
      exact moves_call .grantPrivileges rfl rfl rfl grantPrivileges_respects args
  | revokePrivileges args =>
      exact moves_call .revokePrivileges rfl rfl rfl revokePrivileges_respects args
  | createUser args => exact moves_call .createUser rfl rfl rfl createUser_respects args
  | changePassword args =>
      exact moves_call .changePassword rfl rfl rfl changePassword_respects args
  | setPassword args =>
      exact moves_call .setPassword rfl rfl rfl setPassword_respects args
  | grantRoles args => exact moves_call .grantRoles rfl rfl rfl grantRoles_respects args
  | revokeRoles args =>
      exact moves_call .revokeRoles rfl rfl rfl revokeRoles_respects args
  | queryUser args => exact moves_call .queryUser rfl rfl rfl queryUser_respects args
  | queryUsers args => exact moves_call .queryUsers rfl rfl rfl queryUsers_respects args
  | dropUser args => exact moves_call .dropUser rfl rfl rfl dropUser_respects args

end

/-! ## What is kept -/

/-- The field has the value of the ttl, or the server's code for `-1` or
`-2`. -/
def KeepsTtl (n : Int64) (ttl : ℕ) : Prop :=
  (ttl : ℤ) = n.toInt ∨ (n.toInt = -1 ∧ ttl = 2 ^ 32 - 1) ∨
    (n.toInt = -2 ∧ ttl = 2 ^ 32 - 2)

namespace Call

/-- Each integer that the call is given is in the request. -/
structure KeepsIntegers (operators : OperatorCodes) (call : Call)
    (request : Request) : Prop where
  integers : ∀ field n, givenInteger call.kind call.options field = some n →
    ∃ v, request.integer field = some v ∧ (v : ℤ) = n.toInt
  ttl : ∀ n, call.givenTtl operators = some n →
    ∃ v, request.ttl = some v ∧ KeepsTtl n v
  port : ∀ n, call.givenPort = some n →
    ∃ v, request.port = some v ∧ (v : ℤ) = n.toInt

/-- A ttl that arrives.  `removeBin` leaves its ttl aside, which is right for
the ttl of the namespace. -/
def FitsTtl : Call → Int64 → Prop
  | .removeBin _, n => n.toInt = 0
  | _, n => -2 ≤ n.toInt ∧ n.toInt < 2 ^ 32

/-- Each integer that the call is given fits its field. -/
structure IntegersFit (operators : OperatorCodes) (call : Call) : Prop where
  integers : ∀ field n, givenInteger call.kind call.options field = some n →
    Fits n
  ttl : ∀ n, call.givenTtl operators = some n → call.FitsTtl n
  port : ∀ n, call.givenPort = some n → FitsPort n

theorem keepsTtl_iff (call : Call) (n : Int64) :
    KeepsTtl n (call.sentTtl n) ↔ call.FitsTtl n := by
  have hcut : KeepsTtl n (toUint32 n) ↔ -2 ≤ n.toInt ∧ n.toInt < 2 ^ 32 := by
    unfold KeepsTtl toUint32
    omega
  have hzero : KeepsTtl n 0 ↔ n.toInt = 0 := by
    unfold KeepsTtl
    omega
  cases call with
  | removeBin args => exact hzero
  | _ => exact hcut

theorem Forwards.keepsIntegers_iff {operators : OperatorCodes} {call : Call}
    {request : Request} (hforwards : call.Forwards operators request) :
    call.KeepsIntegers operators request ↔ call.IntegersFit operators := by
  constructor
  · intro hkeeps
    refine ⟨fun field n hgiven => ?_, fun n hgiven => ?_, fun n hgiven => ?_⟩
    · obtain ⟨v, hsent, hvalue⟩ := hkeeps.integers field n hgiven
      rw [hforwards.integers field n hgiven] at hsent
      obtain rfl := Option.some.inj hsent
      exact (toUint32_eq_iff n).mp hvalue
    · obtain ⟨v, hsent, hvalue⟩ := hkeeps.ttl n hgiven
      rw [hforwards.ttl n hgiven] at hsent
      obtain rfl := Option.some.inj hsent
      exact (call.keepsTtl_iff n).mp hvalue
    · obtain ⟨v, hsent, hvalue⟩ := hkeeps.port n hgiven
      rw [hforwards.port n hgiven] at hsent
      obtain rfl := Option.some.inj hsent
      exact (toUint16_eq_iff n).mp hvalue
  · intro hfit
    refine ⟨fun field n hgiven => ?_, fun n hgiven => ?_, fun n hgiven => ?_⟩
    · exact ⟨_, hforwards.integers field n hgiven,
        (toUint32_eq_iff n).mpr (hfit.integers field n hgiven)⟩
    · exact ⟨_, hforwards.ttl n hgiven,
        (call.keepsTtl_iff n).mpr (hfit.ttl n hgiven)⟩
    · exact ⟨_, hforwards.port n hgiven,
        (toUint16_eq_iff n).mpr (hfit.port n hgiven)⟩

end Call

/-- A request of a call, and the configuration of a client, have the integers
that they are given exactly when each of these fits. -/
theorem integers_kept_iff (engine : Engine) (client : Client) (oracle : Oracle)
    (policies : Policies) (clientError : AsError) (call : Call)
    (lib : ClientLibrary) (ini : Ini) (zConfig : HashTable)
    (zOptions : Option HashTable) (hinit : lib.configInit.hosts = []) :
    (∀ request ∈
        (call.run engine client oracle policies clientError).state.requests,
      request.takesOptions = true →
        (call.KeepsIntegers engine.operators request ↔
          call.IntegersFit engine.operators)) ∧
    (∀ c, configure engine lib ini zConfig zOptions = .ok c →
      (KeepsConfigIntegers zConfig (zOptions.getD []) c.config ↔
        ConfigIntegersFit zConfig (zOptions.getD []))) := by
  refine ⟨fun request hmem htakes => ?_, fun c => configure_keeps_iff hinit⟩
  have hmoves := @call_respects engine client oracle call
  have hrespects : call.Respects engine.operators request :=
    requests_of_sendsOnly clientError request hmem
  exact (hrespects htakes).keepsIntegers_iff

/-- `put` of a record that is to live for a while. -/
def livingFor (ttl : Int64) : PutArgs where
  key := [(.str "ns", .string "test"), (.str "set", .string "demo"),
    (.str "key", .long 1)]
  store := .array [(.str "bin", .long 1)]
  ttl := some (.long ttl)
  policy := none

/-- Five seconds, and a host on port 3000. -/
theorem integers_kept_iff_livingFor :
    (∃ request ∈ ((Call.put (some (livingFor 5))).run Engine.plain .connected
        Oracle.accepting default .init).state.requests,
      (Call.put (some (livingFor 5))).KeepsIntegers Engine.plain.operators
        request) ∧
    ∃ c, configure Engine.plain .plain .registered oneHost none = .ok c ∧
      KeepsConfigIntegers oneHost [] c.config := by
  have hkept := integers_kept_iff Engine.plain .connected Oracle.accepting
    default .init (.put (some (livingFor 5))) .plain .registered oneHost none rfl
  constructor
  · obtain ⟨request, hsent, htakes⟩ : ∃ request,
        ((Call.put (some (livingFor 5))).run Engine.plain .connected
          Oracle.accepting default .init).state.requests = [request] ∧
        request.takesOptions = true := ⟨_, rfl, rfl⟩
    have hmem : request ∈ ((Call.put (some (livingFor 5))).run Engine.plain
        .connected Oracle.accepting default .init).state.requests := by
      simp [hsent]
    refine ⟨request, hmem, (hkept.1 request hmem htakes).mpr ?_⟩
    refine ⟨fun _ _ hgiven => (nomatch hgiven), fun n hgiven => ?_,
      fun _ hgiven => (nomatch hgiven)⟩
    obtain rfl : 5 = n := Option.some.inj hgiven
    exact (by decide : (-2 : ℤ) ≤ (5 : Int64).toInt ∧ (5 : Int64).toInt < 2 ^ 32)
  · refine ⟨_, rfl, (hkept.2 _ rfl).mpr ?_⟩
    refine ⟨fun family field n _ hgiven => ?_, fun _ hgiven => (nomatch hgiven),
      fun _ hgiven => (nomatch hgiven), fun zHosts hhosts z hz port hport => ?_⟩
    · cases family <;> cases field <;> cases hgiven
    · obtain rfl := Zval.array.inj (Option.some.inj hhosts)
      obtain rfl := List.mem_singleton.mp hz
      obtain rfl : 3000 = port := Option.some.inj hport
      exact (by decide : 0 ≤ (3000 : Int64).toInt ∧
        (3000 : Int64).toInt < 2 ^ 16)

/-- `2 ^ 32` seconds are sent as `0`, which stands for the default of the
namespace. -/
theorem livingFor_not_kept :
    ∃ request ∈ ((Call.put (some (livingFor 4294967296))).run Engine.plain
        .connected Oracle.accepting default .init).state.requests,
      ¬ (Call.put (some (livingFor 4294967296))).KeepsIntegers
        Engine.plain.operators request := by
  obtain ⟨request, hsent, httl⟩ : ∃ request,
      ((Call.put (some (livingFor 4294967296))).run Engine.plain .connected
        Oracle.accepting default .init).state.requests = [request] ∧
      request.ttl = some 0 := ⟨_, rfl, rfl⟩
  refine ⟨request, by simp [hsent], fun hkeeps => ?_⟩
  obtain ⟨v, hv, hvalue⟩ := hkeeps.ttl 4294967296 rfl
  obtain rfl : 0 = v := Option.some.inj (httl.symm.trans hv)
  revert hvalue
  unfold KeepsTtl
  decide

end AerospikePhp
