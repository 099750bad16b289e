import AerospikePhp.AdminMethods
import AerospikePhp.ForwardedOptions
import AerospikePhp.KeyRoundTrips
import Mathlib.Tactic

/-!
# Privileges there and back

The privileges that `createRole` asks for, and the ones that `queryRole` shows
when the server has kept them as they were sent.
-/

namespace AerospikePhp

open Procedure Method Proc List

/-! ## What is asked for -/

/-- The name under a field of the entry, empty when there is none. -/
def givenName (entry : HashTable) (field : String) : String :=
  match HashTable.strFind entry field with
  | some (.string name) => name
  | _ => ""

/-- The array of `queryRole` has the code and the names of the entry. -/
def ShowsEntry (entry z : Zval) : Prop :=
  ∃ hash code, entry = .array hash ∧
    HashTable.strFind hash "code" = some (.long code) ∧
    z = .array [(.str "ns", .string (givenName hash "ns")),
      (.str "set", .string (givenName hash "set")), (.str "code", .long code)]

/-- The code is one that the enumeration can hold, and the names are whole as C
strings. -/
def PrivilegeFits (entry : Zval) : Prop :=
  ∀ hash code, entry = .array hash →
    HashTable.strFind hash "code" = some (.long code) →
    (0 ≤ code.toInt ∧ code.toInt < 2 ^ 32) ∧
      NulFree (givenName hash "ns") ∧ NulFree (givenName hash "set")

/-! ## One privilege -/

theorem privilegeName_ok {hash : HashTable} {field notString tooLong name : String}
    {size : ℕ} (hname : privilegeName hash field size notString tooLong = .ok name) :
    name = cString (givenName hash field) := by
  unfold privilegeName at hname
  unfold givenName
  split at hname
  · next hfind =>
      obtain rfl := Except.ok.inj hname
      rw [hfind]
      rfl
  · next found hfind =>
      rw [hfind]
      split at hname
      · cases hname
      · exact (Except.ok.inj hname).symm
  · cases hname

/-- What an accepted entry becomes. -/
theorem hashToPrivilege_ok {entry : Zval} {privilege : Privilege}
    (hentry : hashToPrivilege entry = .ok privilege) :
    ∃ hash code, entry = .array hash ∧
      HashTable.strFind hash "code" = some (.long code) ∧
      privilege = ⟨asEnum code, cString (givenName hash "ns"),
        cString (givenName hash "set")⟩ := by
  unfold hashToPrivilege at hentry
  split at hentry
  · next hash =>
      split at hentry
      · cases hentry
      · next code hcode =>
          cases hns : privilegeName hash "ns" asNamespaceMaxSize
              "Namespace must be a string" "Namespace is too long" with
          | error message =>
              rw [hns] at hentry
              cases hentry
          | ok ns =>
              rw [hns] at hentry
              cases hset : privilegeName hash "set" asSetMaxSize
                  "Set must be a string" "Set is too long" with
              | error message =>
                  rw [hset] at hentry
                  cases hentry
              | ok set =>
                  rw [hset] at hentry
                  refine ⟨hash, code, rfl, hcode, ?_⟩
                  rw [← privilegeName_ok hns, ← privilegeName_ok hset]
                  exact (Except.ok.inj hentry).symm
      · cases hentry
  · cases hentry

theorem showsEntry_iff {entry : Zval} {privilege : Privilege}
    (hentry : hashToPrivilege entry = .ok privilege) :
    ShowsEntry entry (asPrivilegeToZval privilege) ↔ PrivilegeFits entry := by
  obtain ⟨hash, code, rfl, hcode, rfl⟩ := hashToPrivilege_ok hentry
  have hfits : PrivilegeFits (.array hash) ↔
      (0 ≤ code.toInt ∧ code.toInt < 2 ^ 32) ∧
        NulFree (givenName hash "ns") ∧ NulFree (givenName hash "set") := by
    constructor
    · intro hall
      exact hall hash code rfl hcode
    · rintro hone _ code' ⟨⟩ hcode'
      obtain rfl : code = code' := by simpa [hcode] using hcode'
      exact hone
  have hshows : ShowsEntry (.array hash) (asPrivilegeToZval
      ⟨asEnum code, cString (givenName hash "ns"),
        cString (givenName hash "set")⟩) ↔
      asEnum code = code ∧
        cString (givenName hash "ns") = givenName hash "ns" ∧
        cString (givenName hash "set") = givenName hash "set" := by
    unfold ShowsEntry asPrivilegeToZval
    constructor
    · rintro ⟨_, code', ⟨⟩, hcode', hz⟩
      obtain rfl : code = code' := by simpa [hcode] using hcode'
      simp only [Zval.array.injEq, List.cons.injEq, Prod.mk.injEq, true_and,
        Zval.string.injEq, Zval.long.injEq, and_true] at hz
      exact ⟨hz.2.2, hz.1, hz.2.1⟩
    · rintro ⟨hsame, hns, hset⟩
      exact ⟨hash, code, rfl, hcode, by rw [hsame, hns, hset]⟩
  rw [hfits, hshows, asEnum_eq_iff, cString_eq_self_iff, cString_eq_self_iff]

/-! ## The whole array -/

theorem forall₂_of_mapM_ok {α β ε : Type} {f : α → Except ε β} {items : List α}
    {results : List β} (hresults : items.mapM f = .ok results) :
    Forall₂ (fun item result => f item = .ok result) items results := by
  induction items generalizing results with
  | nil =>
      rw [List.mapM_nil] at hresults
      obtain rfl : [] = results := Except.ok.inj hresults
      exact .nil
  | cons item items ih =>
      rw [List.mapM_cons] at hresults
      cases hitem : f item with
      | error message =>
          rw [hitem] at hresults
          cases hresults
      | ok result =>
          rw [hitem] at hresults
          cases hrest : items.mapM f with
          | error message =>
              rw [hrest] at hresults
              cases hresults
          | ok rest =>
              rw [hrest] at hresults
              obtain rfl : result :: rest = results := Except.ok.inj hresults
              exact .cons hitem (ih hrest)

/-- An accepted array is shown as it was given when each entry fits. -/
theorem showsEntries_iff {hash : HashTable} {privileges : List Privilege}
    (hprivileges : zHashtableToAsPrivileges hash = .ok privileges) :
    Forall₂ ShowsEntry (HashTable.values hash) (privileges.map asPrivilegeToZval) ↔
      ∀ entry ∈ HashTable.values hash, PrivilegeFits entry := by
  have hall := forall₂_of_mapM_ok hprivileges
  rw [List.forall₂_map_right_iff]
  clear hprivileges
  generalize HashTable.values hash = entries at hall
  induction hall with
  | nil => simp
  | cons hentry _ ih =>
      rw [List.forall₂_cons, List.forall_mem_cons]
      exact and_congr (showsEntry_iff hentry) ih

theorem values_pushAll (zs : List Zval) : HashTable.values (pushAll zs) = zs := by
  rw [pushAll, foldl_push_eq, List.nil_append, values_mapIdx]

/-! ## The two calls -/

section

variable {engine : Engine} {client : Client} {oracle : Oracle}
variable {P : CallState → Prop}

/-- What `createRole` may send. -/
def CreatesRole (role : String) (privileges : List Privilege) (request : Request) :
    Prop :=
  ∃ policy, request = .admin policy (.createRole (cString role) privileges)

theorem createRole_sends {args : RoleArgs} {privileges : List Privilege}
    (hprivileges : zHashtableToAsPrivileges args.privileges = .ok privileges) :
    Moves (SendsOnly (CreatesRole args.role privileges))
      (createRole engine client oracle (some args)) := by
  have hsend : ∀ policy, Sendable (CreatesRole args.role privileges)
      (.admin policy (.createRole (cString args.role) privileges)) :=
    fun policy => ⟨policy, rfl⟩
  unfold createRole createRoleBody
  refine moves_withCleanup ?_
  iterate 2 refine moves_seq fun _ => ?_
  refine moves_args ?_
  iterate 2 refine moves_seq fun _ => ?_
  refine moves_seq fun policy => ?_
  rw [hprivileges]
  show Moves _ (issueAdmin oracle policy (.createRole (cString args.role) privileges))
  infer_instance

theorem ends_requireConnectionOrCleanup :
    Ends P (requireConnectionOrCleanup client) (fun _ _ => True) Exit.NotOk := by
  intro s _
  unfold requireConnectionOrCleanup
  rcases @checkObjectAndConnection_run client s with
    ⟨-, hrun⟩ | ⟨-, code, message, hcode, hrun⟩
  · rw [run_bind_ok hrun]
    trivial
  · rw [run_bind_ok hrun, runIf_pos hcode]
    exact hcode

theorem ends_requireAdminPolicy {zPolicy : Option Zval} {message : String} :
    Ends P (requireAdminPolicy engine zPolicy message) (fun _ _ => True)
      Exit.NotOk := by
  have hload : ∀ field : PolicyField PolicyInfo, ∀ converter,
      Ends P (loadPolicy field converter) (fun _ _ => True) Exit.NotOk :=
    fun _ _ _ _ => trivial
  unfold requireAdminPolicy whenGiven
  cases zPolicy with
  | none => exact ends_pure fun _ _ => trivial
  | some zPolicy =>
      have hwrap : ∀ policy : PolicyInfo, Ends (fun _ => True)
          (pure (some policy) : Method (Option PolicyInfo)) (fun _ _ => True)
          Exit.NotOk := fun _ => ends_pure fun _ h => h
      refine ends_bind ?_ hwrap
      unfold requirePolicy
      refine ends_bind (hload _ _) fun converted => ?_
      have hcheck : Ends (fun _ => True)
          (runIf (converted.status ≠ .ok) (failCleanup .errParam message))
          (fun _ _ => True) Exit.NotOk :=
        ends_ite (fun _ => ends_failCleanup (by decide)) fun _ =>
          ends_pure fun _ h => h
      exact ends_bind hcheck fun _ => ends_pure fun _ h => h

theorem cleanupErr_ends {M : CallState → Prop} :
    Ends (fun s => s.err.code = .ok → M s) cleanupErr (fun _ _ => False)
      (fun exit s => exit = .ret (.long .ok) → M s) := by
  intro s hs
  unfold cleanupErr
  rw [run_bind_ok (run_get s)]
  by_cases hcode : s.err.code = .ok
  · rw [runIf_neg (by simpa using hcode)]
    exact fun _ => hs hcode
  · rw [runIf_pos hcode]
    intro hok
    have hcode' : s.err.code = .ok := by
      injection hok with hreply
      exact Reply.long.inj hreply
    exact absurd hcode' hcode

theorem createRoleBody_asks {args : RoleArgs} {privileges : List Privilege}
    (hprivileges : zHashtableToAsPrivileges args.privileges = .ok privileges) :
    Ends P (createRoleBody engine client oracle (some args))
      (fun _ s => ∃ request ∈ s.requests, CreatesRole args.role privileges request)
      Exit.NotOk := by
  have hreset : Ends (fun _ => True) resetClientError (fun _ _ => True)
      Exit.NotOk := fun _ _ => trivial
  have hcheck : ∀ (condition : Prop) [Decidable condition] (message : String),
      Ends (fun _ => True) (runIf condition (failCleanup .errParam message))
        (fun _ _ => True) Exit.NotOk := fun _ _ _ =>
    ends_ite (fun _ => ends_failCleanup (by decide)) fun _ => ends_pure fun _ h => h
  unfold createRoleBody
  refine ends_bind ends_requireConnectionOrCleanup fun _ => ?_
  refine ends_bind hreset fun _ => ?_
  refine ends_bind (ends_orFail (ends_failCleanup (by decide)))
    fun args' => ends_given fun hargs => ?_
  obtain rfl := Option.some.inj hargs
  refine ends_bind (hcheck _ _) fun _ => ?_
  refine ends_bind (hcheck _ _) fun _ => ?_
  refine ends_bind ends_requireAdminPolicy fun policy => ?_
  rw [hprivileges]
  intro s _
  exact ⟨_, List.mem_append_right s.requests List.mem_cons_self, policy, rfl⟩

/-- A call that returns OK has asked for the role. -/
theorem createRole_asks {args : RoleArgs} {privileges : List Privilege}
    (hprivileges : zHashtableToAsPrivileges args.privileges = .ok privileges)
    {s : CallState}
    (hreply : ((createRole engine client oracle (some args)).call s).reply =
      some (.long .ok)) :
    ∃ request ∈ ((createRole engine client oracle (some args)).call s).state.requests,
      CreatesRole args.role privileges request := by
  have hends : Ends (fun _ => True) (createRole engine client oracle (some args))
      (fun _ _ => False) (fun exit s => exit = .ret (.long .ok) →
        ∃ request ∈ s.requests, CreatesRole args.role privileges request) := by
    refine ends_withCleanup (createRoleBody_asks hprivileges) ?_ ?_
    · exact fun _ _ _ hexit hok => hexit.of_ok hok
    · exact ends_weaken cleanupErr_ends (fun _ h => fun _ => h ‹_›)
        (fun _ _ h => h) fun _ _ h => h
  exact call_of_ends hends trivial hreply

/-- The output shows the role. -/
def ShowsRole (privileges : List Privilege) (s : CallState) : Prop :=
  s.output = some (asRoleToZval privileges)

theorem queryRoleBody_ends {args : QueryRoleArgs} {privileges : List Privilege}
    (hstored : ∀ n policy, (oracle.answer n
      (.admin policy (.queryRole (cString args.role)))).role = some privileges) :
    Ends P (queryRoleBody engine client oracle (some args))
      (fun _ => ShowsRole privileges) Exit.NotOk := by
  unfold queryRoleBody
  refine ends_bind ends_requireConnectionOrCleanup fun _ => ?_
  have hreset : Ends (fun _ => True) resetClientError (fun _ _ => True)
      Exit.NotOk := fun _ _ => trivial
  refine ends_bind hreset fun _ => ?_
  have hnull : Ends (fun _ => True) (setOutput .null) (fun _ _ => True)
      Exit.NotOk := fun _ _ => trivial
  refine ends_bind (ends_orFail (ends_failCleanup (by decide)))
    fun args' => ends_given fun hargs => ?_
  obtain rfl := Option.some.inj hargs
  refine ends_bind hnull fun _ => ?_
  refine ends_bind ends_requireAdminPolicy fun policy => ?_
  have hissue : Ends (fun _ => True)
      (issue oracle (.admin policy (.queryRole (cString args.role))))
      (fun answer _ => answer.role = some privileges ∧ True) Exit.NotOk :=
    fun _ _ => ⟨hstored _ _, trivial⟩
  refine ends_bind hissue fun answer => ends_given fun hrole => ?_
  refine ends_bind ends_cleanupOnError fun _ => ?_
  rw [hrole]
  exact fun _ _ => rfl

theorem queryRoleCleanup_ends {M : CallState → Prop} :
    Ends (fun s => s.err.code = .ok → M s) queryRoleCleanup (fun _ _ => False)
      (fun exit s => exit = .ret (.long .ok) → M s) := by
  intro s hs
  unfold queryRoleCleanup
  rw [run_bind_ok (run_get s)]
  by_cases hcode : s.err.code = .ok
  · rw [runIf_neg (by simpa using hcode)]
    exact fun _ => hs hcode
  · obtain ⟨reply, s', hrun, -, hfailed⟩ := reports_queryRoleCleanup s hcode
    unfold queryRoleCleanup at hrun
    rw [run_bind_ok (run_get s)] at hrun
    rw [hrun]
    intro hok
    obtain rfl : reply = .long .ok := by injection hok
    exact absurd rfl hfailed

/-- When the server has these privileges for the role, a query that returns OK
shows them. -/
theorem queryRole_shows {args : QueryRoleArgs} {privileges : List Privilege}
    (hstored : ∀ n policy, (oracle.answer n
      (.admin policy (.queryRole (cString args.role)))).role = some privileges)
    {s : CallState}
    (hreply : ((queryRole engine client oracle (some args)).call s).reply =
      some (.long .ok)) :
    ShowsRole privileges
      ((queryRole engine client oracle (some args)).call s).state := by
  have hends : Ends (fun _ => True) (queryRole engine client oracle (some args))
      (fun _ _ => False)
      (fun exit s => exit = .ret (.long .ok) → ShowsRole privileges s) := by
    refine ends_withCleanup (queryRoleBody_ends hstored) ?_ ?_
    · exact fun _ _ _ hexit hok => hexit.of_ok hok
    · exact ends_weaken queryRoleCleanup_ends (fun _ h => fun _ => h ‹_›)
        (fun _ _ h => h) fun _ _ h => h
  exact call_of_ends hends trivial hreply

end

/-- Nothing but requests like this is sent, and one is when the call returns OK. -/
def Outcome.AsksFor (asked : Request → Prop) (ended : Outcome) : Prop :=
  (∀ request ∈ ended.state.requests, asked request) ∧
    (ended.reply = some (.long .ok) → ∃ request ∈ ended.state.requests, asked request)

/-- `createRole` sends these privileges, and a query of a role that has them
shows the entries of the array. -/
def RoleReadsBack (hash : HashTable) (privileges : List Privilege) : Prop :=
  ∀ engine client oracle policies clientError,
    (∀ role policy, ((createRole engine client oracle
      (some ⟨role, hash, policy⟩)).call (.start policies clientError)).AsksFor
        (CreatesRole role privileges)) ∧
    ∀ args : QueryRoleArgs,
      (∀ n policy, (oracle.answer n
        (.admin policy (.queryRole (cString args.role)))).role = some privileges) →
      ((queryRole engine client oracle (some args)).call
        (.start policies clientError)).reply = some (.long .ok) →
      ∃ entries, ((queryRole engine client oracle (some args)).call
          (.start policies clientError)).state.output = some (.array entries) ∧
        Forall₂ ShowsEntry (HashTable.values hash) (HashTable.values entries)

theorem roleReadsBack_of_shows {hash : HashTable} {privileges : List Privilege}
    (hprivileges : zHashtableToAsPrivileges hash = .ok privileges)
    (hshows : Forall₂ ShowsEntry (HashTable.values hash)
      (privileges.map asPrivilegeToZval)) : RoleReadsBack hash privileges := by
  intro engine client oracle policies clientError
  constructor
  · intro role policy
    have hsends := @createRole_sends engine client oracle ⟨role, hash, policy⟩
      privileges hprivileges
    exact ⟨requests_of_sendsOnly clientError, createRole_asks hprivileges⟩
  · intro args hstored hreply
    refine ⟨_, queryRole_shows hstored hreply, ?_⟩
    rw [values_pushAll]
    exact hshows

/-- Every entry of an accepted array is read back as it was written if and only
if each code fits the enumeration and no name has a NUL. -/
theorem privileges_readBack_iff {hash : HashTable} {privileges : List Privilege}
    (hprivileges : zHashtableToAsPrivileges hash = .ok privileges) :
    (Forall₂ ShowsEntry (HashTable.values hash)
        (privileges.map asPrivilegeToZval) ∧ RoleReadsBack hash privileges) ↔
      ∀ entry ∈ HashTable.values hash, PrivilegeFits entry := by
  rw [← showsEntries_iff hprivileges]
  constructor
  · exact And.left
  · intro hshows
    exact ⟨hshows, roleReadsBack_of_shows hprivileges hshows⟩

/-- The privilege to read (code 10) in one namespace. -/
def readOn (ns : String) : Zval :=
  .array [(.str "code", .long 10), (.str "ns", .string ns)]

/-- The privilege to read and write (code 11) in one set. -/
def writeIn (ns set : String) : Zval :=
  .array [(.str "code", .long 11), (.str "ns", .string ns), (.str "set", .string set)]

/-- Reading in one namespace, and writing in a set of another. -/
def twoPrivileges : HashTable :=
  [(.idx 0, readOn "test"), (.idx 1, writeIn "bar" "demo")]

theorem privileges_readBack_twoPrivileges :
    Forall₂ ShowsEntry (HashTable.values twoPrivileges)
        [asPrivilegeToZval ⟨10, "test", ""⟩, asPrivilegeToZval ⟨11, "bar", "demo"⟩] ∧
      RoleReadsBack twoPrivileges [⟨10, "test", ""⟩, ⟨11, "bar", "demo"⟩] := by
  have haccepted : zHashtableToAsPrivileges twoPrivileges =
      .ok [⟨10, "test", ""⟩, ⟨11, "bar", "demo"⟩] := rfl
  refine (privileges_readBack_iff haccepted).mpr ?_
  have hcode : ∀ {code known : Int64}, some (Zval.long known) = some (.long code) →
      known = code := fun hfound => Zval.long.inj (Option.some.inj hfound)
  intro entry hentry
  rcases List.mem_pair.mp hentry with rfl | rfl
  · rintro _ code ⟨⟩ hfound
    obtain rfl : 10 = code := hcode hfound
    decide
  · rintro _ code ⟨⟩ hfound
    obtain rfl : 11 = code := hcode hfound
    decide

/-- The privilege that is asked for one namespace is granted for all. -/
theorem nulNamespace_widened :
    zHashtableToAsPrivileges [(.idx 0, readOn "\x00test")] = .ok [⟨10, "", ""⟩] ∧
      ¬ Forall₂ ShowsEntry (HashTable.values [(.idx 0, readOn "\x00test")])
        [asPrivilegeToZval ⟨10, "", ""⟩] := by
  refine ⟨rfl, fun hall => ?_⟩
  obtain ⟨hash, code, ⟨⟩, -, hz⟩ := (List.forall₂_cons.mp hall).1
  have hns : ("" : String) = "\x00test" := by
    have hentries := Zval.array.inj hz
    have hhead := (List.cons.inj hentries).1
    exact Zval.string.inj (congrArg Prod.snd hhead)
  exact absurd hns (by decide)

end AerospikePhp
