import AerospikePhp.Library.Buffers
import AerospikePhp.Library.Delimiters
import AerospikePhp.Value
import AerospikePhp.Sessions
import Mathlib.Tactic

/-!
# The save path of the sessions

`session.save_path` has the form `ns|set|hosts`.  Its fields are copied into
the two arrays of the session data, at a length that is held in an `int`.
-/

namespace AerospikePhp

open Buffers Delimiters

/-! ## The parser -/

/-- `NS_SET_DELIM`. -/
def nsSetDelim : Char := '|'

/-- The session data while it is set up: the cells of the two arrays, and the
string that `as_config_add_hosts` was given. -/
structure SessionCells where
  ns : List Char
  set : List Char
  hosts : List Char

/-- The cells that `malloc` returns. -/
structure SessionCells.Fresh (cells : SessionCells) : Prop where
  ns : cells.ns.length = asNamespaceMaxSize
  set : cells.set.length = asSetMaxSize

/-- What the environment decides when a session is opened. -/
structure SessionSetup where
  addHosts : List Char → Bool
  /-- `aerospike_new` returns a client. -/
  created : Bool
  /-- `persistent_connect` returns OK. -/
  connects : Bool

/-- `strncpy(cells, start, length + 1); cells[length] = '\0';` -/
def copyField (cells start : List Char) (length : ℤ) : Option (List Char) := do
  let cells ← strncpy '\x00' cells start (intToSize (length + 1))
  write cells length ['\x00']

/-- The part of `set_up_session_data_from_save_path` after the fields. -/
def setUpClient (setup : SessionSetup) (hosts : List Char) (cells : SessionCells) :
    Except String SessionCells :=
  if hosts = [] then .error "host information not found in session path"
  else if setup.addHosts hosts = false then .error "Invalid hosts entry"
  else if setup.created = false then .error "Failed to create session"
  else if setup.connects = false then
    .error "Failed to connect session to Aerospike server"
  else .ok { cells with hosts := hosts }

def setUpSet (setup : SessionSetup) (start : List Char) (cells : SessionCells) :
    Option (Except String SessionCells) :=
  if start = [] then some (.error "Set not found in session path")
  else
    match splitFirst nsSetDelim start with
    | none => some (.error "Invalid session path")
    | some (field, rest) =>
        let length := sizeToInt field.length
        if length = 0 ∨ length ≥ asSetMaxSize then
          some (.error "Set name is too long")
        else do
          let set ← copyField cells.set start length
          some (setUpClient setup rest { cells with set := set })

/-- `set_up_session_data_from_save_path`, with the text of its warning where it
returns false.  There is no result when it writes outside the arrays. -/
def setUpSessionData (setup : SessionSetup) (savePath : List Char)
    (cells : SessionCells) : Option (Except String SessionCells) :=
  match splitFirst nsSetDelim savePath with
  | none => some (.error "Namespace not found in session path")
  | some (field, rest) =>
      let length := sizeToInt field.length
      if length = 0 ∨ length ≥ asNamespaceMaxSize then
        some (.error "Namespace is too long")
      else do
        let ns ← copyField cells.ns savePath length
        setUpSet setup rest { cells with ns := ns }

/-- The end of a call: its result, the session data of the module and the
warnings. -/
structure Opened where
  result : PsResult
  modData : Option SessionCells
  warnings : List String

/-- `PS_OPEN_FUNC`, on the session data that the module has. -/
def psOpen (setup : SessionSetup) (savePath : List Char) (cells : SessionCells)
    (modData : Option SessionCells) : Option Opened := do
  let session ← setUpSessionData setup savePath cells
  match session with
  | .ok session => some ⟨.success, some session, []⟩
  | .error message => some ⟨.failure, modData, [message]⟩

/-! ## The grammar -/

/-- The path is `ns|set|hosts`. -/
structure SavePathForm (path ns set hosts : List Char) : Prop where
  joined : path = ns ++ nsSetDelim :: (set ++ nsSetDelim :: hosts)
  nsLength : 0 < ns.length ∧ ns.length < asNamespaceMaxSize
  setLength : 0 < set.length ∧ set.length < asSetMaxSize
  nsFree : nsSetDelim ∉ ns
  setFree : nsSetDelim ∉ set
  hosts : hosts ≠ []

/-- The array holds the field and its terminator. -/
def HoldsField (cells field : List Char) : Prop :=
  '\x00' ∈ cells ∧ text '\x00' cells = field

/-- What opening a session on the path comes to. -/
structure OpensRight (setup : SessionSetup) (path : List Char)
    (modData : Option SessionCells) (opened : Opened) : Prop where
  iff : opened.result = .success ↔ ∃ ns set hosts,
    SavePathForm path ns set hosts ∧ setup.addHosts hosts = true ∧
      setup.created = true ∧ setup.connects = true
  stored : opened.result = .success → ∀ ns set hosts,
    SavePathForm path ns set hosts → ∃ session, opened.modData = some session ∧
      HoldsField session.ns ns ∧ HoldsField session.set set ∧ session.hosts = hosts
  kept : opened.result = .failure → opened.modData = modData

/-! ## Copying a field -/

/-- A negative length makes the copy run out of the array. -/
theorem copyField_eq_none {cells start : List Char} {length : ℤ}
    (hneg : length < 0) (hlow : -2 ^ 31 ≤ length) (hcells : cells.length < 2 ^ 32) :
    copyField cells start length = none := by
  unfold copyField
  by_cases hzero : length + 1 = 0
  · cases hcopy : strncpy '\x00' cells start (intToSize (length + 1)) with
    | none => rfl
    | some copied =>
        have hwrite : write copied length ['\x00'] = none := by
          rw [write_eq_none_iff]
          omega
        exact hwrite
  · have hlong : cells.length < intToSize (length + 1) := by
      unfold intToSize
      omega
    rw [strncpy_eq_none hlong]
    rfl

/-- A length within the array and the source makes the array hold the beginning
of the source. -/
theorem copyField_of_fits {cells start : List Char} {length : ℕ}
    (hfits : length < cells.length) (hsource : length < start.length)
    (hfree : '\x00' ∉ start.take length) (hbound : length < 2 ^ 32) :
    ∃ copied, copyField cells start length = some copied ∧
      HoldsField copied (start.take length) := by
  have hsize : intToSize ((length : ℤ) + 1) = length + 1 := by
    unfold intToSize
    omega
  have hcopy := @strncpy_of_le Char '\x00' cells start (length + 1) hsource hfits
  have hroom : length + ['\x00'].length ≤
      (start.take (length + 1) ++ cells.drop (length + 1)).length := by
    simp only [List.length_append, List.length_take, List.length_drop,
      List.length_singleton]
    omega
  have htake : (start.take (length + 1) ++ cells.drop (length + 1)).take length =
      start.take length := by
    have hlength : length ≤ (start.take (length + 1)).length := by
      rw [List.length_take]
      omega
    rw [List.take_append_of_le_length hlength, List.take_take]
    congr 1
    omega
  obtain ⟨rest, hwrite⟩ : ∃ rest, write (start.take (length + 1) ++
      cells.drop (length + 1)) length ['\x00'] =
        some (start.take length ++ '\x00' :: rest) := by
    rw [write_nat hroom, htake, List.append_assoc, List.singleton_append]
    exact ⟨_, rfl⟩
  refine ⟨start.take length ++ '\x00' :: rest, ?_, by simp, text_append_cons hfree⟩
  unfold copyField
  rw [hsize, hcopy]
  exact hwrite

/-! ## Reading a path -/

/-- The parser stops at a field of this length. -/
def LengthRefused (n size : ℕ) : Prop :=
  sizeToInt n = 0 ∨ sizeToInt n ≥ size

instance (n size : ℕ) : Decidable (LengthRefused n size) :=
  inferInstanceAs (Decidable (_ ∨ _))

/-- No length that is read from the path is negative, and where the parser comes
to the hosts the two lengths are true. -/
def LengthsKept (path : List Char) : Prop :=
  ∀ ns rest, splitFirst nsSetDelim path = some (ns, rest) →
    LengthRefused ns.length asNamespaceMaxSize ∨
      0 < sizeToInt ns.length ∧
        ∀ set hosts, splitFirst nsSetDelim rest = some (set, hosts) →
          LengthRefused set.length asSetMaxSize ∨
            0 < sizeToInt set.length ∧
              (hosts = [] ∨ sizeToInt ns.length = ns.length ∧
                sizeToInt set.length = set.length)

theorem SavePathForm.split {path ns set hosts : List Char}
    (hform : SavePathForm path ns set hosts) :
    splitFirst nsSetDelim path = some (ns, set ++ nsSetDelim :: hosts) ∧
      splitFirst nsSetDelim (set ++ nsSetDelim :: hosts) = some (set, hosts) := by
  rw [hform.joined]
  exact ⟨splitFirst_append hform.nsFree _, splitFirst_append hform.setFree _⟩

theorem SavePathForm.lengths {path ns set hosts : List Char}
    (hform : SavePathForm path ns set hosts) :
    ¬ LengthRefused ns.length asNamespaceMaxSize ∧
      ¬ LengthRefused set.length asSetMaxSize := by
  obtain ⟨hnsPos, hnsFits⟩ := hform.nsLength
  obtain ⟨hsetPos, hsetFits⟩ := hform.setLength
  unfold asNamespaceMaxSize at hnsFits
  unfold asSetMaxSize at hsetFits
  unfold LengthRefused
  rw [sizeToInt_of_small (by omega), sizeToInt_of_small (by omega)]
  unfold asNamespaceMaxSize asSetMaxSize
  omega

section

variable {setup : SessionSetup} {path : List Char} {cells : SessionCells}
variable {modData : Option SessionCells}

/-- An open that fails is right when the path has not the form or the
environment refuses. -/
theorem opensRight_of_error {message : String}
    (hnot : ∀ ns set hosts, SavePathForm path ns set hosts →
      ¬ (setup.addHosts hosts = true ∧ setup.created = true ∧
        setup.connects = true)) :
    OpensRight setup path modData ⟨.failure, modData, [message]⟩ where
  iff := by
    constructor
    · intro hsuccess
      cases hsuccess
    · rintro ⟨ns, set, hosts, hform, haccepted⟩
      exact absurd haccepted (hnot ns set hosts hform)
  stored hsuccess := by cases hsuccess
  kept _ := rfl

/-- An accepted field is copied up to the length that was read. -/
theorem copyField_of_pos {start field rest : List Char} {cells : List Char}
    {size : ℕ} (hstart : start = field ++ nsSetDelim :: rest)
    (hfree : '\x00' ∉ start) (hcells : cells.length = size)
    (hpos : 0 < sizeToInt field.length)
    (hfits : ¬ LengthRefused field.length size) :
    ∃ copied length, copyField cells start (sizeToInt field.length) = some copied ∧
      length ≤ field.length ∧ sizeToInt field.length = length ∧
      HoldsField copied (field.take length) := by
  obtain ⟨length, hle, hsmall, hlength⟩ := sizeToInt_of_nonneg hpos.le
  have hlow : length < cells.length := by
    unfold LengthRefused at hfits
    omega
  have hsource : length < start.length := by
    rw [hstart, List.length_append, List.length_cons]
    omega
  have htake : start.take length = field.take length := by
    rw [hstart, List.take_append_of_le_length hle]
  have hfree' : '\x00' ∉ start.take length := fun hmem =>
    hfree (List.mem_of_mem_take hmem)
  obtain ⟨copied, hcopy, hholds⟩ :=
    copyField_of_fits hlow hsource hfree' (by omega)
  rw [htake] at hholds
  exact ⟨copied, length, by rw [hlength]; exact hcopy, hle, hlength, hholds⟩

theorem psOpen_error {message : String}
    (hsetUp : setUpSessionData setup path cells = some (.error message)) :
    psOpen setup path cells modData = some ⟨.failure, modData, [message]⟩ := by
  unfold psOpen
  rw [hsetUp]
  rfl

/-- An open that stops with an error is right when nothing of the form could be
accepted. -/
theorem opens_of_error {message : String}
    (hsetUp : setUpSessionData setup path cells = some (.error message))
    (hnot : ∀ ns set hosts, SavePathForm path ns set hosts →
      ¬ (setup.addHosts hosts = true ∧ setup.created = true ∧
        setup.connects = true)) :
    ∃ opened, psOpen setup path cells modData = some opened ∧
      OpensRight setup path modData opened :=
  ⟨_, psOpen_error hsetUp, opensRight_of_error hnot⟩

/-- The hosts of a path whose two lengths are true. -/
theorem opens_of_hosts {ns set hosts : List Char} (hform : hosts ≠ [] →
      SavePathForm path ns set hosts)
    (hns : splitFirst nsSetDelim path = some (ns, set ++ nsSetDelim :: hosts))
    (hset : splitFirst nsSetDelim (set ++ nsSetDelim :: hosts) = some (set, hosts))
    {copied : SessionCells}
    (hsetUp : setUpSessionData setup path cells =
      some (setUpClient setup hosts copied))
    (hcopied : hosts ≠ [] → HoldsField copied.ns ns ∧ HoldsField copied.set set) :
    ∃ opened, psOpen setup path cells modData = some opened ∧
      OpensRight setup path modData opened := by
  have hunique : ∀ ns' set' hosts', SavePathForm path ns' set' hosts' →
      ns' = ns ∧ set' = set ∧ hosts' = hosts := by
    intro ns' set' hosts' hform'
    obtain ⟨hns', hset'⟩ := hform'.split
    rw [hns] at hns'
    obtain ⟨rfl, hrest⟩ := Prod.mk.inj (Option.some.inj hns')
    rw [← hrest, hset] at hset'
    obtain ⟨rfl, rfl⟩ := Prod.mk.inj (Option.some.inj hset')
    exact ⟨rfl, rfl, rfl⟩
  unfold setUpClient at hsetUp
  split at hsetUp
  · next hempty =>
      refine opens_of_error hsetUp fun ns' set' hosts' hform' _ => ?_
      obtain ⟨-, -, rfl⟩ := hunique _ _ _ hform'
      exact hform'.hosts hempty
  · next hne =>
      split at hsetUp
      · next hrefused =>
          refine opens_of_error hsetUp fun ns' set' hosts' hform' haccepted => ?_
          obtain ⟨-, -, rfl⟩ := hunique _ _ _ hform'
          rw [hrefused] at haccepted
          exact absurd haccepted.1 (by simp)
      · next haccepted =>
          split at hsetUp
          · next hrefused =>
              refine opens_of_error hsetUp fun _ _ _ _ haccepted => ?_
              rw [hrefused] at haccepted
              exact absurd haccepted.2.1 (by simp)
          · next hcreated =>
              split at hsetUp
              · next hrefused =>
                  refine opens_of_error hsetUp fun _ _ _ _ haccepted => ?_
                  rw [hrefused] at haccepted
                  exact absurd haccepted.2.2 (by simp)
              · next hconnects =>
                  have hopened : psOpen setup path cells modData = some
                      ⟨.success, some { copied with hosts := hosts }, []⟩ := by
                    unfold psOpen
                    rw [hsetUp]
                    rfl
                  refine ⟨_, hopened, ?_, ?_, ?_⟩
                  · refine iff_of_true rfl ⟨ns, set, hosts, hform hne, ?_, ?_, ?_⟩
                    · simpa using haccepted
                    · simpa using hcreated
                    · simpa using hconnects
                  · intro _ ns' set' hosts' hform'
                    obtain ⟨rfl, rfl, rfl⟩ := hunique _ _ _ hform'
                    exact ⟨_, rfl, (hcopied hne).1, (hcopied hne).2, rfl⟩
                  · intro hfailure
                    cases hfailure

theorem setUpSessionData_of_split {ns rest : List Char}
    (hns : splitFirst nsSetDelim path = some (ns, rest)) :
    setUpSessionData setup path cells =
      if LengthRefused ns.length asNamespaceMaxSize then
        some (.error "Namespace is too long")
      else (copyField cells.ns path (sizeToInt ns.length)).bind fun copied =>
        setUpSet setup rest { cells with ns := copied } := by
  unfold setUpSessionData
  rw [hns]
  rfl

theorem setUpSet_of_split {rest set hosts : List Char}
    (hset : splitFirst nsSetDelim rest = some (set, hosts)) :
    setUpSet setup rest cells =
      if LengthRefused set.length asSetMaxSize then
        some (.error "Set name is too long")
      else (copyField cells.set rest (sizeToInt set.length)).bind fun copied =>
        some (setUpClient setup hosts { cells with set := copied }) := by
  have hne : rest ≠ [] := by
    rintro rfl
    cases hset
  unfold setUpSet
  rw [if_neg hne, hset]
  rfl

theorem setUpSet_of_noSplit {rest : List Char}
    (hset : splitFirst nsSetDelim rest = none) :
    ∃ message, setUpSet setup rest cells = some (.error message) := by
  unfold setUpSet
  split
  · exact ⟨_, rfl⟩
  · rw [hset]
    exact ⟨_, rfl⟩

/-- On a path whose lengths are kept an open comes to what it should. -/
theorem opens_of_lengthsKept (hcells : cells.Fresh) (hfree : '\x00' ∉ path)
    (hkept : LengthsKept path) :
    ∃ opened, psOpen setup path cells modData = some opened ∧
      OpensRight setup path modData opened := by
  cases hns : splitFirst nsSetDelim path with
  | none =>
      have hsetUp : setUpSessionData setup path cells =
          some (.error "Namespace not found in session path") := by
        unfold setUpSessionData
        rw [hns]
      refine opens_of_error hsetUp fun ns set hosts hform _ => ?_
      rw [hform.split.1] at hns
      cases hns
  | some fields =>
      obtain ⟨ns, rest⟩ := fields
      have hpath := (splitFirst_eq_some_iff.mp hns).1
      have hsame : ∀ ns' set' hosts', SavePathForm path ns' set' hosts' →
          ns' = ns ∧ splitFirst nsSetDelim rest = some (set', hosts') := by
        intro ns' set' hosts' hform
        obtain ⟨hns', hset'⟩ := hform.split
        rw [hns] at hns'
        obtain ⟨rfl, rfl⟩ := Prod.mk.inj (Option.some.inj hns')
        exact ⟨rfl, hset'⟩
      have hsetUp := @setUpSessionData_of_split setup path cells ns rest hns
      by_cases hrefused : LengthRefused ns.length asNamespaceMaxSize
      · rw [if_pos hrefused] at hsetUp
        refine opens_of_error hsetUp fun ns' set' hosts' hform _ => ?_
        obtain ⟨rfl, -⟩ := hsame _ _ _ hform
        exact hform.lengths.1 hrefused
      · obtain ⟨hpos, hrest⟩ := (hkept ns rest hns).resolve_left hrefused
        obtain ⟨copied, length, hcopy, hle, hlength, hholds⟩ :=
          copyField_of_pos hpath hfree hcells.ns hpos hrefused
        rw [if_neg hrefused, hcopy, Option.bind_some] at hsetUp
        cases hset : splitFirst nsSetDelim rest with
        | none =>
            obtain ⟨message, herror⟩ := @setUpSet_of_noSplit setup
              { cells with ns := copied } rest hset
            rw [herror] at hsetUp
            refine opens_of_error hsetUp fun ns' set' hosts' hform _ => ?_
            rw [(hsame _ _ _ hform).2] at hset
            cases hset
        | some fields =>
            obtain ⟨set, hosts⟩ := fields
            have hafter := (splitFirst_eq_some_iff.mp hset).1
            have hfree' : '\x00' ∉ rest := by
              intro hmem
              refine hfree ?_
              rw [hpath]
              exact List.mem_append_right _ (List.mem_cons_of_mem _ hmem)
            rw [setUpSet_of_split hset] at hsetUp
            by_cases hrefused' : LengthRefused set.length asSetMaxSize
            · rw [if_pos hrefused'] at hsetUp
              refine opens_of_error hsetUp fun ns' set' hosts' hform _ => ?_
              have hset' := (hsame _ _ _ hform).2
              rw [hset] at hset'
              obtain ⟨rfl, rfl⟩ := Prod.mk.inj (Option.some.inj hset')
              exact hform.lengths.2 hrefused'
            · obtain ⟨hpos', hlast⟩ := (hrest set hosts hset).resolve_left hrefused'
              obtain ⟨copied', length', hcopy', hle', hlength', hholds'⟩ :=
                copyField_of_pos hafter hfree' hcells.set hpos' hrefused'
              rw [if_neg hrefused', hcopy', Option.bind_some] at hsetUp
              rw [hafter] at hns hset
              have htrue : hosts ≠ [] → length = ns.length ∧ length' = set.length := by
                intro hne
                obtain ⟨htrue, htrue'⟩ := hlast.resolve_left hne
                exact ⟨by omega, by omega⟩
              refine opens_of_hosts ?_ hns hset hsetUp ?_
              · intro hne
                obtain ⟨rfl, rfl⟩ := htrue hne
                unfold LengthRefused at hrefused hrefused'
                exact ⟨by rw [hpath, hafter], by omega, by omega,
                  (splitFirst_eq_some_iff.mp hns).2, (splitFirst_eq_some_iff.mp hset).2,
                  hne⟩
              · intro hne
                obtain ⟨rfl, rfl⟩ := htrue hne
                rw [List.take_length] at hholds hholds'
                exact ⟨hholds, hholds'⟩

end

/-! ## When opening goes right -/

/-- An environment that accepts everything. -/
def SessionSetup.accepting : SessionSetup := ⟨fun _ => true, true, true⟩

def SessionCells.blank : SessionCells :=
  ⟨List.replicate asNamespaceMaxSize '\x00', List.replicate asSetMaxSize '\x00', []⟩

theorem SessionCells.blank_fresh : SessionCells.blank.Fresh :=
  ⟨List.length_replicate, List.length_replicate⟩

section

variable {path ns rest set hosts : List Char} {modData : Option SessionCells}

/-- Whatever their lengths are cut to, the fields are accepted when both cut
lengths are. -/
theorem psOpen_accepts (hfree : '\x00' ∉ path)
    (hns : splitFirst nsSetDelim path = some (ns, rest))
    (hset : splitFirst nsSetDelim rest = some (set, hosts)) (hhosts : hosts ≠ [])
    (hpos : 0 < sizeToInt ns.length)
    (hfits : ¬ LengthRefused ns.length asNamespaceMaxSize)
    (hpos' : 0 < sizeToInt set.length)
    (hfits' : ¬ LengthRefused set.length asSetMaxSize) :
    ∃ opened, psOpen .accepting path .blank modData = some opened ∧
      opened.result = .success := by
  have hpath := (splitFirst_eq_some_iff.mp hns).1
  have hafter := (splitFirst_eq_some_iff.mp hset).1
  have hfree' : '\x00' ∉ rest := by
    intro hmem
    refine hfree ?_
    rw [hpath]
    exact List.mem_append_right _ (List.mem_cons_of_mem _ hmem)
  obtain ⟨copied, length, hcopy, -⟩ :=
    copyField_of_pos hpath hfree SessionCells.blank_fresh.ns hpos hfits
  obtain ⟨copied', length', hcopy', -⟩ :=
    copyField_of_pos hafter hfree' SessionCells.blank_fresh.set hpos' hfits'
  have hsetUp := @setUpSessionData_of_split .accepting path .blank ns rest hns
  rw [if_neg hfits, hcopy, Option.bind_some, setUpSet_of_split hset, if_neg hfits',
    hcopy', Option.bind_some, setUpClient, if_neg hhosts] at hsetUp
  unfold psOpen
  rw [hsetUp]
  exact ⟨_, rfl, rfl⟩

/-- A path of the form is split into fields whose lengths are true. -/
theorem SavePathForm.lengths_true {ns' set' hosts' : List Char}
    (hform : SavePathForm path ns' set' hosts')
    (hns : splitFirst nsSetDelim path = some (ns, rest))
    (hset : splitFirst nsSetDelim rest = some (set, hosts)) :
    sizeToInt ns.length = ns.length ∧ sizeToInt set.length = set.length := by
  obtain ⟨hns', hset'⟩ := hform.split
  rw [hns] at hns'
  obtain ⟨rfl, rfl⟩ := Prod.mk.inj (Option.some.inj hns')
  rw [hset] at hset'
  obtain ⟨rfl, rfl⟩ := Prod.mk.inj (Option.some.inj hset')
  have hnsFits := hform.nsLength.2
  have hsetFits := hform.setLength.2
  unfold asNamespaceMaxSize at hnsFits
  unfold asSetMaxSize at hsetFits
  exact ⟨sizeToInt_of_small (by omega), sizeToInt_of_small (by omega)⟩

/-- A negative length has no result. -/
theorem copyField_blank {start : List Char} {n size : ℕ}
    (hfits : ¬ LengthRefused n size) (hneg : ¬ 0 < sizeToInt n)
    (hsize : size < 2 ^ 32) :
    copyField (List.replicate size '\x00') start (sizeToInt n) = none := by
  unfold LengthRefused at hfits
  have hbounds := sizeToInt_bounds n
  exact copyField_eq_none (by omega) (by omega) (by rw [List.length_replicate]; exact hsize)

/-- Every attempt to open a session on the path comes to what it should if and
only if the lengths of its fields are kept. -/
theorem psOpen_right_iff (hfree : '\x00' ∉ path) :
    (∀ setup cells modData, SessionCells.Fresh cells →
      ∃ opened, psOpen setup path cells modData = some opened ∧
        OpensRight setup path modData opened) ↔ LengthsKept path := by
  constructor
  · intro hright
    obtain ⟨opened, hopened, hopens⟩ := hright .accepting .blank none SessionCells.blank_fresh
    intro ns rest hns
    by_cases hfits : LengthRefused ns.length asNamespaceMaxSize
    · exact .inl hfits
    have hsetUp := @setUpSessionData_of_split .accepting path .blank ns rest hns
    rw [if_neg hfits] at hsetUp
    have hpos : 0 < sizeToInt ns.length := by
      by_contra hneg
      have hnone := @copyField_blank path _ _ hfits hneg (by decide)
      rw [psOpen, hsetUp, SessionCells.blank, hnone] at hopened
      cases hopened
    refine .inr ⟨hpos, fun set hosts hset => ?_⟩
    by_cases hfits' : LengthRefused set.length asSetMaxSize
    · exact .inl hfits'
    have hpos' : 0 < sizeToInt set.length := by
      by_contra hneg
      have hnone := @copyField_blank rest _ _ hfits' hneg (by decide)
      cases hcopy : copyField SessionCells.blank.ns path (sizeToInt ns.length) with
      | none =>
          rw [psOpen, hsetUp, hcopy] at hopened
          cases hopened
      | some copied =>
          rw [psOpen, hsetUp, hcopy, Option.bind_some, setUpSet_of_split hset,
            if_neg hfits', SessionCells.blank, hnone] at hopened
          cases hopened
    refine .inr ⟨hpos', ?_⟩
    by_cases hhosts : hosts = []
    · exact .inl hhosts
    obtain ⟨opened', hopened', hsuccess⟩ := @psOpen_accepts path ns rest set hosts none
      hfree hns hset hhosts hpos hfits hpos' hfits'
    obtain rfl : opened = opened' := Option.some.inj (hopened.symm.trans hopened')
    obtain ⟨ns', set', hosts', hform, -⟩ := hopens.iff.mp hsuccess
    exact .inr (hform.lengths_true hns hset)
  · intro hkept setup cells modData hcells
    exact opens_of_lengthsKept hcells hfree hkept

theorem sizeToInt_pos_of_small {n size : ℕ} (hsmall : n < 2 ^ 31)
    (hfits : ¬ LengthRefused n size) : 0 < sizeToInt n := by
  unfold LengthRefused at hfits
  have hsame := sizeToInt_of_small hsmall
  omega

/-- A path shorter than 2³¹ bytes keeps its lengths. -/
theorem lengthsKept_of_short (hshort : path.length < 2 ^ 31) : LengthsKept path := by
  intro ns rest hns
  have hpath := (splitFirst_eq_some_iff.mp hns).1
  have hlength : path.length = ns.length + (rest.length + 1) := by
    rw [hpath, List.length_append, List.length_cons]
  by_cases hfits : LengthRefused ns.length asNamespaceMaxSize
  · exact .inl hfits
  refine .inr ⟨sizeToInt_pos_of_small (by omega) hfits, fun set hosts hset => ?_⟩
  have hrest := (splitFirst_eq_some_iff.mp hset).1
  have hlength' : rest.length = set.length + (hosts.length + 1) := by
    rw [hrest, List.length_append, List.length_cons]
  by_cases hfits' : LengthRefused set.length asSetMaxSize
  · exact .inl hfits'
  exact .inr ⟨sizeToInt_pos_of_small (by omega) hfits',
    .inr ⟨sizeToInt_of_small (by omega), sizeToInt_of_small (by omega)⟩⟩

end

theorem psOpen_right_plain :
    LengthsKept "test|sessions|127.0.0.1:3000".toList ∧
      ∀ setup cells modData, SessionCells.Fresh cells →
        ∃ opened, psOpen setup "test|sessions|127.0.0.1:3000".toList cells modData =
            some opened ∧
          OpensRight setup "test|sessions|127.0.0.1:3000".toList modData opened :=
  ⟨lengthsKept_of_short (by decide),
    (psOpen_right_iff (by decide)).mpr (lengthsKept_of_short (by decide))⟩

/-- A namespace of `n` bytes, a set and a host. -/
def longPath (n : ℕ) : List Char :=
  List.replicate n 'a' ++ nsSetDelim :: ['s', nsSetDelim, 'h']

/-- A namespace of 2³² + 4 bytes is accepted, although the path has not the
form. -/
theorem longNamespace_accepted :
    (∃ opened, psOpen .accepting (longPath (2 ^ 32 + 4)) .blank none = some opened ∧
        opened.result = .success) ∧
      ∀ ns set hosts, ¬ SavePathForm (longPath (2 ^ 32 + 4)) ns set hosts := by
  have hdelim : ∀ n, nsSetDelim ∉ List.replicate n 'a' := by
    intro n hmem
    have hsame := List.eq_of_mem_replicate hmem
    exact absurd hsame (by decide)
  have hns : ∀ n, splitFirst nsSetDelim (longPath n) =
      some (List.replicate n 'a', ['s', nsSetDelim, 'h']) :=
    fun n => splitFirst_append (hdelim n) _
  have hset : splitFirst nsSetDelim ['s', nsSetDelim, 'h'] = some (['s'], ['h']) := rfl
  have hfree : ∀ n, '\x00' ∉ longPath n := by
    intro n hmem
    rcases List.mem_append.mp hmem with hname | hrest
    · have hsame := List.eq_of_mem_replicate hname
      exact absurd hsame (by decide)
    · exact absurd hrest (by decide)
  have hcut : ∀ n, n = 2 ^ 32 + 4 → sizeToInt (List.replicate n 'a').length = 4 := by
    intro n hn
    rw [List.length_replicate, sizeToInt]
    omega
  have hcut' : sizeToInt ['s'].length = 1 := by decide
  constructor
  · refine psOpen_accepts (hfree _) (hns _) hset (by simp) ?_ ?_ (by decide) (by decide)
    · rw [hcut _ rfl]
      decide
    · unfold LengthRefused
      rw [hcut _ rfl]
      decide
  · intro ns set hosts hform
    have htrue := (hform.lengths_true (hns _) hset).1
    rw [hcut _ rfl, List.length_replicate] at htrue
    omega

end AerospikePhp
