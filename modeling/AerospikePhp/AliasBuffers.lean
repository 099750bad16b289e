import AerospikePhp.Library.Buffers
import AerospikePhp.SearchStrings
import Mathlib.Tactic

/-!
# The buffer of a search string

`get_persistent_search_string` adds up the sizes of the fields in integers,
allocates as many bytes and puts the fields one behind the other.
-/

namespace AerospikePhp

open Buffers Delimiters

/-! ## The function -/

/-- `MAX_PORT_SIZE`. -/
def maxPortSize : ℕ := 6

/-- `MAX_SHM_SIZE`. -/
def maxShmSize : ℕ := 19

/-- The result of an addition as an `int`. -/
def wrapInt (n : ℤ) : ℤ := (n + 2 ^ 31) % 2 ^ 32 - 2 ^ 31

/-- `sprintf` into an array of this size. -/
def sprintf (size : ℕ) (digits : List Char) : Option (List Char) :=
  (write (List.replicate size '\x00') 0 (digits ++ ['\x00'])).map (text '\x00')

/-- The sums that the loop over the hosts builds. -/
structure AliasSizes where
  address : ℤ
  port : ℤ
  delimiter : ℤ
  user : ℤ

def addHostSizes (user : String) (sizes : AliasSizes) (host : AsHost) : AliasSizes where
  address := wrapInt (sizes.address + strlen host.name)
  port := wrapInt (sizes.port + maxPortSize)
  delimiter := wrapInt (sizes.delimiter + 3)
  user := wrapInt (sizes.user + strlen user)

/-- The loop of `strcat`s, for one host. -/
def appendHost (user : String) (cells : List Char) (host : AsHost) :
    Option (List Char) := do
  let portStr ← sprintf maxPortSize (toString host.port).toList
  [(cString host.name).toList, [':'], portStr, [':'], (cString user).toList,
    [';']].foldlM (strcat '\x00') cells

/-- How the function ends. -/
inductive AliasEnd where
  /-- The list of the hosts is read through NULL. -/
  | crash
  | null
  | found (cells : List Char)

namespace AsConfig

variable (config : AsConfig)

/-- The hosts that the first loop goes over, whose bound is an `int`. -/
def countedHosts : List AsHost :=
  config.hosts.take (sizeToInt config.hosts.length).toNat

def aliasSize : ℤ :=
  let sizes := config.countedHosts.foldl (addHostSizes config.user) ⟨0, 0, 0, 0⟩
  let shm : ℤ := if config.useShm then maxShmSize else 0
  wrapInt (sizes.address + sizes.user + sizes.port + sizes.delimiter + shm)

def fillAlias (cells : List Char) : Option (List Char) := do
  let cells ← write cells 0 ['\x00']
  let cells ← config.hosts.foldlM (appendHost config.user) cells
  if config.useShm then do
    let shmStr ← sprintf maxShmSize (hexString config.shmKey).toList
    strcat '\x00' cells shmStr
  else some cells

/-- `get_persistent_search_string` with its accesses.  There is no result when
it writes outside the allocated bytes or one of its arrays.  Without a host the
list is NULL, or empty when `emptyList` says so. -/
def aliasToSearch (emptyList : Bool) (malloc : ℕ → Option (List Char)) :
    Option AliasEnd :=
  if config.hosts = [] ∧ emptyList = false then some .crash
  else
    match malloc (intToSize config.aliasSize) with
    | none => some .null
    | some cells => (config.fillAlias cells).map .found

end AsConfig

/-- `malloc` gives as many bytes as asked for, and no more than a pointer
difference can span. -/
def Mallocs (malloc : ℕ → Option (List Char)) : Prop :=
  ∀ size cells, malloc size = some cells → cells.length = size ∧ size < 2 ^ 63

/-! ## The texts -/

theorem sprintf_of_fits {size : ℕ} {digits : List Char} (hfits : digits.length < size)
    (hfree : '\x00' ∉ digits) : sprintf size digits = some digits := by
  have hroom : 0 + (digits ++ ['\x00']).length ≤ (List.replicate size '\x00').length := by
    rw [List.length_append, List.length_singleton, List.length_replicate]
    omega
  have hwrite := write_nat hroom
  rw [sprintf, show (0 : ℤ) = ((0 : ℕ) : ℤ) from rfl, hwrite, Option.map_some,
    List.take_zero, List.nil_append, List.append_assoc, List.singleton_append,
    text_append_cons hfree]

theorem nul_notMem_toDigits {base : ℕ} (hbase : 1 < base) (hle : base ≤ 16) (n : ℕ) :
    '\x00' ∉ Nat.toDigits base n := by
  intro hmem
  obtain ⟨digit, hlt, hdigit⟩ := mem_toDigits hbase hmem
  exact absurd hdigit.symm ((by decide : ∀ digit < 16, Nat.digitChar digit ≠ '\x00')
    digit (by omega))

theorem toString_port_eq (port : ℕ) : (toString port).toList = Nat.toDigits 10 port := by
  rw [show toString port = port.repr from rfl, Nat.repr_eq_ofList_toDigits,
    String.toList_ofList]

theorem sprintf_port {port : ℕ} (hport : port < 2 ^ 16) :
    sprintf maxPortSize (toString port).toList = some (toString port).toList := by
  rw [toString_port_eq]
  refine sprintf_of_fits ?_ (nul_notMem_toDigits (by decide) (by decide) port)
  have hdigits : (Nat.toDigits 10 port).length ≤ 5 :=
    (Nat.length_toDigits_le_iff (by decide) (by decide)).mpr (by omega)
  exact Nat.lt_of_le_of_lt hdigits (by decide)

theorem hexString_length (n : ℤ) :
    1 ≤ (hexString n).toList.length ∧ (hexString n).toList.length ≤ 8 := by
  rw [hexString, String.toList_ofList]
  refine ⟨Nat.length_toDigits_pos, ?_⟩
  exact (Nat.length_toDigits_le_iff (by decide) (by decide)).mpr (by omega)

theorem hexString_nulFree (n : ℤ) : '\x00' ∉ (hexString n).toList := by
  rw [hexString, String.toList_ofList]
  exact nul_notMem_toDigits (by decide) (by decide) _

theorem sprintf_shm (n : ℤ) :
    sprintf maxShmSize (hexString n).toList = some (hexString n).toList :=
  sprintf_of_fits (Nat.lt_of_le_of_lt (hexString_length n).2 (by decide))
    (hexString_nulFree n)

/-- What is put behind the alias for a host. -/
def hostParts (user : String) (host : AsHost) : List (List Char) :=
  [(cString host.name).toList, [':'], (toString host.port).toList, [':'],
    (cString user).toList, [';']]

theorem appendHost_eq {user : String} {cells : List Char} {host : AsHost}
    (hport : host.port < 2 ^ 16) :
    appendHost user cells host = (hostParts user host).foldlM (strcat '\x00') cells := by
  unfold appendHost
  rw [sprintf_port hport]
  rfl

theorem hostParts_nulFree (user : String) (host : AsHost) :
    ∀ part ∈ hostParts user host, '\x00' ∉ part := by
  have hport : '\x00' ∉ (toString host.port).toList := by
    rw [toString_port_eq]
    exact nul_notMem_toDigits (by decide) (by decide) _
  have hname := nulFree_cString host.name
  have huser := nulFree_cString user
  unfold NulFree at hname huser
  intro part hmem
  simp only [hostParts, List.mem_cons, List.not_mem_nil, or_false] at hmem
  rcases hmem with rfl | rfl | rfl | rfl | rfl | rfl
  · exact hname
  · decide
  · exact hport
  · decide
  · exact huser
  · decide

theorem foldlM_appendHost {user : String} {hosts : List AsHost} {cells : List Char}
    (hports : ∀ host ∈ hosts, host.port < 2 ^ 16) :
    hosts.foldlM (appendHost user) cells =
      (hosts.flatMap (hostParts user)).foldlM (strcat '\x00') cells := by
  induction hosts generalizing cells with
  | nil => rfl
  | cons host hosts ih =>
      rw [List.foldlM_cons, List.flatMap_cons, List.foldlM_append,
        appendHost_eq (hports host List.mem_cons_self)]
      congr 1
      funext cells
      exact ih fun other hmem => hports other (List.mem_cons_of_mem _ hmem)

namespace AsConfig

variable {config : AsConfig}

/-- The parts of the alias. -/
def aliasParts (config : AsConfig) : List (List Char) :=
  config.hosts.flatMap (hostParts config.user) ++
    if config.useShm then [(hexString config.shmKey).toList] else []

theorem aliasParts_nulFree : ∀ part ∈ config.aliasParts, '\x00' ∉ part := by
  intro part hmem
  rcases List.mem_append.mp hmem with hhost | hshm
  · obtain ⟨host, -, hpart⟩ := List.mem_flatMap.mp hhost
    exact hostParts_nulFree config.user host part hpart
  · split at hshm
    · obtain rfl := List.mem_singleton.mp hshm
      exact hexString_nulFree config.shmKey
    · cases hshm

theorem fillAlias_cons (hports : ∀ host ∈ config.hosts, host.port < 2 ^ 16)
    (c : Char) (rest : List Char) :
    config.fillAlias (c :: rest) =
      config.aliasParts.foldlM (strcat '\x00') ('\x00' :: rest) := by
  have hwrite : write (c :: rest) 0 ['\x00'] = some ('\x00' :: rest) :=
    write_nat (by simp)
  unfold fillAlias
  rw [hwrite, aliasParts, List.foldlM_append, ← foldlM_appendHost hports]
  show Option.bind (config.hosts.foldlM (appendHost config.user) ('\x00' :: rest)) _ =
    Option.bind (config.hosts.foldlM (appendHost config.user) ('\x00' :: rest)) _
  congr 1
  funext cells
  by_cases hshm : config.useShm = true
  · rw [if_pos hshm, if_pos hshm, sprintf_shm]
    show strcat '\x00' cells _ = Option.bind (strcat '\x00' cells _) some
    rw [Option.bind_fun_some]
  · rw [if_neg hshm, if_neg hshm]
    rfl

/-- The alias is filled if and only if there is room for its parts and the
terminator. -/
theorem fillAlias_eq (hports : ∀ host ∈ config.hosts, host.port < 2 ^ 16)
    (cells : List Char) :
    config.fillAlias cells =
      if config.aliasParts.flatten.length < cells.length then
        some (config.aliasParts.flatten ++
          '\x00' :: cells.drop (config.aliasParts.flatten.length + 1))
      else none := by
  cases cells with
  | nil => rfl
  | cons c rest =>
      rw [fillAlias_cons hports]
      have hfilled := @strcats_text _ _ '\x00' config.aliasParts [] rest (by simp)
        aliasParts_nulFree
      rw [List.nil_append] at hfilled
      rw [hfilled, List.length_cons, List.drop_succ_cons, List.nil_append]
      by_cases hroom : config.aliasParts.flatten.length ≤ rest.length
      · rw [if_pos hroom, if_pos (by omega)]
      · rw [if_neg hroom, if_neg (by omega)]

/-- The text of a filled alias is the search string. -/
theorem fillAlias_text (hports : ∀ host ∈ config.hosts, host.port < 2 ^ 16)
    (hnames : ∀ host ∈ config.hosts, NulFree host.name) (huser : NulFree config.user)
    {cells filled : List Char} (hfilled : config.fillAlias cells = some filled) :
    text '\x00' filled = (persistentSearchString config).toList := by
  have hfree : '\x00' ∉ config.aliasParts.flatten := by
    intro hmem
    obtain ⟨part, hpart, hnul⟩ := List.mem_flatten.mp hmem
    exact aliasParts_nulFree part hpart hnul
  have hhosts : ∀ hosts : List AsHost, (∀ host ∈ hosts, NulFree host.name) →
      (hosts.flatMap (hostParts config.user)).flatten =
        (String.join (hosts.map fun host => host.name ++ ":" ++ toString host.port ++
          ":" ++ config.user ++ ";")).toList := by
    intro hosts hnames
    induction hosts with
    | nil => rfl
    | cons host hosts ih =>
        have hname := (cString_eq_self_iff host.name).mpr (hnames host List.mem_cons_self)
        have huser' := (cString_eq_self_iff config.user).mpr huser
        rw [List.flatMap_cons, List.flatten_append,
          ih fun other hmem => hnames other (List.mem_cons_of_mem _ hmem)]
        simp [hostParts, hname, huser', String.toList_join]
  have hparts : config.aliasParts.flatten = (persistentSearchString config).toList := by
    rw [aliasParts, List.flatten_append, hhosts config.hosts hnames,
      persistentSearchString, String.toList_append]
    congr 1
    split
    · rw [List.flatten_singleton]
    · rfl
  rw [fillAlias_eq hports] at hfilled
  split at hfilled
  · obtain rfl := Option.some.inj hfilled
    rw [text_append_cons hfree, hparts]
  · cases hfilled

end AsConfig

/-! ## The sizes -/

/-- What the first loop counts for a host. -/
def hostBytes (user : String) (host : AsHost) : ℕ :=
  strlen host.name + maxPortSize + 3 + strlen user

theorem wrapInt_congr {m n : ℤ} (hsame : m % 2 ^ 32 = n % 2 ^ 32) : wrapInt m = wrapInt n := by
  unfold wrapInt
  omega

theorem wrapInt_mod (n : ℤ) : wrapInt n % 2 ^ 32 = n % 2 ^ 32 := by
  unfold wrapInt
  omega

theorem foldl_addHostSizes (user : String) (hosts : List AsHost) (sizes : AliasSizes) :
    ((hosts.foldl (addHostSizes user) sizes).address +
        (hosts.foldl (addHostSizes user) sizes).user +
        (hosts.foldl (addHostSizes user) sizes).port +
        (hosts.foldl (addHostSizes user) sizes).delimiter) % 2 ^ 32 =
      (sizes.address + sizes.user + sizes.port + sizes.delimiter +
        (hosts.map (hostBytes user)).sum) % 2 ^ 32 := by
  induction hosts generalizing sizes with
  | nil => simp
  | cons host hosts ih =>
      have haddress := wrapInt_mod (sizes.address + strlen host.name)
      have hport := wrapInt_mod (sizes.port + maxPortSize)
      have hdelimiter := wrapInt_mod (sizes.delimiter + 3)
      have huser := wrapInt_mod (sizes.user + strlen user)
      rw [List.foldl_cons, ih, List.map_cons, List.sum_cons, hostBytes]
      simp only [addHostSizes]
      omega

/-- The bytes of a host and what is counted for it. -/
theorem length_hostParts {user : String} {host : AsHost} (hport : host.port < 2 ^ 16) :
    4 ≤ (hostParts user host).flatten.length ∧
      (hostParts user host).flatten.length + 1 ≤ hostBytes user host ∧
      hostBytes user host ≤ (hostParts user host).flatten.length + 5 := by
  have hdigits : (toString host.port).toList.length ≤ 5 := by
    rw [toString_port_eq]
    exact (Nat.length_toDigits_le_iff (by decide) (by decide)).mpr (by omega)
  have hsome : 1 ≤ (toString host.port).toList.length := by
    rw [toString_port_eq]
    exact Nat.length_toDigits_pos
  have hlength : (hostParts user host).flatten.length =
      strlen host.name + (toString host.port).toList.length + strlen user + 3 := by
    simp only [hostParts, List.flatten_cons, List.flatten_nil, List.length_append,
      List.length_singleton, List.length_nil, strlen, String.length_toList]
    omega
  have hsize : maxPortSize = 6 := rfl
  rw [hlength, hostBytes]
  omega

theorem length_hosts {user : String} {hosts : List AsHost}
    (hports : ∀ host ∈ hosts, host.port < 2 ^ 16) :
    4 * hosts.length ≤ (hosts.flatMap (hostParts user)).flatten.length ∧
      (hosts.flatMap (hostParts user)).flatten.length + hosts.length ≤
        (hosts.map (hostBytes user)).sum ∧
      (hosts.map (hostBytes user)).sum ≤
        (hosts.flatMap (hostParts user)).flatten.length + 5 * hosts.length := by
  induction hosts with
  | nil => simp
  | cons host hosts ih =>
      obtain ⟨hfour, hless, hmore⟩ :=
        @length_hostParts user host (hports host List.mem_cons_self)
      obtain ⟨hfour', hless', hmore'⟩ :=
        ih fun other hmem => hports other (List.mem_cons_of_mem _ hmem)
      rw [List.flatMap_cons, List.flatten_append, List.length_append, List.map_cons,
        List.sum_cons, List.length_cons]
      omega

namespace AsConfig

variable {config : AsConfig}

/-- What is counted for the configuration, before the sum is an `int`. -/
def totalBytes (config : AsConfig) : ℕ :=
  (config.countedHosts.map (hostBytes config.user)).sum +
    if config.useShm then maxShmSize else 0

theorem aliasSize_eq (config : AsConfig) :
    config.aliasSize = wrapInt config.totalBytes := by
  have hsum := foldl_addHostSizes config.user config.countedHosts ⟨0, 0, 0, 0⟩
  dsimp only at hsum
  unfold aliasSize totalBytes
  refine wrapInt_congr ?_
  rw [Nat.cast_add, Nat.cast_ite]
  split <;> omega

theorem totalBytes_of_noHosts (hnil : config.hosts = []) :
    config.totalBytes = if config.useShm then 19 else 0 := by
  have hcounted : config.countedHosts = [] := by rw [countedHosts, hnil, List.take_nil]
  rw [totalBytes, hcounted, List.map_nil, List.sum_nil, Nat.zero_add]
  rfl

/-- A sum in the upper half is negative as an `int`. -/
theorem aliasSize_upper (hupper : 2 ^ 31 ≤ config.totalBytes % 2 ^ 32) :
    2 ^ 63 ≤ intToSize config.aliasSize := by
  rw [aliasSize_eq, wrapInt, intToSize]
  omega

theorem aliasSize_lower (hlower : config.totalBytes % 2 ^ 32 < 2 ^ 31) :
    intToSize config.aliasSize = config.totalBytes % 2 ^ 32 := by
  rw [aliasSize_eq, wrapInt, intToSize]
  omega

theorem countedHosts_of_few (hfew : config.hosts.length < 2 ^ 31) :
    config.countedHosts = config.hosts := by
  rw [countedHosts, sizeToInt_of_small hfew, Int.toNat_natCast, List.take_length]

theorem length_aliasParts (config : AsConfig) :
    (config.hosts.flatMap (hostParts config.user)).flatten.length +
        (if config.useShm then 1 else 0) ≤ config.aliasParts.flatten.length ∧
      config.aliasParts.flatten.length ≤
        (config.hosts.flatMap (hostParts config.user)).flatten.length +
          (if config.useShm then 8 else 0) := by
  have hhex := hexString_length config.shmKey
  rw [aliasParts, List.flatten_append, List.length_append]
  split
  · rw [List.flatten_singleton]
    omega
  · rw [List.flatten_nil, List.length_nil]
    omega

/-- The sum that is counted does not leave the range of an `int`, or leaves it so
that `malloc` refuses it; and an empty list comes with a shared memory key. -/
def AliasFits (emptyList : Bool) (config : AsConfig) : Prop :=
  (config.hosts = [] → emptyList = true → config.useShm = true) ∧
    (2 ^ 31 ≤ config.totalBytes % 2 ^ 32 ∨
      config.hosts.length < 2 ^ 31 ∧ config.totalBytes < 2 ^ 31)

/-- What is counted is enough for the parts and the terminator. -/
theorem parts_lt_total (hports : ∀ host ∈ config.hosts, host.port < 2 ^ 16)
    (hsome : config.hosts = [] → config.useShm = true)
    (hfew : config.hosts.length < 2 ^ 31) :
    config.aliasParts.flatten.length < config.totalBytes := by
  obtain ⟨-, hless, -⟩ := @length_hosts config.user config.hosts hports
  have hparts := (length_aliasParts config).2
  have hshmSize : maxShmSize = 19 := rfl
  rw [totalBytes, countedHosts_of_few hfew]
  by_cases hshm : config.useShm = true
  · simp only [hshm, if_true] at hparts ⊢
    omega
  · have hpos : 0 < config.hosts.length :=
      List.length_pos_iff_ne_nil.mpr fun hnil => hshm (hsome hnil)
    simp only [hshm] at hparts ⊢
    simp only [Bool.false_eq_true, if_false] at hparts ⊢
    omega

/-- A sum that has left the range and is positive again is too small. -/
theorem wrapped_le_parts (hports : ∀ host ∈ config.hosts, host.port < 2 ^ 16)
    (hlower : config.totalBytes % 2 ^ 32 < 2 ^ 31)
    (hlarge : config.hosts.length < 2 ^ 31 → 2 ^ 31 ≤ config.totalBytes) :
    config.totalBytes % 2 ^ 32 ≤ config.aliasParts.flatten.length := by
  obtain ⟨hfour, -, hmore⟩ := @length_hosts config.user config.hosts hports
  have hparts := (length_aliasParts config).1
  have hparts' : (config.hosts.flatMap (hostParts config.user)).flatten.length ≤
      config.aliasParts.flatten.length := by omega
  by_cases hfew : config.hosts.length < 2 ^ 31
  · have htotal := hlarge hfew
    have hshmSize : maxShmSize = 19 := rfl
    have hsum : config.totalBytes ≤
        (config.hosts.map (hostBytes config.user)).sum + 19 := by
      rw [totalBytes, countedHosts_of_few hfew]
      split <;> omega
    omega
  · omega

/-- The hosts of a configuration of the constructor have 16-bit ports. -/
theorem Accepted.ports {engine : Engine} {lib : ClientLibrary}
    (haccepted : config.Accepted engine lib) (hinit : lib.configInit.hosts = []) :
    ∀ host ∈ config.hosts, host.port < 2 ^ 16 := by
  obtain ⟨ini, zConfig, zOptions, c, hconfigure, rfl⟩ := haccepted
  obtain ⟨zHosts, start, n, -, hadd, hfields⟩ := configure_fields hconfigure
  obtain ⟨ports, -, hports⟩ := addHosts_ports hadd
  have hhosts : c.config.hosts = start.hosts :=
    congrArg (fun fields => fields.1) hfields
  have hnone : (asConfigInit engine lib).hosts = [] := hinit
  rw [hnone, List.map_nil, List.nil_append] at hports
  intro host hmem
  rw [hhosts] at hmem
  have hport := List.mem_map_of_mem (f := AsHost.port) hmem
  rw [hports, List.mem_map] at hport
  obtain ⟨port, -, heq⟩ := hport
  rw [← heq, toUint16]
  omega

/-- Memory for every size that can be asked for. -/
def plainMalloc (size : ℕ) : Option (List Char) :=
  if size < 2 ^ 63 then some (List.replicate size '\x00') else none

theorem plainMalloc_mallocs : Mallocs plainMalloc := by
  intro size cells hcells
  unfold plainMalloc at hcells
  split at hcells
  · next hsmall =>
      obtain rfl := Option.some.inj hcells
      exact ⟨List.length_replicate, hsmall⟩
  · cases hcells

/-- A wrapped sum makes the alias run out of its bytes. -/
theorem aliasToSearch_outside {emptyList : Bool}
    (hports : ∀ host ∈ config.hosts, host.port < 2 ^ 16)
    (hlist : config.hosts = [] → emptyList = true)
    (hlower : config.totalBytes % 2 ^ 32 < 2 ^ 31)
    (hparts : config.totalBytes % 2 ^ 32 ≤ config.aliasParts.flatten.length) :
    config.aliasToSearch emptyList plainMalloc = none := by
  have hsize := aliasSize_lower hlower
  have hlist' : ¬ (config.hosts = [] ∧ emptyList = false) := by
    rintro ⟨hnil, hfalse⟩
    exact absurd (hfalse.symm.trans (hlist hnil)) (by decide)
  unfold aliasToSearch
  rw [if_neg hlist', hsize, plainMalloc, if_pos (by omega)]
  dsimp only
  rw [fillAlias_eq hports, if_neg (by rw [List.length_replicate]; omega)]
  rfl

/-- For a configuration of the constructor every access is inside if and only if
the sum fits. -/
theorem alias_inside_iff {engine : Engine} {lib : ClientLibrary}
    (haccepted : config.Accepted engine lib) (hinit : lib.configInit.hosts = [])
    (emptyList : Bool) :
    (∀ malloc, Mallocs malloc →
        ∃ result, config.aliasToSearch emptyList malloc = some result) ↔
      config.AliasFits emptyList := by
  have hports := haccepted.ports hinit
  constructor
  · intro hinside
    obtain ⟨result, hresult⟩ := hinside plainMalloc plainMalloc_mallocs
    by_cases hcrash : config.hosts = [] ∧ emptyList = false
    · refine ⟨fun _ hempty => absurd (hempty.symm.trans hcrash.2) (by decide), .inr ?_⟩
      rw [totalBytes_of_noHosts hcrash.1, hcrash.1]
      split <;> decide
    have hlist : config.hosts = [] → emptyList = true := by
      intro hnil
      cases emptyList with
      | false => exact absurd ⟨hnil, rfl⟩ hcrash
      | true => rfl
    by_cases hupper : 2 ^ 31 ≤ config.totalBytes % 2 ^ 32
    · refine ⟨fun hnil _ => ?_, .inl hupper⟩
      have htotal := totalBytes_of_noHosts hnil
      split at htotal <;> omega
    have houtside := @aliasToSearch_outside config emptyList hports hlist (by omega)
    have hroom : config.aliasParts.flatten.length < config.totalBytes % 2 ^ 32 := by
      by_contra hmore
      rw [houtside (by omega)] at hresult
      cases hresult
    constructor
    · intro hnil _
      have htotal := totalBytes_of_noHosts hnil
      by_contra hshm
      rw [if_neg hshm] at htotal
      omega
    · refine .inr ?_
      by_contra hlarge
      have hwrapped := wrapped_le_parts hports (by omega) fun hfew => by
        by_contra hless
        exact hlarge ⟨hfew, by omega⟩
      omega
  · rintro ⟨hsome, hfits⟩ malloc hmalloc
    unfold aliasToSearch
    by_cases hcrash : config.hosts = [] ∧ emptyList = false
    · exact ⟨_, if_pos hcrash⟩
    rw [if_neg hcrash]
    cases hcells : malloc (intToSize config.aliasSize) with
    | none => exact ⟨_, rfl⟩
    | some cells =>
        obtain ⟨hlength, hsmall⟩ := hmalloc _ _ hcells
        rcases hfits with hupper | ⟨hfew, htotal⟩
        · exact absurd (aliasSize_upper hupper) (by omega)
        · have hshm : config.hosts = [] → config.useShm = true := by
            intro hnil
            refine hsome hnil ?_
            cases emptyList with
            | false => exact absurd ⟨hnil, rfl⟩ hcrash
            | true => rfl
          have hparts := parts_lt_total hports hshm hfew
          have hsize := @aliasSize_lower config (by omega)
          dsimp only
          rw [fillAlias_eq hports, if_pos (by omega)]
          exact ⟨_, rfl⟩

/-- Two hosts with a user and shared memory. -/
def sharedHosts : HashTable :=
  hostsConfig ["10.0.0.1", "10.0.0.2"] ++
    [(.str "user", .string "admin"), (.str "pass", .string "secret"),
      (.str "shm", .array [(.str "shm_key", .long 0xA5000000)])]

theorem alias_inside_iff_sharedHosts :
    ∃ c, configure Engine.plain .plain .registered sharedHosts none = .ok c ∧
      (c.config.hosts.length = 2 ∧ c.config.user = "admin" ∧
        c.config.useShm = true) ∧
      ((∀ malloc, Mallocs malloc →
          ∃ result, c.config.aliasToSearch false malloc = some result) ↔
        c.config.AliasFits false) :=
  ⟨_, rfl, ⟨rfl, rfl, rfl⟩,
    @alias_inside_iff _ _ .plain (.of_configure .registered sharedHosts none rfl) rfl
      false⟩

/-- A host name of `n` bytes. -/
def longName (n : ℕ) : String := String.ofList (List.replicate n 'a')

theorem cString_longName (n : ℕ) : cString (longName n) = longName n := by
  rw [cString_eq_self_iff, NulFree, longName, String.toList_ofList]
  intro hmem
  have hsame := List.eq_of_mem_replicate hmem
  exact absurd hsame (by decide)

theorem strlen_longName (n : ℕ) : strlen (longName n) = n := by
  rw [strlen, cString_longName, longName, String.length_ofList, List.length_replicate]

theorem hostsConfig_accepted (name : String) :
    ∃ c, configure Engine.plain .plain .registered (hostsConfig [name]) none = .ok c ∧
      c.config.hosts = [⟨cString name, none, 3000⟩] ∧ c.config.user = "" ∧
      c.config.useShm = false :=
  ⟨_, rfl, rfl, rfl, rfl⟩

/-- A host name whose length is 0 as an `int` is not counted. -/
theorem longName_outside {n : ℕ} (hpos : 0 < n) (hmod : n % 2 ^ 32 = 0) :
    ∃ c, configure Engine.plain .plain .registered (hostsConfig [longName n]) none =
        .ok c ∧
      Mallocs plainMalloc ∧ c.config.aliasToSearch false plainMalloc = none := by
  obtain ⟨c, hconfigure, hhosts, huser, hshm⟩ := hostsConfig_accepted (longName n)
  rw [cString_longName] at hhosts
  have hfew : c.config.hosts.length < 2 ^ 31 := by
    rw [hhosts, List.length_singleton]
    decide
  have htotal : c.config.totalBytes = n + 9 := by
    rw [totalBytes, countedHosts_of_few hfew, hhosts, hshm, huser, List.map_singleton,
      List.sum_singleton, hostBytes, strlen_longName]
    rfl
  have hports : ∀ host ∈ c.config.hosts, host.port < 2 ^ 16 :=
    (Accepted.of_configure .registered _ none hconfigure).ports rfl
  have hlower : c.config.totalBytes % 2 ^ 32 < 2 ^ 31 := by omega
  have hwrapped := wrapped_le_parts hports hlower fun _ => by omega
  refine ⟨c, hconfigure, plainMalloc_mallocs, aliasToSearch_outside hports ?_ hlower hwrapped⟩
  intro hnil
  rw [hhosts] at hnil
  cases hnil

/-- Nine bytes are allocated for a host name of 2³² bytes. -/
theorem hugeName_outside :
    ∃ c, configure Engine.plain .plain .registered
        (hostsConfig [longName (2 ^ 32)]) none = .ok c ∧
      Mallocs plainMalloc ∧ c.config.aliasToSearch false plainMalloc = none :=
  longName_outside (by decide) (by decide)

end AsConfig

end AerospikePhp
