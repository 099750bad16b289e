import AerospikePhp.Connections
import AerospikePhp.ConfigFields
import AerospikePhp.Library.Delimiters
import Mathlib.Logic.Relation
import Mathlib.Tactic

/-!
# Search strings of different configurations

The search string of a persistent client joins host names, ports and the user
name by colons and semicolons, which the names may hold themselves.  The shared
memory key behind them is in hexadecimal digits and can always be told apart.
-/

namespace AerospikePhp

open Delimiters

/-! ## Hosts and user -/

/-- The fields that are written for every host. -/
structure Seeds where
  hosts : List (String × ℕ)
  user : String

namespace Seeds

def entry (user : String) (host : String × ℕ) : String :=
  host.1 ++ ":" ++ toString host.2 ++ ":" ++ user ++ ";"

def text (seeds : Seeds) : String :=
  String.join (seeds.hosts.map (entry seeds.user))

/-- Two ways to move a separator into a name, which leave the text as it is: the
name of a host takes in the whole host before it; the name of a single host
takes in the port and the beginning of the user name. -/
inductive Regroup : Seeds → Seeds → Prop
  | hostBefore (before after : List (String × ℕ)) (host host' : String × ℕ)
      (user : String) :
      Regroup ⟨before ++ host :: host' :: after, user⟩
        ⟨before ++ (entry user host ++ host'.1, host'.2) :: after, user⟩
  | port (name user : String) (port port' : ℕ) :
      Regroup ⟨[(name, port)], toString port' ++ ":" ++ user⟩
        ⟨[(name ++ ":" ++ toString port, port')], user⟩
  | userStart (name start user : String) (port port' : ℕ) :
      Regroup ⟨[(name, port)], start ++ ":" ++ toString port' ++ ":" ++ user⟩
        ⟨[(name ++ ":" ++ toString port ++ ":" ++ start, port')], user⟩

/-- The fields of one come from those of the other by regrouping. -/
def Regrouped : Seeds → Seeds → Prop := Relation.EqvGen Regroup

theorem Regroup.text_eq {seeds seeds' : Seeds} (hregroup : Regroup seeds seeds') :
    seeds.text = seeds'.text := by
  cases hregroup with
  | hostBefore before after host host' user =>
      simp [text, entry, String.append_assoc]
  | port name user port port' => simp [text, entry, String.append_assoc]
  | userStart name start user port port' =>
      simp [text, entry, String.append_assoc]

theorem Regrouped.text_eq {seeds seeds' : Seeds}
    (hregrouped : Regrouped seeds seeds') : seeds.text = seeds'.text := by
  induction hregrouped with
  | rel _ _ hregroup => exact hregroup.text_eq
  | refl _ => rfl
  | symm _ _ _ ih => exact ih.symm
  | trans _ _ _ _ _ ih ih' => exact ih.trans ih'

/-- The last host can take in all the others. -/
theorem regrouped_single (host : String × ℕ) (hosts : List (String × ℕ))
    (user : String) :
    ∃ single, Regrouped ⟨host :: hosts, user⟩ ⟨[single], user⟩ := by
  induction hosts generalizing host with
  | nil => exact ⟨host, .refl _⟩
  | cons host' hosts ih =>
      obtain ⟨single, hsingle⟩ := ih (entry user host ++ host'.1, host'.2)
      exact ⟨single, .trans _ _ _ (.rel _ _ (.hostBefore [] hosts host host' user))
        hsingle⟩

theorem toList_toString (n : ℕ) : (toString n).toList = Nat.toDigits 10 n := by
  simp

theorem port_of_digits {port port' : ℕ}
    (hport : (toString port).toList = (toString port').toList) : port = port' := by
  rw [toList_toString, toList_toString] at hport
  exact toDigits_injective (by decide) (by decide) hport

theorem colon_notMem_toString (n : ℕ) : ':' ∉ (toString n).toList := by
  rw [toList_toString]
  intro hmem
  have hdigit := Nat.isDigit_of_mem_toDigits (by decide) (by decide) hmem
  exact absurd hdigit (by decide)

theorem regrouped_of_takesIn {name name' user user' : String} {port port' : ℕ}
    (htakes : TakesIn ':' name.toList (toString port).toList user.toList
      name'.toList (toString port').toList user'.toList) :
    Regrouped ⟨[(name, port)], user⟩ ⟨[(name', port')], user'⟩ := by
  rcases htakes with ⟨hname, huser⟩ | ⟨start, hname, huser⟩
  · have hname' : name' = name ++ ":" ++ toString port := by
      apply String.toList_injective
      simp [hname]
    have huser' : user = toString port' ++ ":" ++ user' := by
      apply String.toList_injective
      simp [huser]
    rw [hname', huser']
    exact .rel _ _ (.port name user' port port')
  · have hname' : name' =
        name ++ ":" ++ toString port ++ ":" ++ String.ofList start := by
      apply String.toList_injective
      simp [hname]
    have huser' : user =
        String.ofList start ++ ":" ++ toString port' ++ ":" ++ user' := by
      apply String.toList_injective
      simp [huser]
    rw [hname', huser']
    exact .rel _ _ (.userStart name _ user' port port')

theorem single_regrouped {host host' : String × ℕ} {user user' : String}
    (htext : text ⟨[host], user⟩ = text ⟨[host'], user'⟩) :
    Regrouped ⟨[host], user⟩ ⟨[host'], user'⟩ := by
  obtain ⟨name, port⟩ := host
  obtain ⟨name', port'⟩ := host'
  have hjoined : name.toList ++ ':' :: ((toString port).toList ++ ':' :: user.toList) =
      name'.toList ++ ':' :: ((toString port').toList ++ ':' :: user'.toList) := by
    have hlist := congrArg String.toList htext
    refine List.append_cancel_right (?_ : _ ++ [';'] = _ ++ [';'])
    simpa [text, entry] using hlist
  rcases (join_eq_iff (colon_notMem_toString port)
    (colon_notMem_toString port')).mp hjoined with
    ⟨hname, hport, huser⟩ | htakes | htakes
  · obtain rfl := String.toList_injective hname
    obtain rfl := port_of_digits hport
    obtain rfl := String.toList_injective huser
    exact .refl _
  · exact regrouped_of_takesIn htakes
  · exact .symm _ _ (regrouped_of_takesIn htakes)

/-- Two lists of hosts with their users have one text exactly when they are the
same up to regrouping. -/
theorem text_eq_iff_regrouped {seeds seeds' : Seeds} (hhosts : seeds.hosts ≠ [])
    (hhosts' : seeds'.hosts ≠ []) :
    seeds.text = seeds'.text ↔ Regrouped seeds seeds' := by
  constructor
  · intro htext
    obtain ⟨_ | ⟨host, hosts⟩, user⟩ := seeds
    · exact absurd rfl hhosts
    obtain ⟨_ | ⟨host', hosts'⟩, user'⟩ := seeds'
    · exact absurd rfl hhosts'
    obtain ⟨single, hsingle⟩ := regrouped_single host hosts user
    obtain ⟨single', hsingle'⟩ := regrouped_single host' hosts' user'
    have hsame : text ⟨[single], user⟩ = text ⟨[single'], user'⟩ :=
      hsingle.text_eq.symm.trans (htext.trans hsingle'.text_eq)
    exact .trans _ _ _ hsingle
      (.trans _ _ _ (single_regrouped hsame) (.symm _ _ hsingle'))
  · exact Regrouped.text_eq

/-- Names that hold no separator where it could be taken for one. -/
structure Plain (seeds : Seeds) : Prop where
  names : ∀ host ∈ seeds.hosts, ':' ∉ host.1.toList
  user : ';' ∉ seeds.user.toList

theorem Plain.tail {host : String × ℕ} {hosts : List (String × ℕ)}
    {user : String} (hplain : Plain ⟨host :: hosts, user⟩) : Plain ⟨hosts, user⟩ where
  names := fun host hmem => hplain.names host (List.mem_cons_of_mem _ hmem)
  user := hplain.user

theorem toList_text_cons (host : String × ℕ) (hosts : List (String × ℕ))
    (user : String) :
    (text ⟨host :: hosts, user⟩).toList =
      host.1.toList ++ ':' :: ((toString host.2).toList ++ ':' ::
        (user.toList ++ ';' :: (text ⟨hosts, user⟩).toList)) := by
  simp [text, entry, String.toList_join]

theorem hosts_eq_of_text_eq {hosts hosts' : List (String × ℕ)} {user : String}
    (hplain : Plain ⟨hosts, user⟩) (hplain' : Plain ⟨hosts', user⟩)
    (htext : text ⟨hosts, user⟩ = text ⟨hosts', user⟩) : hosts = hosts' := by
  induction hosts generalizing hosts' with
  | nil =>
      cases hosts' with
      | nil => rfl
      | cons host' hosts' =>
          have hlist := congrArg String.toList htext
          rw [toList_text_cons] at hlist
          simp [text] at hlist
  | cons host hosts ih =>
      cases hosts' with
      | nil =>
          have hlist := congrArg String.toList htext
          rw [toList_text_cons] at hlist
          simp [text] at hlist
      | cons host' hosts' =>
          have hlist := congrArg String.toList htext
          rw [toList_text_cons, toList_text_cons] at hlist
          obtain ⟨hname, hlist⟩ := (append_cons_inj_of_notMem_left
            (hplain.names host (by simp))
            (hplain'.names host' (by simp))).mp hlist
          obtain ⟨hport, hlist⟩ := (append_cons_inj_of_notMem_left
            (colon_notMem_toString _) (colon_notMem_toString _)).mp hlist
          have hrest : text ⟨hosts, user⟩ = text ⟨hosts', user⟩ := by
            apply String.toList_injective
            simpa using hlist
          have hhosts := ih hplain.tail hplain'.tail hrest
          obtain ⟨name, port⟩ := host
          obtain ⟨name', port'⟩ := host'
          obtain rfl := String.toList_injective hname
          obtain rfl := port_of_digits hport
          rw [hhosts]

/-- Without separators in the names there is nothing to regroup. -/
theorem eq_of_regrouped {seeds seeds' : Seeds} (hplain : seeds.Plain)
    (hplain' : seeds'.Plain) (hhosts : seeds.hosts ≠ [])
    (hhosts' : seeds'.hosts ≠ []) (hregrouped : seeds.Regrouped seeds') :
    seeds = seeds' := by
  obtain ⟨_ | ⟨host, hosts⟩, user⟩ := seeds
  · exact absurd rfl hhosts
  obtain ⟨_ | ⟨host', hosts'⟩, user'⟩ := seeds'
  · exact absurd rfl hhosts'
  have htext := hregrouped.text_eq
  have hlist := congrArg String.toList htext
  rw [toList_text_cons, toList_text_cons] at hlist
  obtain ⟨-, hlist⟩ := (append_cons_inj_of_notMem_left
    (hplain.names host (by simp)) (hplain'.names host' (by simp))).mp hlist
  obtain ⟨-, hlist⟩ := (append_cons_inj_of_notMem_left
    (colon_notMem_toString _) (colon_notMem_toString _)).mp hlist
  obtain ⟨huser, -⟩ :=
    (append_cons_inj_of_notMem_left hplain.user hplain'.user).mp hlist
  obtain rfl := String.toList_injective huser
  rw [hosts_eq_of_text_eq hplain hplain' htext]

theorem toList_text_of_hosts {seeds : Seeds} (hhosts : seeds.hosts ≠ []) :
    ∃ before, seeds.text.toList = before ++ [';'] := by
  obtain ⟨hosts, user⟩ := seeds
  obtain ⟨front, last, hlast⟩ := List.eq_nil_or_concat hosts |>.resolve_left hhosts
  refine ⟨(String.join (front.map (entry user))).toList ++
    (last.1 ++ ":" ++ toString last.2 ++ ":" ++ user).toList, ?_⟩
  subst hlast
  simp [text, entry, String.toList_join]

end Seeds

/-! ## The shared memory key -/

theorem hexDigits_injective : Function.Injective (Nat.toDigits 16) :=
  toDigits_injective (by decide) (by decide)

/-- Two shared memory keys are 32-bit integers, and so are their digits. -/
theorem hexString_toInt32_inj {n m : Int64} :
    hexString (toInt32 n) = hexString (toInt32 m) ↔ toInt32 n = toInt32 m := by
  constructor
  · intro hhex
    have hlist := congrArg String.toList hhex
    simp only [hexString, String.toList_ofList] at hlist
    have hvalue := hexDigits_injective hlist
    unfold toInt32 at hvalue ⊢
    omega
  · intro hkey
    rw [hkey]

theorem semicolon_notMem_hexString (n : ℤ) : ';' ∉ (hexString n).toList := by
  rw [hexString, String.toList_ofList]
  intro hmem
  obtain ⟨digit, hlt, hdigit⟩ := mem_toDigits (by decide) hmem
  exact absurd hdigit.symm ((by decide : ∀ digit < 16, Nat.digitChar digit ≠ ';')
    digit hlt)

theorem hexString_ne_empty (n : ℤ) : hexString n ≠ "" := by
  intro hempty
  have hlist := congrArg String.toList hempty
  rw [hexString, String.toList_ofList] at hlist
  exact Nat.toDigits_ne_nil hlist

/-! ## Whole configurations -/

namespace AsConfig

def seeds (config : AsConfig) : Seeds :=
  ⟨config.hosts.map fun host => (host.name, host.port), config.user⟩

def shmText (config : AsConfig) : String :=
  if config.useShm then hexString config.shmKey else ""

def SameShm (config config' : AsConfig) : Prop :=
  config.useShm = config'.useShm ∧
    (config.useShm → config.shmKey = config'.shmKey)

theorem seeds_hosts_ne_nil {config : AsConfig} (hhosts : config.hosts ≠ []) :
    config.seeds.hosts ≠ [] := by
  simpa [seeds] using hhosts

theorem persistentSearchString_eq (config : AsConfig) :
    persistentSearchString config = config.seeds.text ++ config.shmText := by
  simp only [persistentSearchString, Seeds.text, seeds, shmText, List.map_map]
  rfl

theorem semicolon_notMem_shmText (config : AsConfig) :
    ';' ∉ config.shmText.toList := by
  unfold shmText
  split
  · exact semicolon_notMem_hexString _
  · simp

theorem shmText_eq_iff {config config' : AsConfig} {n n' : Int64}
    (hkey : config.shmKey = toInt32 n) (hkey' : config'.shmKey = toInt32 n') :
    config.shmText = config'.shmText ↔ config.SameShm config' := by
  unfold shmText SameShm
  cases config.useShm <;> cases config'.useShm
  · simp
  · simpa using (hexString_ne_empty _).symm
  · simpa using hexString_ne_empty _
  · simp [hkey, hkey', hexString_toInt32_inj]

/-- The text of the hosts ends where the last semicolon stands. -/
theorem persistentSearchString_eq_iff {config config' : AsConfig}
    {n n' : Int64} (hkey : config.shmKey = toInt32 n)
    (hkey' : config'.shmKey = toInt32 n') (hhosts : config.hosts ≠ [])
    (hhosts' : config'.hosts ≠ []) :
    persistentSearchString config = persistentSearchString config' ↔
      config.SameShm config' ∧ config.seeds.Regrouped config'.seeds := by
  obtain ⟨before, hbefore⟩ :=
    Seeds.toList_text_of_hosts (seeds_hosts_ne_nil hhosts)
  obtain ⟨before', hbefore'⟩ :=
    Seeds.toList_text_of_hosts (seeds_hosts_ne_nil hhosts')
  have hsplit : persistentSearchString config = persistentSearchString config' ↔
      config.seeds.text = config'.seeds.text ∧
        config.shmText = config'.shmText := by
    constructor
    · intro heq
      have hlist := congrArg String.toList heq
      rw [persistentSearchString_eq, persistentSearchString_eq] at hlist
      simp only [String.toList_append, hbefore, hbefore', List.append_assoc,
        List.singleton_append] at hlist
      obtain ⟨htext, hshm⟩ := (append_cons_inj_of_notMem_right
        (semicolon_notMem_shmText config)
        (semicolon_notMem_shmText config')).mp hlist
      refine ⟨String.toList_injective ?_, String.toList_injective hshm⟩
      rw [hbefore, hbefore', htext]
    · rintro ⟨htext, hshm⟩
      rw [persistentSearchString_eq, persistentSearchString_eq, htext, hshm]
  rw [hsplit, shmText_eq_iff hkey hkey',
    Seeds.text_eq_iff_regrouped (seeds_hosts_ne_nil hhosts)
      (seeds_hosts_ne_nil hhosts')]
  exact And.comm

/-- `get_persistent_search_string`, which reads the list of the hosts: without a
host there is none. -/
def getPersistentSearchString (config : AsConfig) : Option String :=
  if config.hosts = [] then none else some (persistentSearchString config)

/-- The hosts, the user or the shared memory are different. -/
def Differs (config config' : AsConfig) : Prop :=
  config.seeds ≠ config'.seeds ∨ ¬config.SameShm config'

/-- Different configurations get different search strings. -/
def StayApart (config config' : AsConfig) : Prop :=
  config.Differs config' →
    ∃ hostKey hostKey', config.getPersistentSearchString = some hostKey ∧
      config'.getPersistentSearchString = some hostKey' ∧ hostKey ≠ hostKey'

/-- The constructor comes to the configuration. -/
def Accepted (engine : Engine) (lib : ClientLibrary) (config : AsConfig) :
    Prop :=
  ∃ ini zConfig zOptions c,
    configure engine lib ini zConfig zOptions = .ok c ∧ c.config = config

theorem Accepted.of_configure {engine : Engine} {lib : ClientLibrary}
    (ini : Ini) (zConfig : HashTable) (zOptions : Option HashTable)
    {c : Configured}
    (hconfigure : configure engine lib ini zConfig zOptions = .ok c) :
    c.config.Accepted engine lib :=
  ⟨ini, zConfig, zOptions, c, hconfigure, rfl⟩

theorem Accepted.shmKey {engine : Engine} {lib : ClientLibrary}
    {config : AsConfig} (haccepted : config.Accepted engine lib) :
    ∃ n, config.shmKey = toInt32 n := by
  obtain ⟨ini, zConfig, zOptions, c, hconfigure, rfl⟩ := haccepted
  obtain ⟨zHosts, start, n, -, -, hfields⟩ := configure_fields hconfigure
  exact ⟨n, congrArg (fun fields => fields.2.2) hfields⟩

/-- Two configurations stay apart exactly when they are the same, or both have a
host and they differ in more than the grouping of the host and user names. -/
theorem stayApart_iff {engine : Engine} {lib : ClientLibrary}
    {config config' : AsConfig} (haccepted : config.Accepted engine lib)
    (haccepted' : config'.Accepted engine lib) :
    config.StayApart config' ↔
      (config.Differs config' →
        config.hosts ≠ [] ∧ config'.hosts ≠ [] ∧
          ¬(config.SameShm config' ∧ config.seeds.Regrouped config'.seeds)) := by
  obtain ⟨n, hkey⟩ := haccepted.shmKey
  obtain ⟨n', hkey'⟩ := haccepted'.shmKey
  refine forall_congr' fun _ => ?_
  constructor
  · rintro ⟨hostKey, hostKey', hfound, hfound', hne⟩
    unfold getPersistentSearchString at hfound hfound'
    split at hfound
    · cases hfound
    · next hhosts =>
        split at hfound'
        · cases hfound'
        · next hhosts' =>
            refine ⟨hhosts, hhosts', ?_⟩
            rw [← persistentSearchString_eq_iff hkey hkey' hhosts hhosts',
              Option.some.inj hfound, Option.some.inj hfound']
            exact hne
  · rintro ⟨hhosts, hhosts', hne⟩
    rw [← persistentSearchString_eq_iff hkey hkey' hhosts hhosts'] at hne
    exact ⟨_, _, if_neg hhosts, if_neg hhosts', hne⟩

/-- Configurations whose names hold no separators stay apart. -/
theorem stayApart_of_plain {engine : Engine} {lib : ClientLibrary}
    {config config' : AsConfig} (haccepted : config.Accepted engine lib)
    (haccepted' : config'.Accepted engine lib) (hhosts : config.hosts ≠ [])
    (hhosts' : config'.hosts ≠ []) (hplain : config.seeds.Plain)
    (hplain' : config'.seeds.Plain) : config.StayApart config' := by
  obtain ⟨n, hkey⟩ := haccepted.shmKey
  obtain ⟨n', hkey'⟩ := haccepted'.shmKey
  intro hdiffers
  refine ⟨_, _, if_neg hhosts, if_neg hhosts', fun heq => ?_⟩
  obtain ⟨hshm, hregrouped⟩ :=
    (persistentSearchString_eq_iff hkey hkey' hhosts hhosts').mp heq
  have hseeds := Seeds.eq_of_regrouped hplain hplain'
    (seeds_hosts_ne_nil hhosts) (seeds_hosts_ne_nil hhosts') hregrouped
  exact hdiffers.elim (fun hne => hne hseeds) fun hne => hne hshm

/-- The config array with these hosts, all on one port. -/
def hostsConfig (names : List String) : HashTable :=
  [(.str "hosts", .array (HashTable.ofValues (names.map fun name => .array
    [(.str "addr", .string name), (.str "port", .long 3000)])))]

theorem stayApart_iff_twoHosts :
    ∃ c c',
      configure Engine.plain .plain .registered
          (hostsConfig ["10.0.0.1", "10.0.0.2"]) none = .ok c ∧
        configure Engine.plain .plain .registered
          (hostsConfig ["10.0.0.1"]) none = .ok c' ∧
        (c.config.StayApart c'.config ↔
          (c.config.Differs c'.config →
            c.config.hosts ≠ [] ∧ c'.config.hosts ≠ [] ∧
              ¬(c.config.SameShm c'.config ∧
                c.config.seeds.Regrouped c'.config.seeds))) :=
  ⟨_, _, rfl, rfl, stayApart_iff (.of_configure .registered
      (hostsConfig ["10.0.0.1", "10.0.0.2"]) none rfl)
    (.of_configure .registered (hostsConfig ["10.0.0.1"]) none rfl)⟩

/-- A host name that spells two hosts. -/
theorem regroupedHosts_not_apart :
    ∃ c c',
      configure Engine.plain .plain .registered
          (hostsConfig ["10.0.0.1", "10.0.0.2"]) none = .ok c ∧
        configure Engine.plain .plain .registered
          (hostsConfig ["10.0.0.1:3000:;10.0.0.2"]) none = .ok c' ∧
        ¬c.config.StayApart c'.config := by
  refine ⟨_, _, rfl, rfl, fun hapart => ?_⟩
  have hlengths : (2 : ℕ) ≠ 1 := by decide
  obtain ⟨hostKey, hostKey', hfound, hfound', hne⟩ :=
    hapart (.inl fun hseeds => hlengths (congrArg (·.hosts.length) hseeds))
  have hsame : some hostKey = some hostKey' := hfound.symm.trans hfound'
  exact hne (Option.some.inj hsame)

end AsConfig

end AerospikePhp
