import AerospikePhp.BatchAnswers
import AerospikePhp.InfoMethods
import AerospikePhp.RecordBins
import AerospikePhp.SearchStrings
import Mathlib.Tactic

/-!
# The nodes of getNodes as a filter of infoMany

`getNodes` splits the address of each node into a host and a port, `infoMany`
puts the two together again and compares.  The port is a string on the one
side and has to be an integer on the other.
-/

namespace AerospikePhp

open Procedure Method Proc List AssociationList

/-! ## Addresses -/

/-- The address string of a node, which fits the buffer it is compared in. -/
structure NodeAddress (address : String) : Prop where
  joined : ∃ host port, port < 2 ^ 16 ∧ address = host ++ ":" ++ toString port
  short : address.length < asHostnameSize
  nulFree : NulFree address

theorem splitAddress_join {host port : String} (hport : ':' ∉ port.toList) :
    splitAddress (host ++ ":" ++ port) = some (host, port) := by
  have hreversed : (host ++ ":" ++ port).toList.reverse =
      port.toList.reverse ++ ':' :: host.toList.reverse := by simp
  have hall : ∀ c ∈ port.toList.reverse, decide (c ≠ ':') = true := by
    intro c hc
    rw [decide_eq_true_eq]
    rintro rfl
    exact hport (List.mem_reverse.mp hc)
  unfold splitAddress
  simp only [hreversed]
  rw [List.dropWhile_append_of_pos hall, List.takeWhile_append_of_pos hall]
  simp

theorem splitAddress_some {address : String} {pair : String × String}
    (hsplit : splitAddress address = some pair) :
    address = pair.1 ++ ":" ++ pair.2 := by
  unfold splitAddress at hsplit
  simp only at hsplit
  split at hsplit
  · cases hsplit
  · next c host hdrop =>
      obtain rfl := Option.some.inj hsplit
      have hc : c = ':' := by
        have hne : address.toList.reverse.dropWhile (fun c => decide (c ≠ ':')) ≠ [] := by
          rw [hdrop]
          simp
        have hhead := List.head_dropWhile_not (fun c => decide (c ≠ ':')) hne
        simp only [hdrop, List.head_cons] at hhead
        simpa using hhead
      have hwhole := List.takeWhile_append_dropWhile
        (p := fun c => decide (c ≠ ':')) (l := address.toList.reverse)
      rw [hdrop, hc] at hwhole
      have hreversed := congrArg List.reverse hwhole
      simp only [List.reverse_append, List.reverse_cons, List.reverse_reverse]
        at hreversed
      apply String.toList_injective
      calc address.toList
          = _ := hreversed.symm
        _ = _ := by simp

/-! ## What getNodes returns -/

/-- The entry of a node. -/
def nodeEntry (pair : String × String) : Zval :=
  .array [(.str "addr", .string pair.1), (.str "port", .string pair.2)]

/-- The entry of the address is among the values of the array. -/
def EntryIn (entries : List Zval) (address : String) : Prop :=
  ∃ pair, splitAddress address = some pair ∧ nodeEntry pair ∈ entries

theorem nodeEntry_injective : Function.Injective nodeEntry := by
  rintro ⟨addr, port⟩ ⟨addr', port'⟩ heq
  simpa [nodeEntry] using heq

theorem values_push (table : HashTable) (z : Zval) :
    HashTable.values (table.push z) = HashTable.values table ++ [z] := by
  simp [HashTable.values, HashTable.push]

theorem mem_nodesTable {addresses : List String} {table : HashTable} {z : Zval}
    (hmem : z ∈ HashTable.values (nodesTable addresses table)) :
    z ∈ HashTable.values table ∨ ∃ address ∈ addresses, ∃ pair,
      splitAddress address = some pair ∧ z = nodeEntry pair := by
  induction addresses generalizing table with
  | nil => exact .inl hmem
  | cons address addresses ih =>
      rw [nodesTable] at hmem
      cases hsplit : splitAddress address with
      | none =>
          rw [hsplit] at hmem
          exact .inl hmem
      | some pair =>
          rw [hsplit] at hmem
          rcases ih hmem with hbefore | ⟨address', hmem', hrest⟩
          · rw [values_push, List.mem_append, List.mem_singleton] at hbefore
            rcases hbefore with hold | hnew
            · exact .inl hold
            · exact .inr ⟨address, by simp, pair, hsplit, hnew⟩
          · exact .inr ⟨address', List.mem_cons_of_mem _ hmem', hrest⟩

/-! ## Entries as a filter -/

/-- The integer that a PHP program makes of a string of digits. -/
def intOfDigits (digits : String) : Int64 :=
  Int64.ofNat (Nat.ofDigitChars 10 digits.toList 0)

/-- An entry whose port was cast to an integer. -/
def withIntPort : Zval → Zval
  | .array [addr, (key, .string port)] =>
      .array [addr, (key, .long (intOfDigits port))]
  | z => z

/-- The array with the ports of its entries cast. -/
def withIntPorts (table : HashTable) : HashTable :=
  table.map fun entry => (entry.1, withIntPort entry.2)

theorem values_withIntPorts (table : HashTable) :
    HashTable.values (withIntPorts table) =
      (HashTable.values table).map withIntPort := by
  simp [HashTable.values, withIntPorts]

/-- An entry of this address, with its parts. -/
structure EntryOf (address : String) (z : Zval) : Prop where
  wellFormed : NodeAddress address
  entry : ∃ pair, splitAddress address = some pair ∧ z = nodeEntry pair

theorem hostPair_nodeEntry (pair : String × String) :
    hostPair (nodeEntry pair) = none := rfl

/-- Cast, the entry is a pair that stands for the address. -/
theorem EntryOf.hostPair {address : String} {z : Zval} (hentry : EntryOf address z) :
    ∃ host, hostPair (withIntPort z) = some host ∧ hostAddress host = address := by
  obtain ⟨⟨host, port, hport, rfl⟩, hshort, hfree⟩ := hentry.wellFormed
  obtain ⟨pair, hsplit, rfl⟩ := hentry.entry
  rw [splitAddress_join (Seeds.colon_notMem_toString port)] at hsplit
  obtain rfl := Option.some.inj hsplit
  refine ⟨(host, intOfDigits (toString port)), rfl, ?_⟩
  have hhost : cString host = host := by
    refine (cString_eq_self_iff host).mpr fun hmem => hfree ?_
    simp [hmem]
  have hint : (intOfDigits (toString port)).toInt = (port : ℤ) := by
    rw [intOfDigits, Seeds.toList_toString, Nat.ofDigitChars_ten_toDigits,
      Int64.toInt_ofNat_of_lt (by omega)]
  have htext : toString ((port : ℤ)) = toString port := rfl
  have htake : (host ++ ":" ++ toString port).toList.take (asHostnameSize - 1) =
      (host ++ ":" ++ toString port).toList := by
    apply List.take_of_length_le
    rw [String.length_toList]
    exact Nat.le_sub_one_of_lt hshort
  unfold hostAddress
  rw [hhost, hint, htext, htake, String.ofList_toList]

/-- Casting makes a filter of the entries that is true of their nodes. -/
theorem hostPairs_of_entries {entries : List Zval}
    (hentries : ∀ z ∈ entries, ∃ address, EntryOf address z) :
    ∃ hosts, (entries.map withIntPort).mapM hostPair = some hosts ∧
      ∀ address, NodeAddress address →
        (nodeInHostsList address hosts = true ↔ EntryIn entries address) := by
  induction entries with
  | nil => exact ⟨[], rfl, by simp [nodeInHostsList, EntryIn]⟩
  | cons z entries ih =>
      obtain ⟨hosts, hhosts, hfilter⟩ := ih fun z' hmem =>
        hentries z' (List.mem_cons_of_mem _ hmem)
      obtain ⟨address, hentry⟩ := hentries z (by simp)
      obtain ⟨host, hhost, haddress⟩ := hentry.hostPair
      refine ⟨host :: hosts, ?_, ?_⟩
      · rw [List.map_cons, List.mapM_cons, hhost, hhosts]
        rfl
      · intro address' haddress'
        have hrest := hfilter address' haddress'
        have hhead : address = address' ↔ ∃ pair,
            splitAddress address' = some pair ∧ nodeEntry pair = z := by
          obtain ⟨pair, hsplit, rfl⟩ := hentry.entry
          constructor
          · rintro rfl
            exact ⟨pair, hsplit, rfl⟩
          · rintro ⟨pair', hsplit', heq⟩
            obtain rfl := nodeEntry_injective heq
            rw [splitAddress_some hsplit, splitAddress_some hsplit']
        unfold nodeInHostsList EntryIn at hrest ⊢
        rw [List.any_cons, Bool.or_eq_true, hrest, decide_eq_true_eq, haddress, hhead]
        constructor
        · rintro (⟨pair, hsplit, hz⟩ | ⟨pair, hsplit, hmem⟩)
          · exact ⟨pair, hsplit, by simp [hz]⟩
          · exact ⟨pair, hsplit, List.mem_cons_of_mem _ hmem⟩
        · rintro ⟨pair, hsplit, hmem⟩
          rcases List.mem_cons.mp hmem with hz | hmem
          · exact .inl ⟨pair, hsplit, hz⟩
          · exact .inr ⟨pair, hsplit, hmem⟩

/-- As `getNodes` returns them, the entries are no filter. -/
theorem hostPairs_of_strings {entries : List Zval}
    (hentries : ∀ z ∈ entries, ∃ address, EntryOf address z) (hne : entries ≠ []) :
    entries.mapM hostPair = none := by
  obtain ⟨z, rest, rfl⟩ := List.exists_cons_of_ne_nil hne
  obtain ⟨address, hentry⟩ := hentries z (by simp)
  obtain ⟨pair, -, rfl⟩ := hentry.entry
  rw [List.mapM_cons, hostPair_nodeEntry]
  rfl

/-! ## The response -/

def nodeResponse (node : NodeAnswer) : ZKey × Zval :=
  (assocKey node.name,
    match node.response with
    | some response => .string response
    | none => .null)

/-- The responses of the nodes by their names. -/
def responses (nodes : List NodeAnswer) : HashTable :=
  setAll sameZKey [] (nodes.map nodeResponse)

theorem infoEach_eq (hosts : List (String × Int64)) (nodes : List NodeAnswer)
    (table : HashTable) :
    infoEach (some hosts) nodes table = setAll sameZKey table
      ((nodes.filter fun node => nodeInHostsList node.address hosts).map
        nodeResponse) := by
  induction nodes generalizing table with
  | nil => rfl
  | cons node nodes ih =>
      rw [infoEach]
      by_cases hnode : nodeInHostsList node.address hosts = true
      · rw [if_pos hnode, List.filter_cons, if_pos hnode, List.map_cons, setAll_cons,
          ← update_eq_set]
        exact ih _
      · rw [if_neg hnode, List.filter_cons, if_neg hnode]
        exact ih _

/-! ## The two calls -/

section

variable {engine : Engine} {client : Client} {oracle : Oracle}

theorem checkObjectAndConnection_ready (hready : client.Ready) :
    checkObjectAndConnection client = pure .ok := by
  obtain ⟨hhas, hvalid, hconnected⟩ := hready
  unfold checkObjectAndConnection
  rw [if_neg (by simp [hhas, hvalid]), if_neg (by simp [hconnected])]

theorem getNodes_table {policies : Policies} {clientError : AsError}
    {table : HashTable} (hready : client.Ready)
    (hreply : ((getNodes client oracle).call (.start policies clientError)).reply =
      some (.value (.array table))) :
    ∃ addresses, oracle.nodes = some addresses ∧ table = nodesTable addresses [] := by
  unfold getNodes requireConnection at hreply
  rw [checkObjectAndConnection_ready hready] at hreply
  cases hnodes : oracle.nodes with
  | none =>
      rw [hnodes] at hreply
      cases hreply
  | some addresses =>
      rw [hnodes] at hreply
      refine ⟨addresses, rfl, ?_⟩
      have hvalue := Option.some.inj hreply
      exact (Zval.array.inj (Reply.value.inj hvalue)).symm

/-- The arguments `$request` and `["hosts" => …]`. -/
def filteredBy (request : String) (hosts : HashTable) : Option InfoManyArgs :=
  some ⟨request, some [(.str "hosts", .array hosts)], none⟩

/-- The one request of `infoMany`. -/
def infoManyRequest (request : String) : Request :=
  .info none (.infoForeach (cString request))

theorem infoMany_refused (hready : client.Ready) (request : String)
    {hosts : HashTable} (s : CallState)
    (hhosts : (HashTable.values hosts).mapM hostPair = none) :
    (infoMany engine client oracle (filteredBy request hosts)).call s =
      ⟨some .null, { s with
        clientError := ⟨.errParam, "Invalid list of hosts.", false⟩ }⟩ := by
  have hpairs : hostPairs [(.str "hosts", .array hosts)] = none := hhosts
  have hfilter : requireHostsFilter (some [(.str "hosts", .array hosts)]) =
      (orFail none (failNull .errParam "Invalid list of hosts.") >>= fun pairs =>
        pure (some pairs)) := by
    rw [requireHostsFilter, hpairs]
  unfold infoMany filteredBy orFail
  simp only
  rw [checkObjectAndConnection_ready hready]
  simp only [pure_bind, hfilter]
  rfl

/-- What is left of `infoMany` once the list of hosts is accepted. -/
theorem infoMany_accepted (hready : client.Ready) (request : String)
    {hosts : HashTable} {pairs : List (String × Int64)}
    (hhosts : (HashTable.values hosts).mapM hostPair = some pairs) :
    infoMany engine client oracle (filteredBy request hosts) = (do
      resetClientError
      let answer ← issue oracle (infoManyRequest request)
      let s ← Proc.get
      runIf (s.err.code ≠ .ok) do
        reportErr
        Proc.exit (.ret .null)
      Proc.exit (.ret (.value (.array (infoEach (some pairs) answer.nodes []))))) := by
  have hpairs : hostPairs [(.str "hosts", .array hosts)] = some pairs := hhosts
  have hfilter : requireHostsFilter (some [(.str "hosts", .array hosts)]) =
      pure (some pairs) := by
    rw [requireHostsFilter, hpairs]
    rfl
  unfold infoMany filteredBy orFail
  simp only
  rw [checkObjectAndConnection_ready hready]
  simp only [pure_bind, hfilter]
  rfl

theorem infoMany_filtered (hready : client.Ready) (request : String)
    {hosts : HashTable} {pairs : List (String × Int64)} (s : CallState)
    (hhosts : (HashTable.values hosts).mapM hostPair = some pairs) :
    ((infoMany engine client oracle (filteredBy request hosts)).call s).state.requests =
        s.requests ++ [infoManyRequest request] ∧
      ((oracle.answer s.requests.length (infoManyRequest request)).err.code = .ok →
        ((infoMany engine client oracle (filteredBy request hosts)).call s).reply =
          some (.value (.array (infoEach (some pairs)
            (oracle.answer s.requests.length (infoManyRequest request)).nodes [])))) := by
  have hreset : resetClientError.run s = (.ok (), { s with clientError := .init }) :=
    rfl
  have hissue : ∀ s, (issue oracle (infoManyRequest request)).run s =
      (.ok (oracle.answer s.requests.length (infoManyRequest request)),
        { s with
          requests := s.requests ++ [infoManyRequest request]
          err := (oracle.answer s.requests.length (infoManyRequest request)).err }) :=
    fun _ => rfl
  rw [infoMany_accepted hready request hhosts]
  unfold Method.call
  rw [run_bind_ok hreset, run_bind_ok (hissue _), run_bind_ok (run_get _)]
  by_cases hcode :
      (oracle.answer s.requests.length (infoManyRequest request)).err.code = .ok
  · rw [runIf_neg (by simpa using hcode)]
    exact ⟨rfl, fun _ => rfl⟩
  · rw [runIf_pos hcode]
    exact ⟨rfl, fun hok => absurd hok hcode⟩

/-- With its ports cast to integers every selection from the array of `getNodes`
is a filter that lets exactly the selected nodes through.  As the array comes
from `getNodes` no selection with an entry is accepted. -/
theorem infoMany_selectsNodes {policies policies' : Policies}
    {clientError clientError' : AsError} {table selected : HashTable}
    (request : String) (hready : client.Ready)
    (hnodes : ((getNodes client oracle).call (.start policies' clientError')).reply =
      some (.value (.array table)))
    (haddresses : ∀ addresses, oracle.nodes = some addresses →
      ∀ address ∈ addresses, NodeAddress address)
    (hcluster : ∀ node ∈ (oracle.answer 0 (infoManyRequest request)).nodes,
      NodeAddress node.address)
    (hselected : ∀ z ∈ HashTable.values selected, z ∈ HashTable.values table) :
    let answer := oracle.answer 0 (infoManyRequest request)
    let outcome := fun hosts => (infoMany engine client oracle
      (filteredBy request hosts)).call (.start policies clientError)
    ((outcome (withIntPorts selected)).state.requests = [infoManyRequest request] ∧
      (answer.err.code = .ok → ∃ p : NodeAnswer → Bool,
        (∀ node ∈ answer.nodes, p node = true ↔
          EntryIn (HashTable.values selected) node.address) ∧
        (outcome (withIntPorts selected)).reply =
          some (.value (.array (responses (answer.nodes.filter p)))))) ∧
    (HashTable.values selected ≠ [] → outcome selected = ⟨some .null,
      .start policies ⟨.errParam, "Invalid list of hosts.", false⟩⟩) := by
  intro answer outcome
  obtain ⟨addresses, horacle, rfl⟩ := getNodes_table hready hnodes
  have hentries : ∀ z ∈ HashTable.values selected, ∃ address, EntryOf address z := by
    intro z hmem
    rcases mem_nodesTable (hselected z hmem) with
      hempty | ⟨address, hmem', pair, hsplit, rfl⟩
    · cases hempty
    · exact ⟨address, haddresses addresses horacle address hmem', pair, hsplit, rfl⟩
  constructor
  · obtain ⟨hosts, hhosts, hfilter⟩ := hostPairs_of_entries hentries
    rw [← values_withIntPorts] at hhosts
    obtain ⟨hrequests, hreply⟩ := @infoMany_filtered engine client oracle hready
      request _ _ (.start policies clientError) hhosts
    refine ⟨hrequests, fun hok => ⟨fun node => nodeInHostsList node.address hosts,
      fun node hmem => hfilter node.address (hcluster node hmem), ?_⟩⟩
    rw [responses, ← infoEach_eq]
    exact hreply hok
  · intro hne
    exact infoMany_refused hready request _ (hostPairs_of_strings hentries hne)

end

/-- Two nodes, one of them with an IPv6 address. -/
def Oracle.twoNodes : Oracle :=
  { Oracle.accepting with
    nodes := some ["[::1]:3000", "10.0.0.2:3100"]
    answer := fun _ _ => { err := .init, nodes := [⟨"BB9", "[::1]:3000", some "build"⟩,
      ⟨"AE7", "10.0.0.2:3100", some "build"⟩] } }

theorem nodeAddress_twoNodes {address : String}
    (hmem : address ∈ ["[::1]:3000", "10.0.0.2:3100"]) : NodeAddress address := by
  rcases List.mem_cons.mp hmem with rfl | hmem
  · exact ⟨⟨"[::1]", 3000, by decide, by decide⟩, by decide, by decide⟩
  · obtain rfl := List.mem_singleton.mp hmem
    exact ⟨⟨"10.0.0.2", 3100, by decide, by decide⟩, by decide, by decide⟩

theorem infoMany_selectsNodes_twoNodes :
    ((infoMany Engine.plain Client.connected Oracle.twoNodes (filteredBy "build"
        (withIntPorts [(.idx 0, nodeEntry ("[::1]", "3000"))]))).call
          (.start default .init)).state.requests = [infoManyRequest "build"] := by
  have hnodes : ((getNodes Client.connected Oracle.twoNodes).call
      (.start default .init)).reply = some (.value (.array
        [(.idx 0, nodeEntry ("[::1]", "3000")),
          (.idx 1, nodeEntry ("10.0.0.2", "3100"))])) := rfl
  have haddresses : ∀ addresses, Oracle.twoNodes.nodes = some addresses →
      ∀ address ∈ addresses, NodeAddress address := by
    rintro _ ⟨⟩ address hmem
    exact nodeAddress_twoNodes hmem
  have hcluster : ∀ node ∈ (Oracle.twoNodes.answer 0
      (infoManyRequest "build")).nodes, NodeAddress node.address := by
    intro node hmem
    exact nodeAddress_twoNodes (List.mem_map_of_mem (f := NodeAnswer.address) hmem)
  have hselected : ∀ z ∈ HashTable.values [(.idx 0, nodeEntry ("[::1]", "3000"))],
      z ∈ HashTable.values [(.idx 0, nodeEntry ("[::1]", "3000")),
        (.idx 1, nodeEntry ("10.0.0.2", "3100"))] := by
    intro z hmem
    exact List.mem_cons.mpr (.inl (List.mem_singleton.mp hmem))
  exact (infoMany_selectsNodes "build" ⟨rfl, rfl, rfl⟩ hnodes haddresses hcluster
    hselected).1.1

/-- The one entry that `getNodes` returns is refused. -/
theorem ownNodes_refused :
    let oracle := { Oracle.accepting with nodes := some ["127.0.0.1:3000"] }
    let nodes := [(.idx 0, nodeEntry ("127.0.0.1", "3000"))]
    ((getNodes Client.connected oracle).call (.start default .init)).reply =
        some (.value (.array nodes)) ∧
      ((infoMany Engine.plain Client.connected oracle
        (filteredBy "build" nodes)).call (.start default .init)).reply =
          some .null := ⟨rfl, rfl⟩

end AerospikePhp
