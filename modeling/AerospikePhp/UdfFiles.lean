import AerospikePhp.Library.Transfers
import AerospikePhp.Privileges
import AerospikePhp.UdfPaths
import Mathlib.Tactic

/-!
# Copying a UDF file

`register` reads the file that is to be registered into a buffer, and writes a
local copy of it as it reads.  Either side may transfer less than it was asked
for, and closing the copy may lose what was only buffered.
-/

namespace AerospikePhp

open Buffers Procedure Proc Method Transfers

/-! ## The copy -/

/-- `LUA_FILE_BUFFER_FRAME`. -/
def luaFileBufferFrame : ℕ := 512

/-- `SCRIPT_LEN_MAX`. -/
def scriptLenMax : ℕ := 1048576

/-- What the two files let every `fread` and every `fwrite` transfer, and how
many of the bytes that `fwrite` took are in the copy when it is closed. -/
structure UdfStreams where
  reads : ℕ → ℕ
  writes : ℕ → ℕ
  flushed : ℕ

/-- The buffer, the number of bytes in it and what was written to the copy. -/
structure Copied where
  size : ℕ
  bytes : List UInt8
  copy : List UInt8

section

variable (streams : UdfStreams) (file : List UInt8)

/-- The bytes that a call of `fread` gives. -/
def fread (call position : ℕ) : List UInt8 :=
  piece luaFileBufferFrame file position (streams.reads call)

/-- The bytes that a call of `fwrite` takes. -/
def fwrite (call : ℕ) (buff : List UInt8) : List UInt8 :=
  buff.take (streams.writes call)

/-- What `fclose` leaves in the copy.  Its result is not looked at. -/
def fclose (copy : List UInt8) : List UInt8 := copy.take streams.flushed

/-- The loop of `register`, from its `call`-th transfer on, after `read` bytes
behind the first `size` ones.  There is no result when it writes outside the
buffer. -/
def copyLoop (call size read : ℕ) (bytes copy : List UInt8) : Option Copied :=
  if read = 0 then some ⟨size, bytes, copy⟩
  else
    let buff := fread streams file call (size + read)
    match write bytes ((size + read : ℕ) : ℤ) buff with
    | none => none
    | some bytes =>
        let written := fwrite streams call buff
        if written = [] then some ⟨size + read, bytes, copy⟩
        else copyLoop (call + 1) (size + read) buff.length bytes (copy ++ written)
  termination_by file.length - size
  decreasing_by
    have hmore : buff ≠ [] := by
      rintro hnil
      exact ‹¬ written = []› (by rw [show written = buff.take _ from rfl, hnil]; simp)
    have hlength : 0 < buff.length := List.length_pos_of_ne_nil hmore
    rw [show buff = piece luaFileBufferFrame file (size + read) _ from rfl,
      length_piece] at hlength
    omega

/-- The copy, or the failure of its first transfer. -/
def copyUdfFile (bytes : List UInt8) : Option (Except UdfFile Copied) := do
  let buff := fread streams file 0 0
  let bytes ← write bytes 0 buff
  let written := fwrite streams 0 buff
  if buff ≠ [] ∧ written ≠ [] then do
    let copied ← copyLoop streams file 1 0 buff.length bytes written
    some (.ok copied)
  else some (.error (.failed .errClient "Unable to write to user path"))

end

/-! ## What `register` does with the file -/

/-- What a call of `register` finds. -/
structure UdfEnvironment where
  /-- The file that the path names, when it can be opened. -/
  readFile : Option (List UInt8)
  /-- `aerospike.udf.lua_user_path`. -/
  userBasePath : Option String
  /-- The destination can be opened. -/
  opens : List Char → Bool
  /-- The buffer that `malloc` returns. -/
  bytes : Option (List UInt8)
  streams : UdfStreams

/-- The buffer has its size. -/
def UdfEnvironment.Fresh (env : UdfEnvironment) : Prop :=
  ∀ bytes, env.bytes = some bytes → bytes.length = scriptLenMax

/-- The file as `register` has it, and the local copy. -/
structure UdfFound where
  file : UdfFile
  copy : Option (List UInt8)

/-- The copy, once the destination is open, and until it is closed again. -/
def copyFound (streams : UdfStreams) (file : List UInt8) (bytes : Option (List UInt8)) :
    Option UdfFound :=
  match bytes with
  | none => some ⟨.failed .errClient "Failed to allocate buffer for UDF file", some []⟩
  | some bytes => do
      let copied ← copyUdfFile streams file bytes
      match copied with
      | .error failure => some ⟨failure, some []⟩
      | .ok copied =>
          some ⟨.copied (copied.bytes.take copied.size),
            some (fclose streams copied.copy)⟩

/-- `register` up to its requests. -/
def findUdfFile (env : UdfEnvironment) (filePath : String) : Option UdfFound :=
  match env.readFile with
  | none => some ⟨.failed .errUdfNotFound "Unable to open UDF file", none⟩
  | some file =>
      if file.length % 2 ^ 32 = 0 then
        some ⟨.failed .errUdf "UDF file is empty", none⟩
      else if file.length % 2 ^ 32 ≥ scriptLenMax then
        some ⟨.failed .errUdf "UDF file is too large", none⟩
      else do
        let path ← copyFilePath env.userBasePath filePath
        match path with
        | .error failure => some ⟨failure, none⟩
        | .ok path =>
            if env.opens (text '\x00' path) = false then
              some ⟨.failed .errLuaFileNotFound
                "Unable to open the destination UDF file", none⟩
            else copyFound env.streams file env.bytes

/-- The requests send the whole file, and nothing else as a module. -/
structure SendsFile (file : List UInt8) (requests : List Request) : Prop where
  sent : ∃ policy module language,
    .info policy (.udfPut module language file) ∈ requests
  only : ∀ policy module language content,
    .info policy (.udfPut module language content) ∈ requests → content = file

/-- The copy stays inside the buffer and comes to an end, and a call that
returns OK has sent the whole file and written a whole copy. -/
structure CompleteOrFails (env : UdfEnvironment) (filePath : String)
    (file : List UInt8) : Prop where
  inside : ∀ bytes, env.bytes = some bytes →
    ∃ copied, copyUdfFile env.streams file bytes = some copied
  complete : ∀ found, findUdfFile env filePath = some found →
    ∀ engine client oracle args policies clientError, oracle.udfFile = found.file →
      ((register engine client oracle args).call (.start policies clientError)).reply =
        some (.long .ok) →
      SendsFile file ((register engine client oracle args).call
        (.start policies clientError)).state.requests ∧ found.copy = some file

/-! ## The loop -/

section

variable {streams : UdfStreams} {file bytes copy : List UInt8} {call size read : ℕ}

/-- Before the bytes that were just read are counted: the buffer holds the
beginning of the file, and the copy is not longer, and whole if it is as long. -/
structure CopyInvariant (streams : UdfStreams) (file bytes copy : List UInt8)
    (call size : ℕ) : Prop where
  position : size = position luaFileBufferFrame streams.reads file call
  buffer : bytes.length = scriptLenMax
  held : bytes.take size = file.take size
  shorter : copy.length ≤ size
  whole : copy.length = size → copy = file.take size

theorem fwrite_length (call : ℕ) (buff : List UInt8) :
    (fwrite streams call buff).length = min (streams.writes call) buff.length := by
  rw [fwrite, List.length_take]

/-- What is read is put behind what is there. -/
theorem CopyInvariant.store (hinv : CopyInvariant streams file bytes copy call size)
    (hsmall : file.length < scriptLenMax) :
    ∃ stored, write bytes (size : ℤ) (fread streams file call size) = some stored ∧
      stored.length = scriptLenMax ∧
      stored.take (size + (fread streams file call size).length) =
        file.take (size + (fread streams file call size).length) := by
  have hle : size ≤ file.length := by
    rw [hinv.position]
    exact position_le call
  have hlength := @length_piece UInt8 luaFileBufferFrame file size (streams.reads call)
  have hfits : size + (fread streams file call size).length ≤ bytes.length := by
    rw [hinv.buffer, fread]
    omega
  have hwrite := write_nat hfits
  refine ⟨_, hwrite, (length_write hwrite).trans hinv.buffer, ?_⟩
  rw [take_write hwrite, hinv.held]
  exact take_append_piece size _

/-- The invariant behind a piece that was stored and written on. -/
theorem CopyInvariant.next (hinv : CopyInvariant streams file bytes copy call size)
    {stored : List UInt8} (hstored : stored.length = scriptLenMax)
    (hheld : stored.take (size + (fread streams file call size).length) =
      file.take (size + (fread streams file call size).length)) :
    CopyInvariant streams file stored
      (copy ++ fwrite streams call (fread streams file call size)) (call + 1)
      (size + (fread streams file call size).length) where
  position := by
    rw [Transfers.position, ← hinv.position]
    rfl
  buffer := hstored
  held := hheld
  shorter := by
    rw [List.length_append, fwrite_length]
    have hshorter := hinv.shorter
    omega
  whole hlength := by
    rw [List.length_append, fwrite_length] at hlength
    have hshorter := hinv.shorter
    have hall : fwrite streams call (fread streams file call size) =
        fread streams file call size := List.take_of_length_le (by omega)
    rw [hall, hinv.whole (by omega)]
    exact take_append_piece size _

/-- The end of a copy: what is held is the beginning of the file, and all is
whole exactly when it was before and no transfer falls short. -/
structure CopyEnds (streams : UdfStreams) (file copy : List UInt8) (call size : ℕ)
    (copied : Copied) : Prop where
  size_le : copied.size ≤ file.length
  held : copied.bytes.take copied.size = file.take copied.size
  shorter : copied.copy.length ≤ copied.size
  whole_iff : copied.size = file.length ∧ copied.copy = file ↔
    copy.length = size ∧
      SteadyFrom luaFileBufferFrame streams.reads streams.writes file call

/-- The copy that stops here. -/
theorem CopyInvariant.stop (hinv : CopyInvariant streams file bytes copy call size)
    {stored : List UInt8} (hheld : stored.take size = file.take size)
    (hstop : size < file.length →
      fwrite streams call (fread streams file call size) = []) :
    CopyEnds streams file copy call size ⟨size, stored, copy⟩ := by
  have hle : size ≤ file.length := by
    rw [hinv.position]
    exact position_le call
  refine ⟨hle, hheld, hinv.shorter, ?_⟩
  rcases Nat.eq_or_lt_of_le hle with hend | hbefore
  · constructor
    · rintro ⟨-, hcopy⟩
      refine ⟨(congrArg List.length hcopy).trans hend.symm, steadyFrom_of_end ?_⟩
      rw [← hinv.position, hend]
    · rintro ⟨hlength, -⟩
      refine ⟨hend, (hinv.whole hlength).trans ?_⟩
      rw [hend, List.take_length]
  · refine iff_of_false (fun hwhole => hbefore.ne hwhole.1) ?_
    rintro ⟨-, hsteady⟩
    obtain ⟨hreads, hwrites⟩ := hsteady call le_rfl (by rw [← hinv.position]; exact hbefore)
    have hnone := congrArg List.length (hstop hbefore)
    have hlength := @length_piece UInt8 luaFileBufferFrame file size (streams.reads call)
    rw [← hinv.position] at hwrites
    rw [fwrite_length, fread, List.length_nil] at hnone
    have hframe : luaFileBufferFrame = 512 := rfl
    omega

/-- The loop stays inside the buffer and ends. -/
theorem copyLoop_ends (hsmall : file.length < scriptLenMax) (hread : 0 < read)
    (hinv : CopyInvariant streams file bytes copy call (size + read)) :
    ∃ copied, copyLoop streams file call size read bytes copy = some copied ∧
      CopyEnds streams file copy call (size + read) copied := by
  induction hleft : file.length - size using Nat.strong_induction_on
    generalizing call size read bytes copy with
  | _ left ih =>
      obtain ⟨stored, hwrite, hstored, hheld⟩ := hinv.store hsmall
      rw [copyLoop, if_neg (by omega)]
      simp only [hwrite]
      by_cases hnone : fwrite streams call (fread streams file call (size + read)) = []
      · rw [if_pos hnone]
        have hbefore : stored.take (size + read) = file.take (size + read) := by
          have hcut := congrArg (List.take (size + read)) hheld
          rwa [List.take_take, List.take_take, Nat.min_eq_left (Nat.le_add_right _ _)]
            at hcut
        exact ⟨_, rfl, hinv.stop hbefore fun _ => hnone⟩
      · rw [if_neg hnone]
        have hlength := List.length_pos_of_ne_nil hnone
        rw [fwrite_length] at hlength
        have hpiece := @length_piece UInt8 luaFileBufferFrame file (size + read)
          (streams.reads call)
        obtain ⟨copied, hloop, hends⟩ := ih (file.length - (size + read))
          (by rw [fread] at hlength; omega) (by omega) (hinv.next hstored hheld) rfl
        refine ⟨copied, hloop, hends.size_le, hends.held, hends.shorter,
          hends.whole_iff.trans ?_⟩
        have hbefore : position luaFileBufferFrame streams.reads file call <
            file.length := by
          rw [← hinv.position]
          rw [fread] at hlength
          omega
        rw [steadyFrom_iff hbefore, ← hinv.position, List.length_append, fwrite_length]
        have hshorter := hinv.shorter
        rw [fread] at hlength ⊢
        constructor
        · rintro ⟨hcopy, hsteady⟩
          exact ⟨by omega, ⟨by omega, by omega⟩, hsteady⟩
        · rintro ⟨hcopy, ⟨-, hwrites⟩, hsteady⟩
          exact ⟨by omega, hsteady⟩

/-- Where a transfer can be made, something is read exactly when `fread` gives
something. -/
theorem fread_eq_nil_iff (hbefore : size < file.length) :
    fread streams file call size = [] ↔ streams.reads call = 0 := by
  have hlength := @length_piece UInt8 luaFileBufferFrame file size (streams.reads call)
  have hframe : luaFileBufferFrame = 512 := rfl
  rw [← List.length_eq_zero_iff, fread]
  omega

theorem copyInvariant_start (hbytes : bytes.length = scriptLenMax) :
    CopyInvariant streams file bytes [] 0 0 where
  position := rfl
  buffer := hbytes
  held := by rw [List.take_zero, List.take_zero]
  shorter := le_rfl
  whole _ := (List.take_zero ..).symm

theorem copyUdfFile_of_store {stored : List UInt8}
    (hwrite : write bytes ((0 : ℕ) : ℤ) (fread streams file 0 0) = some stored) :
    copyUdfFile streams file bytes =
      if fread streams file 0 0 ≠ [] ∧ fwrite streams 0 (fread streams file 0 0) ≠ [] then
        (copyLoop streams file 1 0 (fread streams file 0 0).length stored
          (fwrite streams 0 (fread streams file 0 0))).map .ok
      else some (.error (.failed .errClient "Unable to write to user path")) := by
  have hzero : write bytes 0 (fread streams file 0 0) = some stored := hwrite
  unfold copyUdfFile
  simp only [hzero, Option.bind_eq_bind, Option.bind_some]
  congr 1
  cases copyLoop streams file 1 0 _ stored _ <;> rfl

theorem copyUdfFile_error {failure : UdfFile}
    (herror : copyUdfFile streams file bytes = some (.error failure)) :
    failure = .failed .errClient "Unable to write to user path" := by
  unfold copyUdfFile at herror
  obtain ⟨stored, -, hrest⟩ := Option.bind_eq_some_iff.mp herror
  dsimp only at hrest
  split at hrest
  · obtain ⟨copied, -, hend⟩ := Option.bind_eq_some_iff.mp hrest
    cases hend
  · exact (Except.error.inj (Option.some.inj hrest)).symm

/-- A first transfer of nothing is a failure. -/
theorem copyUdfFile_refused (hpos : 0 < file.length) (hsmall : file.length < scriptLenMax)
    (hbytes : bytes.length = scriptLenMax)
    (hfirst : streams.reads 0 = 0 ∨ streams.writes 0 = 0) :
    copyUdfFile streams file bytes =
      some (.error (.failed .errClient "Unable to write to user path")) := by
  have hstart : CopyInvariant streams file bytes [] 0 0 := copyInvariant_start hbytes
  obtain ⟨stored, hwrite, -⟩ := hstart.store hsmall
  rw [copyUdfFile_of_store hwrite, if_neg]
  rintro ⟨hread, hwritten⟩
  rcases hfirst with hfirst | hfirst
  · exact hread ((fread_eq_nil_iff hpos).mpr hfirst)
  · exact hwritten (by rw [fwrite, hfirst, List.take_zero])

/-- Behind a first transfer of something the loop runs to its end. -/
theorem copyUdfFile_copies (hpos : 0 < file.length) (hsmall : file.length < scriptLenMax)
    (hbytes : bytes.length = scriptLenMax) (hreads : streams.reads 0 ≠ 0)
    (hwrites : streams.writes 0 ≠ 0) :
    ∃ copied, copyUdfFile streams file bytes = some (.ok copied) ∧
      CopyEnds streams file [] 0 0 copied := by
  have hstart : CopyInvariant streams file bytes [] 0 0 := copyInvariant_start hbytes
  obtain ⟨stored, hwrite, hstored, hheld⟩ := hstart.store hsmall
  have hread : fread streams file 0 0 ≠ [] := by
    rwa [ne_eq, fread_eq_nil_iff hpos]
  have hread' := List.length_pos_of_ne_nil hread
  have hwritten : fwrite streams 0 (fread streams file 0 0) ≠ [] := by
    rw [← List.length_pos_iff_ne_nil, fwrite_length]
    omega
  have hnext := hstart.next hstored hheld
  rw [List.nil_append] at hnext
  obtain ⟨copied, hloop, hends⟩ := copyLoop_ends hsmall hread' hnext
  have hcopied : copyUdfFile streams file bytes = some (.ok copied) := by
    rw [copyUdfFile_of_store hwrite, if_pos ⟨hread, hwritten⟩, hloop]
    rfl
  refine ⟨copied, hcopied, hends.size_le, hends.held, hends.shorter,
    hends.whole_iff.trans ?_⟩
  have hbefore : position luaFileBufferFrame streams.reads file 0 < file.length := hpos
  have hsame : piece luaFileBufferFrame file 0 (streams.reads 0) =
      fread streams file 0 0 := rfl
  rw [steadyFrom_iff hbefore, fwrite_length, Nat.zero_add, Transfers.position, hsame]
  constructor
  · rintro ⟨hcopy, hsteady⟩
    exact ⟨rfl, ⟨by omega, by omega⟩, hsteady⟩
  · rintro ⟨-, ⟨-, hall⟩, hsteady⟩
    exact ⟨by omega, hsteady⟩

/-- No transfer falls short, and all that was written is in the copy. -/
def UdfStreams.Complete (streams : UdfStreams) (file : List UInt8) : Prop :=
  Steady luaFileBufferFrame streams.reads streams.writes file ∧
    file.length ≤ streams.flushed

theorem fclose_eq_iff (hshorter : copy.length ≤ file.length) :
    fclose streams copy = file ↔ copy = file ∧ file.length ≤ streams.flushed := by
  unfold fclose
  constructor
  · intro heq
    have hlength := congrArg List.length heq
    rw [List.length_take] at hlength
    rw [List.take_of_length_le (by omega)] at heq
    exact ⟨heq, by omega⟩
  · rintro ⟨rfl, hflushed⟩
    exact List.take_of_length_le hflushed

/-- What a whole copy holds. -/
theorem CopyEnds.whole {copied : Copied} (hends : CopyEnds streams file [] 0 0 copied) :
    copied.bytes.take copied.size = file ∧ fclose streams copied.copy = file ↔
      streams.Complete file := by
  have hsteady := hends.whole_iff.trans (and_iff_right rfl)
  rw [fclose_eq_iff (hends.shorter.trans hends.size_le), hends.held,
    UdfStreams.Complete, Steady, ← hsteady, ← and_assoc]
  refine and_congr_left' (and_congr_left' ?_)
  constructor
  · intro hall
    have hlength := congrArg List.length hall
    rw [List.length_take] at hlength
    exact le_antisymm hends.size_le (by omega)
  · intro hall
    rw [hall, List.take_length]

end

/-! ## The requests -/

section

variable {engine : Engine} {client : Client} {oracle : Oracle}
variable {P : CallState → Prop}

/-- What `register` may send of a file. -/
def SendsOnlyFile (content : List UInt8) (request : Request) : Prop :=
  ∀ policy module language content',
    request = .info policy (.udfPut module language content') → content' = content

theorem register_sendsOnly {content : List UInt8} {args : RegisterArgs}
    (hfile : oracle.udfFile = .copied content) :
    Moves (SendsOnly (SendsOnlyFile content))
      (register engine client oracle (some args)) := by
  have hput : ∀ policy, Sendable (SendsOnlyFile content)
      (.info policy (.udfPut (cString args.module) (asEnum args.language) content)) := by
    refine fun policy => ⟨?_⟩
    rintro policy' module language content' ⟨⟩
    rfl
  have hwait : ∀ policy, Sendable (SendsOnlyFile content)
      (.info policy (.udfPutWait (cString args.module))) := by
    refine fun policy => ⟨?_⟩
    rintro policy' module language content' ⟨⟩
  have hfound : requireUdfFile (.copied content) = pure content := rfl
  unfold register registerBody
  rw [hfile, hfound]
  iterate 2 refine moves_seq fun _ => ?_
  refine moves_args ?_
  iterate 2 refine moves_seq fun _ => ?_
  refine moves_withCleanup ?_
  rw [pure_bind]
  infer_instance

theorem ends_requireConnection :
    Ends P (requireConnection client) (fun _ _ => True) Exit.NotOk := by
  intro s _
  unfold requireConnection
  rcases @checkObjectAndConnection_run client s with
    ⟨-, hrun⟩ | ⟨-, code, message, hcode, hrun⟩
  · rw [run_bind_ok hrun]
    trivial
  · rw [run_bind_ok hrun, runIf_pos hcode]
    show Reply.long code ≠ .long .ok
    exact fun hok => hcode (Reply.long.inj hok)

theorem ends_requireInfoPolicy {zPolicy : Option Zval} {message : String} :
    Ends P (requireInfoPolicy engine zPolicy message) (fun _ _ => True)
      Exit.NotOk := by
  intro s _
  have hpolicy := @ends_requirePolicy s.policies _ infoField
    (zvalToAsPolicyInfo engine.init.info zPolicy) .errParam message (by decide) s rfl
  unfold requireInfoPolicy
  cases hrun : (requirePolicy infoField (zvalToAsPolicyInfo engine.init.info zPolicy)
    (failReturn .errParam message)).run s with
  | mk outcome s' =>
      rw [hrun] at hpolicy
      cases outcome with
      | ok policy => trivial
      | error exit => exact hpolicy

/-- The module was sent. -/
def SentFile (content : List UInt8) (s : CallState) : Prop :=
  ∃ policy module language, .info policy (.udfPut module language content) ∈ s.requests

theorem registerBody_ends {policy : PolicyInfo} {args : RegisterArgs}
    (hfailed : ∀ message, oracle.udfFile ≠ .failed .ok message) :
    Ends P (registerBody oracle policy args)
      (fun _ s => ∃ content, oracle.udfFile = .copied content ∧ SentFile content s)
      Exit.NotOk := by
  unfold registerBody
  cases hfile : oracle.udfFile with
  | failed code message =>
      have hcode : code ≠ .ok := by
        rintro rfl
        exact hfailed message hfile
      have hfails : Ends P (failCleanup code message : Method (List UInt8))
          (fun _ _ => False) Exit.NotOk := ends_failCleanup hcode
      exact ends_bind hfails fun _ s hfalse => hfalse.elim
  | copied content =>
      have hfound : requireUdfFile (.copied content) = pure content := rfl
      have hput : Ends P (issue oracle (.info (some policy)
          (.udfPut (cString args.module) (asEnum args.language) content)))
          (fun _ s => SentFile content s) Exit.NotOk := fun s _ =>
        ⟨_, _, _, List.mem_append_right s.requests List.mem_cons_self⟩
      have hget : Ends (SentFile content) Proc.get
          (fun s s' => s' = s ∧ SentFile content s') Exit.NotOk :=
        fun s hsent => ⟨rfl, hsent⟩
      have hcheck : ∀ s : CallState, Ends (fun s' => s' = s ∧ SentFile content s')
          (runIf (s.err.code ≠ .ok) (do reportErr; gotoCleanup))
          (fun _ s => SentFile content s) Exit.NotOk := by
        rintro s s' ⟨rfl, hsent⟩
        by_cases hcode : s'.err.code = .ok
        · rw [runIf_neg (by simpa using hcode)]
          exact hsent
        · rw [runIf_pos hcode]
          exact hcode
      have hwait : Ends (SentFile content) (issue oracle (.info (some policy)
          (.udfPutWait (cString args.module)))) (fun _ s => SentFile content s)
          Exit.NotOk := by
        rintro s ⟨policy', module, language, hmem⟩
        exact ⟨policy', module, language, List.mem_append_left _ hmem⟩
      rw [hfound, Proc.pure_bind]
      refine ends_bind hput fun _ => ?_
      refine ends_bind hget fun s => ?_
      refine ends_bind (hcheck s) fun _ => ?_
      exact ends_bind hwait fun _ => ends_pure fun _ hsent => ⟨content, rfl, hsent⟩

/-- A call that returns OK had the file and sent it. -/
theorem register_sends {args : Option RegisterArgs} {s : CallState}
    (hfailed : ∀ message, oracle.udfFile ≠ .failed .ok message)
    (hreply : ((register engine client oracle args).call s).reply = some (.long .ok)) :
    ∃ content args', oracle.udfFile = .copied content ∧ args = some args' ∧
      SentFile content ((register engine client oracle args).call s).state := by
  have hends : Ends (fun _ => True) (register engine client oracle args)
      (fun _ _ => False) (fun exit s => exit = .ret (.long .ok) →
        ∃ content args', oracle.udfFile = .copied content ∧ args = some args' ∧
          SentFile content s) := by
    have hreset : Ends (fun _ => True) resetClientError (fun _ _ => True)
        Exit.NotOk := fun _ _ => trivial
    unfold register
    refine ends_bind (ends_notOk hreset) fun _ => ?_
    refine ends_bind (ends_notOk ends_requireConnection) fun _ => ?_
    refine ends_bind (ends_notOk (ends_orFail (ends_failReturn (by decide))))
      fun args' => ends_given fun hargs => ?_
    have hmodule : Ends (fun _ => True) (runIf (args'.module.length = 0)
        (failReturn .errParam "Empty filename for udf")) (fun _ _ => True)
        Exit.NotOk :=
      ends_ite (fun _ => ends_failReturn (by decide)) fun _ => ends_pure fun _ h => h
    refine ends_bind (ends_notOk hmodule) fun _ => ?_
    refine ends_bind (ends_notOk ends_requireInfoPolicy) fun policy => ?_
    refine ends_withCleanup (registerBody_ends hfailed)
      (fun _ _ _ hexit hok => hexit.of_ok hok) ?_
    refine ends_weaken cleanupErr_ends (fun _ h => h) (fun _ _ h => h) ?_
    intro exit s hsent hok
    obtain ⟨content, hfile, hsent⟩ := hsent hok
    exact ⟨content, args', hfile, hargs, hsent⟩
  exact call_of_ends hends trivial hreply

end

/-! ## When registering is complete -/

section

variable {env : UdfEnvironment} {filePath : String} {file : List UInt8}

theorem copyFilePath_error {failure : UdfFile} {base : Option String}
    (herror : copyFilePath base filePath = some (.error failure)) :
    ∃ code message, failure = .failed code message ∧ code ≠ .ok := by
  unfold copyFilePath at herror
  split at herror
  · obtain rfl := Except.error.inj (Option.some.inj herror)
    exact ⟨_, _, rfl, by decide⟩
  · obtain ⟨⟨path, length⟩, -, hrest⟩ := Option.bind_eq_some_iff.mp herror
    dsimp only at hrest
    split at hrest
    · obtain rfl := Except.error.inj (Option.some.inj hrest)
      exact ⟨_, _, rfl, by decide⟩
    · split at hrest
      · obtain rfl := Except.error.inj (Option.some.inj hrest)
        exact ⟨_, _, rfl, by decide⟩
      · obtain ⟨path, -, hpath⟩ := Option.bind_eq_some_iff.mp hrest
        cases hpath

/-- What `register` has of a file within the limits. -/
theorem findUdfFile_cases (hfile : env.readFile = some file) (hpos : 0 < file.length)
    (hsmall : file.length < scriptLenMax) {found : UdfFound}
    (hfound : findUdfFile env filePath = some found) :
    (∃ code message, found.file = .failed code message ∧ code ≠ .ok) ∨
      ∃ bytes copied, env.bytes = some bytes ∧
        copyUdfFile env.streams file bytes = some (.ok copied) ∧
        found = ⟨.copied (copied.bytes.take copied.size),
          some (fclose env.streams copied.copy)⟩ := by
  unfold findUdfFile at hfound
  have hlimit : scriptLenMax < 2 ^ 32 := by decide
  rw [hfile] at hfound
  dsimp only at hfound
  rw [Nat.mod_eq_of_lt (by omega), if_neg (by omega), if_neg (by omega)] at hfound
  obtain ⟨path, hpath, hrest⟩ := Option.bind_eq_some_iff.mp hfound
  cases path with
  | error failure =>
      obtain rfl := Option.some.inj hrest
      exact .inl (copyFilePath_error hpath)
  | ok path =>
      dsimp only at hrest
      split at hrest
      · obtain rfl := Option.some.inj hrest
        exact .inl ⟨_, _, rfl, by decide⟩
      · unfold copyFound at hrest
        split at hrest
        · obtain rfl := Option.some.inj hrest
          exact .inl ⟨_, _, rfl, by decide⟩
        · next bytes hbytes =>
            obtain ⟨copied, hcopied, hend⟩ := Option.bind_eq_some_iff.mp hrest
            cases copied with
            | error failure =>
                obtain rfl := Option.some.inj hend
                exact .inl ⟨_, _, copyUdfFile_error hcopied, by decide⟩
            | ok copied =>
                exact .inr ⟨bytes, copied, hbytes, hcopied, (Option.some.inj hend).symm⟩

/-- Everything in the environment goes well, the transfers apart. -/
def UdfEnvironment.accepting (file : List UInt8) (streams : UdfStreams) :
    UdfEnvironment where
  readFile := some file
  userBasePath := some "/usr/local/aerospike/usr-lua"
  opens _ := true
  bytes := some (List.replicate scriptLenMax 0)
  streams := streams

/-- Whatever the loop ends with is registered when the environment accepts it. -/
theorem accepting_registers {streams : UdfStreams} (hpos : 0 < file.length)
    (hsmall : file.length < scriptLenMax) (hreads : streams.reads 0 ≠ 0)
    (hwrites : streams.writes 0 ≠ 0)
    (hcomplete : CompleteOrFails (.accepting file streams) "lua/test.lua" file) :
    streams.Complete file := by
  have hlimit : scriptLenMax < 2 ^ 32 := by decide
  have hpath := @copyFilePath_of_fits "/usr/local/aerospike/usr-lua" "lua/test.lua"
    (by decide) (by decide)
  have hbytes : (List.replicate scriptLenMax (0 : UInt8)).length = scriptLenMax :=
    List.length_replicate
  obtain ⟨copied, hcopied, hends⟩ := copyUdfFile_copies hpos hsmall hbytes hreads hwrites
  have hfound : findUdfFile (.accepting file streams) "lua/test.lua" =
      some ⟨.copied (copied.bytes.take copied.size),
        some (fclose streams copied.copy)⟩ := by
    unfold findUdfFile UdfEnvironment.accepting
    dsimp only
    rw [Nat.mod_eq_of_lt (by omega), if_neg (by omega), if_neg (by omega), hpath,
      if_neg (by decide), if_neg (by decide), copyFound, hcopied]
    rfl
  have hreply : ((register Engine.plain .connected
      { Oracle.accepting with udfFile := .copied (copied.bytes.take copied.size) }
      (some ⟨"test.lua", 0, none⟩)).call (.start default .init)).reply =
        some (.long .ok) := rfl
  obtain ⟨hsends, hcopy⟩ := hcomplete.complete _ hfound _ _ _ _ _ _ rfl hreply
  obtain ⟨content, args, hcontent, -, policy, module, language, hsent⟩ :=
    register_sends (by rintro message ⟨⟩) hreply
  obtain rfl := UdfFile.copied.inj hcontent
  exact hends.whole.mp ⟨hsends.only _ _ _ _ hsent, Option.some.inj hcopy⟩

/-- For a file within the limits, registering is complete or fails in every
environment with these transfers if and only if the first transfer moves nothing,
so that it is refused, or none falls short and nothing is lost at the end. -/
theorem register_complete_iff {streams : UdfStreams} (hpos : 0 < file.length)
    (hsmall : file.length < scriptLenMax) :
    (∀ env filePath, UdfEnvironment.Fresh env → env.readFile = some file →
        env.streams = streams → CompleteOrFails env filePath file) ↔
      streams.reads 0 = 0 ∨ streams.writes 0 = 0 ∨ streams.Complete file := by
  constructor
  · intro hcomplete
    by_contra hnone
    obtain ⟨hreads, hrest⟩ := not_or.mp hnone
    obtain ⟨hwrites, hincomplete⟩ := not_or.mp hrest
    refine hincomplete (accepting_registers hpos hsmall hreads hwrites ?_)
    refine hcomplete _ _ ?_ rfl rfl
    rintro bytes hbytes
    obtain rfl := Option.some.inj hbytes
    exact List.length_replicate
  · rintro hcondition env filePath hfresh hfile rfl
    have hinside : ∀ bytes, env.bytes = some bytes →
        copyUdfFile env.streams file bytes =
            some (.error (.failed .errClient "Unable to write to user path")) ∨
          ∃ copied, copyUdfFile env.streams file bytes = some (.ok copied) ∧
            copied.bytes.take copied.size = file ∧
              fclose env.streams copied.copy = file := by
      intro bytes hbytes
      by_cases hfirst : env.streams.reads 0 = 0 ∨ env.streams.writes 0 = 0
      · exact .inl (copyUdfFile_refused hpos hsmall (hfresh bytes hbytes) hfirst)
      · obtain ⟨hreads, hwrites⟩ := not_or.mp hfirst
        obtain ⟨copied, hcopied, hends⟩ :=
          copyUdfFile_copies hpos hsmall (hfresh bytes hbytes) hreads hwrites
        have hall := (hcondition.resolve_left hreads).resolve_left hwrites
        exact .inr ⟨copied, hcopied, hends.whole.mpr hall⟩
    refine ⟨fun bytes hbytes => ?_, ?_⟩
    · rcases hinside bytes hbytes with hcopied | ⟨copied, hcopied, -⟩
      · exact ⟨_, hcopied⟩
      · exact ⟨_, hcopied⟩
    · intro found hfound engine client oracle args policies clientError horacle hreply
      rcases findUdfFile_cases hfile hpos hsmall hfound with
        ⟨code, message, hfailed, hcode⟩ | ⟨bytes, copied, hbytes, hcopied, rfl⟩
      · obtain ⟨content, args', hcontent, -⟩ := register_sends (by
          intro message' hok
          rw [horacle, hfailed] at hok
          injection hok with hcode'
          exact hcode hcode') hreply
        rw [horacle, hfailed] at hcontent
        cases hcontent
      · obtain ⟨hcontent, hcopy⟩ : copied.bytes.take copied.size = file ∧
            fclose env.streams copied.copy = file := by
          rcases hinside bytes hbytes with hrefused | ⟨copied', hcopied', hwhole⟩
          · rw [hrefused] at hcopied
            cases hcopied
          · rw [hcopied'] at hcopied
            obtain rfl := Except.ok.inj (Option.some.inj hcopied)
            exact hwhole
        rw [hcontent] at horacle
        obtain ⟨content, args', hsame, rfl, hsent⟩ := register_sends (by
          intro message hok
          rw [horacle] at hok
          cases hok) hreply
        rw [horacle] at hsame
        obtain rfl := UdfFile.copied.inj hsame
        have honly := @register_sendsOnly engine client oracle file args' horacle
        have hall := @requests_of_sendsOnly _ _ policies clientError honly
        exact ⟨⟨hsent, fun policy module language content hmem =>
          hall _ hmem policy module language content rfl⟩, congrArg some hcopy⟩

end

/-- Transfers that move all they are asked for. -/
def UdfStreams.full : UdfStreams :=
  ⟨fun _ => luaFileBufferFrame, fun _ => luaFileBufferFrame, scriptLenMax⟩

theorem UdfStreams.full_complete {file : List UInt8}
    (hsmall : file.length < scriptLenMax) : UdfStreams.full.Complete file := by
  refine ⟨?_, hsmall.le⟩
  intro call _ _
  refine ⟨Nat.zero_lt_succ 511, ?_⟩
  rw [length_piece]
  exact (Nat.min_le_left _ _).trans (Nat.min_le_right _ _)

theorem register_complete_full :
    UdfStreams.full.Complete ([45, 45, 10] : List UInt8) ∧
      ∀ env filePath, UdfEnvironment.Fresh env → env.readFile = some [45, 45, 10] →
        env.streams = UdfStreams.full → CompleteOrFails env filePath [45, 45, 10] :=
  ⟨UdfStreams.full_complete (by decide),
    (register_complete_iff (by decide) (by decide)).mpr
      (.inr (.inr (UdfStreams.full_complete (by decide))))⟩

/-- Every `fwrite` after the first fails. -/
def UdfStreams.failingWrite : UdfStreams :=
  ⟨fun _ => luaFileBufferFrame, fun call => if call = 0 then luaFileBufferFrame else 0,
    scriptLenMax⟩

/-- A file of two blocks is registered without the second one. -/
theorem failedWrite_registered :
    ¬ CompleteOrFails (.accepting (List.replicate 1024 45) UdfStreams.failingWrite)
      "lua/test.lua" (List.replicate 1024 45) := by
  intro hcomplete
  obtain ⟨hsteady, -⟩ := accepting_registers (by rw [List.length_replicate]; decide)
    (by rw [List.length_replicate]; decide) (by decide) (by decide) hcomplete
  have hposition : position luaFileBufferFrame UdfStreams.failingWrite.reads
      (List.replicate 1024 (45 : UInt8)) 1 = 512 := by
    rw [Transfers.position, Transfers.position, length_piece, List.length_replicate]
    rfl
  obtain ⟨-, hwrites⟩ := hsteady 1 (Nat.zero_le _) (by
    rw [hposition, List.length_replicate]
    decide)
  rw [hposition, length_piece, List.length_replicate] at hwrites
  exact absurd hwrites (by decide)

end AerospikePhp
