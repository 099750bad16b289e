import AerospikePhp.Library.Buffers
import AerospikePhp.Library.Delimiters
import AerospikePhp.Method
import Mathlib.Tactic

/-!
# The destination path of a UDF

`register` writes its copy of a UDF file under the base path of the INI
settings.  The path is put together in a blank array.
-/

namespace AerospikePhp

open Buffers Delimiters

/-! ## The construction -/

/-- `COPY_FILEPATH_SIZE`. -/
def copyFilepathSize : ℕ := 512

/-- `COPY_FILEPATH_MAXLEN`. -/
def copyFilepathMaxlen : ℕ := copyFilepathSize - 1

/-- The base path and its slash in `copy_file_path`, with
`user_base_path_len`.  There is no result when an access is outside. -/
def copyBasePath (base : List Char) : Option (List Char × ℤ) := do
  let length := sizeToInt base.length
  let path ← memcpy (List.replicate copyFilepathSize '\x00') 0 (base ++ ['\x00'])
    (intToSize length)
  let last ← read path (length - 1)
  if last ≠ '/' then do
    let path ← write path length ['/']
    some (path, length + 1)
  else some (path, length)

/-- `udf_file_name`, or none for a path that ends in a slash. -/
def udfFileName (filePath : String) : Option (List Char) :=
  match splitLast '/' (cString filePath).toList with
  | none => some (cString filePath).toList
  | some (before, name) =>
      if before.length = filePath.length - 1 then none else some name

/-- `copy_file_path`, or the failure of `register`. -/
def copyFilePath (userBasePath : Option String) (filePath : String) :
    Option (Except UdfFile (List Char)) :=
  match userBasePath with
  | none => some (.error (.failed .errClient "Base path not found"))
  | some base => do
      let (path, length) ← copyBasePath (cString base).toList
      match udfFileName filePath with
      | none => some (.error (.failed .errClient "Base path not found"))
      | some name =>
          if intToSize length + name.length > copyFilepathMaxlen then
            some (.error (.failed .errParam "Path name too long"))
          else do
            let path ← memcpy path length (name ++ ['\x00']) name.length
            some (.ok path)

/-! ## What the path should be -/

/-- A single slash at the end. -/
def withSlash (base : List Char) : List Char :=
  if base.getLast? = some '/' then base else base ++ ['/']

/-- What comes after the last slash, if there is one. -/
def baseName (filePath : String) : List Char :=
  match splitLast '/' (cString filePath).toList with
  | none => (cString filePath).toList
  | some (_, name) => name

/-- Every access is inside the array, a path that is too long is rejected, and a
path that is used is the one it should be. -/
def BuildsPath (base filePath : String) : Prop :=
  ∃ result, copyFilePath (some base) filePath = some result ∧
    ∀ path, result = .ok path →
      '\x00' ∈ path ∧
      text '\x00' path = withSlash (cString base).toList ++ baseName filePath ∧
      (withSlash (cString base).toList ++ baseName filePath).length < copyFilepathSize

theorem udfFileName_some {filePath : String} {name : List Char}
    (hname : udfFileName filePath = some name) : name = baseName filePath := by
  unfold udfFileName at hname
  unfold baseName
  split at hname
  · exact (Option.some.inj hname).symm
  · split at hname
    · cases hname
    · exact (Option.some.inj hname).symm

theorem baseName_nulFree (filePath : String) : '\x00' ∉ baseName filePath := by
  have hfree : '\x00' ∉ (cString filePath).toList := nulFree_cString filePath
  unfold baseName
  split
  · exact hfree
  · next before name hsplit =>
      intro hmem
      refine hfree ?_
      rw [(splitLast_eq_some_iff.mp hsplit).1]
      exact List.mem_append_right _ (List.mem_cons_of_mem _ hmem)

/-! ## The base path -/

/-- The part of the base path that is copied, with its slash. -/
def copiedBase (base : List Char) : List Char :=
  withSlash (base.take (sizeToInt base.length).toNat)

theorem length_withSlash (base : List Char) :
    (withSlash base).length =
      if base.getLast? = some '/' then base.length else base.length + 1 := by
  unfold withSlash
  split
  · rfl
  · rw [List.length_append, List.length_singleton]

theorem memcpy_base {base : List Char} {length : ℕ} (hle : length ≤ base.length) :
    memcpy (List.replicate copyFilepathSize '\x00') 0 (base ++ ['\x00']) length =
      if length ≤ copyFilepathSize then
        some (padded '\x00' copyFilepathSize (base.take length)) else none := by
  have hcut : (base.take length).length = length := List.length_take_of_le hle
  have hblank : List.replicate copyFilepathSize '\x00' =
      padded '\x00' copyFilepathSize [] := rfl
  by_cases hfits : length ≤ copyFilepathSize
  · have hwrite := @write_padded Char '\x00' copyFilepathSize [] (base.take length)
      (by rw [List.length_nil, hcut]; omega)
    have hsource : length ≤ (base ++ ['\x00']).length := by
      rw [List.length_append]
      omega
    rw [if_pos hfits, memcpy, if_pos hsource, List.take_append_of_le_length hle, hblank]
    exact hwrite
  · rw [if_neg hfits]
    exact memcpy_eq_none (by rw [List.length_replicate]; omega)

/-- The slash is added if there is room for it. -/
theorem addSlash_padded {base : List Char} (hpos : 0 < base.length)
    (hfits : base.length ≤ copyFilepathSize) :
    ((read (padded '\x00' copyFilepathSize base) ((base.length : ℤ) - 1)).bind fun last =>
        if last ≠ '/' then
          (write (padded '\x00' copyFilepathSize base) base.length ['/']).bind fun path =>
            some (path, (base.length : ℤ) + 1)
        else some (padded '\x00' copyFilepathSize base, (base.length : ℤ))) =
      if (withSlash base).length ≤ copyFilepathSize then
        some (padded '\x00' copyFilepathSize (withSlash base),
          ((withSlash base).length : ℤ))
      else none := by
  have hindex : (base.length : ℤ) - 1 = (base.length - 1 : ℕ) := by omega
  obtain ⟨c, hc⟩ : ∃ c, base.getLast? = some c :=
    ⟨_, List.getLast?_eq_some_getLast (List.ne_nil_of_length_pos hpos)⟩
  rw [hindex, read_padded (by omega), ← List.getLast?_eq_getElem?, hc, Option.bind_some]
  by_cases hslash : c = '/'
  · subst hslash
    have hsame : withSlash base = base := by rw [withSlash, if_pos hc]
    rw [if_neg (by simp), hsame, if_pos hfits]
  · have hadded : withSlash base = base ++ ['/'] := by
      rw [withSlash, hc, if_neg (by simpa using hslash)]
    rw [if_pos hslash, hadded, List.length_append, List.length_singleton]
    by_cases hroom : base.length + 1 ≤ copyFilepathSize
    · rw [write_padded (by exact hroom), if_pos hroom]
      rfl
    · have hnone : write (padded '\x00' copyFilepathSize base) base.length ['/'] = none := by
        rw [write_eq_none_iff, length_padded_of_le hfits, List.length_singleton]
        omega
      rw [hnone, if_neg hroom]
      rfl

/-- The base path is copied if and only if the copied length is positive and
there is room for the slash. -/
theorem copyBasePath_eq (base : List Char) :
    copyBasePath base =
      if 0 < sizeToInt base.length ∧ (copiedBase base).length ≤ copyFilepathSize then
        some (padded '\x00' copyFilepathSize (copiedBase base),
          ((copiedBase base).length : ℤ))
      else none := by
  have hstart : copyBasePath base =
      (memcpy (List.replicate copyFilepathSize '\x00') 0 (base ++ ['\x00'])
        (intToSize (sizeToInt base.length))).bind fun path =>
          (read path (sizeToInt base.length - 1)).bind fun last =>
            if last ≠ '/' then
              (write path (sizeToInt base.length) ['/']).bind fun path =>
                some (path, sizeToInt base.length + 1)
            else some (path, sizeToInt base.length) := rfl
  rw [hstart]
  by_cases hneg : sizeToInt base.length < 0
  · have hbounds := sizeToInt_bounds base.length
    have hlong : (List.replicate copyFilepathSize '\x00').length <
        (0 : ℤ) + intToSize (sizeToInt base.length) := by
      rw [List.length_replicate]
      unfold intToSize copyFilepathSize
      omega
    rw [memcpy_eq_none hlong, if_neg (by omega)]
    rfl
  obtain ⟨length, hle, hsmall, hlength⟩ := sizeToInt_of_nonneg (not_lt.mp hneg)
  have hcut : (base.take length).length = length := List.length_take_of_le hle
  have hcopied : copiedBase base = withSlash (base.take length) := by
    rw [copiedBase, hlength, Int.toNat_natCast]
  have hsize : intToSize (length : ℤ) = length := by
    unfold intToSize
    omega
  rw [hlength, hsize, memcpy_base hle, hcopied]
  by_cases hempty : length = 0
  · -- the byte at -1 is read
    subst hempty
    rw [if_pos (by decide), if_neg (by omega)]
    rfl
  by_cases hfits : length ≤ copyFilepathSize
  · have hslash := @addSlash_padded (base.take length) (by omega) (by omega)
    rw [hcut] at hslash
    rw [if_pos hfits, Option.bind_some, hslash]
    simp only [show (0 : ℤ) < length by omega, true_and]
  · have hlonger := length_withSlash (base.take length)
    rw [if_neg hfits, if_neg]
    · rfl
    · rintro ⟨-, hroom⟩
      split at hlonger <;> omega

/-! ## When the path is right -/

/-- The source path, which has no NUL, ends in a slash. -/
def EndsInSlash (filePath : String) : Prop :=
  filePath.toList.getLast? = some '/' ∧ NulFree filePath

instance (filePath : String) : Decidable (EndsInSlash filePath) :=
  inferInstanceAs (Decidable (_ ∧ _))

theorem udfFileName_eq_none_iff (filePath : String) :
    udfFileName filePath = none ↔ EndsInSlash filePath := by
  constructor
  · intro hnone
    unfold udfFileName at hnone
    split at hnone
    · cases hnone
    · next before name hsplit =>
        split at hnone
        · next hlast =>
            have hcString := (splitLast_eq_some_iff.mp hsplit).1
            have hprefix : (cString filePath).toList <+: filePath.toList := by
              rw [cString, String.toList_ofList]
              exact List.takeWhile_prefix _
            have hle := hprefix.length_le
            have hjoined := congrArg List.length hcString
            rw [List.length_append, List.length_cons] at hjoined
            rw [← String.length_toList] at hlast
            have hsame : (cString filePath).toList = filePath.toList :=
              hprefix.eq_of_length (by omega)
            have hname : name = [] := List.length_eq_zero_iff.mp (by omega)
            have hfree := (cString_eq_self_iff filePath).mp (String.toList_inj.mp hsame)
            rw [hsame, hname] at hcString
            exact ⟨by rw [hcString, List.getLast?_concat], hfree⟩
        · cases hnone
  · rintro ⟨hslash, hfree⟩
    have hsame := (cString_eq_self_iff filePath).mpr hfree
    obtain ⟨before, hbefore⟩ := List.getLast?_eq_some_iff.mp hslash
    have hsplit : splitLast '/' filePath.toList = some (before, []) :=
      splitLast_eq_some_iff.mpr ⟨hbefore, by simp⟩
    have hlength := congrArg List.length hbefore
    rw [List.length_append, List.length_singleton, String.length_toList] at hlength
    unfold udfFileName
    rw [hsame, hsplit]
    exact if_pos (by omega)

/-- The base path and its slash fit, and either the length of the base path is
kept or nothing is copied behind it. -/
structure PathFits (base filePath : String) : Prop where
  nonempty : 0 < sizeToInt (cString base).toList.length
  slash : (copiedBase (cString base).toList).length ≤ copyFilepathSize
  whole : sizeToInt (cString base).toList.length = (cString base).toList.length ∨
    EndsInSlash filePath ∨
    copyFilepathMaxlen <
      (copiedBase (cString base).toList).length + (baseName filePath).length

section

variable {base filePath : String}

theorem copiedBase_of_kept {base : List Char} (hkept : sizeToInt base.length = base.length) :
    copiedBase base = withSlash base := by
  rw [copiedBase, hkept, Int.toNat_natCast, List.take_length]

theorem copiedBase_nulFree {base : List Char} (hfree : '\x00' ∉ base) :
    '\x00' ∉ copiedBase base := by
  have hcut : '\x00' ∉ base.take (sizeToInt base.length).toNat :=
    fun hmem => hfree (List.mem_of_mem_take hmem)
  unfold copiedBase withSlash
  split
  · exact hcut
  · simpa using hcut

/-- A base path that is cut is not the base path. -/
theorem kept_of_copiedBase {base : List Char} (hpos : 0 < sizeToInt base.length)
    (hsame : (copiedBase base).length = (withSlash base).length) :
    sizeToInt base.length = base.length := by
  obtain ⟨length, hle, hsmall, hlength⟩ := sizeToInt_of_nonneg hpos.le
  rw [copiedBase, hlength, Int.toNat_natCast, length_withSlash, length_withSlash,
    List.length_take_of_le hle] at hsame
  rw [hlength]
  unfold sizeToInt at hlength
  split at hsame <;> split at hsame <;> omega

/-- An access is outside when the base path or its slash does not fit. -/
theorem copyFilePath_eq_none
    (hneg : ¬ (0 < sizeToInt (cString base).toList.length ∧
      (copiedBase (cString base).toList).length ≤ copyFilepathSize)) :
    copyFilePath (some base) filePath = none := by
  have hnone := copyBasePath_eq (cString base).toList
  rw [if_neg hneg] at hnone
  unfold copyFilePath
  simp only [hnone]
  rfl

/-- The file name is copied behind the base path where there is room for both. -/
theorem copyFilePath_of_fits (hpos : 0 < sizeToInt (cString base).toList.length)
    (hslash : (copiedBase (cString base).toList).length ≤ copyFilepathSize) :
    copyFilePath (some base) filePath = some (
      if EndsInSlash filePath then .error (.failed .errClient "Base path not found")
      else if copyFilepathMaxlen <
          (copiedBase (cString base).toList).length + (baseName filePath).length then
        .error (.failed .errParam "Path name too long")
      else .ok (padded '\x00' copyFilepathSize
        (copiedBase (cString base).toList ++ baseName filePath))) := by
  have hcopied := copyBasePath_eq (cString base).toList
  rw [if_pos ⟨hpos, hslash⟩] at hcopied
  unfold copyFilePath
  simp only [hcopied, Option.bind_eq_bind, Option.bind_some]
  cases hname : udfFileName filePath with
  | none => rw [if_pos ((udfFileName_eq_none_iff filePath).mp hname)]
  | some name =>
      have hmore : ¬ EndsInSlash filePath := by
        rw [← udfFileName_eq_none_iff, hname]
        simp
      obtain rfl := udfFileName_some hname
      have hsize : intToSize ((copiedBase (cString base).toList).length : ℤ) =
          (copiedBase (cString base).toList).length := by
        unfold intToSize
        unfold copyFilepathSize at hslash
        omega
      rw [if_neg hmore, hsize]
      dsimp only
      by_cases hlong : copyFilepathMaxlen <
          (copiedBase (cString base).toList).length + (baseName filePath).length
      · rw [if_pos hlong, if_pos hlong]
      · have hwrite := @write_padded Char '\x00' copyFilepathSize
          (copiedBase (cString base).toList) (baseName filePath)
          (by unfold copyFilepathMaxlen at hlong; omega)
        rw [if_neg hlong, if_neg hlong, memcpy, if_pos (by simp), List.take_left', hwrite]
        · rfl
        · rfl

theorem path_nulFree (base filePath : String) :
    '\x00' ∉ copiedBase (cString base).toList ++ baseName filePath := by
  rw [List.mem_append]
  rintro (hmem | hmem)
  · exact copiedBase_nulFree (nulFree_cString base) hmem
  · exact baseName_nulFree filePath hmem

theorem path_length_lt
    (hshort : ¬ copyFilepathMaxlen <
      (copiedBase (cString base).toList).length + (baseName filePath).length) :
    (copiedBase (cString base).toList ++ baseName filePath).length < copyFilepathSize := by
  rw [List.length_append]
  unfold copyFilepathMaxlen copyFilepathSize at *
  omega

/-- The path is built as it should be if and only if the base path fits. -/
theorem buildsPath_iff (base filePath : String) :
    BuildsPath base filePath ↔ PathFits base filePath := by
  constructor
  · rintro ⟨result, hresult, hpath⟩
    have hboth : 0 < sizeToInt (cString base).toList.length ∧
        (copiedBase (cString base).toList).length ≤ copyFilepathSize := by
      by_contra hneg
      rw [copyFilePath_eq_none hneg] at hresult
      cases hresult
    obtain ⟨hpos, hslash⟩ := hboth
    refine ⟨hpos, hslash, ?_⟩
    rw [copyFilePath_of_fits hpos hslash] at hresult
    obtain rfl := Option.some.inj hresult
    by_cases hends : EndsInSlash filePath
    · exact .inr (.inl hends)
    by_cases hlong : copyFilepathMaxlen <
        (copiedBase (cString base).toList).length + (baseName filePath).length
    · exact .inr (.inr hlong)
    obtain ⟨-, htext, -⟩ := hpath _ (by rw [if_neg hends, if_neg hlong])
    have htext' := (text_padded (path_length_lt hlong) (path_nulFree base filePath)).2
    rw [htext'] at htext
    exact .inl (kept_of_copiedBase hpos
      (congrArg List.length (List.append_cancel_right htext)))
  · rintro ⟨hpos, hslash, hwhole⟩
    refine ⟨_, copyFilePath_of_fits hpos hslash, fun path hused => ?_⟩
    split at hused
    · cases hused
    · next hends =>
        split at hused
        · cases hused
        · next hlong =>
            obtain rfl := Except.ok.inj hused
            have hsame := copiedBase_of_kept
              (hwhole.resolve_right fun hor => hor.elim hends hlong)
            have hroom := path_length_lt hlong
            have htext := text_padded hroom (path_nulFree base filePath)
            rw [hsame] at hroom htext ⊢
            exact ⟨htext.1, htext.2, hroom⟩

end

/-- An empty base path makes the byte before the array be read. -/
theorem emptyBase_readOutside : ¬ BuildsPath "" "lua/test.lua" := by
  rintro ⟨result, hresult, -⟩
  rw [copyFilePath_eq_none (by decide)] at hresult
  cases hresult

end AerospikePhp
