import DumbBrowser.Lib.Python
import Mathlib.Data.List.AList
import Mathlib.Data.Finset.Basic

/-!
# The patch store

The files of `patches`, their list in `config/PATCHES`, and the check that one matches the other.

* `getPatchFilename_getOriginalFilename` : every patch file is the file of the name it decodes to;
* `checkPatchConsistency_iff` : what the check finds.
-/

namespace DumbBrowser.Scripts

open Python

/-! ## File names -/

/-- The name of a file in a directory. -/
abbrev FileName := {name : Str // '/' ∉ name}

def patchSuffix : Str := ".patch".toList

def getPatchFilename (filename : Str) : Str := replace '/' '@' filename ++ patchSuffix

def getOriginalFilename (filename : Str) : Str :=
  (replace '@' '/' filename).take (filename.length - 6)

def isPatch (filename : Str) : Bool := patchSuffix.isSuffixOf filename

/-- The file in the patches directory that is written for a path. -/
def patchFile (filename : Str) : FileName :=
  ⟨getPatchFilename filename, by
    rw [getPatchFilename, List.mem_append, not_or]
    exact ⟨old_not_mem_replace (by decide) filename, by decide⟩⟩

theorem isPatch_iff {filename : Str} : isPatch filename = true ↔
    ∃ base, filename = base ++ patchSuffix := by
  rw [isPatch, List.isSuffixOf_iff_suffix]
  exact ⟨fun ⟨base, h⟩ => ⟨base, h.symm⟩, fun ⟨base, h⟩ => ⟨base, h.symm⟩⟩

@[simp] theorem isPatch_patchFile (filename : Str) : isPatch (patchFile filename).1 = true :=
  isPatch_iff.2 ⟨_, rfl⟩

@[simp] theorem getOriginalFilename_append (base : Str) :
    getOriginalFilename (base ++ patchSuffix) = replace '@' '/' base := by
  have hlen : (base ++ patchSuffix).length - 6 = (replace '@' '/' base).length := by
    simp [replace, patchSuffix]
  rw [getOriginalFilename, hlen, replace_append, List.take_left]

theorem at_not_mem_getOriginalFilename (filename : Str) : '@' ∉ getOriginalFilename filename :=
  fun h => old_not_mem_replace (by decide) filename (List.mem_of_mem_take h)

theorem getOriginalFilename_patchFile {filename : Str} (h : '@' ∉ filename) :
    getOriginalFilename (patchFile filename).1 = filename := by
  change getOriginalFilename (replace '/' '@' filename ++ patchSuffix) = filename
  rw [getOriginalFilename_append, replace_replace h]

/-- Every patch file is the file of the name it decodes to. -/
theorem patchFile_getOriginalFilename {f : FileName} (h : isPatch f.1 = true) :
    patchFile (getOriginalFilename f.1) = f := by
  obtain ⟨base, hbase⟩ := isPatch_iff.1 h
  refine Subtype.ext ?_
  have hslash : '/' ∉ base := fun hm => f.2 (hbase ▸ List.mem_append_left _ hm)
  change getPatchFilename (getOriginalFilename f.1) = f.1
  rw [hbase, getOriginalFilename_append, getPatchFilename, replace_replace hslash]

/-- The names that the patch files of a listing decode to. -/
def originalFilenames (files : List FileName) : List Str :=
  (files.filter (isPatch ·.1)).map (getOriginalFilename ·.1)

theorem originalFilenames_cons_patch {p : FileName} (hp : isPatch p.1 = true)
    (files : List FileName) :
    originalFilenames (p :: files) = getOriginalFilename p.1 :: originalFilenames files := by
  simp [originalFilenames, hp]

theorem originalFilenames_cons_other {p : FileName} (hp : isPatch p.1 ≠ true)
    (files : List FileName) :
    originalFilenames (p :: files) = originalFilenames files := by
  simp [originalFilenames, hp]

theorem mem_originalFilenames {files : List FileName} {name : Str} :
    name ∈ originalFilenames files ↔ ∃ f ∈ files, isPatch f.1 = true ∧
    getOriginalFilename f.1 = name := by
  simp only [originalFilenames, List.mem_map, List.mem_filter, and_assoc]

theorem originalFilenames_nodup {files : List FileName} (h : files.Nodup) :
    (originalFilenames files).Nodup := by
  refine List.Nodup.map_on ?_ (h.filter _)
  intro f hf g hg heq
  rw [← patchFile_getOriginalFilename (List.mem_filter.1 hf).2, heq,
    patchFile_getOriginalFilename (List.mem_filter.1 hg).2]

/-! ## The store -/

/-- The patches directory, in the order in which it is listed, and the text of `PATCHES`, if there
is one. -/
structure PatchStore where
  files : AList fun _ : FileName => Bytes
  patches : Option Str

namespace PatchStore

def listdir (s : PatchStore) : List FileName := s.files.keys

theorem listdir_nodup (s : PatchStore) : s.listdir.Nodup := s.files.keys_nodup

/-- The lines of `PATCHES`, as the checker and the applier read them. -/
def patchList (s : PatchStore) : Except PyError (List Str) :=
  match s.patches with
  | some text => .ok (readLines text)
  | none => .error .fileNotFoundError

end PatchStore

/-! ## The check -/

/-- The loop over the directory: the names still to be found are erased one by one. -/
def checkFiles (treatAsFatal : Bool) : List FileName → Finset Str → Bool
  | [], patchList => patchList = ∅
  | p :: files, patchList =>
    if !isPatch p.1 then checkFiles treatAsFatal files patchList
    else if getOriginalFilename p.1 ∉ patchList then
      if treatAsFatal then false else checkFiles treatAsFatal files patchList
    else checkFiles treatAsFatal files (patchList.erase (getOriginalFilename p.1))

def checkPatchConsistency (treatAsFatal : Bool) (s : PatchStore) : Except PyError Bool := do
  let patchList ← s.patchList
  return checkFiles treatAsFatal s.listdir patchList.toFinset

/-- The loop finds every name once and no other. -/
theorem checkFiles_iff {files : List FileName} :
    ∀ {patchList : Finset Str}, checkFiles true files patchList = true ↔
    (originalFilenames files).Nodup ∧ (originalFilenames files).toFinset = patchList := by
  induction files with
  | nil => simp [checkFiles, originalFilenames, eq_comm]
  | cons p files ih =>
    intro patchList
    by_cases hp : isPatch p.1 = true
    · rw [originalFilenames_cons_patch hp, List.nodup_cons, List.toFinset_cons]
      simp only [checkFiles, hp, Bool.not_true, Bool.false_eq_true, if_false, if_true]
      by_cases hmem : getOriginalFilename p.1 ∈ patchList
      · rw [if_neg (not_not.2 hmem), ih]
        constructor
        · rintro ⟨hnodup, hrest⟩
          have hnot : getOriginalFilename p.1 ∉ originalFilenames files := by
            rw [← List.mem_toFinset, hrest]
            exact Finset.notMem_erase _ _
          exact ⟨⟨hnot, hnodup⟩, by rw [hrest, Finset.insert_erase hmem]⟩
        · rintro ⟨⟨hnot, hnodup⟩, rfl⟩
          exact ⟨hnodup, (Finset.erase_insert (mt List.mem_toFinset.1 hnot)).symm⟩
      · rw [if_pos hmem]
        refine ⟨nofun, fun h => absurd ?_ hmem⟩
        rw [← h.2]
        exact Finset.mem_insert_self _ _
    · rw [originalFilenames_cons_other hp]
      simp [checkFiles, hp, ih]

/-- **The check passes when the names of the patch files are the lines of `PATCHES`.** -/
theorem checkPatchConsistency_iff {s : PatchStore} : checkPatchConsistency true s = .ok true ↔
    ∃ text, s.patches = some text ∧ ∀ name, name ∈ originalFilenames s.listdir ↔
    name ∈ readLines text := by
  unfold checkPatchConsistency PatchStore.patchList
  cases s.patches with
  | none => simp [bind, Except.bind]
  | some text =>
    have hcheck : checkFiles true s.listdir (readLines text).toFinset = true ↔
        ∀ name, name ∈ originalFilenames s.listdir ↔ name ∈ readLines text := by
      rw [checkFiles_iff, and_iff_right (originalFilenames_nodup s.listdir_nodup), Finset.ext_iff]
      simp only [List.mem_toFinset]
    simp [bind, Except.bind, pure, Except.pure, hcheck]

end DumbBrowser.Scripts
