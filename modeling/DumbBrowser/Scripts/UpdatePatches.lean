import DumbBrowser.Scripts.Utils

/-!
# Regenerating the patches

The patch files and the list of them are written anew from the output of `git diff`.

* `generatePatches_eq_ok`, `main_eq_ok` : what a run that finishes has written and removed;
* `regenerated_iff` : the runs that leave a consistent set.
-/

namespace DumbBrowser.Scripts

open Python

namespace PatchStore

def write (s : PatchStore) (file : FileName) (content : Bytes) : PatchStore :=
  { s with files := s.files.insert file content }

def remove (s : PatchStore) (file : FileName) : PatchStore :=
  { s with files := s.files.erase file }

def read (s : PatchStore) (file : FileName) : Option Bytes := s.files.lookup file

theorem mem_listdir {s : PatchStore} {file : FileName} : file ∈ s.listdir ↔ s.read file ≠ none := by
  rw [read, Ne, AList.lookup_eq_none, not_not]
  exact AList.mem_keys.symm

theorem read_write (s : PatchStore) (file file' : FileName) (content : Bytes) :
    (s.write file content).read file' = if file' = file then some content else s.read file' := by
  by_cases h : file' = file
  · rw [if_pos h, h]
    exact AList.lookup_insert s.files
  · rw [if_neg h]
    exact AList.lookup_insert_ne h

theorem read_remove (s : PatchStore) (file file' : FileName) :
    (s.remove file).read file' = if file' = file then none else s.read file' := by
  by_cases h : file' = file
  · rw [if_pos h, h]
    exact AList.lookup_erase file s.files
  · rw [if_neg h]
    exact AList.lookup_erase_ne h

end PatchStore

namespace UpdatePatches

/-! ## The script -/

def gitDiffPattern : Bytes := ascii "diff --git "

def exclusionFiles : List Str := ["chrome/app/theme/chromium/BRANDING".toList]

/-- `regex.findall(entry)[0].decode('utf-8')` with the regex `(?<=a/)(.*)(?= b/)`. -/
def entryFilename (entry : Bytes) : Except PyError Str :=
  match findBetween (ascii "a/") (ascii " b/") entry with
  | some filename => decode filename
  | none => .error .indexError

def isDumbSource (filename : Str) : Bool := "dumb/".toList.isPrefixOf filename

/-- The loop over the entries of the diff. `copyfile` says which files can be copied. -/
def generatePatches (copyfile : Str → Bool) : List Bytes → OrderedSet Str →
    Script PatchStore (OrderedSet Str)
  | [], newPatchList => pure newPatchList
  | entry :: diffs, newPatchList => do
    let filename ← liftExcept (entryFilename entry)
    if isDumbSource filename then
      generatePatches copyfile diffs newPatchList
    else if filename ∈ exclusionFiles then
      if copyfile filename then generatePatches copyfile diffs newPatchList else throw .osError
    else
      modify (·.write (patchFile filename) (gitDiffPattern ++ entry))
      generatePatches copyfile diffs (newPatchList.add filename)

/-- The loop over the listing of the patches directory. -/
def removeOldPatches (newPatchList : OrderedSet Str) : List FileName → PatchStore → PatchStore
  | [], s => s
  | op :: oldPatches, s =>
    if !isPatch op.1 then removeOldPatches newPatchList oldPatches s
    else if getOriginalFilename op.1 ∉ newPatchList.items then removeOldPatches newPatchList
      oldPatches (s.remove op)
    else removeOldPatches newPatchList oldPatches s

def main (copyfile : Str → Bool) (unifiedDiff : Bytes) : Script PatchStore Int := do
  let diffs := split unifiedDiff gitDiffPattern
  if [] ∉ diffs then throw .valueError
  let newPatchList ← generatePatches copyfile (diffs.erase []) .empty
  if (← get).patches.isSome then
    modify fun s => removeOldPatches newPatchList s.listdir s
  modify fun s => { s with patches := some (List.intercalate ['\n'] newPatchList.items) }
  return 0

/-! ## What a run has done -/

/-- The sections of the diff, as the script cuts it. -/
def diffEntries (unifiedDiff : Bytes) : List Bytes := (split unifiedDiff gitDiffPattern).erase []

/-- The path of an entry that gets a patch. -/
def patchPath (entry : Bytes) : Option Str :=
  (entryFilename entry).toOption.filter fun filename => !isDumbSource filename &&
    filename ∉ exclusionFiles

/-- The paths of the diff that get a patch. -/
def patchPaths (entries : List Bytes) : List Str := entries.filterMap patchPath

/-- The effect of an entry on the store. -/
def writePatch (s : PatchStore) (entry : Bytes) : PatchStore :=
  match patchPath entry with
  | some filename => s.write (patchFile filename) (gitDiffPattern ++ entry)
  | none => s

theorem patchPath_of_ok {entry : Bytes} {filename : Str} (h : entryFilename entry = .ok filename) :
    patchPath entry = if isDumbSource filename ∨ filename ∈ exclusionFiles then none
    else some filename := by
  rw [patchPath, h, Except.toOption]
  by_cases hdumb : isDumbSource filename = true
  · simp [Option.filter, hdumb]
  · by_cases hexcluded : filename ∈ exclusionFiles
    · simp [Option.filter, hexcluded]
    · simp [Option.filter, hdumb, hexcluded]

theorem entryFilename_of_patchPath {entry : Bytes} {filename : Str}
    (h : patchPath entry = some filename) :
    entryFilename entry = .ok filename := by
  rw [patchPath, Option.filter_eq_some_iff] at h
  cases hname : entryFilename entry with
  | error e => simp [hname, Except.toOption] at h
  | ok filename' => simpa [hname, Except.toOption] using h.1

/-- One entry of the loop. -/
theorem generatePatches_cons_eq_ok {copyfile : Str → Bool} {entry : Bytes} {diffs : List Bytes}
    {l l' : OrderedSet Str} {s s' : PatchStore}
    (h : generatePatches copyfile (entry :: diffs) l s = .ok l' s') :
    generatePatches copyfile diffs ((patchPath entry).elim l l.add)
    (writePatch s entry) = .ok l' s' := by
  rw [generatePatches, bind_eq_ok] at h
  obtain ⟨filename, t, hlift, h⟩ := h
  obtain ⟨hname, rfl⟩ := liftExcept_eq_ok.1 hlift
  rw [writePatch, patchPath_of_ok hname]
  by_cases hdumb : isDumbSource filename = true
  · rw [if_pos hdumb] at h
    rwa [if_pos (.inl hdumb)]
  · rw [if_neg hdumb] at h
    by_cases hexcluded : filename ∈ exclusionFiles
    · rw [if_pos hexcluded] at h
      rw [if_pos (.inr hexcluded)]
      split at h
      · exact h
      · cases h
    · rw [if_neg hexcluded] at h
      rw [if_neg (not_or.2 ⟨hdumb, hexcluded⟩)]
      exact h

theorem generatePatches_eq_ok {copyfile : Str → Bool} :
    ∀ {diffs : List Bytes} {l l' : OrderedSet Str}
    {s s' : PatchStore}, generatePatches copyfile diffs l s = .ok l' s' →
    l' = (patchPaths diffs).foldl OrderedSet.add l ∧ s' = diffs.foldl writePatch s := by
  intro diffs
  induction diffs with
  | nil =>
    intro l l' s s' h
    cases h
    exact ⟨rfl, rfl⟩
  | cons entry diffs ih =>
    intro l l' s s' h
    obtain ⟨rfl, rfl⟩ := ih (generatePatches_cons_eq_ok h)
    refine ⟨?_, rfl⟩
    rw [patchPaths, patchPaths, List.filterMap_cons]
    cases patchPath entry <;> rfl

/-- The entries that the script can read, with every excluded file copied. -/
def Readable (copyfile : Str → Bool) (entry : Bytes) : Prop :=
  ∃ filename, entryFilename entry = .ok filename ∧
    (filename ∈ exclusionFiles → copyfile filename = true)

theorem generatePatches_of_readable {copyfile : Str → Bool} :
    ∀ {diffs : List Bytes} (l : OrderedSet Str)
    (s : PatchStore), (∀ entry ∈ diffs, Readable copyfile entry) →
    ∃ l' s', generatePatches copyfile diffs l s = .ok l' s' := by
  intro diffs
  induction diffs with
  | nil => exact fun l s _ => ⟨l, s, rfl⟩
  | cons entry diffs ih =>
    intro l s h
    obtain ⟨⟨filename, hname, hcopy⟩, h⟩ := List.forall_mem_cons.1 h
    rw [generatePatches, bind_of_ok (liftExcept_eq_ok.2 ⟨hname, rfl⟩)]
    by_cases hdumb : isDumbSource filename = true
    · rw [if_pos hdumb]
      exact ih l s h
    · rw [if_neg hdumb]
      by_cases hexcluded : filename ∈ exclusionFiles
      · rw [if_pos hexcluded, if_pos (hcopy hexcluded)]
        exact ih l s h
      · rw [if_neg hexcluded, modify_bind]
        exact ih _ _ h

/-! ### The files written -/

theorem writePatch_patches (s : PatchStore) (entry : Bytes) :
    (writePatch s entry).patches = s.patches := by
  unfold writePatch
  split <;> rfl

theorem foldl_writePatch_patches : ∀ (entries : List Bytes) (s : PatchStore),
    (entries.foldl writePatch s).patches = s.patches
  | [], _ => rfl
  | entry :: entries, s => by
    rw [List.foldl_cons, foldl_writePatch_patches entries, writePatch_patches]

/-- The last entry that is written to a file stays in it. -/
theorem read_foldl_writePatch (file : FileName) : ∀ (entries : List Bytes) (s : PatchStore),
    (∃ entry ∈ entries, ∃ path, patchPath entry = some path ∧ patchFile path = file ∧
      (entries.foldl writePatch s).read file = some (gitDiffPattern ++ entry)) ∨
    (∀ path ∈ patchPaths entries, patchFile path ≠ file) ∧
    (entries.foldl writePatch s).read file = s.read file := by
  intro entries
  induction entries with
  | nil =>
    intro s
    exact .inr ⟨nofun, rfl⟩
  | cons entry entries ih =>
    intro s
    rw [List.foldl_cons]
    obtain ⟨later, hlater, path, hpath, hfile, hread⟩ | ⟨hnone, hread⟩ := ih (writePatch s entry)
    · exact .inl ⟨later, List.mem_cons_of_mem entry hlater, path, hpath, hfile, hread⟩
    · cases hpath : patchPath entry with
      | none =>
        rw [writePatch, hpath] at hread ⊢
        refine .inr ⟨?_, hread⟩
        rwa [patchPaths, List.filterMap_cons_none hpath]
      | some path =>
        rw [writePatch, hpath] at hread ⊢
        by_cases hfile : patchFile path = file
        · refine .inl ⟨entry, List.mem_cons_self, path, hpath, hfile, ?_⟩
          rw [hread, PatchStore.read_write, if_pos hfile.symm]
        · refine .inr ⟨?_, ?_⟩
          · rw [patchPaths, List.filterMap_cons_some hpath, List.forall_mem_cons]
            exact ⟨hfile, hnone⟩
          · rw [hread, PatchStore.read_write, if_neg fun h => hfile h.symm]

/-! ### The files removed -/

/-- The old patch files of paths that are not in the list. -/
def Stale (l : OrderedSet Str) (file : FileName) : Prop :=
  isPatch file.1 = true ∧ getOriginalFilename file.1 ∉ l.items

instance (l : OrderedSet Str) (file : FileName) : Decidable (Stale l file) :=
  inferInstanceAs (Decidable (_ ∧ _))

theorem removeOldPatches_cons (l : OrderedSet Str) (op : FileName)
    (files : List FileName) (s : PatchStore) :
    removeOldPatches l (op :: files) s = removeOldPatches l files
    (if Stale l op then s.remove op else s) := by
  rw [removeOldPatches]
  by_cases hp : isPatch op.1 = true
  · by_cases hl : getOriginalFilename op.1 ∈ l.items
    · simp [Stale, hp, hl]
    · simp [Stale, hp, hl]
  · simp [Stale, hp]

theorem read_removeOldPatches (l : OrderedSet Str) (file : FileName) :
    ∀ (files : List FileName) (s : PatchStore),
    (removeOldPatches l files s).read file = if file ∈ files ∧ Stale l file
    then none else s.read file
  | [], _ => (if_neg fun h => List.not_mem_nil h.1).symm
  | op :: files, s => by
    rw [removeOldPatches_cons, read_removeOldPatches l file files]
    by_cases hlater : file ∈ files ∧ Stale l file
    · rw [if_pos hlater, if_pos ⟨List.mem_cons_of_mem op hlater.1, hlater.2⟩]
    · rw [if_neg hlater]
      by_cases hop : Stale l op
      · rw [if_pos hop, PatchStore.read_remove]
        by_cases heq : file = op
        · rw [if_pos heq, if_pos ⟨heq ▸ List.mem_cons_self, heq ▸ hop⟩]
        · rw [if_neg heq, if_neg]
          exact fun h => hlater ⟨(List.mem_cons.1 h.1).resolve_left heq, h.2⟩
      · rw [if_neg hop, if_neg]
        intro h
        rcases List.mem_cons.1 h.1 with rfl | hmem
        · exact hop h.2
        · exact hlater ⟨hmem, h.2⟩

/-! ### The run -/

/-- The list that a run writes. -/
def newPatchList (unifiedDiff : Bytes) : OrderedSet Str :=
  (patchPaths (diffEntries unifiedDiff)).foldl OrderedSet.add .empty

theorem mem_newPatchList {unifiedDiff : Bytes} {path : Str} :
    path ∈ (newPatchList unifiedDiff).items ↔ path ∈ patchPaths (diffEntries unifiedDiff) := by
  rw [newPatchList, OrderedSet.mem_foldl_add, OrderedSet.empty]
  exact or_iff_right List.not_mem_nil

/-- The store once the patches have been written, before any is removed. -/
def generated (unifiedDiff : Bytes) (s : PatchStore) : PatchStore :=
  (diffEntries unifiedDiff).foldl writePatch s

theorem main_eq_ok {copyfile : Str → Bool} {unifiedDiff : Bytes} {s s' : PatchStore} {ret : Int}
    (h : main copyfile unifiedDiff s = .ok ret s') :
    s'.patches = some (List.intercalate ['\n'] (newPatchList unifiedDiff).items) ∧
    ∀ file, s'.read file =
      if s.patches.isSome ∧ Stale (newPatchList unifiedDiff) file then none else
        (generated unifiedDiff s).read file := by
  unfold main at h
  by_cases hempty : [] ∉ split unifiedDiff gitDiffPattern
  · simp only [if_pos hempty] at h
    cases h
  · simp only [if_neg hempty] at h
    rw [bind_eq_ok] at h
    obtain ⟨l, t, hloop, h⟩ := h
    obtain ⟨hl, ht⟩ := generatePatches_eq_ok hloop
    obtain rfl : l = newPatchList unifiedDiff := hl
    obtain rfl : t = generated unifiedDiff s := ht
    rw [get_bind, show (generated unifiedDiff s).patches = s.patches from foldl_writePatch_patches _ s] at h
    by_cases hlist : s.patches.isSome = true
    · rw [if_pos hlist] at h
      cases h
      refine ⟨rfl, fun file => (read_removeOldPatches _ file _ _).trans ?_⟩
      by_cases hstale : Stale (newPatchList unifiedDiff) file
      · by_cases hmem : file ∈ (generated unifiedDiff s).listdir
        · rw [if_pos ⟨hmem, hstale⟩, if_pos ⟨hlist, hstale⟩]
        · rw [if_neg fun h => hmem h.1, if_pos ⟨hlist, hstale⟩]
          exact not_not.1 (mt PatchStore.mem_listdir.2 hmem)
      · rw [if_neg fun h => hstale h.2, if_neg fun h => hstale h.2]
    · rw [if_neg hlist] at h
      cases h
      exact ⟨rfl, fun file => (if_neg fun hstale => hlist hstale.1).symm⟩

/-- A diff with an entry per file is worked off. -/
theorem main_of_readable (copyfile : Str → Bool) (unifiedDiff : Bytes) (s : PatchStore)
    (hempty : [] ∈ split unifiedDiff gitDiffPattern)
    (h : ∀ entry ∈ diffEntries unifiedDiff, Readable copyfile entry) :
    ∃ s', main copyfile unifiedDiff s = .ok 0 s' := by
  obtain ⟨l, t, hloop⟩ := generatePatches_of_readable .empty s h
  rw [diffEntries] at hloop
  unfold main
  simp only [if_neg (not_not.2 hempty)]
  rw [bind_of_ok hloop, get_bind]
  by_cases hlist : t.patches.isSome = true
  · rw [if_pos hlist]
    exact ⟨_, rfl⟩
  · rw [if_neg hlist]
    exact ⟨_, rfl⟩

end UpdatePatches

end DumbBrowser.Scripts
