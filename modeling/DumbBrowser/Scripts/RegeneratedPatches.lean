import DumbBrowser.Scripts.UpdatePatches

/-!
# The regenerated set

What the checker finds once the patches have been regenerated.

* `mem_originals` : the patch files that a run leaves;
* `regenerated_iff` : the diffs and the stores that lead to a consistent set.
-/

namespace DumbBrowser.Scripts

open Python UpdatePatches

/-- The paths that `PATCHES` lists. A blank line lists none. -/
def PatchStore.listedPaths (s : PatchStore) : List Str :=
  match s.patches with
  | some text => (readLines text).filter (· ≠ [])
  | none => []

/-- The set that a run should leave. -/
structure Regenerated (unifiedDiff : Bytes) (s : PatchStore) : Prop where
  consistent : checkPatchConsistency true s = .ok true
  written : ∀ path ∈ s.listedPaths, ∃ entry ∈ diffEntries unifiedDiff,
    entryFilename entry = .ok path ∧
    s.read (patchFile path) = some (gitDiffPattern ++ entry)
  distinct : ∀ path ∈ patchPaths (diffEntries unifiedDiff),
    ∀ path' ∈ patchPaths (diffEntries unifiedDiff),
    patchFile path = patchFile path' → path = path'

/-- The diffs and the stores from which a run leaves it. -/
structure Regenerable (unifiedDiff : Bytes) (s : PatchStore) : Prop where
  encodable : ∀ path ∈ patchPaths (diffEntries unifiedDiff), '@' ∉ path ∧ '\r' ∉ path
  /-- Without a list, no old patch file is removed. -/
  unlisted : s.patches = none → patchPaths (diffEntries unifiedDiff) ≠ [] →
    ∀ path ∈ originalFilenames s.listdir, path ∈ patchPaths (diffEntries unifiedDiff)
  /-- An empty list is read as one blank line, which only the file `.patch` matches. -/
  blank : patchPaths (diffEntries unifiedDiff) = [] → s.patches = none ∧
    originalFilenames s.listdir = [[]]

theorem newline_not_mem_of_patchPath {entry : Bytes} {path : Str}
    (h : patchPath entry = some path) : '\n' ∉ path := by
  have hname := entryFilename_of_patchPath h
  unfold entryFilename at hname
  split at hname
  · next filename hfound =>
      exact newline_not_mem_of_decode hname (newline_not_mem_of_findBetween hfound)
  · cases hname

theorem eq_of_patchFile_eq {path path' : Str} (h : '@' ∉ path) (h' : '@' ∉ path')
    (heq : patchFile path = patchFile path') : path = path' := by
  rw [← getOriginalFilename_patchFile h, heq, getOriginalFilename_patchFile h']

/-! ## The files a run leaves -/

section Run
variable {copyfile : Str → Bool} {unifiedDiff : Bytes} {s s' : PatchStore}
  {ret : Int} {file : FileName}

theorem read_generated : (generated unifiedDiff s).read file ≠ none ↔
    (∃ path ∈ patchPaths (diffEntries unifiedDiff), patchFile path = file) ∨
    s.read file ≠ none := by
  obtain ⟨entry, hentry, path, hpath, hfile, hread⟩ | ⟨hnone, hread⟩ :=
    read_foldl_writePatch file (diffEntries unifiedDiff) s
  · have hmem : path ∈ patchPaths (diffEntries unifiedDiff) :=
      List.mem_filterMap.2 ⟨entry, hentry, hpath⟩
    rw [generated, hread]
    exact iff_of_true (Option.some_ne_none _) (.inl ⟨path, hmem, hfile⟩)
  · rw [generated, hread]
    exact ⟨.inr, fun h => h.resolve_left fun ⟨path, hmem, hfile⟩ => hnone path hmem hfile⟩

theorem read_of_listed (h : main copyfile unifiedDiff s = .ok ret s')
    (hlisted : s.patches.isSome →
      getOriginalFilename file.1 ∈ patchPaths (diffEntries unifiedDiff)) :
    s'.read file = (generated unifiedDiff s).read file := by
  rw [(main_eq_ok h).2, if_neg]
  rintro ⟨hlist, -, hstale⟩
  exact hstale (mem_newPatchList.2 (hlisted hlist))

/-- The patch files left: those that were there or were written, less those removed. -/
theorem mem_originals (h : main copyfile unifiedDiff s = .ok ret s') {path : Str} :
    path ∈ originalFilenames s'.listdir ↔ ∃ file : FileName, isPatch file.1 = true ∧
    getOriginalFilename file.1 = path ∧
      (s.patches.isSome → path ∈ patchPaths (diffEntries unifiedDiff)) ∧
      ((∃ path ∈ patchPaths (diffEntries unifiedDiff), patchFile path = file) ∨
          s.read file ≠ none) := by
  simp only [mem_originalFilenames, PatchStore.mem_listdir, ← read_generated]
  refine exists_congr fun file => ?_
  constructor
  · rintro ⟨hread, hpatch, rfl⟩
    have hlisted : s.patches.isSome →
        getOriginalFilename file.1 ∈ patchPaths (diffEntries unifiedDiff) := by
      intro hlist
      by_contra hnot
      rw [(main_eq_ok h).2, if_pos ⟨hlist, hpatch, mt mem_newPatchList.1 hnot⟩] at hread
      exact hread rfl
    rw [read_of_listed h hlisted] at hread
    exact ⟨hpatch, rfl, hlisted, hread⟩
  · rintro ⟨hpatch, rfl, hlisted, hread⟩
    rw [read_of_listed h hlisted]
    exact ⟨hread, hpatch, rfl⟩

/-- The files of paths that can be decoded are all left. -/
theorem mem_originals_of_mem (h : main copyfile unifiedDiff s = .ok ret s') {path : Str}
    (hpath : path ∈ patchPaths (diffEntries unifiedDiff)) (hat : '@' ∉ path) :
    path ∈ originalFilenames s'.listdir :=
  (mem_originals h).2 ⟨patchFile path, isPatch_patchFile path, getOriginalFilename_patchFile hat,
    fun _ => hpath,
    .inl ⟨path, hpath, rfl⟩⟩

/-- With no path to write and no list, the patch files stay as they are. -/
theorem mem_originals_of_blank (h : main copyfile unifiedDiff s = .ok ret s')
    (hblank : patchPaths (diffEntries unifiedDiff) = []) (hnone : s.patches = none) {path : Str} :
    path ∈ originalFilenames s'.listdir ↔ path ∈ originalFilenames s.listdir := by
  rw [mem_originals h, mem_originalFilenames, hblank, hnone]
  refine exists_congr fun file => ?_
  rw [PatchStore.mem_listdir]
  constructor
  · rintro ⟨hpatch, hname, -, ⟨path, hpath, -⟩ | hread⟩
    · exact absurd hpath List.not_mem_nil
    · exact ⟨hread, hpatch, hname⟩
  · rintro ⟨hread, hpatch, hname⟩
    exact ⟨hpatch, hname, nofun, .inr hread⟩

/-! ## The list a run leaves -/

theorem newline_not_mem_newPatchList : ∀ path ∈ (newPatchList unifiedDiff).items, '\n' ∉ path := by
  intro path hpath
  obtain ⟨entry, -, hentry⟩ := List.mem_filterMap.1 (mem_newPatchList.1 hpath)
  exact newline_not_mem_of_patchPath hentry

theorem newPatchList_eq_nil :
    (newPatchList unifiedDiff).items = [] ↔ patchPaths (diffEntries unifiedDiff) = [] := by
  simp only [List.eq_nil_iff_forall_not_mem, mem_newPatchList]

/-- The text of the list, read back. -/
theorem readLines_newPatchList (hr : ∀ path ∈ patchPaths (diffEntries unifiedDiff), '\r' ∉ path)
    (hne : patchPaths (diffEntries unifiedDiff) ≠ []) :
    readLines (List.intercalate ['\n'] (newPatchList unifiedDiff).items) =
    (newPatchList unifiedDiff).items :=
  readLines_intercalate (fun path hpath => hr path (mem_newPatchList.1 hpath))
    newline_not_mem_newPatchList
    (mt newPatchList_eq_nil.1 hne)

theorem readLines_newPatchList_of_blank (hblank : patchPaths (diffEntries unifiedDiff) = []) :
    readLines (List.intercalate ['\n'] (newPatchList unifiedDiff).items) = [[]] := by
  rw [newPatchList_eq_nil.2 hblank]
  rfl

theorem consistent_iff (h : main copyfile unifiedDiff s = .ok ret s') :
    checkPatchConsistency true s' = .ok true ↔
    ∀ path, path ∈ originalFilenames s'.listdir ↔
      path ∈ readLines (List.intercalate ['\n'] (newPatchList unifiedDiff).items) := by
  simp only [checkPatchConsistency_iff, (main_eq_ok h).1, Option.some.injEq, exists_eq_left']

/-! ## Consistent sets -/

/-- A path with an `@` is listed and decoded to another. -/
theorem at_not_mem_of_consistent (h : main copyfile unifiedDiff s = .ok ret s')
    (hcheck : checkPatchConsistency true s' = .ok true) {path : Str}
    (hpath : path ∈ patchPaths (diffEntries unifiedDiff)) : '@' ∉ path := by
  intro hat
  have htext : '@' ∈ List.intercalate ['\n'] (newPatchList unifiedDiff).items :=
    mem_intercalate_of_mem hat (mem_newPatchList.2 hpath)
  obtain ⟨line, hline, hat⟩ := exists_mem_readLines (by decide) (by decide) htext
  obtain ⟨file, -, -, rfl⟩ := mem_originalFilenames.1 (((consistent_iff h).1 hcheck line).2 hline)
  exact at_not_mem_getOriginalFilename file.1 hat

theorem cr_not_mem_of_consistent (h : main copyfile unifiedDiff s = .ok ret s')
    (hcheck : checkPatchConsistency true s' = .ok true) {path : Str}
    (hpath : path ∈ patchPaths (diffEntries unifiedDiff)) : '\r' ∉ path :=
  cr_not_mem_of_mem_readLines (((consistent_iff h).1 hcheck path).1
    (mem_originals_of_mem h hpath (at_not_mem_of_consistent h hcheck hpath)))

/-- The blank list is matched by the file `.patch` alone, which must have been there. -/
theorem blank_of_consistent (h : main copyfile unifiedDiff s = .ok ret s')
    (hcheck : checkPatchConsistency true s' = .ok true)
    (hblank : patchPaths (diffEntries unifiedDiff) = []) :
    s.patches = none ∧ originalFilenames s.listdir = [[]] := by
  have hlines := (consistent_iff h).1 hcheck
  rw [readLines_newPatchList_of_blank hblank] at hlines
  have hnone : s.patches = none := by
    obtain ⟨file, -, -, hlisted, -⟩ :=
      (mem_originals h).1 ((hlines []).2 (List.mem_singleton_self []))
    rw [hblank] at hlisted
    simpa using hlisted
  refine ⟨hnone, List.perm_singleton.1
    ((List.perm_ext_iff_of_nodup (originalFilenames_nodup s.listdir_nodup)
    (List.nodup_singleton [])).2 fun path => ?_)⟩
  rw [← mem_originals_of_blank h hblank hnone, hlines]

theorem regenerable_of_consistent (h : main copyfile unifiedDiff s = .ok ret s')
    (hcheck : checkPatchConsistency true s' = .ok true) : Regenerable unifiedDiff s where
  encodable path hpath := ⟨at_not_mem_of_consistent h hcheck hpath,
    cr_not_mem_of_consistent h hcheck hpath⟩
  unlisted hnone hne path hpath := by
    obtain ⟨file, hfile, hpatch, hname⟩ := mem_originalFilenames.1 hpath
    have hleft : path ∈ originalFilenames s'.listdir :=
      (mem_originals h).2 ⟨file, hpatch,
        hname, by simp [hnone], .inr (PatchStore.mem_listdir.1 hfile)⟩
    rw [(consistent_iff h).1 hcheck, readLines_newPatchList _ hne] at hleft
    · exact mem_newPatchList.1 hleft
    · exact fun path hpath => cr_not_mem_of_consistent h hcheck hpath
  blank hblank := blank_of_consistent h hcheck hblank

theorem consistent_of_regenerable (h : main copyfile unifiedDiff s = .ok ret s')
    (hd : Regenerable unifiedDiff s) :
    checkPatchConsistency true s' = .ok true := by
  rw [consistent_iff h]
  intro path
  by_cases hne : patchPaths (diffEntries unifiedDiff) = []
  · obtain ⟨hnone, hold⟩ := hd.blank hne
    rw [readLines_newPatchList_of_blank hne, mem_originals_of_blank h hne hnone, hold]
  · rw [readLines_newPatchList (fun path hpath => (hd.encodable path hpath).2) hne, mem_newPatchList]
    refine ⟨fun hleft => ?_, fun hpath => mem_originals_of_mem h hpath (hd.encodable path hpath).1⟩
    obtain ⟨file, hpatch, rfl, hlisted, ⟨path, hpath, rfl⟩ | hread⟩ := (mem_originals h).1 hleft
    · rwa [getOriginalFilename_patchFile (hd.encodable path hpath).1]
    · by_cases hlist : s.patches.isSome = true
      · exact hlisted hlist
      · refine hd.unlisted (by simpa using hlist) hne _ ?_
        exact mem_originalFilenames.2 ⟨file, PatchStore.mem_listdir.2 hread, hpatch, rfl⟩

/-- Every path listed has the file that the run wrote for it. -/
theorem written_of_regenerable (h : main copyfile unifiedDiff s = .ok ret s')
    (hd : Regenerable unifiedDiff s) :
    ∀ path ∈ s'.listedPaths, ∃ entry ∈ diffEntries unifiedDiff, entryFilename entry = .ok path ∧
      s'.read (patchFile path) = some (gitDiffPattern ++ entry) := by
  intro path hpath
  rw [PatchStore.listedPaths, (main_eq_ok h).1, List.mem_filter] at hpath
  obtain ⟨hline, hpath⟩ := hpath
  have hne : patchPaths (diffEntries unifiedDiff) ≠ [] := by
    intro hblank
    rw [readLines_newPatchList_of_blank hblank, List.mem_singleton] at hline
    exact of_decide_eq_true hpath hline
  rw [readLines_newPatchList (fun path hpath => (hd.encodable path hpath).2) hne,
    mem_newPatchList] at hline
  have hat := (hd.encodable path hline).1
  rw [read_of_listed h fun _ => by rwa [getOriginalFilename_patchFile hat]]
  obtain ⟨entry, hentry, path', hpath', hfile, hread⟩ | ⟨hnone, -⟩ :=
    read_foldl_writePatch (patchFile path) (diffEntries unifiedDiff) s
  · have hmem : path' ∈ patchPaths (diffEntries unifiedDiff) :=
      List.mem_filterMap.2 ⟨entry, hentry, hpath'⟩
    obtain rfl := eq_of_patchFile_eq (hd.encodable path' hmem).1 hat hfile
    exact ⟨entry, hentry, entryFilename_of_patchPath hpath', hread⟩
  · exact absurd rfl (hnone path hline)

end Run

/-- **The runs that leave a consistent set.** -/
theorem regenerated_iff {copyfile : Str → Bool} {unifiedDiff : Bytes}
    {s s' : PatchStore} {ret : Int} (h : main copyfile unifiedDiff s = .ok ret s') :
    Regenerated unifiedDiff s' ↔ Regenerable unifiedDiff s := by
  constructor
  · exact fun hset => regenerable_of_consistent h hset.consistent
  · intro hd
    refine ⟨consistent_of_regenerable h hd, written_of_regenerable h hd, ?_⟩
    intro path hpath path' hpath' heq
    exact eq_of_patchFile_eq (hd.encodable path hpath).1 (hd.encodable path' hpath').1 heq

/-- A list and a patch file that is no longer in the diff. -/
theorem regenerated_iff_stale : ∃ s' : PatchStore,
    main (fun _ => true) (ascii "diff --git a/base/a.cc b/base/a.cc\n")
      ⟨AList.singleton (patchFile "b.cc".toList) [], some "b.cc".toList⟩ = .ok 0 s' ∧
    Regenerated (ascii "diff --git a/base/a.cc b/base/a.cc\n") s' := by
  have hentries : diffEntries (ascii "diff --git a/base/a.cc b/base/a.cc\n") =
      [ascii "a/base/a.cc b/base/a.cc\n"] := by
    decide
  have hpaths : patchPaths [ascii "a/base/a.cc b/base/a.cc\n"] = ["base/a.cc".toList] := by decide
  obtain ⟨s', hmain⟩ := main_of_readable (fun _ => true) (ascii "diff --git a/base/a.cc b/base/a.cc\n")
    ⟨AList.singleton (patchFile "b.cc".toList) [], some "b.cc".toList⟩ (by decide) (by
      rw [hentries, List.forall_mem_singleton]
      exact ⟨"base/a.cc".toList, by decide, fun _ => rfl⟩)
  refine ⟨s', hmain, (regenerated_iff hmain).2 ⟨?_, nofun, ?_⟩⟩
  · rw [hentries, hpaths]
    decide
  · rw [hentries, hpaths]
    exact nofun

/-- A path with an `@`: its patch file is removed by the run that wrote it. -/
theorem regenerated_at : ∃ s' : PatchStore,
    main (fun _ => true) (ascii "diff --git a/a@b b/a@b\n") ⟨∅, some []⟩ = .ok 0 s' ∧
    checkPatchConsistency true s' ≠ .ok true ∧ ¬ Regenerated (ascii "diff --git a/a@b b/a@b\n") s' := by
  have hentries : diffEntries (ascii "diff --git a/a@b b/a@b\n") = [ascii "a/a@b b/a@b\n"] := by decide
  have hpaths : patchPaths [ascii "a/a@b b/a@b\n"] = ["a@b".toList] := by decide
  obtain ⟨s', hmain⟩ := main_of_readable (fun _ => true) (ascii "diff --git a/a@b b/a@b\n") ⟨∅, some []⟩
    (by decide) (by
      rw [hentries, List.forall_mem_singleton]
      exact ⟨"a@b".toList, by decide, fun _ => rfl⟩)
  have hcheck : checkPatchConsistency true s' ≠ .ok true := by
    intro hcheck
    have hmem : "a@b".toList ∈ patchPaths (diffEntries (ascii "diff --git a/a@b b/a@b\n")) := by
      rw [hentries, hpaths]
      exact List.mem_singleton_self _
    exact at_not_mem_of_consistent hmain hcheck hmem (by decide)
  exact ⟨s', hmain, hcheck, fun hset => hcheck hset.consistent⟩

end DumbBrowser.Scripts
