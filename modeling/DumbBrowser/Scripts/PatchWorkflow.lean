import DumbBrowser.Scripts.AppliedPatches
import DumbBrowser.Scripts.GitDiff
import DumbBrowser.Scripts.RegeneratedPatches

/-!
# Regenerating and applying

The patches are regenerated from the output of `git diff` again and again, and applied to a clean
checkout.

* `update_history` : what a run of `update_patches.py` leaves does not depend on the runs before it,
  whether they finished or not;
* `update_then_apply_iff` : the diffs whose sections `apply_patches.py` applies, each once and in
  their order.
-/

namespace DumbBrowser.Scripts

open Python UpdatePatches GitSection

/-! ## Earlier runs -/

section History
variable {copyfile : Str → Bool} {unifiedDiff : Bytes} {s t : PatchStore} {file : FileName}

/-- What stands in a file after the loop is from the loop, or it was there. -/
theorem read_foldl_writePatch_congr : ∀ {entries : List Bytes} {s t : PatchStore},
    ((∃ path ∈ patchPaths entries, patchFile path = file) ∨ s.read file = t.read file) →
    (entries.foldl writePatch s).read file = (entries.foldl writePatch t).read file := by
  intro entries
  induction entries with
  | nil => exact fun h => h.resolve_left fun ⟨path, hpath, _⟩ => absurd hpath List.not_mem_nil
  | cons entry entries ih =>
    intro s t h
    rw [List.foldl_cons, List.foldl_cons]
    apply ih
    cases hpath : patchPath entry with
    | none =>
      rw [patchPaths, List.filterMap_cons_none hpath] at h
      rw [writePatch, writePatch, hpath]
      exact h
    | some path =>
      rw [patchPaths, List.filterMap_cons_some hpath] at h
      rw [writePatch, writePatch, hpath, PatchStore.read_write, PatchStore.read_write]
      by_cases hfile : file = patchFile path
      · exact .inr (by rw [if_pos hfile, if_pos hfile])
      · rw [if_neg hfile, if_neg hfile]
        refine h.imp_left ?_
        rintro ⟨path', hpath', rfl⟩
        rcases List.mem_cons.1 hpath' with rfl | hpath'
        · exact absurd rfl hfile
        · exact ⟨path', hpath', rfl⟩

/-- Only patch files are written. -/
theorem read_foldl_writePatch_other (hfile : isPatch file.1 = false)
    (entries : List Bytes) (s : PatchStore) :
    (entries.foldl writePatch s).read file = s.read file := by
  rcases read_foldl_writePatch file entries s with ⟨entry, -, path, -, rfl, -⟩ | ⟨-, hread⟩
  · rw [isPatch_patchFile] at hfile
    cases hfile
  · exact hread

/-- What a run leaves alone, finished or not: whether there is a list, if there was one, and the
files that are no patches. -/
theorem finalState_main (hs : s.patches.isSome = true) :
    (finalState (main copyfile unifiedDiff s)).patches.isSome = true ∧
      ∀ file : FileName, isPatch file.1 = false →
        (finalState (main copyfile unifiedDiff s)).read file = s.read file := by
  cases hrun : main copyfile unifiedDiff s with
  | ok ret s' =>
    obtain ⟨hpatches, hread⟩ := main_eq_ok hrun
    refine ⟨by rw [finalState, hpatches]; rfl, fun file hfile => ?_⟩
    rw [finalState, hread, if_neg fun hstale => by simp [hstale.2.1] at hfile]
    exact read_foldl_writePatch_other hfile _ s
  | error e s' =>
    obtain ⟨done, -, rfl⟩ := main_eq_error hrun
    refine ⟨by rw [finalState, foldl_writePatch_patches, hs], fun file hfile => ?_⟩
    exact read_foldl_writePatch_other hfile done s

/-- The store after runs of the script, for each of which it is said what can be copied and what
`git diff` prints. -/
def afterRuns (s : PatchStore) (runs : List ((Str → Bool) × Bytes)) : PatchStore :=
  runs.foldl (fun s run => finalState (main run.1 run.2 s)) s

theorem afterRuns_spec (runs : List ((Str → Bool) × Bytes)) :
    ∀ {s : PatchStore}, s.patches.isSome = true →
    (afterRuns s runs).patches.isSome = true ∧
      ∀ file : FileName, isPatch file.1 = false → (afterRuns s runs).read file = s.read file := by
  induction runs with
  | nil => exact fun hs => ⟨hs, fun _ _ => rfl⟩
  | cons run runs ih =>
    intro s hs
    obtain ⟨hlist, hother⟩ := @finalState_main run.1 run.2 s hs
    obtain ⟨hlists, hothers⟩ := ih hlist
    exact ⟨hlists, fun file hfile => (hothers file hfile).trans (hother file hfile)⟩

theorem readable_of_generatePatches :
    ∀ {diffs : List Bytes} {l l' : OrderedSet Str} {s s' : PatchStore},
    generatePatches copyfile diffs l s = .ok l' s' → ∀ entry ∈ diffs, Readable copyfile entry := by
  intro diffs
  induction diffs with
  | nil => exact fun _ entry hentry => absurd hentry List.not_mem_nil
  | cons entry diffs ih =>
    intro l l' s s' h
    refine List.forall_mem_cons.2 ⟨?_, ih (generatePatches_cons_eq_ok h)⟩
    rw [generatePatches, bind_eq_ok] at h
    obtain ⟨filename, t, hlift, h⟩ := h
    refine ⟨filename, (liftExcept_eq_ok.1 hlift).1, fun hexcluded => ?_⟩
    have hdumb : isDumbSource filename = false := by
      rw [exclusionFiles, List.mem_singleton] at hexcluded
      rw [hexcluded]
      decide
    rw [if_neg (by simp [hdumb]), if_pos hexcluded] at h
    split at h
    · next hcopy => exact hcopy
    · cases h

/-- Whether a run finishes does not depend on the store. -/
theorem main_finishes {s' : PatchStore} {ret : Int} (h : main copyfile unifiedDiff s = .ok ret s')
    (t : PatchStore) :
    ∃ t', main copyfile unifiedDiff t = .ok 0 t' := by
  unfold main at h
  by_cases hempty : [] ∉ split unifiedDiff gitDiffPattern
  · simp only [if_pos hempty] at h
    cases h
  · simp only [if_neg hempty] at h
    rw [bind_eq_ok] at h
    obtain ⟨l, t, hloop, -⟩ := h
    exact main_of_readable copyfile unifiedDiff _ (not_not.1 hempty)
      (readable_of_generatePatches hloop)

/-- From stores with a list and with the same other files, a diff leads to the same files. -/
theorem update_determined {s' t' : PatchStore} {ret ret' : Int} (hs : s.patches.isSome = true)
    (ht : t.patches.isSome = true)
    (hother : ∀ file : FileName, isPatch file.1 = false → t.read file = s.read file)
    (h : main copyfile unifiedDiff s = .ok ret s')
    (h' : main copyfile unifiedDiff t = .ok ret' t') :
    t'.patches = s'.patches ∧ ∀ file, t'.read file = s'.read file := by
  refine ⟨(main_eq_ok h').1.trans (main_eq_ok h).1.symm, fun file => ?_⟩
  rw [(main_eq_ok h').2, (main_eq_ok h).2]
  by_cases hstale : Stale (newPatchList unifiedDiff) file
  · rw [if_pos ⟨ht, hstale⟩, if_pos ⟨hs, hstale⟩]
  · rw [if_neg fun h => hstale h.2, if_neg fun h => hstale h.2]
    apply read_foldl_writePatch_congr
    cases hpatch : isPatch file.1 with
    | false => exact .inr (hother file hpatch)
    | true =>
      have hlisted : getOriginalFilename file.1 ∈ (newPatchList unifiedDiff).items :=
        not_not.1 fun hnot => hstale ⟨hpatch, hnot⟩
      exact .inl ⟨_, mem_newPatchList.1 hlisted, patchFile_getOriginalFilename hpatch⟩

/-- **The patches depend on the last diff alone.** Where there was a list, a run that finishes also
finishes after any earlier runs, on other diffs, finished or not, and leaves the same files. -/
theorem update_history {s' : PatchStore} {ret : Int} (hs : s.patches.isSome = true)
    (h : main copyfile unifiedDiff s = .ok ret s') (runs : List ((Str → Bool) × Bytes)) :
    ∃ s'', main copyfile unifiedDiff (afterRuns s runs) = .ok 0 s'' ∧ s''.patches = s'.patches ∧
      ∀ file, s''.read file = s'.read file := by
  obtain ⟨hlist, hother⟩ := afterRuns_spec runs hs
  obtain ⟨s'', h''⟩ := main_finishes h (afterRuns s runs)
  exact ⟨s'', h'', update_determined hs hlist hother h h''⟩

end History

/-! ## Applying what has been regenerated -/

section Applied
variable {sections : List GitSection} {copyfile : Str → Bool}
  {store store' : PatchStore} {ret : Int}

/-- The path of a section that gets a patch. -/
def GitSection.target (s : GitSection) : Option Str :=
  (decode s.path).toOption.filter fun filename => !isDumbSource filename &&
    !exclusionFiles.contains filename

/-- The applier goes through the sections, and its patch files hold them. -/
structure AppliesSections (env : Env) (sections : List GitSection) (c : Checkout) : Prop where
  consistent : c.Consistent
  commands : (finalState (env.applyPatches (.start c))).log =
    (sections.filterMap target).map fun path => applyFile env (patchFile path)
  contents : ∀ s ∈ sections, ∀ path, s.target = some path →
    c.store.read (patchFile path) = some s.bytes

/-- There is a section to apply, no path has two, every path can be encoded, and without a list
every old patch file is written anew. -/
structure Appliable (sections : List GitSection) (store : PatchStore) : Prop where
  some : sections.filterMap target ≠ []
  distinct : (sections.filterMap target).Nodup
  encodable : ∀ path ∈ sections.filterMap target, '@' ∉ path ∧ '\r' ∉ path
  unlisted : store.patches = none → ∀ path ∈ originalFilenames store.listdir,
    path ∈ sections.filterMap target

theorem GitSection.target_eq (s : GitSection) :
    s.target = (decode s.path).toOption.filter fun filename => !isDumbSource filename &&
    filename ∉ exclusionFiles := by
  simp only [target, List.contains_eq_mem, decide_not]

theorem patchPaths_unifiedDiff (hcut : ∀ s ∈ sections, s.Unambiguous) :
    patchPaths (diffEntries (unifiedDiff sections)) = sections.filterMap target := by
  rw [diffEntries_unifiedDiff fun s hs => (hcut s hs).1, patchPaths, List.filterMap_map]
  refine List.filterMap_congr fun s hs => ?_
  rw [Function.comp_apply, patchPath, entryFilename_entry (hcut s hs), target_eq]

/-- Sections with one path are one. -/
theorem eq_of_target_eq (hdistinct : (sections.filterMap target).Nodup)
    {s t : GitSection} {path : Str} (hs : s ∈ sections) (ht : t ∈ sections)
    (hpath : s.target = some path) (hpath' : t.target = some path) : s = t := by
  induction sections with
  | nil => exact absurd hs List.not_mem_nil
  | cons u sections ih =>
    have hlater : ∀ v ∈ sections, v.target = some path → u.target ≠ some path := by
      intro v hv hvpath hupath
      rw [List.filterMap_cons_some hupath, List.nodup_cons] at hdistinct
      exact hdistinct.1 (List.mem_filterMap.2 ⟨v, hv, hvpath⟩)
    have hrest : (sections.filterMap target).Nodup :=
      hdistinct.sublist ((List.sublist_cons_self u sections).filterMap target)
    rcases List.mem_cons.1 hs with rfl | hs'
    · rcases List.mem_cons.1 ht with rfl | ht'
      · rfl
      · exact absurd hpath (hlater t ht' hpath')
    · rcases List.mem_cons.1 ht with rfl | ht'
      · exact absurd hpath' (hlater s hs' hpath)
      · exact ih hrest hs' ht'

theorem newPatchList_eq (hcut : ∀ s ∈ sections, s.Unambiguous)
    (hdistinct : (sections.filterMap target).Nodup) :
    (newPatchList (unifiedDiff sections)).items = sections.filterMap target := by
  rw [newPatchList, patchPaths_unifiedDiff hcut]
  exact OrderedSet.items_foldl_add (s := .empty) hdistinct

theorem Appliable.regenerable (hcut : ∀ s ∈ sections, s.Unambiguous)
    (h : Appliable sections store) :
    Regenerable (unifiedDiff sections) store := by
  have hpaths := patchPaths_unifiedDiff hcut
  exact ⟨hpaths ▸ h.encodable, fun hnone _ => hpaths ▸ h.unlisted hnone, fun hblank =>
    absurd (hpaths ▸ hblank) h.some⟩

variable {c : Checkout} (env : Env)

/-- The lines of a list that has been written. -/
theorem patchLines_of_main (h : main copyfile (unifiedDiff sections) store = .ok ret c.store)
    (hd : Regenerable (unifiedDiff sections) store)
    (hne : patchPaths (diffEntries (unifiedDiff sections)) ≠ []) :
    c.patchLines = (newPatchList (unifiedDiff sections)).items := by
  rw [Checkout.patchLines, (main_eq_ok h).1]
  exact readLines_newPatchList (fun path hpath => (hd.encodable path hpath).2) hne

theorem appliesSections (hcut : ∀ s ∈ sections, s.Unambiguous)
    (h : main copyfile (unifiedDiff sections) store = .ok ret c.store)
    (happliable : Appliable sections store) :
    AppliesSections env sections c := by
  have hd := happliable.regenerable hcut
  have hconsistent : c.Consistent := consistent_of_regenerable h hd
  have hpaths := patchPaths_unifiedDiff hcut
  have hlines : c.patchLines = sections.filterMap target :=
    (patchLines_of_main h hd (hpaths ▸ happliable.some)).trans
      (newPatchList_eq hcut happliable.distinct)
  refine ⟨hconsistent, ?_, fun s hs path hpath => ?_⟩
  · rw [log_applyPatches env hconsistent, hlines, List.map_map]
    rfl
  · have hmem : path ∈ patchPaths (diffEntries (unifiedDiff sections)) :=
      hpaths ▸ List.mem_filterMap.2 ⟨s, hs, hpath⟩
    have hat := (hd.encodable path hmem).1
    rw [read_of_listed h fun _ => by rwa [getOriginalFilename_patchFile hat], generated]
    obtain ⟨entry, hentry, path', hpath', hfile, hread⟩ | ⟨hnone, -⟩ :=
      read_foldl_writePatch (patchFile path) (diffEntries (unifiedDiff sections)) store
    · have hmem' : path' ∈ patchPaths (diffEntries (unifiedDiff sections)) :=
        List.mem_filterMap.2 ⟨entry, hentry, hpath'⟩
      obtain rfl := eq_of_patchFile_eq (hd.encodable path' hmem').1 hat hfile
      rw [diffEntries_unifiedDiff fun s hs => (hcut s hs).1] at hentry
      obtain ⟨t, ht, rfl⟩ := List.mem_map.1 hentry
      rw [patchPath, entryFilename_entry (hcut t ht), ← target_eq] at hpath'
      rw [hread, eq_of_target_eq happliable.distinct hs ht hpath hpath', bytes]
    · exact absurd rfl (hnone path hmem)

theorem appliable_of_appliesSections (hcut : ∀ s ∈ sections, s.Unambiguous)
    (h : main copyfile (unifiedDiff sections) store = .ok ret c.store)
    (happlies : AppliesSections env sections c) :
    Appliable sections store := by
  have hpaths := patchPaths_unifiedDiff hcut
  have hd := regenerable_of_consistent h happlies.consistent
  have hlength := congrArg List.length happlies.commands
  rw [log_applyPatches env happlies.consistent, List.length_map, List.length_map,
    List.length_map] at hlength
  have hne : sections.filterMap target ≠ [] := by
    intro hblank
    rw [Checkout.patchLines, (main_eq_ok h).1, hblank] at hlength
    exact absurd (congrArg List.length (readLines_newPatchList_of_blank (hpaths.trans hblank)) ▸
      hlength) (by decide)
  have hlines := patchLines_of_main h hd (hpaths ▸ hne)
  refine ⟨hne, ?_, hpaths ▸ hd.encodable, fun hnone => hpaths ▸ hd.unlisted hnone (hpaths ▸ hne)⟩
  have hset : (newPatchList (unifiedDiff sections)).items.toFinset =
      (sections.filterMap target).toFinset := by
    ext path
    rw [List.mem_toFinset, List.mem_toFinset, mem_newPatchList, hpaths]
  have hcard := List.toFinset_card_of_nodup (newPatchList (unifiedDiff sections)).nodup
  rw [hset, ← hlines, hlength] at hcard
  exact Multiset.coe_nodup.1 (Multiset.toFinset_card_eq_card_iff_nodup.1 hcard)

/-- **The diffs that are applied as they were made.** -/
theorem update_then_apply_iff (hcut : ∀ s ∈ sections, s.Unambiguous)
    (h : main copyfile (unifiedDiff sections) store = .ok ret c.store) :
    AppliesSections env sections c ↔ Appliable sections store :=
  ⟨appliable_of_appliesSections env hcut h, appliesSections env hcut h⟩

end Applied

/-! ## Two sections and a stale patch -/

def baseSection : GitSection where
  path := ascii "base/a.cc"
  newline_not_mem := by decide
  body := ascii "@@ -1 +0,0 @@\n-a\n"

def buildSection : GitSection where
  path := ascii "BUILD.gn"
  newline_not_mem := by decide
  body := ascii "@@ -1 +0,0 @@\n-b\n"

def staleStore : PatchStore := ⟨AList.singleton (patchFile "b.cc".toList) [], some "b.cc".toList⟩

theorem unambiguous_sections : ∀ s ∈ [baseSection, buildSection], s.Unambiguous := by
  have hbase : baseSection.Unambiguous := ⟨by decide +kernel, by decide +kernel⟩
  have hbuild : buildSection.Unambiguous := ⟨by decide +kernel, by decide +kernel⟩
  simp [hbase, hbuild]

theorem targets_sections : [baseSection, buildSection].filterMap target =
    ["base/a.cc".toList, "BUILD.gn".toList] := by
  decide +kernel

theorem main_sections : ∃ store', main (fun _ => true)
    (unifiedDiff [baseSection, buildSection]) staleStore = .ok 0 store' := by
  refine main_of_readable _ _ _ (by decide +kernel) ?_
  rw [diffEntries_unifiedDiff fun s hs => (unambiguous_sections s hs).1]
  have hbase : entryFilename baseSection.entry = .ok "base/a.cc".toList := by decide +kernel
  have hbuild : entryFilename buildSection.entry = .ok "BUILD.gn".toList := by decide +kernel
  simp only [List.map_cons, List.map_nil, List.forall_mem_cons]
  exact ⟨⟨_, hbase, fun _ => rfl⟩, ⟨_, hbuild, fun _ => rfl⟩, nofun⟩

/-- A diff that ends in the middle: the run before has raised after its first patch. -/
theorem update_history_raised : ∃ s' s'',
    main (fun _ => true) (unifiedDiff [baseSection, buildSection]) staleStore = .ok 0 s' ∧
    main (fun _ => true) (unifiedDiff [baseSection, buildSection])
      (afterRuns staleStore [(fun _ => true, ascii "diff --git a/c b/c\ndiff --git ")]) = .ok 0 s'' ∧
    ∀ file, s''.read file = s'.read file := by
  obtain ⟨s', h⟩ := main_sections
  obtain ⟨s'', h'', -, hread⟩ := update_history rfl h [(fun _ => true, ascii "diff --git a/c b/c\ndiff --git ")]
  exact ⟨s', s'', h, h'', hread⟩

/-- The two sections are applied in their order. -/
theorem update_then_apply_iff_sections : ∃ store',
    main (fun _ => true) (unifiedDiff [baseSection, buildSection]) staleStore = .ok 0 store' ∧
    AppliesSections ⟨"/dumb-browser".toList, fun _ => 0⟩ [baseSection, buildSection]
    { listedTwice with store := store' } := by
  obtain ⟨store', h⟩ := main_sections
  refine ⟨store', h, (update_then_apply_iff _ unambiguous_sections
    (c := { listedTwice with store := store' }) h).2 ?_⟩
  refine ⟨?_, ?_, ?_, nofun⟩ <;> rw [targets_sections] <;> decide

end DumbBrowser.Scripts
