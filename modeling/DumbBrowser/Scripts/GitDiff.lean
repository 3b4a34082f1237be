import DumbBrowser.Lib.Separator
import DumbBrowser.Scripts.UpdatePatches

/-!
# Cutting the diff

A unified diff is the concatenation of its sections, one for each file; the script cuts it at every
`diff --git ` and takes the path from between `a/` and ` b/`.

* `entryFilename_entry` : the path that is found in a section;
* `read_main` : what any run, finished or not, leaves in a file;
* `lossless_iff` : the diffs that are cut as they were put together.
-/

namespace DumbBrowser.Scripts

open Python UpdatePatches

/-- A section: the line `diff --git a/P b/P`, and whatever header and hunk lines follow. -/
structure GitSection where
  path : Bytes
  newline_not_mem : 10 ∉ path
  body : Bytes

namespace GitSection

def pathEnd : Bytes := ascii " b/"

/-- The section without its leading marker. -/
def entry (s : GitSection) : Bytes := ascii "a/" ++
    (s.path ++ (pathEnd ++ (s.path ++ 10 :: s.body)))

def bytes (s : GitSection) : Bytes := gitDiffPattern ++ s.entry

/-- The markers stand only where a section and a path end. -/
def Unambiguous (s : GitSection) : Prop := ¬ gitDiffPattern <:+: s.entry ∧ ¬ pathEnd <:+: s.path

end GitSection

open GitSection

def unifiedDiff (sections : List GitSection) : Bytes := sections.flatMap bytes

/-- The patch file of a section. -/
def GitSection.PatchedIn (s : GitSection) (file : FileName) : Prop :=
  ∃ filename, decode s.path = .ok filename ∧ patchFile filename = file

/-- The diff is cut into its sections, every path is found, and the patch files hold the
sections. -/
structure Lossless (sections : List GitSection) : Prop where
  entries : diffEntries (unifiedDiff sections) = sections.map entry
  paths : ∀ s ∈ sections, findBetween (ascii "a/") pathEnd s.entry = some s.path
  /-- Any run, also one that raises, leaves in a file what was there or a section. -/
  files : ∀ copyfile store file content,
    (finalState (main copyfile (unifiedDiff sections) store)).read file = some content →
    store.read file = some content ∨ ∃ s ∈ sections, s.PatchedIn file ∧ content = s.bytes
  /-- A run that finishes leaves in the patch file of a section that section, or one that shares its
  file. -/
  patched : ∀ copyfile store ret store', main copyfile (unifiedDiff sections)
    store = .ok ret store' →
    ∀ s ∈ sections, ∀ filename, decode s.path = .ok filename → isDumbSource filename = false →
      filename ∉ exclusionFiles → ∀ content, store'.read (patchFile filename) = some content →
      ∃ s' ∈ sections, s'.PatchedIn (patchFile filename) ∧ content = s'.bytes

/-! ## The markers -/

theorem borderless_gitDiffPattern : Borderless gitDiffPattern := by decide

theorem borderless_pathEnd : Borderless pathEnd := by decide

theorem unifiedDiff_eq (sections : List GitSection) :
    unifiedDiff sections = (sections.map entry).flatMap (gitDiffPattern ++ ·) := by
  rw [unifiedDiff, List.flatMap_map]
  rfl

theorem diffEntries_unifiedDiff {sections : List GitSection}
    (h : ∀ s ∈ sections, ¬ gitDiffPattern <:+: s.entry) :
    diffEntries (unifiedDiff sections) = sections.map entry := by
  rw [diffEntries, unifiedDiff_eq, split_flatMap borderless_gitDiffPattern (by decide),
    List.erase_cons_head]
  exact List.forall_mem_map.2 h

/-- The search starts after `a/`, where the section does. -/
theorem findBetween_entry (s : GitSection) :
    findBetween (ascii "a/") pathEnd s.entry = some s.path ↔
      greedyBefore pathEnd (s.path ++ (pathEnd ++ (s.path ++ 10 :: s.body))) = some s.path := by
  have hfirst : s.path ++ pathEnd <+: s.path ++ (pathEnd ++ (s.path ++ 10 :: s.body)) :=
    ⟨_, List.append_assoc _ _ _⟩
  obtain ⟨found, hfound, -⟩ := greedyBefore_longest s.newline_not_mem hfirst
  have hentry : findBetween (ascii "a/") pathEnd s.entry = some found := by
    rw [entry, show ascii "a/" = [97, 47] by decide, List.cons_append, findBetween]
    simp [hfound]
  rw [hentry, hfound]

theorem findBetween_entry_iff (s : GitSection) :
    findBetween (ascii "a/") pathEnd s.entry = some s.path ↔ ¬ pathEnd <:+: s.path := by
  rw [findBetween_entry]
  exact greedyBefore_twice borderless_pathEnd (by decide) (by decide) s.newline_not_mem s.body

theorem entryFilename_entry {s : GitSection} (h : s.Unambiguous) :
    entryFilename s.entry = decode s.path := by
  have hpath : findBetween (ascii "a/") (ascii " b/") s.entry = some s.path :=
    (findBetween_entry_iff s).2 h.2
  rw [entryFilename, hpath]

/-! ## The runs -/

/-- The loop writes the entries in their order, up to one that raises. -/
theorem finalState_generatePatches (copyfile : Str → Bool) :
    ∀ (diffs : List Bytes) (l : OrderedSet Str)
    (s : PatchStore), ∃ done, done <+: diffs ∧
      finalState (generatePatches copyfile diffs l s) = done.foldl writePatch s := by
  intro diffs
  induction diffs with
  | nil => exact fun l s => ⟨[], List.nil_prefix, rfl⟩
  | cons entry diffs ih =>
    intro l s
    have hraised : ∃ done, done <+: entry :: diffs ∧ s = done.foldl writePatch s :=
      ⟨[], List.nil_prefix, rfl⟩
    have hworked : ∀ (l' : OrderedSet Str) (s' : PatchStore), s' = writePatch s entry →
      ∃ done, done <+: entry :: diffs ∧
        finalState (generatePatches copyfile diffs l' s') = done.foldl writePatch s := by
      rintro l' s' rfl
      obtain ⟨done, hdone, heq⟩ := ih l' (writePatch s entry)
      exact ⟨entry :: done, (List.prefix_cons_inj entry).2 hdone, heq⟩
    rw [generatePatches]
    cases hname : entryFilename entry with
    | error e =>
      exact hraised
    | ok filename =>
      rw [bind_of_ok (liftExcept_eq_ok.2 ⟨rfl, rfl⟩)]
      have hpath := patchPath_of_ok hname
      by_cases hdumb : isDumbSource filename = true
      · rw [if_pos hdumb]
        rw [if_pos (.inl hdumb)] at hpath
        exact hworked l s (by rw [writePatch, hpath])
      · rw [if_neg hdumb]
        by_cases hexcluded : filename ∈ exclusionFiles
        · rw [if_pos hexcluded]
          rw [if_pos (.inr hexcluded)] at hpath
          split
          · exact hworked l s (by rw [writePatch, hpath])
          · exact hraised
        · rw [if_neg hexcluded, modify_bind]
          rw [if_neg (not_or.2 ⟨hdumb, hexcluded⟩)] at hpath
          exact hworked _ _ (by rw [writePatch, hpath])

/-- A run that raises has written the first entries. -/
theorem main_eq_error {copyfile : Str → Bool} {unifiedDiff : Bytes}
    {store store' : PatchStore} {e : PyError}
    (h : main copyfile unifiedDiff store = .error e store') :
    ∃ done, done <+: diffEntries unifiedDiff ∧ store' = done.foldl writePatch store := by
  unfold main at h
  by_cases hempty : [] ∉ split unifiedDiff gitDiffPattern
  · simp only [if_pos hempty] at h
    cases h
    exact ⟨[], List.nil_prefix, rfl⟩
  · simp only [if_neg hempty] at h
    obtain ⟨done, hdone, heq⟩ :=
      finalState_generatePatches copyfile (diffEntries unifiedDiff) .empty store
    cases hloop : generatePatches copyfile (diffEntries unifiedDiff) .empty store with
    | error e' t =>
      rw [diffEntries] at hloop
      rw [bind_of_error hloop] at h
      cases h
      rw [← diffEntries] at hloop
      rw [hloop, finalState] at heq
      exact ⟨done, hdone, heq⟩
    | ok l t =>
      rw [diffEntries] at hloop
      rw [bind_of_ok hloop, get_bind] at h
      split at h <;> cases h

/-- Any run, finished or not, leaves in a file what was there or an entry that it wrote. -/
theorem read_main (copyfile : Str → Bool) (unifiedDiff : Bytes) (store : PatchStore)
    (file : FileName) {content : Bytes}
    (h : (finalState (main copyfile unifiedDiff store)).read file = some content) :
    store.read file = some content ∨ ∃ entry ∈ diffEntries unifiedDiff, ∃ path,
    patchPath entry = some path ∧
      patchFile path = file ∧ content = gitDiffPattern ++ entry := by
  have hwritten : ∀ done, done <+: diffEntries unifiedDiff →
    (done.foldl writePatch store).read file = some content →
      store.read file = some content ∨ ∃ entry ∈ diffEntries unifiedDiff, ∃ path,
        patchPath entry = some path ∧
        patchFile path = file ∧ content = gitDiffPattern ++ entry := by
    intro done hdone hread
    obtain ⟨entry, hentry, path, hpath, hfile, hlast⟩ | ⟨-, hsame⟩ :=
      read_foldl_writePatch file done store
    · rw [hlast] at hread
      exact .inr ⟨entry, hdone.subset hentry, path, hpath, hfile, (Option.some.inj hread).symm⟩
    · exact .inl (hsame ▸ hread)
  cases hrun : main copyfile unifiedDiff store with
  | ok ret store' =>
    rw [hrun, finalState, (main_eq_ok hrun).2] at h
    obtain ⟨-, h⟩ := Option.ite_none_left_eq_some.1 h
    exact hwritten _ List.prefix_rfl h
  | error e store' =>
    rw [hrun, finalState] at h
    obtain ⟨done, hdone, rfl⟩ := main_eq_error hrun
    exact hwritten done hdone h

section Lossless
variable {sections : List GitSection}

theorem unambiguous_of_lossless (h : Lossless sections) : ∀ s ∈ sections, s.Unambiguous := by
  intro s hs
  refine ⟨?_, (findBetween_entry_iff s).1 (h.paths s hs)⟩
  have hmem : s.entry ∈ diffEntries (unifiedDiff sections) := h.entries ▸ List.mem_map_of_mem hs
  exact not_infix_of_mem_split (by decide) (List.mem_of_mem_erase hmem)

/-- An entry with a patch is a section. -/
theorem exists_section (h : ∀ s ∈ sections, s.Unambiguous) {entry : Bytes} {path : Str}
    (hentry : entry ∈ diffEntries (unifiedDiff sections)) (hpath : patchPath entry = some path) :
    ∃ s ∈ sections, s.PatchedIn (patchFile path) ∧ gitDiffPattern ++ entry = s.bytes := by
  rw [diffEntries_unifiedDiff fun s hs => (h s hs).1] at hentry
  obtain ⟨s, hs, rfl⟩ := List.mem_map.1 hentry
  have hname := entryFilename_of_patchPath hpath
  rw [entryFilename_entry (h s hs)] at hname
  exact ⟨s, hs, ⟨path, hname, rfl⟩, rfl⟩

theorem lossless_of_unambiguous (h : ∀ s ∈ sections, s.Unambiguous) : Lossless sections where
  entries := diffEntries_unifiedDiff fun s hs => (h s hs).1
  paths s hs := (findBetween_entry_iff s).2 (h s hs).2
  files copyfile store file content hread := by
    refine (read_main copyfile _ store file hread).imp_right ?_
    rintro ⟨entry, hentry, path, hpath, rfl, rfl⟩
    exact exists_section h hentry hpath
  patched copyfile store ret store' hrun s hs filename hname hdumb hexcluded content hread := by
    rw [(main_eq_ok hrun).2] at hread
    obtain ⟨-, hread⟩ := Option.ite_none_left_eq_some.1 hread
    obtain ⟨entry, hentry, path, hpath, hfile, hlast⟩ | ⟨hnone, -⟩ :=
      read_foldl_writePatch (patchFile filename) (diffEntries (unifiedDiff sections)) store
    · rw [generated, hlast] at hread
      rw [← Option.some.inj hread, ← hfile]
      exact exists_section h hentry hpath
    · have hpath : patchPath s.entry = some filename := by
        rw [patchPath_of_ok ((entryFilename_entry (h s hs)).trans hname), if_neg]
        simp [hdumb, hexcluded]
      have hmem : s.entry ∈ diffEntries (unifiedDiff sections) := by
        rw [diffEntries_unifiedDiff fun s hs => (h s hs).1]
        exact List.mem_map_of_mem hs
      exact absurd rfl (hnone filename (List.mem_filterMap.2 ⟨s.entry, hmem, hpath⟩))

end Lossless

/-- **The diffs that are cut as they were put together.** -/
theorem lossless_iff (sections : List GitSection) :
    Lossless sections ↔ ∀ s ∈ sections, ¬ gitDiffPattern <:+: s.entry ∧ ¬ pathEnd <:+: s.path :=
  ⟨unambiguous_of_lossless, lossless_of_unambiguous⟩

/-- A patch to a document that quotes the marker, and a directory whose name ends in ` b`. -/
def quotedMarker : GitSection where
  path := ascii "README"
  newline_not_mem := by decide
  body := ascii "@@ -0,0 +1 @@\n+run diff --git now\n"

def spacedPath : GitSection where
  path := ascii "a b/c"
  newline_not_mem := by decide
  body := []

/-- The first is cut in two, and the path of the second is lost. -/
theorem diff_cut_inside : diffEntries (unifiedDiff [quotedMarker]) =
      [ascii "a/README b/README\n@@ -0,0 +1 @@\n+run ", ascii "now\n"] ∧
    findBetween (ascii "a/") pathEnd spacedPath.entry = some (ascii "a b/c b/a") ∧
    ¬ Lossless [quotedMarker] ∧ ¬ Lossless [spacedPath] := by
  refine ⟨by decide +kernel, by decide +kernel, fun h => ?_, fun h => ?_⟩
  · exact (unambiguous_of_lossless h quotedMarker (List.mem_singleton_self _)).1 (by decide +kernel)
  · exact (unambiguous_of_lossless h spacedPath (List.mem_singleton_self _)).2 (by decide +kernel)

end DumbBrowser.Scripts
