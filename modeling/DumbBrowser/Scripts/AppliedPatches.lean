import DumbBrowser.Scripts.BuildScripts
import Mathlib.Data.Finset.Card

/-!
# The checker and the applier

The checker takes the lines of `PATCHES` as a set and decodes the names of the files; the applier
takes the lines one by one and encodes them.

* `map_patchFile_originalFilenames` : the decoded names stand for the patch files, one for one;
* `checker_applier_agree_iff` : the checkouts on which the two agree.
-/

namespace DumbBrowser.Scripts

open Python

/-- The patch files of the directory. -/
def PatchStore.patchFiles (s : PatchStore) : List FileName := s.listdir.filter (isPatch ·.1)

/-- The command that applies a file of the patches directory. -/
def applyFile (env : Env) (file : FileName) : Command where
  argv := ["patch".toList, "-p1".toList, "-s".toList, "-i".toList,
    join env.patchesDir file.1, "-d".toList,
    env.chromiumSrcDir, "--no-backup-if-mismatch".toList, "--forward".toList]
  cwd := none

/-- The checker passes for equal sets, and then the applier applies every patch file once and
nothing else. -/
structure CheckerApplierAgree (env : Env) (c : Checkout) : Prop where
  passes : ∀ text, c.store.patches = some text →
    (c.Consistent ↔ (originalFilenames c.store.listdir).toFinset = (readLines text).toFinset)
  applies : c.Consistent →
    (finalState (env.applyPatches (.start c))).log.Perm (c.store.patchFiles.map (applyFile env))

/-- Each line is applied as the file that it encodes to. -/
theorem patchCommands_eq (env : Env) (patchList : List Str) :
    patchCommands env patchList = (patchList.map patchFile).map (applyFile env) := by
  rw [patchCommands, List.map_map]
  rfl

theorem map_patchFile_originalFilenames (s : PatchStore) :
    (originalFilenames s.listdir).map patchFile = s.patchFiles := by
  rw [originalFilenames, List.map_map, PatchStore.patchFiles]
  conv_rhs => rw [← List.map_id (s.listdir.filter (isPatch ·.1))]
  exact List.map_congr_left fun file hfile =>
    patchFile_getOriginalFilename (List.mem_filter.1 hfile).2

theorem log_applyPatches (env : Env) {c : Checkout} (h : c.Consistent) :
    (finalState (env.applyPatches (.start c))).log = (c.patchLines.map patchFile).map
    (applyFile env) := by
  rw [applyPatches_eq env (s := .start c) h, ← patchCommands_eq]
  rfl

/-- The lines of a consistent set are the decoded names. -/
theorem mem_patchLines {c : Checkout} (h : c.Consistent) (name : Str) :
    name ∈ originalFilenames c.store.listdir ↔ name ∈ c.patchLines := by
  obtain ⟨text, htext, hnames⟩ := checkPatchConsistency_iff.1 h
  rw [hnames, Checkout.patchLines, htext]

theorem consistent_iff_toFinset {c : Checkout} {text : Str} (htext : c.store.patches = some text) :
    c.Consistent ↔ (originalFilenames c.store.listdir).toFinset = (readLines text).toFinset := by
  rw [Checkout.Consistent, checkPatchConsistency_iff, htext, Finset.ext_iff]
  simp only [Option.some.injEq, exists_eq_left', List.mem_toFinset]

/-- With lines that are not repeated the applier applies each patch file once. -/
theorem perm_applied (env : Env) {c : Checkout} (h : c.Consistent) (hlines : c.patchLines.Nodup) :
    (finalState (env.applyPatches (.start c))).log.Perm
    (c.store.patchFiles.map (applyFile env)) := by
  have hperm : c.patchLines.Perm (originalFilenames c.store.listdir) :=
    (List.perm_ext_iff_of_nodup hlines (originalFilenames_nodup c.store.listdir_nodup)).2 fun name =>
      (mem_patchLines h name).symm
  rw [log_applyPatches env h, ← map_patchFile_originalFilenames]
  exact (hperm.map patchFile).map (applyFile env)

/-- A line that is repeated is applied again. -/
theorem nodup_of_perm_applied (env : Env) {c : Checkout} (h : c.Consistent)
    (hperm : (finalState (env.applyPatches (.start c))).log.Perm
      (c.store.patchFiles.map (applyFile env))) :
    c.patchLines.Nodup := by
  have hlength := hperm.length_eq
  rw [log_applyPatches env h, ← map_patchFile_originalFilenames] at hlength
  simp only [List.length_map] at hlength
  have hset : c.patchLines.toFinset = (originalFilenames c.store.listdir).toFinset := by
    ext name
    rw [List.mem_toFinset, List.mem_toFinset, mem_patchLines h]
  have hcard := List.toFinset_card_of_nodup (originalFilenames_nodup c.store.listdir_nodup)
  rw [← hset, ← hlength] at hcard
  exact Multiset.coe_nodup.1 (Multiset.toFinset_card_eq_card_iff_nodup.1 hcard)

/-- **The checkouts on which the checker and the applier agree.** -/
theorem checker_applier_agree_iff (env : Env) (c : Checkout) :
    CheckerApplierAgree env c ↔ (c.Consistent → c.patchLines.Nodup) := by
  constructor
  · exact fun hagree h => nodup_of_perm_applied env h (hagree.applies h)
  · exact fun hlines => ⟨fun text htext => consistent_iff_toFinset htext, fun h =>
      perm_applied env h (hlines h)⟩

/-- A file that is listed twice. -/
def listedTwice : Checkout where
  version := "92.0.4515.107\n".toList
  store := ⟨AList.singleton (patchFile "BUILD.gn".toList) (ascii "diff --git a/BUILD.gn b/BUILD.gn\n"),
    some "BUILD.gn\nBUILD.gn".toList⟩
  chromiumSrc := true
  dumbDst := .absent
  out := true
  outDir := fun _ => none

theorem listedTwice_applied_twice (env : Env) : listedTwice.Consistent ∧
    (finalState (env.applyPatches (.start listedTwice))).log =
      [applyFile env (patchFile "BUILD.gn".toList),
          applyFile env (patchFile "BUILD.gn".toList)] := by
  have hconsistent : listedTwice.Consistent := by decide
  refine ⟨hconsistent, ?_⟩
  rw [log_applyPatches env hconsistent, show listedTwice.patchLines = ["BUILD.gn".toList,
    "BUILD.gn".toList] by decide]
  rfl

/-- The checker passes, and the one patch file is applied twice. -/
theorem checker_applier_disagree : listedTwice.Consistent ∧
    listedTwice.store.patchFiles = [patchFile "BUILD.gn".toList] ∧
    (finalState (Env.applyPatches ⟨"/dumb-browser".toList, fun _ => 0⟩
      (.start listedTwice))).log.length = 2 ∧
    ¬ CheckerApplierAgree ⟨"/dumb-browser".toList, fun _ => 0⟩ listedTwice := by
  obtain ⟨hconsistent, hlog⟩ := listedTwice_applied_twice ⟨"/dumb-browser".toList, fun _ => 0⟩
  refine ⟨hconsistent, by decide, congrArg List.length hlog, fun hagree => ?_⟩
  exact absurd (nodup_of_perm_applied _ hconsistent (hagree.applies hconsistent)) (by decide)

end DumbBrowser.Scripts
