import Mathlib.Data.List.Basic

/-!
# Stateful code that can fault

A computation reads and writes a state and may stop with a fault. `wp m F Q` is its weakest
precondition: `m` ends in `Q`, or it stops with a fault in `F`. `Preserves g m` : a run of `m` that
ends leaves `g` of the state as it was.
-/

namespace DumbBrowser

abbrev Exec (φ σ α : Type) := StateT σ (Except φ) α

namespace Exec

variable {φ σ α β : Type}

def wp (m : Exec φ σ α) (F : φ → Prop) (Q : α → σ → Prop) (s : σ) : Prop :=
  match m s with
  | .ok (a, s') => Q a s'
  | .error e => F e

section Rules
variable {F : φ → Prop} {Q R : α → σ → Prop} {s : σ}

@[simp] theorem wp_pure (a : α) : wp (pure a : Exec φ σ α) F Q s ↔ Q a s := Iff.rfl

@[simp] theorem wp_bind (m : Exec φ σ β) (f : β → Exec φ σ α) :
    wp (m >>= f) F Q s ↔ wp m F (fun b t => wp (f b) F Q t) s := by
  simp only [wp, bind, StateT.bind, Except.bind]
  cases m s <;> rfl

@[simp] theorem wp_map (g : β → α) (m : Exec φ σ β) : wp (g <$> m) F Q s ↔
    wp m F (fun b t => Q (g b) t) s := by
  rw [map_eq_pure_bind, wp_bind]
  rfl

@[simp] theorem wp_get {Q : σ → σ → Prop} : wp (get : Exec φ σ σ) F Q s ↔ Q s s := Iff.rfl

@[simp] theorem wp_modify (f : σ → σ) {Q : PUnit → σ → Prop} :
    wp (modify f : Exec φ σ PUnit) F Q s ↔ Q ⟨⟩ (f s) := Iff.rfl

@[simp] theorem wp_throw (e : φ) : wp (throw e : Exec φ σ α) F Q s ↔ F e := Iff.rfl

theorem wp_ite {c : Prop} [Decidable c] (m n : Exec φ σ α) :
    wp (if c then m else n) F Q s ↔ (c → wp m F Q s) ∧ (¬ c → wp n F Q s) := by
  by_cases hc : c <;> simp [hc]

theorem wp_mono {m : Exec φ σ α} {G : φ → Prop} (h : wp m F Q s) (hF : ∀ e, F e → G e)
    (hQ : ∀ a t, Q a t → R a t) : wp m G R s := by
  unfold wp at h ⊢
  split at h
  · exact hQ _ _ h
  · exact hF _ h

theorem wp_post {m : Exec φ σ α} (h : wp m F Q s) (hQ : ∀ a t, Q a t → R a t) : wp m F R s :=
  wp_mono h (fun _ hF => hF) hQ

theorem wp_ok {m : Exec φ σ α} (h : wp m F Q s) {a : α} {t : σ} (hm : m s = .ok (a, t)) : Q a t := by
  rwa [wp, hm] at h

theorem wp_error {m : Exec φ σ α} (h : wp m F Q s) {e : φ} (hm : m s = .error e) : F e := by
  rwa [wp, hm] at h

/-- A run that cannot fault. -/
theorem wp_total {m : Exec φ σ α} (h : wp m (fun _ => False) Q s) :
    ∃ a t, m s = .ok (a, t) ∧ Q a t := by
  unfold wp at h
  split at h
  · next a t hm => exact ⟨a, t, hm, h⟩
  · exact h.elim

/-- A run that can only fault. -/
theorem wp_fails {m : Exec φ σ α} (h : wp m F (fun _ _ => False) s) :
    ∃ e, m s = .error e ∧ F e := by
  unfold wp at h
  split at h
  · exact h.elim
  · next e hm => exact ⟨e, hm, h⟩

end Rules

/-! ## What a run leaves alone -/

section Frames
variable {γ : Type} {g : σ → γ}

def Preserves (g : σ → γ) (m : Exec φ σ α) : Prop :=
  ∀ s, wp m (fun _ => True) (fun _ t => g t = g s) s

theorem Preserves.ok {m : Exec φ σ α} (h : Preserves g m) {s t : σ} {a : α}
    (hm : m s = .ok (a, t)) : g t = g s :=
  wp_ok (h s) hm

theorem Preserves.pure (a : α) : Preserves g (pure a : Exec φ σ α) := fun _ => rfl

theorem Preserves.get : Preserves g (get : Exec φ σ σ) := fun _ => rfl

theorem Preserves.throw (e : φ) : Preserves g (throw e : Exec φ σ α) := fun _ => trivial

theorem Preserves.modify {f : σ → σ} (hf : ∀ s, g (f s) = g s) :
    Preserves g (modify f : Exec φ σ PUnit) := hf

theorem Preserves.bind {m : Exec φ σ β} {f : β → Exec φ σ α} (hm : Preserves g m)
    (hf : ∀ b, Preserves g (f b)) :
    Preserves g (m >>= f) := by
  intro s
  rw [wp_bind]
  refine wp_post (hm s) fun b t ht => ?_
  exact wp_post (hf b t) fun _ _ hu => hu.trans ht

theorem Preserves.ite {c : Prop} [Decidable c] {m n : Exec φ σ α} (hm : Preserves g m)
    (hn : Preserves g n) :
    Preserves g (if c then m else n) := by
  split
  · exact hm
  · exact hn

end Frames

end Exec

end DumbBrowser
