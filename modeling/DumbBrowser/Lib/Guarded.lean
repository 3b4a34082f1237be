import Mathlib.Data.List.Basic

/-!
# Guarded sequences

`Guarded R l`: each element of `l` is allowed by `R` after the elements before it. A safety property
of a sequence of messages has this form, and it is proved message by message.
-/

namespace DumbBrowser

variable {α : Type} {R : List α → α → Prop} {l : List α} {x : α}

def Guarded (R : List α → α → Prop) (l : List α) : Prop :=
  ∀ before x after, l = before ++ x :: after → R before x

theorem guarded_nil : Guarded R [] := by
  intro before x after h
  simp at h

theorem Guarded.concat (hl : Guarded R l) (hx : R l x) : Guarded R (l ++ [x]) := by
  intro before y after h
  rcases List.eq_nil_or_concat after with rfl | ⟨after', z, rfl⟩
  · obtain ⟨rfl, hlast⟩ := List.append_inj' h rfl
    exact List.singleton_inj.1 hlast ▸ hx
  · rw [List.concat_eq_append, ← List.cons_append, ← List.append_assoc] at h
    exact hl before y after' (List.append_inj' h rfl).1

end DumbBrowser
