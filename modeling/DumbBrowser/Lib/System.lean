import Mathlib.Data.List.Basic

/-!
# Transition systems with faults

An enabled event leads to a state or to a fault. `Reach C` are the states of the runs whose steps
all meet the condition `C`. An observer takes notes of a run and has no part in it.

* `Reach.forget`, `Reach.observe` : an observed system has the runs of the system itself.
-/

namespace DumbBrowser

structure System (σ ε φ : Type) where
  init : σ
  enabled : σ → ε → Prop
  exec : σ → ε → Except φ σ

namespace System

variable {σ ε φ : Type} (S : System σ ε φ)

inductive Reach (C : σ → ε → Prop) : σ → Prop
  | init : Reach C S.init
  | step {s s' : σ} {e : ε} : Reach C s → S.enabled s e → C s e → S.exec s e = .ok s' → Reach C s'

abbrev Reachable (s : σ) : Prop := S.Reach (fun _ _ => True) s

variable {S}

/-- What holds at first and is kept by each step that meets the condition holds in every state of
the runs. -/
theorem Reach.invariant {C : σ → ε → Prop} {I : σ → Prop} (hinit : I S.init)
    (hstep : ∀ s e s', I s → S.enabled s e → C s e → S.exec s e = .ok s' → I s')
    {s : σ} (h : S.Reach C s) :
    I s := by
  induction h with
  | init => exact hinit
  | step _ hen hC hex ih => exact hstep _ _ _ ih hen hC hex

theorem Reach.mono {C D : σ → ε → Prop} (hCD : ∀ s e, C s e → D s e) {s : σ} (h : S.Reach C s) :
    S.Reach D s := by
  induction h with
  | init => exact .init
  | step _ hen hC hex ih => exact .step ih hen (hCD _ _ hC) hex

theorem Reach.reachable {C : σ → ε → Prop} {s : σ} (h : S.Reach C s) : S.Reachable s :=
  h.mono fun _ _ _ => trivial

/-! ## Runs from a state on -/

/-- The system that starts in `s`. -/
def startingAt (S : System σ ε φ) (s : σ) : System σ ε φ := { S with init := s }

instance (s t : σ) (e : ε) [Decidable (S.enabled s e)] : Decidable ((S.startingAt t).enabled s e) :=
  inferInstanceAs (Decidable (S.enabled s e))

theorem Reach.append {C : σ → ε → Prop} {s t : σ} (h : S.Reach C s)
    (h' : (S.startingAt s).Reach C t) : S.Reach C t := by
  induction h' with
  | init => exact h
  | step _ hen hC hex ih => exact ih.step hen hC hex

/-! ## Replaying a list of events -/

section Replay
variable (S) (C : σ → ε → Prop) [∀ s e, Decidable (S.enabled s e)] [∀ s e, Decidable (C s e)]

def replayFrom (s : σ) : List ε → Option σ
  | [] => some s
  | e :: es =>
    if S.enabled s e ∧ C s e then
      match S.exec s e with
      | .ok s' => replayFrom s' es
      | .error _ => none
    else none

def replay (es : List ε) : Option σ := S.replayFrom C S.init es

variable {S C}

theorem reach_of_replayFrom : ∀ {es : List ε} {s s' : σ}, S.Reach C s →
    S.replayFrom C s es = some s' → S.Reach C s'
  | [], s, s', hs, h => by
    rw [replayFrom, Option.some.injEq] at h
    exact h ▸ hs
  | e :: es, s, s', hs, h => by
    rw [replayFrom] at h
    split at h
    · next hok =>
      split at h
      · next hex => exact reach_of_replayFrom (hs.step hok.1 hok.2 hex) h
      · cases h
    · cases h

theorem reach_of_replay (es : List ε) {s : σ} (h : S.replay C es = some s) : S.Reach C s :=
  reach_of_replayFrom .init h

end Replay

/-! ## Observers -/

section Observers
variable {η : Type} (S) (note : σ → ε → σ → η → η) (start : η)

/-- The system beside an observer, who notes each step. -/
def observed : System (σ × η) ε φ where
  init := (S.init, start)
  enabled s e := S.enabled s.1 e
  exec s e := (S.exec s.1 e).map fun s' => (s', note s.1 e s' s.2)

instance [∀ s e, Decidable (S.enabled s e)] (s : σ × η) (e : ε) :
    Decidable ((S.observed note start).enabled s e) :=
  inferInstanceAs (Decidable (S.enabled s.1 e))

variable {S} {note} {start} {C : σ → ε → Prop}

theorem observed_exec {s s' : σ × η} {e : ε} :
    (S.observed note start).exec s e = .ok s' ↔ S.exec s.1 e = .ok s'.1 ∧
    s'.2 = note s.1 e s'.1 s.2 := by
  obtain ⟨s', h'⟩ := s'
  simp only [observed]
  cases S.exec s.1 e with
  | error fault => simp [Except.map]
  | ok t =>
    simp only [Except.map, Except.ok.injEq, Prod.mk.injEq]
    constructor
    · rintro ⟨rfl, rfl⟩
      exact ⟨rfl, rfl⟩
    · rintro ⟨rfl, rfl⟩
      exact ⟨rfl, rfl⟩

/-- What is observed is a run of the system. -/
theorem Reach.forget {s : σ × η} (h : (S.observed note start).Reach (fun s e => C s.1 e) s) :
    S.Reach C s.1 := by
  induction h with
  | init => exact .init
  | step _ hen hC hex ih => exact ih.step hen hC (observed_exec.1 hex).1

/-- Every run can be observed. -/
theorem Reach.observe {s : σ} (h : S.Reach C s) : ∃ notes,
    (S.observed note start).Reach (fun s e => C s.1 e) (s, notes) := by
  induction h with
  | init => exact ⟨start, .init⟩
  | @step s s' e _ hen hC hex ih =>
    obtain ⟨notes, hreach⟩ := ih
    exact ⟨note s e s' notes, hreach.step hen hC (observed_exec.2 ⟨hex, rfl⟩)⟩

end Observers

end System

end DumbBrowser
