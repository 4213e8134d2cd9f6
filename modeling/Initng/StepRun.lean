import Mathlib.Data.List.Basic
import Mathlib.Data.List.Induction

/-! A machine is a function from a step and a state to the next state, and a run is a list of steps.
-/

namespace StepRun

open List

variable {σ α : Type*} {apply : α → σ → σ}

/-- The state behind the steps. -/
def run (apply : α → σ → σ) (steps : List α) (c : σ) : σ :=
  steps.foldl (fun c step => apply step c) c

/-- Every step meets the condition in the state before it. -/
def Along (apply : α → σ → σ) (P : σ → α → Prop) : σ → List α → Prop
  | _, [] => True
  | c, step :: steps => P c step ∧ Along apply P (apply step c) steps

@[simp] lemma run_nil (c : σ) : run apply [] c = c := rfl

@[simp] lemma run_cons (step : α) (steps : List α) (c : σ) :
    run apply (step :: steps) c = run apply steps (apply step c) := rfl

lemma run_append (steps steps' : List α) (c : σ) :
    run apply (steps ++ steps') c = run apply steps' (run apply steps c) :=
  foldl_append

variable {P Q : σ → α → Prop} {c : σ} {steps : List α} {I : σ → Prop}

lemma Along.mono (h : ∀ c step, P c step → Q c step) (hP : Along apply P c steps) :
    Along apply Q c steps := by
  induction steps generalizing c with
  | nil => trivial
  | cons step steps ih => exact ⟨h c step hP.1, ih hP.2⟩

lemma Along.and (hP : Along apply P c steps) (hQ : Along apply Q c steps) :
    Along apply (fun c step => P c step ∧ Q c step) c steps := by
  induction steps generalizing c with
  | nil => trivial
  | cons step steps ih => exact ⟨⟨hP.1, hQ.1⟩, ih hP.2 hQ.2⟩

lemma Along.take (h : Along apply P c steps) (k : ℕ) : Along apply P c (steps.take k) := by
  induction steps generalizing c k with
  | nil => simpa using h
  | cons step steps ih =>
    cases k with
    | zero => trivial
    | succ k => exact ⟨h.1, ih h.2 k⟩

/-- What each step keeps under the condition holds behind the run. -/
lemma Along.invariant (hstep : ∀ c step, I c → P c step → I (apply step c))
    (hrun : Along apply P c steps) (h : I c) : I (run apply steps c) := by
  induction steps generalizing c with
  | nil => exact h
  | cons step steps ih => exact ih hrun.2 (hstep c step h hrun.1)

/-- What each step keeps holds behind every run. -/
lemma invariant (hstep : ∀ c step, I c → I (apply step c)) (steps : List α) (h : I c) :
    I (run apply steps c) := by
  induction steps generalizing c with
  | nil => exact h
  | cons step steps ih => exact ih (hstep c step h)

/-- If a step keeps a property exactly when it meets a condition, the property holds all along a
run exactly when every step meets the condition. -/
lemma along_iff_always {Q : σ → Prop} (hstep : ∀ c step, I c → I (apply step c))
    (hiff : ∀ c step, I c → Q c → (Q (apply step c) ↔ P c step)) (hI : I c) (hQ : Q c) :
    (∀ k, Q (run apply (steps.take k) c)) ↔ Along apply P c steps := by
  induction steps generalizing c with
  | nil => simpa [Along] using hQ
  | cons step steps ih =>
    constructor
    · intro hall
      have hnext : Q (apply step c) := hall 1
      exact ⟨(hiff c step hI hQ).mp hnext, (ih (hstep c step hI) hnext).mp fun k => hall (k + 1)⟩
    · intro halong k
      have hnext : Q (apply step c) := (hiff c step hI hQ).mpr halong.1
      cases k with
      | zero => exact hQ
      | succ k => exact (ih (hstep c step hI) hnext).mpr halong.2 k

def watch (apply : α → σ → σ) (sets : σ → α → Bool) (clears : σ → Bool) (step : α)
    (x : σ × Bool) : σ × Bool :=
  (apply step x.1, (x.2 || sets x.1 step) && !clears (apply step x.1))

variable {sets : σ → α → Bool} {clears : σ → Bool}

lemma run_watch_fst (steps : List α) (x : σ × Bool) :
    (run (watch apply sets clears) steps x).1 = run apply steps x.1 := by
  induction steps generalizing x with
  | nil => rfl
  | cons step steps ih => exact ih _

lemma run_watch_snd (steps : List α) (c : σ) :
    (run (watch apply sets clears) steps (c, false)).2 = true ↔
      ∃ before step after, steps = before ++ step :: after ∧
        sets (run apply before c) step = true ∧
        ∀ k, clears (run apply (before ++ step :: after.take k) c) = false := by
  induction steps using reverseRecOn with
  | nil => simp [run]
  | append_singleton steps last ih =>
    rw [run_append, run_cons, run_nil, watch, run_watch_fst]
    simp only [Bool.and_eq_true, Bool.or_eq_true, Bool.not_eq_true', ih]
    constructor
    · rintro ⟨⟨before, step, after, rfl, hsets, hclears⟩ | hsets, hlast⟩
      · refine ⟨before, step, after ++ [last], by simp, hsets, fun k => ?_⟩
        by_cases hk : k ≤ after.length
        · rw [take_append_of_le_length hk]
          exact hclears k
        · rw [take_of_length_le (by simp; omega)]
          simpa [run_append] using hlast
      · refine ⟨steps, last, [], rfl, hsets, fun k => ?_⟩
        simpa [run_append] using hlast
    · rintro ⟨before, step, after, hsteps, hsets, hclears⟩
      rcases eq_nil_or_concat after with rfl | ⟨after, last', rfl⟩
      · obtain ⟨rfl, hlast⟩ := append_inj' hsteps rfl
        obtain rfl : last = step := by simpa using hlast
        refine ⟨.inr hsets, ?_⟩
        simpa [run_append] using hclears 0
      · have hsteps' : steps ++ [last] = (before ++ step :: after) ++ [last'] := by
          simpa using hsteps
        obtain ⟨rfl, hlast⟩ := append_inj' hsteps' rfl
        obtain rfl : last = last' := by simpa using hlast
        simp only [concat_eq_append] at hclears
        refine ⟨.inl ⟨before, step, after, rfl, hsets, fun k => ?_⟩, ?_⟩
        · have hk := hclears (min k after.length)
          rwa [take_append_of_le_length (Nat.min_le_right _ _), ← take_take, take_length] at hk
        · have hall := hclears (after.length + 1)
          rw [take_of_length_le (by simp)] at hall
          simpa [run_append] using hall

instance Along.decidable (P : σ → α → Prop) [∀ c step, Decidable (P c step)] :
    ∀ (c : σ) (steps : List α), Decidable (Along apply P c steps)
  | _, [] => instDecidableTrue
  | c, step :: steps =>
    @instDecidableAnd _ _ _ (Along.decidable P (apply step c) steps)

end StepRun
