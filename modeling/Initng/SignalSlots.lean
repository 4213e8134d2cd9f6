import Initng.SignalDelivery
import Mathlib.Algebra.BigOperators.Ring.Finset
import Mathlib.Algebra.Order.BigOperators.Group.Finset
import Mathlib.Data.Fintype.BigOperators

namespace Initng

open StepRun List Function

inductive AtomicStep
  | signal (sig : Signal)
  | dispatch
  deriving DecidableEq

def AtomicStep.apply : AtomicStep → Signals → Signals
  | signal sig, c =>
    match setSignal sig c.got with
    | some got => { c with got := got, log := .delivered sig :: c.log }
    | none => { c with log := .stackFull sig :: .delivered sig :: c.log }
  | dispatch, c => c.dispatch

variable {c : Signals}

lemma AtomicStep.signal_eq_handlerSteps (hf : c.frames = []) (sig : Signal) :
    ∃ n, (c.deliver sig).handlerSteps n = AtomicStep.apply (.signal sig) c := by
  have hframes : (c.deliver sig).frames = [⟨sig, 0, .isSig⟩] := by simp [Signals.deliver, hf]
  obtain ⟨n, hn⟩ := Signals.handlerSteps_eq 0 (Nat.zero_le _) hframes
  refine ⟨n, hn.trans ?_⟩
  rw [drop_zero, apply, setSignal]
  have hgot : (c.deliver sig).got = c.got := by simp [Signals.deliver, hf]
  rw [hgot]
  cases setSignalLoop sig c.got (finRange signalStack) <;> simp [Signals.deliver, hf]

/-- Between two positions the taken slots come first, and hold no signal twice. -/
def Packed (a b : ℕ) (got : SignalsGot) : Prop :=
  ∀ i j : Fin signalStack, a ≤ i → i < j → j < b → got j ≠ none → got i ≠ none ∧ got i ≠ got j

structure SlotsOk (c : Signals) : Prop where
  below : Packed 0 c.pass.emptied c.got
  above : Packed c.pass.emptied signalStack c.got

section
variable {a b : ℕ} {got : SignalsGot} {sig : Signal} {i : Fin signalStack}

lemma Packed.mono_left {a' : ℕ} (h : Packed a b got) (ha : a ≤ a') : Packed a' b got :=
  fun x y hx hxy hy => h x y (ha.trans hx) hxy hy

lemma Packed.store (h : Packed a b got) (hfree : got i = none)
    (hfirst : ∀ j < i, got j ≠ none ∧ got j ≠ some sig) :
    Packed a b (update got i (some sig)) := by
  intro x y hx hxy hy htaken
  by_cases hyi : y = i
  · subst hyi
    rw [update_self, update_of_ne hxy.ne]
    exact hfirst x hxy
  · rw [update_of_ne hyi] at htaken ⊢
    obtain ⟨hnone, hne⟩ := h x y hx hxy hy htaken
    have hxi : x ≠ i := fun e => hnone (e ▸ hfree)
    rw [update_of_ne hxi]
    exact ⟨hnone, hne⟩

lemma Packed.extend (h : Packed a i got) (hfree : got i = none) : Packed a (i + 1) got := by
  intro x y hx hxy hy htaken
  have hyi : y ≠ i := fun e => htaken (e ▸ hfree)
  exact h x y hx hxy (by omega) htaken

lemma Packed.free (h : Packed a b got) (hi : b ≤ i ∨ (i : ℕ) < a) :
    Packed a b (update got i none) := by
  intro x y hx hxy hy htaken
  have hxi : x ≠ i := by rintro rfl; omega
  have hyi : y ≠ i := by rintro rfl; omega
  rw [update_of_ne hyi] at htaken ⊢
  rw [update_of_ne hxi]
  exact h x y hx hxy hy htaken

end

lemma SlotsOk.signal (h : SlotsOk c) (sig : Signal) :
    SlotsOk (AtomicStep.apply (.signal sig) c) := by
  rw [AtomicStep.apply]
  cases hgot : setSignal sig c.got with
  | none => exact ⟨h.below, h.above⟩
  | some got =>
    rcases setSignal_eq_some hgot with ⟨rfl, -⟩ | ⟨i, hfree, hfirst, rfl⟩
    · exact ⟨h.below, h.above⟩
    · exact ⟨h.below.store hfree hfirst, h.above.store hfree hfirst⟩

lemma SlotsOk.dispatch (h : SlotsOk c) : SlotsOk c.dispatch := by
  obtain ⟨hbelow, habove⟩ := h
  unfold Signals.dispatch
  cases hp : c.pass with
  | outside =>
    rw [hp] at hbelow habove
    exact ⟨hbelow, habove⟩
  | test i =>
    rw [hp] at hbelow habove
    dsimp only
    split
    next hi =>
      split
      next hfree => exact ⟨Packed.extend hbelow hfree, habove.mono_left (Nat.le_succ i)⟩
      next => exact ⟨hbelow, habove⟩
    next hi =>
      -- behind the last slot all of them have been emptied
      have hi : signalStack ≤ i := not_lt.mp hi
      exact ⟨fun x y _ _ hy => absurd hy (Nat.not_lt_zero _),
        fun x y hx hxy hy => hbelow x y hx hxy (lt_of_lt_of_le hy hi)⟩
  | read i =>
    rw [hp] at hbelow habove
    exact ⟨hbelow, habove⟩
  | reset i sig =>
    rw [hp] at hbelow habove
    refine ⟨Packed.extend (hbelow.free (.inl (le_refl _))) (update_self ..), ?_⟩
    exact (habove.mono_left (Nat.le_succ i)).free (.inr (Nat.lt_succ_self i))
  | callers | handling =>
    rw [hp] at hbelow habove
    exact ⟨hbelow, habove⟩

lemma SlotsOk.step (h : SlotsOk c) (step : AtomicStep) : SlotsOk (step.apply c) := by
  cases step with
  | signal sig => exact h.signal sig
  | dispatch => exact h.dispatch

lemma slotsOk_signalEnable : SlotsOk signalEnable :=
  ⟨fun _ _ _ _ _ h => absurd rfl h, fun _ _ _ _ _ h => absurd rfl h⟩

/-- No slot holds the signal, and two slots hold each of the others. -/
def Crowded (sig : Signal) (got : SignalsGot) : Prop :=
  ¬ Holding sig got ∧ ∀ t ≠ sig, ∃ i j, i ≠ j ∧ got i = some t ∧ got j = some t

def slotsWith (got : SignalsGot) (content : Option Signal) : ℕ :=
  (Finset.univ.filter fun i => got i = content).card

section
variable {got : SignalsGot} {sig : Signal}

lemma Packed.eq_of_same {a b : ℕ} (h : Packed a b got) {i j : Fin signalStack}
    (hi : a ≤ i ∧ i < b) (hj : a ≤ j ∧ j < b) (hti : got i = some sig) (htj : got j = some sig) :
    i = j := by
  rcases lt_trichotomy i j with hij | hij | hij
  · exact absurd (hti.trans htj.symm) (h i j hi.1 hij hj.2 (by simp [htj])).2
  · exact hij
  · exact absurd (htj.trans hti.symm) (h j i hj.1 hij hi.2 (by simp [hti])).2

lemma slotsWith_le_two {p : ℕ} (hbelow : Packed 0 p got) (habove : Packed p signalStack got)
    (t : Signal) : slotsWith got (some t) ≤ 2 := by
  unfold slotsWith
  rw [← Finset.card_filter_add_card_filter_not (fun i : Fin signalStack => (i : ℕ) < p)]
  refine Nat.add_le_add (b := 1) (d := 1) ?_ ?_
  · apply Finset.card_le_one.mpr
    intro i hi j hj
    simp only [Finset.mem_filter, Finset.mem_univ, true_and] at hi hj
    exact hbelow.eq_of_same ⟨Nat.zero_le _, hi.2⟩ ⟨Nat.zero_le _, hj.2⟩ hi.1 hj.1
  · apply Finset.card_le_one.mpr
    intro i hi j hj
    simp only [Finset.mem_filter, Finset.mem_univ, true_and, not_lt] at hi hj
    exact habove.eq_of_same ⟨hi.2, i.isLt⟩ ⟨hj.2, j.isLt⟩ hi.1 hj.1

lemma slotsWith_total (got : SignalsGot) (sig : Signal) :
    slotsWith got none + slotsWith got (some sig) +
      ∑ t ∈ Finset.univ.erase sig, slotsWith got (some t) = signalStack := by
  have htotal := Finset.card_eq_sum_card_fiberwise (s := (Finset.univ : Finset (Fin signalStack)))
    (t := (Finset.univ : Finset (Option Signal))) (f := got) (fun _ _ => Finset.mem_univ _)
  rw [Finset.card_univ, Fintype.card_fin, Fintype.sum_option,
    ← Finset.add_sum_erase _ _ (Finset.mem_univ sig), ← add_assoc] at htotal
  exact htotal.symm

lemma slotsWith_eq_zero {content : Option Signal} :
    slotsWith got content = 0 ↔ ∀ i, got i ≠ content := by
  simp [slotsWith, Finset.filter_eq_empty_iff]

lemma sum_two_erase (sig : Signal) : ∑ _t ∈ Finset.univ.erase sig, 2 = signalStack := by
  rw [Finset.sum_const, Finset.card_erase_of_mem (Finset.mem_univ sig)]
  rfl

lemma setSignal_eq_none_iff_crowded (htwo : ∀ t, slotsWith got (some t) ≤ 2) :
    setSignal sig got = none ↔ Crowded sig got := by
  have htotal := slotsWith_total got sig
  simp only [setSignal, setSignalLoop_eq_none, mem_finRange, forall_const]
  constructor
  · intro hfull
    have hfree : slotsWith got none = 0 := slotsWith_eq_zero.mpr fun i => (hfull i).1
    have hsig : slotsWith got (some sig) = 0 := slotsWith_eq_zero.mpr fun i => (hfull i).2
    refine ⟨fun ⟨i, hi⟩ => (hfull i).2 hi, fun t ht => ?_⟩
    -- fewer than two slots for `t` would leave one over
    have hcount : 1 < slotsWith got (some t) := by
      by_contra hless
      have hlt : ∑ t ∈ Finset.univ.erase sig, slotsWith got (some t) <
          ∑ _t ∈ Finset.univ.erase sig, 2 :=
        Finset.sum_lt_sum (fun t _ => htwo t)
          ⟨t, Finset.mem_erase.mpr ⟨ht, Finset.mem_univ t⟩, by omega⟩
      rw [sum_two_erase] at hlt
      omega
    obtain ⟨i, hi, j, hj, hij⟩ := Finset.one_lt_card.mp hcount
    exact ⟨i, j, hij, by simpa using hi, by simpa using hj⟩
  · rintro ⟨hnot, hothers⟩
    have hle : ∑ _t ∈ Finset.univ.erase sig, 2 ≤
        ∑ t ∈ Finset.univ.erase sig, slotsWith got (some t) := by
      apply Finset.sum_le_sum
      intro t ht
      obtain ⟨i, j, hij, hi, hj⟩ := hothers t (Finset.ne_of_mem_erase ht)
      exact Finset.one_lt_card.mpr ⟨i, by simpa using hi, j, by simpa using hj, hij⟩
    rw [sum_two_erase] at hle
    have hfree : slotsWith got none = 0 := by omega
    exact fun i => ⟨slotsWith_eq_zero.mp hfree i, fun hi => hnot ⟨i, hi⟩⟩

end

/-- The step is no signal that finds the stack crowded by the others. -/
def AtomicStep.HasSlot (c : Signals) (step : AtomicStep) : Prop :=
  ∀ sig, step = .signal sig → ¬ Crowded sig c.got

def NotFull (c : Signals) : Prop := ∀ sig, SigEvent.stackFull sig ∉ c.log

lemma notFull_dispatch : NotFull c.dispatch ↔ NotFull c := by
  unfold NotFull Signals.dispatch
  cases c.pass with
  | outside => simp
  | test i =>
    dsimp only
    split
    · split <;> rfl
    · simp
  | read | reset => rfl
  | callers i sig => cases sig <;> simp
  | handling i => rfl

lemma notFull_step (h : SlotsOk c) (step : AtomicStep) :
    NotFull (step.apply c) ↔ NotFull c ∧ step.HasSlot c := by
  cases step with
  | dispatch => simp [AtomicStep.apply, notFull_dispatch, AtomicStep.HasSlot]
  | signal sig =>
    have hfull : setSignal sig c.got = none ↔ Crowded sig c.got :=
      setSignal_eq_none_iff_crowded fun t => slotsWith_le_two h.below h.above t
    have hhas : AtomicStep.HasSlot c (.signal sig) ↔ ¬ Crowded sig c.got := by
      simp [AtomicStep.HasSlot]
    rw [hhas, ← hfull]
    cases hgot : setSignal sig c.got with
    | none =>
      have hdrop : ¬ NotFull (AtomicStep.apply (.signal sig) c) := fun hn =>
        hn sig (by simp [AtomicStep.apply, hgot])
      simp [hdrop]
    | some got => simp [AtomicStep.apply, hgot, NotFull]

lemma notFull_run (h : SlotsOk c) (steps : List AtomicStep) :
    NotFull (run AtomicStep.apply steps c) ↔
      NotFull c ∧ Along AtomicStep.apply AtomicStep.HasSlot c steps := by
  induction steps generalizing c with
  | nil => simp [Along]
  | cons step steps ih => rw [run_cons, ih (h.step step), notFull_step h, Along, and_assoc]

theorem signalStack_suffices_iff (steps : List AtomicStep) :
    (∀ sig, SigEvent.stackFull sig ∉ (run AtomicStep.apply steps signalEnable).log) ↔
      Along AtomicStep.apply AtomicStep.HasSlot signalEnable steps := by
  have hstart : NotFull signalEnable := fun _ => not_mem_nil
  have hrun := notFull_run slotsOk_signalEnable steps
  simp only [hstart, true_and] at hrun
  exact hrun

def emptySlot : List AtomicStep := replicate 5 .dispatch

/-- All six signals wait.  Behind each of the first five slots that the pass empties, a signal
that still waits arrives again, and the one just handled too. -/
def crowding : List AtomicStep :=
  [.signal .sigchld, .signal .sigint, .signal .sigwinch, .signal .sigalrm, .signal .sighup,
    .signal .sigpipe, .dispatch] ++
  emptySlot ++ [.signal .sigpipe, .signal .sigchld] ++
  emptySlot ++ [.signal .sigchld, .signal .sigint] ++
  emptySlot ++ [.signal .sigint, .signal .sigwinch] ++
  emptySlot ++ [.signal .sigwinch, .signal .sigalrm] ++
  emptySlot ++ [.signal .sigalrm, .signal .sighup]

theorem signalStack_overflows :
    ¬ ∀ steps : List AtomicStep, ∀ sig,
      SigEvent.stackFull sig ∉ (run AtomicStep.apply steps signalEnable).log := by
  intro h
  exact h crowding .sighup (by decide +kernel)

/-- At most one handler runs, and it stores into a free slot only. -/
def Alone (c : Signals) : Prop := c.frames.length ≤ 1 ∧ StoreClear c.got c.frames

lemma Alone.handler (h : Alone c) : Alone c.handler := by
  obtain ⟨got, frames, pass, log⟩ := c
  rcases frames with - | ⟨⟨sig, i, pc⟩, - | ⟨f, rest⟩⟩
  · exact h
  · simp only [Signals.handler]
    split
    · cases pc <;> dsimp only
      · split <;> simp [Alone, StoreClear]
      · split
        next hfree =>
          refine ⟨le_rfl, fun _ j hj => ⟨?_, by simp⟩⟩
          exact (congrArg got (Fin.ext hj.symm)).trans hfree
        next => simp [Alone, StoreClear]
      · simp [Alone, StoreClear]
    · simp [Alone, StoreClear]
  · exact absurd h.1 (by simp)

lemma Tracked.handlerSteps (n : ℕ) (h : Tracked c) (ha : Alone c) : Tracked (c.handlerSteps n) := by
  induction n generalizing c with
  | zero => exact h
  | succ n ih => exact ih (h.handler ha.2) ha.handler

lemma AtomicStep.frames_apply (step : AtomicStep) : (step.apply c).frames = c.frames := by
  unfold AtomicStep.apply Signals.dispatch
  grind

lemma Tracked.atomic (h : Tracked c) (hs : SlotsOk c) (hf : c.frames = []) {step : AtomicStep}
    (hslot : step.HasSlot c) : Tracked (step.apply c) := by
  cases step with
  | dispatch => exact h.dispatch hf
  | signal sig =>
    obtain ⟨n, hn⟩ := AtomicStep.signal_eq_handlerSteps hf sig
    rw [← hn]
    refine (h.deliver fun _ => ?_).handlerSteps n (by simp [Alone, Signals.deliver, hf, StoreClear])
    by_contra hno
    refine hslot sig rfl ((setSignal_eq_none_iff_crowded fun t =>
      slotsWith_le_two hs.below hs.above t).mp (setSignalLoop_eq_none.mpr fun i _ => ?_))
    exact not_or.mp fun hi => hno ⟨i, hi⟩

/-- Signals are lost to a handler that another one interrupts, and to a full stack, and to nothing
else. -/
theorem atomic_dispatched (steps : List AtomicStep)
    (hslots : Along AtomicStep.apply AtomicStep.HasSlot signalEnable steps)
    (sig : Signal) (l₁ l₂ l₃ l₄ : List SigEvent)
    (hlog : (run AtomicStep.apply steps signalEnable).log =
      l₁ ++ .passEnd :: (l₂ ++ .passBegin :: (l₃ ++ .delivered sig :: l₄))) :
    SigEvent.dispatched sig ∈ l₂ ++ l₃ := by
  have hinv := hslots.invariant (I := fun c => Tracked c ∧ SlotsOk c ∧ c.frames = [])
    (fun c step h hstep => ⟨h.1.atomic h.2.1 h.2.2 hstep, h.2.1.step step,
      step.frames_apply.trans h.2.2⟩) ⟨tracked_signalEnable, slotsOk_signalEnable, rfl⟩
  exact hinv.1.missed.dispatched hlog

def recordedOnce : List AtomicStep := .signal .sigchld :: replicate 16 .dispatch

theorem atomic_dispatched_recorded :
    (run AtomicStep.apply recordedOnce signalEnable).log =
      [.passEnd, .dispatched .sigchld, .passBegin, .delivered .sigchld] ∧
    SigEvent.dispatched .sigchld ∈ [SigEvent.dispatched .sigchld] ++ [] := by
  have hlog : (run AtomicStep.apply recordedOnce signalEnable).log =
      [.passEnd, .dispatched .sigchld, .passBegin, .delivered .sigchld] := by decide +kernel
  refine ⟨hlog, atomic_dispatched recordedOnce ?_ .sigchld [] [.dispatched .sigchld] [] [] hlog⟩
  refine ((notFull_run slotsOk_signalEnable _).mp fun _ => ?_).2
  simp [hlog]

end Initng
