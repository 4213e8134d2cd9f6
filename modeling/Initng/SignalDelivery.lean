import Initng.Signal

namespace Initng

open StepRun List Function

/-- A signal arrives, the innermost handler goes on, or the dispatch does. -/
inductive SigStep
  | deliver (sig : Signal)
  | handler
  | dispatch
  deriving DecidableEq

def SigStep.apply : SigStep → Signals → Signals
  | deliver sig, c => c.deliver sig
  | handler, c => c.handler
  | dispatch, c => if c.frames = [] then c.dispatch else c

def SigStep.HasRoom (c : Signals) : SigStep → Prop
  | deliver sig => (∀ f ∈ c.frames, f.sig ≠ sig) → ∃ i, c.got i = none ∨ c.got i = some sig
  | _ => True

/-- When the innermost handler is about to store its signal, the slot is still free, and for
every handler that it interrupted another slot is free or holds the signal. -/
def StoreClear (got : SignalsGot) : List Frame → Prop
  | [] => True
  | f :: rest => f.pc = .store → ∀ i : Fin signalStack, f.i = i →
      got i = none ∧ ∀ f' ∈ rest, ∃ j, j ≠ i ∧ (got j = none ∨ got j = some f'.sig)

def SigStep.StoresClear (c : Signals) : SigStep → Prop
  | handler => StoreClear c.got c.frames
  | _ => True

instance (c : Signals) : ∀ step, Decidable (SigStep.HasRoom c step)
  | .deliver sig => inferInstanceAs (Decidable
      ((∀ f ∈ c.frames, f.sig ≠ sig) → ∃ i, c.got i = none ∨ c.got i = some sig))
  | .handler => instDecidableTrue
  | .dispatch => instDecidableTrue

instance (got : SignalsGot) : ∀ frames, Decidable (StoreClear got frames)
  | [] => instDecidableTrue
  | f :: rest => inferInstanceAs (Decidable (f.pc = .store → ∀ i : Fin signalStack, f.i = i →
      got i = none ∧ ∀ f' ∈ rest, ∃ j, j ≠ i ∧ (got j = none ∨ got j = some f'.sig)))

instance (c : Signals) : ∀ step, Decidable (SigStep.StoresClear c step)
  | .deliver _ => instDecidableTrue
  | .handler => inferInstanceAs (Decidable (StoreClear c.got c.frames))
  | .dispatch => instDecidableTrue

def owed (sig : Signal) : List SigEvent → Bool
  | [] => false
  | .delivered s :: l => s = sig || owed sig l
  | .dispatched s :: l => s ≠ sig && owed sig l
  | _ :: l => owed sig l

def overdue (sig : Signal) : List SigEvent → Bool
  | [] => false
  | .passBegin :: l => owed sig l
  | .dispatched s :: l => s ≠ sig && overdue sig l
  | _ :: l => overdue sig l

section
variable {sig : Signal} {l l' : List SigEvent}

lemma owed_append (h : SigEvent.dispatched sig ∉ l) (ho : owed sig l' = true) :
    owed sig (l ++ l') = true ∧ (overdue sig l' = true → overdue sig (l ++ l') = true) := by
  induction l with
  | nil => exact ⟨ho, id⟩
  | cons e l ih =>
    obtain ⟨hne, hl⟩ : SigEvent.dispatched sig ≠ e ∧ SigEvent.dispatched sig ∉ l := by
      simpa using h
    have ih := ih hl
    cases e with
    | delivered s => exact ⟨by simp [owed, ih.1], ih.2⟩
    | stackFull | passEnd => exact ih
    | passBegin => exact ⟨ih.1, fun _ => ih.1⟩
    | dispatched s =>
      have hs : s ≠ sig := fun hs => hne (by rw [hs])
      simpa [owed, overdue, hs] using ih

end

def NoneMissed (log : List SigEvent) : Prop :=
  ∀ l₁ l₂, log = l₁ ++ .passEnd :: l₂ → ∀ sig, overdue sig l₂ = false

lemma NoneMissed.cons {log : List SigEvent} {e : SigEvent} (h : NoneMissed log)
    (he : e = .passEnd → ∀ sig, overdue sig log = false) : NoneMissed (e :: log) := by
  intro l₁ l₂ hl
  cases l₁ with
  | nil =>
    obtain ⟨rfl, rfl⟩ := cons.inj hl
    exact he rfl
  | cons e' l₁ =>
    obtain ⟨-, hlog⟩ := cons.inj hl
    exact h l₁ l₂ hlog

lemma NoneMissed.dispatched {log l₁ l₂ l₃ l₄ : List SigEvent} {sig : Signal}
    (h : NoneMissed log)
    (hl : log = l₁ ++ .passEnd :: (l₂ ++ .passBegin :: (l₃ ++ .delivered sig :: l₄))) :
    SigEvent.dispatched sig ∈ l₂ ++ l₃ := by
  by_contra hnot
  obtain ⟨h₂, h₃⟩ : SigEvent.dispatched sig ∉ l₂ ∧ SigEvent.dispatched sig ∉ l₃ := by
    simpa using hnot
  have howed : owed sig (l₃ ++ .delivered sig :: l₄) = true := (owed_append h₃ (by simp [owed])).1
  have hdue : overdue sig (l₂ ++ .passBegin :: (l₃ ++ .delivered sig :: l₄)) = true := by
    refine (owed_append h₂ ?_).2 ?_ <;> exact howed
  rw [h _ _ hl sig] at hdue
  cases hdue

def Pass.carries (sig : Signal) : Pass → Prop
  | reset _ s => s = some sig
  | callers _ s => s = some sig
  | _ => False

def Pass.ReadOk (got : SignalsGot) : Pass → Prop
  | read i => got i ≠ none
  | reset i sig => got i = sig ∧ sig ≠ none
  | _ => True

/-- Where a handler has looked there was nothing for it, and it will find a slot further on,
unless it stands before its store. -/
structure FrameOk (f : Frame) (got : SignalsGot) : Prop where
  lt : f.i < signalStack
  passed : ∀ j : Fin signalStack, j < f.i → got j ≠ none ∧ got j ≠ some f.sig
  here : f.pc ≠ .isSig → got ⟨f.i, lt⟩ ≠ some f.sig
  room : f.pc ≠ .store → ∃ j : Fin signalStack, f.i ≤ j ∧ (got j = none ∨ got j = some f.sig)

/-- An owed signal is in a slot, in the hands of the dispatch, or with a handler; an overdue
one is in a slot that the pass has still to empty, or in the hands of the dispatch. -/
structure Tracked (c : Signals) : Prop where
  owed : ∀ sig, owed sig c.log = true →
    Holding sig c.got ∨ c.pass.carries sig ∨ ∃ f ∈ c.frames, f.sig = sig
  overdue : ∀ sig, overdue sig c.log = true →
    (∃ i : Fin signalStack, c.pass.emptied ≤ i ∧ c.got i = some sig) ∨ c.pass.carries sig
  missed : NoneMissed c.log
  readOk : c.pass.ReadOk c.got
  frames : ∀ f ∈ c.frames, FrameOk f c.got
  distinct : (c.frames.map Frame.sig).Nodup

lemma tracked_signalEnable : Tracked signalEnable where
  owed _ h := by cases h
  overdue _ h := by cases h
  missed l₁ l₂ h := by simp [signalEnable] at h
  readOk := trivial
  frames _ h := absurd h not_mem_nil
  distinct := nodup_nil

namespace Tracked

variable {c : Signals} {f : Frame} {rest : List Frame}

lemma deliver (h : Tracked c) {sig : Signal} (hroom : SigStep.HasRoom c (.deliver sig)) :
    Tracked (c.deliver sig) := by
  unfold Signals.deliver
  split
  · exact h
  next hany =>
    have hother : ∀ f ∈ c.frames, f.sig ≠ sig := by simpa using hany
    obtain ⟨j, hj⟩ := hroom hother
    refine ⟨fun t ht => ?_, h.overdue, h.missed.cons (fun e => by cases e), h.readOk, ?_, ?_⟩
    · simp only [Initng.owed, Bool.or_eq_true, decide_eq_true_eq] at ht
      rcases ht with rfl | ht
      · right
        right
        exact ⟨_, mem_cons_self .., rfl⟩
      · rcases h.owed t ht with hs | hp | ⟨f, hf, hft⟩
        · exact .inl hs
        · exact .inr (.inl hp)
        · exact .inr (.inr ⟨f, mem_cons_of_mem _ hf, hft⟩)
    · intro f hf
      rcases mem_cons.mp hf with rfl | hf
      · exact ⟨Nat.succ_pos _, fun j hj => absurd hj (Nat.not_lt_zero _), fun hpc => absurd rfl hpc,
          fun _ => ⟨j, Nat.zero_le _, hj⟩⟩
      · exact h.frames f hf
    · rw [map_cons, nodup_cons]
      refine ⟨fun hm => ?_, h.distinct⟩
      obtain ⟨f, hf, hft⟩ := mem_map.mp hm
      exact hother f hf hft

/-- The handlers have gone on: what was recorded stays, and the signal of a handler that has
returned is recorded. -/
lemma reframe (h : Tracked c) {got : SignalsGot} {frames : List Frame}
    (hgot : ∀ j t, c.got j = some t → got j = some t) (hread : c.pass.ReadOk got)
    (hsigs : ∀ u ∈ c.frames, Holding u.sig got ∨ ∃ u' ∈ frames, u'.sig = u.sig)
    (hframes : ∀ u ∈ frames, FrameOk u got) (hdistinct : (frames.map Frame.sig).Nodup) :
    Tracked { c with got := got, frames := frames } where
  owed t ht := by
    rcases h.owed t ht with ⟨j, hj⟩ | hp | ⟨u, hu, rfl⟩
    · exact .inl ⟨j, hgot j t hj⟩
    · exact .inr (.inl hp)
    · exact (hsigs u hu).imp_right .inr
  overdue t ht := by
    rcases h.overdue t ht with ⟨j, hle, hj⟩ | hp
    · exact .inl ⟨j, hle, hgot j t hj⟩
    · exact .inr hp
  missed := h.missed
  readOk := hread
  frames := hframes
  distinct := hdistinct

lemma goOn (h : Tracked c) (hf : c.frames = f :: rest) {f' : Frame} (hsig : f'.sig = f.sig)
    (hok : FrameOk f' c.got) : Tracked { c with frames := f' :: rest } := by
  obtain ⟨-, hrest⟩ := forall_mem_cons.mp (hf ▸ h.frames)
  refine h.reframe (fun _ _ => id) h.readOk ?_ (forall_mem_cons.mpr ⟨hok, hrest⟩) ?_
  · rw [hf]
    exact forall_mem_cons.mpr ⟨.inr ⟨f', mem_cons_self .., hsig⟩,
      fun u hu => .inr ⟨u, mem_cons_of_mem _ hu, rfl⟩⟩
  · simpa [hf, hsig] using h.distinct

lemma leave (h : Tracked c) (hf : c.frames = f :: rest) (hrec : Holding f.sig c.got) :
    Tracked { c with frames := rest } := by
  obtain ⟨-, hrest⟩ := forall_mem_cons.mp (hf ▸ h.frames)
  refine h.reframe (fun _ _ => id) h.readOk ?_ hrest ?_
  · rw [hf]
    exact forall_mem_cons.mpr ⟨.inl hrec, fun u hu => .inr ⟨u, hu, rfl⟩⟩
  · exact (nodup_cons.mp (hf ▸ h.distinct :)).2

end Tracked

section
variable {got : SignalsGot} {i : Fin signalStack} {sig : Signal}

lemma FrameOk.store {f : Frame} (h : FrameOk f got) (hfree : got i = none)
    (hne : f.sig ≠ sig) (hleft : ∃ j ≠ i, got j = none ∨ got j = some f.sig) :
    FrameOk f (update got i (some sig)) where
  lt := h.lt
  passed j hj := by
    have hji : j ≠ i := fun e => (h.passed j hj).1 (e ▸ hfree)
    rw [update_of_ne hji]
    exact h.passed j hj
  here hpc := by
    by_cases hi : (⟨f.i, h.lt⟩ : Fin signalStack) = i
    · rw [hi, update_self]
      exact fun e => hne (Option.some.inj e).symm
    · rw [update_of_ne hi]
      exact h.here hpc
  room _ := by
    obtain ⟨j, hji, hj⟩ := hleft
    refine ⟨j, ?_, by rwa [update_of_ne hji]⟩
    -- in the slots passed by there is neither
    by_contra hlt
    obtain ⟨hnone, hsig⟩ := h.passed j (not_le.mp hlt)
    rcases hj with hj | hj
    · exact hnone hj
    · exact hsig hj

lemma Pass.ReadOk.store {pass : Pass} (h : pass.ReadOk got) (hfree : got i = none) :
    pass.ReadOk (update got i (some sig)) := by
  cases pass with
  | outside | test => trivial
  | read j =>
    have hj : got j ≠ none := h
    have hji : j ≠ i := fun e => hj (e ▸ hfree)
    simpa [Pass.ReadOk, hji] using hj
  | reset j s =>
    obtain ⟨hj, hs⟩ := h
    have hji : j ≠ i := fun e => hs (hj ▸ e ▸ hfree)
    simpa [Pass.ReadOk, hji] using And.intro hj hs
  | callers | handling => trivial

end

namespace Tracked

variable {c : Signals} {f : Frame} {rest : List Frame}

variable {i : Fin signalStack} {sig : Option Signal}

section
variable (h : Tracked c)
include h

lemma store (hf : c.frames = f :: rest) (hfree : c.got i = none)
    (hleft : ∀ f' ∈ rest, ∃ j ≠ i, c.got j = none ∨ c.got j = some f'.sig) :
    Tracked { c with got := update c.got i (some f.sig), frames := rest } := by
  obtain ⟨-, hrest⟩ := forall_mem_cons.mp (hf ▸ h.frames)
  have hd := h.distinct
  rw [hf, map_cons, nodup_cons] at hd
  have hkeeps (j : Fin signalStack) (sig : Signal) (hj : c.got j = some sig) :
      update c.got i (some f.sig) j = some sig := by
    rw [update_of_ne fun e => by simp [e, hfree] at hj, hj]
  refine h.reframe hkeeps (h.readOk.store hfree) ?_ (fun u hu => ?_) hd.2
  · rw [hf]
    exact forall_mem_cons.mpr ⟨.inl ⟨i, update_self ..⟩, fun u hu => .inr ⟨u, hu, rfl⟩⟩
  · have hne : u.sig ≠ f.sig := fun e => hd.1 (mem_map.mpr ⟨u, hu, e⟩)
    exact (hrest u hu).store hfree hne (hleft u hu)

lemma handler (hclear : SigStep.StoresClear c .handler) : Tracked c.handler := by
  unfold Signals.handler
  cases hf : c.frames with
  | nil => exact h
  | cons f rest =>
    have hok : FrameOk f c.got := h.frames f (hf ▸ .head _)
    dsimp only
    rw [dif_pos hok.lt]
    cases hpc : f.pc with
    | isSig =>
      dsimp only
      split
      next hsig => exact h.leave hf ⟨_, hsig⟩
      next hsig =>
        refine h.goOn hf rfl ⟨hok.lt, hok.passed, fun _ => hsig, fun _ => ?_⟩
        exact hok.room (by simp [hpc])
    | isFree =>
      have hhere : c.got ⟨f.i, hok.lt⟩ ≠ some f.sig := hok.here (by simp [hpc])
      dsimp only
      split
      next hfree =>
        exact h.goOn hf rfl ⟨hok.lt, hok.passed, fun _ => hhere, fun hstore => absurd rfl hstore⟩
      next hfree =>
        obtain ⟨j, hle, hj⟩ := hok.room (by simp [hpc])
        have hne : (j : ℕ) ≠ f.i := by
          intro e
          obtain rfl : j = ⟨f.i, hok.lt⟩ := Fin.ext e
          rcases hj with hj | hj
          · exact hfree hj
          · exact hhere hj
        have hlt : f.i < j := lt_of_le_of_ne hle (Ne.symm hne)
        refine h.goOn hf rfl ⟨lt_of_le_of_lt hlt j.isLt, fun k hk => ?_,
          fun hpc => absurd rfl hpc, fun _ => ⟨j, hlt, hj⟩⟩
        have hk : (k : ℕ) < f.i + 1 := hk
        by_cases hki : (k : ℕ) = f.i
        · obtain rfl : k = ⟨f.i, hok.lt⟩ := Fin.ext hki
          exact ⟨hfree, hhere⟩
        · exact hok.passed k (by omega)
    | store =>
      have hclear : StoreClear c.got c.frames := hclear
      rw [hf] at hclear
      obtain ⟨hfree, hleft⟩ := hclear hpc ⟨f.i, hok.lt⟩ rfl
      exact h.store hf hfree hleft

lemma rephase {pass : Pass} (hemp : pass.emptied = c.pass.emptied)
    (hcar : ∀ sig, c.pass.carries sig → pass.carries sig) (hread : pass.ReadOk c.got) :
    Tracked { c with pass := pass } where
  owed t ht := (h.owed t ht).imp_right (Or.imp_left (hcar t))
  overdue t ht := by
    rcases h.overdue t ht with ⟨i, hle, hi⟩ | hp
    · exact .inl ⟨i, hemp ▸ hle, hi⟩
    · exact .inr (hcar t hp)
  missed := h.missed
  readOk := hread
  frames := h.frames
  distinct := h.distinct

lemma holding (hf : c.frames = []) (hcar : ∀ sig, ¬ c.pass.carries sig)
    {sig : Signal} (ho : Initng.owed sig c.log = true) : Holding sig c.got := by
  rcases h.owed sig ho with hs | hp | ⟨f, hf', -⟩
  · exact hs
  · exact absurd hp (hcar sig)
  · rw [hf] at hf'
    exact absurd hf' not_mem_nil

lemma dispatch_outside (hf : c.frames = []) (hp : c.pass = .outside) : Tracked c.dispatch := by
  have hcar : ∀ sig, ¬ c.pass.carries sig := fun sig => by simp [hp, Pass.carries]
  simp only [Signals.dispatch, hp]
  refine ⟨fun t ht => .inl (h.holding hf hcar ht), fun t ht => ?_,
    h.missed.cons (fun e => by cases e), trivial, h.frames, h.distinct⟩
  -- what is owed when a pass begins stands in a slot
  obtain ⟨i, hi⟩ := h.holding hf hcar ht
  exact .inl ⟨i, Nat.zero_le _, hi⟩

lemma dispatch_test (hf : c.frames = []) {i : ℕ} (hp : c.pass = .test i) : Tracked c.dispatch := by
  have hcar : ∀ sig, ¬ c.pass.carries sig := fun sig => by simp [hp, Pass.carries]
  have hdue : ∀ t, Initng.overdue t c.log = true →
      ∃ j : Fin signalStack, i ≤ j ∧ c.got j = some t := fun t ht => by
    rcases h.overdue t ht with ⟨j, hle, hj⟩ | hc
    · rw [hp] at hle
      exact ⟨j, hle, hj⟩
    · exact absurd hc (hcar t)
  simp only [Signals.dispatch, hp]
  split
  next hi =>
    split
    next hfree =>
      refine ⟨fun t ht => .inl (h.holding hf hcar ht), fun t ht => ?_, h.missed, trivial,
        h.frames, h.distinct⟩
      obtain ⟨j, hle, hj⟩ := hdue t ht
      have hne : i ≠ j := by
        rintro rfl
        simp [hfree] at hj
      exact .inl ⟨j, by simp only [Pass.emptied]; omega, hj⟩
    next htaken =>
      exact h.rephase (by rw [hp]; rfl) (fun t ht => absurd ht (hcar t)) htaken
  next hi =>
    -- all slots have been passed by, so nothing is overdue
    have hnone : ∀ t, Initng.overdue t c.log = false := by
      intro t
      by_contra ht
      obtain ⟨j, hle, -⟩ := hdue t (by simpa using ht)
      have := j.isLt
      omega
    refine ⟨fun t ht => .inl (h.holding hf hcar ht), fun t ht => ?_,
      h.missed.cons (fun _ => hnone), trivial, h.frames, h.distinct⟩
    have ht : Initng.overdue t c.log = true := ht
    rw [hnone t] at ht
    cases ht

lemma dispatch_reset (hf : c.frames = []) (hp : c.pass = .reset i sig) : Tracked c.dispatch := by
  obtain ⟨hgot, -⟩ : c.got i = sig ∧ sig ≠ none := by
    have := h.readOk
    rwa [hp] at this
  have hslot : ∀ {t j}, c.got j = some t →
      (j ≠ i ∧ update c.got i none j = some t) ∨ sig = some t := by
    intro t j hj
    by_cases hji : j = i
    · right
      rw [← hgot, ← hji, hj]
    · left
      exact ⟨hji, by rw [update_of_ne hji, hj]⟩
  simp only [Signals.dispatch, hp]
  refine ⟨fun t ht => ?_, fun t ht => ?_, h.missed, trivial, ?_, h.distinct⟩
  · rcases h.owed t ht with ⟨j, hj⟩ | hc | ⟨f, hf', -⟩
    · rcases hslot hj with ⟨-, hj⟩ | hs
      · exact .inl ⟨j, hj⟩
      · exact .inr (.inl hs)
    · rw [hp] at hc
      exact .inr (.inl hc)
    · rw [hf] at hf'
      exact absurd hf' not_mem_nil
  · rcases h.overdue t ht with ⟨j, hle, hj⟩ | hc
    · rcases hslot hj with ⟨hji, hj⟩ | hs
      · rw [hp] at hle
        have hle : (i : ℕ) ≤ j := hle
        have hne : (j : ℕ) ≠ i := fun e => hji (Fin.ext e)
        exact .inl ⟨j, by simp only [Pass.emptied]; omega, hj⟩
      · exact .inr hs
    · rw [hp] at hc
      exact .inr hc
  · intro f hf'
    have hf' : f ∈ c.frames := hf'
    rw [hf] at hf'
    exact absurd hf' not_mem_nil

lemma dispatch_callers (hp : c.pass = .callers i sig) : Tracked c.dispatch := by
  simp only [Signals.dispatch, hp]
  refine ⟨fun t ht => ?_, fun t ht => ?_, ?_, trivial, h.frames, h.distinct⟩
  · have hnot : sig ≠ some t ∧ Initng.owed t c.log = true := by
      cases sig with
      | none => exact ⟨by simp, ht⟩
      | some s => simpa [Initng.owed] using ht
    rcases h.owed t hnot.2 with hs | hc | ⟨f, hf', hft⟩
    · exact .inl hs
    · rw [hp] at hc
      exact absurd hc hnot.1
    · exact .inr (.inr ⟨f, hf', hft⟩)
  · have hnot : sig ≠ some t ∧ Initng.overdue t c.log = true := by
      cases sig with
      | none => exact ⟨by simp, ht⟩
      | some s => simpa [Initng.overdue] using ht
    rcases h.overdue t hnot.2 with ⟨j, hle, hj⟩ | hc
    · rw [hp] at hle
      exact .inl ⟨j, hle, hj⟩
    · rw [hp] at hc
      exact absurd hc hnot.1
  · cases sig with
    | none => exact h.missed
    | some s => exact h.missed.cons (fun e => by cases e)

lemma dispatch (hf : c.frames = []) : Tracked c.dispatch := by
  cases hp : c.pass with
  | outside => exact h.dispatch_outside hf hp
  | test i => exact h.dispatch_test hf hp
  | read i =>
    have hread : c.got i ≠ none := by
      have := h.readOk
      rwa [hp] at this
    simp only [Signals.dispatch, hp]
    exact h.rephase (by rw [hp]; rfl) (fun t ht => by simp [hp, Pass.carries] at ht) ⟨rfl, hread⟩
  | reset i sig => exact h.dispatch_reset hf hp
  | callers i sig => exact h.dispatch_callers hp
  | handling i =>
    simp only [Signals.dispatch, hp]
    exact h.rephase (by rw [hp]; rfl) (fun t ht => by simp [hp, Pass.carries] at ht) trivial

lemma step {step : SigStep} (hroom : step.HasRoom c)
    (hclear : step.StoresClear c) : Tracked (step.apply c) := by
  cases step with
  | deliver sig => exact h.deliver hroom
  | handler => exact h.handler hclear
  | dispatch =>
    rw [SigStep.apply]
    split
    next hf => exact h.dispatch hf
    next => exact h

end

end Tracked

theorem signal_dispatched (steps : List SigStep)
    (hroom : Along SigStep.apply SigStep.HasRoom signalEnable steps)
    (hclear : Along SigStep.apply SigStep.StoresClear signalEnable steps)
    (sig : Signal) (l₁ l₂ l₃ l₄ : List SigEvent)
    (hlog : (run SigStep.apply steps signalEnable).log =
      l₁ ++ .passEnd :: (l₂ ++ .passBegin :: (l₃ ++ .delivered sig :: l₄))) :
    SigEvent.dispatched sig ∈ l₂ ++ l₃ := by
  have htracked : Tracked (run SigStep.apply steps signalEnable) :=
    (hroom.and hclear).invariant (fun c step h hstep => h.step hstep.1 hstep.2) tracked_signalEnable
  exact htracked.missed.dispatched hlog

def recordSteps : List SigStep := [.handler, .handler, .handler]

def passSteps : List SigStep := replicate 16 .dispatch

theorem signal_dispatched_recorded :
    (run SigStep.apply (.deliver .sigchld :: recordSteps ++ passSteps) signalEnable).log =
      [.passEnd, .dispatched .sigchld, .passBegin, .delivered .sigchld] ∧
    SigEvent.dispatched .sigchld ∈ [SigEvent.dispatched .sigchld] ++ [] :=
  ⟨by decide +kernel,
    signal_dispatched (.deliver .sigchld :: recordSteps ++ passSteps) (by decide +kernel)
      (by decide +kernel) .sigchld [] [.dispatched .sigchld] [] [] (by decide +kernel)⟩

/-- The handler of SIGCHLD finds the first slot free.  Before it stores, the handler of SIGINT
runs and stores there. -/
def overwritten : List SigStep :=
  [.deliver .sigchld, .handler, .handler, .deliver .sigint] ++ recordSteps ++
  [.handler] ++ passSteps

theorem signal_lost :
    ¬ ∀ steps : List SigStep, Along SigStep.apply SigStep.HasRoom signalEnable steps →
      ∀ (sig : Signal) (l₁ l₂ l₃ l₄ : List SigEvent),
        (run SigStep.apply steps signalEnable).log =
          l₁ ++ .passEnd :: (l₂ ++ .passBegin :: (l₃ ++ .delivered sig :: l₄)) →
        SigEvent.dispatched sig ∈ l₂ ++ l₃ := by
  intro h
  have hmem := h overwritten (by decide +kernel) .sigint [] [.dispatched .sigchld] []
    [.delivered .sigchld] (by decide +kernel)
  exact absurd hmem (by decide)

end Initng
