import Initng.MainLoop

namespace Initng

open StepRun List

/-- The step takes away no service that is to bring a restart about while another one waits for
it, and the quit test does not succeed while a service marked `RESTARTING` is still to be
handled. -/
def LoopStep.KeepsRestart (c : MainLoop) : LoopStep → Prop
  | act a => a.keepsRestart ⟨c.place.phase, c.g⟩
  | free s => WillRestart c.place.phase c.g s →
    (∃ z, z ≠ s ∧ WillRestart c.place.phase c.g z) ∨ ∀ y, y ≠ s → ¬ Waits c.g y
  | advance _ =>
    match c.place with
    | .mainEvent => mainReadyToQuit c.g = true → ∀ s ∈ c.g.interrupt, is .restarting c.g s = false
    | .cleanDown => ∀ s ∈ c.g.activeDb, c.Stale s → ¬ WillRestart .idle c.g s
    | _ => True
  | restart _ _ _ | tick _ => True

section
variable {g g' : G} {s : Sid}

lemma LocksOk.free (h : LocksOk .idle g) (hs : s < g.brk) :
    LocksOk .idle (removeAll s (activeDbFree s g)) := by
  have hmark := h.mark hs .freeing
  refine ⟨fun t ht => ?_, fun _ hm => hm.elim, fun t ht => ?_⟩
  · exact hmark.listed t (mem_filter.mp ht).1
  · have hview : SameView ((activeDbFree s g).svc t) ((removeAll s (activeDbFree s g)).svc t) :=
      .modify s t fun _ => ⟨rfl, rfl, rfl, rfl⟩
    exact (hmark.each t ht).frame hview (.inl rfl)

lemma NoneLeft.free (h : NoneLeft .idle g) (hs : s < g.brk)
    (hkeeps : WillRestart .idle g s →
      (∃ z, z ≠ s ∧ WillRestart .idle g z) ∨ ∀ y, y ≠ s → ¬ Waits g y) :
    NoneLeft .idle (removeAll s (activeDbFree s g)) := by
  have hf := freed_activeDbFree s g
  have hgone : is .restarting (removeAll s (activeDbFree s g)) s = false := by
    rw [is, hf.data]
    rfl
  have hne {t : Sid} (ht : is .restarting (removeAll s (activeDbFree s g)) t = true) : t ≠ s := by
    rintro rfl
    rw [hgone] at ht
    cases ht
  have hkept (z : Sid) (hzs : z ≠ s) (hz : WillRestart .idle g z) :
      WillRestart .idle (removeAll s (activeDbFree s g)) z := by
    refine hz.frame (by rw [is, hf.other z hzs]; exact hz.1) (.of_eq (hf.other z hzs)) id ?_
    rintro (hin | hl)
    · exact .inl ((hf.interrupt z).mpr ⟨hin, hzs⟩)
    · exact .inr hl
  refine ⟨h.locks.free hs, fun t ht => ?_, fun t ht => ?_, fun y hy => ?_⟩
  · rw [hf.activeDb] at ht
    rw [hf.brk]
    exact h.allocated t (mem_filter.mp ht).1
  · have hts := hne ht
    rw [is, hf.other t hts] at ht
    rw [hf.activeDb]
    exact mem_filter.mpr ⟨h.registered t ht, by simpa using hts⟩
  · have hys := hne hy.1
    have hbefore : Waits g y := by rwa [Waits, is, getState, hf.other y hys] at hy
    rcases h.waits y hbefore with hin | ⟨z, hz⟩
    · exact .inl hin
    by_cases hzs : z = s
    · subst hzs
      rcases hkeeps hz with ⟨w, hws, hw⟩ | hnone
      · exact .inr ⟨w, hkept w hws hw⟩
      · exact absurd hbefore (hnone y hys)
    · exact .inr ⟨z, hkept z hzs hz⟩

lemma Freed.willRestart {ph : Phase} {t : Sid} (hf : Freed s g g') (hts : t ≠ s)
    (h : WillRestart ph g' t) : WillRestart ph g t := by
  refine h.frame (by rw [is, ← hf.other t hts]; exact h.1) (.of_eq (hf.other t hts).symm) id ?_
  rintro (hin | hl)
  · exact .inl ((hf.interrupt t).mp hin).1
  · exact .inr hl

lemma NoneLeft.withTimes {ph : Phase} (h : NoneLeft ph g) (hdb : g'.activeDb = g.activeDb)
    (hlist : g'.interrupt = g.interrupt) (hbrk : g'.brk = g.brk)
    (hsvc : ∀ s, g'.svc s = (g.svc s).withTimes (g'.svc s)) : NoneLeft ph g' := by
  have hview (s : Sid) : SameView (g.svc s) (g'.svc s) := by
    rw [hsvc s]
    exact ⟨rfl, rfl, rfl, rfl⟩
  have hflag (s : Sid) : is .restarting g' s = is .restarting g s := by
    rw [is, hsvc s]
    rfl
  refine h.frame (h.locks.sameViews hbrk hview hlist) ?_ ?_ (fun s => (hview s).sameState) hflag rfl ?_
  · rw [hdb, hbrk]
    exact h.allocated
  · rw [hdb]
    exact fun _ => id
  · intro s hp
    rwa [Pending, hlist]

end

structure QuitOk (c : MainLoop) : Prop where
  left : NoneLeft c.place.phase c.g
  quit : c.place = .quit → ∀ s, ¬ Waits c.g s

namespace QuitOk

variable {c : MainLoop} {hasHook : AState → Bool}

lemma of_left (h : NoneLeft c.place.phase c.g) (hp : c.place ≠ .quit) : QuitOk c :=
  ⟨h, fun hq => absurd hq hp⟩

lemma turn (h : NoneLeft .idle c.g) : QuitOk c.turn := by
  obtain ⟨svc, heq, hsvc⟩ := c.turn_frame
  rw [heq]
  exact .of_left (h.withTimes rfl rfl rfl hsvc) (by simp)

lemma not_waits (h : NoneLeft .idle c.g) (hready : mainReadyToQuit c.g = true)
    (hhandled : ∀ s ∈ c.g.interrupt, is .restarting c.g s = false) (y : Sid) : ¬ Waits c.g y := by
  intro hy
  rcases h.waits y hy with hin | ⟨z, hflag, ⟨hstop, -⟩ | ⟨-, -, -, -, hpending⟩⟩
  · exact absurd hin not_mem_nil
  · have hz := all_eq_true.mp hready z (h.registered z hflag)
    simp [hstop] at hz
  · have hz : z ∈ c.g.interrupt := by simpa [Pending, Phase.locks] using hpending
    rw [hhandled z hz] at hflag
    cases hflag

lemma cleanDown (h : NoneLeft .idle c.g)
    (hkeeps : ∀ s ∈ c.g.activeDb, c.Stale s → ¬ WillRestart .idle c.g s) :
    NoneLeft .idle (c.cleanDown c.g.activeDb).g := by
  -- a service that is to bring a restart about is registered
  have hall (s : Sid) (hs : c.Stale s) : ¬ WillRestart .idle c.g s := fun hw =>
    hkeeps s (h.registered s hw.1) hs hw
  refine (MainLoop.cleanDown_induction (P := fun c' => c'.g.brk = c.g.brk ∧ NoneLeft .idle c'.g ∧
    ∀ s, c'.Stale s → ¬ WillRestart .idle c'.g s) (fun c' s hs hc hstale => ?_) ⟨rfl, h, hall⟩).2.1
  obtain ⟨hbrk, hleft, hnot⟩ := hc
  have hf := freed_activeDbFree s c'.g
  have hlt : s < c'.g.brk := by rw [hbrk]; exact h.allocated s hs
  refine ⟨hf.brk.trans hbrk, hleft.free hlt fun hw => absurd hw (hnot s hstale), ?_⟩
  intro t ht hw
  by_cases hts : t = s
  · subst hts
    have hflag := hw.1
    rw [is, show ((c'.free t).g.svc t).data = [] from hf.data] at hflag
    cases hflag
  · have hsame : (c'.free s).g.svc t = c'.g.svc t := hf.other t hts
    have ht' : c'.Stale t := by
      rw [MainLoop.Stale, getState, hsame] at ht
      exact ht
    exact hnot t ht' (hf.willRestart hts hw)

lemma advance (h : QuitOk c) (sleeps : Bool) (hk : (LoopStep.advance sleeps).KeepsRestart c) :
    QuitOk (c.advance hasHook sleeps) := by
  obtain ⟨place, g, now, freed, log⟩ := c
  have hleft := h.left
  cases place with
  | alarms | signals | hook current q | poll => exact .of_left hleft (by simp [MainLoop.advance])
  | mainEvent =>
    simp only [MainLoop.advance]
    split
    next hready => exact ⟨hleft, fun _ => not_waits hleft hready (hk hready)⟩
    next => exact .of_left hleft (by simp)
  | quit => exact .of_left (hleft.withTimes rfl rfl rfl fun _ => rfl) (by simp [MainLoop.advance])
  | whenOut => exact turn hleft
  | cleanDown => exact .of_left (cleanDown hleft hk) (by simp [MainLoop.advance])
  | interrupt phase =>
    have hadv : NoneLeft (Core.advance ⟨phase, g⟩).phase (Core.advance ⟨phase, g⟩).g :=
      hleft.advance (Core.advance_cases hleft.locks)
    cases phase with
    | idle =>
      simp only [MainLoop.advance]
      cases hlist : g.interrupt with
      | nil =>
        dsimp only
        split
        · exact .of_left hleft (by simp)
        · exact turn hleft
      | cons service rest =>
        simp only [Core.advance, hlist] at hadv
        exact .of_left hadv (by simp)
    | handlers => exact .of_left hadv (by simp [MainLoop.advance])
    | next service | stateChange service state safe | isChange service safe
    | restarting rest safe | init safe => exact .of_left hadv (by simp [MainLoop.advance])
  | walk current =>
    cases current with
    | none => exact turn hleft
    | some current =>
      simp only [MainLoop.advance]
      split <;> exact .of_left hleft (by simp)
  | io => exact turn hleft

end QuitOk

lemma QuitOk.apply {hasHook : AState → Bool} {c : MainLoop} (h : QuitOk c) (step : LoopStep)
    (hk : step.KeepsRestart c) : QuitOk (step.apply hasHook c) := by
  have hquit (hrun : c.place.runsHooks = true) : c.place ≠ .quit := by
    intro hp
    simp [hp, Place.runsHooks] at hrun
  cases step with
  | act a =>
    simp only [LoopStep.apply]
    split
    next hs => exact .of_left (h.left.applyG hk) (hquit hs.1)
    next => exact h
  | restart m fuel s =>
    simp only [LoopStep.apply]
    split
    next hs =>
      cases hrun : handlerRestartService m.toModules fuel s c.g with
      | none => exact h
      | some r =>
        have hstops := h.left.stops (stops_handlerRestartService m fuel hs.2 hrun)
        dsimp only
        split <;> exact .of_left hstops (hquit hs.1)
    next => exact h
  | free s =>
    simp only [LoopStep.apply]
    split
    next hs =>
      have hidle : c.place.phase = .idle ∧ c.place ≠ .quit := by
        have hplace := hs.1
        revert hplace
        cases c.place <;> simp [Place.frees, Place.phase]
      have hleft := h.left
      rw [LoopStep.KeepsRestart, hidle.1] at hk
      rw [hidle.1] at hleft
      refine .of_left ?_ hidle.2
      rw [show (c.free s).place.phase = .idle from hidle.1]
      exact hleft.free hs.2.1 hk
    next => exact h
  | tick now => exact ⟨h.left.withTimes rfl rfl rfl fun _ => rfl, h.quit⟩
  | advance sleeps => exact h.advance sleeps hk

/-- In a run that meets the condition, the loop finds no service left only when no registered
service is down and marked `RESTARTING`. -/
theorem quit_not_restarting (hasHook : AState → Bool) (now : Timeval) (steps : List LoopStep)
    (hk : Along (LoopStep.apply hasHook) LoopStep.KeepsRestart (.start now) steps) :
    let c := run (LoopStep.apply hasHook) steps (.start now)
    c.place = .quit → ∀ s ∈ c.g.activeDb, getState c.g s = .isDown → is .restarting c.g s = false := by
  intro c hplace s _ hdown
  have hstart : QuitOk (.start now) := .of_left (noneLeft_configGlobalNew now) (by simp [MainLoop.start])
  have h : QuitOk c := hk.invariant (fun _ step h hk => h.apply step hk) hstart
  by_contra hflag
  exact h.quit hplace s ⟨by simpa using hflag, hdown⟩

def Place.Harmless (c : MainLoop) : Place → Prop
  | mainEvent => mainReadyToQuit c.g = true → ∀ s ∈ c.g.interrupt, is .restarting c.g s = false
  | cleanDown => ∀ s ∈ c.g.activeDb, c.Stale s → is .restarting c.g s = false
  | _ => True

/-- A test for the condition: the step is about a service that is not marked `RESTARTING`, or
lets one that is stopping go on or go down. -/
def LoopStep.Harmless (c : MainLoop) : LoopStep → Prop
  | act (.mark s state) => is .restarting c.g s = false ∨
    (getState c.g s = .isStopping ∧
      (state.is = .isStopping ∨ (state.is = .isDown ∧ s ∉ c.place.phase.rest)))
  | act _ | restart _ _ _ | tick _ => True
  | free s => is .restarting c.g s = false
  | advance _ => c.place.Harmless c

instance (c : MainLoop) : ∀ place : Place, Decidable (place.Harmless c)
  | .mainEvent => inferInstanceAs (Decidable (mainReadyToQuit c.g = true →
      ∀ s ∈ c.g.interrupt, is .restarting c.g s = false))
  | .cleanDown => inferInstanceAs (Decidable (∀ s ∈ c.g.activeDb, c.Stale s →
      is .restarting c.g s = false))
  | .alarms | .signals | .quit | .whenOut | .interrupt _ | .walk _ | .hook _ _ | .poll | .io =>
    instDecidableTrue

instance (c : MainLoop) : ∀ step : LoopStep, Decidable (step.Harmless c)
  | .act (.mark s state) => inferInstanceAs (Decidable (is .restarting c.g s = false ∨
      (getState c.g s = .isStopping ∧
        (state.is = .isStopping ∨ (state.is = .isDown ∧ s ∉ c.place.phase.rest)))))
  | .act (.new _) | .act (.setup _ _ _) | .act (.register _) | .act (.flag _) | .act (.call _)
  | .act .advance | .restart _ _ _ | .tick _ => instDecidableTrue
  | .free s => inferInstanceAs (Decidable (is .restarting c.g s = false))
  | .advance _ => inferInstanceAs (Decidable (c.place.Harmless c))

lemma WillRestart.flagged {ph : Phase} {g : G} {s : Sid} (h : WillRestart ph g s) :
    is .restarting g s ≠ false := by
  simp [h.1]

lemma LoopStep.Harmless.keepsRestart {c : MainLoop} {step : LoopStep} (h : step.Harmless c) :
    step.KeepsRestart c := by
  cases step with
  | act a =>
    cases a with
    | mark s state =>
      intro hw _ _
      rcases h with hflag | hstop
      · exact absurd hflag hw.flagged
      · exact .inl hstop
    | _ => trivial
  | restart | tick => trivial
  | free s => exact fun hw => absurd h hw.flagged
  | advance sleeps =>
    obtain ⟨place, g, now, freed, log⟩ := c
    cases place with
    | mainEvent => exact h
    | cleanDown => exact fun s hs hstale hw => hw.flagged (h s hs hstale)
    | _ => trivial

def advances (n : ℕ) : List LoopStep := replicate n (.advance true)

/-- A daemon and a runlevel are up.  The daemon is restarted, and after that the runlevel goes
down. -/
def restartedThenDown : List LoopStep :=
  [.act (.new "a"), .act (.setup 0 (some ⟨"daemon"⟩) []), .act (.register 0),
    .act (.new "b"), .act (.setup 1 (some ⟨"runlevel"⟩) []), .act (.register 1),
    .act (.mark 0 .daemonRunning), .act (.mark 1 .runlevelUp)] ++ advances 25 ++
  [.restart typeStopping 3 0] ++ advances 16 ++ [.act (.mark 0 .daemonStopped)] ++ advances 17 ++
  [.act (.mark 1 .runlevelDown)] ++ advances 2

theorem quit_not_restarting_down :
    Along (LoopStep.apply fun _ => false) LoopStep.KeepsRestart (.start ⟨0, 0⟩) restartedThenDown ∧
    let c := run (LoopStep.apply fun _ => false) restartedThenDown (.start ⟨0, 0⟩)
    .restarted 0 ∈ c.log ∧ c.place = .quit ∧
      ∀ s ∈ c.g.activeDb, getState c.g s = .isDown → is .restarting c.g s = false := by
  have hk : Along (LoopStep.apply fun _ => false) LoopStep.KeepsRestart (.start ⟨0, 0⟩)
      restartedThenDown := by
    apply Along.mono fun _ _ h => LoopStep.Harmless.keepsRestart h
    decide +kernel
  have hquit : (run (LoopStep.apply fun _ => false) restartedThenDown (.start ⟨0, 0⟩)).place =
      .quit := by decide +kernel
  exact ⟨hk, by decide +kernel, hquit, quit_not_restarting _ ⟨0, 0⟩ restartedThenDown hk hquit⟩

/-- The only service is restarted, and the signal that its process has died is dispatched. -/
def restartedAlone : List LoopStep :=
  [.act (.new "a"), .act (.setup 0 (some ⟨"daemon"⟩) []), .act (.register 0),
    .act (.mark 0 .daemonRunning)] ++ advances 15 ++
  [.restart typeStopping 3 0] ++ advances 13 ++ [.act (.mark 0 .daemonStopped)] ++ advances 2

theorem quit_while_restarting :
    ¬ ∀ (hasHook : AState → Bool) (steps : List LoopStep),
      let c := run (LoopStep.apply hasHook) steps (.start ⟨0, 0⟩)
      (∃ s, .restarted s ∈ c.log) → c.place = .quit →
        ∀ s ∈ c.g.activeDb, getState c.g s = .isDown → is .restarting c.g s = false := by
  intro h
  have hflag := h (fun _ => false) restartedAlone ⟨0, by decide +kernel⟩
    (by decide +kernel) 0 (by decide +kernel) (by decide +kernel)
  exact absurd hflag (by decide +kernel)

end Initng
