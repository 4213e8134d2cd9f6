import Initng.ServiceRuns

namespace Initng

open StepRun

inductive WaitStatus
  | exited (code : ℕ) (valid : code < 256)
  | signalled (signal : ℕ) (core : Bool) (valid : 0 < signal ∧ signal < 127)

/-- The status word: the code in the second byte, or the signal in the first, whose top bit
tells of a core dump. -/
def WaitStatus.encode : WaitStatus → Int
  | exited code _ => code * 256
  | signalled signal core _ => signal + if core then 128 else 0

def WaitStatus.Clean (failOk : Bool) : WaitStatus → Prop
  | exited code _ => code = 0 ∨ failOk = true
  | signalled .. => False

lemma WaitStatus.read_exited {code : ℕ} (valid : code < 256) :
    wTermSig (exited code valid).encode = 0 ∧ wExitStatus (exited code valid).encode = code := by
  simp only [wTermSig, wExitStatus, encode]
  omega

lemma WaitStatus.read_signalled {n : ℕ} (core : Bool) (valid : 0 < n ∧ n < 127) :
    wTermSig (signalled n core valid).encode = n ∧
      wExitStatus (signalled n core valid).encode = 0 := by
  simp only [wTermSig, wExitStatus, encode]
  split_ifs <;> omega

/-- The state that a handler passes to `initng_common_mark_service`, if it calls it: `run` is
the state it waits for the process in. -/
def killedMark (run failSignal failRcode good : AState) (failOk : SEntry) (s : Sid) (rcode : Int)
    (w : World) : Option AState :=
  if (w.g.svc s).currentState ≠ run then none
  else if wTermSig rcode = 11 then some failSignal
  else if wExitStatus rcode > 0 ∧ is failOk w.g s = false then some failRcode
  else some good

def killedStartMark : Sid → Int → World → Option AState :=
  killedMark .serviceStartRun .serviceFailStartSignal .serviceFailStartRcode .serviceDone
    .startFailOk

def killedStopMark : Sid → Int → World → Option AState :=
  killedMark .serviceStopRun .serviceFailStopSignal .serviceFailStopRcode .serviceStopped
    .stopFailOk

def World.markOption (s : Sid) (state : Option AState) (w : World) : World :=
  state.elim w fun st => w.mark s st

lemma handleKilledStart_eq (env : Env) (s : Sid) (p : Prid) (w : World) :
    handleKilledStart env s p w =
      (w.freeProcess p).markOption s (killedStartMark s (w.processes.process p).rCode w) := by
  have hstate : ((w.freeProcess p).g.svc s).currentState = (w.g.svc s).currentState := rfl
  have his : is .startFailOk (w.freeProcess p).g s = is .startFailOk w.g s := rfl
  unfold handleKilledStart killedStartMark killedMark
  dsimp only
  rw [hstate, his, if_neg (dependUpCheck_ne_fail env), ite_timeout (by decide), ite_not]
  split_ifs <;> rfl

lemma handleKilledStop_eq (s : Sid) (p : Prid) (w : World) :
    handleKilledStop s p w =
      (w.freeProcess p).markOption s (killedStopMark s (w.processes.process p).rCode w) := by
  have hstate : ((w.freeProcess p).g.svc s).currentState = (w.g.svc s).currentState := rfl
  have his : is .stopFailOk (w.freeProcess p).g s = is .stopFailOk w.g s := rfl
  unfold handleKilledStop killedStopMark killedMark
  dsimp only
  rw [hstate, his, ite_timeout (by decide), ite_not]
  split_ifs <;> rfl

def World.died (p : Prid) (status : WaitStatus) (w : World) : World :=
  { w with processes := w.processes.modify p (ProcessH.died status.encode) }

lemma World.died_rCode (p : Prid) (status : WaitStatus) (w : World) :
    ((w.died p status).processes.process p).rCode = status.encode := by
  simp [World.died, ProcessDb.modify, ProcessH.died]

/-- `good` is marked only after a clean end, and an end by a signal leaves a failed state. -/
structure OnlyClean (good : AState) (failOk : Bool) (before : AState) (marked : Option AState)
    (status : WaitStatus) : Prop where
  clean : marked = some good → status.Clean failOk
  signal : ∀ n core valid, status = .signalled n core valid → (marked.getD before).is = .isFailed

/-- The process has exited; or signal 11 has terminated it while the service waits for it; or
the service does not wait for it and has failed already. -/
def Judged (run before : AState) (status : WaitStatus) : Prop :=
  ∀ n core valid, status = .signalled n core valid →
    if before = run then n = 11 else before.is = .isFailed

section
variable {run failSignal failRcode good : AState} {failOk : SEntry} {s : Sid} {w : World}

lemma killedMark_exited (hrcode : failRcode ≠ good) {code : ℕ}
    (valid : code < 256)
    (h : killedMark run failSignal failRcode good failOk s
      (WaitStatus.exited code valid).encode w = some good) :
    code = 0 ∨ is failOk w.g s = true := by
  unfold killedMark at h
  rw [(WaitStatus.read_exited valid).1, (WaitStatus.read_exited valid).2] at h
  split_ifs at h with hrun hterm hcode
  · exact absurd hterm (by decide)
  · exact absurd (Option.some.inj h) hrcode
  · rcases Nat.eq_zero_or_pos code with hzero | hpos
    · exact .inl hzero
    · right
      by_contra hok
      exact hcode ⟨by omega, Bool.eq_false_iff.mpr hok⟩

lemma killedMark_signalled (hrun : (w.g.svc s).currentState = run) {n : ℕ} (core : Bool)
    (valid : 0 < n ∧ n < 127) :
    killedMark run failSignal failRcode good failOk s
      (WaitStatus.signalled n core valid).encode w =
      some (if n = 11 then failSignal else good) := by
  have hcode : ¬ ((0 : Int) > 0 ∧ is failOk w.g s = false) := fun h => absurd h.1 (by decide)
  have hcast : (n : Int) = 11 ↔ n = 11 := by omega
  obtain ⟨hsig, hexit⟩ := WaitStatus.read_signalled core valid
  rw [killedMark, if_neg (not_not_intro hrun), hsig, hexit, if_neg hcode]
  simp only [hcast]
  split_ifs <;> rfl

lemma onlyClean_killedMark_iff (hrcode : failRcode ≠ good) (hfailed : failSignal.is = .isFailed)
    (hgood : good.is ≠ .isFailed) (status : WaitStatus) :
    OnlyClean good (is failOk w.g s) (w.g.svc s).currentState
        (killedMark run failSignal failRcode good failOk s status.encode w) status ↔
      Judged run (w.g.svc s).currentState status := by
  cases status with
  | exited code valid =>
    refine ⟨fun _ _ _ _ h => (by cases h), fun _ => ⟨fun h => ?_, fun _ _ _ h => (by cases h)⟩⟩
    exact killedMark_exited hrcode valid h
  | signalled n core valid =>
    have hjudged : Judged run (w.g.svc s).currentState (.signalled n core valid) ↔
        if (w.g.svc s).currentState = run then n = 11
          else (w.g.svc s).currentState.is = .isFailed :=
      ⟨fun h => h n core valid rfl, fun h n' core' valid' heq => by cases heq; exact h⟩
    rw [hjudged]
    by_cases hrun : (w.g.svc s).currentState = run
    · rw [killedMark_signalled hrun, if_pos hrun]
      refine ⟨fun h => ?_, fun h11 => ⟨fun hmark => ?_, fun _ _ _ _ => ?_⟩⟩
      · by_contra h11
        have hsig := h.signal n core valid rfl
        rw [if_neg h11] at hsig
        exact hgood hsig
      · rw [if_pos h11] at hmark
        exact absurd (Option.some.inj hmark ▸ hfailed) hgood
      · rw [if_pos h11]
        exact hfailed
    · rw [killedMark, if_pos hrun, if_neg hrun]
      exact ⟨fun h => h.signal n core valid rfl,
        fun h => ⟨fun hmark => (by cases hmark), fun _ _ _ _ => h⟩⟩

end

/-- The end of a start or stop process is judged rightly just if it has exited, or signal 11
has terminated it, or nothing was expected of it by a service that has failed. -/
theorem killed_onlyClean_iff (env : Env) (s : Sid) (p : Prid) (w : World) (status : WaitStatus) :
    (handleKilledStart env s p (w.died p status) =
        ((w.died p status).freeProcess p).markOption s (killedStartMark s status.encode w) ∧
      (OnlyClean .serviceDone (is .startFailOk w.g s) (w.g.svc s).currentState
          (killedStartMark s status.encode w) status ↔
        Judged .serviceStartRun (w.g.svc s).currentState status)) ∧
    handleKilledStop s p (w.died p status) =
        ((w.died p status).freeProcess p).markOption s (killedStopMark s status.encode w) ∧
      (OnlyClean .serviceStopped (is .stopFailOk w.g s) (w.g.svc s).currentState
          (killedStopMark s status.encode w) status ↔
        Judged .serviceStopRun (w.g.svc s).currentState status) := by
  refine ⟨⟨?_, ?_⟩, ?_, ?_⟩
  · rw [handleKilledStart_eq, World.died_rCode]
    rfl
  · exact onlyClean_killedMark_iff (by decide) (by decide) (by decide) status
  · rw [handleKilledStop_eq, World.died_rCode]
    rfl
  · exact onlyClean_killedMark_iff (by decide) (by decide) (by decide) status

/-- A start process that is killed with SIGKILL counts as successful. -/
theorem killed_not_onlyClean :
    ¬ ∀ (s : Sid) (w : World) (status : WaitStatus),
      OnlyClean .serviceDone (is .startFailOk w.g s) (w.g.svc s).currentState
        (killedStartMark s status.encode w) status := by
  intro hall
  have h := hall 0 (run (SysStep.apply bareModules) startRuns (Sys.start ⟨1, 0⟩)).w
    (.signalled 9 false (by decide))
  exact h.clean (by decide +kernel)

end Initng
