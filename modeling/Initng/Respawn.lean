import Initng.DaemonRuns
import Initng.UpCheck
import Mathlib.Algebra.Group.Int.Defs

namespace Initng

open StepRun List

structure Death where
  time : Int
  running : Bool
  accepted : Bool
  after : AState
  deriving DecidableEq

def SysStep.daemonDeath (s : Sid) (c : Sys) : SysStep → Option (Env × Prid × World)
  | .killed env kpid rCode =>
    if c.stage = .idle then
      (c.w.killTarget env kpid).bind fun target =>
        if target.1 = s ∧ (c.w.processes.process target.2).pt = tDaemon then
          some (env, target.2,
            { c.w with processes := c.w.processes.modify target.2 (ProcessH.died rCode) })
        else none
    else none
  | _ => none

def SysStep.death (m : Loaded) (s : Sid) (c : Sys) (step : SysStep) : Option Death :=
  (step.daemonDeath s c).map fun call =>
    { time := c.w.now
      running := (c.w.g.svc s).currentState = .daemonRunning
      accepted := (checkRespawn s call.2.2).1
      after := ((step.apply m c).w.g.svc s).currentState }

def deaths (m : Loaded) (s : Sid) : List SysStep → Sys → List Death
  | [], _ => []
  | step :: steps, c => (step.death m s c).toList ++ deaths m s steps (step.apply m c)

def RespawnsApart (q : Int) (l : List Death) : Prop :=
  (l.filter Death.accepted).Pairwise fun a b => q ≤ b.time - a.time

/-- Respawns are accepted at least `q` seconds apart, and a death of the running daemon less than
`q` seconds after the last one leaves `DAEMON_RESPAWN_RATE_EXCEEDED`. -/
structure RespawnLimited (q : Int) (l : List Death) : Prop where
  apart : RespawnsApart q l
  exceeded : ∀ before d after a, l = before ++ d :: after → d.running = true →
    (before.filter Death.accepted).getLast? = some a → d.time - a.time < q →
    d.after = .daemonRespawnRateExceeded

def LivesLong (q : Int) (l : List Death) : Prop :=
  ∀ before d after a, l = before ++ d :: after → d.running = true →
    (before.filter Death.accepted).getLast? = some a → q ≤ d.time - a.time

/-- The deaths of a daemon: a respawn is for the running daemon, and one that is refused is not
told from a stop. -/
structure Death.Handled (d : Death) : Prop where
  running : d.accepted = true → d.running = true
  refused : d.running = true → d.accepted = false → d.after ≠ .daemonRespawnRateExceeded

section
variable {q : Int} {l : List Death}

lemma LivesLong.of_append {l' : List Death} (h : LivesLong q (l ++ l')) : LivesLong q l := by
  intro before d after a hsplit
  exact h before d (after ++ l') a (by simp [hsplit])

lemma LivesLong.apart (hq : 0 < q) (hl : ∀ d ∈ l, d.Handled) (h : LivesLong q l) :
    RespawnsApart q l := by
  induction l using reverseRecOn with
  | nil => exact .nil
  | append_singleton l d ih =>
    have hbefore := ih (fun d' hd' => hl d' (mem_append_left _ hd')) h.of_append
    cases hacc : d.accepted with
    | false => simpa [RespawnsApart, hacc] using hbefore
    | true =>
      have hrun := (hl d (by simp)).running hacc
      unfold RespawnsApart at hbefore ⊢
      rw [filter_append, filter_cons_of_pos hacc, filter_nil]
      refine pairwise_append.mpr ⟨hbefore, pairwise_singleton .., fun a ha b hb => ?_⟩
      obtain rfl := mem_singleton.mp hb
      -- the last respawn before this one is not before any other
      obtain ⟨front, last, hlast⟩ : ∃ front last, l.filter Death.accepted = front ++ [last] :=
        ⟨_, _, (dropLast_append_getLast (ne_nil_of_mem ha)).symm⟩
      have hgap : q ≤ b.time - last.time := h l b [] last (by simp) hrun (by simp [hlast])
      rw [hlast] at ha hbefore
      rcases mem_append.mp ha with ha | ha
      · have := (pairwise_append.mp hbefore).2.2 a ha last (mem_singleton_self last)
        omega
      · rwa [mem_singleton.mp ha]

/-- Deaths that come too early are never dealt with as the limit has it. -/
lemma respawnLimited_iff_livesLong (hq : 0 < q) (hl : ∀ d ∈ l, d.Handled) :
    RespawnLimited q l ↔ LivesLong q l := by
  constructor
  · intro h before d after a hsplit hrun hlast
    by_contra hearly
    rw [Int.not_le] at hearly
    have hd := hl d (by simp [hsplit])
    cases hacc : d.accepted with
    | true =>
      have hapart := h.apart
      rw [RespawnsApart, hsplit, filter_append, filter_cons_of_pos hacc] at hapart
      have hgap := (pairwise_append.mp hapart).2.2 a (mem_of_getLast? hlast) d (.head _)
      omega
    | false =>
      exact hd.refused hrun hacc (h.exceeded before d after a hsplit hrun hlast hearly)
  · intro h
    refine ⟨h.apart hq hl, fun before d after a hsplit hrun hlast hearly => ?_⟩
    have hlate := h before d after a hsplit hrun hlast
    omega

end

section
variable {s : Sid} {w : World}

def respawnRate (s : Sid) (w : World) : Int :=
  if is .respawnRate w.g s then w.getInt .respawnRate s else 10

def TooEarly (s : Sid) (w : World) : Prop :=
  w.getInt .internalLastRespawn s ≠ 0 ∧ respawnRate s w > 0 ∧
    w.now - w.getInt .internalLastRespawn s < respawnRate s w

instance (s : Sid) (w : World) : Decidable (TooEarly s w) := inferInstanceAs (Decidable (_ ∧ _ ∧ _))

lemma checkRespawn_eq (s : Sid) (w : World) :
    checkRespawn s w =
      if (w.g.svc s).currentState ≠ .daemonRunning ∨ is .respawn w.g s = false then (false, w)
      else if TooEarly s w then (false, w.mark s .daemonRespawnRateExceeded)
      else (true, (w.setInt .internalLastRespawn s (cInt w.now)).mark s .daemonWaitRespTout) := by
  have hlast : (if is .internalLastRespawn w.g s then w.getInt .internalLastRespawn s else 0) =
      w.getInt .internalLastRespawn s := by
    unfold World.getInt
    split_ifs <;> rfl
  rw [checkRespawn]
  dsimp only
  rw [hlast]
  by_cases hrun : (w.g.svc s).currentState = .daemonRunning
  · by_cases hrespawn : is .respawn w.g s = false
    · rw [if_neg (not_not_intro hrun), if_pos hrespawn, if_pos (.inr hrespawn)]
    · rw [if_neg (not_not_intro hrun), if_neg hrespawn,
        if_neg (not_or.mpr ⟨not_not_intro hrun, hrespawn⟩)]
      rfl
  · rw [if_pos hrun, if_pos (.inl hrun)]

lemma currentState_of_checkRespawn (h : (checkRespawn s w).1 = true) :
    (w.g.svc s).currentState = .daemonRunning := by
  by_contra hrun
  rw [checkRespawn_eq, if_pos (.inl hrun)] at h
  cases h

lemma daemonExited_cases (rcode : Int) (s : Sid) (w : World) :
    ∃ st ∈ [AState.daemonFailStartSignal, .daemonStopped, .daemonFailStartRcode],
      daemonExited rcode s w = w.mark s st := by
  unfold daemonExited
  split_ifs <;> exact ⟨_, by simp, rfl⟩

lemma checkRespawn_refused (h : (checkRespawn s w).1 = false) :
    (checkRespawn s w).2 = w ∨ (checkRespawn s w).2 = w.mark s .daemonRespawnRateExceeded := by
  rw [checkRespawn_eq] at h ⊢
  split_ifs at h ⊢
  · exact .inl rfl
  · exact .inr rfl

lemma not_waitsForPid (hrun : (w.g.svc s).currentState = .daemonRunning) :
    ¬ ((w.g.svc s).currentState = .daemonWaitForPidFile ∧ is .forks w.g s) := by
  simp [hrun, AState.daemonRunning, AState.daemonWaitForPidFile]

lemma handleKilledDaemon_refused (env : Env) (p : Prid)
    (hrun : (w.g.svc s).currentState = .daemonRunning) (h : (checkRespawn s w).1 = false) :
    ((handleKilledDaemon env s p w).g.svc s).currentState ≠ .daemonRespawnRateExceeded := by
  rw [handleKilledDaemon, if_neg (not_waitsForPid hrun)]
  dsimp only
  rw [h, if_neg (by decide)]
  obtain ⟨st, hst, hexit⟩ := daemonExited_cases
    ((checkRespawn s w).2.processes.process p).rCode s ((checkRespawn s w).2.freeProcess p)
  rw [hexit]
  -- a mark before this one changes a locked daemon as little
  obtain ⟨hlocked, hkept⟩ : (((checkRespawn s w).2.freeProcess p).g.svc s).stateLock =
      (w.g.svc s).stateLock ∧ ((w.g.svc s).stateLock ≠ 0 →
        (((checkRespawn s w).2.freeProcess p).g.svc s).currentState = .daemonRunning) := by
    rcases checkRespawn_refused h with he | he <;> rw [he]
    · exact ⟨rfl, fun _ => hrun⟩
    · exact ⟨commonMarkService_stateLock w.g s s _, fun hlock =>
        (commonMarkService_currentState_of_locked w.g s _ hlock).trans hrun⟩
  by_cases hlock : (w.g.svc s).stateLock = 0
  · rw [mark_currentState (hlocked.trans hlock)]
    simp only [mem_cons, not_mem_nil, or_false] at hst
    rcases hst with rfl | rfl | rfl <;> decide
  · rw [World.mark, commonMarkService_currentState_of_locked _ s st (hlocked ▸ hlock), hkept hlock]
    decide

end

section
variable (m : Loaded) {s : Sid} {c : Sys} {step : SysStep} {env : Env} {p : Prid} {w : World}

lemma apply_of_daemonDeath (h : step.daemonDeath s c = some (env, p, w)) :
    (step.apply m c).w = handleKilledDaemon env s p w ∧ w.g = c.w.g ∧ w.now = c.w.now ∧
      w.ints = c.w.ints := by
  cases step with
  | killed env' kpid rCode =>
    rw [SysStep.daemonDeath] at h
    split_ifs at h with hidle
    obtain ⟨⟨t, q⟩, htarget, hcall⟩ := Option.bind_eq_some_iff.mp h
    dsimp only at hcall
    split_ifs at hcall with hs
    obtain ⟨rfl, htype⟩ := hs
    cases hcall
    refine ⟨?_, rfl, rfl, rfl⟩
    have hsends : c.stage.sends = true := by
      rw [hidle]
      rfl
    rw [SysStep.apply, if_pos (.inl hsends), SysStep.perform, if_pos hidle]
    dsimp only
    rw [killedByPid_of_target htarget, htype]
    rfl
  | _ => cases h

lemma death_handled {d : Death} (h : step.death m s c = some d) : d.Handled := by
  obtain ⟨⟨env, p, w⟩, hcall, rfl⟩ := Option.map_eq_some_iff.mp h
  obtain ⟨hafter, hg, -, -⟩ := apply_of_daemonDeath m hcall
  refine ⟨fun hacc => ?_, fun hrun hacc => ?_⟩
  · have hrun := currentState_of_checkRespawn hacc
    rw [hg] at hrun
    exact decide_eq_true hrun
  · have hrun := of_decide_eq_true hrun
    dsimp only
    rw [hafter]
    exact handleKilledDaemon_refused env p (hg ▸ hrun) hacc

lemma deaths_handled (s : Sid) (steps : List SysStep) (c : Sys) :
    ∀ d ∈ deaths m s steps c, d.Handled := by
  induction steps generalizing c with
  | nil => simp [deaths]
  | cons step steps ih =>
    intro d hd
    rcases mem_append.mp hd with hd | hd
    · exact death_handled m (Option.mem_toList.mp hd)
    · exact ih _ d hd

end

section
variable {s : Sid} {w : World}

lemma getInt_handleKilledDaemon (env : Env) (p : Prid) (type : SEntry)
    (h : (checkRespawn s w).1 = false) :
    (handleKilledDaemon env s p w).getInt type s = w.getInt type s := by
  unfold handleKilledDaemon
  split
  · unfold tryGetPid
    dsimp only
    repeat' split
    all_goals first | rfl | exact getInt_mark type s _
  · dsimp only
    rw [h, if_neg (by decide)]
    obtain ⟨st, -, hexit⟩ := daemonExited_cases
      ((checkRespawn s w).2.processes.process p).rCode s ((checkRespawn s w).2.freeProcess p)
    rw [hexit, getInt_mark]
    rcases checkRespawn_refused h with he | he
    · rw [he]
      rfl
    · rw [he]
      exact getInt_mark type s _

lemma checkRespawn_accepted (env : Env) (p : Prid) (h : (checkRespawn s w).1 = true) :
    ¬ TooEarly s w ∧ (handleKilledDaemon env s p w).getInt .internalLastRespawn s = cInt w.now := by
  have hrun := currentState_of_checkRespawn h
  rw [handleKilledDaemon, if_neg (not_waitsForPid hrun)]
  dsimp only
  rw [h, if_pos rfl]
  rw [checkRespawn_eq] at h ⊢
  split_ifs at h ⊢ with hno hearly
  refine ⟨hearly, ?_⟩
  exact (getInt_mark _ s _).trans (getInt_setInt _ _)

end

lemma cInt_eq_self {n : Int} (hpos : 0 < n) (hlt : n < 2 ^ 31) : cInt n = n := by
  rw [cInt, Int.bmod_def]
  omega

/-- The daemon is to respawn at rate `q` when it dies, and nothing else writes the entry of its
last respawn. -/
def Respawning (m : Loaded) (q : Int) (s : Sid) (c : Sys) (step : SysStep) : Prop :=
  match step.daemonDeath s c with
  | some _ => respawnRate s c.w = q
  | none => (step.apply m c).w.getInt .internalLastRespawn s = c.w.getInt .internalLastRespawn s

instance (m : Loaded) (q : Int) (s : Sid) (c : Sys) (step : SysStep) :
    Decidable (Respawning m q s c step) :=
  match h : step.daemonDeath s c with
  | some _ => decidable_of_iff (respawnRate s c.w = q) (by rw [Respawning, h])
  | none => decidable_of_iff
      ((step.apply m c).w.getInt .internalLastRespawn s = c.w.getInt .internalLastRespawn s)
      (by rw [Respawning, h])

section
variable {m : Loaded} {q : Int} {s : Sid}

lemma SysStep.death_cases {step : SysStep} {c : Sys} {call : Env × Prid × World}
    (hcall : step.daemonDeath s c = some call) (hq : 0 < respawnRate s c.w) :
    ∃ d, step.death m s c = some d ∧
      (d.accepted = true ∧
          (step.apply m c).w.getInt .internalLastRespawn s = cInt d.time ∧
          (0 < c.w.getInt .internalLastRespawn s →
            respawnRate s c.w ≤ d.time - c.w.getInt .internalLastRespawn s) ∨
        d.accepted = false ∧ (step.apply m c).w.getInt .internalLastRespawn s =
          c.w.getInt .internalLastRespawn s) := by
  obtain ⟨env, p, w⟩ := call
  obtain ⟨happly, hg, hnow, hints⟩ := apply_of_daemonDeath m hcall
  have hint (type : SEntry) : w.getInt type s = c.w.getInt type s := by
    rw [World.getInt, World.getInt, hg, hints]
  have hrate : respawnRate s w = respawnRate s c.w := by
    rw [respawnRate, hg, hint, respawnRate]
  obtain ⟨d, hdeath, htime, hacc⟩ : ∃ d, step.death m s c = some d ∧ d.time = c.w.now ∧
      d.accepted = (checkRespawn s w).1 := by
    rw [SysStep.death, hcall]
    exact ⟨_, rfl, rfl, rfl⟩
  refine ⟨d, hdeath, ?_⟩
  cases haccepted : (checkRespawn s w).1 with
  | true =>
    obtain ⟨hlate, hentry⟩ := checkRespawn_accepted env p haccepted
    rw [hnow, ← htime, ← happly] at hentry
    refine .inl ⟨hacc.trans haccepted, hentry, fun hlast => ?_⟩
    by_contra hearly
    refine hlate ⟨?_, ?_, ?_⟩
    · rw [hint]
      omega
    · rwa [hrate]
    · rw [hint, hrate, hnow, ← htime]
      omega
  | false =>
    have hentry := getInt_handleKilledDaemon env p .internalLastRespawn haccepted
    rw [← happly, hint] at hentry
    exact .inr ⟨hacc.trans haccepted, hentry⟩

lemma RespawnsApart.cons {d : Death} {l : List Death} (h : RespawnsApart q l)
    (hd : d.accepted = true → ∀ b ∈ l, b.accepted = true → q ≤ b.time - d.time) :
    RespawnsApart q (d :: l) := by
  cases hacc : d.accepted with
  | false => rwa [RespawnsApart, filter_cons_of_neg (by simp [hacc])]
  | true =>
    rw [RespawnsApart, filter_cons_of_pos hacc]
    refine pairwise_cons.mpr ⟨fun b hb => ?_, h⟩
    exact hd hacc b (mem_of_mem_filter hb) (of_mem_filter hb)

lemma respawnsApart_run (hq : 0 < q) {steps : List SysStep} :
    ∀ {c : Sys}, Along (SysStep.apply m) (Respawning m q s) c steps →
      (∀ d ∈ deaths m s steps c, 0 < d.time ∧ d.time < 2 ^ 31) →
      RespawnsApart q (deaths m s steps c) ∧
        (0 < c.w.getInt .internalLastRespawn s → ∀ d ∈ deaths m s steps c, d.accepted = true →
          q ≤ d.time - c.w.getInt .internalLastRespawn s) := by
  induction steps with
  | nil => exact fun _ _ => ⟨.nil, by simp [deaths]⟩
  | cons step steps ih =>
    intro c hrun htimes
    obtain ⟨hstep, hrest⟩ := hrun
    obtain ⟨hapart, hafter⟩ := ih hrest fun d hd => htimes d (mem_append_right _ hd)
    cases hcall : step.daemonDeath s c with
    | none =>
      have hnone : deaths m s (step :: steps) c = deaths m s steps (step.apply m c) := by
        simp [deaths, SysStep.death, hcall]
      rw [Respawning, hcall] at hstep
      rw [hnone, ← hstep]
      exact ⟨hapart, hafter⟩
    | some call =>
      rw [Respawning, hcall] at hstep
      obtain ⟨d, hdeath, hcases⟩ := SysStep.death_cases (m := m) hcall (hstep ▸ hq)
      rw [hstep] at hcases
      have hcons : deaths m s (step :: steps) c = d :: deaths m s steps (step.apply m c) := by
        rw [deaths, hdeath]
        rfl
      rw [hcons] at htimes ⊢
      obtain ⟨hpos, hlt⟩ := htimes d (.head _)
      rcases hcases with ⟨-, hentry, hlate⟩ | ⟨hacc, hentry⟩
      · -- the entry is the time of this death from here on
        rw [cInt_eq_self hpos hlt] at hentry
        rw [hentry] at hafter
        refine ⟨hapart.cons fun _ => hafter hpos, fun hlast d' hd' hacc' => ?_⟩
        have hthis := hlate hlast
        rcases mem_cons.mp hd' with rfl | hd'
        · exact hthis
        · have := hafter hpos d' hd' hacc'
          omega
      · rw [hentry] at hafter
        refine ⟨hapart.cons fun h => absurd (hacc.symm.trans h) Bool.false_ne_true,
          fun hlast d' hd' hacc' => ?_⟩
        rcases mem_cons.mp hd' with rfl | hd'
        · exact absurd (hacc.symm.trans hacc') Bool.false_ne_true
        · exact hafter hlast d' hd' hacc'

end

/-- The rate limit holds just if the running daemon never dies too early.  Respawns are accepted
far enough apart in any case, as long as the time fits into an int. -/
theorem respawnLimited_iff (m : Loaded) (q : Int) (hq : 0 < q) (s : Sid) (c : Sys)
    (steps : List SysStep) :
    (Along (SysStep.apply m) (Respawning m q s) c steps →
      (∀ d ∈ deaths m s steps c, 0 < d.time ∧ d.time < 2 ^ 31) →
      RespawnsApart q (deaths m s steps c)) ∧
    (RespawnLimited q (deaths m s steps c) ↔ LivesLong q (deaths m s steps c)) :=
  ⟨fun hrun htimes => (respawnsApart_run hq hrun htimes).1,
    respawnLimited_iff_livesLong hq (deaths_handled m s steps c)⟩

/-- A daemon that is to respawn is up; its process dies, and a second later it is started
again. -/
def respawnedOnce : List SysStep :=
  [.tick ⟨100, 0⟩, .act (.new "syslogd"),
    .act (.setup 0 (some ⟨"daemon"⟩) .new [⟨.respawn, none, none⟩]), .act (.register 0),
    .setSysState .stateStarting, .start 3 0] ++
    handled (forking 100) 0 ++ handledQuietly (forking 100) 0 ++ [.interrupt 3 0] ++
    handledQuietly (forking 100) 0 ++ handled (forking 100) 0 ++
    .killed (forking 100) 100 0 :: handled (forking 100) 0 ++
    [.tick ⟨101, 0⟩, .alarm (forking 101) 3 0] ++
    handled (forking 101) 0 ++ handledQuietly (forking 101) 0 ++ [.interrupt 3 0] ++
    handledQuietly (forking 101) 0 ++ handled (forking 101) 0

lemma deaths_respawnedOnce :
    deaths bareModules 0 (respawnedOnce ++ [.tick ⟨120, 0⟩, .killed (forking 102) 101 0])
        (Sys.start ⟨1, 0⟩) =
      [⟨100, true, true, .daemonWaitRespTout⟩, ⟨120, true, true, .daemonWaitRespTout⟩] ∧
    deaths bareModules 0 (respawnedOnce ++ [.tick ⟨105, 0⟩, .killed (forking 102) 101 0])
        (Sys.start ⟨1, 0⟩) =
      [⟨100, true, true, .daemonWaitRespTout⟩, ⟨105, true, false, .daemonStopped⟩] := by
  decide +kernel

/-- The second process lives for twenty seconds. -/
theorem respawnLimited_iff_respawnedOnce :
    RespawnLimited 10 (deaths bareModules 0
      (respawnedOnce ++ [.tick ⟨120, 0⟩, .killed (forking 102) 101 0]) (Sys.start ⟨1, 0⟩)) := by
  refine (respawnLimited_iff bareModules 10 (by decide) 0 _ _).2.mpr ?_
  rw [deaths_respawnedOnce.1]
  rintro (_ | ⟨x, _ | ⟨y, before⟩⟩) d after a hl hrunning hlast
  · simp at hlast
  · simp only [cons_append, nil_append, cons.injEq] at hl
    obtain ⟨rfl, rfl, rfl⟩ := hl
    obtain rfl : _ = a := by simpa using hlast
    decide
  · simp at hl

/-- The second process dies four seconds after it was started, and the daemon is left in
`DAEMON_STOPPED`. -/
theorem respawnLimited_not :
    ¬ ∀ (m : Loaded) (q : Int) (s : Sid) (now : Timeval) (steps : List SysStep), 0 < q →
      Along (SysStep.apply m) (Respawning m q s) (Sys.start now) steps →
      (∀ d ∈ deaths m s steps (Sys.start now), 0 < d.time ∧ d.time < 2 ^ 31) →
      (deaths m s steps (Sys.start now)).Pairwise (fun a b => a.time ≤ b.time) →
      RespawnLimited q (deaths m s steps (Sys.start now)) := by
  intro h
  have hlimited := h bareModules 10 0 ⟨1, 0⟩
    (respawnedOnce ++ [.tick ⟨105, 0⟩, .killed (forking 102) 101 0]) (by decide) (by decide +kernel)
  rw [deaths_respawnedOnce.2] at hlimited
  have hexceeded := (hlimited (by decide) (by decide)).exceeded
    [⟨100, true, true, .daemonWaitRespTout⟩] ⟨105, true, false, .daemonStopped⟩ []
    ⟨100, true, true, .daemonWaitRespTout⟩ rfl rfl rfl (by decide)
  exact absurd hexceeded (by decide)

end Initng
