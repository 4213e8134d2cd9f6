import Initng.SystemInvariant

namespace Initng

open StepRun List

def HasDaemon (s : Sid) (w : World) : Prop := (w.processes.get tDaemon s).isSome = true

instance (s : Sid) (w : World) : Decidable (HasDaemon s w) := inferInstanceAs (Decidable (_ = true))

def daemonHas : List AState :=
  [.daemonLaunch, .daemonRunning, .daemonStopMarked, .daemonWaitingForStopDep, .daemonStopDepsMet]

/-- In the states that it shows the daemon has its process, perhaps with an exemption for one that
has just been marked as stopping. -/
def Held (exempt : Prop) (s : Sid) (w : World) : Prop :=
  Obeys exempt [.daemonStopMarked] (fun st => st ∈ daemonHas → HasDaemon s w) s w.g

def interruptStates : List AState :=
  [.serviceWaitingForStartDep, .serviceWaitingForStopDep, .daemonWaitingForStartDep,
    .daemonWaitingForStopDep]

def alarmStates : List AState :=
  [.serviceStartRun, .serviceStopRun, .daemonWaitForPidFile, .daemonWaitRespTout, .daemonTerm,
    .daemonKill]

/-- A state that a service may be left in: it neither starts nor stops there, or an interrupt hook
sees to it. -/
def AState.restful (st : AState) : Bool :=
  st ∈ interruptStates ∨ st.is ≠ .isStarting ∧ st.is ≠ .isStopping

/-- Something will happen to the service: its state has an interrupt hook, or an alarm hook and
its alarm is set, or it has a process. -/
def Driven (s : Sid) (w : World) : Prop :=
  (w.g.svc s).currentState ∈ interruptStates ∨
    (w.g.svc s).alarm ≠ 0 ∧ (w.g.svc s).currentState ∈ alarmStates ∨ HasDaemon s w

def Going (s : Sid) (w : World) : Prop :=
  s ∈ w.g.interrupt ∨ Driven s w ∨ (w.g.svc s).currentState.restful = true

@[mk_iff]
structure Timed (s : Sid) (w : World) : Prop where
  now : 0 < w.now
  term : 0 ≤ w.ints s .termTimeout
  pause : 0 ≤ w.ints s .respawnPause

instance (s : Sid) (w : World) : Decidable (Timed s w) := decidable_of_iff' _ (timed_iff s w)

instance (s : Sid) (w : World) : Decidable (Driven s w) := inferInstanceAs (Decidable (_ ∨ _))

lemma hasDaemon_iff {s : Sid} {w : World} :
    HasDaemon s w ↔ w.processes.actives tDaemon s ≠ [] := ProcessDb.get_isSome_iff

structure Left (exempt premise : Prop) (s : Sid) (w : World) : Prop where
  held : Held exempt s w
  going : premise → Going s w

structure DaemonReady (s : Sid) (w : World) : Prop extends Ready s w where
  daemon : (w.g.svc s).type = some ⟨"daemon"⟩
  held : Held False s w

section
variable {m : Loaded} {exempt premise : Prop} {s : Sid} {w w' : World} {g' : G} {st : AState}

lemma Left.weaken {premise' : Prop} (h : Left exempt premise s w) (himp : premise' → premise) :
    Left exempt premise' s w := ⟨h.held, fun hpre => h.going (himp hpre)⟩

lemma DaemonReady.hasDaemon (h : DaemonReady s w) (hcur : (w.g.svc s).currentState = st)
    (hst : st ∈ daemonHas) : HasDaemon s w := h.held.of_shows (.inl hcur) hst

lemma mem_daemonScope_of_owner (h : st.owner = some ⟨"daemon"⟩) : st ∈ daemonScope.marks := by
  unfold AState.owner at h
  split_ifs at h with hservice hdaemon
  · simp at h
  · exact hdaemon

lemma DaemonReady.ne_service (h : DaemonReady s w) (hst : st ∈ serviceScope.marks) :
    (w.g.svc s).currentState ≠ st := by
  intro hcur
  have htype := h.kinds.type_of_shows .service (.inl hcur) hst
  rw [h.daemon] at htype
  simp at htype

lemma DaemonReady.unlocked_of_moves (h : DaemonReady s w) (hm : Moves s w.g g') :
    (g'.svc s).stateLock = 0 := (hm.stateLock (.inl h.below)).trans h.unlocked

lemma listed_mark_of_moves (h : DaemonReady s w) (hm : Moves s w.g g')
    (hne : (w.g.svc s).currentState ≠ st) (howner : st.owner ≠ none) :
    s ∈ ({ w with g := g' }.mark s st).g.interrupt := by
  rcases hm.entered with hlist | ⟨-, hcur, -⟩ | hforeign
  · exact commonMarkService_interrupt_mono _ _ _ hlist
  · exact listed_mark (h.unlocked_of_moves hm) (hcur ▸ hne)
  · refine listed_mark (h.unlocked_of_moves hm) ?_
    rintro rfl
    exact howner (owner_of_foreign hforeign)

section
variable (h0 : (w.g.svc s).stateLock = 0)
include h0

lemma left_mark (hst : st ∈ daemonHas → HasDaemon s w)
    (hgo : st.restful = true ∨ s ∈ (w.mark s st).g.interrupt ∨ HasDaemon s w) :
    Left exempt premise s (w.mark s st) := by
  refine ⟨Obeys.enter h0 hst, fun _ => ?_⟩
  rcases hgo with hrest | hlist | hhas
  · exact .inr (.inr (by rwa [mark_currentState h0]))
  · exact .inl hlist
  · exact .inr (.inl (.inr (.inr hhas)))

lemma left_of_mark (hg : w'.g = (w.mark s st).g)
    (hst : st ∉ daemonHas) (hgo : st.restful = true ∨ s ∈ (w.mark s st).g.interrupt) :
    Left exempt premise s w' := by
  refine ⟨fun x hx => .inr fun hin => ?_, fun _ => ?_⟩
  · rw [hg] at hx
    exact absurd (commonMarkService_shows h0 hx ▸ hin) hst
  · rcases hgo with hrest | hlist
    · exact .inr (.inr (by rwa [hg, mark_currentState h0]))
    · exact .inl (hg ▸ hlist)

lemma left_mark_restful
    (hst : st ∉ daemonHas ∧ st.restful = true) : Left exempt premise s (w.mark s st) :=
  left_mark h0 (fun h => absurd h hst.1) (.inl hst.2)

end

lemma held_of_currentState (hnext : (w.g.svc s).nextState = none)
    (hcur : (w.g.svc s).currentState ∉ daemonHas) : Held exempt s w := by
  intro x hx
  rcases hx with rfl | hx
  · exact .inr fun h => absurd h hcur
  · rw [hnext] at hx
    cases hx

lemma held_turnable (P : Prop) :
    Turnable fun _ st => st ∈ [AState.daemonStopMarked] ∨ (st ∈ daemonHas → P) :=
  turnable_of_list P (by decide) (by decide)

lemma restful_of_foreign (h : st.foreignTo (some ⟨"daemon"⟩) = true) : st.restful = true := by
  simp only [AState.foreignTo, decide_eq_true_eq] at h
  simp only [AState.restful, decide_eq_true_eq]
  exact .inr (h.2 (.inr trivial))

lemma left_moves (hexempt : exempt) (hheld : Held exempt s w) (hgoing : premise → Going s w)
    (hs : s < w.g.brk) (htype : (w.g.svc s).type = some ⟨"daemon"⟩) (hm : Moves s w.g g') :
    Left exempt premise s { w with g := g' } := by
  refine ⟨Obeys.moves (held_turnable (HasDaemon s w)) hexempt hm hheld, fun hpre => ?_⟩
  rcases hm.entered with hlist | ⟨-, hcur, halarm⟩ | hforeign
  · exact .inl hlist
  · rcases hgoing hpre with hlist | hdriven | hrest
    · exact .inl (hm.interrupt hlist)
    · refine .inr (.inl ?_)
      simp only [Driven, hcur, halarm]
      exact hdriven
    · exact .inr (.inr (hcur ▸ hrest))
  · rw [hm.known hs (.inr htype), htype] at hforeign
    exact .inr (.inr (restful_of_foreign hforeign))

variable {seconds : Int} {fuel : ℕ} {p : Prid}

lemma left_setAlarm (hnext : (w.g.svc s).nextState = none) (hcur : (w.g.svc s).currentState = st)
    (hst : st ∉ daemonHas ∧ st ∈ alarmStates) (hnow : premise → 0 < w.now + seconds) :
    Left exempt premise s (w.setAlarm s seconds) := by
  have hself : (w.setAlarm s seconds).g.svc s =
      { w.g.svc s with alarm := w.now + seconds } := alarmed_svc ..
  refine ⟨held_of_currentState (by rwa [hself]) (by rw [hself, hcur]; exact hst.1), fun hpre => ?_⟩
  refine .inr (.inl (.inr (.inl ⟨?_, ?_⟩)))
  · rw [hself]
    exact Int.ne_of_gt (hnow hpre)
  · rw [hself, hcur]
    exact hst.2

lemma killDaemon_frame (env : Env) :
    (killDaemon env s w).g = w.g ∧ (killDaemon env s w).now = w.now := by
  unfold killDaemon
  split
  · exact ⟨rfl, rfl⟩
  · dsimp only
    split_ifs <;> exact ⟨rfl, rfl⟩

lemma killDaemon_g (env : Env) : (killDaemon env s w).g = w.g := (killDaemon_frame env).1

lemma left_daemonLaunched (env : Env) (h0 : (w.g.svc s).stateLock = 0)
    (hcur : (w.g.svc s).currentState = .daemonLaunch)
    (hhas : HasDaemon s w) : Left exempt premise s (daemonLaunched env s w) := by
  have hne : (w.g.svc s).currentState ≠ .daemonWaitForPidFile := by
    rw [hcur]
    decide
  unfold daemonLaunched
  split_ifs
  · exact left_mark h0 (fun _ => hhas) (.inr (.inl (listed_mark h0 hne)))
  · -- a forking daemon without a pid file
    refine ⟨fun x hx => .inr fun _ => hhas, fun _ => .inr (.inl (.inr (.inr hhas)))⟩
  · exact left_mark_restful h0 (by decide)
  · exact left_mark h0 (fun _ => hhas) (.inl (by decide))

lemma executeLaunch_true {env : Env} (hapart : w.processes.Apart)
    (h : (w.executeLaunch env s tDaemon).1 = .true) :
    HasDaemon s (w.executeLaunch env s tDaemon).2 := by
  rcases (ProcessDb.executeLaunch_cases hapart s tDaemon env.launch).2 with
    ⟨hfalse, -⟩ | ⟨-, -, hadd⟩
  · simp [World.executeLaunch, hfalse] at h
  · rw [hasDaemon_iff]
    simp only [World.executeLaunch]
    rw [hadd, if_pos ⟨rfl, rfl⟩]
    simp

lemma going_of_mem (hcur : (w.g.svc s).currentState = st)
    (hst : st ∈ interruptStates) : Going s w := .inr (.inl (.inl (hcur ▸ hst)))

lemma hasDaemon_of_get (h : w.processes.get tDaemon s = some p) : HasDaemon s w := by
  simp [HasDaemon, h]

lemma tryGetPid_cases (env : Env) (s : Sid) (w : World) :
    tryGetPid env s w = (false, w) ∨ ∃ w', w'.g = w.g ∧
      (tryGetPid env s w = (false, w'.mark s .daemonUpCheckFailed) ∨
        HasDaemon s w' ∧ tryGetPid env s w = (true, w'.mark s .daemonRunning)) := by
  rw [tryGetPid]
  dsimp only
  generalize (if is .pidof w.g s then getPidof env w.g s else getPidfile env w.g s) = pid
  split
  · exact .inl rfl
  split
  · exact .inl rfl
  split
  · exact .inr ⟨w, rfl, .inl rfl⟩
  next p hget =>
    refine .inr ⟨if is .forks w.g s then
      { w with processes := w.processes.modify p fun process => { process with pid := pid } }
      else w, ?_, ?_⟩
    · split <;> rfl
    · split
      · exact .inl rfl
      · refine .inr ⟨?_, rfl⟩
        split
        · rw [hasDaemon_iff]
          dsimp only
          rw [ProcessDb.actives_record]
          · exact hasDaemon_iff.mp (hasDaemon_of_get hget)
          · exact fun _ => ⟨rfl, rfl⟩
        · exact hasDaemon_of_get hget

lemma left_setAlarm_restful (h0 : (w.g.svc s).stateLock = 0)
    (hst : st ∉ daemonHas ∧ st.restful = true) :
    Left exempt premise s ((w.mark s st).setAlarm s seconds) := by
  have hself : ((w.mark s st).setAlarm s seconds).g.svc s =
      { (w.mark s st).g.svc s with alarm := w.now + seconds } := alarmed_svc ..
  have hheld : Held exempt s (w.mark s st) := Obeys.enter h0 fun hin => absurd hin hst.1
  refine ⟨hheld.same (by simp [hself]), fun _ => .inr (.inr ?_)⟩
  rw [hself]
  have hcur : ((w.mark s st).g.svc s).currentState = st := mark_currentState h0
  exact hcur.symm ▸ hst.2

lemma set_svc_frame (type : SEntry) (g : G) :
    ((set type s g).svc s).stateLock = (g.svc s).stateLock ∧
      ((set type s g).svc s).currentState = (g.svc s).currentState := by
  unfold Initng.set
  split <;> simp

lemma checkRespawn_cases (h0 : (w.g.svc s).stateLock = 0) :
    ((checkRespawn s w).1 = false ∧ ((checkRespawn s w).2.g.svc s).stateLock = 0) ∨
      ((checkRespawn s w).1 = true ∧ ∃ w' : World, (w'.g.svc s).stateLock = 0 ∧
        (w'.g.svc s).currentState = .daemonRunning ∧
        (checkRespawn s w).2 = w'.mark s .daemonWaitRespTout) := by
  rw [checkRespawn]
  dsimp only
  generalize (if is .internalLastRespawn w.g s then w.getInt .internalLastRespawn s else 0) = last
  generalize (if is .respawnRate w.g s then w.getInt .respawnRate s else 10) = respawnRate
  split_ifs with hcur
  · exact .inl ⟨rfl, h0⟩
  · exact .inl ⟨rfl, h0⟩
  · exact .inl ⟨rfl, (commonMarkService_stateLock w.g s s _).trans h0⟩
  · refine .inr ⟨rfl, w.setInt .internalLastRespawn s (cInt w.now), ?_, ?_, rfl⟩
    · exact (set_svc_frame _ w.g).1.trans h0
    · exact (set_svc_frame _ w.g).2.trans (not_not.mp hcur)

variable (env : Env) (h : DaemonReady s w)
include h

lemma left_initDaemonStartMarked
    (hinit : initDaemonStartMarked m.toModules fuel s w = some w') : Left exempt premise s w' := by
  obtain ⟨r, hr, rfl⟩ := Option.map_eq_some_iff.mp hinit
  have hmoves : Moves s w.g r.2 :=
    .asked m (asked_dependStartDeps m.hooksDo (asks_handlerStartService m.hooksDo fuel) hr) s
  exact left_mark_restful (h.unlocked_of_moves hmoves) (by decide)

lemma left_initDaemonStopMarked
    (hcur : (w.g.svc s).currentState = .daemonStopMarked) :
    Left exempt premise s (initDaemonStopMarked m.toModules s w) := by
  have hmoves : Moves s w.g (dependStopDeps m.toModules s w.g.activeDb w.g).2 :=
    .asked m (asked_dependStopDeps s _ w.g) s
  -- its processes are left by the calls
  exact left_mark (h.unlocked_of_moves hmoves) (fun _ => h.hasDaemon hcur (by decide))
    (.inl (by decide))

lemma left_initDaemonStartDepsMet
    (hcur : (w.g.svc s).currentState = .daemonStartDepsMet) :
    Left exempt premise s (initDaemonStartDepsMet env s w) := by
  obtain ⟨hmark, h0, hlaunch⟩ := h.mark hcur (show _ ≠ AState.daemonLaunch by decide)
  unfold initDaemonStartDepsMet
  dsimp only
  rw [if_neg (by simp [hmark])]
  split
  · -- a process that is there already is taken over
    refine left_mark h0 (fun _ => hasDaemon_iff.mpr ?_) (.inl (by decide))
    dsimp only
    rw [ProcessDb.actives_register h.apart, if_pos ⟨rfl, rfl, rfl⟩]
    simp
  split
  · exact left_mark_restful h0 (by decide)
  · exact left_mark_restful h0 (by decide)
  next htrue => exact left_daemonLaunched env h0 hlaunch (executeLaunch_true h.apart htrue)

lemma left_initDaemonStopDepsMet
    (hcur : (w.g.svc s).currentState = .daemonStopDepsMet) :
    Left exempt premise s (initDaemonStopDepsMet env s w) := by
  have hhas := h.hasDaemon hcur (by decide)
  have hterm {w' : World} (hg : w'.g = w.g) : Left exempt premise s (w'.mark s .daemonTerm) := by
    have h0 : (w'.g.svc s).stateLock = 0 := hg ▸ h.unlocked
    refine left_mark h0 (fun hin => absurd hin (by decide)) (.inr (.inl (listed_mark h0 ?_)))
    rw [hg, hcur]
    decide
  unfold initDaemonStopDepsMet
  split
  next hnone => simp [HasDaemon, hnone] at hhas
  dsimp only
  split
  · exact left_mark_restful h.unlocked (by decide)
  split
  · exact left_mark_restful h.unlocked (by decide)
  split
  · exact left_mark_restful h.unlocked (by decide)
  · exact hterm (killDaemon_g env)
  · exact hterm rfl

def daemonBusy : List AState :=
  [.daemonStartMarked, .daemonStopMarked, .daemonStartDepsMet, .daemonStopDepsMet,
    .daemonWaitForPidFile, .daemonWaitRespTout, .daemonTerm, .daemonKill, .daemonLaunch]

lemma DaemonReady.restful (hbusy : (w.g.svc s).currentState ∉ daemonBusy) :
    (w.g.svc s).currentState.restful = true := by
  have hown : ∀ st ∈ daemonScope.marks, st ∉ daemonBusy → st.restful = true := by decide
  rcases h.kinds _ (.inl rfl) with hforeign | ⟨ty, howner, htype⟩
  · rw [h.daemon] at hforeign
    exact restful_of_foreign hforeign
  · rw [h.daemon] at htype
    cases htype
    exact hown _ (mem_daemonScope_of_owner howner) hbusy

lemma DaemonReady.left
    (hgoing : premise → (w.g.svc s).currentState ∈ daemonBusy →
      (w.g.svc s).currentState = .daemonLaunch ∨ Going s w) : Left exempt premise s w := by
  refine ⟨h.held.mono, fun hpre => ?_⟩
  by_cases hbusy : (w.g.svc s).currentState ∈ daemonBusy
  · rcases hgoing hpre hbusy with hlaunch | hgo
    · exact .inr (.inl (.inr (.inr (h.hasDaemon hlaunch (by decide)))))
    · exact hgo
  · exact .inr (.inr (h.restful hbusy))

lemma left_stateInit :
    ∀ w' ∈ stateInit m.toModules fuel env (w.g.svc s).currentState s w,
      Left exempt (Timed s w) s w' := by
  rw [stateInit]
  iterate 6 rw [if_neg (h.ne_service (by decide))]
  refine forall_mem_ite (fun _ w' hw' => left_initDaemonStartMarked h hw') fun _ => ?_
  refine forall_mem_row (fun hc => left_initDaemonStopMarked h hc) fun _ => ?_
  refine forall_mem_row (fun hc => left_initDaemonStartDepsMet env h hc) fun _ => ?_
  refine forall_mem_row (fun hc => left_initDaemonStopDepsMet env h hc) fun _ => ?_
  refine forall_mem_row (fun hc => left_setAlarm h.settled hc (by decide) fun ht => ?_) fun _ => ?_
  · have hnow := ht.now
    omega
  refine forall_mem_row (fun hc => left_setAlarm h.settled hc (by decide) fun ht => ?_) fun _ => ?_
  · have hnow := ht.now
    have hpause := ht.pause
    unfold World.getInt
    split_ifs <;> omega
  refine forall_mem_row (fun hc => left_setAlarm h.settled hc (by decide) fun ht => ?_) fun _ => ?_
  · have hnow := ht.now
    have hterm := ht.term
    unfold World.getInt
    split_ifs <;> omega
  refine forall_mem_row (fun hc => left_setAlarm h.settled hc (by decide) fun ht => ?_) fun _ => ?_
  · have hnow := ht.now
    omega
  refine forall_mem_some (h.left fun _ hbusy => .inl ?_)
  simp only [daemonBusy, mem_cons, not_mem_nil, or_false] at hbusy
  rcases hbusy with hc | hc | hc | hc | hc | hc | hc | hc | hc
  all_goals first | exact hc | exact absurd hc ‹_›

lemma left_handleDaemonWaitingForStartDep
    (hcur : (w.g.svc s).currentState = .daemonWaitingForStartDep) (hexempt : exempt)
    (hint : handleDaemonWaitingForStartDep m.toModules fuel s w = some w') :
    Left exempt premise s w' := by
  obtain ⟨r, hr, rfl⟩ := Option.map_eq_some_iff.mp hint
  have hmoves : Moves s w.g r.2 := .asked m (asked_dependStartDepMet m.hooksDo hr) s
  have h0 := h.unlocked_of_moves hmoves
  dsimp only
  split
  · exact left_moves hexempt h.held.mono
      (fun _ => going_of_mem hcur (by decide)) h.below h.daemon hmoves
  · exact left_mark_restful h0 (by decide)
  · split
    · exact left_mark_restful h0 (by decide)
    · refine left_mark h0 (fun hin => absurd hin (by decide)) (.inr (.inl ?_))
      exact listed_mark_of_moves h hmoves (by rw [hcur]; decide) (by decide)

lemma left_handleDaemonWaitingForStopDep
    (hcur : (w.g.svc s).currentState = .daemonWaitingForStopDep) (hexempt : exempt) :
    Left exempt premise s (handleDaemonWaitingForStopDep m.toModules s w) := by
  have hmoves : Moves s w.g (dependStopDepMet m.toModules s w.g).2 :=
    .asked m (asked_dependStopDepMet m.hooksDo s w.g) s
  have hhas := h.hasDaemon hcur (by decide)
  unfold handleDaemonWaitingForStopDep waitingForStopDep
  dsimp only
  split
  · exact left_moves hexempt h.held.mono
      (fun _ => going_of_mem hcur (by decide)) h.below h.daemon hmoves
  · exact left_mark (h.unlocked_of_moves hmoves) (fun _ => hhas) (.inr (.inr hhas))

lemma left_stateInterrupt
    (hexempt : (w.g.svc s).currentState ≠ .daemonStopMarked → exempt) :
    ∀ w' ∈ stateInterrupt m.toModules fuel (w.g.svc s).currentState s w,
      Left exempt (Going s w) s w' := by
  rw [stateInterrupt, if_neg (h.ne_service (by decide)), if_neg (h.ne_service (by decide))]
  refine forall_mem_ite (fun hc w' hw' => left_handleDaemonWaitingForStartDep h hc
    (hexempt (by rw [hc]; decide)) hw') fun _ => ?_
  refine forall_mem_row (fun hc =>
    left_handleDaemonWaitingForStopDep h hc (hexempt (by rw [hc]; decide))) fun _ => ?_
  exact forall_mem_some (h.left fun hgo _ => .inr hgo)

lemma left_timeoutDaemonWaitForPidFile
    (hcur : (w.g.svc s).currentState = .daemonWaitForPidFile) :
    Left exempt (Timed s w) s (timeoutDaemonWaitForPidFile env s w) := by
  have hfailed (w' : World) (hg : w'.g = (w.mark s .daemonFailStartTimeoutPidfile).g) :
      Left exempt (Timed s w) s w' := left_of_mark h.unlocked hg (by decide) (.inl (by decide))
  unfold timeoutDaemonWaitForPidFile
  split
  · dsimp only
    split <;> exact hfailed _ (killDaemon_g env)
  dsimp only
  rcases tryGetPid_cases env s w with he | ⟨w', hg, he | ⟨hhas, he⟩⟩
  · rw [he, if_pos rfl]
    refine left_setAlarm h.settled hcur (by decide) fun ht => ?_
    have hnow := ht.now
    dsimp only
    omega
  · rw [he, if_pos rfl]
    exact left_setAlarm_restful (hg ▸ h.unlocked) (by decide)
  · rw [he, if_neg (by simp)]
    exact left_mark (hg ▸ h.unlocked) (fun _ => hhas) (.inl (by decide))

lemma left_timeoutDaemonWaitRespTout (hexempt : exempt)
    (hal : timeoutDaemonWaitRespTout m.toModules fuel s w = some w') :
    Left exempt premise s w' := by
  obtain ⟨r, hr, rfl⟩ := Option.map_eq_some_iff.mp hal
  have hleft : Left exempt True s (w.mark s .daemonStopped) :=
    left_mark_restful h.unlocked (by decide)
  have hbrk : s < (w.mark s .daemonStopped).g.brk := by
    simpa [World.mark, commonMarkService_brk] using h.below
  have htype : ((w.mark s .daemonStopped).g.svc s).type = some ⟨"daemon"⟩ :=
    ((OwnChange.mark _).svc_type s).trans h.daemon
  exact left_moves hexempt hleft.held (fun _ => hleft.going trivial) hbrk htype
    (.asked m (asks_handlerStartService m.hooksDo fuel _ _ _ hr) s)

lemma left_timeoutDaemonTerm
    (hcur : (w.g.svc s).currentState = .daemonTerm) :
    Left exempt premise s (timeoutDaemonTerm env s w) := by
  have h0 : ((killDaemon env s w).g.svc s).stateLock = 0 := by
    rw [killDaemon_g]
    exact h.unlocked
  refine left_mark h0 (fun hin => absurd hin (by decide)) (.inr (.inl (listed_mark h0 ?_)))
  rw [killDaemon_g, hcur]
  decide

lemma left_timeoutDaemonKill
    (hcur : (w.g.svc s).currentState = .daemonKill) :
    Left exempt (Timed s w) s (timeoutDaemonKill env s w) := by
  have hcur' : ((killDaemon env s w).g.svc s).currentState = .daemonKill := by
    rw [killDaemon_g, hcur]
  refine left_setAlarm ?_ hcur' (by decide) fun ht => ?_
  · rw [killDaemon_g]
    exact h.settled
  · have hnow := ht.now
    rw [(killDaemon_frame env).2]
    omega

lemma left_stateAlarm
    (hexempt : (w.g.svc s).currentState ≠ .daemonStopMarked → exempt) :
    ∀ w' ∈ stateAlarm m.toModules fuel env (w.g.svc s).currentState s w,
      Left exempt (Timed s w ∧ ((w.g.svc s).currentState ∉ alarmStates → Going s w)) s w' := by
  rw [stateAlarm, if_neg (h.ne_service (by decide)), if_neg (h.ne_service (by decide))]
  refine forall_mem_row (fun hc =>
    (left_timeoutDaemonWaitForPidFile env h hc).weaken And.left) fun hpid => ?_
  refine forall_mem_ite (fun hc w' hw' =>
    left_timeoutDaemonWaitRespTout h (hexempt (by rw [hc]; decide)) hw') fun hresp => ?_
  refine forall_mem_row (fun hc => left_timeoutDaemonTerm env h hc) fun hterm => ?_
  refine forall_mem_row (fun hc =>
    (left_timeoutDaemonKill env h hc).weaken And.left) fun hkill => ?_
  refine forall_mem_some (h.left fun hpre _ => .inr (hpre.2 ?_))
  simp only [alarmStates, mem_cons, not_mem_nil, or_false, not_or]
  exact ⟨h.ne_service (by decide), h.ne_service (by decide), hpid, hresp, hterm, hkill⟩

lemma left_handleKilledDaemon : Left exempt (Going s w) s (handleKilledDaemon env s p w) := by
  unfold handleKilledDaemon
  split
  next hpid =>
    rcases tryGetPid_cases env s w with he | ⟨w', hg, he | ⟨hhas, he⟩⟩
    · rw [he]
      exact h.left fun hgo _ => .inr hgo
    · rw [he]
      exact left_mark_restful (hg ▸ h.unlocked) (by decide)
    · rw [he]
      exact left_mark (hg ▸ h.unlocked) (fun _ => hhas) (.inl (by decide))
  dsimp only
  rcases checkRespawn_cases h.unlocked with ⟨hfalse, h0⟩ | ⟨htrue, w', h0, hcur, he⟩
  · rw [hfalse, if_neg (by simp)]
    unfold daemonExited
    split_ifs <;> exact left_mark_restful h0 (by decide)
  · rw [htrue, if_pos rfl, he]
    refine left_of_mark (w := w') h0 rfl (by decide) (.inr (listed_mark h0 ?_))
    rw [hcur]
    decide

end

def StopsWithProcess (s : Sid) (c c' : Sys) : Prop :=
  (c'.w.g.svc s).Shows .daemonStopMarked → ¬ (c.w.g.svc s).Shows .daemonStopMarked →
    HasDaemon s c'.w

instance (s : Sid) (c c' : Sys) : Decidable (StopsWithProcess s c c') :=
  inferInstanceAs (Decidable (_ → _ → _))

section
variable (m : Loaded) {step : SysStep} {s : Sid} {c c' : Sys} {w w' : World}

lemma DaemonReady.alarmed (h : DaemonReady s w) : DaemonReady s (w.alarmOff s) := by
  refine ⟨h.toReady.alarmed, ?_, h.held.same (by simp)⟩
  rw [alarmed_svc]
  exact h.daemon

variable {db : ProcessDb} {exempt : Prop}

lemma hasDaemon_processes (hactives : db.actives tDaemon s = w.processes.actives tDaemon s) :
    HasDaemon s { w with processes := db } ↔ HasDaemon s w := by
  rw [hasDaemon_iff, hasDaemon_iff, hactives]

lemma Held.processes (h : Held exempt s w)
    (hactives : db.actives tDaemon s = w.processes.actives tDaemon s) :
    Held exempt s { w with processes := db } := fun x hx =>
  (h x hx).imp id fun hhas hin => (hasDaemon_processes hactives).mpr (hhas hin)

lemma Going.processes (h : Going s w)
    (hactives : db.actives tDaemon s = w.processes.actives tDaemon s) :
    Going s { w with processes := db } := by
  rcases h with hlist | (hint | hal | hhas) | hrest
  · exact .inl hlist
  · exact .inr (.inl (.inl hint))
  · exact .inr (.inl (.inr (.inl hal)))
  · exact .inr (.inl (.inr (.inr ((hasDaemon_processes hactives).mpr hhas))))
  · exact .inr (.inr hrest)

lemma Calls.left (h : DaemonReady s c.w)
    (hexempt : (c.w.g.svc s).currentState ≠ .daemonStopMarked → exempt)
    (hcalls : Calls m step s c w') :
    Left exempt (Timed s c.w ∧ (c.stage.handles s = false → Going s c.w)) s w' := by
  cases hcalls with
  | init hstage hinit => exact (left_stateInit _ h _ hinit).weaken And.left
  | interrupt hidle hs hint =>
    refine (left_stateInterrupt h hexempt _ hint).weaken fun hpre => hpre.2 ?_
    rw [hidle]
    rfl
  | alarm hstep hidle hs hset hdue hal =>
    have hcur : ((c.w.alarmOff s).g.svc s).currentState = (c.w.g.svc s).currentState := by simp
    rw [← hcur] at hal
    have hleft := left_stateAlarm _ h.alarmed (hcur.symm ▸ hexempt) _ hal
    refine hleft.weaken fun hpre => ?_
    refine ⟨⟨hpre.1.now, hpre.1.term, hpre.1.pause⟩, fun hno => ?_⟩
    rw [hcur] at hno
    rcases hpre.2 (by rw [hidle]; rfl) with hlist | (hint | hset | hhas) | hrest
    · exact .inl hlist
    · exact .inr (.inl (.inl (hcur ▸ hint)))
    · exact absurd hset.2 hno
    · exact .inr (.inl (.inr (.inr hhas)))
    · exact .inr (.inr (hcur ▸ hrest))
  | @killed env kpid rCode p hstep hidle hs hget htarget =>
    have hgo : Timed s c.w ∧ (c.stage.handles s = false → Going s c.w) → Going s c.w :=
      fun hpre => hpre.2 (by rw [hidle]; rfl)
    have hdied : DaemonReady s (c.w.dead p rCode) :=
      ⟨h.toReady.died p rCode, h.daemon, h.held.processes dead_actives⟩
    have hno (hpt : (c.w.processes.process p).pt ∈ serviceScope.types) : False := by
      simpa [h.daemon] using h.owned.family hget .service hpt
    unfold killHandler
    split_ifs with hstart hstop hdaemon
    · exact (hno (by rw [hstart]; decide)).elim
    · exact (hno (by rw [hstop]; decide)).elim
    · exact (left_handleKilledDaemon env hdied).weaken fun hpre => (hgo hpre).processes dead_actives
    · -- the process is of another type
      have hfree : ((c.w.dead p rCode).processes.free p).actives tDaemon s =
          c.w.processes.actives tDaemon s := by
        rw [ProcessDb.actives_free_ne fun hin => hdaemon ?_, dead_actives]
        rw [dead_actives] at hin
        exact (ProcessDb.mem_actives.mp hin).2.2
      exact ⟨(h.held.processes hfree).mono, fun hpre => (hgo hpre).processes hfree⟩

lemma held_of_kinds (h : Meets s Kind w.g) (htype : (w.g.svc s).type ≠ some ⟨"daemon"⟩) :
    Held exempt s w := by
  intro x hx
  refine .inr fun hin => absurd (h.type_of_shows .daemon hx ?_) htype
  have hmarks : ∀ st ∈ daemonHas, st ∈ daemonScope.marks := by decide
  exact hmarks x hin

lemma Held.stepFor (hok : OkFor c s) (hok' : OkFor c' s) (hapart : c.w.processes.Apart)
    (hstep : StepFor m step s c c') (hstop : StopsWithProcess s c c') (h : Held False s c.w) :
    Held False s c'.w := by
  refine obeys_iff.mpr fun x hx hin => ?_
  have hcases := hstep.obeys m (B := fun st => st ∈ daemonHas → HasDaemon s c'.w) hok hapart
    (held_turnable (HasDaemon s c.w)) (fun hp st hold hst => ?_) (fun hst => absurd hst (by decide))
    (fun hready hcalls => ?_) h hx
  · rcases hcases with ⟨hmarked, hnew⟩ | hhas
    · obtain rfl := mem_singleton.mp hmarked
      exact hstop hx hnew
    · exact hhas hin
  · rw [hasDaemon_iff, hp.actives, ← hasDaemon_iff]
    exact hold hst
  · by_cases htype : (c.w.g.svc s).type = some ⟨"daemon"⟩
    · exact (hcalls.left m ⟨hready, htype, h⟩ fun hne => by simpa using hne).held
    · exact held_of_kinds hok'.kinds (hcalls.type m hok ▸ htype)

lemma going_step (hok : OkFor c s) (hapart : c.w.processes.Apart) (hstep : StepFor m step s c c')
    (hheld : Held False s c.w) (htimed : Timed s c.w)
    (h : (c.w.g.svc s).type = some ⟨"daemon"⟩ → c.stage.handles s = false → Going s c.w)
    (htype : (c'.w.g.svc s).type = some ⟨"daemon"⟩) (hhandles : c'.stage.handles s = false) :
    Going s c'.w := by
  rcases hstep.passive_or_calls m hok hapart with hp | hfree | ⟨hready, -, hcalls⟩
  · rcases hp.entered with hlist | hhandled | ⟨hold, hoff, htype', hcur, halarm⟩ | hforeign
    · exact .inl hlist
    · simp [hhandles] at hhandled
    · have hhas : HasDaemon s c'.w ↔ HasDaemon s c.w := by
        rw [hasDaemon_iff, hasDaemon_iff, hp.actives]
      rcases h (htype' ▸ htype) hold with hlist | hdriven | hrest
      · exact absurd hlist hoff
      · refine .inr (.inl ?_)
        rw [Driven, hcur, halarm, hhas]
        exact hdriven
      · exact .inr (.inr (hcur ▸ hrest))
    · exact .inr (.inr (restful_of_foreign (htype ▸ hforeign)))
  · rw [hfree] at htype
    simp [World.free, ActiveType.ofName] at htype
  · have hdaemon : (c.w.g.svc s).type = some ⟨"daemon"⟩ := hcalls.type m hok ▸ htype
    have hleft : Left True _ s c'.w := hcalls.left m ⟨hready, hdaemon, hheld⟩ fun _ => trivial
    exact hleft.going ⟨htimed, h hdaemon⟩

end

lemma held_start (s : Sid) (now : Timeval) : Held False s (Sys.start now).w := by
  intro x hx
  obtain rfl := shows_start hx
  exact .inr fun hin => absurd hin (by decide)

def oneDaemon : List SysStep :=
  [.act (.new "syslogd"), .act (.setup 0 (some ⟨"daemon"⟩) .new []), .act (.register 0),
    .setSysState .stateStarting, .start 3 0]

def daemonUp : List SysStep :=
  oneDaemon ++ handled (forking 100) 0 ++ handledQuietly (forking 100) 0 ++ [.interrupt 3 0] ++
    handledQuietly (forking 100) 0 ++ handled (forking 100) 0

/-- The daemon has been asked to stop before it was launched, and waits for those that need it. -/
def stoppedEarly : List SysStep := oneDaemon ++ .stop 0 :: handled (forking 100) 0

def stoppedStuck : List SysStep :=
  stoppedEarly ++ handledQuietly (forking 100) 0 ++ .interrupt 3 0 :: handledQuietly (forking 100) 0

def terminating : List SysStep :=
  daemonUp ++ .stop 0 :: handled (forking 100) 0 ++ .interrupt 3 0 ::
    handledQuietly (forking 100) 0 ++ handledQuietly (forking 100) 0

section
variable (m : Loaded) (now : Timeval) (s : Sid) (steps : List SysStep)

/-- No daemon gets stuck, if it was marked as stopping only with a process. -/
theorem daemon_driven
    (hstops : Along (SysStep.apply m)
      (fun c step => StopsWithProcess s c (step.apply m c) ∧ Timed s c.w) (Sys.start now) steps)
    (hhandles : (run (SysStep.apply m) steps (Sys.start now)).stage.handles s = false)
    (hoff : s ∉ (run (SysStep.apply m) steps (Sys.start now)).w.g.interrupt)
    (htype : ((run (SysStep.apply m) steps (Sys.start now)).w.g.svc s).type = some ⟨"daemon"⟩)
    (his : getState (run (SysStep.apply m) steps (Sys.start now)).w.g s = .isStarting ∨
      getState (run (SysStep.apply m) steps (Sys.start now)).w.g s = .isStopping) :
    Driven s (run (SysStep.apply m) steps (Sys.start now)).w := by
  have hstep (c : Sys) (step : SysStep) (hok : c.Ok)
      (h : Held False s c.w ∧ ((c.w.g.svc s).type = some ⟨"daemon"⟩ →
        c.stage.handles s = false → Going s c.w))
      (hcond : StopsWithProcess s c (step.apply m c) ∧ Timed s c.w) :
      Held False s (step.apply m c).w ∧ (((step.apply m c).w.g.svc s).type = some ⟨"daemon"⟩ →
        (step.apply m c).stage.handles s = false → Going s (step.apply m c).w) := by
    have hfor := (step.stepsFor m hok).2 s
    exact ⟨h.1.stepFor m (hok.each s) ((hok.apply m step).each s) hok.apart hfor hcond.1,
      going_step m (hok.each s) hok.apart hfor h.1 hcond.2 h.2⟩
  have hinv := (Sys.run_invariant m now ⟨held_start s now, fun h => by
    simp [Sys.start, World.start, configGlobalNew, ActiveType.ofName] at h⟩ hstep hstops).2
  rcases hinv.2 htype hhandles with hlist | hdriven | hrest
  · exact absurd hlist hoff
  · exact hdriven
  · simp only [AState.restful, decide_eq_true_eq] at hrest
    rcases hrest with hint | hnot
    · exact .inl hint
    · rcases his with his | his
      · exact absurd his hnot.1
      · exact absurd his hnot.2

theorem daemon_driven_term :
    Driven 0 (run (SysStep.apply bareModules) terminating (Sys.start ⟨1, 0⟩)).w := by
  refine daemon_driven bareModules ⟨1, 0⟩ 0 _ ?_ ?_ ?_ ?_ (.inr ?_)
  all_goals decide +kernel

/-- A daemon that is asked to stop before it was launched stays where its process is to be
killed. -/
theorem daemon_stuck :
    ¬ ∀ (m : Loaded) (now : Timeval) (s : Sid) (steps : List SysStep),
      (run (SysStep.apply m) steps (Sys.start now)).stage = .idle →
      (run (SysStep.apply m) steps (Sys.start now)).w.g.interrupt = [] →
      ((run (SysStep.apply m) steps (Sys.start now)).w.g.svc s).type = some ⟨"daemon"⟩ →
      (getState (run (SysStep.apply m) steps (Sys.start now)).w.g s = .isStarting ∨
        getState (run (SysStep.apply m) steps (Sys.start now)).w.g s = .isStopping) →
      Driven s (run (SysStep.apply m) steps (Sys.start now)).w := by
  intro h
  refine absurd (h bareModules ⟨1, 0⟩ 0 stoppedStuck ?_ ?_ ?_ (.inr ?_)) ?_
  all_goals decide +kernel

end

end Initng
