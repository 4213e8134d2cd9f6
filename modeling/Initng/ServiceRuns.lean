import Initng.SystemInvariant

namespace Initng

open StepRun List Option

def Clear (s : Sid) (db : ProcessDb) : Prop := db.get tStart s = none ∧ db.get tStop s = none

instance (s : Sid) (db : ProcessDb) : Decidable (Clear s db) := inferInstanceAs (Decidable (_ ∧ _))

def serviceClear : List AState :=
  [.serviceStartMarked, .serviceWaitingForStartDep, .serviceStartDepsMet, .serviceDone,
    .serviceStopMarked, .serviceWaitingForStopDep, .serviceStopDepsMet, .serviceStopped]

def serviceRuled : List AState := .serviceStartRun :: .serviceStopRun :: serviceClear

structure Fits (s : Sid) (db : ProcessDb) (st : AState) : Prop where
  clear : st ∈ serviceClear → Clear s db
  startRun : st = .serviceStartRun → (db.actives tStart s).length ≤ 1 ∧ db.get tStop s = none
  stopRun : st = .serviceStopRun → db.get tStart s = none ∧ (db.actives tStop s).length ≤ 1

def serviceMarked : List AState := [.serviceStartMarked, .serviceStopMarked]

/-- The processes are those of the states that the service shows, perhaps with an exemption for
one that has just been marked. -/
def Tidy (exempt : Prop) (s : Sid) (w : World) : Prop :=
  Obeys exempt serviceMarked (Fits s w.processes) s w.g

def serviceUp : List AState := [.serviceDone, .serviceStopMarked, .serviceWaitingForStopDep]

/-- In these states a flag is set, perhaps with an exemption as above. -/
def Flagged (exempt flag : Prop) (s : Sid) (w : World) : Prop :=
  Obeys exempt serviceMarked (fun st => st ∈ serviceUp → flag) s w.g

def startAccepted (env : Env) (service : Sid) (process : Prid) (w : World) : Bool :=
  let rcode := (w.processes.process process).rCode
  (w.g.svc service).currentState = .serviceStartRun ∧ wTermSig rcode ≠ 11 ∧
    ¬ (wExitStatus rcode > 0 ∧ is .startFailOk w.g service = false) ∧ dependUpCheck env ≠ .fail

/-- The step calls `handle_killed_start` for the service, which accepts the end of a process that
has died, or one that has disappeared when its time is over. -/
def SysStep.accepts (s : Sid) (c : Sys) : SysStep → Bool
  | .killed env kpid rCode =>
    c.stage = .idle ∧ (c.w.killTarget env kpid).any fun r =>
      r.1 = s ∧ (c.w.processes.process r.2).pt = tStart ∧
        startAccepted env s r.2
          { c.w with processes := c.w.processes.modify r.2 (ProcessH.died rCode) }
  | .alarm env _ t =>
    t = s ∧ c.stage = .idle ∧ s ∈ c.w.g.activeDb ∧ (c.w.g.svc s).alarm ≠ 0 ∧
      c.w.now ≥ (c.w.g.svc s).alarm ∧ is .neverKill c.w.g s = false ∧
      (c.w.processes.get tStart s).any fun process =>
        ((c.w.processes.process process).pid ≤ 0 ∨
          env.kill (c.w.processes.process process).pid = .noProcess) ∧
        startAccepted env s process { c.w with g := c.w.g.modify s fun a => { a with alarm := 0 } }
  | _ => false

lemma ite_timeout {timeout run : AState} (h : run ≠ timeout) {state : AState} {w w' : World} :
    (if state = timeout then w else if state ≠ run then w else w') =
      if state = run then w' else w := by
  by_cases hrun : state = run
  · rw [hrun, if_neg h, if_neg (not_not_intro rfl), if_pos rfl]
  · rw [if_pos hrun, if_neg hrun, ite_self]

section
variable (env : Env) (s : Sid) (p : Prid) (w : World)

lemma handleKilledStart_cases :
    startAccepted env s p w = true ∧ (w.g.svc s).currentState = .serviceStartRun ∧
        handleKilledStart env s p w = (w.freeProcess p).mark s .serviceDone ∨
      (w.g.svc s).currentState ≠ .serviceStartRun ∧
        handleKilledStart env s p w = w.freeProcess p ∨
      (w.g.svc s).currentState = .serviceStartRun ∧
        ∃ st ∈ [AState.serviceFailStartSignal, .serviceFailStartRcode, .serviceUpCheckFailed],
          handleKilledStart env s p w = (w.freeProcess p).mark s st := by
  have his : is .startFailOk (w.freeProcess p).g s = is .startFailOk w.g s := rfl
  have hstate : ((w.freeProcess p).g.svc s).currentState = (w.g.svc s).currentState := rfl
  unfold handleKilledStart
  dsimp only
  rw [hstate, his, ite_timeout (by decide)]
  split_ifs with hrun hsig hcode hup
  · exact .inr (.inr ⟨hrun, _, by simp, rfl⟩)
  · exact .inr (.inr ⟨hrun, _, by simp, rfl⟩)
  · exact .inr (.inr ⟨hrun, _, by simp, rfl⟩)
  · refine .inl ⟨?_, hrun, rfl⟩
    simp only [startAccepted, decide_eq_true_eq]
    exact ⟨hrun, hsig, hcode, hup⟩
  · exact .inr (.inl ⟨hrun, rfl⟩)

lemma handleKilledStop_cases :
    (w.g.svc s).currentState ≠ .serviceStopRun ∧ handleKilledStop s p w = w.freeProcess p ∨
      (w.g.svc s).currentState = .serviceStopRun ∧
        ∃ st ∈ [AState.serviceFailStopSignal, .serviceFailStopRcode, .serviceStopped],
          handleKilledStop s p w = (w.freeProcess p).mark s st := by
  have hstate : ((w.freeProcess p).g.svc s).currentState = (w.g.svc s).currentState := rfl
  unfold handleKilledStop
  dsimp only
  rw [hstate, ite_timeout (by decide)]
  by_cases hrun : (w.g.svc s).currentState = .serviceStopRun
  · refine .inr ⟨hrun, ?_⟩
    rw [if_pos hrun]
    split_ifs <;> exact ⟨_, by simp, rfl⟩
  · exact .inl ⟨hrun, if_neg hrun⟩

end

section
variable {s : Sid} {db db' : ProcessDb} {type : Ptype} {st : AState} {p : Prid}

lemma get_eq_none_iff : db.get type s = none ↔ db.actives type s = [] := by
  rw [ProcessDb.get_eq_head?, head?_eq_none_iff]

lemma Clear.fits (h : Clear s db) : Fits s db st := by
  obtain ⟨hstart, hstop⟩ := h
  refine ⟨fun _ => ⟨hstart, hstop⟩, fun _ => ⟨?_, hstop⟩, fun _ => ⟨hstart, ?_⟩⟩
  · simp [get_eq_none_iff.mp hstart]
  · simp [get_eq_none_iff.mp hstop]

lemma fits_of_loose (h : st ∉ serviceRuled) : Fits s db st where
  clear hin := absurd (by simp [serviceRuled, hin]) h
  startRun he := absurd (by simp [serviceRuled, he]) h
  stopRun he := absurd (by simp [serviceRuled, he]) h

lemma Fits.congr (h : Fits s db st) (hstart : db'.actives tStart s = db.actives tStart s)
    (hstop : db'.actives tStop s = db.actives tStop s) : Fits s db' st := by
  have hgetStart : db'.get tStart s = db.get tStart s := by
    rw [ProcessDb.get_eq_head?, ProcessDb.get_eq_head?, hstart]
  have hgetStop : db'.get tStop s = db.get tStop s := by
    rw [ProcessDb.get_eq_head?, ProcessDb.get_eq_head?, hstop]
  refine ⟨fun hst => ?_, fun hst => ?_, fun hst => ?_⟩
  · rw [Clear, hgetStart, hgetStop]
    exact h.clear hst
  · rw [hstart, hgetStop]
    exact h.startRun hst
  · rw [hgetStart, hstop]
    exact h.stopRun hst

lemma get_free_eq_none (h : db.get type s = none) : (db.free p).get type s = none := by
  rw [get_eq_none_iff] at h ⊢
  simp [ProcessDb.actives_free, h]

lemma length_actives_free_le :
    ((db.free p).actives type s).length ≤ (db.actives type s).length := by
  rw [ProcessDb.actives_free]
  exact length_filter_le _ _

lemma Fits.free (h : Fits s db st) : Fits s (db.free p) st where
  clear hst := ⟨get_free_eq_none (h.clear hst).1, get_free_eq_none (h.clear hst).2⟩
  startRun hst := ⟨le_trans length_actives_free_le (h.startRun hst).1,
    get_free_eq_none (h.startRun hst).2⟩
  stopRun hst := ⟨get_free_eq_none (h.stopRun hst).1,
    le_trans length_actives_free_le (h.stopRun hst).2⟩

lemma get_free_of_length (hp : p ∈ db.actives type s)
    (hone : (db.actives type s).length ≤ 1) : (db.free p).get type s = none := by
  rw [get_eq_none_iff, ProcessDb.actives_free, filter_eq_nil_iff]
  intro q hq
  obtain ⟨x, hx⟩ := length_eq_one_iff.mp (le_antisymm hone (length_pos_of_mem hp))
  rw [hx, mem_singleton] at hp hq
  simp [hp, hq]

end

structure ServiceReady (s : Sid) (w : World) : Prop extends Ready s w where
  service : (w.g.svc s).type = some ⟨"service"⟩

structure Kept (exempt : Prop) (flag flag' : Prop) (s : Sid) (w w' : World) : Prop where
  tidy : Tidy False s w → Tidy exempt s w'
  flagged : Flagged False flag s w → Flagged exempt flag' s w'

section
variable {m : Loaded} {exempt flag flag' : Prop} {s : Sid} {w w' : World} {g' : G} {env : Env}
  {fuel : ℕ}
  {st cur : AState} {p : Prid}

section
variable (h0 : (w'.g.svc s).stateLock = 0)
include h0

lemma Kept.of_mark {w'' : World}
    (hg : w''.g = (w'.mark s st).g) (htidy : Tidy False s w → Fits s w''.processes st)
    (hflag : Flagged False flag s w → st ∈ serviceUp → flag') :
    Kept exempt flag flag' s w w'' := by
  refine ⟨fun h => ?_, fun h => ?_⟩
  · rw [Tidy, hg]
    exact Obeys.enter h0 (htidy h)
  · rw [Flagged, hg]
    exact Obeys.enter h0 (hflag h)

lemma Kept.mark
    (htidy : Tidy False s w → Fits s w'.processes st)
    (hflag : Flagged False flag s w → st ∈ serviceUp → flag') :
    Kept exempt flag flag' s w (w'.mark s st) := .of_mark h0 rfl htidy hflag

lemma Kept.loose (hst : st ∉ serviceRuled) : Kept exempt flag flag' s w (w'.mark s st) := by
  have hup : ∀ x ∈ serviceUp, x ∈ serviceRuled := by decide
  exact .mark h0 (fun _ => fits_of_loose hst) fun _ hin => absurd (hup st hin) hst

end

lemma Kept.same (himp : flag → flag') (hview : (w'.g.svc s).type = (w.g.svc s).type ∧
      (w'.g.svc s).currentState = (w.g.svc s).currentState ∧
      (w'.g.svc s).nextState = (w.g.svc s).nextState)
    (hfits : ∀ st, (w.g.svc s).Shows st → Fits s w.processes st → Fits s w'.processes st) :
    Kept exempt flag flag' s w w' := by
  refine ⟨fun h => ?_, fun h => ?_⟩
  · have hold : Obeys exempt serviceMarked (Fits s w'.processes) s w.g :=
      fun x hx => .inr (hfits x hx (h.of_shows hx))
    exact hold.same hview
  · have hold : Obeys exempt serviceMarked (fun st => st ∈ serviceUp → flag') s w.g :=
      fun x hx => .inr fun hin => himp (h.of_shows hx hin)
    exact hold.same hview

lemma tidy_turnable (s : Sid) (db : ProcessDb) :
    Turnable fun _ st => st ∈ serviceMarked ∨ Fits s db st := by
  have howner : ∀ st ∈ serviceRuled, st.owner ≠ none := by decide
  have hmarked : ∀ f ∈ turnings, (f.startMarked ∈ serviceMarked ∨ f.startMarked ∉ serviceRuled) ∧
      (f.stopMarked ∈ serviceMarked ∨ f.stopMarked ∉ serviceRuled) := by decide
  have hwait : ∀ f ∈ turnings, (f.waitingStop ∉ serviceMarked ∧
      (f.waitingStop ∈ serviceClear ∨ f.up ∉ serviceRuled)) ∧ f.waitingStart ∉ serviceMarked ∧
      (f.waitingStart ∈ serviceClear ∨ f.down ∉ serviceRuled) := by decide
  have hturn {st back : AState}
      (hst : st ∉ serviceMarked ∧ (st ∈ serviceClear ∨ back ∉ serviceRuled))
      (h : st ∈ serviceMarked ∨ Fits s db st) : back ∈ serviceMarked ∨ Fits s db back := by
    obtain ⟨hnot, hclear | hloose⟩ := hst
    · exact .inr (Clear.fits ((h.resolve_left hnot).clear hclear))
    · exact .inr (fits_of_loose hloose)
  exact
    { foreign := fun _ st hst =>
        .inr (fits_of_loose fun hin => howner st hin (owner_of_foreign hst))
      up := fun f hf => hturn (hwait f hf).1
      startMarked := fun f hf => (hmarked f hf).1.imp id fits_of_loose
      down := fun f hf => hturn (hwait f hf).2
      stopMarked := fun f hf => (hmarked f hf).2.imp id fits_of_loose }

lemma flagged_turnable (flag : Prop) :
    Turnable fun _ st => st ∈ serviceMarked ∨ (st ∈ serviceUp → flag) :=
  turnable_of_list flag (by decide) (by decide)

lemma Kept.moves (hexempt : exempt) (himp : flag → flag') (hm : Moves s w.g g') :
    Kept exempt flag flag' s w { w with g := g' } where
  tidy h := Obeys.moves (tidy_turnable s w.processes) hexempt hm h.mono
  flagged h := Obeys.moves (flagged_turnable flag') hexempt hm
    fun _ hx => .inr fun hin => himp (h.of_shows hx hin)

lemma ServiceReady.ne_daemon (h : ServiceReady s w) (hst : st ∈ daemonScope.marks) :
    (w.g.svc s).currentState ≠ st := by
  intro hcur
  have htype := h.kinds.type_of_shows .daemon (.inl hcur) hst
  rw [h.service] at htype
  simp at htype

lemma ServiceReady.unlocked_of_moves (h : ServiceReady s w) (hm : Moves s w.g g') :
    (g'.svc s).stateLock = 0 := (hm.stateLock (.inl h.below)).trans h.unlocked

lemma Tidy.clear (h : Tidy False s w) (hcur : (w.g.svc s).currentState = cur)
    (hin : cur ∈ serviceClear) : Clear s w.processes := (h.of_shows (.inl hcur)).clear hin

lemma executeLaunch_other {type other : Ptype} (hapart : w.processes.Apart)
    (hne : type ≠ other) :
    (w.executeLaunch env s type).2.processes.actives other s = w.processes.actives other s := by
  rcases (ProcessDb.executeLaunch_cases hapart s type env.launch).2 with
    ⟨-, hsame⟩ | ⟨-, -, hadd⟩
  · exact hsame other s
  · refine (hadd other s).trans ?_
    rw [if_neg fun he => hne he.2, append_nil]

lemma executeLaunch_length {type : Ptype} (hapart : w.processes.Apart)
    (hnone : w.processes.get type s = none) :
    ((w.executeLaunch env s type).2.processes.actives type s).length ≤ 1 := by
  rw [get_eq_none_iff] at hnone
  rcases (ProcessDb.executeLaunch_cases hapart s type env.launch).2 with
    ⟨-, hsame⟩ | ⟨-, -, hadd⟩
  · have he : (w.executeLaunch env s type).2.processes.actives type s = [] :=
      (hsame type s).trans hnone
    simp [he]
  · have he : (w.executeLaunch env s type).2.processes.actives type s = [w.processes.brk] := by
      refine (hadd type s).trans ?_
      rw [hnone, if_pos ⟨rfl, rfl⟩, nil_append]
    simp [he]

lemma executeLaunch_false {type other : Ptype} (hapart : w.processes.Apart)
    (h : (w.executeLaunch env s type).1 = .false) :
    (w.executeLaunch env s type).2.processes.actives other s = w.processes.actives other s := by
  rcases (ProcessDb.executeLaunch_cases hapart s type env.launch).2 with
    ⟨-, hsame⟩ | ⟨htrue, -⟩
  · exact hsame other s
  · simp [World.executeLaunch, htrue] at h

lemma kept_initRun (himp : flag → flag') (entry : SEntry) (default : Int) :
    Kept exempt flag flag' s w (initRun entry default s w) := by
  unfold initRun
  split
  · exact .same himp ⟨rfl, rfl, rfl⟩ fun _ _ => id
  · exact .same himp (by simp [World.setAlarm, Alarms.setAlarm]) fun _ _ => id

section
variable (h : ServiceReady s w)
include h

lemma kept_initServiceStartMarked
    (hcur : (w.g.svc s).currentState = .serviceStartMarked)
    (hinit : initServiceStartMarked m.toModules fuel s w = some w') :
    Kept exempt flag flag' s w w' := by
  obtain ⟨r, hr, rfl⟩ := map_eq_some_iff.mp hinit
  have hmoves : Moves s w.g r.2 :=
    .asked m (asked_dependStartDeps m.hooksDo (asks_handlerStartService m.hooksDo fuel) hr) s
  have h0 := h.unlocked_of_moves hmoves
  dsimp only
  split
  · exact .loose h0 (by decide)
  · exact .mark h0 (fun ht => (ht.clear hcur (by decide)).fits) fun _ hin =>
      absurd hin (by decide)

lemma kept_initServiceStopMarked (himp : flag → flag')
    (hcur : (w.g.svc s).currentState = .serviceStopMarked) :
    Kept exempt flag flag' s w (initServiceStopMarked m.toModules s w) := by
  have hmoves : Moves s w.g (dependStopDeps m.toModules s w.g.activeDb w.g).2 :=
    .asked m (asked_dependStopDeps s _ w.g) s
  have h0 := h.unlocked_of_moves hmoves
  unfold initServiceStopMarked
  dsimp only
  split
  · exact .loose h0 (by decide)
  · exact .mark h0 (fun ht => (ht.clear hcur (by decide)).fits) fun hf _ =>
      himp (hf.of_shows (.inl hcur) (by decide))

lemma kept_stateInterrupt (himp : flag → flag')
    (hexempt : (w.g.svc s).currentState ∉ serviceMarked → exempt) :
    ∀ w' ∈ stateInterrupt m.toModules fuel (w.g.svc s).currentState s w,
      Kept exempt flag flag' s w w' := by
  rw [stateInterrupt]
  refine forall_mem_ite (fun hc w' hw' => ?_) fun _ => ?_
  · obtain ⟨r, hr, rfl⟩ := map_eq_some_iff.mp hw'
    have hmoves : Moves s w.g r.2 := .asked m (asked_dependStartDepMet m.hooksDo hr) s
    have h0 := h.unlocked_of_moves hmoves
    have hmark {st : AState} (hup : st ∉ serviceUp) :
        Kept exempt flag flag' s w ({ w with g := r.2 }.mark s st) :=
      .mark h0 (fun ht => (ht.clear hc (by decide)).fits) fun _ hin => absurd hin hup
    dsimp only
    split
    · exact .moves (hexempt (by rw [hc]; decide)) himp hmoves
    · exact hmark (by decide)
    · split
      all_goals exact hmark (by decide)
  refine forall_mem_ite (fun hc => forall_mem_some ?_) fun _ => ?_
  · have hmoves : Moves s w.g (dependStopDepMet m.toModules s w.g).2 :=
      .asked m (asked_dependStopDepMet m.hooksDo s w.g) s
    unfold handleServiceWaitingForStopDep waitingForStopDep
    dsimp only
    split
    · exact .moves (hexempt (by rw [hc]; decide)) himp hmoves
    · exact .mark (h.unlocked_of_moves hmoves) (fun ht => (ht.clear hc (by decide)).fits)
        fun _ hin => absurd hin (by decide)
  iterate 2 rw [if_neg (h.ne_daemon (by decide))]
  exact forall_mem_some (.same himp ⟨rfl, rfl, rfl⟩ fun _ _ => id)

lemma kept_handleKilledStart
    (hp : p ∈ w.processes.actives tStart s) (himp : flag → flag')
    (haccept : startAccepted env s p w = true → flag') :
    Kept exempt flag flag' s w (handleKilledStart env s p w) := by
  have hclear (ht : Tidy False s w) (hcur : (w.g.svc s).currentState = .serviceStartRun) :
      Clear s (w.processes.free p) := by
    obtain ⟨hone, hstop⟩ := (ht.of_shows (.inl hcur)).startRun rfl
    exact ⟨get_free_of_length hp hone, get_free_eq_none hstop⟩
  rcases handleKilledStart_cases env s p w with
    ⟨hacc, hcur, he⟩ | ⟨-, he⟩ | ⟨hcur, st, hst, he⟩
  · rw [he]
    exact .mark h.unlocked (fun ht => (hclear ht hcur).fits) fun _ _ => haccept hacc
  · rw [he]
    exact .same himp ⟨rfl, rfl, rfl⟩ fun _ _ hfits => hfits.free
  · rw [he]
    have hup : ∀ x ∈ [AState.serviceFailStartSignal, .serviceFailStartRcode,
        .serviceUpCheckFailed], x ∉ serviceUp := by decide
    exact .mark h.unlocked (fun ht => (hclear ht hcur).fits) fun _ hin =>
      absurd hin (hup st hst)

lemma kept_handleKilledStop (hp : p ∈ w.processes.actives tStop s)
    (himp : flag → flag') : Kept exempt flag flag' s w (handleKilledStop s p w) := by
  rcases handleKilledStop_cases s p w with ⟨-, he⟩ | ⟨hcur, st, hst, he⟩
  · rw [he]
    exact .same himp ⟨rfl, rfl, rfl⟩ fun _ _ hfits => hfits.free
  · rw [he]
    have hup : ∀ x ∈ [AState.serviceFailStopSignal, .serviceFailStopRcode, .serviceStopped],
        x ∉ serviceUp := by decide
    refine .mark h.unlocked (fun ht => ?_) fun _ hin => absurd hin (hup st hst)
    obtain ⟨hstart, hone⟩ := (ht.of_shows (.inl hcur)).stopRun rfl
    exact Clear.fits ⟨get_free_eq_none hstart, get_free_of_length hp hone⟩

variable (env)

lemma kept_initServiceStartDepsMet
    (hcur : (w.g.svc s).currentState = .serviceStartDepsMet) :
    Kept exempt flag flag' s w (initServiceStartDepsMet env s w) := by
  obtain ⟨hmark, h0, -⟩ := h.mark hcur (show _ ≠ AState.serviceStartRun by decide)
  unfold initServiceStartDepsMet
  dsimp only
  rw [if_neg (by simp [hmark])]
  split
  · exact .loose h0 (by decide)
  · exact .loose h0 (by decide)
  · refine .of_mark h.unlocked rfl (fun ht => ?_) fun _ hin => absurd hin (by decide)
    -- the start process is the only one
    obtain ⟨hstart, hstop⟩ := ht.clear hcur (by decide)
    refine ⟨fun hin => absurd hin (by decide), fun _ => ⟨?_, ?_⟩, fun he => absurd he (by decide)⟩
    · exact executeLaunch_length (w := (w.mark s .serviceStartRun).begins (.launch s tStart))
        h.apart hstart
    · rw [get_eq_none_iff] at hstop ⊢
      exact (executeLaunch_other (w := (w.mark s .serviceStartRun).begins (.launch s tStart))
        h.apart (by decide)).trans hstop

lemma kept_initServiceStopDepsMet
    (hcur : (w.g.svc s).currentState = .serviceStopDepsMet) :
    Kept exempt flag flag' s w (initServiceStopDepsMet env s w) := by
  obtain ⟨hmark, h0, -⟩ := h.mark hcur (show _ ≠ AState.serviceStopRun by decide)
  unfold initServiceStopDepsMet
  dsimp only
  rw [if_neg (by simp [hmark])]
  split
  · exact .loose h0 (by decide)
  next hfalse =>
    refine .mark h0 (fun ht => ?_) fun _ hin => absurd hin (by decide)
    have hfits : Fits s w.processes .serviceStopped := (ht.clear hcur (by decide)).fits
    exact hfits.congr
      (executeLaunch_false (w := w.mark s .serviceStopRun) h.apart hfalse)
      (executeLaunch_false (w := w.mark s .serviceStopRun) h.apart hfalse)
  · refine .of_mark h.unlocked rfl (fun ht => ?_) fun _ hin => absurd hin (by decide)
    obtain ⟨hstart, hstop⟩ := ht.clear hcur (by decide)
    refine ⟨fun hin => absurd hin (by decide), fun he => absurd he (by decide), fun _ => ⟨?_, ?_⟩⟩
    · rw [get_eq_none_iff] at hstart ⊢
      exact (executeLaunch_other (w := w.mark s .serviceStopRun) h.apart (by decide)).trans hstart
    · exact executeLaunch_length (w := w.mark s .serviceStopRun) h.apart hstop

lemma kept_stateInit (himp : flag → flag') :
    ∀ w' ∈ stateInit m.toModules fuel env (w.g.svc s).currentState s w,
      Kept exempt flag flag' s w w' := by
  rw [stateInit]
  refine forall_mem_ite (fun hc w' hw' => kept_initServiceStartMarked h hc hw') fun _ => ?_
  refine forall_mem_row (fun hc => kept_initServiceStopMarked h himp hc) fun _ => ?_
  refine forall_mem_row (fun hc => kept_initServiceStartDepsMet env h hc) fun _ => ?_
  refine forall_mem_row (fun hc => kept_initServiceStopDepsMet env h hc) fun _ => ?_
  refine forall_mem_row (fun _ => kept_initRun himp _ _) fun _ => ?_
  refine forall_mem_row (fun _ => kept_initRun himp _ _) fun _ => ?_
  iterate 8 rw [if_neg (h.ne_daemon (by decide))]
  exact forall_mem_some (.same himp ⟨rfl, rfl, rfl⟩ fun _ _ => id)

lemma kept_timeoutRun {type : Ptype} {killed : Sid → Prid → World → World} {failed : AState}
    (himp : flag → flag')
    (hkilled : ∀ p ∈ w.processes.actives type s, is .neverKill w.g s = false →
      w.processes.get type s = some p →
      ((w.processes.process p).pid ≤ 0 ∨ env.kill (w.processes.process p).pid = .noProcess) →
      Kept exempt flag flag' s w (killed s p w))
    (hfailed : failed ∉ serviceRuled) :
    Kept exempt flag flag' s w (timeoutRun type killed failed env s w) := by
  have hsame : Kept exempt flag flag' s w w := .same himp ⟨rfl, rfl, rfl⟩ fun _ _ => id
  unfold timeoutRun
  split
  · exact hsame
  next hnever =>
    split
    · exact hsame
    next p hget =>
      obtain ⟨hp, hpst, hpt⟩ := ProcessDb.get_some hget
      dsimp only
      split
      next hgone =>
        exact hkilled p (ProcessDb.mem_actives.mpr ⟨hp, hpst, hpt⟩) (by simpa using hnever) hget
          hgone
      · exact .loose h.unlocked hfailed

lemma kept_stateAlarm (himp : flag → flag')
    (haccept : ∀ p, is .neverKill w.g s = false → w.processes.get tStart s = some p →
      ((w.processes.process p).pid ≤ 0 ∨ env.kill (w.processes.process p).pid = .noProcess) →
      startAccepted env s p w = true → flag') :
    ∀ w' ∈ stateAlarm m.toModules fuel env (w.g.svc s).currentState s w,
      Kept exempt flag flag' s w w' := by
  rw [stateAlarm]
  refine forall_mem_ite (fun _ => forall_mem_some ?_) fun _ => ?_
  · exact kept_timeoutRun env h himp (fun p hp hnever hget hgone =>
      kept_handleKilledStart h hp himp (haccept p hnever hget hgone)) (by decide)
  refine forall_mem_ite (fun _ => forall_mem_some ?_) fun _ => ?_
  · exact kept_timeoutRun env h himp (fun p hp _ _ _ => kept_handleKilledStop h hp himp) (by decide)
  iterate 4 rw [if_neg (h.ne_daemon (by decide))]
  exact forall_mem_some (.same himp ⟨rfl, rfl, rfl⟩ fun _ _ => id)

end

variable {step : SysStep} {c c' : Sys}

lemma kept_alarm (h : ServiceReady s c.w)
    (hstep : step = .alarm env fuel s) (hidle : c.stage = .idle) (hs : s ∈ c.w.g.activeDb)
    (hset : (c.w.g.svc s).alarm ≠ 0) (hdue : c.w.now ≥ (c.w.g.svc s).alarm)
    (hal : stateAlarm m.toModules fuel env (c.w.g.svc s).currentState s
      (c.w.alarmOff s) = some w') :
    Kept exempt flag (flag ∨ step.accepts s c = true) s c.w w' := by
  have hready : ServiceReady s (c.w.alarmOff s) :=
    ⟨h.toReady.alarmed, by rw [alarmed_svc]; exact h.service⟩
  have hcur : ((c.w.alarmOff s).g.svc s).currentState = (c.w.g.svc s).currentState := by simp
  have hnever : is .neverKill (c.w.alarmOff s).g s = is .neverKill c.w.g s := by simp [is]
  rw [← hcur] at hal
  have hkept : Kept exempt flag (flag ∨ step.accepts s c = true) s (c.w.alarmOff s) w' := by
    refine kept_stateAlarm env hready .inl (fun p hp hget hgone hacc => ?_) _ hal
    refine .inr ?_
    rw [hnever] at hp
    rw [hstep]
    simp only [SysStep.accepts, decide_eq_true_eq]
    refine ⟨trivial, hidle, hs, hset, hdue, hp, ?_⟩
    rw [show c.w.processes.get tStart s = some p from hget, any_some]
    simpa using ⟨hgone, hacc⟩
  exact ⟨fun ht => hkept.tidy (ht.same (by simp)), fun hf => hkept.flagged (hf.same (by simp))⟩

lemma kept_killed {kpid rCode : Int} (h : ServiceReady s c.w)
    (hstep : step = .killed env kpid rCode) (hidle : c.stage = .idle)
    (hget : c.w.processes.getByPid kpid s = some p)
    (htarget : c.w.killTarget env kpid = some (s, p)) :
    Kept exempt flag (flag ∨ step.accepts s c = true) s c.w
      (killHandler env (c.w.processes.process p).pt s p (c.w.dead p rCode)) := by
  have hdied : ServiceReady s (c.w.dead p rCode) := ⟨h.toReady.died p rCode, h.service⟩
  have hmem : p ∈ (c.w.dead p rCode).processes.actives (c.w.processes.process p).pt s := by
    have hactive := find?_some hget
    simp only [decide_eq_true_eq] at hactive
    rw [dead_actives]
    exact ProcessDb.mem_actives.mpr ⟨mem_of_find?_eq_some hget, hactive.1, rfl⟩
  have hback {w' : World} {after : Prop} (hkept : Kept exempt flag after s (c.w.dead p rCode) w') :
      Kept exempt flag after s c.w w' :=
    ⟨fun ht => hkept.tidy fun x hx => .inr ((ht.of_shows hx).congr dead_actives dead_actives),
      hkept.flagged⟩
  unfold killHandler
  split_ifs with hstart hstop hdaemon
  · rw [hstart] at hmem
    refine hback (kept_handleKilledStart hdied hmem .inl fun hacc => .inr ?_)
    rw [hstep]
    simp only [SysStep.accepts, htarget, any_some, decide_eq_true_eq]
    exact ⟨hidle, trivial, hstart, hacc⟩
  · rw [hstop] at hmem
    exact hback (kept_handleKilledStop hdied hmem .inl)
  · have htype := h.owned.family hget .daemon (by rw [hdaemon]; decide)
    rw [h.service] at htype
    simp at htype
  · exact hback (.same .inl ⟨rfl, rfl, rfl⟩ fun _ _ hfits => hfits.free)

lemma Calls.kept (h : ServiceReady s c.w)
    (hexempt : (c.w.g.svc s).currentState ∉ serviceMarked → exempt)
    (hcalls : Calls m step s c w') :
    Kept exempt flag (flag ∨ step.accepts s c = true) s c.w w' := by
  cases hcalls with
  | init hstage hinit => exact kept_stateInit _ h .inl _ hinit
  | interrupt hidle hs hint => exact kept_stateInterrupt h .inl hexempt _ hint
  | alarm hstep hidle hs hset hdue hal => exact kept_alarm h hstep hidle hs hset hdue hal
  | killed hstep hidle hs hget htarget => exact kept_killed h hstep hidle hget htarget

def MarkedClear (s : Sid) (c c' : Sys) : Prop :=
  ∀ st ∈ serviceMarked, (c'.w.g.svc s).Shows st → ¬ (c.w.g.svc s).Shows st → Clear s c'.w.processes

instance (s : Sid) (c c' : Sys) : Decidable (MarkedClear s c c') :=
  inferInstanceAs (Decidable (∀ st ∈ serviceMarked, _))

lemma tidy_of_kinds (h : Meets s Kind w.g) (htype : (w.g.svc s).type ≠ some ⟨"service"⟩) :
    Tidy exempt s w := by
  intro x hx
  have hmarks : ∀ st ∈ serviceRuled, st ∈ serviceScope.marks := by decide
  exact .inr (fits_of_loose fun hin => htype (h.type_of_shows .service hx (hmarks x hin)))

lemma flagged_of_kinds (h : Meets s Kind w.g) (htype : (w.g.svc s).type ≠ some ⟨"service"⟩) :
    Flagged exempt flag s w := by
  intro x hx
  have hmarks : ∀ st ∈ serviceUp, st ∈ serviceScope.marks := by decide
  exact .inr fun hin => absurd (h.type_of_shows .service hx (hmarks x hin)) htype

section
variable (hok : OkFor c s) (hok' : OkFor c' s) (hapart : c.w.processes.Apart)
  (hstep : StepFor m step s c c')
include hok hok' hapart hstep

lemma Tidy.stepFor (hmarked : MarkedClear s c c') (h : Tidy False s c.w) : Tidy False s c'.w := by
  refine obeys_iff.mpr fun x hx => ?_
  have hcases := hstep.obeys m (B := Fits s c'.w.processes) hok hapart
    (tidy_turnable s c.w.processes)
    (fun hp st hold => hold.congr (hp.actives tStart) (hp.actives tStop))
    (fits_of_loose (by decide)) (fun hready hcalls => ?_) h hx
  · rcases hcases with ⟨hin, hnew⟩ | hfits
    · exact (hmarked x hin hx hnew).fits
    · exact hfits
  · by_cases htype : (c.w.g.svc s).type = some ⟨"service"⟩
    · have hkept : Kept _ True _ s c.w c'.w := hcalls.kept ⟨hready, htype⟩ id
      exact hkept.tidy h
    · exact tidy_of_kinds hok'.kinds (hcalls.type m hok ▸ htype)

lemma Flagged.stepFor (h : Flagged False flag s c.w)
    (hstop : (c'.w.g.svc s).Shows .serviceStopMarked → ¬ (c.w.g.svc s).Shows .serviceStopMarked →
      flag ∨ step.accepts s c = true) :
    Flagged False (flag ∨ step.accepts s c = true) s c'.w := by
  refine obeys_iff.mpr fun x hx hin => ?_
  have hcases := hstep.obeys m
    (B := fun st => st ∈ serviceUp → flag ∨ step.accepts s c = true) hok hapart
    (flagged_turnable flag) (fun _ st hold hst => .inl (hold hst))
    (fun hst => absurd hst (by decide)) (fun hready hcalls => ?_) h hx
  · rcases hcases with ⟨hmarked, hnew⟩ | hflag
    · have hboth : ∀ st ∈ serviceMarked, st ∈ serviceUp → st = .serviceStopMarked := by decide
      obtain rfl := hboth x hmarked hin
      exact hstop hx hnew
    · exact hflag hin
  · by_cases htype : (c.w.g.svc s).type = some ⟨"service"⟩
    · exact (hcalls.kept ⟨hready, htype⟩ id).flagged h
    · exact flagged_of_kinds hok'.kinds (hcalls.type m hok ▸ htype)

end

def UprightFor (cur st : AState) : Prop := st ∈ serviceUp → cur.is ≠ .isDown

lemma uprightFor_recordable : Recordable UprightFor where
  foreign cur st hst := by
    have howner : ∀ st ∈ serviceUp, st.owner ≠ none := by decide
    exact fun hin => absurd hst (howner st hin)
  up f hf _ := by
    have hwait : ∀ f ∈ turnings, f.waitingStop.is ≠ .isDown := by decide
    exact hwait f hf
  startMarked f hf _ hin := by
    have hnot : ∀ f ∈ turnings, f.startMarked ∉ serviceUp := by decide
    exact absurd hin (hnot f hf)
  down f hf hin := by
    have hnot : ∀ f ∈ turnings, f.down ∉ serviceUp := by decide
    exact absurd hin (hnot f hf)
  stopMarked f hf cur his _ := by
    rcases his with his | his <;> simp [his]

lemma upright_stepFor (hok : OkFor c s) (hok' : OkFor c' s) (hapart : c.w.processes.Apart)
    (hstep : StepFor m step s c c') (h : Records s UprightFor c.w.g) :
    Records s UprightFor c'.w.g := by
  rcases hstep.passive_or_calls m hok hapart with hp | hfree | ⟨-, hidle, -⟩
  · exact hp.records _ uprightFor_recordable h
  · intro st hst
    have hnew := free_shows (w := c.w) (.inr (hfree ▸ hst))
    exact fun hin => absurd (hnew ▸ hin) (by decide)
  · intro st hst
    rw [hok'.settled (hok'.unlocked hidle)] at hst
    cases hst

lemma Flagged.of_down (h : Flagged False flag s w) (hr : Records s UprightFor w.g)
    (P : Prop) (hP : (w.g.svc s).currentState.is ≠ .isDown → P) : Flagged False (flag ∧ P) s w := by
  refine obeys_iff.mpr fun x hx hin => ⟨h.of_shows hx hin, hP ?_⟩
  rcases hx with rfl | hnext
  · have hstates : ∀ st ∈ serviceUp, st.is ≠ .isDown := by decide
    exact hstates _ hin
  · exact hr x hnext hin

end

lemma tidy_start (s : Sid) (now : Timeval) : Tidy False s (Sys.start now).w :=
  obeys_iff.mpr fun x hx => by
    obtain rfl := shows_start hx
    exact fits_of_loose (by decide)

lemma flagged_start (s : Sid) (now : Timeval) : Flagged False False s (Sys.start now).w :=
  obeys_iff.mpr fun x hx hin => by
    obtain rfl := shows_start hx
    exact absurd hin (by decide)

/-- The system, with a flag for one service: a start process of it has been accepted since it was
down. -/
def watched (m : Loaded) (s : Sid) : SysStep → Sys × Bool → Sys × Bool :=
  watch (SysStep.apply m) (fun c step => step.accepts s c) fun c => getState c.w.g s = .isDown

def StopsAccepted (m : Loaded) (s : Sid) (x : Sys × Bool) (step : SysStep) : Prop :=
  ((watched m s step x).1.w.g.svc s).Shows .serviceStopMarked →
    ¬ (x.1.w.g.svc s).Shows .serviceStopMarked → (watched m s step x).2 = true

instance (m : Loaded) (s : Sid) (x : Sys × Bool) (step : SysStep) :
    Decidable (StopsAccepted m s x step) := inferInstanceAs (Decidable (_ → _ → _))

def oneService : List SysStep :=
  [.act (.new "net"), .act (.setup 0 (some ⟨"service"⟩) .new []), .act (.register 0),
    .setSysState .stateStarting, .start 3 0]

def startRuns : List SysStep :=
  oneService ++ handled (forking 100) 0 ++ handledQuietly (forking 100) 0 ++ [.interrupt 3 0] ++
    handledQuietly (forking 100) 0 ++ handledQuietly (forking 100) 0

def serviceIsUp : List SysStep :=
  startRuns ++ .killed (forking 100) 100 0 :: handled (forking 100) 0

def stoppedAndStarted : List SysStep :=
  serviceIsUp ++ .stop 0 :: handled (forking 200) 0 ++ [.start 3 0]

/-- The same before the start process is launched. -/
def neverLaunched : List SysStep := oneService ++ .stop 0 :: handled (forking 100) 0 ++ [.start 3 0]

def serviceIsDown : List SysStep :=
  serviceIsUp ++ .stop 0 :: handled (forking 200) 0 ++ .interrupt 3 0 ::
    handledQuietly (forking 200) 0 ++ [.killed (forking 200) 200 0]

def notForking : Env := { forking 0 with launch := .failed }

def stoppedWhileStarting : List SysStep :=
  startRuns ++ .stop 0 :: handled notForking 0 ++ .interrupt 3 0 :: handledQuietly notForking 0

section
variable (m : Loaded) (now : Timeval) (s : Sid) (steps : List SysStep)

/-- A service that is stopped has nothing running, if it was marked as starting or stopping only
without processes. -/
theorem serviceStopped_clear
    (hmarked : Along (SysStep.apply m) (fun c step => MarkedClear s c (step.apply m c))
      (Sys.start now) steps) :
    (((run (SysStep.apply m) steps (Sys.start now)).w.g.svc s).currentState = .serviceStopped →
      Clear s (run (SysStep.apply m) steps (Sys.start now)).w.processes) ∧
    (((run (SysStep.apply m) steps (Sys.start now)).w.g.svc s).currentState =
        .serviceStartDepsMet →
      (run (SysStep.apply m) steps (Sys.start now)).w.processes.get tStart s = none) := by
  have hstep (c : Sys) (step : SysStep) (hok : c.Ok) (h : Tidy False s c.w)
      (hcond : MarkedClear s c (step.apply m c)) : Tidy False s (step.apply m c).w :=
    h.stepFor (hok.each s) ((hok.apply m step).each s) hok.apart ((step.stepsFor m hok).2 s) hcond
  have htidy := (Sys.run_invariant m now (tidy_start s now) hstep hmarked).2
  exact ⟨fun hcur => htidy.clear hcur (by decide), fun hcur => (htidy.clear hcur (by decide)).1⟩

theorem serviceStopped_clear_down :
    ((run (SysStep.apply bareModules) serviceIsDown (Sys.start ⟨1, 0⟩)).w.g.svc 0).currentState =
        .serviceStopped ∧
      Clear 0 (run (SysStep.apply bareModules) serviceIsDown (Sys.start ⟨1, 0⟩)).w.processes := by
  refine ⟨?_, (serviceStopped_clear bareModules ⟨1, 0⟩ 0 _ ?_).1 ?_⟩
  all_goals decide +kernel

/-- The start process of a service that was stopped still runs. -/
theorem serviceStopped_running :
    ¬ ∀ (m : Loaded) (now : Timeval) (s : Sid) (steps : List SysStep),
      ((run (SysStep.apply m) steps (Sys.start now)).w.g.svc s).currentState = .serviceStopped →
        Clear s (run (SysStep.apply m) steps (Sys.start now)).w.processes := by
  intro h
  refine absurd (h bareModules ⟨1, 0⟩ 0 stoppedWhileStarting ?_) ?_
  all_goals decide +kernel

/-- While the start script runs the stop script does not, and the other way round. -/
theorem serviceRuns_exclude
    (hmarked : Along (SysStep.apply m) (fun c step => MarkedClear s c (step.apply m c))
      (Sys.start now) steps) :
    let w := (run (SysStep.apply m) steps (Sys.start now)).w
    ((w.g.svc s).currentState = .serviceStartRun →
      (w.processes.actives tStart s).length ≤ 1 ∧ w.processes.get tStop s = none) ∧
    ((w.g.svc s).currentState = .serviceStopRun →
      w.processes.get tStart s = none ∧ (w.processes.actives tStop s).length ≤ 1) := by
  intro w
  have hstep (c : Sys) (step : SysStep) (hok : c.Ok) (h : Tidy False s c.w)
      (hcond : MarkedClear s c (step.apply m c)) : Tidy False s (step.apply m c).w :=
    h.stepFor (hok.each s) ((hok.apply m step).each s) hok.apart ((step.stepsFor m hok).2 s) hcond
  have htidy := (Sys.run_invariant m now (tidy_start s now) hstep hmarked).2
  exact ⟨fun hcur => (htidy.of_shows (.inl hcur)).startRun rfl,
    fun hcur => (htidy.of_shows (.inl hcur)).stopRun rfl⟩

theorem serviceRuns_exclude_running :
    let w := (run (SysStep.apply bareModules) startRuns (Sys.start ⟨1, 0⟩)).w
    (w.g.svc 0).currentState = .serviceStartRun ∧
      (w.processes.actives tStart 0).length ≤ 1 ∧ w.processes.get tStop 0 = none := by
  refine ⟨?_, (serviceRuns_exclude bareModules ⟨1, 0⟩ 0 startRuns ?_).1 ?_⟩
  all_goals decide +kernel

end

end Initng
