import Initng.SystemRuns

namespace Initng

open StepRun

section
variable (m : Loaded) {step : SysStep} {s : Sid} {c c' : Sys} {w w' : World}

lemma taken_svc (s : Sid) (g : G) : (commonStateLock s (clearInterrupt s g)).svc s =
    { g.svc s with stateLock := (g.svc s).stateLock + 1 } := by simp [commonStateLock]

lemma unlockedInto_svc (s : Sid) (st : AState) (g : G) : (unlockedInto s st g).svc s =
    { g.svc s with stateLock := 0 }.enter st g.clock := by simp [unlockedInto]

lemma unlockedAt_svc (s : Sid) (g : G) :
    (unlockedAt s g).svc s = { g.svc s with stateLock := 0 } := by simp [unlockedAt]

lemma alarmed_svc (s : Sid) (g : G) (alarm : Int) :
    (g.modify s fun a => { a with alarm := alarm }).svc s = { g.svc s with alarm := alarm } :=
  G.modify_svc_self ..

lemma OkFor.unlocked (h : OkFor c s) (hidle : c.stage = .idle) : (c.w.g.svc s).stateLock = 0 := by
  rw [h.locked, hidle]
  rfl

lemma OkFor.below_or_unlocked (h : OkFor c s) : s < c.w.g.brk ∨ (c.w.g.svc s).stateLock = 0 := by
  cases hlock : c.stage.locks s with
  | true => exact .inl (h.handled (Stage.handles_of_locks hlock))
  | false =>
    refine .inr ?_
    rw [h.locked, hlock]
    rfl

lemma OkFor.beside (h : OkFor c s) (hb : Beside s c c') : OkFor c' s where
  locked := by rw [hb.moves.stateLock h.below_or_unlocked, h.locked, hb.locks]
  settled := hb.moves.ownLeft.settled h.settled
  handled hs := lt_of_lt_of_le (h.handled (hb.handles ▸ hs)) hb.moves.brk
  state state hstage := by
    have hold := hb.stage state hstage
    have hlock : c.stage.locks s = true := by simp [hold, Stage.locks]
    have hne : (c.w.g.svc s).stateLock ≠ 0 := by simp [h.locked, hlock]
    rw [(hb.moves.locked (h.handled (Stage.handles_of_locks hlock)) hne).1]
    exact h.state state hold
  registered hs := by
    rcases hb.moves.ownLeft.added hs with hs | hs
    · exact lt_of_lt_of_le (h.registered hs) hb.moves.brk
    · exact hs
  kinds := h.kinds.moves kind_turnable hb.moves
  owned type hne := by
    rw [hb.actives] at hne
    obtain ⟨hs, hservice, hdaemon⟩ := h.owned type hne
    refine ⟨lt_of_lt_of_le hs hb.moves.brk, fun ht => ?_, fun ht => ?_⟩
    · rw [hb.moves.known hs (.inl (hservice ht))]
      exact hservice ht
    · rw [hb.moves.known hs (.inr (hdaemon ht))]
      exact hdaemon ht

inductive Family : Stype → Scope → Prop
  | service : Family ⟨"service"⟩ serviceScope
  | daemon : Family ⟨"daemon"⟩ daemonScope

variable {ty : Stype} {scope : Scope} {st : AState} {w₁ : World}

lemma Family.owner (h : Family ty scope) : ∀ st ∈ scope.marks, st.owner = some ty := by
  cases h <;> decide

lemma Family.types (h : Family ty scope) :
    ∀ type ∈ scope.types, (type ∈ serviceScope.types → ty = ⟨"service"⟩) ∧
      (type ∈ daemonScope.types → ty = ⟨"daemon"⟩) := by
  cases h <;> decide

lemma Family.known (h : Family ty scope) {a : ActiveType} (htype : a.type = some ty) : a.Known := by
  cases h
  · exact .inl htype
  · exact .inr htype

lemma OkFor.works (hfam : Family ty scope) (h : OkFor ⟨.idle, w⟩ s) (hs : s < w.g.brk)
    (htype : (w.g.svc s).type = some ty) (hapart : w.processes.Apart)
    (hworks : Works m.toModules Meddled scope s w w') : OkFor ⟨.idle, w'⟩ s := by
  have hleft := hworks.ownLeft m
  have hknown : (w.g.svc s).Known := hfam.known htype
  have htype' : (w'.g.svc s).type = some ty := (hleft.known hs hknown).trans htype
  refine ⟨(hleft.stateLock hs).trans h.locked, hleft.settled h.settled, fun hlock => ?_,
    fun _ hstage => ?_, fun hreg => ?_, ?_, fun type hne => ?_⟩
  · cases hlock
  · cases hstage
  · rcases hleft.added hreg with hreg | hlt
    · exact lt_of_lt_of_le (h.registered hreg) hleft.brk
    · exact hlt
  · refine hworks.meets m kind_turnable hs hknown (fun st hst => ?_) h.kinds
    exact .inr ⟨ty, hfam.owner st hst, htype⟩
  · refine ⟨lt_of_lt_of_le hs hleft.brk, ?_⟩
    rw [htype']
    by_cases hin : type ∈ scope.types
    · obtain ⟨hservice, hdaemon⟩ := hfam.types type hin
      exact ⟨fun ht => congrArg some (hservice ht), fun ht => congrArg some (hdaemon ht)⟩
    · have hold := hworks.actives m hapart hin
      obtain ⟨-, hservice, hdaemon⟩ := h.owned type (hold ▸ hne)
      rw [← htype]
      exact ⟨hservice, hdaemon⟩

lemma Meets.type_of_shows {g : G} (h : Meets s Kind g) (hfam : Family ty scope)
    (hshows : (g.svc s).Shows st) (hst : st ∈ scope.marks) : (g.svc s).type = some ty := by
  have howner := hfam.owner st hst
  rcases h st hshows with hforeign | ⟨ty', howner', htype⟩
  · simp [AState.foreignTo, howner] at hforeign
  · rw [htype, ← howner', howner]

inductive Worked (m : Loaded) (s : Sid) (w w' : World) : Prop
  | works {ty : Stype} {scope : Scope} (hfam : Family ty scope)
    (htype : (w.g.svc s).type = some ty) (h : Works m.toModules Meddled scope s w w')
  | nothing (h : w' = w)
  | freed (p : Prid) (h : w' = w.freeProcess p)

lemma Hooked.worked (hkinds : Meets s Kind w.g)
    (h : Hooked m.toModules Meddled (w.g.svc s).currentState s w w') : Worked m s w w' := by
  rcases h with ⟨hst, hworks⟩ | ⟨hst, hworks⟩ | he
  · exact .works .service (hkinds.type_of_shows .service (.inl rfl) hst) hworks
  · exact .works .daemon (hkinds.type_of_shows .daemon (.inl rfl) hst) hworks
  · exact .nothing he

/-- What is done before something is called for a service: its alarm is taken off, or the death
of a process is recorded. -/
structure Prepared (s : Sid) (w w₁ : World) : Prop where
  g : ∃ alarm, w₁.g = w.g.modify s fun a => { a with alarm := alarm }
  actives : ∀ type, w₁.processes.actives type s = w.processes.actives type s
  apart : w.processes.Apart → w₁.processes.Apart

lemma Prepared.refl (s : Sid) (w : World) : Prepared s w w where
  g := ⟨(w.g.svc s).alarm, (G.modify_eq_self rfl).symm⟩
  actives _ := rfl
  apart := id

lemma Prepared.died (p : Prid) (rCode : Int) : Prepared s w (w.dead p rCode) where
  g := ⟨(w.g.svc s).alarm, (G.modify_eq_self rfl).symm⟩
  actives _ := dead_actives
  apart h := h.record _

lemma Prepared.svc (h : Prepared s w w₁) :
    ∃ alarm, w₁.g.svc s = { w.g.svc s with alarm := alarm } := by
  obtain ⟨alarm, hg⟩ := h.g
  exact ⟨alarm, by simp [hg]⟩

lemma Prepared.ok (h : Prepared s w w₁) (hok : OkFor ⟨.idle, w⟩ s) : OkFor ⟨.idle, w₁⟩ s := by
  obtain ⟨alarm, hg⟩ := h.g
  obtain ⟨alarm', hself⟩ := h.svc
  refine ⟨?_, fun h0 => ?_, fun hl => (by cases hl), fun _ hstage => (by cases hstage),
    fun hreg => ?_, fun st hst => ?_, fun type hne => ?_⟩
  · rw [hself]
    exact hok.locked
  · rw [hself] at h0 ⊢
    exact hok.settled h0
  · rw [hg] at hreg ⊢
    exact hok.registered hreg
  · rw [hself] at hst ⊢
    exact hok.kinds st hst
  · rw [h.actives] at hne
    rw [hself, hg]
    exact hok.owned type hne

lemma Owned.family (h : Owned s w) {kpid : Int} {p : Prid}
    (hget : w.processes.getByPid kpid s = some p) (hfam : Family ty scope)
    (hpt : (w.processes.process p).pt ∈ scope.types) : (w.g.svc s).type = some ty := by
  have hactive := List.find?_some hget
  simp only [decide_eq_true_eq] at hactive
  have hmem : p ∈ w.processes.actives (w.processes.process p).pt s :=
    ProcessDb.mem_actives.mpr ⟨List.mem_of_find?_eq_some hget, hactive.1, rfl⟩
  obtain ⟨-, hservice, hdaemon⟩ := h _ (List.ne_nil_of_mem hmem)
  cases hfam
  · exact hservice hpt
  · exact hdaemon hpt

section
variable (h : OkFor c s)
include h

lemma Calls.idle (hcalls : Calls m step s c w') : OkFor ⟨.idle, c.w⟩ s ∧ s < c.w.g.brk := by
  cases hcalls with
  | init hstage hinit =>
    obtain ⟨stage, w⟩ := c
    subst hstage
    exact ⟨⟨h.locked, h.settled, fun hl => (by cases hl), fun _ hstage => (by cases hstage),
      h.registered, h.kinds, h.owned⟩, h.handled (by simp [Stage.handles])⟩
  | interrupt hidle hs | alarm hstep hidle hs | killed hstep hidle hs =>
    exact ⟨hidle ▸ h, h.registered hs⟩

lemma Calls.worked (hcalls : Calls m step s c w') : ∃ w₁, Prepared s c.w w₁ ∧ Worked m s w₁ w' := by
  cases hcalls with
  | init hstage hinit =>
    exact ⟨c.w, .refl s c.w, Hooked.worked m h.kinds (hooked_stateInit m.hooksDo _ _ hinit)⟩
  | interrupt hidle hs hint =>
    exact ⟨c.w, .refl s c.w, Hooked.worked m h.kinds (hooked_stateInterrupt m.hooksDo _ hint)⟩
  | alarm hstep hidle hs hset hdue hal =>
    have hprep : Prepared s c.w (c.w.alarmOff s) := ⟨⟨0, rfl⟩, fun _ => rfl, id⟩
    have hhooked := (hookedQuietly_stateAlarm (R := Meddled) m.hooksDo _ _ hal).hooked
    refine ⟨_, hprep, Hooked.worked m (hprep.ok (hidle ▸ h : OkFor ⟨.idle, c.w⟩ s)).kinds ?_⟩
    simpa using hhooked
  | @killed env kpid rCode p hstep hidle hs hget htarget =>
    refine ⟨_, .died p rCode, ?_⟩
    rcases handled_died m env rCode hget with ⟨hpt, hworks⟩ | ⟨hpt, hworks⟩ | ⟨-, he⟩
    · refine .works .service (h.owned.family hget .service ?_) hworks
      rcases hpt with hpt | hpt <;> rw [hpt] <;> decide
    · refine .works .daemon (h.owned.family hget .daemon ?_) hworks
      rw [hpt]
      decide
    · exact .freed p he

lemma OkFor.called (hapart : c.w.processes.Apart)
    (hcalls : Calls m step s c w') : OkFor ⟨.idle, w'⟩ s := by
  obtain ⟨hidle, hs⟩ := hcalls.idle m h
  obtain ⟨w₁, hprep, hworked⟩ := hcalls.worked m h
  have hok := hprep.ok hidle
  obtain ⟨alarm, hg⟩ := hprep.g
  cases hworked with
  | works hfam htype hworks =>
    exact hok.works m hfam (by rw [hg]; exact hs) htype (hprep.apart hapart) hworks
  | nothing he => exact he ▸ hok
  | freed p he =>
    rw [he]
    refine ⟨hok.locked, hok.settled, hok.handled, hok.state, hok.registered, hok.kinds,
      fun type hne => hok.owned type fun hnil => hne ?_⟩
    exact (ProcessDb.actives_free).trans (by rw [hnil]; rfl)

lemma OkFor.take (hidle : c.stage = .idle) (hs : s < c.w.g.brk) :
    OkFor ⟨.stateChange s (c.w.g.svc s).currentState,
      { c.w with g := commonStateLock s (clearInterrupt s c.w.g) }⟩ s := by
  refine ⟨?_, fun hlock => ?_, fun _ => hs, fun state hstage => ?_, h.registered,
    fun st hst => ?_, fun type hne => ?_⟩
  · simp [taken_svc, h.unlocked hidle, Stage.locks]
  · simp [taken_svc] at hlock
  · cases hstage
    simp [taken_svc]
  · rw [taken_svc] at hst ⊢
    exact h.kinds st hst
  · rw [taken_svc]
    exact h.owned type hne

lemma OkFor.abort (hnext : (c.w.g.svc s).nextState = some st) :
    OkFor ⟨.idle, { c.w with g := unlockedInto s st c.w.g }⟩ s := by
  refine ⟨by rw [unlockedInto_svc]; rfl, fun _ => by rw [unlockedInto_svc]; rfl,
    fun hl => (by cases hl), fun _ hstage => (by cases hstage), fun hreg => ?_, fun x hx => ?_,
    fun type hne => ?_⟩
  · simpa [unlockedInto] using h.registered (by simpa [unlockedInto] using hreg)
  · rw [unlockedInto_svc] at hx ⊢
    obtain rfl : st = x := by simpa [ActiveType.Shows, ActiveType.enter] using hx
    exact h.kinds st (.inr hnext)
  · simpa [unlockedInto_svc, ActiveType.enter, unlockedInto] using h.owned type hne

lemma OkFor.unlockedAt (hlock : c.stage.locks s = true)
    (hnext : (c.w.g.svc s).nextState = none) :
    OkFor ⟨.init s, { c.w with g := Initng.unlockedAt s c.w.g }⟩ s := by
  refine ⟨by rw [unlockedAt_svc]; rfl, fun _ => by rw [unlockedAt_svc]; exact hnext,
    fun _ => h.handled (Stage.handles_of_locks hlock), fun _ hstage => (by cases hstage),
    h.registered, fun st hst => ?_, fun type hne => ?_⟩
  · rw [unlockedAt_svc] at hst ⊢
    exact h.kinds st hst
  · rw [unlockedAt_svc]
    exact h.owned type hne

end

lemma OkFor.free (hfree : c.stage.handles s = false) : OkFor { c with w := c.w.free s } s := by
  have hlock := Stage.locks_of_not_handles hfree
  have hself : (c.w.free s).g.svc s = .ofName "" (activeDbFree s c.w.g).clock := by
    simp [World.free]
  refine ⟨?_, fun _ => ?_, fun hl => ?_, fun state hstage => ?_, fun hreg => ?_, fun st hst => ?_,
    fun type hne => absurd ?_ hne⟩
  · rw [hself, hlock]
    rfl
  · rw [hself]
    rfl
  · exact absurd hl (by simp [hfree])
  · simp [show c.stage = _ from hstage, Stage.locks] at hlock
  · simp [World.free, activeDbFree] at hreg
  · rw [hself] at hst ⊢
    obtain rfl : AState.new = st := by simpa [ActiveType.Shows, ActiveType.ofName] using hst
    exact .inl (by simp [AState.foreignTo, ActiveType.ofName]; decide)
  · simp [ProcessDb.actives, World.free]

lemma OkFor.stepFor (h : OkFor c s) (hapart : c.w.processes.Apart)
    (hstep : StepFor m step s c c') : OkFor c' s := by
  cases hstep with
  | beside hb => exact h.beside hb
  | take hidle hlist hs => exact h.take hidle hs
  | abort hlock hnext => exact h.abort hnext
  | settle hlock hnext hmoves => exact (h.unlockedAt hlock hnext).beside (.of_moves hmoves)
  | called hcalls => exact h.called m hapart hcalls
  | free hfree => exact .free hfree

lemma Sys.Ok.apply (h : c.Ok) (step : SysStep) : (step.apply m c).Ok := by
  obtain ⟨hapart, hsteps⟩ := step.stepsFor m h
  exact ⟨hapart, fun s => (h.each s).stepFor m h.apart (hsteps s)⟩

end

structure Ready (s : Sid) (w : World) : Prop where
  below : s < w.g.brk
  unlocked : (w.g.svc s).stateLock = 0
  settled : (w.g.svc s).nextState = none
  kinds : Meets s Kind w.g
  owned : Owned s w
  apart : w.processes.Apart

/-- A step that calls nothing of the service: its processes are left, its states change by moves
only, and it is handled, waits to be handled or stays in its state. -/
structure Passive (s : Sid) (c c' : Sys) : Prop where
  actives : ∀ type, c'.w.processes.actives type s = c.w.processes.actives type s
  meets : ∀ A, Turnable A → Meets s A c.w.g → Meets s A c'.w.g
  records : ∀ R, Recordable R → Records s R c.w.g → Records s R c'.w.g
  entered : s ∈ c'.w.g.interrupt ∨ c'.stage.handles s = true ∨
    (c.stage.handles s = false ∧ s ∉ c.w.g.interrupt ∧
      (c'.w.g.svc s).type = (c.w.g.svc s).type ∧
      (c'.w.g.svc s).currentState = (c.w.g.svc s).currentState ∧
      (c'.w.g.svc s).alarm = (c.w.g.svc s).alarm) ∨
    (c'.w.g.svc s).currentState.foreignTo (c'.w.g.svc s).type = true

section
variable (m : Loaded) {step : SysStep} {s : Sid} {c c' : Sys}

lemma Meets.same {A : Option Stype → AState → Prop} {g g' : G} (h : Meets s A g)
    (hview : (g'.svc s).type = (g.svc s).type ∧
      (g'.svc s).currentState = (g.svc s).currentState ∧
      (g'.svc s).nextState = (g.svc s).nextState) : Meets s A g' := by
  intro st hst
  rw [ActiveType.Shows, hview.2.1, hview.2.2] at hst
  rw [hview.1]
  exact h st hst

lemma Beside.passive (h : Beside s c c') : Passive s c c' := by
  refine ⟨h.actives, fun A hA hm => hm.moves hA h.moves, fun R hR hr => hr.moves hR h.moves, ?_⟩
  by_cases hlist : s ∈ c.w.g.interrupt
  · exact .inl (h.moves.interrupt hlist)
  rcases h.moves.entered with hlist' | hsame | hforeign
  · exact .inl hlist'
  · cases hhandles : c.stage.handles s with
    | true => exact .inr (.inl (h.handles.trans hhandles))
    | false => exact .inr (.inr (.inl ⟨rfl, hlist, hsame⟩))
  · exact .inr (.inr (.inr hforeign))

variable {w w' : World} {st : AState}

lemma mark_currentState (h0 : (w.g.svc s).stateLock = 0) :
    ((w.mark s st).g.svc s).currentState = st :=
  (commonMarkService_shows h0 (.inl rfl)).symm ▸ rfl

lemma listed_mark (h0 : (w.g.svc s).stateLock = 0)
    (hne : (w.g.svc s).currentState ≠ st) : s ∈ (w.mark s st).g.interrupt := by
  refine mem_interrupt_of_commonMarkService _ _ _ fun he => hne ?_
  exact he.symm.trans (mark_currentState h0)

lemma free_shows (h : ((w.free s).g.svc s).Shows st) : st = .new := by
  simpa [ActiveType.Shows, World.free, ActiveType.ofName, eq_comm] using h

lemma Ready.mark {cur : AState} (h : Ready s w) (hcur : (w.g.svc s).currentState = cur)
    (hne : cur ≠ st) : (commonMarkService s st w.g).1 = true ∧
      ((w.mark s st).g.svc s).stateLock = 0 ∧ ((w.mark s st).g.svc s).currentState = st := by
  have hmark := commonMarkService_unlocked w.g s st h.unlocked (hcur ▸ hne)
  exact ⟨congrArg Prod.fst hmark, (commonMarkService_stateLock w.g s s st).trans h.unlocked,
    mark_currentState h.unlocked⟩

lemma Ready.alarmed (h : Ready s w) : Ready s (w.alarmOff s) := by
  refine ⟨h.below, ?_, ?_, h.kinds.same (by simp), fun type hne => ?_, h.apart⟩ <;> rw [alarmed_svc]
  · exact h.unlocked
  · exact h.settled
  · exact h.owned type hne

lemma Ready.died (h : Ready s w) (p : Prid) (rCode : Int) : Ready s (w.dead p rCode) := by
  refine ⟨h.below, h.unlocked, h.settled, h.kinds, fun type hne => h.owned type ?_,
    h.apart.record _⟩
  rwa [← dead_actives]

lemma Calls.type (h : OkFor c s) (hcalls : Calls m step s c w') :
    (w'.g.svc s).type = (c.w.g.svc s).type := by
  obtain ⟨-, hs⟩ := hcalls.idle m h
  obtain ⟨w₁, hprep, hworked⟩ := hcalls.worked m h
  obtain ⟨alarm, hg⟩ := hprep.g
  have htype₁ : (w₁.g.svc s).type = (c.w.g.svc s).type := by simp [hg]
  rw [← htype₁]
  cases hworked with
  | works hfam htype hworks =>
    exact (hworks.ownLeft m).known (by rw [hg]; exact hs) (hfam.known htype)
  | nothing he => rw [he]
  | freed p he =>
    rw [he]
    rfl

lemma Calls.ready (hcalls : Calls m step s c w') (h : OkFor c s) (hapart : c.w.processes.Apart) :
    Ready s c.w := by
  obtain ⟨hidle, hs⟩ := hcalls.idle m h
  have h0 : (c.w.g.svc s).stateLock = 0 := hidle.locked
  exact ⟨hs, h0, h.settled h0, h.kinds, h.owned, hapart⟩

lemma StepFor.passive_or_calls (h : OkFor c s) (hapart : c.w.processes.Apart)
    (hstep : StepFor m step s c c') :
    Passive s c c' ∨ c'.w = c.w.free s ∨
      Ready s c.w ∧ c'.stage = .idle ∧ Calls m step s c c'.w := by
  cases hstep with
  | beside hb => exact .inl hb.passive
  | take hidle hlist hs =>
    refine .inl ⟨fun _ => rfl, fun A hA hm => hm.same (by simp [taken_svc]),
      fun R hR hr x hx => ?_, .inr (.inl (by simp [Stage.handles]))⟩
    rw [taken_svc] at hx ⊢
    exact hr x hx
  | @abort st hlock hnext =>
    refine .inl ⟨fun _ => rfl, fun A hA hm x hx => ?_, fun R hR hr x hx => ?_, .inl ?_⟩
    · rw [unlockedInto_svc] at hx ⊢
      obtain rfl : st = x := by simpa [ActiveType.Shows, ActiveType.enter] using hx
      exact hm st (.inr hnext)
    · simp [unlockedInto_svc, ActiveType.enter] at hx
    · simp [unlockedInto, mem_setInterrupt]
  | settle hlock hnext hmoves =>
    refine .inl ⟨fun _ => rfl, fun A hA hm => (hm.same (by simp [unlockedAt_svc])).moves hA hmoves,
      fun R hR hr => Records.moves hR hmoves fun x hx => ?_, .inr (.inl (by simp [Stage.handles]))⟩
    rw [unlockedAt_svc] at hx ⊢
    exact hr x hx
  | called hcalls => exact .inr (.inr ⟨hcalls.ready m h hapart, rfl, hcalls⟩)
  | free hfree => exact .inr (.inl rfl)

lemma Works.listed {scope : Scope} (h : Works m.toModules Meddled scope s w w')
    (hs : s ∈ w.g.activeDb) (hlt : s < w.g.brk) :
    s ∈ w'.g.interrupt ∨ (w'.g.svc s).currentState = (w.g.svc s).currentState := by
  induction h with
  | trans h h' ih ih' =>
    have hleft := h.ownLeft m
    rcases ih' (hleft.registered hs) (lt_of_lt_of_le hlt hleft.brk) with hlist' | hcur'
    · exact .inl hlist'
    · exact (ih hs hlt).imp (h'.ownLeft m).interrupt hcur'.trans
  | asked h => exact (Moves.asked m h s).listed hs hlt
  | @mark w st hst =>
    exact (listed_or_left w.g s st).imp id fun hleft => hleft.2.1
  | alarm w alarm nextAlarm => exact .inr (by simp)
  | setInt w type value => exact (Moves.set type).listed hs hlt
  | _ => exact .inr rfl

lemma Calls.listed (hok : OkFor c s) (hcalls : Calls m step s c w') (hs : s ∈ c.w.g.activeDb) :
    (s ∈ c.w.g.interrupt → s ∈ w'.g.interrupt) ∧
      (s ∈ w'.g.interrupt ∨ (w'.g.svc s).currentState = (c.w.g.svc s).currentState) := by
  obtain ⟨w₁, hprep, hworked⟩ := hcalls.worked m hok
  obtain ⟨alarm, hg⟩ := hprep.g
  have hlist : w₁.g.interrupt = c.w.g.interrupt := by simp [hg]
  have hcur : (w₁.g.svc s).currentState = (c.w.g.svc s).currentState := by simp [hg]
  rw [← hlist, ← hcur]
  cases hworked with
  | works hfam htype hworks =>
    refine ⟨(hworks.ownLeft m).interrupt, hworks.listed m ?_ ?_⟩
    · rwa [hg]
    · rw [hg]
      exact hok.registered hs
  | nothing he => exact ⟨fun h => he ▸ h, .inr (by rw [he])⟩
  | freed p he => exact ⟨fun h => he ▸ h, .inr (by rw [he]; rfl)⟩

lemma StepFor.listed (hok : OkFor c s) (hstep : StepFor m step s c c')
    (hs : s ∈ c.w.g.activeDb) (hs' : s ∈ c'.w.g.activeDb) :
    s ∈ c'.w.g.interrupt ∨ (c'.w.g.svc s).currentState = (c.w.g.svc s).currentState := by
  cases hstep with
  | beside hb => exact hb.moves.listed hs (hok.registered hs)
  | take hidle hlist hlt => exact .inr (by simp [commonStateLock])
  | abort hlock hnext => exact .inl (by simp [unlockedInto, mem_setInterrupt])
  | settle hlock hnext hmoves =>
    simpa [unlockedAt_svc] using hmoves.listed hs (hok.registered hs)
  | called hcalls => exact (hcalls.listed m hok hs).2
  | free hfree => simp [World.free, activeDbFree] at hs'

/-- A service that waits to be handled goes on waiting, or `handle` begins with it. -/
lemma StepFor.stays_listed (hok : OkFor c s) (hstep : StepFor m step s c c')
    (hs : s ∈ c.w.g.activeDb) (hs' : s ∈ c'.w.g.activeDb) (hlist : s ∈ c.w.g.interrupt) :
    s ∈ c'.w.g.interrupt ∨ ∃ state, c'.stage = .stateChange s state := by
  cases hstep with
  | beside hb => exact .inl (hb.moves.interrupt hlist)
  | take hidle _ hlt => exact .inr ⟨_, rfl⟩
  | abort hlock hnext => exact .inl (by simp [unlockedInto, mem_setInterrupt])
  | settle hlock hnext hmoves => exact .inl (hmoves.interrupt hlist)
  | called hcalls => exact .inl ((hcalls.listed m hok hs).1 hlist)
  | free hfree => simp [World.free, activeDbFree] at hs'

inductive Staged (m : Loaded) (c c' : Sys) : Prop
  | same (h : c'.stage = c.stage)
  | take {t : Sid} {state : AState} (hidle : c.stage = .idle) (h : c'.stage = .stateChange t state)
  | advanced {t : Sid} (hhandles : c.stage.handles t = true) (h : Advanced m t c c')

lemma SysStep.staged (h : c.Ok) (step : SysStep) : Staged m c (step.apply m c) := by
  have hperformed := step.performed m h
  generalize step.apply m c = c' at hperformed ⊢
  cases hperformed with
  | take hidle => exact .take hidle rfl
  | advance hhandles hadv => exact .advanced hhandles hadv
  | interrupt hidle | alarm hidle | killed hidle => exact .same hidle.symm
  | _ => exact .same rfl

/-- Every state that the service shows is allowed, perhaps with an exemption for some that its
start and stop hooks mark. -/
def Obeys (exempt : Prop) (marked : List AState) (A : AState → Prop) (s : Sid) (g : G) : Prop :=
  Meets s (fun _ st => exempt ∧ st ∈ marked ∨ A st) g

variable {exempt : Prop} {marked : List AState} {A B : AState → Prop} {g g' : G}

lemma Obeys.of_shows (h : Obeys False marked A s g) (hst : (g.svc s).Shows st) :
    A st := (h st hst).resolve_left And.left

lemma obeys_iff : Obeys False marked A s g ↔ ∀ st, (g.svc s).Shows st → A st :=
  ⟨fun h _ hst => h.of_shows hst, fun h st hst => .inr (h st hst)⟩

lemma Obeys.mono (h : Obeys False marked A s g) : Obeys exempt marked A s g :=
  fun _ hst => .inr (h.of_shows hst)

lemma Obeys.same (h : Obeys exempt marked A s g) (hview : (g'.svc s).type = (g.svc s).type ∧
    (g'.svc s).currentState = (g.svc s).currentState ∧
    (g'.svc s).nextState = (g.svc s).nextState) : Obeys exempt marked A s g' := Meets.same h hview

lemma Obeys.enter (h0 : (g.svc s).stateLock = 0) (hst : A st) :
    Obeys exempt marked A s (commonMarkService s st g).2 := Meets.enter h0 (.inr hst)

lemma Obeys.moves (hA : Turnable fun _ st => st ∈ marked ∨ A st) (hexempt : exempt)
    (hm : Moves s g g') (h : Obeys exempt marked A s g) : Obeys exempt marked A s g' := by
  have hmeets := Meets.moves hA hm fun st hst => (h st hst).imp And.right id
  exact fun st hst => (hmeets st hst).imp (⟨hexempt, ·⟩) id

/-- What only the states of a list take goes with moves, if these lead out of the list. -/
lemma turnable_of_list {l : List AState} (P : Prop) (howner : ∀ st ∈ l, st.owner ≠ none)
    (hturn : ∀ f ∈ turnings, (f.up ∈ l → f.waitingStop ∉ marked ∧ f.waitingStop ∈ l) ∧
      f.startMarked ∉ l ∧ f.down ∉ l ∧ (f.stopMarked ∈ marked ∨ f.stopMarked ∉ l)) :
    Turnable fun _ st => st ∈ marked ∨ (st ∈ l → P) where
  foreign _ st hst := .inr fun hin => absurd (owner_of_foreign hst) (howner st hin)
  up f hf h := .inr fun hin => h.resolve_left ((hturn f hf).1 hin).1 ((hturn f hf).1 hin).2
  startMarked f hf := .inr fun hin => absurd hin (hturn f hf).2.1
  down f hf _ := .inr fun hin => absurd hin (hturn f hf).2.2.1
  stopMarked f hf := (hturn f hf).2.2.2.imp id fun hnot hin => absurd hin hnot

lemma StepFor.obeys (hok : OkFor c s) (hapart : c.w.processes.Apart)
    (hstep : StepFor m step s c c') (hA : Turnable fun _ st => st ∈ marked ∨ A st)
    (hpassive : Passive s c c' → ∀ st, A st → B st) (hnew : B .new)
    (hcalls : Ready s c.w → Calls m step s c c'.w →
      Obeys ((c.w.g.svc s).currentState ∉ marked) marked B s c'.w.g)
    (h : Obeys False marked A s c.w.g) (hst : (c'.w.g.svc s).Shows st) :
    (st ∈ marked ∧ ¬ (c.w.g.svc s).Shows st) ∨ B st := by
  rcases hstep.passive_or_calls m hok hapart with hp | hfree | ⟨hready, -, hcall⟩
  · by_cases hshown : (c.w.g.svc s).Shows st
    · exact .inr (hpassive hp st (h.of_shows hshown))
    · have hmeets := hp.meets _ hA fun x hx => .inr (h.of_shows hx)
      exact (hmeets st hst).imp (⟨·, hshown⟩) (hpassive hp st)
  · rw [hfree] at hst
    exact .inr (free_shows hst ▸ hnew)
  · refine (hcalls hready hcall st hst).imp (fun he => ⟨he.2, fun hshown => he.1 ?_⟩) id
    rcases hshown with hcur | hnext
    · exact hcur ▸ he.2
    · simp [hready.settled] at hnext

end

def Sys.start (now : Timeval) : Sys := ⟨.idle, .start now⟩

lemma shows_start {s : Sid} {now : Timeval} {st : AState}
    (h : ((Sys.start now).w.g.svc s).Shows st) : st = .new := by
  simpa [ActiveType.Shows, Sys.start, World.start, configGlobalNew, ActiveType.ofName, eq_comm]
    using h

lemma Sys.start_ok (now : Timeval) : (Sys.start now).Ok where
  apart := ⟨fun _ _ h => (by cases h), fun _ _ _ h => (by cases h), fun _ => List.nodup_nil⟩
  each s := by
    refine ⟨rfl, fun _ => rfl, fun h => (by cases h), fun _ h => (by cases h),
      fun h => (by cases h), fun st hst => ?_, fun type hne => absurd rfl hne⟩
    obtain rfl := shows_start hst
    refine .inl ?_
    have howner : AState.new.owner = none := by decide
    simp [AState.foreignTo, howner, Sys.start, World.start, configGlobalNew, ActiveType.ofName]

lemma Sys.run_ok (m : Loaded) (now : Timeval) (steps : List SysStep) :
    (run (SysStep.apply m) steps (Sys.start now)).Ok :=
  invariant (fun _ step h => h.apply m step) steps (Sys.start_ok now)

lemma Sys.run_invariant (m : Loaded) {P : Sys → SysStep → Prop} {I : Sys → Prop} (now : Timeval)
    (hstart : I (Sys.start now))
    (hstep : ∀ c step, c.Ok → I c → P c step → I (step.apply m c)) {steps : List SysStep}
    (hrun : Along (SysStep.apply m) P (Sys.start now) steps) :
    (run (SysStep.apply m) steps (Sys.start now)).Ok ∧
      I (run (SysStep.apply m) steps (Sys.start now)) :=
  hrun.invariant (I := fun c => c.Ok ∧ I c)
    (fun c step h hP => ⟨h.1.apply m step, hstep c step h.1 h.2 hP⟩) ⟨Sys.start_ok now, hstart⟩

lemma owner_eq {st : AState} {type : Option Stype} (h : Kind type st) {ty : Stype}
    (hown : st.owner = some ty) : type = some ty := by
  rcases h with hforeign | ⟨ty', hown', htype⟩
  · rw [owner_of_foreign hforeign] at hown
    cases hown
  · rw [htype, ← hown', hown]

/-- States and processes of the modules `service` and `daemon` belong to services of these types
only, and no process to two services. -/
theorem sys_typed (m : Loaded) (now : Timeval) (steps : List SysStep) :
    let w := (run (SysStep.apply m) steps (Sys.start now)).w
    w.processes.Apart ∧ ∀ s,
      (∀ st ty, (w.g.svc s).Shows st → st.owner = some ty → (w.g.svc s).type = some ty) ∧
      ∀ pt, w.processes.actives pt s ≠ [] →
        (pt ∈ serviceScope.types → (w.g.svc s).type = some ⟨"service"⟩) ∧
        (pt ∈ daemonScope.types → (w.g.svc s).type = some ⟨"daemon"⟩) := by
  intro w
  have hok := Sys.run_ok m now steps
  refine ⟨hok.apart, fun s => ⟨fun st ty hst hown => ?_, fun pt hpt => ?_⟩⟩
  · exact owner_eq ((hok.each s).kinds st hst) hown
  · exact ((hok.each s).owned pt hpt).2

/-- Outside of `handle` no state is locked and none is pending. -/
theorem sys_locks_released (m : Loaded) (now : Timeval) (steps : List SysStep) :
    let c := run (SysStep.apply m) steps (Sys.start now)
    ∀ s, (c.w.g.svc s).stateLock = (if c.stage.locks s then 1 else 0) ∧
      (c.stage.locks s = false → (c.w.g.svc s).nextState = none) := by
  intro c s
  have hok := (Sys.run_ok m now steps).each s
  refine ⟨hok.locked, fun hfree => hok.settled ?_⟩
  rw [hok.locked, hfree]
  rfl

lemma allTypes_hooksDo (R : G → G → Prop) : HooksDo allTypes R := by
  constructor <;> intro hook hmem
  all_goals exact absurd hmem List.not_mem_nil

def bareModules : Loaded where
  toModules := allTypes
  start_eq := repoModules.start_eq
  stop_eq := repoModules.stop_eq
  restart_eq := repoModules.restart_eq
  hooksDo := allTypes_hooksDo Meddled
  isChange _ g := g
  isChange_meddled _ := .refl

/-- `handle` takes a service and runs to its end, with a change of the rough state. -/
def handled (env : Env) (s : Sid) : List SysStep :=
  [.take s, .advance env 3, .advance env 3, .advance env 3, .advance env 3]

def handledQuietly (env : Env) (s : Sid) : List SysStep := [.take s, .advance env 3, .advance env 3]

end Initng
