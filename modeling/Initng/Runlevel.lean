import Initng.DaemonHooks
import Initng.RequestEffect

/-! `modules/runlevel/initng_runlevel.c`. -/

namespace Initng

open Relation List Option

namespace AState

def runlevelStartDepsFailed : AState := ⟨"START_DEPS_FAILED", .isFailed⟩

end AState

def typeRunlevel : Stype := ⟨"runlevel"⟩

structure Runlevels where
  g : G
  runlevel : Option String

def runlevelFindOld (newRl : Sid) (g : G) : Option Sid :=
  g.activeDb.find? fun current => (g.svc current).type = some typeRunlevel ∧ current ≠ newRl

def needsOf (g : G) (rl : Sid) : List String := untilNull (strings .need g rl)

def runlevelFindDep (rl : Sid) (dep : String) (g : G) : Bool := (needsOf g rl).any (· = dep)

/-- `runlevel_stop_unneeded`, from the NEED entry reached: the services for which
`initng_handler_stop_service` is called, and what that leaves. -/
def runlevelStopUnneeded (m : Modules) (newRl : Sid) : List String → G → List Sid × G
  | [], g => ([], g)
  | depOld :: deps, g =>
    if runlevelFindDep newRl depOld g then runlevelStopUnneeded m newRl deps g
    else
      match activeDbFindByName g depOld with
      | none => runlevelStopUnneeded m newRl deps g
      | some toStop =>
        let r := runlevelStopUnneeded m newRl deps (handlerStopService m toStop g).2
        (toStop :: r.1, r.2)

/-- `init_RUNLEVEL_START_MARKED`, with the calls of `initng_handler_stop_service`; `none` means
that a start it triggers has not returned. -/
def initRunlevelStartMarked (m : Modules) (fuel : ℕ) (newRunlevel : Sid) (x : Runlevels) :
    Option (List Sid × Runlevels) :=
  (dependStartDeps (handlerStartService m fuel) m newRunlevel (x.g.svc newRunlevel).data x.g).map
    fun r =>
      let g := r.2
      let wait (g : G) : G := (commonMarkService newRunlevel .runlevelWaitingForStartDep g).2
      if (g.svc newRunlevel).type ≠ some typeRunlevel then ([], ⟨wait g, x.runlevel⟩)
      else
        let name := (g.svc newRunlevel).name
        match runlevelFindOld newRunlevel g with
        | none => ([], ⟨wait g, some name⟩)
        | some oldRunlevel =>
          let r := runlevelStopUnneeded m newRunlevel (needsOf g oldRunlevel) g
          (r.1 ++ [oldRunlevel], ⟨wait (handlerStopService m oldRunlevel r.2).2, some name⟩)

def initRunlevelStopMarked (m : Modules) (service : Sid) (x : Runlevels) : Runlevels :=
  let g := (dependStopDeps m service x.g.activeDb x.g).2
  { x with g := (commonMarkService service .runlevelWaitingForStopDep g).2 }

def handleRunlevelWaitingForStartDep (m : Modules) (fuel : ℕ) (service : Sid) (x : Runlevels) :
    Option Runlevels :=
  (dependStartDepMet m fuel service x.g).map fun r =>
    match r.1 with
    | .false => { x with g := r.2 }
    | .fail => { x with g := (commonMarkService service .runlevelStartDepsFailed r.2).2 }
    | .true => { x with g := (commonMarkService service .runlevelUp r.2).2 }

def handleRunlevelWaitingForStopDep (m : Modules) (service : Sid) (x : Runlevels) : Runlevels :=
  let r := dependStopDepMet m service x.g
  match r.1 with
  | .false => { x with g := r.2 }
  | _ => { x with g := (commonMarkService service .runlevelDown r.2).2 }

inductive RunlevelStep
  | start (r : Sid)
  | init (r : Sid)
  | interrupt (r : Sid)

def RunlevelStep.apply (m : Modules) (fuel : ℕ) : RunlevelStep → Runlevels → Option Runlevels
  | start r, x => (handlerStartService m fuel r x.g).map fun q => { x with g := q.2 }
  | init r, x =>
    if (x.g.svc r).currentState = .runlevelStartMarked then
      (initRunlevelStartMarked m fuel r x).map Prod.snd
    else if (x.g.svc r).currentState = .runlevelStopMarked then
      some (initRunlevelStopMarked m r x)
    else some x
  | interrupt r, x =>
    if (x.g.svc r).currentState = .runlevelWaitingForStartDep then
      handleRunlevelWaitingForStartDep m fuel r x
    else if (x.g.svc r).currentState = .runlevelWaitingForStopDep then
      some (handleRunlevelWaitingForStopDep m r x)
    else some x

def runlevelRun (m : Modules) (fuel : ℕ) : List RunlevelStep → Runlevels → Option Runlevels
  | [], x => some x
  | step :: steps, x => (step.apply m fuel x).bind (runlevelRun m fuel steps)

def unneeded (g : G) (newRl : Sid) (deps : List String) : List Sid :=
  (deps.filter fun dep => !runlevelFindDep newRl dep g).filterMap (activeDbFindByName g)

def stopList (m : Modules) (l : List Sid) (g : G) : G :=
  l.foldl (fun g s => (handlerStopService m s g).2) g

structure SameServices (g g' : G) : Prop where
  activeDb : g'.activeDb = g.activeDb
  name : ∀ s, (g'.svc s).name = (g.svc s).name
  type : ∀ s, (g'.svc s).type = (g.svc s).type
  data : ∀ s, (g'.svc s).data = (g.svc s).data
  stateLock : ∀ s, (g'.svc s).stateLock = (g.svc s).stateLock

namespace SameServices

variable {g g' g'' : G}

lemma refl (g : G) : SameServices g g :=
  ⟨rfl, fun _ => rfl, fun _ => rfl, fun _ => rfl, fun _ => rfl⟩

lemma trans (h : SameServices g g') (h' : SameServices g' g'') : SameServices g g'' where
  activeDb := h'.activeDb.trans h.activeDb
  name s := (h'.name s).trans (h.name s)
  type s := (h'.type s).trans (h.type s)
  data s := (h'.data s).trans (h.data s)
  stateLock s := (h'.stateLock s).trans (h.stateLock s)

lemma mark (s : Sid) (st : AState) : SameServices g (commonMarkService s st g).2 where
  activeDb := (OwnChange.mark st).activeDb
  name := (OwnChange.mark st).svc_name
  type := (OwnChange.mark st).svc_type
  data := (OwnChange.mark st).svc_data
  stateLock t := commonMarkService_stateLock g s t st

lemma findByName (h : SameServices g g') : activeDbFindByName g' = activeDbFindByName g :=
  activeDbFindByName_congr h.activeDb h.name

lemma needsOf (h : SameServices g g') : needsOf g' = needsOf g := by
  funext rl
  simp only [Initng.needsOf, strings, h.data]

lemma unneeded (h : SameServices g g') : unneeded g' = unneeded g := by
  funext newRl deps
  rw [Initng.unneeded, Initng.unneeded, h.findByName]
  simp only [runlevelFindDep, h.needsOf]

end SameServices

section
variable {m : RepoModules}

lemma sameServices_stop {type : Stype} {stop : Sid → G → Bool × G}
    (hstop : m.stop type = some stop) (s : Sid) (g : G) : SameServices g (stop s g).2 := by
  rw [m.stop_eq] at hstop
  simp only [allTypes] at hstop
  split_ifs at hstop with hprovided
  · cases hstop
    exact .refl g
  · obtain ⟨waiting, back, marked, rfl, -, -⟩ := typeModules_stop_some hstop
    unfold turnHook
    split
    · exact .mark s back
    · exact .mark s marked

lemma sameServices_handlerStopService (s : Sid) (g : G) :
    SameServices g (handlerStopService m.toModules s g).2 := by
  rcases handlerStopService_cases m.toModules s g with h | ⟨type, stop, -, hstop, -, h⟩
  · rw [h]
    exact .refl g
  · rw [h]
    have hobs : SameServices g (g.observe (.stop s)) :=
      ⟨rfl, fun _ => rfl, fun _ => rfl, fun _ => rfl, fun _ => rfl⟩
    exact hobs.trans (sameServices_stop hstop s _)

lemma sameServices_stopList (l : List Sid) (g : G) : SameServices g (stopList m.toModules l g) := by
  induction l generalizing g with
  | nil => exact .refl g
  | cons s l ih => exact (sameServices_handlerStopService s g).trans (ih _)

lemma runlevelStopUnneeded_eq (newRl : Sid) (deps : List String) (g : G) :
    runlevelStopUnneeded m.toModules newRl deps g =
      (unneeded g newRl deps, stopList m.toModules (unneeded g newRl deps) g) := by
  induction deps generalizing g with
  | nil => rfl
  | cons dep deps ih =>
    rw [runlevelStopUnneeded]
    cases hdep : runlevelFindDep newRl dep g with
    | true =>
      rw [if_pos rfl, ih]
      simp [unneeded, hdep]
    | false =>
      rw [if_neg (by decide)]
      cases hfind : activeDbFindByName g dep with
      | none =>
        dsimp only
        rw [ih]
        simp [unneeded, hdep, hfind]
      | some toStop =>
        dsimp only
        rw [ih, (sameServices_handlerStopService toStop g).unneeded]
        have hcons : unneeded g newRl (dep :: deps) = toStop :: unneeded g newRl deps := by
          simp [unneeded, hdep, hfind]
        rw [hcons]
        rfl

end

def Current (g : G) (t : Sid) : Prop := getState g t = .isUp ∨ getState g t = .isStarting

instance (g : G) (t : Sid) : Decidable (Current g t) := inferInstanceAs (Decidable (_ ∨ _))

def switchStops (g : G) (newRl : Sid) : List Sid :=
  match runlevelFindOld newRl g with
  | none => []
  | some old => unneeded g newRl (needsOf g old) ++ [old]

def OnlyRunlevel (r : Sid) (x : Runlevels) : Prop :=
  (∀ t ∈ x.g.activeDb, t ≠ r → (x.g.svc t).type = some typeRunlevel → ¬ Current x.g t) ∧
    x.runlevel = some (x.g.svc r).name

section
variable {m : RepoModules} {g g' : G} {s t r : Sid}

lemma current_of_svc (h : g'.svc t = g.svc t) : Current g' t ↔ Current g t := by
  rw [Current, Current, getState, getState, h]

lemma handlerStopService_other (ht : t ≠ s) :
    (handlerStopService m.toModules s g).2.svc t = g.svc t := by
  rcases handlerStopService_cases m.toModules s g with h | ⟨type, stop, -, hstop, -, h⟩
  · rw [h]
  · rw [h]
    rw [m.stop_eq] at hstop
    simp only [allTypes] at hstop
    split_ifs at hstop with hprovided
    · cases hstop
      rfl
    · obtain ⟨waiting, back, marked, rfl, -, -⟩ := typeModules_stop_some hstop
      exact turnHook_ownChange.other t ht

lemma not_current_stopRunlevel (hlock : (g.svc t).stateLock = 0) :
    ¬ Current (stopRunlevel t g).2 t := by
  have hafter : getState (stopRunlevel t g).2 t = .isDown ∨
      getState (stopRunlevel t g).2 t = .isStopping := turnHook_getState hlock
  rintro (h | h) <;> rcases hafter with h' | h' <;> simp [h] at h'

lemma current_stopRunlevel_of_locked (hlock : (g.svc t).stateLock ≠ 0) :
    Current (stopRunlevel t g).2 t ↔ Current g t := by
  have hstate : ((stopRunlevel t g).2.svc t).currentState = (g.svc t).currentState := by
    unfold stopRunlevel turnHook
    split <;> exact commonMarkService_currentState_of_locked g t _ hlock
  rw [Current, Current, getState, getState, hstate]

lemma current_handlerStopService_iff (htype : (g.svc t).type = some typeRunlevel) :
    Current (handlerStopService m.toModules s g).2 t ↔
      Current g t ∧ ¬ ((g.svc t).stateLock = 0 ∧ t = s) := by
  by_cases ht : t = s
  · subst ht
    by_cases hcur : Current g t
    · have hrun : handlerStopService m.toModules t g = stopRunlevel t (g.observe (.stop t)) := by
        rcases hcur with h | h <;> simp only [handlerStopService, htype, h, m.stop_eq] <;> rfl
      rw [hrun]
      by_cases hlock : (g.svc t).stateLock = 0
      · have hnot : ¬ Current (stopRunlevel t (g.observe (.stop t))).2 t :=
          not_current_stopRunlevel hlock
        simp [hnot, hlock]
      · have hsame : Current (stopRunlevel t (g.observe (.stop t))).2 t ↔ Current g t :=
          current_stopRunlevel_of_locked hlock
        simp [hsame, hlock]
    · rcases handlerStopService_cases m.toModules t g with h | ⟨-, -, -, -, hcur', -⟩
      · rw [h]
        simp [hcur]
      · exact absurd hcur' hcur
  · rw [current_of_svc (handlerStopService_other ht)]
    simp [ht]

lemma current_stopList_iff (l : List Sid) (htype : (g.svc t).type = some typeRunlevel) :
    Current (stopList m.toModules l g) t ↔ Current g t ∧ ¬ ((g.svc t).stateLock = 0 ∧ t ∈ l) := by
  induction l generalizing g with
  | nil => simp [stopList]
  | cons s l ih =>
    have hsame := sameServices_handlerStopService (m := m) s g
    have htype' := (hsame.type t).trans htype
    have hcons : stopList m.toModules (s :: l) g =
        stopList m.toModules l (handlerStopService m.toModules s g).2 := rfl
    rw [hcons, ih htype', current_handlerStopService_iff htype, hsame.stateLock, mem_cons]
    tauto

lemma mem_unneeded {newRl : Sid} {deps : List String} :
    t ∈ unneeded g newRl deps ↔
      ∃ dep ∈ deps, dep ∉ needsOf g newRl ∧ activeDbFindByName g dep = some t := by
  have hnot (dep : String) : (!runlevelFindDep newRl dep g) = true ↔ dep ∉ needsOf g newRl := by
    rw [Bool.not_eq_true', ← Bool.not_eq_true]
    simp [runlevelFindDep]
  simp only [unneeded, mem_filterMap, mem_filter, hnot, and_assoc]

lemma initRunlevelStartMarked_eq {fuel : ℕ} {x : Runlevels} {ok : Bool}
    (hdeps : dependStartDeps (handlerStartService m.toModules fuel) m.toModules r
      (x.g.svc r).data x.g = some (ok, g))
    (htype : (g.svc r).type = some typeRunlevel) :
    initRunlevelStartMarked m.toModules fuel r x = some (switchStops g r,
      ⟨(commonMarkService r .runlevelWaitingForStartDep
          (stopList m.toModules (switchStops g r) g)).2, some (g.svc r).name⟩) := by
  unfold initRunlevelStartMarked switchStops
  rw [hdeps]
  simp only [map_some, htype]
  cases runlevelFindOld r g with
  | none => rfl
  | some old =>
    simp only [runlevelStopUnneeded_eq]
    rw [stopList, stopList, foldl_append]
    rfl

end

section
variable (m : RepoModules) (fuel : ℕ) (x : Runlevels) (ok : Bool) (g : G)

/-- A runlevel that has started its dependencies is the only one just if every other one that
is up or starting is not locked and is asked to stop. -/
theorem onlyRunlevel_iff (r : Sid)
    (hdeps : dependStartDeps (handlerStartService m.toModules fuel) m.toModules r
      (x.g.svc r).data x.g = some (ok, g))
    (htype : (g.svc r).type = some typeRunlevel) :
    ∃ stops y, initRunlevelStartMarked m.toModules fuel r x = some (stops, y) ∧
      (OnlyRunlevel r y ↔ ∀ t ∈ g.activeDb, t ≠ r → (g.svc t).type = some typeRunlevel →
        Current g t → (g.svc t).stateLock = 0 ∧ t ∈ switchStops g r) := by
  refine ⟨_, _, initRunlevelStartMarked_eq hdeps htype, ?_⟩
  have hstops := sameServices_stopList (m := m) (switchStops g r) g
  have hsame := hstops.trans (.mark r .runlevelWaitingForStartDep)
  have hother (t : Sid) (ht : t ≠ r) : Current (commonMarkService r .runlevelWaitingForStartDep
      (stopList m.toModules (switchStops g r) g)).2 t ↔
        Current (stopList m.toModules (switchStops g r) g) t :=
    current_of_svc ((OwnChange.mark _).other t ht)
  constructor
  · rintro ⟨hnone, -⟩ t ht hne htype' hcur
    have hnot := hnone t (hsame.activeDb.symm ▸ ht) hne ((hsame.type t).trans htype')
    rw [hother t hne, current_stopList_iff _ htype'] at hnot
    tauto
  · refine fun h => ⟨fun t ht hne htype' => ?_, ?_⟩
    · rw [hsame.activeDb] at ht
      rw [hsame.type] at htype'
      rw [hother t hne, current_stopList_iff _ htype']
      exact fun ⟨hcur, hnot⟩ => hnot (h t ht hne htype' hcur)
    · exact congrArg some (hsame.name r).symm

end

def threeRunlevels : Runlevels where
  g := G.ofServices .stateUp [.needing "default" typeRunlevel .runlevelDown [],
    .needing "single" typeRunlevel .runlevelDown [], .needing "network" typeRunlevel .runlevelDown []]
  runlevel := none

def firstRunlevel : List RunlevelStep := [.start 0, .init 0, .interrupt 0]

def thirdRunlevel : List RunlevelStep :=
  firstRunlevel ++ [.start 1, .init 1, .init 0, .interrupt 0, .interrupt 1, .start 2]

theorem onlyRunlevel_iff_second :
    ∃ x, runlevelRun repoModules.toModules 3 (firstRunlevel ++ [.start 1]) threeRunlevels = some x ∧
      dependStartDeps (handlerStartService repoModules.toModules 3) repoModules.toModules 1
        (x.g.svc 1).data x.g = some (true, x.g) ∧
      (x.g.svc 1).type = some typeRunlevel ∧
      ∃ stops y, initRunlevelStartMarked repoModules.toModules 3 1 x = some (stops, y) ∧
        OnlyRunlevel 1 y := by
  have hrun : (runlevelRun repoModules.toModules 3 (firstRunlevel ++ [.start 1])
      threeRunlevels).map (fun x => (((x.g.svc 1).data, (x.g.svc 1).type, x.g.activeDb),
        getState x.g 2, (x.g.svc 0).stateLock, switchStops x.g 1)) =
      some (([], some typeRunlevel, [0, 1, 2]), .isDown, 0, [0]) := by
    decide +kernel
  obtain ⟨x, hx, hview⟩ := map_eq_some_iff.mp hrun
  simp only [Prod.mk.injEq] at hview
  obtain ⟨⟨hdata, htype, hdb⟩, hdown, hlock, hstops⟩ := hview
  have hdeps : dependStartDeps (handlerStartService repoModules.toModules 3) repoModules.toModules 1
      (x.g.svc 1).data x.g = some (true, x.g) := by
    rw [hdata]
    rfl
  obtain ⟨stops, y, hinit, hiff⟩ := onlyRunlevel_iff repoModules 3 x true x.g 1 hdeps htype
  refine ⟨x, hx, hdeps, htype, stops, y, hinit, hiff.mpr fun t ht hne _ hcur => ?_⟩
  rw [hdb] at ht
  simp only [mem_cons, not_mem_nil, or_false] at ht
  rcases ht with rfl | rfl | rfl
  · exact ⟨hlock, by simp [hstops]⟩
  · exact absurd rfl hne
  · simp [Current, hdown] at hcur

/-- When the third is started the second stays up, for the first is taken for the old one. -/
theorem onlyRunlevel_not :
    ¬ ∀ (m : RepoModules) (fuel : ℕ) (start : Runlevels) (steps : List RunlevelStep)
      (x : Runlevels) (r : Sid) (stops : List Sid) (y : Runlevels),
      runlevelRun m.toModules fuel steps start = some x →
      (x.g.svc r).type = some typeRunlevel →
      (x.g.svc r).currentState = .runlevelStartMarked →
      initRunlevelStartMarked m.toModules fuel r x = some (stops, y) → OnlyRunlevel r y := by
  intro hall
  have hrun : ((runlevelRun repoModules.toModules 3 thirdRunlevel threeRunlevels).bind fun x =>
      (initRunlevelStartMarked repoModules.toModules 3 2 x).map fun q =>
        ((x.g.svc 2).type, (x.g.svc 2).currentState, q.2.g.activeDb, (q.2.g.svc 1).type,
          getState q.2.g 1)) =
      some (some typeRunlevel, .runlevelStartMarked, [0, 1, 2], some typeRunlevel, .isUp) := by
    decide +kernel
  obtain ⟨x, hx, hrun⟩ := bind_eq_some_iff.mp hrun
  obtain ⟨⟨stops, y⟩, hinit, hview⟩ := map_eq_some_iff.mp hrun
  simp only [Prod.mk.injEq] at hview
  obtain ⟨htype, hstate, hdb, htype₁, hup⟩ := hview
  have h := hall repoModules 3 threeRunlevels thirdRunlevel x 2 stops y hx htype hstate hinit
  exact h.1 1 (by simp [hdb]) (by decide) htype₁ (.inl hup)

section
variable (m : RepoModules) (fuel : ℕ) (x : Runlevels) (ok : Bool) (g : G)

/-- The services for which a switch calls `initng_handler_stop_service` are those that the old
runlevel needs and the new one does not depend on, and the old runlevel. -/
def StopsUnneeded (new old : Sid) (stops : List Sid) : Prop :=
  ∀ t, t ∈ stops ↔ t = old ∨ (∃ dep ∈ needsOf g old, activeDbFindByName g dep = some t) ∧
    ¬ TransGen (DependsOn m.toModules g) new t

/-- The switch is right just if the new runlevel depends on exactly those services of the old one
that it names itself. -/
theorem stopsUnneeded_iff (new old : Sid)
    (hdeps : dependStartDeps (handlerStartService m.toModules fuel) m.toModules new
      (x.g.svc new).data x.g = some (ok, g))
    (htype : (g.svc new).type = some typeRunlevel) (hold : runlevelFindOld new g = some old) :
    ∃ stops y, initRunlevelStartMarked m.toModules fuel new x = some (stops, y) ∧
      (StopsUnneeded m g new old stops ↔ ∀ dep ∈ needsOf g old, ∀ t, t ≠ old →
        activeDbFindByName g dep = some t →
        (dep ∈ needsOf g new ↔ TransGen (DependsOn m.toModules g) new t)) := by
  refine ⟨_, _, initRunlevelStartMarked_eq hdeps htype, ?_⟩
  have hmem (t : Sid) : t ∈ switchStops g new ↔ t = old ∨
      ∃ dep ∈ needsOf g old, dep ∉ needsOf g new ∧ activeDbFindByName g dep = some t := by
    rw [switchStops, hold, mem_append, mem_unneeded, mem_singleton, or_comm]
  constructor
  · intro h dep hdep t hne hfind
    have ht := (hmem t).symm.trans (h t)
    simp only [hne, false_or] at ht
    constructor
    · intro hnew
      by_contra hreach
      obtain ⟨dep', -, hdep', hfind'⟩ := ht.mpr ⟨⟨dep, hdep, hfind⟩, hreach⟩
      obtain rfl : dep' = dep :=
        (activeDbFindByName_mem hfind').2.symm.trans (activeDbFindByName_mem hfind).2
      exact hdep' hnew
    · intro hreach
      by_contra hnew
      exact (ht.mp ⟨dep, hdep, hnew, hfind⟩).2 hreach
  · intro h t
    rw [hmem]
    by_cases ht : t = old
    · simp [ht]
    · simp only [ht, false_or]
      constructor
      · rintro ⟨dep, hdep, hnew, hfind⟩
        exact ⟨⟨dep, hdep, hfind⟩, fun hreach => hnew ((h dep hdep t ht hfind).mpr hreach)⟩
      · rintro ⟨⟨dep, hdep, hfind⟩, hreach⟩
        exact ⟨dep, hdep, fun hnew => hreach ((h dep hdep t ht hfind).mp hnew), hfind⟩

end

/-- The old runlevel needs `net`; the new one needs these services; `sshd` needs `net`. -/
def runlevelPair (needs : List String) : G :=
  G.ofServices .stateUp [.needing "default" typeRunlevel .runlevelUp ["net"],
    .needing "remote" typeRunlevel .runlevelStartMarked needs,
    .needing "net" ⟨"service"⟩ .serviceDone [], .needing "sshd" ⟨"service"⟩ .serviceDone ["net"]]

theorem stopsUnneeded_iff_shared :
    dependStartDeps (handlerStartService repoModules.toModules 3) repoModules.toModules 1
        ((runlevelPair ["net"]).svc 1).data (runlevelPair ["net"]) =
          some (true, runlevelPair ["net"]) ∧
      ((runlevelPair ["net"]).svc 1).type = some typeRunlevel ∧
      runlevelFindOld 1 (runlevelPair ["net"]) = some 0 ∧
      ∃ stops y, initRunlevelStartMarked repoModules.toModules 3 1 ⟨runlevelPair ["net"], none⟩ =
          some (stops, y) ∧ StopsUnneeded repoModules (runlevelPair ["net"]) 1 0 stops := by
  have hdeps : dependStartDeps (handlerStartService repoModules.toModules 3) repoModules.toModules 1
      ((runlevelPair ["net"]).svc 1).data (runlevelPair ["net"]) =
        some (true, runlevelPair ["net"]) := rfl
  have hold : runlevelFindOld 1 (runlevelPair ["net"]) = some 0 := by decide +kernel
  obtain ⟨stops, y, hinit, hiff⟩ :=
    stopsUnneeded_iff repoModules 3 ⟨runlevelPair ["net"], none⟩ true _ 1 0 hdeps rfl hold
  refine ⟨hdeps, rfl, hold, stops, y, hinit, hiff.mpr fun dep hdep t hne hfind => ?_⟩
  have hneeds : needsOf (runlevelPair ["net"]) 0 = ["net"] ∧
      needsOf (runlevelPair ["net"]) 1 = ["net"] := by decide +kernel
  have hnet : activeDbFindByName (runlevelPair ["net"]) "net" = some 2 := by decide +kernel
  have hdepends : DependsOn repoModules.toModules (runlevelPair ["net"]) 1 2 := by decide +kernel
  rw [hneeds.1, mem_singleton] at hdep
  subst hdep
  obtain rfl : 2 = t := some.inj (hnet.symm.trans hfind)
  exact ⟨fun _ => .single hdepends, fun _ => by simp [hneeds.2]⟩

/-- `net` is stopped although `sshd` needs it, which the new runlevel needs. -/
theorem stopsUnneeded_not :
    ¬ ∀ (m : RepoModules) (fuel : ℕ) (x : Runlevels) (ok : Bool) (g : G) (new old : Sid)
      (stops : List Sid) (y : Runlevels),
      dependStartDeps (handlerStartService m.toModules fuel) m.toModules new (x.g.svc new).data
        x.g = some (ok, g) →
      (g.svc new).type = some typeRunlevel → runlevelFindOld new g = some old →
      initRunlevelStartMarked m.toModules fuel new x = some (stops, y) →
      StopsUnneeded m g new old stops := by
  intro hall
  have hrun : (initRunlevelStartMarked repoModules.toModules 3 1
      ⟨runlevelPair ["sshd"], none⟩).map Prod.fst = some [2, 0] := by
    decide +kernel
  obtain ⟨⟨stops, y⟩, hinit, hstops⟩ := map_eq_some_iff.mp hrun
  have hold : runlevelFindOld 1 (runlevelPair ["sshd"]) = some 0 := by decide +kernel
  have h := hall repoModules 3 ⟨runlevelPair ["sshd"], none⟩ true (runlevelPair ["sshd"]) 1 0 stops y
    rfl rfl hold hinit
  have hsshd : DependsOn repoModules.toModules (runlevelPair ["sshd"]) 1 3 := by decide +kernel
  have hnet : DependsOn repoModules.toModules (runlevelPair ["sshd"]) 3 2 := by decide +kernel
  dsimp only at hstops
  rcases (h 2).mp (by simp [hstops]) with hold | ⟨-, hreach⟩
  · exact absurd hold (by decide)
  · exact hreach (.tail (.single hsshd) hnet)

end Initng
