import Initng.HookWork
import Initng.StartDepsMet

namespace Initng

structure Quiet (w w' : World) : Prop where
  keeps : KeepsOut w.g w'.g
  started : w'.started = w.started

namespace Quiet

variable {w w' w'' : World} {s : Sid}

lemma refl (w : World) : Quiet w w := ⟨.refl _, rfl⟩

lemma trans (h : Quiet w w') (h' : Quiet w' w'') : Quiet w w'' :=
  ⟨h.keeps.trans h'.keeps, h'.started.trans h.started⟩

lemma services {g' : G} (h : KeepsOut w.g g') : Quiet w { w with g := g' } := ⟨h, rfl⟩

lemma processes (db : ProcessDb) : Quiet w { w with processes := db } := ⟨.refl _, rfl⟩

variable {st : AState}

lemma mark (s : Sid) (hst : st.onTheWay = false) : Quiet w (w.mark s st) := services (.mark s hst)

lemma setInt (type : SEntry) (s : Sid) (value : Int) : Quiet w (w.setInt type s value) :=
  ⟨.set type s, rfl⟩

lemma then_mark (h : Quiet w w') (s : Sid) (hst : st.onTheWay = false) :
    Quiet w (w'.mark s st) := h.trans (mark s hst)

lemma then_wait (h : Quiet w w') (hmet : st.isStartDepsMet = false)
    (hway : (w.g.svc s).currentState.onTheWay = true) : Quiet w (w'.mark s st) :=
  ⟨h.keeps.thenMark s hmet fun _ ht => ht.onTheWay s (.inl hway), h.started⟩

end Quiet

section
variable (m : CoreModules) {scope : Scope} {w w' : World} {s : Sid}

lemma KeepsOut.of_works (hmarks : ∀ st ∈ scope.marks, st.onTheWay = false)
    (h : Works m.toModules KeepsOut scope s w w') : KeepsOut w.g w'.g := by
  induction h with
  | trans _ _ ih ih' => exact ih.trans ih'
  | asked h => exact .of_asked m h
  | mark w hst => exact .mark s (hmarks _ hst)
  | alarm w alarm nextAlarm =>
    exact .modify s (f := fun a => { a with alarm := alarm }) fun _ => ⟨rfl, rfl, rfl, rfl⟩
  | setInt w type value => exact .set type s
  | _ => exact .refl _

lemma started_of_works (hbegins : scope.begins = false)
    (h : Works m.toModules KeepsOut scope s w w') : w'.started = w.started := by
  induction h with
  | trans _ _ ih ih' => exact ih'.trans ih
  | begins w call h => simp [hbegins] at h
  | _ => rfl

lemma quiet_service (h : Works m.toModules KeepsOut serviceQuiet s w w') : Quiet w w' :=
  ⟨.of_works m (by decide) h, started_of_works m rfl h⟩

lemma quiet_daemon (h : Works m.toModules KeepsOut daemonQuiet s w w') : Quiet w w' :=
  ⟨.of_works m (by decide) h, started_of_works m rfl h⟩

lemma HookedQuietly.quiet {state : AState}
    (h : HookedQuietly m.toModules KeepsOut state s w w') : Quiet w w' := by
  rcases h with ⟨-, hworks⟩ | ⟨-, hworks⟩ | rfl
  · exact quiet_service m hworks.quiet
  · exact quiet_daemon m hworks
  · exact .refl w'

end

section
variable (m : CoreModules) {w w' : World} {s : Sid} {fuel : ℕ}

lemma quiet_dependStartDeps {l : List SData} {r : Bool × G}
    (h : dependStartDeps (handlerStartService m.toModules fuel) m.toModules s l w.g = some r) :
    Quiet w { w with g := r.2 } :=
  .services (.of_asked m (asked_dependStartDeps m.hooksDo
    (asks_handlerStartService m.hooksDo fuel) h))

lemma quiet_initServiceStartMarked (hstate : (w.g.svc s).currentState = .serviceStartMarked)
    (h : initServiceStartMarked m.toModules fuel s w = some w') : Quiet w w' := by
  obtain ⟨r, hr, rfl⟩ := Option.map_eq_some_iff.mp h
  dsimp only
  split
  · exact (quiet_dependStartDeps m hr).then_mark s (by decide)
  · exact (quiet_dependStartDeps m hr).then_wait (by decide) (by rw [hstate]; decide)

lemma stateInit_keeps (env : Env) {state : AState} (hstate : (w.g.svc s).currentState = state) :
    ∀ w' ∈ stateInit m.toModules fuel env state s w,
      KeepsOut w.g w'.g ∧ (state.isStartDepsMet = false → w'.started = w.started) := by
  intro w' hw'
  have hquiet (hq : Quiet w w') :
      KeepsOut w.g w'.g ∧ (state.isStartDepsMet = false → w'.started = w.started) :=
    ⟨hq.keeps, fun _ => hq.started⟩
  cases initHooked_stateInit (R := KeepsOut) env w' hw' with
  | startMarked h => exact hquiet (quiet_initServiceStartMarked m hstate h)
  | startDepsMet =>
    exact ⟨.of_works m (by decide) (works_initServiceStartDepsMet env), fun hmet => by cases hmet⟩
  | daemonMarked h =>
    obtain ⟨r, hr, rfl⟩ := Option.map_eq_some_iff.mp h
    exact hquiet ((quiet_dependStartDeps m hr).then_wait (by decide) (by rw [hstate]; decide))
  | daemonDepsMet =>
    exact ⟨.of_works m (by decide) (works_initDaemonStartDepsMet env), fun hmet => by cases hmet⟩
  | quiet h => exact hquiet (h.quiet m)

include m in
lemma quiet_killHandler (env : Env) {p : Prid} (hp : p ∈ w.processes.processes s) :
    Quiet w (killHandler env (w.processes.process p).pt s p w) := by
  unfold killHandler
  split_ifs with hstart hstop hdaemon
  · exact quiet_service m (works_handleKilledStart env hp hstart).quiet
  · exact quiet_service m (works_handleKilledStop (by decide) (by decide) hp hstop)
  · exact quiet_daemon m (works_handleKilledDaemon env hp hdaemon)
  · exact .processes _

/-- The service passes the test: the system starts or is up, and the service is marked behind
quiet work. -/
structure PassesTest (s : Sid) (w w' : World) : Prop where
  sysState : w.g.sysState = .stateStarting ∨ w.g.sysState = .stateUp
  onTheWay : (w.g.svc s).currentState.onTheWay = true
  marked : ∃ w₁ met, Quiet w w₁ ∧ w' = w₁.mark s met

lemma waitingForStartDep_cases {failed stopped : AState} (met : AState)
    (hfailed : failed.onTheWay = false) (hstopped : stopped.onTheWay = false)
    (hway : (w.g.svc s).currentState.onTheWay = true) :
    ∀ w' ∈ waitingForStartDep failed stopped met m.toModules fuel s w,
      Quiet w w' ∨ PassesTest s w w' := by
  intro w' h
  obtain ⟨r, hr, rfl⟩ := Option.map_eq_some_iff.mp h
  have hdeps : Quiet w { w with g := r.2 } :=
    .services (.of_asked m (asked_dependStartDepMet m.hooksDo hr))
  dsimp only
  split
  · exact .inl hdeps
  · exact .inl (hdeps.then_mark s hfailed)
  · split
    · exact .inl (hdeps.then_mark s hstopped)
    next hsys =>
      rw [hdeps.keeps.sysState] at hsys
      exact .inr ⟨by tauto, hway, _, met, hdeps, rfl⟩

lemma stateInterrupt_cases {state : AState} (hstate : (w.g.svc s).currentState = state) :
    ∀ w' ∈ stateInterrupt m.toModules fuel state s w, Quiet w w' ∨ PassesTest s w w' := by
  have hway {st : AState} (hst : st.onTheWay = true) (h : state = st) :
      (w.g.svc s).currentState.onTheWay = true := by rw [hstate, h, hst]
  rw [stateInterrupt]
  refine forall_mem_ite (fun h => waitingForStartDep_cases m _ (by decide) (by decide)
    (hway (by decide) h)) fun _ => ?_
  refine forall_mem_row (fun _ =>
    .inl (quiet_service m (works_waitingForStopDep m.hooksDo (by decide)))) fun _ => ?_
  refine forall_mem_ite (fun h => waitingForStartDep_cases m _ (by decide) (by decide)
    (hway (by decide) h)) fun _ => ?_
  refine forall_mem_row (fun _ =>
    .inl (quiet_daemon m (works_waitingForStopDep m.hooksDo (by decide)))) fun _ => ?_
  exact forall_mem_some (.inl (.refl w))

end

end Initng
