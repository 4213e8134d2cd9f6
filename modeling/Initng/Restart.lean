import Initng.PostorderWalk
import Initng.ServiceTypes

namespace Initng

open List PostorderWalk Relation

/-- Every service has a type without a restart hook, and with a stop hook that changes its
own service only and moves it, when it is up and marked for restarting, out of up. -/
def StopHooks (m : Modules) (g : G) : Prop :=
  ∀ s ∈ g.activeDb, ∃ type hook, (g.svc s).type = some type ∧ m.stop type = some hook ∧
    m.restart type = none ∧ (∀ g', OwnChange s g' (hook s g').2) ∧
    ∀ g', g'.svc s = (set .restarting s g).svc s → getState g s = .isUp →
      getState (hook s g').2 s ≠ .isUp

def RestartEdge (m : Modules) (g : G) (s t : Sid) : Prop :=
  t ∈ g.activeDb ∧ t ≠ s ∧ getState g t = .isUp ∧ dependDeep m g t s = true

/-- Between the two states the service was marked for restarting and left up, and its stop
hook was called exactly once. -/
def Restarted (g g' : G) (s : Sid) : Prop :=
  is .restarting g' s = true ∧ getState g' s ≠ .isUp ∧
    g'.trace.count (.stop s) = g.trace.count (.stop s) + 1

lemma depOn_set_restarting (s : Sid) (g : G) (x y : Sid) :
    depOn (set .restarting s g) x y = depOn g x y := by
  unfold depOn
  rw [set_svc_name]
  by_cases h : x = s
  · subst h
    rw [set_svc_self]
    split <;> simp
  · rw [set_svc_ne _ _ _ _ h]

section
variable {m : Modules} {g₀ : G} {g : G} {s : Sid}

structure RestartInv (g₀ g : G) : Prop where
  activeDb : g.activeDb = g₀.activeDb
  type : ∀ t, (g.svc t).type = (g₀.svc t).type
  depOn : ∀ x y, depOn g x y = depOn g₀ x y
  up : ∀ t, getState g t = .isUp → g.svc t = g₀.svc t

lemma RestartInv.refl (g₀ : G) : RestartInv g₀ g₀ :=
  ⟨rfl, fun _ => rfl, fun _ _ => rfl, fun _ _ => rfl⟩

def restartable (g₀ g : G) (t : Sid) : Bool := t ∈ g₀.activeDb ∧ getState g t = .isUp

lemma restartable_iff {t : Sid} :
    restartable g₀ g t = true ↔ t ∈ g₀.activeDb ∧ getState g t = .isUp := by
  simp [restartable]

def flagAndStop (m : Modules) (s : Sid) (g : G) : Bool × G :=
  handlerStopService m s (set .restarting s g)

structure FlaggedAndStopped (s : Sid) (g g' : G) : Prop where
  activeDb : g'.activeDb = g.activeDb
  type : ∀ t, (g'.svc t).type = (g.svc t).type
  depOn : ∀ x y, depOn g' x y = depOn g x y
  other : ∀ t, t ≠ s → g'.svc t = g.svc t
  flagged : is .restarting g' s = true
  left : getState g' s ≠ .isUp
  trace : g'.trace = .stop s :: g.trace

lemma flagAndStop_spec (hooks : StopHooks m g₀) (hi : RestartInv g₀ g)
    (hs : restartable g₀ g s = true) : FlaggedAndStopped s g (flagAndStop m s g).2 := by
  obtain ⟨hmem, hup⟩ := restartable_iff.mp hs
  obtain ⟨type, hook, htype, hstop, -, hown, hmove⟩ := hooks s hmem
  have hrec : g.svc s = g₀.svc s := hi.up s hup
  have hup₀ : getState g₀ s = .isUp := by rw [← hup, getState, getState, hrec]
  have hrun : flagAndStop m s g = hook s ((set .restarting s g).observe (.stop s)) := by
    simp only [flagAndStop, handlerStopService, set_svc_type, hi.type, htype, getState_set, hup,
      hstop]
  have h := hown ((set .restarting s g).observe (.stop s))
  rw [hrun]
  refine ⟨by simpa using h.activeDb, fun t => ?_, fun x y => ?_, fun t ht => ?_, ?_, ?_,
    by simpa using h.trace⟩
  · rw [h.svc_type]
    exact set_svc_type _ _ _ _
  · simp only [depOn, h.svc_data, h.svc_name]
    exact depOn_set_restarting s g x y
  · rw [h.other t ht]
    exact set_svc_ne _ _ _ _ ht
  · rw [is, h.data]
    exact is_set _ _ _
  · exact hmove _ (by simp [set_svc_self, is, hrec]) hup₀

def restartWalk (hooks : StopHooks m g₀) : Walk Sid G where
  Inv := RestartInv g₀
  enterable := restartable g₀
  succ s := g₀.activeDb.filter fun t => t ≠ s ∧ dependDeep m g₀ t s
  leave s g := (flagAndStop m s g).2
  inv_leave := by
    intro s g hi hs
    have h := flagAndStop_spec hooks hi hs
    refine ⟨h.activeDb.trans hi.activeDb, fun t => (h.type t).trans (hi.type t),
      fun x y => (h.depOn x y).trans (hi.depOn x y), fun t ht => ?_⟩
    have hne : t ≠ s := by
      rintro rfl
      exact h.left ht
    rw [getState, h.other t hne] at ht
    rw [h.other t hne, hi.up t ht]
  enterable_leave := by
    intro s g hi hs t
    have h := flagAndStop_spec hooks hi hs
    simp only [restartable_iff]
    by_cases hne : t = s
    · subst hne
      simp [h.left]
    · simp [getState, h.other t hne, hne]

variable (hooks : StopHooks m g₀)

lemma leaveAll_stopped {xs : List Sid} (hi : RestartInv g₀ g) (hn : xs.Nodup)
    (he : ∀ x ∈ xs, restartable g₀ g x = true) :
    (∀ t, t ∉ xs → ((restartWalk hooks).leaveAll xs g).svc t = g.svc t) ∧
    (∀ x ∈ xs, is .restarting ((restartWalk hooks).leaveAll xs g) x = true ∧
      getState ((restartWalk hooks).leaveAll xs g) x ≠ .isUp) ∧
    ((restartWalk hooks).leaveAll xs g).trace = (xs.map Obs.stop).reverse ++ g.trace := by
  induction xs generalizing g with
  | nil => exact ⟨fun _ _ => rfl, by simp, rfl⟩
  | cons x xs ih =>
    obtain ⟨hx, hn⟩ := nodup_cons.mp hn
    have hex := he x (by simp)
    have h := flagAndStop_spec hooks hi hex
    have he' : ∀ y ∈ xs, restartable g₀ (flagAndStop m x g).2 y = true := by
      intro y hy
      refine ((restartWalk hooks).enterable_leave hi hex y).mpr ⟨he y (by simp [hy]), ?_⟩
      rintro rfl
      exact hx hy
    have hi' : RestartInv g₀ (flagAndStop m x g).2 := (restartWalk hooks).inv_leave hi hex
    obtain ⟨hother, hin, htrace⟩ := ih hi' hn he'
    have hcons : (restartWalk hooks).leaveAll (x :: xs) g =
        (restartWalk hooks).leaveAll xs (flagAndStop m x g).2 := rfl
    rw [hcons]
    refine ⟨?_, ?_, ?_⟩
    · intro t ht
      simp only [mem_cons, not_or] at ht
      exact (hother t ht.2).trans (h.other t ht.1)
    · intro y hy
      rcases mem_cons.mp hy with rfl | hy
      · -- the services left after `y` do not touch it
        rw [is, getState, hother y hx]
        exact ⟨h.flagged, h.left⟩
      · exact hin y hy
    · rw [htrace, h.trace]
      simp

lemma RestartInv.dependDeep (hi : RestartInv g₀ g) :
    dependDeep m g = dependDeep m g₀ :=
  dependDeep_congr hi.activeDb hi.depOn

/-- The loop over the services is a walk over those that deep-depend on `s`, if its calls
are visits. -/
lemma dependRestartDeps_eq {n : ℕ} {restart : Sid → G → Option (Bool × G)}
    (hcall : ∀ t ∈ g₀.activeDb, ∀ g, RestartInv g₀ g →
      (restart t g).map (fun r => r.2) = (restartWalk hooks).visit n t g)
    {l : List Sid} (hl : ∀ t ∈ l, t ∈ g₀.activeDb) (hi : RestartInv g₀ g) :
    dependRestartDeps restart m s l g =
      (restartWalk hooks).visitAll n (l.filter fun t => t ≠ s ∧ dependDeep m g₀ t s) g := by
  induction l generalizing g with
  | nil => rfl
  | cons t l ih =>
    replace ih {g : G} (hi : RestartInv g₀ g) := ih (fun t ht => hl t (.tail _ ht)) hi
    by_cases hts : t = s
    · rw [dependRestartDeps, if_pos hts, ih hi, filter_cons_of_neg (by simp [hts])]
    by_cases hdep : dependDeep m g₀ t s = true
    · rw [dependRestartDeps, if_neg hts, hi.dependDeep, if_pos hdep,
        filter_cons_of_pos (by simp [hts, hdep])]
      have hvisit := hcall t (hl t (by simp)) g hi
      cases hr : restart t g with
      | none =>
        rw [hr] at hvisit
        simp [Walk.visitAll, ← hvisit]
      | some r =>
        rw [hr] at hvisit
        obtain ⟨xs, hw⟩ := Walk.visit_walked n hi hvisit.symm
        simp [Walk.visitAll, ← hvisit, ih (hw.inv hi)]
    · rw [dependRestartDeps, if_neg hts, hi.dependDeep, if_neg hdep, ih hi,
        filter_cons_of_neg (by simp [hdep])]

lemma handlerRestartService_eq (n : ℕ) (hs : s ∈ g₀.activeDb)
    (hi : RestartInv g₀ g) :
    (handlerRestartService m n s g).map (fun r => r.2) = (restartWalk hooks).visit n s g := by
  induction n generalizing s g with
  | zero => rfl
  | succ n ih =>
    obtain ⟨type, hook, htype, -, hrestart, -⟩ := hooks s hs
    have hsome : (g.svc s).type.isNone = false := by simp [hi.type, htype]
    by_cases hup : getState g s = .isUp
    · have hen : (restartWalk hooks).enterable g s = true := restartable_iff.mpr ⟨hs, hup⟩
      have hloop := dependRestartDeps_eq hooks (s := s) (fun t ht g hi => ih ht hi)
        (l := g₀.activeDb) (fun t ht => ht) hi
      have hsucc : (restartWalk hooks).succ s =
          g₀.activeDb.filter fun t => t ≠ s ∧ dependDeep m g₀ t s := rfl
      simp only [handlerRestartService, hsome, hup, hi.activeDb, hloop, ← hsucc,
        Bool.false_eq_true, if_false, ne_eq, not_true_eq_false]
      rw [Walk.visit_succ hen]
      cases hall : (restartWalk hooks).visitAll n ((restartWalk hooks).succ s) g with
      | none => rfl
      | some g₁ =>
        obtain ⟨xs, hw⟩ := Walk.visitAll_walked (Walk.visit_walked n) hi hall
        have hi₁ : RestartInv g₀ g₁ := hw.inv hi
        simp [hi₁.type, htype, hrestart, restartWalk, flagAndStop]
    · have hclosed : (restartWalk hooks).enterable g s = false := by
        simp [restartWalk, restartable, hup]
      rw [Walk.visit_closed hclosed]
      simp [handlerRestartService, hsome, hup]

end

section
variable {m : Modules} {g : G}

lemma restartWalk_edge (hooks : StopHooks m g) : (restartWalk hooks).Edge g = RestartEdge m g := by
  funext s t
  apply propext
  simp only [Walk.Edge, restartWalk, RestartEdge, mem_filter, restartable_iff, decide_eq_true_eq]
  tauto

lemma handlerRestartService_restarted (hooks : StopHooks m g) {fuel : ℕ} {s : Sid}
    {r : Bool × G} (hs : s ∈ g.activeDb) (hup : getState g s = .isUp)
    (h : handlerRestartService m fuel s g = some r) {x : Sid} (hx : x ∈ g.activeDb)
    (hxup : getState g x = .isUp) (hdep : dependDeep m g x s = true) : Restarted g r.2 x := by
  have hi := RestartInv.refl g
  have hvisit : (restartWalk hooks).visit fuel s g = some r.2 := by
    rw [← handlerRestartService_eq hooks fuel hs hi, h]
    rfl
  obtain ⟨xs, hw⟩ := Walk.visit_walked fuel hi hvisit
  have hen : (restartWalk hooks).enterable g s = true := restartable_iff.mpr ⟨hs, hup⟩
  have hmem : x ∈ xs := by
    rw [hw.mem x]
    refine ⟨s, by simp, hen, ?_⟩
    by_cases hxs : x = s
    · rw [hxs]
    · refine .single ?_
      rw [restartWalk_edge]
      exact ⟨hx, hxs, hxup, hdep⟩
  obtain ⟨-, hin, htrace⟩ := leaveAll_stopped hooks hi hw.nodup hw.all_enterable
  rw [← hw.result] at hin htrace
  refine ⟨(hin x hmem).1, (hin x hmem).2, ?_⟩
  have hone : (xs.map Obs.stop).count (.stop x) = 1 := by
    rw [count_map_of_injective xs Obs.stop (fun a b hab => by injection hab)]
    exact count_eq_one_of_mem hw.nodup hmem
  rw [htrace, count_append, count_reverse, hone, Nat.add_comm]

lemma handlerRestartService_returns_iff_acc (hooks : StopHooks m g) {s : Sid}
    (hs : s ∈ g.activeDb) :
    (∃ fuel r, handlerRestartService m fuel s g = some r) ↔
      (getState g s = .isUp → Acc (fun t s => RestartEdge m g s t) s) := by
  have hi := RestartInv.refl g
  have hen : getState g s = .isUp ↔ (restartWalk hooks).enterable g s = true := by
    rw [show (restartWalk hooks).enterable g s = restartable g g s from rfl, restartable_iff]
    simp [hs]
  rw [hen, ← restartWalk_edge hooks]
  refine Iff.trans ?_ (Walk.visit_returns_iff (w := restartWalk hooks) hi)
  simp only [← handlerRestartService_eq hooks _ hs hi, Option.map_eq_some_iff]
  constructor
  · rintro ⟨fuel, r, h⟩
    exact ⟨fuel, r.2, r, h, rfl⟩
  · rintro ⟨fuel, -, r, h, -⟩
    exact ⟨fuel, r, h⟩

end

/-- A restart returns, with every service that is up and deep-depends on the restarted one
marked and stopped exactly once, exactly if no cycle of deep dependency among services
that are up is in reach. -/
theorem handlerRestartService_restarts_iff (m : Modules) (g : G) (hooks : StopHooks m g) (s : Sid)
    (hs : s ∈ g.activeDb) :
    (∃ fuel r, handlerRestartService m fuel s g = some r ∧
      (getState g s = .isUp → ∀ x ∈ g.activeDb, getState g x = .isUp →
        dependDeep m g x s = true → Restarted g r.2 x)) ↔
      (getState g s = .isUp →
        ¬ ∃ t, ReflTransGen (RestartEdge m g) s t ∧
          TransGen (RestartEdge m g) t t) := by
  rw [← acc_iff_no_cycle g.activeDb (fun e => e.1) s,
    ← handlerRestartService_returns_iff_acc hooks hs]
  constructor
  · rintro ⟨fuel, r, h, -⟩
    exact ⟨fuel, r, h⟩
  · rintro ⟨fuel, r, h⟩
    exact ⟨fuel, r, h, fun hup x hx hxup hdep =>
      handlerRestartService_restarted hooks hs hup h hx hxup hdep⟩

lemma typeModules_stopHooks {g : G}
    (h : ∀ s ∈ g.activeDb, (g.svc s).stateLock = 0 ∧ ∃ type, (g.svc s).type = some type ∧
      type.name ∈ typeNames) :
    StopHooks typeModules g := by
  intro s hs
  obtain ⟨hlock, type, htype, hname⟩ := h s hs
  obtain ⟨waiting, back, marked, hstop, hwait, hmark⟩ := typeModules_stop hname
  refine ⟨type, turnHook waiting back marked, htype, hstop, rfl,
    fun g' => turnHook_ownChange, fun g' hrec hup => ?_⟩
  rw [set_svc_self] at hrec
  have hne : (g'.svc s).currentState ≠ waiting := by
    intro heq
    rw [hrec] at heq
    rw [getState, heq, hwait] at hup
    cases hup
  have hlock' : (g'.svc s).stateLock = 0 := by
    rw [hrec]
    exact hlock
  rw [getState, turnHook_currentState hlock' hne, hmark]
  decide

theorem handlerRestartService_restarts_iff_chain :
    let g := pairDb .daemonRunning [] ["a"]
    StopHooks typeModules g ∧ 0 ∈ g.activeDb ∧
      ((∃ fuel r, handlerRestartService typeModules fuel 0 g = some r ∧
        (getState g 0 = .isUp → ∀ x ∈ g.activeDb, getState g x = .isUp →
          dependDeep typeModules g x 0 = true → Restarted g r.2 x)) ↔
        (getState g 0 = .isUp →
          ¬ ∃ t, ReflTransGen (RestartEdge typeModules g) 0 t ∧
            TransGen (RestartEdge typeModules g) t t)) :=
  ⟨typeModules_stopHooks (pairDb_daemons _ _ _), by decide,
    handlerRestartService_restarts_iff _ _ (typeModules_stopHooks (pairDb_daemons _ _ _)) 0
      (by decide)⟩

/-- Two running daemons that need each other: each restart restarts the other one first. -/
theorem handlerRestartService_diverges_cycle :
    let g := pairDb .daemonRunning ["b"] ["a"]
    StopHooks typeModules g ∧ 0 ∈ g.activeDb ∧
      ¬ ∃ fuel r, handlerRestartService typeModules fuel 0 g = some r := by
  have hooks : StopHooks typeModules (pairDb .daemonRunning ["b"] ["a"]) :=
    typeModules_stopHooks (pairDb_daemons _ _ _)
  refine ⟨hooks, by decide, ?_⟩
  rw [handlerRestartService_returns_iff_acc hooks (by decide)]
  intro hacc
  have hcycle : TransGen (RestartEdge typeModules (pairDb .daemonRunning ["b"] ["a"]))
      0 0 :=
    .tail (b := 1) (.single (by unfold RestartEdge; decide)) (by unfold RestartEdge; decide)
  exact acc_no_cycle (hacc (by decide)) hcycle

end Initng
