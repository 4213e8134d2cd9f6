import Initng.DepMet

/-! `handler/` and `depend/`. -/

namespace Initng

open Option

inductive Asked (m : Modules) (R : G → G → Prop) : G → G → Prop
  | refl (g : G) : Asked m R g g
  | trans {g g' g'' : G} : Asked m R g g' → Asked m R g' g'' → Asked m R g g''
  | other {g g' : G} : R g g' → Asked m R g g'
  | start {g : G} {s : Sid} {type : Stype} {hook : Sid → G → Bool × G}
      (htype : (g.svc s).type = some type) (hhook : m.start type = some hook) :
      Asked m R g (hook s (g.observe (.start s))).2
  | stop {g : G} {s : Sid} {type : Stype} {hook : Sid → G → Bool × G}
      (htype : (g.svc s).type = some type) (hhook : m.stop type = some hook)
      (hstate : getState g s = .isUp ∨ getState g s = .isStarting) :
      Asked m R g (hook s (g.observe (.stop s))).2
  | restart {g : G} {s : Sid} {type : Stype} {hook : Sid → G → Bool × G}
      (htype : (g.svc s).type = some type) (hhook : m.restart type = some hook) :
      Asked m R g (hook s g).2
  | missing (g : G) (s : Sid) : Asked m R g (commonMarkService s .reqNotFound g).2
  | cache (g : G) (s : Sid) (count : ℕ) : Asked m R g (setDependCache s count g)
  | flag (g : G) (s : Sid) : Asked m R g (set .restarting s g)
  | unflag (g : G) (s : Sid) : Asked m R g (dataRemove .restarting s g)

structure HooksDo (m : Modules) (R : G → G → Prop) : Prop where
  newActive : ∀ hook ∈ m.newActive, ∀ name st, R st.1 (hook name st).2.1
  startDepMet : ∀ hook ∈ m.startDepMet, ∀ s g, R g (hook.run s g).2
  stopDepMet : ∀ hook ∈ m.stopDepMet, ∀ s g, R g (hook.run s g).2

def Asks (m : Modules) (R : G → G → Prop) (call : Sid → G → Option (Bool × G)) : Prop :=
  ∀ s g r, call s g = some r → Asked m R g r.2

section
variable {m : Modules} {R : G → G → Prop}

lemma asked_askDepMet {hooks : List DepMetHook}
    (h : ∀ hook ∈ hooks, ∀ s g, R g (hook.run s g).2) (s : Sid) (g : G) :
    Asked m R g (askDepMet hooks s g).2 := by
  refine eventSend_rel .refl (fun _ _ _ => .trans) (fun f hf g => ?_) g
  obtain ⟨hook, hmem, rfl⟩ := List.mem_map.mp hf
  exact .other (h hook hmem s g)

lemma asked_moduleActiveNew (hm : HooksDo m R) (name : String) (g : G) :
    Asked m R g (moduleActiveNew m name g).2 := by
  have hsend : Asked m R g (eventSend (m.newActive.map fun hook => hook name) (g, none)).2.1 := by
    have htrans (st st' st'' : G × Option Sid) (h : Asked m R st.1 st'.1)
        (h' : Asked m R st'.1 st''.1) : Asked m R st.1 st''.1 := h.trans h'
    refine eventSend_rel (R := fun st st' => Asked m R st.1 st'.1) (fun st => .refl st.1) htrans
      (fun f hf st => ?_) (g, none)
    obtain ⟨hook, hmem, rfl⟩ := List.mem_map.mp hf
    exact .other (hm.newActive hook hmem name st)
  unfold moduleActiveNew
  split
  next g' ret heq => simpa [heq] using hsend
  next g' ret _ heq => simpa [heq] using hsend

lemma asked_handlerStopService (s : Sid) (g : G) : Asked m R g (handlerStopService m s g).2 := by
  rcases handlerStopService_cases m s g with he | ⟨type, stop, htype, hstop, hstate, he⟩
  · rw [he]
    exact .refl g
  · rw [he]
    exact .stop htype hstop hstate

lemma asked_dependStopDeps (service : Sid) (l : List Sid) (g : G) :
    Asked m R g (dependStopDeps m service l g).2 := by
  induction l generalizing g with
  | nil => exact .refl g
  | cons current rest ih =>
    rw [dependStopDeps]
    split_ifs
    · exact ih g
    · exact (asked_handlerStopService current g).trans (ih _)
    · exact ih g

lemma asked_stopEach (l : List Sid) (g : G) : Asked m R g (stopEach m l g) := by
  induction l generalizing g with
  | nil => exact .refl g
  | cons ser rest ih =>
    rw [stopEach]
    split
    · exact ih g
    · exact ih g
    · exact ih g
    · exact (asked_handlerStopService ser g).trans (ih _)

lemma asked_runStart (s : Sid) (g : G) : Asked m R g (runStart m s g).2 := by
  unfold runStart
  split
  · exact .refl g
  next hook hbind =>
    obtain ⟨type, htype, hhook⟩ := bind_eq_some_iff.mp hbind
    exact .start htype hhook

variable (hm : HooksDo m R)
include hm

variable {start : Sid → G → Option (Bool × G)} {g g' : G} {service s : Sid} {l : List SData}
  {fuel : ℕ}

lemma asked_handlerStartNewServiceNamed (hstart : Asks m R start) {name : String}
    {r : Option Sid × G} (h : handlerStartNewServiceNamed start m name g = some r) :
    Asked m R g r.2 := by
  unfold handlerStartNewServiceNamed at h
  split at h
  · split at h
    · cases h
      exact .refl g
    · obtain ⟨r', hr', rfl⟩ := map_eq_some_iff.mp h
      exact hstart _ _ _ hr'
  · cases h
    exact asked_moduleActiveNew hm name g

lemma asked_dependStartDeps (hstart : Asks m R start) {r : Bool × G}
    (h : dependStartDeps start m service l g = some r) : Asked m R g r.2 := by
  induction l generalizing g with
  | nil =>
    cases h
    exact .refl g
  | cons current rest ih =>
    rw [dependStartDeps] at h
    split at h
    · exact ih h
    split at h
    · exact ih h
    split at h
    · split at h
      · obtain ⟨r', hr', h⟩ := bind_eq_some_iff.mp h
        exact (hstart _ _ _ hr').trans (ih h)
      · exact ih h
    · obtain ⟨r', hr', h⟩ := bind_eq_some_iff.mp h
      have hnew := asked_handlerStartNewServiceNamed hm hstart hr'
      split at h
      · exact hnew.trans (ih h)
      · cases h
        exact hnew.trans (.missing _ service)

lemma asks_handlerStartService (fuel : ℕ) : Asks m R (handlerStartService m fuel) := by
  induction fuel with
  | zero => simp [Asks, handlerStartService]
  | succ fuel ih =>
    intro s g r h
    rw [handlerStartService] at h
    split_ifs at h
    · cases h
      exact .refl g
    · cases h
      exact .refl g
    · cases h
      exact .refl g
    have hdeps (h : (dependStartDeps (handlerStartService m fuel) m s (g.svc s).data g).map
        (fun r => if r.1 = false then (false, r.2) else runStart m s r.2) = some r) :
        Asked m R g r.2 := by
      obtain ⟨r', hr', rfl⟩ := map_eq_some_iff.mp h
      refine (asked_dependStartDeps hm ih hr').trans ?_
      split
      · exact .refl _
      · exact asked_runStart s r'.2
    split at h
    all_goals first
      | exact hdeps h
      | (cases h; exact .refl g)

lemma asked_startDepMetLoop {count : ℕ} {r : Option Ret × G}
    (h : startDepMetLoop m fuel s l count g = some r) : Asked m R g r.2 := by
  induction l generalizing count g with
  | nil =>
    cases h
    exact .refl g
  | cons current rest ih =>
    rw [startDepMetLoop] at h
    split at h
    · exact ih h
    split at h
    · exact ih h
    split at h
    · split at h
      · exact ih h
      · cases h
        exact .missing g s
      · cases h
        exact .refl g
    next dep _ =>
      split at h
      case h_4 =>
        obtain ⟨r', hr', rfl⟩ := map_eq_some_iff.mp h
        exact asks_handlerStartService hm fuel _ _ _ hr'
      case h_5 => exact .trans (.cache g s _) (ih h)
      all_goals
        cases h
        exact .refl g

lemma asked_dependStartDepMet {r : Ret × G} (h : dependStartDepMet m fuel s g = some r) :
    Asked m R g r.2 := by
  obtain ⟨r', hr', rfl⟩ := map_eq_some_iff.mp h
  have hloop := asked_startDepMetLoop hm hr'
  have hask : Asked m R r'.2 _ := asked_askDepMet hm.startDepMet s r'.2
  dsimp only
  split
  · exact hloop
  · split
    · exact hloop.trans hask
    · exact (hloop.trans hask).trans (.cache _ s 0)

omit hm in
lemma asked_stopDepMetLoop (s : Sid) (l : List Sid) (count : ℕ) (g : G) :
    Asked m R g (stopDepMetLoop m s l count g).2 := by
  induction l generalizing count g with
  | nil => exact .refl g
  | cons current rest ih =>
    have hcache (n : ℕ) : Asked m R g (setDependCache s n g) := .cache g s n
    rw [stopDepMetLoop]
    dsimp only
    split_ifs
    · exact ih _ _
    · exact (hcache _).trans (ih _ _)
    · exact (hcache _).trans (ih _ _)
    · exact (hcache _).trans (ih _ _)
    · exact (hcache _).trans (.cache _ s _)

lemma asked_dependStopDepMet (s : Sid) (g : G) : Asked m R g (dependStopDepMet m s g).2 := by
  have hloop : Asked m R g _ := asked_stopDepMetLoop s g.activeDb 0 g
  have hask : Asked m R (stopDepMetLoop m s g.activeDb 0 g).2 _ := asked_askDepMet hm.stopDepMet s _
  unfold dependStopDepMet
  dsimp only
  split
  · exact hloop
  · split
    · exact hloop.trans hask
    · exact (hloop.trans hask).trans (.cache _ s 0)

omit hm in
lemma asked_dependRestartDeps {restart : Sid → G → Option (Bool × G)}
    (hrestart : Asks m R restart) {l : List Sid}
    (h : dependRestartDeps restart m service l g = some g') : Asked m R g g' := by
  induction l generalizing g with
  | nil =>
    cases h
    exact .refl _
  | cons current rest ih =>
    rw [dependRestartDeps] at h
    split_ifs at h
    · exact ih h
    · obtain ⟨r, hr, h⟩ := bind_eq_some_iff.mp h
      exact (hrestart _ _ _ hr).trans (ih h)
    · exact ih h

omit hm in
lemma asks_handlerRestartService (fuel : ℕ) : Asks m R (handlerRestartService m fuel) := by
  induction fuel with
  | zero => simp [Asks, handlerRestartService]
  | succ fuel ih =>
    intro s g r h
    rw [handlerRestartService] at h
    split_ifs at h
    · cases h
      exact .refl g
    · cases h
      exact .refl g
    obtain ⟨g', hg', rfl⟩ := map_eq_some_iff.mp h
    refine (asked_dependRestartDeps ih hg').trans ?_
    split
    next hook hbind =>
      obtain ⟨type, htype, hhook⟩ := bind_eq_some_iff.mp hbind
      exact .restart htype hhook
    · exact .trans (.flag g' s) (asked_handlerStopService s _)

lemma asked_restartDown {l : List Sid} (h : restartDown m fuel l g = some g') : Asked m R g g' := by
  induction l generalizing g with
  | nil =>
    cases h
    exact .refl _
  | cons current rest ih =>
    rw [restartDown] at h
    split_ifs at h
    · obtain ⟨r, hr, h⟩ := bind_eq_some_iff.mp h
      have hstart := asks_handlerStartService hm fuel _ _ _ hr
      exact (Asked.trans (.unflag g current) hstart).trans (ih h)
    · exact ih h

lemma asked_handlerRestartRestarting (h : handlerRestartRestarting m fuel g = some g') :
    Asked m R g g' := by
  unfold handlerRestartRestarting at h
  split at h
  · cases h
    exact .refl _
  · exact asked_restartDown hm h

end

end Initng
