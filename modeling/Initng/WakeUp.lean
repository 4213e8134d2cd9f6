import Initng.MainLoop

namespace Initng

open StepRun List ListCursor

/-- The service `x` has entered a state, and the interrupt hook of `state` has not been called
for `t` since. -/
def Owed (x t : Sid) (state : AState) : List LoopEvent → Prop
  | [] => False
  | .changed s _ :: log => s = x ∨ Owed x t state log
  | .called s st :: log => ¬ (s = t ∧ st = state) ∧ Owed x t state log
  | .restarted _ :: log => Owed x t state log

def Place.willCall (l : List Sid) (t : Sid) : Place → Prop
  | interrupt phase => phase ≠ .idle
  | walk current => t ∉ passed l current
  | hook _ q => t ∉ passed l q
  | _ => False

def Place.cursor : Place → Option Sid
  | walk current => current
  | hook _ q => q
  | _ => none

/-- What is owed to a service will be paid: a service whose change it has not been told of, or
the service itself, waits to be handled, or the walk will come to it. -/
structure LoopOk (hasHook : AState → Bool) (c : MainLoop) : Prop where
  nodup : c.g.activeDb.Nodup
  allocated : ∀ s ∈ c.g.activeDb, s < c.g.brk
  freed : ∀ s ∈ c.freed, s ∉ c.g.activeDb
  within : Within c.g.activeDb c.place.cursor
  poll : c.place = .poll → c.g.interrupt = []
  owed : ∀ x, x ∉ c.freed → ∀ t ∈ c.g.activeDb, hasHook (c.g.svc t).currentState = true →
    Owed x t (c.g.svc t).currentState c.log →
      x ∈ c.g.interrupt ∨ t ∈ c.g.interrupt ∨ c.place.willCall c.g.activeDb t

section
variable {x t : Sid} {state : AState}

lemma Owed.of_append {l log : List LoopEvent} (h : Owed x t state (l ++ log)) :
    (∃ st, .changed x st ∈ l) ∨ Owed x t state log := by
  induction l with
  | nil => exact .inr h
  | cons e l ih =>
    have hrest (h : Owed x t state (l ++ log)) :
        (∃ st, .changed x st ∈ e :: l) ∨ Owed x t state log :=
      (ih h).imp_left fun ⟨st, hst⟩ => ⟨st, mem_cons_of_mem _ hst⟩
    cases e with
    | changed s st =>
      rcases h with rfl | h
      · exact .inl ⟨st, .head _⟩
      · exact hrest h
    | called s st => exact hrest h.2
    | restarted s => exact hrest h

lemma called_of_not_owed {st : AState} {l₁ l₂ : List LoopEvent}
    (h : ¬ Owed x t state (l₁ ++ .changed x st :: l₂)) : .called t state ∈ l₁ := by
  induction l₁ with
  | nil => exact absurd (.inl rfl) h
  | cons e l ih =>
    cases e with
    | changed s st' => exact .tail _ (ih fun ho => h (.inr ho))
    | restarted s => exact .tail _ (ih h)
    | called s st' =>
      by_cases he : s = t ∧ st' = state
      · rw [he.1, he.2]
        exact .head _
      · exact .tail _ (ih fun ho => h ⟨he, ho⟩)

end

/-- Every service that enters another state is put on the interrupt list, and none is taken
off it. -/
structure Wakes (g g' : G) : Prop where
  activeDb : g'.activeDb = g.activeDb
  brk : g.brk ≤ g'.brk
  listed : ∀ s ∈ g.interrupt, s ∈ g'.interrupt
  changed : ∀ s, s < g.brk → (g'.svc s).currentState ≠ (g.svc s).currentState → s ∈ g'.interrupt

namespace Wakes

variable {g g' g'' : G}

lemma trans (h : Wakes g g') (h' : Wakes g' g'') : Wakes g g'' where
  activeDb := h'.activeDb.trans h.activeDb
  brk := Nat.le_trans h.brk h'.brk
  listed s hs := h'.listed s (h.listed s hs)
  changed s hs hne := by
    by_cases heq : (g'.svc s).currentState = (g.svc s).currentState
    · exact h'.changed s (Nat.lt_of_lt_of_le hs h.brk) fun he => hne (he.trans heq)
    · exact h'.listed s (h.changed s hs heq)

lemma of_states (hdb : g'.activeDb = g.activeDb) (hbrk : g.brk ≤ g'.brk)
    (hlist : g'.interrupt = g.interrupt)
    (hstate : ∀ s, s < g.brk → (g'.svc s).currentState = (g.svc s).currentState) : Wakes g g' :=
  ⟨hdb, hbrk, fun _ hs => hlist ▸ hs, fun s hs hne => absurd (hstate s hs) hne⟩

lemma refl (g : G) : Wakes g g := .of_states rfl (Nat.le_refl _) rfl fun _ _ => rfl

lemma mark (s : Sid) (st : AState) : Wakes g (commonMarkService s st g).2 where
  activeDb := commonMarkService_activeDb ..
  brk := Nat.le_of_eq (commonMarkService_brk ..).symm
  listed _ ht := commonMarkService_interrupt_mono g s st ht
  changed t _ hne := by
    by_cases hts : t = s
    · subst hts
      exact mem_interrupt_of_commonMarkService g t st hne
    · rw [commonMarkService_svc_ne _ _ hts] at hne
      exact absurd rfl hne

lemma set (type : SEntry) (s : Sid) : Wakes g (set type s g) := by
  refine .of_states (set_activeDb ..) (Nat.le_of_eq (set_brk ..).symm) (set_interrupt ..)
    fun t _ => ?_
  obtain ⟨data, h⟩ := set_svc type s t g
  rw [h]

lemma stops (h : Stops g g') : Wakes g g' := by
  induction h with
  | refl => exact .refl g
  | flag s _ _ _ ih => exact ih.trans (.set .restarting s)
  | call s _ ih => exact ih.trans (.of_states rfl (Nat.le_refl _) rfl fun _ _ => rfl)
  | mark _ _ _ _ ih => exact ih.trans (.mark _ _)

lemma act {a : Act} (ha : ∀ s, a ≠ .register s) : Wakes g (a.applyG g) := by
  have hacted := a.acted g
  generalize a.applyG g = g' at hacted ⊢
  cases hacted with
  | same => exact .refl g
  | mark s state => exact .mark s state
  | new name =>
    refine .of_states rfl (Nat.le_succ _) rfl fun s hs => ?_
    simp [activeDbNew, Nat.ne_of_lt hs]
  | setup s =>
    refine .of_states rfl (Nat.le_refl _) rfl fun t _ => ?_
    by_cases hts : t = s <;> simp [hts]
  | register s => exact absurd rfl (ha s)
  | flag s => exact .set .restarting s
  | start | stop => exact .of_states rfl (Nat.le_refl _) rfl fun _ _ => rfl

end Wakes

namespace LoopOk

variable {hasHook : AState → Bool} {c : MainLoop} {s : Sid}

section
variable (h : LoopOk hasHook c)
include h

lemma update {g' : G} (hw : Wakes c.g g') (hplace : c.place ≠ .poll) :
    LoopOk hasHook (c.update g') where
  nodup := by simpa [MainLoop.update, hw.activeDb] using h.nodup
  allocated s hs := by
    have hs : s ∈ c.g.activeDb := by simpa [MainLoop.update, hw.activeDb] using hs
    exact Nat.lt_of_lt_of_le (h.allocated s hs) hw.brk
  freed := by simpa [MainLoop.update, hw.activeDb] using h.freed
  within := by simpa [MainLoop.update, hw.activeDb] using h.within
  poll hp := absurd hp hplace
  owed x hx t ht hhook howed := by
    simp only [MainLoop.update, hw.activeDb] at ht hhook howed hx ⊢
    by_cases hsame : (g'.svc t).currentState = (c.g.svc t).currentState
    · rw [hsame] at hhook howed
      rcases howed.of_append with ⟨st, hst⟩ | howed
      · obtain ⟨y, hy, hne, heq⟩ := mem_changes.mp hst
        obtain ⟨rfl, -⟩ := LoopEvent.changed.inj heq
        exact .inl (hw.changed x hy hne)
      · exact (h.owed x hx t ht hhook howed).imp (hw.listed x) (Or.imp_left (hw.listed t))
    · exact .inr (.inl (hw.changed t (h.allocated t ht) hsame))

lemma register (hs : s < c.g.brk) (hlive : s ∉ c.freed)
    (hhook : hasHook (c.g.svc s).currentState = false) (hplace : c.place ≠ .poll) :
    LoopOk hasHook (c.update (activeDbRegister s c.g).2) := by
  rcases activeDbRegister_cases s c.g with heq | ⟨hnot, heq⟩
  · rw [heq]
    exact h.update (.refl _) hplace
  rw [heq]
  refine ⟨nodup_append_singleton h.nodup hnot, fun t ht => ?_, fun t ht hmem => ?_,
    h.within.append, fun hp => absurd hp hplace, ?_⟩
  · rcases mem_append.mp ht with ht | ht
    · exact h.allocated t ht
    · obtain rfl : t = s := mem_singleton.mp ht
      exact hs
  · rcases mem_append.mp hmem with hmem | hmem
    · exact h.freed t ht hmem
    · obtain rfl : t = s := mem_singleton.mp hmem
      exact hlive ht
  · intro x hx t ht hthook howed
    have hts : t ≠ s := by
      rintro rfl
      exact Bool.false_ne_true (hhook.symm.trans hthook)
    have htmem : t ∈ c.g.activeDb := (mem_append.mp ht).resolve_right fun h1 =>
      hts (mem_singleton.mp h1)
    have howed : Owed x t (c.g.svc t).currentState c.log := by
      rcases howed.of_append with ⟨st, hst⟩ | howed
      · obtain ⟨y, -, hne, -⟩ := mem_changes.mp hst
        exact absurd rfl hne
      · exact howed
    refine (h.owed x hx t htmem hthook howed).imp_right (Or.imp_right fun hcall => ?_)
    -- the new service comes behind the place of the walk, and is not `t`
    have hpassed (cursor : Option Sid) (hw : Within c.g.activeDb cursor)
        (hnp : t ∉ passed c.g.activeDb cursor) :
        t ∉ passed (c.g.activeDb ++ [s]) cursor := fun hp => by
      rcases mem_passed_append hw hp with hp | ⟨-, hp⟩
      · exact hnp hp
      · exact hts (mem_singleton.mp hp)
    have hwithin := h.within
    revert hcall hwithin
    simp only [MainLoop.update]
    cases c.place with
    | interrupt phase => exact fun hcall _ => hcall
    | walk current => exact fun hcall hw => hpassed current hw hcall
    | hook t q => exact fun hcall hw => hpassed q hw hcall
    | _ => exact fun hcall _ => hcall

lemma free (hplace : ∀ l t, ¬ c.place.willCall l t)
    (hcursor : c.place.cursor = none) (hpoll : c.place ≠ .poll) : LoopOk hasHook (c.free s) := by
  have hf := freed_activeDbFree s c.g
  have hmem {t : Sid} (ht : t ∈ (c.free s).g.activeDb) : t ∈ c.g.activeDb ∧ t ≠ s := by
    simpa [MainLoop.free, MainLoop.update, hf.activeDb] using ht
  refine ⟨?_, fun t ht => ?_, fun t ht hin => ?_, ?_, fun hp => absurd hp hpoll, ?_⟩
  · have hnodup : (c.g.activeDb.filter (· ≠ s)).Nodup := h.nodup.filter _
    simpa [MainLoop.free, MainLoop.update, hf.activeDb] using hnodup
  · simpa [MainLoop.free, MainLoop.update, hf.brk] using h.allocated t (hmem ht).1
  · rcases mem_cons.mp ht with rfl | ht
    · exact (hmem hin).2 rfl
    · exact h.freed t ht (hmem hin).1
  · simpa [MainLoop.free, MainLoop.update, hcursor] using within_none
  · intro x hx t ht hhook howed
    obtain ⟨hxs, hx⟩ := not_or.mp (mt mem_cons.mpr hx)
    obtain ⟨ht, hts⟩ := hmem ht
    have hsame : ((c.free s).g.svc t) = c.g.svc t := hf.other t hts
    rw [hsame] at hhook howed
    have howed : Owed x t (c.g.svc t).currentState c.log := by
      rcases howed.of_append with ⟨st, hst⟩ | howed
      · obtain ⟨y, -, hne, heq⟩ := mem_changes.mp hst
        obtain ⟨rfl, -⟩ := LoopEvent.changed.inj heq
        rw [hf.other x hxs] at hne
        exact absurd rfl hne
      · exact howed
    rcases h.owed x hx t ht hhook howed with hin | hin | hcall
    · exact .inl ((hf.interrupt x).mpr ⟨hin, hxs⟩)
    · exact .inr (.inl ((hf.interrupt t).mpr ⟨hin, hts⟩))
    · exact absurd hcall (hplace _ t)

lemma move {c' : MainLoop} (hsvc : ∀ s, (c'.g.svc s).currentState =
      (c.g.svc s).currentState) (hdb : c'.g.activeDb = c.g.activeDb) (hbrk : c'.g.brk = c.g.brk)
    (hlist : c'.g.interrupt = c.g.interrupt) (hfreed : c'.freed = c.freed) (hlog : c'.log = c.log)
    (hwithin : Within c.g.activeDb c'.place.cursor)
    (hpoll : c'.place = .poll → c.g.interrupt = [])
    (hcall : ∀ t ∈ c.g.activeDb, hasHook (c.g.svc t).currentState = true →
      c.place.willCall c.g.activeDb t → c'.place.willCall c.g.activeDb t) :
    LoopOk hasHook c' where
  nodup := by rw [hdb]; exact h.nodup
  allocated := by rw [hdb, hbrk]; exact h.allocated
  freed := by rw [hdb, hfreed]; exact h.freed
  within := by rw [hdb]; exact hwithin
  poll := by rw [hlist]; exact hpoll
  owed x hx t ht hhook howed := by
    rw [hsvc] at hhook howed
    rw [hlog] at howed
    rw [hdb] at ht
    rw [hlist, hdb]
    exact (h.owed x (hfreed ▸ hx) t ht hhook howed).imp_right (Or.imp_right (hcall t ht hhook))

lemma turn (hplace : ∀ t ∈ c.g.activeDb, ¬ c.place.willCall c.g.activeDb t) :
    LoopOk hasHook c.turn := by
  obtain ⟨svc, heq, hsvc⟩ := c.turn_frame
  rw [heq]
  refine h.move (fun s => ?_) rfl rfl rfl rfl rfl within_none (by simp) ?_
  · have hstate : (svc s).currentState = ((c.g.svc s).withTimes (svc s)).currentState :=
      congrArg ActiveType.currentState (hsvc s)
    exact hstate
  · exact fun t ht _ hcall => absurd hcall (hplace t ht)

lemma interrupt {g' : G} {phase : Phase}
    (hdb : g'.activeDb = c.g.activeDb) (hbrk : g'.brk = c.g.brk) (hphase : phase ≠ .idle) :
    LoopOk hasHook { c.update g' with place := .interrupt phase } where
  nodup := by simpa [MainLoop.update, hdb] using h.nodup
  allocated := by simpa [MainLoop.update, hdb, hbrk] using h.allocated
  freed := by simpa [MainLoop.update, hdb] using h.freed
  within := within_none
  poll hp := by cases hp
  owed _ _ _ _ _ _ := .inr (.inr hphase)

lemma walk {current : Sid} (hplace : c.place = .walk (some current))
    (sleeps : Bool) : LoopOk hasHook (c.advance hasHook sleeps) := by
  have hmem : current ∈ c.g.activeDb := h.within current (by rw [hplace]; rfl)
  have hpassed (t : Sid) (hne : t ≠ current) (hcall : c.place.willCall c.g.activeDb t) :
      t ∉ passed c.g.activeDb (ListCursor.next c.g.activeDb current) := by
    rw [hplace] at hcall
    rw [passed_next h.nodup hmem]
    rw [mem_append, mem_singleton]
    exact not_or.mpr ⟨hcall, hne⟩
  simp only [MainLoop.advance, hplace]
  split
  next hhook =>
    refine ⟨h.nodup, h.allocated, h.freed, within_next, by simp, ?_⟩
    intro x hx t ht hthook howed
    have hne : t ≠ current := fun he => howed.1 ⟨he.symm, by rw [he]⟩
    exact (h.owed x hx t ht hthook howed.2).imp_right (Or.imp_right (hpassed t hne))
  next hhook =>
    refine h.move (fun _ => rfl) rfl rfl rfl rfl rfl within_next (by simp) ?_
    intro t ht hthook hcall
    exact hpassed t (fun he => hhook (he ▸ hthook)) hcall

lemma cleanDown (hplace : c.place = .cleanDown) (l : List Sid) :
    LoopOk hasHook (c.cleanDown l) ∧ (c.cleanDown l).place = .cleanDown := by
  refine MainLoop.cleanDown_induction (P := fun c => LoopOk hasHook c ∧ c.place = .cleanDown)
    (fun c s _ hc _ => ⟨hc.1.free ?_ ?_ ?_, hc.2⟩) ⟨h, hplace⟩
  all_goals simp [hc.2, Place.willCall, Place.cursor]

end

end LoopOk

lemma Core.advance_frame (c : Core) : c.advance.g.activeDb = c.g.activeDb ∧
    c.advance.g.brk = c.g.brk ∧
    (c.phase ≠ .idle → c.phase ≠ .handlers → c.advance.phase ≠ .idle) := by
  obtain ⟨phase, g⟩ := c
  cases phase with
  | idle => cases hlist : g.interrupt <;> simp [Core.advance, hlist]
  | next service => cases service <;> simp [Core.advance]
  | stateChange service state safe =>
    simp only [Core.advance]
    split_ifs <;> simp [commonStateUnlock_activeDb, commonStateUnlock_brk]
  | isChange service safe =>
    simp only [Core.advance]
    repeat' split
    all_goals simp [commonStateUnlock_activeDb, commonStateUnlock_brk]
  | restarting rest safe =>
    cases rest with
    | nil => simp [Core.advance]
    | cons current rest =>
      simp only [Core.advance]
      split_ifs <;> simp [dataRemove]
  | init | handlers => simp [Core.advance]

lemma LoopOk.advance {hasHook : AState → Bool} {c : MainLoop} (h : LoopOk hasHook c)
    (sleeps : Bool) : LoopOk hasHook (c.advance hasHook sleeps) := by
  obtain ⟨place, g, now, freed, log⟩ := c
  have hmove (place' : Place) (hcursor : place'.cursor = none)
      (hpoll : place' = .poll → g.interrupt = [])
      (hcall : ∀ t, place.willCall g.activeDb t → place'.willCall g.activeDb t) :
      LoopOk hasHook ⟨place', g, now, freed, log⟩ := by
    refine h.move (fun _ => rfl) rfl rfl rfl rfl rfl ?_ hpoll fun t _ _ => hcall t
    rw [hcursor]
    exact within_none
  cases place with
  | alarms => exact hmove .signals rfl (by simp) fun _ => False.elim
  | signals => exact hmove .mainEvent rfl (by simp) fun _ => False.elim
  | mainEvent =>
    simp only [MainLoop.advance]
    split
    · exact hmove .quit rfl (by simp) fun _ => False.elim
    · exact hmove .cleanDown rfl (by simp) fun _ => False.elim
  | quit =>
    exact h.move (fun _ => rfl) rfl rfl rfl rfl rfl within_none nofun
      fun _ _ _ => False.elim
  | whenOut => exact h.turn fun _ _ => id
  | cleanDown =>
    obtain ⟨hclean, hplace⟩ := h.cleanDown rfl g.activeDb
    refine hclean.move (fun _ => rfl) rfl rfl rfl rfl rfl within_none nofun ?_
    rw [hplace]
    exact fun _ _ _ => False.elim
  | interrupt phase =>
    cases phase with
    | idle =>
      simp only [MainLoop.advance]
      cases hlist : g.interrupt with
      | nil =>
        dsimp only
        split
        · exact hmove .poll rfl (fun _ => hlist) fun _ hcall => absurd rfl hcall
        · exact h.turn fun _ _ hcall => hcall rfl
      | cons service rest => exact hmove _ rfl (by simp) fun _ _ hp => by cases hp
    | handlers =>
      refine h.move (fun _ => rfl) rfl rfl rfl rfl rfl within_head nofun ?_
      intro t _ _ _
      simp [MainLoop.advance, Place.willCall, passed_head]
    | next service | stateChange service state safe | isChange service safe
    | restarting rest safe | init safe =>
      obtain ⟨hdb, hbrk, hphase⟩ := Core.advance_frame ⟨_, g⟩
      exact h.interrupt hdb hbrk (hphase (by simp) (by simp))
  | walk current =>
    cases current with
    | none => exact h.turn fun t ht hcall => hcall ht
    | some current => exact h.walk rfl sleeps
  | hook current q =>
    exact h.move (fun _ => rfl) rfl rfl rfl rfl rfl h.within nofun fun _ _ _ hcall => hcall
  | poll => exact hmove .io rfl (by simp) fun _ => False.elim
  | io => exact h.turn fun _ _ => id

lemma LoopOk.apply {hasHook : AState → Bool} {c : MainLoop} (h : LoopOk hasHook c)
    (step : LoopStep) : LoopOk hasHook (step.apply hasHook c) := by
  have hpoll (hrun : c.place.runsHooks = true) : c.place ≠ .poll := by
    rintro hp
    simp [hp, Place.runsHooks] at hrun
  cases step with
  | act a =>
    simp only [LoopStep.apply]
    split
    next hs =>
      cases a with
      | register s =>
        simp only [Act.applyG]
        split
        next hlt => exact h.register hlt (hs.2.1 s rfl) hs.2.2 (hpoll hs.1)
        next => exact h.update (.refl _) (hpoll hs.1)
      | _ => exact h.update (.act (by simp)) (hpoll hs.1)
    next => exact h
  | restart m fuel s =>
    simp only [LoopStep.apply]
    split
    next hs =>
      cases hrun : handlerRestartService m.toModules fuel s c.g with
      | none => exact h
      | some r =>
        have hupdate := h.update (.stops (stops_handlerRestartService m fuel hs.2 hrun)) (hpoll hs.1)
        dsimp only
        split
        · exact ⟨hupdate.nodup, hupdate.allocated, hupdate.freed, hupdate.within, hupdate.poll,
            hupdate.owed⟩
        · exact hupdate
    next => exact h
  | free s =>
    simp only [LoopStep.apply]
    split
    next hs =>
      have hplace := hs.1
      refine h.free (fun l t => ?_) ?_ fun hp => ?_
      · revert hplace
        cases c.place <;> simp [Place.frees, Place.willCall]
      · revert hplace
        cases c.place <;> simp [Place.frees, Place.cursor]
      · simp [hp, Place.frees] at hplace
    next => exact h
  | tick now => exact h.move (fun _ => rfl) rfl rfl rfl rfl rfl h.within h.poll fun _ _ _ => id
  | advance sleeps => exact h.advance sleeps

lemma loopOk_start (hasHook : AState → Bool) (now : Timeval) : LoopOk hasHook (.start now) where
  nodup := nodup_nil
  allocated _ hs := absurd hs not_mem_nil
  freed _ hs := absurd hs not_mem_nil
  within := within_none
  poll hp := by cases hp
  owed _ _ _ ht := absurd ht not_mem_nil

/-- Whenever the main loop goes to sleep, no service waits to be handled, and since the last
time that any registered service has entered a state the interrupt hook of every registered
service whose state has one was called. -/
theorem poll_hooks_called (hasHook : AState → Bool) (now : Timeval) (steps : List LoopStep) :
    let c := run (LoopStep.apply hasHook) steps (.start now)
    c.place = .poll → c.g.interrupt = [] ∧
      ∀ x ∈ c.g.activeDb, ∀ t ∈ c.g.activeDb, hasHook (c.g.svc t).currentState = true →
        ∀ state l₁ l₂, c.log = l₁ ++ .changed x state :: l₂ →
          .called t (c.g.svc t).currentState ∈ l₁ := by
  intro c hplace
  have h : LoopOk hasHook c := invariant (fun _ step h => h.apply step) steps (loopOk_start hasHook now)
  have hempty := h.poll hplace
  refine ⟨hempty, fun x hx t ht hhook state l₁ l₂ hlog => ?_⟩
  have hlive : x ∉ c.freed := fun hf => h.freed x hf hx
  have hpaid : ¬ Owed x t (c.g.svc t).currentState (l₁ ++ .changed x state :: l₂) := by
    rw [← hlog]
    intro howed
    rcases h.owed x hlive t ht hhook howed with hin | hin | hcall
    · simp [hempty] at hin
    · simp [hempty] at hin
    · simp [hplace, Place.willCall] at hcall
  exact called_of_not_owed hpaid

def waitingHook (st : AState) : Bool := st = .daemonWaitingForStartDep

def wokenDaemon : List LoopStep :=
  [.act (.new "a"), .act (.setup 0 (some ⟨"daemon"⟩) []), .act (.register 0),
    .act (.mark 0 .daemonWaitingForStartDep)] ++ replicate 20 (.advance true)

theorem poll_hooks_called_daemon :
    let c := run (LoopStep.apply waitingHook) wokenDaemon (.start ⟨0, 0⟩)
    c.place = .poll ∧
      c.log = [.called 0 .daemonWaitingForStartDep, .changed 0 .daemonWaitingForStartDep] ∧
      c.g.interrupt = [] ∧
      ∀ x ∈ c.g.activeDb, ∀ t ∈ c.g.activeDb, waitingHook (c.g.svc t).currentState = true →
        ∀ state l₁ l₂, c.log = l₁ ++ .changed x state :: l₂ →
          .called t (c.g.svc t).currentState ∈ l₁ := by
  refine ⟨?_, ?_, poll_hooks_called waitingHook ⟨0, 0⟩ wokenDaemon ?_⟩
  all_goals decide +kernel

end Initng
