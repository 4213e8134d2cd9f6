import Initng.ListCursor
import Initng.State
import Initng.StepRun

/-! `handler/run_alarm.c`. -/

namespace Initng

open StepRun List ListCursor

inductive AlarmPhase
  | outside
  | walk (current : Option Sid)
  | hook (q : Option Sid)
  deriving DecidableEq

structure Alarms where
  g : G
  now : Int
  nextAlarm : Int
  phase : AlarmPhase

namespace Alarms

def alarm (c : Alarms) (s : Sid) : Int := (c.g.svc s).alarm

def setAlarm (service : Sid) (seconds : Int) (c : Alarms) : Alarms :=
  let alarm := c.now + seconds
  { c with
    g := c.g.modify service fun a => { a with alarm := alarm }
    nextAlarm := if c.nextAlarm = 0 ∨ alarm < c.nextAlarm then alarm else c.nextAlarm }

def runAlarm (c : Alarms) : Alarms := { c with nextAlarm := 0, phase := .walk c.g.activeDb.head? }

/-- `initng_handler_run_alarm` goes on to the next place where a hook runs, or to the next
service; `hasHook` tells which states have an alarm hook. -/
def advance (hasHook : AState → Bool) (c : Alarms) : Alarms :=
  match c.phase with
  | .outside => c
  | .walk none => { c with phase := .outside }
  | .walk (some current) =>
    let q := ListCursor.next c.g.activeDb current
    if c.alarm current = 0 then { c with phase := .walk q }
    else if c.now ≥ c.alarm current then
      { c with
        g := c.g.modify current fun a => { a with alarm := 0 }
        phase := if hasHook (c.g.svc current).currentState then .hook q else .walk q }
    else
      { c with
        nextAlarm :=
          if c.alarm current < c.nextAlarm ∨ c.nextAlarm = 0 then c.alarm current
          else c.nextAlarm
        phase := .walk q }
  | .hook q => { c with phase := .walk q }

end Alarms

inductive AlarmStep
  | tick (now : Int)
  | setAlarm (service : Sid) (seconds : Int)
  | mark (service : Sid) (state : AState)
  | lock (service : Sid)
  | unlock (service : Sid)
  | new (name : String)
  | register (service : Sid)
  | runAlarm
  | advance
  deriving DecidableEq

/-- The steps need the memory of the service to be allocated, and only one call of
`initng_handler_run_alarm` runs at a time. -/
def AlarmStep.apply (hasHook : AState → Bool) : AlarmStep → Alarms → Alarms
  | tick now, c => if c.phase = .outside then { c with now := now } else c
  | setAlarm s seconds, c => if s < c.g.brk then c.setAlarm s seconds else c
  | mark s state, c => if s < c.g.brk then { c with g := (commonMarkService s state c.g).2 } else c
  | lock s, c => if s < c.g.brk then { c with g := commonStateLock s c.g } else c
  | unlock s, c => if s < c.g.brk then { c with g := (commonStateUnlock s c.g).2 } else c
  | new name, c => { c with g := (activeDbNew name c.g).2 }
  | register s, c => if s < c.g.brk then { c with g := (activeDbRegister s c.g).2 } else c
  | runAlarm, c => if c.phase = .outside then c.runAlarm else c
  | advance, c => c.advance hasHook

def Alarms.start (now : Int) : Alarms := ⟨configGlobalNew ⟨now, 0⟩, now, 0, .outside⟩

def Alarms.Covers (c : Alarms) (s : Sid) : Prop :=
  c.alarm s ≠ 0 → c.nextAlarm ≠ 0 ∧ c.nextAlarm ≤ c.alarm s

instance (c : Alarms) (s : Sid) : Decidable (c.Covers s) :=
  inferInstanceAs (Decidable (c.alarm s ≠ 0 → c.nextAlarm ≠ 0 ∧ c.nextAlarm ≤ c.alarm s))

def AlarmStep.Positive (c : Alarms) : AlarmStep → Prop
  | setAlarm _ seconds => 0 < c.now + seconds
  | _ => True

def AlarmStep.RegistersCovered (c : Alarms) : AlarmStep → Prop
  | register s => c.Covers s
  | _ => True

instance (c : Alarms) : ∀ step, Decidable (AlarmStep.Positive c step)
  | .setAlarm _ seconds => inferInstanceAs (Decidable (0 < c.now + seconds))
  | .tick _ | .mark _ _ | .lock _ | .unlock _ | .new _ | .register _ | .runAlarm | .advance =>
    instDecidableTrue

instance (c : Alarms) : ∀ step, Decidable (AlarmStep.RegistersCovered c step)
  | .register s => inferInstanceAs (Decidable (c.Covers s))
  | .tick _ | .setAlarm _ _ | .mark _ _ | .lock _ | .unlock _ | .new _ | .runAlarm | .advance =>
    instDecidableTrue

section
variable (g : G) (s t : Sid)

def AlarmsKept (g g' : G) : Prop := ∀ t, (g'.svc t).alarm = (g.svc t).alarm ∨ (g'.svc t).alarm = 0

lemma AlarmsKept.modify {s : Sid} {f : ActiveType → ActiveType}
    (h : ∀ a, (f a).alarm = a.alarm ∨ (f a).alarm = 0) : AlarmsKept g (g.modify s f) := by
  intro t
  by_cases hts : t = s
  · subst hts
    simpa using h (g.svc t)
  · left
    simp [hts]

lemma AlarmsKept.trans {g g' g'' : G} (h : AlarmsKept g g') (h' : AlarmsKept g' g'') :
    AlarmsKept g g'' := by
  intro t
  rcases h' t with h' | h'
  · rw [h']
    exact h t
  · exact .inr h'

lemma commonStateUnlock_alarms : AlarmsKept g (commonStateUnlock s g).2 := by
  have hdown : AlarmsKept g (g.modify s fun a =>
      { a with stateLock := (g.svc s).stateLock - 1 }) :=
    .modify g fun _ => .inl rfl
  unfold commonStateUnlock
  dsimp only
  split
  · exact hdown
  · split
    · exact hdown
    · intro t
      rw [setInterrupt_svc]
      exact hdown.trans (.modify _ fun _ => .inr rfl) t

lemma commonMarkService_alarms (st : AState) : AlarmsKept g (commonMarkService s st g).2 := by
  have hnext (next : Option AState) : AlarmsKept g (g.modify s fun a => { a with nextState := next }) :=
    .modify g fun _ => .inl rfl
  unfold commonMarkService
  split
  · exact fun _ => .inl rfl
  split
  · exact hnext none
  · dsimp only
    split
    · exact (hnext _).trans (commonStateUnlock_alarms _ s)
    · exact hnext _

end

def AlarmPhase.cursor : AlarmPhase → Option Sid
  | outside => none
  | walk current => current
  | hook q => q

structure AlarmsOk (c : Alarms) : Prop where
  nodup : c.g.activeDb.Nodup
  allocated : ∀ s ∈ c.g.activeDb, s < c.g.brk
  within : Within c.g.activeDb c.phase.cursor
  covered : ∀ s ∈ passed c.g.activeDb c.phase.cursor, c.Covers s

namespace AlarmsOk

variable {c : Alarms} {s : Sid}

lemma frame (h : AlarmsOk c) {g' : G} (hdb : g'.activeDb = c.g.activeDb)
    (hbrk : g'.brk = c.g.brk) (halarm : AlarmsKept c.g g') : AlarmsOk { c with g := g' } where
  nodup := by simpa [hdb] using h.nodup
  allocated := by simpa [hdb, hbrk] using h.allocated
  within := by simpa [hdb] using h.within
  covered t ht hset := by
    have ht : t ∈ passed c.g.activeDb c.phase.cursor := by simpa [hdb] using ht
    rcases halarm t with he | he
    · simp only [Alarms.alarm, he] at hset ⊢
      exact h.covered t ht hset
    · exact absurd he hset

lemma new (h : AlarmsOk c) (name : String) : AlarmsOk { c with g := (activeDbNew name c.g).2 } where
  nodup := h.nodup
  allocated t ht := Nat.lt_succ_of_lt (h.allocated t ht)
  within := h.within
  covered t ht hset := by
    have hlt := h.allocated t (mem_of_mem_passed ht)
    have hsvc : ((activeDbNew name c.g).2).svc t = c.g.svc t := by
      simp [activeDbNew, Nat.ne_of_lt hlt]
    simp only [Alarms.alarm, hsvc] at hset ⊢
    exact h.covered t ht hset

lemma register (h : AlarmsOk c) (hs : s < c.g.brk) (hcov : c.Covers s) :
    AlarmsOk { c with g := (activeDbRegister s c.g).2 } := by
  rcases activeDbRegister_cases s c.g with heq | ⟨hnot, heq⟩
  · rwa [heq]
  · rw [heq]
    refine ⟨nodup_append_singleton h.nodup hnot, fun t ht => ?_, h.within.append, fun t ht => ?_⟩
    · rcases mem_append.mp ht with ht | ht
      · exact h.allocated t ht
      · rw [mem_singleton.mp ht]
        exact hs
    · rcases mem_passed_append h.within ht with ht | ⟨-, ht⟩
      · exact h.covered t ht
      · rw [mem_singleton.mp ht]
        exact hcov

lemma lower (h : c.Covers s) {next : Int} (hset : next ≠ 0)
    (hle : c.nextAlarm ≠ 0 → next ≤ c.nextAlarm) :
    ({ c with nextAlarm := next } : Alarms).Covers s := by
  intro halarm
  obtain ⟨hne, hcov⟩ := h halarm
  exact ⟨hset, Int.le_trans (hle hne) hcov⟩

section
variable (h : AlarmsOk c)
include h

lemma setAlarm (s : Sid) {seconds : Int} (hpos : 0 < c.now + seconds) :
    AlarmsOk (c.setAlarm s seconds) where
  nodup := h.nodup
  allocated := h.allocated
  within := h.within
  covered t ht := by
    by_cases hts : t = s
    · subst hts
      intro _
      simp only [Alarms.setAlarm, Alarms.alarm, G.modify_svc_self]
      split <;> omega
    · have halarm : (c.setAlarm s seconds).alarm t = c.alarm t := by
        simp [Alarms.setAlarm, Alarms.alarm, hts]
      have hnext : (c.setAlarm s seconds).nextAlarm ≠ 0 ∧
          (c.nextAlarm ≠ 0 → (c.setAlarm s seconds).nextAlarm ≤ c.nextAlarm) := by
        simp only [Alarms.setAlarm]
        split <;> omega
      have hlow := lower (h.covered t ht) hnext.1 hnext.2
      intro hset
      rw [halarm] at hset ⊢
      exact hlow hset

lemma runAlarm : AlarmsOk c.runAlarm where
  nodup := h.nodup
  allocated := h.allocated
  within := within_head
  covered t ht := by
    simp [Alarms.runAlarm, AlarmPhase.cursor, passed_head] at ht

lemma pass {current : Sid} (hp : c.phase = .walk (some current))
    {phase : AlarmPhase} (hphase : phase.cursor = ListCursor.next c.g.activeDb current)
    (hcov : c.Covers current) : AlarmsOk { c with phase := phase } where
  nodup := h.nodup
  allocated := h.allocated
  within := by
    rw [hphase]
    exact within_next
  covered t ht := by
    have hmem : current ∈ c.g.activeDb := h.within current (by rw [hp]; rfl)
    have hpassed := passed_next h.nodup hmem
    dsimp only at ht
    rw [hphase, hpassed] at ht
    rcases mem_append.mp ht with ht | ht
    · exact h.covered t (by rw [hp]; exact ht)
    · rw [mem_singleton.mp ht]
      exact hcov

lemma advance (hasHook : AState → Bool) : AlarmsOk (c.advance hasHook) := by
  unfold Alarms.advance
  cases hp : c.phase with
  | outside => exact h
  | hook q =>
    have hw := h.within
    have hcov := h.covered
    rw [hp] at hw hcov
    exact ⟨h.nodup, h.allocated, hw, hcov⟩
  | walk current =>
    cases current with
    | none =>
      have hcov := h.covered
      rw [hp] at hcov
      exact ⟨h.nodup, h.allocated, within_none, hcov⟩
    | some current =>
      dsimp only
      split
      next hunset => exact h.pass hp rfl fun hset => absurd hunset hset
      next hset =>
        split
        next hdue =>
          -- the alarm is reset before the hook runs
          have hreset : AlarmsOk { c with g := c.g.modify current fun a => { a with alarm := 0 } } :=
            h.frame rfl rfl (.modify _ fun _ => .inr rfl)
          refine hreset.pass hp ?_ fun hne => absurd (by simp [Alarms.alarm]) hne
          dsimp only
          split <;> rfl
        next hlater =>
          generalize hnext : (if c.alarm current < c.nextAlarm ∨ c.nextAlarm = 0
            then c.alarm current else c.nextAlarm) = next
          obtain ⟨hne, hle, hcur⟩ : next ≠ 0 ∧ (c.nextAlarm ≠ 0 → next ≤ c.nextAlarm) ∧
              next ≤ c.alarm current := by
            rw [← hnext]
            split <;> omega
          have hlow : AlarmsOk { c with nextAlarm := next } :=
            ⟨h.nodup, h.allocated, h.within, fun t ht => lower (h.covered t ht) hne hle⟩
          exact hlow.pass hp rfl fun _ => ⟨hne, hcur⟩

lemma step (hasHook : AState → Bool) {step : AlarmStep}
    (hpos : step.Positive c) (hreg : step.RegistersCovered c) :
    AlarmsOk (step.apply hasHook c) := by
  cases step with
  | tick now =>
    rw [AlarmStep.apply]
    split
    · exact ⟨h.nodup, h.allocated, h.within, h.covered⟩
    · exact h
  | setAlarm s seconds =>
    rw [AlarmStep.apply]
    split
    · exact h.setAlarm s hpos
    · exact h
  | mark s st =>
    rw [AlarmStep.apply]
    split
    · exact h.frame (commonMarkService_activeDb ..) (commonMarkService_brk ..)
        (commonMarkService_alarms c.g s st)
    · exact h
  | lock s =>
    rw [AlarmStep.apply]
    split
    · exact h.frame rfl rfl (.modify _ fun _ => .inl rfl)
    · exact h
  | unlock s =>
    rw [AlarmStep.apply]
    split
    · exact h.frame (commonStateUnlock_activeDb ..) (commonStateUnlock_brk ..)
        (commonStateUnlock_alarms c.g s)
    · exact h
  | new name => exact h.new name
  | register s =>
    rw [AlarmStep.apply]
    split
    next hs => exact h.register hs hreg
    next => exact h
  | runAlarm =>
    rw [AlarmStep.apply]
    split
    · exact h.runAlarm
    · exact h
  | advance => exact h.advance hasHook

end

end AlarmsOk

lemma alarmsOk_start (now : Int) : AlarmsOk (Alarms.start now) :=
  ⟨nodup_nil, fun _ h => absurd h not_mem_nil, within_none, fun _ h => absurd h not_mem_nil⟩

theorem alarms_scheduled (hasHook : AState → Bool) (now : Int) (steps : List AlarmStep)
    (hpos : Along (AlarmStep.apply hasHook) AlarmStep.Positive (.start now) steps)
    (hreg : Along (AlarmStep.apply hasHook) AlarmStep.RegistersCovered (.start now) steps) :
    let c := run (AlarmStep.apply hasHook) steps (.start now)
    c.phase = .outside → ∀ s ∈ c.g.activeDb, c.alarm s ≠ 0 →
      c.nextAlarm ≠ 0 ∧ c.nextAlarm ≤ c.alarm s := by
  intro c houtside s hs
  have h : AlarmsOk c := (hpos.and hreg).invariant
    (fun c step h hstep => h.step hasHook hstep.1 hstep.2) (alarmsOk_start now)
  exact h.covered s (by rw [houtside]; exact hs)

def keptAlarm : List AlarmStep :=
  [.new "a", .register 0, .setAlarm 0 10, .runAlarm, .advance, .advance]

theorem alarms_scheduled_kept :
    let c := run (AlarmStep.apply fun _ => true) keptAlarm (.start 100)
    c.alarm 0 = 110 ∧ c.nextAlarm ≠ 0 ∧ c.nextAlarm ≤ c.alarm 0 :=
  ⟨by decide +kernel, alarms_scheduled (fun _ => true) 100 keptAlarm (by decide +kernel)
    (by decide +kernel) (by decide +kernel) 0 (by decide +kernel) (by decide +kernel)⟩

def unseenAlarm : List AlarmStep := [.new "a", .setAlarm 0 10, .runAlarm, .advance, .register 0]

theorem alarms_unscheduled_unregistered :
    ¬ ∀ (hasHook : AState → Bool) (now : Int) (steps : List AlarmStep),
      Along (AlarmStep.apply hasHook) AlarmStep.Positive (.start now) steps →
      let c := run (AlarmStep.apply hasHook) steps (.start now)
      c.phase = .outside → ∀ s ∈ c.g.activeDb, c.alarm s ≠ 0 →
        c.nextAlarm ≠ 0 ∧ c.nextAlarm ≤ c.alarm s := by
  intro h
  have hcov := h (fun _ => true) 100 unseenAlarm (by decide +kernel) (by decide +kernel) 0
    (by decide +kernel) (by decide +kernel)
  exact absurd hcov (by decide +kernel)

end Initng
