import Initng.Alarm

/-! `active_db/compensate_time.c`. -/

namespace Initng

open ListCursor

def Timeval.addSec (skew : Int) (t : Timeval) : Timeval := { t with tvSec := t.tvSec + skew }

def ActiveType.compensateTime (skew : Int) (a : ActiveType) : ActiveType :=
  { a with
    timeCurrentState := a.timeCurrentState.addSec skew
    timeLastState := a.timeLastState.addSec skew
    lastRoughtTime := a.lastRoughtTime.addSec skew
    alarm := a.alarm + skew }

def activeDbCompensateTime (skew : Int) (g : G) : G :=
  g.activeDb.foldl (fun g current => g.modify current (ActiveType.compensateTime skew)) g

namespace Alarms

def readTime (last now : Int) (c : Alarms) : Alarms :=
  if now - last ≥ 3600 ∨ now - last < 0 then
    { c with now := now, g := activeDbCompensateTime (now - last) c.g }
  else { c with now := now }

def Due (hasHook : AState → Bool) (c : Alarms) (s : Sid) : Prop :=
  c.alarm s ≠ 0 ∧ c.alarm s ≤ c.now ∧ hasHook (c.g.svc s).currentState = true

end Alarms

def ActiveType.withTimes (a times : ActiveType) : ActiveType :=
  { a with
    timeCurrentState := times.timeCurrentState
    timeLastState := times.timeLastState
    lastRoughtTime := times.lastRoughtTime
    alarm := times.alarm }

@[simp] lemma ActiveType.withTimes_withTimes (a b c : ActiveType) :
    (a.withTimes b).withTimes c = a.withTimes c := rfl

structure Alarms.Agree (hasHook : AState → Bool) (c c' : Alarms) : Prop where
  phase : c'.phase = c.phase
  system : c'.g = { c.g with svc := c'.g.svc, clock := c'.g.clock }
  service : ∀ s, c'.g.svc s = (c.g.svc s).withTimes (c'.g.svc s)
  due : ∀ s ∈ c.g.activeDb, c'.Due hasHook s ↔ c.Due hasHook s

def Alarms.callHook (f : Sid → Alarms → Alarms) (s : Sid) (c : Alarms) : Alarms :=
  { f s c with now := c.now, phase := c.phase }

/-- The alarm hooks of the states.  They may change any service, but they free none, and what
they do does not depend on how late it is. -/
structure AlarmHooks where
  hook : AState → Option (Sid → Alarms → Alarms)
  grows : ∀ {state f}, hook state = some f → ∀ s c,
    ∃ l, (Alarms.callHook f s c).g.activeDb = c.g.activeDb ++ l
  agree : ∀ {state f}, hook state = some f → ∀ s {c c'},
    Alarms.Agree (fun state => (hook state).isSome) c c' →
      Alarms.Agree (fun state => (hook state).isSome) (.callHook f s c) (.callHook f s c')

namespace AlarmHooks

variable (h : AlarmHooks)

def hasHook (state : AState) : Bool := (h.hook state).isSome

def step (c : Alarms) : Option Sid × Alarms :=
  let c' := c.advance h.hasHook
  match c.phase with
  | .walk (some current) =>
    match c'.phase, h.hook (c.g.svc current).currentState with
    | .hook _, some f => (some current, .callHook f current c')
    | _, _ => (none, c')
  | _ => (none, c')

def calls : ℕ → Alarms → List Sid
  | 0, _ => []
  | n + 1, c => (h.step c).1.toList ++ calls n (h.step c).2

def runs (n : ℕ) (c : Alarms) : List Sid :=
  if c.nextAlarm ≠ 0 ∧ c.nextAlarm ≤ c.now then h.calls n c.runAlarm else []

end AlarmHooks

def ActiveType.unsetAlarm (a : ActiveType) : ActiveType := { a with alarm := 0 }

namespace Alarms

variable {c c' : Alarms} {current t : Sid} {hasHook : AState → Bool}

lemma advance_now : (c.advance hasHook).now = c.now := by
  unfold advance
  split
  case h_3 =>
    dsimp only
    split
    · rfl
    · split <;> rfl
  all_goals rfl

lemma advance_g (hasHook : AState → Bool) (c : Alarms) : (c.advance hasHook).g = c.g ∨
    ∃ current, c.phase = .walk (some current) ∧
      (c.advance hasHook).g = c.g.modify current ActiveType.unsetAlarm := by
  unfold advance
  split
  case h_3 current hp =>
    dsimp only
    split
    · exact .inl rfl
    · split
      · exact .inr ⟨current, hp, rfl⟩
      · exact .inl rfl
  all_goals exact .inl rfl

lemma advance_activeDb : (c.advance hasHook).g.activeDb = c.g.activeDb := by
  rcases advance_g hasHook c with hg | ⟨current, -, hg⟩
  · rw [hg]
  · rw [hg, G.modify_activeDb]

lemma advance_withTimes (hasHook : AState → Bool) (c : Alarms) (t : Sid) (times : ActiveType) :
    ((c.advance hasHook).g.svc t).withTimes times = (c.g.svc t).withTimes times := by
  rcases advance_g hasHook c with hg | ⟨current, -, hg⟩
  · rw [hg]
  · rw [hg]
    by_cases ht : t = current
    · subst ht
      rw [G.modify_svc_self]
      rfl
    · rw [G.modify_svc_ne _ _ _ _ ht]

section
variable (hp : c.phase = .walk (some current))
include hp

lemma advance_phase_of_due (hdue : c.Due hasHook current) :
    (c.advance hasHook).phase = .hook (ListCursor.next c.g.activeDb current) := by
  obtain ⟨hset, hle, hhook⟩ := hdue
  simp [advance, hp, hset, hle, hhook]

lemma advance_g_of_due (hdue : c.Due hasHook current) :
    (c.advance hasHook).g = c.g.modify current ActiveType.unsetAlarm := by
  obtain ⟨hset, hle, -⟩ := hdue
  rw [advance, hp]
  simp only [hset, hle, if_true, if_false]
  rfl

lemma advance_phase_of_not_due
    (hnot : ¬ c.Due hasHook current) :
    (c.advance hasHook).phase = .walk (ListCursor.next c.g.activeDb current) := by
  unfold advance
  rw [hp]
  dsimp only
  split
  next => rfl
  next hset =>
    split
    next hle =>
      have hhook : ¬ hasHook (c.g.svc current).currentState = true :=
        fun hhook => hnot ⟨hset, hle, hhook⟩
      exact if_neg hhook
    next => rfl

lemma advance_due : (c.advance hasHook).Due hasHook t ↔ t ≠ current ∧ c.Due hasHook t := by
  by_cases ht : t = current
  · subst ht
    simp only [ne_eq, not_true, false_and, iff_false]
    have hreset (hg : (c.advance hasHook).g = c.g.modify t ActiveType.unsetAlarm) :
        ¬ (c.advance hasHook).Due hasHook t :=
      fun hdue => hdue.1 (by simp [alarm, hg, ActiveType.unsetAlarm])
    rcases advance_g hasHook c with hg | ⟨_, hp', hg⟩
    · intro hdue
      have hdue' : c.Due hasHook t := by
        rwa [Due, alarm, hg, advance_now] at hdue
      exact hreset (advance_g_of_due hp hdue') hdue
    · rw [hp] at hp'
      cases hp'
      exact hreset hg
  · have hsvc : (c.advance hasHook).g.svc t = c.g.svc t := by
      rcases advance_g hasHook c with hg | ⟨_, hp', hg⟩
      · rw [hg]
      · rw [hp] at hp'
        cases hp'
        rw [hg, G.modify_svc_ne _ _ _ _ ht]
    simp only [Due, alarm, hsvc, advance_now, ne_eq, ht, not_false_eq_true, true_and]

end

lemma advance_due_of_ne (hp : ∀ current, c.phase ≠ .walk (some current)) :
    (c.advance hasHook).Due hasHook t ↔ c.Due hasHook t := by
  rcases advance_g hasHook c with hg | ⟨current, h, -⟩
  · rw [Due, Due, alarm, alarm, hg, advance_now]
  · exact absurd h (hp current)

lemma advance_within (hasHook : AState → Bool)
    (hw : Within c.g.activeDb c.phase.cursor) :
    Within (c.advance hasHook).g.activeDb (c.advance hasHook).phase.cursor := by
  rw [advance_activeDb]
  cases hp : c.phase with
  | outside => simp [advance, hp, AlarmPhase.cursor, within_none]
  | hook q =>
    rw [hp] at hw
    simpa [advance, hp, AlarmPhase.cursor] using hw
  | walk current =>
    cases current with
    | none => simp [advance, hp, AlarmPhase.cursor, within_none]
    | some current =>
      by_cases hdue : c.Due hasHook current
      · rw [advance_phase_of_due hp hdue]
        exact within_next
      · rw [advance_phase_of_not_due hp hdue]
        exact within_next

end Alarms

namespace Alarms.Agree

variable {hasHook : AState → Bool} {c c' : Alarms}

lemma activeDb (h : Agree hasHook c c') : c'.g.activeDb = c.g.activeDb :=
  (congrArg G.activeDb h.system).trans rfl

lemma currentState (h : Agree hasHook c c') (s : Sid) :
    (c'.g.svc s).currentState = (c.g.svc s).currentState :=
  (congrArg ActiveType.currentState (h.service s)).trans rfl

lemma advance (h : Agree hasHook c c') (hw : Within c.g.activeDb c.phase.cursor) :
    Agree hasHook (c.advance hasHook) (c'.advance hasHook) where
  phase := by
    cases hp : c.phase with
    | outside | hook => simp [Alarms.advance, h.phase, hp]
    | walk current =>
      cases current with
      | none => simp [Alarms.advance, h.phase, hp]
      | some current =>
        have hp' := h.phase.trans hp
        have hiff := h.due current (hw current (by rw [hp]; rfl))
        by_cases hdue : c.Due hasHook current
        · rw [advance_phase_of_due hp hdue, advance_phase_of_due hp' (hiff.mpr hdue), h.activeDb]
        · rw [advance_phase_of_not_due hp hdue,
            advance_phase_of_not_due hp' (fun hdue' => hdue (hiff.mp hdue')), h.activeDb]
  system := by
    have hsys (svc : Sid → ActiveType) :
        { c'.g with svc := svc } = { c.g with svc := svc, clock := c'.g.clock } :=
      congrArg (fun g : G => { g with svc := svc }) h.system
    rcases advance_g hasHook c with hg | ⟨_, -, hg⟩ <;>
      rcases advance_g hasHook c' with hg' | ⟨_, -, hg'⟩ <;>
      rw [hg, hg'] <;> exact hsys _
  service s := by
    have hc' := advance_withTimes hasHook c' s ((c'.advance hasHook).g.svc s)
    rw [h.service s, ActiveType.withTimes_withTimes] at hc'
    rw [advance_withTimes]
    exact hc'
  due s hs := by
    rw [advance_activeDb] at hs
    by_cases hp : ∃ current, c.phase = .walk (some current)
    · obtain ⟨current, hp⟩ := hp
      rw [advance_due hp, advance_due (h.phase.trans hp), h.due s hs]
    · have hp : ∀ current, c.phase ≠ .walk (some current) := fun current e => hp ⟨current, e⟩
      rw [advance_due_of_ne hp, advance_due_of_ne (by rwa [h.phase]), h.due s hs]

end Alarms.Agree

namespace AlarmHooks

variable (h : AlarmHooks) {c c' : Alarms}

lemma step_cases (c : Alarms) : h.step c = (none, c.advance h.hasHook) ∧
      (∀ current, c.phase = .walk (some current) → ¬ c.Due h.hasHook current) ∨
    ∃ current f, c.phase = .walk (some current) ∧ c.Due h.hasHook current ∧
      h.hook (c.g.svc current).currentState = some f ∧
      h.step c = (some current, .callHook f current (c.advance h.hasHook)) := by
  by_cases hp : ∃ current, c.phase = .walk (some current)
  · obtain ⟨current, hp⟩ := hp
    by_cases hdue : c.Due h.hasHook current
    · obtain ⟨f, hf⟩ := Option.isSome_iff_exists.mp hdue.2.2
      refine .inr ⟨current, f, hp, hdue, hf, ?_⟩
      simp only [step, hp, Alarms.advance_phase_of_due hp hdue, hf]
    · refine .inl ⟨?_, fun t ht => ?_⟩
      · simp only [step, hp, Alarms.advance_phase_of_not_due hp hdue]
      · rw [hp] at ht
        cases ht
        exact hdue
  · refine .inl ⟨?_, fun current e => absurd ⟨current, e⟩ hp⟩
    unfold step
    split
    next current hp' => exact absurd ⟨current, hp'⟩ hp
    next => rfl

lemma step_within (hw : Within c.g.activeDb c.phase.cursor) :
    Within (h.step c).2.g.activeDb (h.step c).2.phase.cursor := by
  have hadv := Alarms.advance_within h.hasHook hw
  rcases h.step_cases c with ⟨hstep, -⟩ | ⟨current, f, -, -, hf, hstep⟩
  · rw [hstep]
    exact hadv
  · rw [hstep]
    obtain ⟨l, hl⟩ := h.grows hf current (c.advance h.hasHook)
    rw [hl]
    exact hadv.append

lemma step_agree (ha : Alarms.Agree h.hasHook c c')
    (hw : Within c.g.activeDb c.phase.cursor) :
    (h.step c').1 = (h.step c).1 ∧ Alarms.Agree h.hasHook (h.step c).2 (h.step c').2 := by
  have hadv := ha.advance hw
  rcases h.step_cases c with ⟨hstep, hnot⟩ | ⟨current, f, hp, hdue, hf, hstep⟩
  · rcases h.step_cases c' with ⟨hstep', -⟩ | ⟨current, f, hp', hdue', -, -⟩
    · rw [hstep, hstep']
      exact ⟨rfl, hadv⟩
    · have hp : c.phase = .walk (some current) := ha.phase.symm.trans hp'
      have hmem : current ∈ c.g.activeDb := hw current (by rw [hp]; rfl)
      exact absurd ((ha.due current hmem).mp hdue') (hnot current hp)
  · have hmem : current ∈ c.g.activeDb := hw current (by rw [hp]; rfl)
    have hp' : c'.phase = .walk (some current) := ha.phase.trans hp
    rcases h.step_cases c' with ⟨-, hnot'⟩ | ⟨current', f', hq, -, hf', hstep'⟩
    · exact absurd ((ha.due current hmem).mpr hdue) (hnot' current hp')
    · rw [hp'] at hq
      cases hq
      rw [ha.currentState, hf] at hf'
      cases hf'
      rw [hstep, hstep']
      exact ⟨rfl, h.agree hf current hadv⟩

lemma calls_agree (n : ℕ) (ha : Alarms.Agree h.hasHook c c')
    (hw : Within c.g.activeDb c.phase.cursor) : h.calls n c' = h.calls n c := by
  induction n generalizing c c' with
  | zero => rfl
  | succ n ih =>
    obtain ⟨hcall, hstep⟩ := h.step_agree ha hw
    rw [calls, calls, hcall, ih hstep (h.step_within hw)]

lemma calls_eq_nil (n : ℕ) (hw : Within c.g.activeDb c.phase.cursor)
    (hnone : ∀ s ∈ c.g.activeDb, ¬ c.Due h.hasHook s) : h.calls n c = [] := by
  induction n generalizing c with
  | zero => rfl
  | succ n ih =>
    rcases h.step_cases c with ⟨hstep, -⟩ | ⟨current, f, hp, hdue, -, -⟩
    · rw [calls, hstep, ih (Alarms.advance_within h.hasHook hw) fun s hs hdue => ?_]
      · rfl
      · rw [Alarms.advance_activeDb] at hs
        by_cases hp : ∃ current, c.phase = .walk (some current)
        · obtain ⟨current, hp⟩ := hp
          exact hnone s hs ((Alarms.advance_due hp).mp hdue).2
        · exact hnone s hs ((Alarms.advance_due_of_ne fun t e => hp ⟨t, e⟩).mp hdue)
    · exact absurd hdue (hnone current (hw current (by rw [hp]; rfl)))

lemma runs_eq (n : ℕ) (hcov : ∀ s ∈ c.g.activeDb, c.Covers s) :
    h.runs n c = h.calls n c.runAlarm := by
  rw [runs]
  split
  next => rfl
  next htest =>
    symm
    apply h.calls_eq_nil n within_head
    intro s hs hdue
    obtain ⟨hne, hle⟩ := hcov s hs hdue.1
    exact htest ⟨hne, Int.le_trans hle hdue.2.1⟩

end AlarmHooks

lemma compensate_foldl_svc (skew : Int) {l : List Sid} (hl : l.Nodup) (g : G) (s : Sid) :
    (l.foldl (fun g current => g.modify current (ActiveType.compensateTime skew)) g).svc s =
      if s ∈ l then (g.svc s).compensateTime skew else g.svc s := by
  induction l generalizing g with
  | nil => simp
  | cons current rest ih =>
    obtain ⟨hnot, hrest⟩ := List.nodup_cons.mp hl
    rw [List.foldl_cons, ih hrest]
    by_cases hs : s = current
    · subst hs
      simp [hnot]
    · simp [hs]

lemma compensate_foldl_system (skew : Int) (l : List Sid) (g : G) :
    ∃ svc, l.foldl (fun g current => g.modify current (ActiveType.compensateTime skew)) g =
      { g with svc := svc } ∧ ∀ s, svc s = (g.svc s).withTimes (svc s) := by
  induction l generalizing g with
  | nil => exact ⟨g.svc, rfl, fun _ => rfl⟩
  | cons current rest ih =>
    obtain ⟨svc, hsystem, hsvc⟩ := ih (g.modify current (ActiveType.compensateTime skew))
    refine ⟨svc, hsystem, fun s => (hsvc s).trans ?_⟩
    by_cases hs : s = current
    · subst hs
      simp [ActiveType.compensateTime, ActiveType.withTimes]
    · simp [hs]

section
variable {c : Alarms} {last d : Int} {s : Sid}

lemma Alarms.readTime_jump (hjump : d ≥ 3600 ∨ d < 0) :
    c.readTime last (last + d) = { c with now := last + d, g := activeDbCompensateTime d c.g } := by
  have hd : last + d - last = d := by omega
  rw [readTime, hd, if_pos hjump]

lemma Alarms.readTime_svc (hl : c.g.activeDb.Nodup) (hjump : d ≥ 3600 ∨ d < 0) (s : Sid) :
    (c.readTime last (last + d)).g.svc s =
      if s ∈ c.g.activeDb then (c.g.svc s).compensateTime d else c.g.svc s := by
  rw [readTime_jump hjump]
  exact compensate_foldl_svc d hl c.g s

lemma Alarms.readTime_alarm (last : Int) (hl : c.g.activeDb.Nodup)
    (hjump : d ≥ 3600 ∨ d < 0) (hs : s ∈ c.g.activeDb) : (c.readTime last (last + d)).alarm s = c.alarm s + d := by
  rw [alarm, readTime_svc hl hjump, if_pos hs]
  rfl

lemma Alarms.readTime_system (c : Alarms) (last : Int) (hjump : d ≥ 3600 ∨ d < 0) :
    ∃ svc, (c.readTime last (last + d)).g = { c.g with svc := svc } := by
  obtain ⟨svc, hsystem, -⟩ := compensate_foldl_system d c.g.activeDb c.g
  rw [readTime_jump hjump]
  exact ⟨svc, hsystem⟩

lemma Alarms.readTime_activeDb (hjump : d ≥ 3600 ∨ d < 0) :
    (c.readTime last (last + d)).g.activeDb = c.g.activeDb := by
  obtain ⟨svc, hsvc⟩ := readTime_system c last hjump
  rw [hsvc]

lemma Alarms.readTime_nextAlarm : (c.readTime last (last + d)).nextAlarm = c.nextAlarm := by
  unfold readTime
  split <;> rfl

end

/-- After a jump from `last` by `d` seconds the alarms are those of before, moved along, and
from then on the hooks of the same services run as would have run without it. -/
structure Translated (h : AlarmHooks) (last d : Int) (c c' : Alarms) : Prop where
  set_iff : ∀ s ∈ c.g.activeDb, c'.alarm s ≠ 0 ↔ c.alarm s ≠ 0
  moved : ∀ s ∈ c.g.activeDb, c.alarm s ≠ 0 → c'.alarm s = c.alarm s + d
  covered : ∀ s ∈ c'.g.activeDb, c'.Covers s
  schedule : ∀ k ≥ 0, ∀ n,
    h.runs n { c' with now := last + d + k } = h.runs n { c with now := last + k }

lemma Alarms.readTime_agree (hasHook : AState → Bool) {c : Alarms} (last : Int) {d : Int}
    (hl : c.g.activeDb.Nodup) (hjump : d ≥ 3600 ∨ d < 0)
    (hset : ∀ s ∈ c.g.activeDb, c.alarm s ≠ 0 ∧ c.alarm s ≠ -d) (k : Int) :
    Agree hasHook (runAlarm { c with now := last + k })
      (runAlarm { c.readTime last (last + d) with now := last + d + k }) where
  phase := by
    rw [runAlarm, runAlarm]
    exact congrArg (fun l : List Sid => AlarmPhase.walk l.head?) (readTime_activeDb hjump)
  system := by
    obtain ⟨svc, hsvc⟩ := readTime_system c last hjump
    simp only [runAlarm, hsvc]
  service s := by
    have hsvc : (runAlarm { c.readTime last (last + d) with now := last + d + k }).g.svc s =
        if s ∈ c.g.activeDb then (c.g.svc s).compensateTime d else c.g.svc s :=
      readTime_svc hl hjump s
    rw [hsvc]
    split <;> rfl
  due s hs := by
    have hs : s ∈ c.g.activeDb := hs
    obtain ⟨hne, hned⟩ := hset s hs
    have halarm := readTime_alarm last hl hjump hs
    have hstate : ((c.readTime last (last + d)).g.svc s).currentState =
        (c.g.svc s).currentState := by
      rw [readTime_svc hl hjump, if_pos hs]
      rfl
    simp only [alarm] at halarm hne hned
    simp only [Due, runAlarm, alarm, halarm, hstate]
    constructor
    · rintro ⟨-, hle, hhook⟩
      exact ⟨hne, by omega, hhook⟩
    · rintro ⟨-, hle, hhook⟩
      exact ⟨by omega, by omega, hhook⟩

def quietHooks : AlarmHooks where
  hook _ := some fun _ c => c
  grows hf _ c := by
    cases hf
    exact ⟨[], (List.append_nil _).symm⟩
  agree hf _ _ _ h := by
    cases hf
    exact h

def oneAlarm (alarm : Int) : Alarms :=
  ⟨G.ofServices .stateUp [{ ActiveType.ofName "a" ⟨0, 0⟩ with alarm := alarm }], 100, alarm,
    .outside⟩

end Initng
