import Initng.ClockSkew
import Initng.Interrupt

/-! `modules/history`. -/

open StepRun

namespace Initng

open List

structure HistoryH where
  service : Option Sid
  name : Option String
  duration : Int
  time : Timeval
  data : Option String
  action : Option AState
  origin : Sid

structure HistoryDb where
  list : List HistoryH
  records : ℕ

def historyMax : ℕ := 800

def addHist (hist : HistoryH) (db : HistoryDb) : HistoryDb :=
  if db.records + 1 > historyMax then ⟨(hist :: db.list).dropLast, db.records⟩
  else ⟨hist :: db.list, db.records + 1⟩

/-- The loop of `history_db_clear_service`: it leaves after the first record it clears. -/
def historyDbClearService (service : Sid) (name : String) : List HistoryH → List HistoryH
  | [] => []
  | current :: rest =>
    if current.service = some service then
      { current with service := none, name := some name } :: rest
    else current :: historyDbClearService service name rest

def stateRecord (service : Sid) (a : ActiveType) : HistoryH where
  service := some service
  name := none
  duration :=
    if a.lastState.isSome ∧ a.timeLastState.tvSec > 1 then
      a.timeCurrentState.tvSec - a.timeLastState.tvSec
    else 0
  time := a.timeCurrentState
  data := none
  action := some a.currentState
  origin := service

def historyAddValues (service : Sid) (g : G) (db : HistoryDb) : HistoryDb :=
  let db := addHist (stateRecord service (g.svc service)) db
  if (g.svc service).currentState = .freeing then
    { db with list := historyDbClearService service (g.svc service).name db.list }
  else db

def outputRecord (service : Sid) (bufferPos : String) (g : G) : HistoryH where
  service := some service
  name := none
  duration := 0
  time := g.clock
  data := some bufferPos
  action := none
  origin := service

def fetchOutput (service : Sid) (bufferPos : String) (g : G) (db : HistoryDb) : HistoryDb :=
  addHist (outputRecord service bufferPos g) db

def historyDbCompensateTime (skew : Int) (db : HistoryDb) : HistoryDb :=
  { db with list := db.list.map fun r => { r with time := r.time.addSec skew } }

structure Logged where
  core : Core
  freed : List Sid
  history : HistoryDb

namespace Logged

def start (now : Timeval) : Logged := ⟨⟨.idle, configGlobalNew now⟩, [], ⟨[], 0⟩⟩

/-- `initng_interrupt` goes on; `EVENT_STATE_CHANGE` is sent for the service it takes. -/
def advance (c : Logged) : Logged :=
  { c with
    core := c.core.advance
    history :=
      match c.core.phase with
      | .next (some service) => historyAddValues service c.core.advance.g c.history
      | _ => c.history }

end Logged

inductive HistoryStep
  | act (a : Act)
  | output (service : Sid) (bufferPos : String)
  | free (pf : Sid)
  | compensate (skew : Int)
  | tick (now : Timeval)

def HistoryStep.apply : HistoryStep → Logged → Logged
  | act .advance, c => c.advance
  | act a, c =>
    if ∀ s ∈ a.subject, s ∉ c.freed then { c with core := a.apply c.core } else c
  | output service bufferPos, c =>
    if service < c.core.g.brk ∧ service ∉ c.freed then
      { c with history := fetchOutput service bufferPos c.core.g c.history }
    else c
  | free pf, c =>
    if pf < c.core.g.brk ∧ pf ∉ c.freed then
      { c with core := ⟨c.core.phase, activeDbFree pf c.core.g⟩, freed := pf :: c.freed }
    else c
  | compensate skew, c =>
    { c with
      core := ⟨c.core.phase, activeDbCompensateTime skew c.core.g⟩
      history := historyDbCompensateTime skew c.history }
  | tick now, c => { c with core := ⟨c.core.phase, { c.core.g with clock := now }⟩ }

/-- No record points to a freed service, and the records of one have its name. -/
def Logged.NothingDangles (c : Logged) : Prop :=
  ∀ r ∈ c.history.list, (∀ s ∈ c.freed, r.service ≠ some s) ∧
    (r.origin ∈ c.freed → r.service = none ∧ r.name = some (c.core.g.svc r.origin).name)

/-- A service is freed when no record points to it any more, and `initng_interrupt` takes no
freed service, unless in the state `FREEING`. -/
def HistoryStep.clears (c : Logged) : HistoryStep → Prop
  | free pf => pf < c.core.g.brk → ∀ r ∈ c.history.list, r.service ≠ some pf
  | act .advance => ∀ s, c.core.phase = .next (some s) → s ∈ c.freed →
      (c.core.g.svc s).currentState = .freeing
  | _ => True

structure SameNames (g g' : G) : Prop where
  brk : g.brk ≤ g'.brk
  name : ∀ s < g.brk, (g'.svc s).name = (g.svc s).name

namespace SameNames

variable {g g' : G}

lemma refl (g : G) : SameNames g g := ⟨Nat.le_refl _, fun _ _ => rfl⟩

lemma of_views (hbrk : g'.brk = g.brk) (hname : ∀ s, (g'.svc s).name = (g.svc s).name) :
    SameNames g g' := ⟨Nat.le_of_eq hbrk.symm, fun s _ => hname s⟩

lemma modify (s : Sid) {f : ActiveType → ActiveType} (hf : ∀ a, (f a).name = a.name) :
    SameNames g (g.modify s f) := by
  refine .of_views rfl fun t => ?_
  by_cases hts : t = s
  · subst hts
    simp [hf]
  · simp [hts]

lemma mark (s : Sid) (st : AState) : SameNames g (commonMarkService s st g).2 :=
  .of_views (commonMarkService_brk ..) (OwnChange.mark st).svc_name

lemma lock (s : Sid) : SameNames g (commonStateLock s g) :=
  modify s (f := fun a => { a with stateLock := a.stateLock + 1 }) fun _ => rfl

lemma dataRemove {type : SEntry} (s : Sid) : SameNames g (dataRemove type s g) :=
  modify s (f := fun a => { a with data := a.data.filter (·.type ≠ type) }) fun _ => rfl

lemma trans {g'' : G} (h : SameNames g g') (h' : SameNames g' g'') : SameNames g g'' where
  brk := Nat.le_trans h.brk h'.brk
  name s hs := (h'.name s (Nat.lt_of_lt_of_le hs h.brk)).trans (h.name s hs)

lemma compensate (skew : Int) : SameNames g (activeDbCompensateTime skew g) := by
  unfold activeDbCompensateTime
  generalize g.activeDb = l
  induction l generalizing g with
  | nil => exact .refl g
  | cons s l ih =>
    have hone : SameNames g (g.modify s (ActiveType.compensateTime skew)) := .modify s fun _ => rfl
    exact hone.trans ih

end SameNames

lemma sameNames_applyG (a : Act) (g : G) : SameNames g (a.applyG g) := by
  have hacted := a.acted g
  generalize a.applyG g = g' at hacted ⊢
  cases hacted with
  | same => exact .refl g
  | mark s state => exact .mark s state
  | new name =>
    refine ⟨Nat.le_succ _, fun s hs => ?_⟩
    simp [activeDbNew, Nat.ne_of_lt hs]
  | setup s => exact .modify s fun _ => rfl
  | register s =>
    rcases activeDbRegister_cases s g with he | ⟨-, he⟩ <;> rw [he]
    · exact .refl g
    · exact .of_views rfl fun _ => rfl
  | flag s => exact .of_views (set_brk ..) fun t => set_svc_name ..
  | start | stop => exact .of_views rfl fun _ => rfl

variable {g g' : G} {db : HistoryDb}

lemma Advance.sameNames {ph ph' : Phase} (h : Advance g ph ph' g') : SameNames g g' := by
  have hunlock (s : Sid) : SameNames g (unlockedAt s g) := .modify s fun _ => rfl
  cases h with
  | take s =>
    have hclear : SameNames g (clearInterrupt s g) := .of_views rfl fun _ => rfl
    exact hclear.trans (.lock s)
  | abort _ s _ st =>
    have henter : SameNames g (g.modify s fun a => { a with stateLock := 0 }.enter st g.clock) :=
      .modify s fun _ => rfl
    exact henter.trans (.of_views (by simp) fun _ => by simp)
  | quiet s | settle s | restart s => exact hunlock s
  | send s => exact ((hunlock s).trans (.lock s)).trans (.of_views rfl fun _ => rfl)
  | up s => exact (hunlock s).trans (.of_views (by simp) fun _ => by simp)
  | start s => exact .dataRemove s
  | _ => exact .refl g

lemma addHist_list (hcount : db.records = db.list.length) (hist : HistoryH) :
    ∃ kept, (∀ r ∈ kept, r ∈ db.list) ∧ (addHist hist db).list = hist :: kept ∧
      (addHist hist db).records = kept.length + 1 := by
  unfold addHist historyMax
  split
  next hfull =>
    have hne : db.list ≠ [] := by
      intro hnil
      simp [hcount, hnil] at hfull
    refine ⟨db.list.dropLast, fun r hr => dropLast_subset _ hr, dropLast_cons_of_ne_nil hne, ?_⟩
    have hpos : 0 < db.list.length := length_pos_of_ne_nil hne
    rw [length_dropLast, hcount]
    omega
  next => exact ⟨db.list, fun _ hr => hr, rfl, by rw [hcount]⟩

def addedRecord (s : Sid) (a : ActiveType) : HistoryH :=
  if a.currentState = .freeing then { stateRecord s a with service := none, name := some a.name }
  else stateRecord s a

lemma historyAddValues_list (hcount : db.records = db.list.length) (s : Sid) (g : G) :
    ∃ kept, (∀ r ∈ kept, r ∈ db.list) ∧
      (historyAddValues s g db).list = addedRecord s (g.svc s) :: kept ∧
      (historyAddValues s g db).records = kept.length + 1 := by
  obtain ⟨kept, hsub, hlist, hrecords⟩ := addHist_list hcount (stateRecord s (g.svc s))
  refine ⟨kept, hsub, ?_⟩
  unfold historyAddValues addedRecord
  dsimp only
  split
  next hfreeing =>
    refine ⟨?_, hrecords⟩
    rw [hlist, historyDbClearService, if_pos (by rfl)]
  next hfreeing => exact ⟨hlist, hrecords⟩

/-- A record points to the service it was made for, or has its name. -/
def HistoryH.Refers (g : G) (r : HistoryH) : Prop :=
  r.origin < g.brk ∧
    (r.service = some r.origin ∨ r.service = none ∧ r.name = some (g.svc r.origin).name)

lemma HistoryH.Refers.sameNames {r : HistoryH} (h : r.Refers g) (hnames : SameNames g g') :
    r.Refers g' := by
  refine ⟨Nat.lt_of_lt_of_le h.1 hnames.brk, ?_⟩
  rw [hnames.name _ h.1]
  exact h.2

lemma refers_addedRecord {s : Sid} (hs : s < g.brk) : (addedRecord s (g.svc s)).Refers g := by
  unfold addedRecord
  split
  · exact ⟨hs, .inr ⟨rfl, rfl⟩⟩
  · exact ⟨hs, .inl rfl⟩

structure Logged.Ok (c : Logged) : Prop where
  locks : LocksOk c.core.phase c.core.g
  counted : c.history.records = c.history.list.length
  refers : ∀ r ∈ c.history.list, r.Refers c.core.g

section
variable {c : Logged}

lemma Logged.Ok.nothingDangles_iff (h : c.Ok) :
    c.NothingDangles ↔ ∀ r ∈ c.history.list, ∀ s ∈ c.freed, r.service ≠ some s := by
  constructor
  · intro hnone r hr
    exact (hnone r hr).1
  · intro hnone r hr
    refine ⟨hnone r hr, fun hfreed => ?_⟩
    rcases (h.refers r hr).2 with hservice | hcleared
    · exact absurd hservice (hnone r hr _ hfreed)
    · exact hcleared

variable {c' : Logged} {hist : HistoryH} {kept : List HistoryH} {ph : Phase} {g : G}

lemma Logged.Ok.sameHistory (h : c.Ok) (hlocks : LocksOk c'.core.phase c'.core.g)
    (hnames : SameNames c.core.g c'.core.g) (hhistory : c'.history = c.history) : c'.Ok := by
  refine ⟨hlocks, ?_, fun r hr => ?_⟩
  · rw [hhistory]
    exact h.counted
  · rw [hhistory] at hr
    exact (h.refers r hr).sameNames hnames

lemma Logged.Ok.added (h : c.Ok) (hlocks : LocksOk c'.core.phase c'.core.g)
    (hnames : SameNames c.core.g c'.core.g) (hrefers : hist.Refers c'.core.g)
    (hsub : ∀ r ∈ kept, r ∈ c.history.list) (hlist : c'.history.list = hist :: kept)
    (hrecords : c'.history.records = kept.length + 1) : c'.Ok := by
  refine ⟨hlocks, by rw [hrecords, hlist, length_cons], fun r hr => ?_⟩
  rw [hlist] at hr
  rcases mem_cons.mp hr with rfl | hr
  · exact hrefers
  · exact (h.refers r (hsub r hr)).sameNames hnames

lemma LocksOk.of_activeDbFree (h : LocksOk ph g) {s : Sid} (hs : s < g.brk) :
    LocksOk ph (activeDbFree s g) := by
  have hmark : LocksOk ph (commonMarkService s .freeing g).2 := h.mark hs .freeing
  exact ⟨fun t ht => hmark.listed t (mem_filter.mp ht).1, hmark.mentioned,
    fun t ht => (hmark.each t ht).frame (.of_eq rfl) (.inl rfl)⟩

lemma LocksOk.of_compensateTime (h : LocksOk ph g) (skew : Int) :
    LocksOk ph (activeDbCompensateTime skew g) := by
  unfold Initng.activeDbCompensateTime
  generalize g.activeDb = l
  induction l generalizing g with
  | nil => exact h
  | cons s l ih =>
    exact ih (h.sameViews rfl (fun t => .modify s t fun _ => ⟨rfl, rfl, rfl, rfl⟩) rfl)

lemma Logged.Ok.advance (h : c.Ok) : c.advance.Ok := by
  have hadvance := Core.advance_cases h.locks
  have hlocks : LocksOk c.core.advance.phase c.core.advance.g := h.locks.advance hadvance
  have hnames : SameNames c.core.g c.core.advance.g := hadvance.sameNames
  cases hphase : c.core.phase with
  | next service =>
    cases service with
    | none => exact h.sameHistory hlocks hnames (by simp [Logged.advance, hphase])
    | some s =>
      have hs : s < c.core.g.brk := h.locks.mentioned s (by simp [hphase, Phase.mentions])
      obtain ⟨kept, hsub, hlist, hrecords⟩ := historyAddValues_list h.counted s c.core.advance.g
      refine h.added hlocks hnames (refers_addedRecord (Nat.lt_of_lt_of_le hs hnames.brk)) hsub
        ?_ ?_
      · simpa [Logged.advance, hphase] using hlist
      · simpa [Logged.advance, hphase] using hrecords
  | _ => exact h.sameHistory hlocks hnames (by simp [Logged.advance, hphase])

lemma HistoryStep.apply_act {a : Act} (ha : a ≠ .advance) :
    (HistoryStep.act a).apply c = if ∀ s ∈ a.subject, s ∉ c.freed then
      { c with core := ⟨c.core.phase, a.applyG c.core.g⟩ } else c := by
  cases a <;> first | rfl | exact absurd rfl ha

lemma Logged.Ok.apply (h : c.Ok) (step : HistoryStep) : (step.apply c).Ok := by
  cases step with
  | act a =>
    by_cases ha : a = .advance
    · subst ha
      exact h.advance
    · rw [HistoryStep.apply_act ha]
      split
      · exact h.sameHistory (h.locks.applyG a) (sameNames_applyG a _) rfl
      · exact h
  | output s bufferPos =>
    rw [HistoryStep.apply]
    split
    next hs =>
      obtain ⟨kept, hsub, hlist, hrecords⟩ := addHist_list h.counted (outputRecord s bufferPos c.core.g)
      exact h.added h.locks (.refl _) ⟨hs.1, .inl rfl⟩ hsub hlist hrecords
    · exact h
  | free pf =>
    rw [HistoryStep.apply]
    split
    next hs =>
      exact h.sameHistory (h.locks.of_activeDbFree hs.1)
        (.of_views (commonMarkService_brk ..) (OwnChange.mark .freeing).svc_name) rfl
    · exact h
  | compensate skew =>
    refine ⟨h.locks.of_compensateTime skew, ?_, fun r hr => ?_⟩
    · simpa [HistoryStep.apply, historyDbCompensateTime] using h.counted
    · obtain ⟨r', hr', rfl⟩ := mem_map.mp hr
      exact HistoryH.Refers.sameNames (r := r') (h.refers r' hr') (.compensate skew)
  | tick now =>
    exact h.sameHistory (h.locks.sameViews rfl (fun _ => .of_eq rfl) rfl)
      (.of_views rfl fun _ => rfl) rfl

lemma Logged.Ok.nothingDangles_congr (h : c.Ok) (h' : c'.Ok)
    (hlist : c'.history.list.map HistoryH.service = c.history.list.map HistoryH.service)
    (hfreed : c'.freed = c.freed) (hnone : c.NothingDangles) : c'.NothingDangles := by
  rw [h'.nothingDangles_iff, hfreed]
  intro r hr s hs hservice
  have hmem : some s ∈ c'.history.list.map HistoryH.service := mem_map.mpr ⟨r, hr, hservice⟩
  rw [hlist] at hmem
  obtain ⟨r', hr', hservice'⟩ := mem_map.mp hmem
  exact h.nothingDangles_iff.mp hnone r' hr' s hs hservice'

lemma Logged.Ok.nothingDangles_added (h : c.Ok) (h' : c'.Ok)
    (hsub : ∀ r ∈ kept, r ∈ c.history.list) (hlist : c'.history.list = hist :: kept)
    (hfreed : c'.freed = c.freed) (hnone : c.NothingDangles) :
    c'.NothingDangles ↔ ∀ s ∈ c.freed, hist.service ≠ some s := by
  rw [h'.nothingDangles_iff, hfreed, hlist]
  constructor
  · intro hall
    exact hall hist (.head _)
  · intro hhist r hr
    rcases mem_cons.mp hr with rfl | hr
    · exact hhist
    · exact h.nothingDangles_iff.mp hnone r (hsub r hr)

lemma Logged.Ok.advance_nothingDangles (h : c.Ok) (hnone : c.NothingDangles) :
    c.advance.NothingDangles ↔ (HistoryStep.act .advance).clears c := by
  have hsame (hhistory : c.advance.history = c.history)
      (hphase : ∀ s, c.core.phase ≠ .next (some s)) :
      c.advance.NothingDangles ↔ (HistoryStep.act .advance).clears c := by
    refine ⟨fun _ s hp => absurd hp (hphase s), fun _ => ?_⟩
    exact h.nothingDangles_congr h.advance (by rw [hhistory]) rfl hnone
  cases hphase : c.core.phase with
  | next service =>
    cases service with
    | none => exact hsame (by simp [Logged.advance, hphase]) (by simp [hphase])
    | some s =>
      obtain ⟨kept, hsub, hlist, -⟩ := historyAddValues_list h.counted s c.core.advance.g
      have hlist' : c.advance.history.list = addedRecord s (c.core.advance.g.svc s) :: kept := by
        simpa [Logged.advance, hphase] using hlist
      have hstate : (c.core.advance.g.svc s).currentState = (c.core.g.svc s).currentState := by
        have hcore : c.core.advance = Core.advance ⟨.next (some s), c.core.g⟩ := by rw [← hphase]
        rw [hcore]
        simp [Core.advance, commonStateLock]
      rw [h.nothingDangles_added h.advance hsub hlist' rfl hnone]
      simp only [HistoryStep.clears, hphase, Phase.next.injEq, Option.some.injEq, forall_eq',
        addedRecord, hstate]
      split
      next hfreeing => simp [hfreeing]
      next hfreeing =>
        simp only [stateRecord, ne_eq, Option.some.injEq, hfreeing, imp_false]
        exact ⟨fun hall hs => hall s hs rfl, fun hs t ht hst => hs (hst ▸ ht)⟩
  | _ => exact hsame (by simp [Logged.advance, hphase]) (by simp [hphase])

lemma Logged.Ok.apply_nothingDangles (h : c.Ok) (step : HistoryStep) (hnone : c.NothingDangles) :
    (step.apply c).NothingDangles ↔ step.clears c := by
  have hkeep (hclears : step.clears c)
      (hlist : (step.apply c).history.list.map HistoryH.service =
        c.history.list.map HistoryH.service) (hfreed : (step.apply c).freed = c.freed) :
      (step.apply c).NothingDangles ↔ step.clears c :=
    ⟨fun _ => hclears, fun _ => h.nothingDangles_congr (h.apply step) hlist hfreed hnone⟩
  cases step with
  | act a =>
    by_cases ha : a = .advance
    · subst ha
      exact h.advance_nothingDangles hnone
    · have hclears : (HistoryStep.act a).clears c := by
        cases a <;> trivial
      refine hkeep hclears ?_ ?_ <;>
      · rw [HistoryStep.apply_act ha]
        split <;> rfl
  | output s bufferPos =>
    by_cases hs : s < c.core.g.brk ∧ s ∉ c.freed
    · obtain ⟨kept, hsub, hlist, -⟩ := addHist_list h.counted (outputRecord s bufferPos c.core.g)
      have hadded : ((HistoryStep.output s bufferPos).apply c).history.list =
          outputRecord s bufferPos c.core.g :: kept := by
        rw [HistoryStep.apply, if_pos hs]
        exact hlist
      have hfreed : ((HistoryStep.output s bufferPos).apply c).freed = c.freed := by
        rw [HistoryStep.apply, if_pos hs]
      rw [h.nothingDangles_added (h.apply _) hsub hadded hfreed hnone]
      refine ⟨fun _ => trivial, fun _ t ht hst => ?_⟩
      cases hst
      exact hs.2 ht
    · refine hkeep trivial ?_ ?_ <;> rw [HistoryStep.apply, if_neg hs]
  | free pf =>
    by_cases hs : pf < c.core.g.brk ∧ pf ∉ c.freed
    · have hfreed : ((HistoryStep.free pf).apply c).freed = pf :: c.freed := by
        rw [HistoryStep.apply, if_pos hs]
      have hhistory : ((HistoryStep.free pf).apply c).history = c.history := by
        rw [HistoryStep.apply, if_pos hs]
      rw [(h.apply _).nothingDangles_iff, hfreed, hhistory]
      constructor
      · intro hall _ r hr
        exact hall r hr pf (.head _)
      · intro hclear r hr s hmem
        rcases mem_cons.mp hmem with rfl | hmem
        · exact hclear hs.1 r hr
        · exact h.nothingDangles_iff.mp hnone r hr s hmem
    · refine hkeep (fun hlt r hr => ?_) ?_ ?_
      · -- the service has been freed before
        have hin : pf ∈ c.freed := by
          by_contra hnot
          exact hs ⟨hlt, hnot⟩
        exact h.nothingDangles_iff.mp hnone r hr pf hin
      all_goals rw [HistoryStep.apply, if_neg hs]
  | compensate skew =>
    refine hkeep trivial ?_ rfl
    simp [HistoryStep.apply, historyDbCompensateTime, Function.comp_def]
  | tick now => exact hkeep trivial rfl rfl

end

lemma Logged.start_ok (now : Timeval) : (Logged.start now).Ok :=
  ⟨locksOk_configGlobalNew now, rfl, fun _ hr => absurd hr not_mem_nil⟩

/-- **History refers to no freed service** at any point of a run, exactly if no service is freed
while a record points to it, and `initng_interrupt` takes up no freed service that is not in the
state `FREEING`. -/
theorem history_nothingDangles_iff (now : Timeval) (steps : List HistoryStep) :
    (∀ k, (run HistoryStep.apply (steps.take k) (.start now)).NothingDangles) ↔
      Along HistoryStep.apply (fun c step => step.clears c) (.start now) steps :=
  along_iff_always (fun _ step h => h.apply step)
    (fun _ step h hnone => h.apply_nothingDangles step hnone) (Logged.start_ok now)
    fun _ hr => absurd hr not_mem_nil

/-- A service is created, registered and found not running; after the event of that state it is
freed. -/
def freedAfterChange : List HistoryStep :=
  [.act (.new "daemon/a"), .act (.register 0), .act (.mark 0 ⟨"NOT_RUNNING", .isDown⟩),
    .act .advance, .act .advance, .act .advance, .act .advance, .act .advance, .act .advance,
    .free 0]

/-- Freeing a service leaves the record of its state change pointing to it. -/
theorem history_dangles :
    ¬ ∀ (now : Timeval) (steps : List HistoryStep),
      (run HistoryStep.apply steps (.start now)).NothingDangles := by
  intro h
  exact (h ⟨0, 0⟩ freedAfterChange _ (.head _)).1 0 (.head _) rfl

end Initng
