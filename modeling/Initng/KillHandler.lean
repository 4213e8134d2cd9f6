import Initng.ListCursor
import Initng.ProcessDb

/-! `kill/handler.c`. -/

namespace Initng

open StepRun List

/-- What EVENT_HANDLE_KILLED and the kill handlers of the process types do.  The event tells
if some module handled it. -/
structure KillHooks where
  handleKilled : Sid → Prid → ProcessDb → Bool × ProcessDb
  killHandler : Ptype → Sid → Prid → ProcessDb → ProcessDb

inductive KillCall
  | handleKilled (service : Sid) (process : Prid) (db : ProcessDb)
  | killHandler (type : Ptype) (service : Sid) (process : Prid) (db : ProcessDb)

def KillCall.target : KillCall → Sid × Prid
  | handleKilled service process _ => (service, process)
  | killHandler _ service process _ => (service, process)

def PipeH.closeLocalSide (p : PipeH) : PipeH :=
  match p.dir with
  | .outPipe | .bufferedOutPipe => if p.pipe.1 > 0 then { p with pipe := (-1, p.pipe.2) } else p
  | .inPipe | .inAndOutPipe => if p.pipe.2 > 0 then { p with pipe := (p.pipe.1, -1) } else p
  | .unknownPipe => p

def ProcessH.died (rCode : Int) (process : ProcessH) : ProcessH :=
  { process with rCode := rCode, pipes := process.pipes.map PipeH.closeLocalSide }

def killHandlerKilledByPid (h : KillHooks) (kpid rCode : Int) (db : ProcessDb) :
    List KillCall × ProcessDb :=
  if kpid ≤ 1 then ([], db)
  else
    match db.findByPid kpid with
    | none => ([], db)
    | some service =>
      match db.getByPid kpid service with
      -- "Could not fetch process, even when initng_active_db_find_by_pid() saw it here!"
      | none => ([], db)
      | some process =>
        let db := db.modify process (ProcessH.died rCode)
        let event := KillCall.handleKilled service process db
        let r := h.handleKilled service process db
        if r.1 then ([event], r.2)
        else
          let type := (r.2.process process).pt
          if type.killHandler then
            ([event, .killHandler type service process r.2], h.killHandler type service process r.2)
          else ([event], r.2.free process)

/-- The entry is told that it has died: `r_code` is set, the event is sent and, unless it is
handled there, the kill handler runs, for this entry and no other. -/
structure ReachesOwner (h : KillHooks) (db : ProcessDb) (service : Sid) (process : Prid)
    (rCode : Int) (calls : List KillCall) : Prop where
  event : ∃ db₁, calls.head? = some (.handleKilled service process db₁) ∧
    (db₁.process process).rCode = rCode ∧
    (∀ p ≠ process, db₁.process p = db.process p) ∧
    ((h.handleKilled service process db₁).1 = false →
      let db₂ := (h.handleKilled service process db₁).2
      (db₂.process process).pt.killHandler = true →
        .killHandler (db₂.process process).pt service process db₂ ∈ calls)
  only : ∀ call ∈ calls, call.target = (service, process)

inductive ProcessStep
  | launch (service : Sid) (type : Ptype) (launch : ProcessDb.Launch)
  | killed (kpid rCode : Int)
  | free (process : Prid)
  | clearFreed (service : Sid)
  deriving DecidableEq

/-- The kernel gives a pid to no two children at a time, and forgets it with `waitpid`. -/
def ProcessStep.apply (h : KillHooks) : ProcessStep → ProcessDb → ProcessDb
  | launch service type (.handled fds pid), db =>
    if 1 < pid ∧ pid ∉ db.children then (db.executeLaunch service type (.handled fds pid)).2
    else db
  | launch service type .failed, db => (db.executeLaunch service type .failed).2
  | killed kpid rCode, db =>
    if kpid ∈ db.children then
      (killHandlerKilledByPid h kpid rCode { db with children := db.children.erase kpid }).2
    else db
  | free process, db => db.free process
  | clearFreed service, db => db.clearFreed service

namespace ProcessDb

variable {db : ProcessDb} {service : Sid} {process : Prid} {kpid : Int}

lemma hasPid_iff : db.hasPid kpid service = true ↔
    ∃ p ∈ db.processes service, (db.process p).pid = kpid := by
  simp [hasPid]

structure OnlyActive (db : ProcessDb) (service : Sid) (process : Prid) (kpid : Int) : Prop where
  service_mem : service ∈ db.services
  process_mem : process ∈ db.processes service
  active : (db.process process).pst = .pActive
  pid_eq : (db.process process).pid = kpid
  only : ∀ s ∈ db.services, ∀ p ∈ db.processes s, (db.process p).pst = .pActive →
    (db.process p).pid = kpid → p = process

lemma OnlyActive.getByPid (h : db.OnlyActive service process kpid) :
    db.getByPid kpid service = some process := by
  cases hget : db.getByPid kpid service with
  | none =>
    rw [ProcessDb.getByPid, find?_eq_none] at hget
    exact absurd (by simp [h.active, h.pid_eq]) (hget process h.process_mem)
  | some p =>
    have hmem := mem_of_find?_eq_some hget
    have hp := find?_some hget
    simp only [decide_eq_true_eq] at hp
    rw [h.only service h.service_mem p hmem hp.1 hp.2]

def NoneBefore (db : ProcessDb) (service : Sid) (kpid : Int) : Prop :=
  ∀ s ∈ ListCursor.passed db.services (some service), ∀ p ∈ db.processes s,
    (db.process p).pid ≠ kpid

instance : Decidable (db.NoneBefore service kpid) :=
  inferInstanceAs (Decidable (∀ s ∈ ListCursor.passed db.services (some service),
    ∀ p ∈ db.processes s, (db.process p).pid ≠ kpid))

lemma OnlyActive.findByPid_iff (h : db.OnlyActive service process kpid) :
    db.findByPid kpid = some service ↔ db.NoneBefore service kpid := by
  obtain ⟨xs, ys, hsplit, hnot⟩ := eq_append_cons_of_mem h.service_mem
  have hown : db.hasPid kpid service = true := hasPid_iff.mpr ⟨process, h.process_mem, h.pid_eq⟩
  rw [NoneBefore, ProcessDb.findByPid, hsplit, ListCursor.passed_append_cons hnot,
    find?_append, find?_cons_of_pos hown]
  cases hfind : xs.find? (db.hasPid kpid) with
  | none =>
    rw [find?_eq_none] at hfind
    simp only [Option.none_or, true_iff]
    exact fun s hs p hp hpid => hfind s hs (hasPid_iff.mpr ⟨p, hp, hpid⟩)
  | some s =>
    have hs : s ∈ xs := mem_of_find?_eq_some hfind
    obtain ⟨p, hp, hpid⟩ := hasPid_iff.mp (find?_some hfind)
    constructor
    · intro heq
      cases heq
      exact absurd hs hnot
    · intro hnone
      exact absurd hpid (hnone s hs p hp)

end ProcessDb

section
variable {h : KillHooks} {db : ProcessDb} {service s : Sid} {process p : Prid} {kpid rCode : Int}

lemma killedByPid_of_found (hpid : 1 < kpid) (hfind : db.findByPid kpid = some service)
    (hget : db.getByPid kpid service = some process) :
    ReachesOwner h db service process rCode (killHandlerKilledByPid h kpid rCode db).1 := by
  have hgt : ¬ kpid ≤ 1 := by omega
  unfold killHandlerKilledByPid
  simp only [if_neg hgt, hfind, hget]
  refine ⟨⟨db.modify process (ProcessH.died rCode), ?_, by simp [ProcessH.died],
    fun p hp => ProcessDb.modify_process_ne db _ hp, fun hopen htype => ?_⟩, ?_⟩
  · split
    · rfl
    · split <;> rfl
  · simp [hopen, htype]
  · intro call hcall
    split at hcall
    · rw [mem_singleton.mp hcall]
      rfl
    split at hcall
    · rcases mem_pair.mp hcall with rfl | rfl <;> rfl
    · rw [mem_singleton.mp hcall]
      rfl

lemma killedByPid_head {call : KillCall}
    (hcall : (killHandlerKilledByPid h kpid rCode db).1.head? = some call) :
    db.findByPid kpid = some call.target.1 := by
  unfold killHandlerKilledByPid at hcall
  split at hcall
  · simp at hcall
  · split at hcall
    · simp at hcall
    next hfind =>
      rw [hfind]
      split at hcall
      · simp at hcall
      · dsimp only at hcall
        split at hcall
        · cases hcall
          rfl
        · split at hcall <;> cases hcall <;> rfl

end

theorem killedByPid_reachesOwner_iff (h : KillHooks) (db : ProcessDb) (steps : List ProcessStep)
    (service : Sid) (process : Prid) (kpid rCode : Int) (hpid : 1 < kpid)
    (hown : (run (ProcessStep.apply h) steps db).OnlyActive service process kpid) :
    let db := run (ProcessStep.apply h) steps db
    ReachesOwner h db service process rCode (killHandlerKilledByPid h kpid rCode db).1 ↔
      db.NoneBefore service kpid := by
  intro db
  rw [← hown.findByPid_iff]
  constructor
  · intro hreach
    obtain ⟨db₁, hhead, -⟩ := hreach.event
    exact killedByPid_head hhead
  · intro hfind
    exact killedByPid_of_found hpid hfind hown.getByPid

def freeingHooks : KillHooks where
  handleKilled _ _ db := (false, db)
  killHandler _ _ process db := db.free process

def twoServices : ProcessDb := ⟨[0, 1], fun _ => [], fun _ => processDbNew ⟨"", false⟩, 0, []⟩

def startType : Ptype := ⟨"start", true⟩

def launchOne : List ProcessStep := [.launch 1 startType (.handled [(3, 4)] 100)]

theorem killedByPid_reachesOwner_iff_launched :
    let db := run (ProcessStep.apply freeingHooks) launchOne twoServices
    db.NoneBefore 1 100 ∧ ReachesOwner freeingHooks db 1 0 9
      (killHandlerKilledByPid freeingHooks 100 9 db).1 :=
  ⟨by decide +kernel, (killedByPid_reachesOwner_iff freeingHooks twoServices launchOne 1 0 100 9
    (by decide) ⟨by decide +kernel, by decide +kernel, by decide +kernel, by decide +kernel,
      by decide +kernel⟩).mpr (by decide +kernel)⟩

def pidReused : List ProcessStep :=
  [.launch 0 startType (.handled [(3, 4)] 100), .killed 100 0,
    .launch 1 startType (.handled [(3, 4)] 100)]

theorem killedByPid_misses_owner :
    ¬ ∀ (h : KillHooks) (db : ProcessDb) (steps : List ProcessStep) (service : Sid)
      (process : Prid) (kpid rCode : Int), 1 < kpid →
      (run (ProcessStep.apply h) steps db).OnlyActive service process kpid →
      let db := run (ProcessStep.apply h) steps db
      ReachesOwner h db service process rCode (killHandlerKilledByPid h kpid rCode db).1 := by
  intro hall
  have hreach := hall freeingHooks twoServices pidReused 1 1 100 9 (by decide)
    ⟨by decide +kernel, by decide +kernel, by decide +kernel, by decide +kernel, by decide +kernel⟩
  obtain ⟨db₁, hhead, -⟩ := hreach.event
  have hnone : (killHandlerKilledByPid freeingHooks 100 9
      (run (ProcessStep.apply freeingHooks) pidReused twoServices)).1.head?.isNone = true := by
    decide +kernel
  rw [hhead] at hnone
  exact absurd hnone (by simp)

end Initng
