import Initng.ActiveDb
import Initng.StepRun

/-! `process_db.h`, `process_db/`, `execute/launch.c` and `fork/fork.c`. -/

namespace Initng

open List Function

inductive EPst
  | pActive | pFree
  deriving DecidableEq

inductive EDir
  | unknownPipe | outPipe | inPipe | bufferedOutPipe | inAndOutPipe
  deriving DecidableEq

/-- `pipe_h`: both ends, the direction, and the targets in front of the first that is not
positive.  Buffers are left out. -/
structure PipeH where
  pipe : Int × Int
  dir : EDir
  targets : List Int
  deriving DecidableEq

structure Ptype where
  name : String
  killHandler : Bool
  deriving DecidableEq

structure ProcessH where
  pt : Ptype
  pid : Int
  rCode : Int
  pipes : List PipeH
  pst : EPst
  deriving DecidableEq

def processDbPipeNew (dir : EDir) : PipeH := ⟨(0, 0), dir, []⟩

def processDbNew (type : Ptype) : ProcessH where
  pt := type
  pid := 0
  rCode := 0
  pipes := [{ processDbPipeNew .bufferedOutPipe with targets := [1, 2] }]
  pst := .pActive

def PipeH.closeRemoteSide (p : PipeH) : PipeH :=
  match p.dir with
  | .outPipe | .bufferedOutPipe => { p with pipe := (p.pipe.1, -1) }
  | .inPipe | .inAndOutPipe => { p with pipe := (-1, p.pipe.2) }
  | .unknownPipe => p

/-- `initng_fork` in the parent: the pipes get the descriptors `fds`, and the pid is set. -/
def ProcessH.fork (process : ProcessH) (fds : List (Int × Int)) (pid : Int) : ProcessH :=
  { process with
    pid := pid
    pipes := (process.pipes.zip fds).map fun p => PipeH.closeRemoteSide { p.1 with pipe := p.2 } }

abbrev Prid := ℕ

/-- The processes of the services, and the children that the kernel still knows: started, and not
waited for yet. -/
structure ProcessDb where
  services : List Sid
  processes : Sid → List Prid
  process : Prid → ProcessH
  brk : Prid
  children : List Int

namespace ProcessDb

def modify (db : ProcessDb) (p : Prid) (f : ProcessH → ProcessH) : ProcessDb :=
  { db with process := update db.process p (f (db.process p)) }

section
variable (db : ProcessDb) {p q : Prid} (f : ProcessH → ProcessH)

@[simp] lemma modify_process_self : (db.modify p f).process p = f (db.process p) := by
  simp [modify]

@[simp] lemma modify_process_ne (h : q ≠ p) : (db.modify p f).process q = db.process q := by
  simp [modify, h]

end

def get (db : ProcessDb) (type : Ptype) (service : Sid) : Option Prid :=
  (db.processes service).find? fun current =>
    (db.process current).pst = .pActive ∧ (db.process current).pt = type

def getByPid (db : ProcessDb) (pid : Int) (service : Sid) : Option Prid :=
  (db.processes service).find? fun current =>
    (db.process current).pst = .pActive ∧ (db.process current).pid = pid

def hasPid (db : ProcessDb) (pid : Int) (service : Sid) : Bool :=
  (db.processes service).any fun currentP => (db.process currentP).pid = pid

def findByPid (db : ProcessDb) (pid : Int) : Option Sid := db.services.find? (db.hasPid pid)

def free (p : Prid) (db : ProcessDb) : ProcessDb :=
  db.modify p fun process => { process with pst := .pFree }

def clearFreed (service : Sid) (db : ProcessDb) : ProcessDb :=
  let kept := (db.processes service).filter fun p => (db.process p).pst ≠ .pFree
  { db with processes := update db.processes service kept }

def register (service : Sid) (process : ProcessH) (db : ProcessDb) : ProcessDb :=
  { db with
    processes := update db.processes service (db.processes service ++ [db.brk])
    process := update db.process db.brk process
    brk := db.brk + 1 }

inductive Launch
  | handled (fds : List (Int × Int)) (pid : Int)
  | failed
  deriving DecidableEq

def executeLaunch (service : Sid) (type : Ptype) (launch : Launch) (db : ProcessDb) :
    Bool × ProcessDb :=
  if (db.get type service).isSome then (false, db)
  else
    let process := db.brk
    let db := db.register service (processDbNew type)
    match launch with
    | .handled fds pid =>
      (true, { db.modify process (fun p => p.fork fds pid) with children := db.children ++ [pid] })
    | .failed => (false, db.free process)

def actives (db : ProcessDb) (type : Ptype) (service : Sid) : List Prid :=
  (db.processes service).filter fun current =>
    (db.process current).pst = .pActive ∧ (db.process current).pt = type

structure Apart (db : ProcessDb) : Prop where
  below : ∀ s, ∀ p ∈ db.processes s, p < db.brk
  owner : ∀ s t p, p ∈ db.processes s → p ∈ db.processes t → s = t
  nodup : ∀ s, (db.processes s).Nodup

section
variable {db : ProcessDb} {type : Ptype} {s t : Sid} {p : Prid}

lemma mem_actives : p ∈ db.actives type s ↔
    p ∈ db.processes s ∧ (db.process p).pst = .pActive ∧ (db.process p).pt = type := by
  simp [actives]

lemma get_eq_head? : db.get type s = (db.actives type s).head? := by
  rw [get, actives, head?_filter]

lemma get_isSome_iff : (db.get type s).isSome ↔ db.actives type s ≠ [] := by
  rw [get_eq_head?, isSome_head?]

lemma actives_free : (db.free p).actives type s = (db.actives type s).filter (· ≠ p) := by
  rw [actives, actives, filter_filter]
  refine filter_congr fun q _ => ?_
  by_cases hq : q = p
  · subst hq
    simp [free]
  · simp [free, hq]

lemma actives_free_ne (h : p ∉ db.actives type s) :
    (db.free p).actives type s = db.actives type s := by
  rw [actives_free, filter_eq_self]
  intro q hq
  have hne : q ≠ p := fun he => h (he ▸ hq)
  simpa using hne

lemma actives_record {f : ProcessH → ProcessH} (hf : ∀ x, (f x).pst = x.pst ∧ (f x).pt = x.pt) :
    (db.modify p f).actives type s = db.actives type s := by
  refine filter_congr fun q _ => ?_
  by_cases hq : q = p
  · subst hq
    simp [hf]
  · simp [hq]

lemma actives_clearFreed : (db.clearFreed t).actives type s = db.actives type s := by
  by_cases hst : s = t
  · subst hst
    rw [actives, actives, clearFreed]
    simp only [update_self, filter_filter]
    refine filter_congr fun q _ => ?_
    cases hpst : (db.process q).pst <;> simp
  · simp [actives, clearFreed, hst]

section
variable (h : db.Apart)
include h

lemma actives_register (process : ProcessH) :
    (db.register t process).actives type s = db.actives type s ++
      if s = t ∧ process.pst = .pActive ∧ process.pt = type then [db.brk] else [] := by
  have hold : ((db.processes s).filter fun q =>
      ((db.register t process).process q).pst = .pActive ∧
        ((db.register t process).process q).pt = type) = db.actives type s := by
    refine filter_congr fun q hq => ?_
    simp [register, Nat.ne_of_lt (h.below s q hq)]
  by_cases hst : s = t
  · subst hst
    have hlist : (db.register s process).processes s = db.processes s ++ [db.brk] := by
      simp [register]
    rw [actives, hlist, filter_append, hold]
    by_cases hp : process.pst = .pActive ∧ process.pt = type <;> simp [register, hp]
  · have hlist : (db.register t process).processes s = db.processes s := by simp [register, hst]
    rw [actives, hlist, hold, if_neg fun hs => hst hs.1, append_nil]

lemma Apart.free : (db.free p).Apart := ⟨h.below, h.owner, h.nodup⟩

lemma Apart.record (f : ProcessH → ProcessH) : (db.modify p f).Apart := ⟨h.below, h.owner, h.nodup⟩

lemma Apart.sublists {db' : ProcessDb} (hbrk : db'.brk = db.brk)
    (hsub : ∀ s, (db'.processes s).Sublist (db.processes s)) : db'.Apart where
  below s p hp := hbrk ▸ h.below s p ((hsub s).subset hp)
  owner s t p hs ht := h.owner s t p ((hsub s).subset hs) ((hsub t).subset ht)
  nodup s := (h.nodup s).sublist (hsub s)

lemma Apart.clearFreed (t : Sid) : (db.clearFreed t).Apart := by
  refine h.sublists rfl fun s => ?_
  by_cases hst : s = t
  · subst hst
    simp [ProcessDb.clearFreed]
  · simp [ProcessDb.clearFreed, hst]

end

lemma mem_register {q : Prid} {process : ProcessH} :
    q ∈ (db.register t process).processes s ↔ q ∈ db.processes s ∨ s = t ∧ q = db.brk := by
  by_cases hst : s = t
  · subst hst
    simp [register]
  · simp [register, hst]

lemma Apart.register (h : db.Apart) (t : Sid) (process : ProcessH) :
    (db.register t process).Apart where
  below s p hp := by
    rcases mem_register.mp hp with hp | ⟨-, rfl⟩
    · exact Nat.lt_succ_of_lt (h.below s p hp)
    · exact Nat.lt_succ_self _
  owner s u p hs hu := by
    rcases mem_register.mp hs with hs | ⟨rfl, rfl⟩
    · rcases mem_register.mp hu with hu | ⟨-, rfl⟩
      · exact h.owner s u p hs hu
      · exact absurd (h.below s _ hs) (Nat.lt_irrefl _)
    · rcases mem_register.mp hu with hu | ⟨rfl, -⟩
      · exact absurd (h.below u _ hu) (Nat.lt_irrefl _)
      · rfl
  nodup s := by
    by_cases hst : s = t
    · subst hst
      have hfresh : db.brk ∉ db.processes s := fun hin => Nat.lt_irrefl _ (h.below s _ hin)
      simp only [ProcessDb.register, update_self]
      refine nodup_append.mpr ⟨h.nodup s, by simp, fun a ha b hb => ?_⟩
      rintro rfl
      exact hfresh (mem_singleton.mp hb ▸ ha)
    · simpa [ProcessDb.register, hst] using h.nodup s

lemma executeLaunch_cases (h : db.Apart) (t : Sid) (type : Ptype) (launch : Launch) :
    (db.executeLaunch t type launch).2.Apart ∧
    (((db.executeLaunch t type launch).1 = false ∧
        ∀ type' s, (db.executeLaunch t type launch).2.actives type' s = db.actives type' s) ∨
      ((db.executeLaunch t type launch).1 = true ∧ db.actives type t = [] ∧
        ∀ type' s, (db.executeLaunch t type launch).2.actives type' s = db.actives type' s ++
          if s = t ∧ type = type' then [db.brk] else [])) := by
  unfold executeLaunch
  split
  next => exact ⟨h, .inl ⟨rfl, fun _ _ => rfl⟩⟩
  next hnone =>
    have hnil : db.actives type t = [] := by
      by_contra hne
      exact hnone (get_isSome_iff.mpr hne)
    have hreg := h.register t (processDbNew type)
    have hadd (type' : Ptype) (s : Sid) : (db.register t (processDbNew type)).actives type' s =
        db.actives type' s ++ if s = t ∧ type = type' then [db.brk] else [] := by
      rw [actives_register h]
      simp [processDbNew]
    cases launch with
    | handled fds pid =>
      refine ⟨⟨hreg.below, hreg.owner, hreg.nodup⟩, .inr ⟨rfl, hnil, fun type' s => ?_⟩⟩
      have hfork : ((db.register t (processDbNew type)).modify db.brk fun p =>
          p.fork fds pid).actives type' s = (db.register t (processDbNew type)).actives type' s :=
        actives_record fun _ => ⟨rfl, rfl⟩
      exact hfork.trans (hadd type' s)
    | failed =>
      refine ⟨hreg.free, .inl ⟨rfl, fun type' s => ?_⟩⟩
      have hfresh : db.brk ∉ db.actives type' s := fun hin =>
        Nat.lt_irrefl _ (h.below s _ (mem_actives.mp hin).1)
      rw [actives_free, hadd, filter_append]
      have hkeep : (db.actives type' s).filter (· ≠ db.brk) = db.actives type' s := by
        rw [filter_eq_self]
        intro q hq
        have hne : q ≠ db.brk := fun he => hfresh (he ▸ hq)
        simpa using hne
      rw [hkeep]
      split <;> simp

end

end ProcessDb

end Initng
