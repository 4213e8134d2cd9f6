import Initng.ProcessDb
import Mathlib.Data.List.Dedup

/-! `main/io/poll.c`. -/

namespace Initng

open List

/-- A descriptor in `readset`, or in `writeset`. -/
structure Watch where
  fd : Int
  reads : Bool
  deriving DecidableEq

/-- A module with its `fds`, or a pipe of a process. -/
inductive Watcher
  | fModule (fds : Int)
  | pipe (p : PipeH)
  deriving DecidableEq

namespace Watcher

def watch (a : Watcher) : Option Watch :=
  let w : Option Watch := match a with
    | fModule fds => some ⟨fds, true⟩
    | pipe ⟨_, .unknownPipe, _⟩ => none
    | pipe ⟨(r, _), .outPipe, _⟩ | pipe ⟨(r, _), .bufferedOutPipe, _⟩ => some ⟨r, true⟩
    | pipe ⟨(_, w), .inAndOutPipe, _⟩ => some ⟨w, true⟩
    | pipe ⟨(_, w), .inPipe, _⟩ => some ⟨w, false⟩
  w.filter fun w => w.fd > 2

/-- What is not open anymore is forgotten. -/
def forget : Watcher → Watcher
  | fModule _ => fModule (-1)
  | pipe p =>
    if p.dir = .outPipe ∨ p.dir = .bufferedOutPipe then pipe { p with pipe := (-1, p.pipe.2) }
    else pipe { p with pipe := (p.pipe.1, -1) }

def check (stillOpen : Int → Bool) (a : Watcher) : Watcher :=
  if a.watch.all fun w => stillOpen w.fd then a else a.forget

end Watcher

/-- What `select` leaves in the sets.  It looks at the descriptors below 256 only. -/
def selectLeft (ready : Watch → Bool) (set : List Watch) : List Watch :=
  set.filter fun w => w.fd ≥ 256 || ready w

def selectCount (ready : Watch → Bool) (set : List Watch) : ℕ :=
  (set.dedup.filter fun w => w.fd < 256 && ready w).length

/-- With no more descriptors to be found, the modules do nothing and the walk over the pipes
returns. -/
def callReady (isset : Watcher → Bool) : List Watcher → ℕ → List Watcher × ℕ
  | [], retval => ([], retval)
  | a :: rest, retval =>
    if retval ≠ 0 ∧ isset a then
      let r := callReady isset rest (retval - 1)
      (a :: r.1, r.2)
    else callReady isset rest retval

/-- The modules are in the order of their hooks, the pipes behind them in that of the walk over
services and processes.  `select` may fail.  Given back are the watchers, those called, and
whether some were missed. -/
def initngIoModulePoll (stillOpen : Int → Bool) (select : Option (Watch → Bool))
    (watchers : List Watcher) : List Watcher × List Watcher × Bool :=
  let watchers := watchers.map (Watcher.check stillOpen)
  let set := watchers.filterMap Watcher.watch
  match select with
  | none => (watchers, [], false)
  | some ready =>
    let isset := (selectLeft ready set).contains
    let r := callReady (fun a => a.watch.any isset) watchers (selectCount ready set)
    (watchers, r.1, r.2 ≠ 0)

section
variable {stillOpen : Int → Bool} {ready : Watch → Bool} {l : List Watcher}

lemma callReady_eq {isset : Watcher → Bool} {n : ℕ} (h : l.countP isset ≤ n) :
    callReady isset l n = (l.filter isset, n - l.countP isset) := by
  induction l generalizing n with
  | nil => rfl
  | cons a l ih =>
    by_cases ha : isset a
    · rw [countP_cons_of_pos ha] at h ⊢
      rw [callReady, if_pos ⟨by omega, ha⟩, ih (by omega), filter_cons_of_pos ha, Nat.sub_sub,
        Nat.add_comm 1]
    · rw [countP_cons_of_neg ha] at h ⊢
      rw [callReady, if_neg fun h => ha h.2, ih h, filter_cons_of_neg ha]

/-- What is asked for, if it is still open. -/
def Watcher.openWatch (stillOpen : Int → Bool) (a : Watcher) : Option Watch :=
  a.watch.filter fun w => stillOpen w.fd

lemma Watcher.watch_check (a : Watcher) : (a.check stillOpen).watch = a.openWatch stillOpen := by
  have hforget : a.forget.watch = none := by
    rcases a with fds | ⟨⟨r, w⟩, dir, targets⟩
    · rfl
    · cases dir <;> rfl
  rw [check, openWatch]
  cases hw : a.watch with
  | none => simpa using hw
  | some w => cases ho : stillOpen w.fd <;> simp [ho, hw, hforget, Option.filter]

lemma filter_check : (l.map (Watcher.check stillOpen)).filter (fun a => a.watch.any ready) =
    l.filter fun a => (a.openWatch stillOpen).any ready := by
  rw [filter_map, map_congr_left (g := id), map_id]
  · exact filter_congr fun a _ => by rw [Function.comp, Watcher.watch_check]
  · intro a ha
    have hany := (mem_filter.mp ha).2
    rw [Function.comp, Watcher.watch_check, Watcher.openWatch, Option.any_filter] at hany
    refine if_pos ?_
    cases hw : a.watch <;> simp_all

end

/-- Each that is ready is called once, in the order of the walk, and no other is called, if all
have descriptors of their own below 256. -/
theorem poll_ready (stillOpen : Int → Bool) (ready : Watch → Bool) (watchers : List Watcher)
    (hown : (watchers.filterMap (Watcher.openWatch stillOpen)).Nodup)
    (hlow : ∀ w ∈ watchers.filterMap (Watcher.openWatch stillOpen), w.fd < 256) :
    initngIoModulePoll stillOpen (some ready) watchers =
      (watchers.map (Watcher.check stillOpen),
        watchers.filter fun a => (a.openWatch stillOpen).any ready, false) := by
  rw [← filter_check]
  simp only [← funext Watcher.watch_check, ← Function.comp_def, ← filterMap_map] at hown hlow
  unfold initngIoModulePoll
  generalize watchers.map (Watcher.check stillOpen) = l at *
  dsimp only
  generalize hset : l.filterMap Watcher.watch = set at *
  have hleft : selectLeft ready set = set.filter ready :=
    filter_congr fun w hw => by simp [Int.not_le.mpr (hlow w hw)]
  have hisset (a : Watcher) (ha : a ∈ l) :
      a.watch.any (selectLeft ready set).contains = a.watch.any ready := by
    cases hw : a.watch with
    | none => rfl
    | some w =>
      have hmem : w ∈ set := hset ▸ mem_filterMap.mpr ⟨a, ha, hw⟩
      simp [hleft, hmem]
  -- without two that share a descriptor there are as many to be called as `select` counts
  have hcount : selectCount ready set = l.countP fun a => a.watch.any ready := by
    rw [selectCount, hown.dedup, filter_congr (q := ready), ← countP_eq_length_filter, ← hset,
      countP_filterMap]
    · exact countP_congr fun a _ => by cases a.watch <;> rfl
    · exact fun w hw => by simp [hlow w hw]
  have hsame := countP_congr fun a ha => iff_of_eq (congrArg (· = true) (hisset a ha))
  rw [hcount, ← hsame, callReady_eq (Nat.le_refl _), Nat.sub_self, filter_congr hisset]
  rfl

/-- The descriptor of the second module is closed. -/
theorem poll_ready_pipe :
    let p : Watcher := .pipe ⟨(7, 8), .outPipe, [1]⟩
    initngIoModulePoll (· ≠ 9) (some fun _ => true) [.fModule 5, .fModule 9, p] =
      ([.fModule 5, .fModule (-1), p], [.fModule 5, p], false) :=
  (poll_ready _ _ _ (by decide) (by decide)).trans (by decide)

end Initng
