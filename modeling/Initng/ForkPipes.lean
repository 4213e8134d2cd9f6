import Initng.ProcessDb
import Mathlib.Data.List.Nodup

/-! `main/fork/fork.c`. -/

namespace Initng

open List Function

/-- What each descriptor refers to, and whether it is closed on `execve`. -/
abbrev FdTable := Int → Option (Int × Bool)

def lowestFree (used : List Int) : Int :=
  ((range (used.length + 1)).find? fun fd => !used.contains (fd : Int)).getD 0

/-- `pipes_create`: `pipe` and `socketpair` take the lowest descriptors that are not in use. -/
def pipesCreate : List PipeH → List Int → List PipeH × List Int
  | [], used => ([], used)
  | p :: pipes, used =>
    let fd₀ := lowestFree used
    let fd₁ := lowestFree (fd₀ :: used)
    let r := pipesCreate pipes (fd₁ :: fd₀ :: used)
    ({ p with pipe := (fd₀, fd₁) } :: r.1, r.2)

def closeFd (fd : Int) (fds : FdTable) : FdTable := update fds fd none

/-- `dup2` of a descriptor that is closed fails. -/
def dup2 (old new : Int) (fds : FdTable) : FdTable :=
  match fds old with
  | none => fds
  | some file => if old = new then fds else update fds new (some (file.1, false))

def keepOnExec (fd : Int) (fds : FdTable) : FdTable :=
  update fds fd ((fds fd).map fun file => (file.1, false))

def setupTarget (p : PipeH) (fds : FdTable) (target : Int) : FdTable :=
  let fds := closeFd target fds
  let fds :=
    match p.dir with
    | .outPipe | .bufferedOutPipe => dup2 p.pipe.2 target fds
    | .inPipe | .inAndOutPipe => dup2 p.pipe.1 target fds
    | .unknownPipe => fds
  keepOnExec target fds

def pipesSetupLocalSide (pipes : List PipeH) (fds : FdTable) : FdTable :=
  pipes.foldl (fun fds p => p.targets.foldl (setupTarget p) fds) fds

def PipeH.childEnd (p : PipeH) : Int :=
  match p.dir with
  | .outPipe | .bufferedOutPipe => p.pipe.2
  | _ => p.pipe.1

def inherited (used : List Int) (closed : Int → Bool) : FdTable := fun fd =>
  if used.contains fd then some (fd, closed fd) else none

/-- Every target refers to the end of its pipe, and stays open. -/
def Wired (pipes : List PipeH) (fds : FdTable) : Prop :=
  ∀ p ∈ pipes, ∀ target ∈ p.targets, fds target = some (p.childEnd, false)

/-- No target is the end of its own pipe, or of a later one that has targets. -/
def TargetsApart (pipes : List PipeH) : Prop :=
  (∀ p ∈ pipes, p.childEnd ∉ p.targets) ∧
    pipes.Pairwise fun p q => q.targets ≠ [] → q.childEnd ∉ p.targets

def wireTarget (fds : FdTable) (w : Int × Int) : FdTable :=
  update fds w.2 (if w.1 = w.2 then none else (fds w.1).map fun file => (file.1, false))

def PipeH.wires (p : PipeH) : List (Int × Int) := p.targets.map fun target => (p.childEnd, target)

lemma setupTarget_eq {p : PipeH} (hdir : p.dir ≠ .unknownPipe) (fds : FdTable) (target : Int) :
    setupTarget p fds target = wireTarget fds (p.childEnd, target) := by
  have hdup (old : Int) : keepOnExec target (dup2 old target (closeFd target fds)) =
      wireTarget fds (old, target) := by
    by_cases hold : old = target
    · subst hold
      simp [keepOnExec, dup2, closeFd, wireTarget]
    · cases hfile : fds old <;> simp [keepOnExec, dup2, closeFd, wireTarget, hold, hfile]
  unfold setupTarget PipeH.childEnd
  cases hp : p.dir with
  | unknownPipe => exact absurd hp hdir
  | outPipe | bufferedOutPipe | inPipe | inAndOutPipe => exact hdup _

lemma pipesSetupLocalSide_eq {pipes : List PipeH} (hdirs : ∀ p ∈ pipes, p.dir ≠ .unknownPipe)
    (fds : FdTable) :
    pipesSetupLocalSide pipes fds = (pipes.flatMap PipeH.wires).foldl wireTarget fds := by
  induction pipes generalizing fds with
  | nil => rfl
  | cons p pipes ih =>
    have hp : setupTarget p = fun fds target => wireTarget fds (p.childEnd, target) :=
      funext fun fds => funext fun target => setupTarget_eq (hdirs p (.head _)) fds target
    rw [flatMap_cons, foldl_append, PipeH.wires, foldl_map, ← hp]
    exact ih (fun q hq => hdirs q (.tail _ hq)) _

lemma foldl_wire_of_notMem {wires : List (Int × Int)} {fd : Int} (h : fd ∉ wires.map Prod.snd)
    (fds : FdTable) : wires.foldl wireTarget fds fd = fds fd := by
  induction wires generalizing fds with
  | nil => rfl
  | cons w wires ih =>
    rw [map_cons, mem_cons, not_or] at h
    rw [foldl_cons, ih h.2]
    exact update_of_ne h.1 _ _

lemma wire_self_eq_some {fds : FdTable} {w : Int × Int} {file : Int × Bool}
    (h : wireTarget fds w w.2 = some file) :
    w.1 ≠ w.2 ∧ (fds w.1).map (fun file => (file.1, false)) = some file := by
  rw [wireTarget, update_self] at h
  split at h
  · cases h
  next hne => exact ⟨hne, h⟩

/-- Every target is set up once, so that it stays as it is then; and the end of its pipe is what
it was unless it has been a target before. -/
lemma wired_iff_apart {wires : List (Int × Int)} {fds : FdTable}
    (htargets : (wires.map Prod.snd).Nodup)
    (hopen : ∀ w ∈ wires, ∃ closed, fds w.1 = some (w.1, closed)) :
    (∀ w ∈ wires, wires.foldl wireTarget fds w.2 = some (w.1, false)) ↔
      (∀ w ∈ wires, w.1 ≠ w.2) ∧ wires.Pairwise fun w w' => w'.1 ≠ w.2 := by
  induction wires generalizing fds with
  | nil => simp
  | cons w wires ih =>
    rw [map_cons, nodup_cons] at htargets
    have hfirst := foldl_wire_of_notMem htargets.1 (wireTarget fds w)
    by_cases hlater : ∀ w' ∈ wires, w'.1 ≠ w.2
    · obtain ⟨closed, hfile⟩ := hopen w (.head _)
      have hw : wires.foldl wireTarget (wireTarget fds w) w.2 = some (w.1, false) ↔ w.1 ≠ w.2 := by
        rw [hfirst]
        refine ⟨fun h => (wire_self_eq_some h).1, fun hne => ?_⟩
        rw [wireTarget, update_self, if_neg hne, hfile, Option.map_some]
      have hopen' : ∀ w' ∈ wires, ∃ closed, wireTarget fds w w'.1 = some (w'.1, closed) := by
        intro w' hw'
        obtain ⟨closed', hfile'⟩ := hopen w' (.tail _ hw')
        exact ⟨closed', (update_of_ne (hlater w' hw') _ _).trans hfile'⟩
      simp only [foldl_cons, forall_mem_cons, pairwise_cons, hw, ih htargets.2 hopen']
      exact ⟨fun h => ⟨⟨h.1, h.2.1⟩, hlater, h.2.2⟩, fun h => ⟨h.1.1, h.1.2, h.2.2⟩⟩
    · refine iff_of_false (fun h => hlater fun w' hw' heq => ?_)
        fun h => hlater (pairwise_cons.mp h.2).1
      -- at its turn, `w'` copies what `w` has put there
      obtain ⟨front, behind, rfl⟩ := append_of_mem hw'
      have hput : wireTarget fds w w.2 = some (w.1, false) := hfirst ▸ h w (.head _)
      rw [map_append, map_cons, mem_append, mem_cons, nodup_append, nodup_cons] at htargets
      have hstays : front.foldl wireTarget (wireTarget fds w) w.2 = some (w.1, false) :=
        (foldl_wire_of_notMem (fun hm => htargets.1 (.inl hm)) _).trans hput
      have hcopy := h w' (.tail _ hw')
      rw [foldl_cons, foldl_append, foldl_cons, foldl_wire_of_notMem htargets.2.2.1.1] at hcopy
      have hfile := (wire_self_eq_some hcopy).2
      rw [heq, hstays] at hfile
      exact (wire_self_eq_some hput).1 (Prod.mk.inj (Option.some.inj hfile)).1

lemma targetsApart_iff {pipes : List PipeH} :
    ((∀ w ∈ pipes.flatMap PipeH.wires, w.1 ≠ w.2) ∧
      (pipes.flatMap PipeH.wires).Pairwise fun w w' => w'.1 ≠ w.2) ↔ TargetsApart pipes := by
  have hown {p : PipeH} : (∀ w ∈ p.wires, w.1 ≠ w.2) ↔ p.childEnd ∉ p.targets := by
    rw [PipeH.wires, forall_mem_map]
    refine ⟨fun h hm => h _ hm rfl, fun h target hm heq => h ?_⟩
    obtain rfl : p.childEnd = target := heq
    exact hm
  have hlater {p q : PipeH} : (∀ w ∈ p.wires, ∀ w' ∈ q.wires, w'.1 ≠ w.2) ↔
      (q.targets ≠ [] → q.childEnd ∉ p.targets) := by
    simp only [PipeH.wires, forall_mem_map]
    constructor
    · intro h hne hm
      obtain ⟨target, htarget⟩ := exists_mem_of_ne_nil _ hne
      exact h _ hm target htarget rfl
    · rintro h target hm target' hm' rfl
      exact h (ne_nil_of_mem hm') hm
  rw [pairwise_flatMap]
  constructor
  · rintro ⟨hne, -, hpairs⟩
    exact ⟨fun p hp => hown.mp fun w hw => hne w (mem_flatMap.mpr ⟨p, hp, hw⟩),
      hpairs.imp hlater.mp⟩
  · rintro ⟨hne, hpairs⟩
    refine ⟨fun w hw => ?_, fun p hp => ?_, hpairs.imp hlater.mpr⟩
    · obtain ⟨p, hp, hw⟩ := mem_flatMap.mp hw
      exact hown.mpr (hne p hp) w hw
    · rw [PipeH.wires, pairwise_map]
      refine pairwise_of_forall_mem_list fun target hm _ _ heq => hne p hp ?_
      obtain rfl : p.childEnd = target := heq
      exact hm

lemma pipesCreate_spec (pipes : List PipeH) (used : List Int) :
    used ⊆ (pipesCreate pipes used).2 ∧
      (∀ p ∈ (pipesCreate pipes used).1, p.childEnd ∈ (pipesCreate pipes used).2) ∧
      (pipesCreate pipes used).1.map PipeH.dir = pipes.map PipeH.dir ∧
      (pipesCreate pipes used).1.map PipeH.targets = pipes.map PipeH.targets := by
  induction pipes generalizing used with
  | nil => simp [pipesCreate]
  | cons p pipes ih =>
    obtain ⟨hused, hends, hdirs, htargets⟩ := ih (lowestFree (lowestFree used :: used) ::
      lowestFree used :: used)
    refine ⟨fun fd hfd => hused (.tail _ (.tail _ hfd)), ?_, ?_, ?_⟩
    · rw [pipesCreate, forall_mem_cons]
      refine ⟨?_, hends⟩
      unfold PipeH.childEnd
      split
      · exact hused (.head _)
      · exact hused (.head _)
      · exact hused (.tail _ (.head _))
    · rw [pipesCreate, map_cons, map_cons, hdirs]
    · rw [pipesCreate, map_cons, map_cons, htargets]

/-- The descriptors of a child are wired exactly if no target is the end of its own pipe or of a
later one. -/
theorem wired_iff (pipes : List PipeH) (used : List Int) (closed : Int → Bool)
    (hdirs : ∀ p ∈ pipes, p.dir ≠ .unknownPipe) (htargets : (pipes.flatMap PipeH.targets).Nodup) :
    Wired (pipesCreate pipes used).1 (pipesSetupLocalSide (pipesCreate pipes used).1
      (inherited (pipesCreate pipes used).2 closed)) ↔ TargetsApart (pipesCreate pipes used).1 := by
  obtain ⟨-, hends, hdir, htarget⟩ := pipesCreate_spec pipes used
  generalize pipesCreate pipes used = created at *
  have hdirs' : ∀ p ∈ created.1, p.dir ≠ .unknownPipe := by
    rwa [← forall_mem_map (P := (· ≠ EDir.unknownPipe)), hdir, forall_mem_map]
  have hnodup : ((created.1.flatMap PipeH.wires).map Prod.snd).Nodup := by
    have hsnd : (fun p => (PipeH.wires p).map Prod.snd) = PipeH.targets := by
      funext p
      simp [PipeH.wires, Function.comp_def]
    rw [map_flatMap, hsnd, flatMap_def, htarget, ← flatMap_def]
    exact htargets
  have hopen : ∀ w ∈ created.1.flatMap PipeH.wires,
      ∃ flag, inherited created.2 closed w.1 = some (w.1, flag) := by
    intro w hw
    obtain ⟨p, hp, hw⟩ := mem_flatMap.mp hw
    obtain ⟨target, -, rfl⟩ := mem_map.mp hw
    exact ⟨_, if_pos (contains_iff_mem.mpr (hends p hp))⟩
  rw [← targetsApart_iff, ← wired_iff_apart hnodup hopen, Wired, pipesSetupLocalSide_eq hdirs']
  constructor
  · intro h w hw
    obtain ⟨p, hp, hw⟩ := mem_flatMap.mp hw
    obtain ⟨target, hm, rfl⟩ := mem_map.mp hw
    exact h p hp target hm
  · exact fun h p hp target hm =>
      h (p.childEnd, target) (mem_flatMap.mpr ⟨p, hp, mem_map.mpr ⟨target, hm, rfl⟩⟩)

def parsePipes : List PipeH :=
  (processDbNew ⟨"parse", true⟩).pipes ++ [{ processDbPipeNew .inAndOutPipe with targets := [3] }]

theorem wired_parsePipes :
    Wired (pipesCreate parsePipes [0, 1, 2]).1 (pipesSetupLocalSide
      (pipesCreate parsePipes [0, 1, 2]).1
      (inherited (pipesCreate parsePipes [0, 1, 2]).2 fun _ => false)) :=
  (wired_iff parsePipes [0, 1, 2] (fun _ => false) (by decide) (by decide)).mpr
    ⟨by decide, by decide⟩

/-- The target is the end of its pipe, which is closed for it. -/
theorem not_always_wired :
    ¬ ∀ (pipes : List PipeH) (used : List Int) (closed : Int → Bool),
      (∀ p ∈ pipes, p.dir ≠ .unknownPipe) → (pipes.flatMap PipeH.targets).Nodup →
      (∀ p ∈ pipes, ∀ target ∈ p.targets, 0 < target) → [0, 1, 2] ⊆ used →
      Wired (pipesCreate pipes used).1 (pipesSetupLocalSide (pipesCreate pipes used).1
        (inherited (pipesCreate pipes used).2 closed)) := by
  intro h
  have hwired := h [{ processDbPipeNew .outPipe with targets := [4] }] [0, 1, 2] (fun _ => false)
    (by decide) (by decide) (by decide) (by decide)
  exact absurd (hwired _ (.head _) 4 (.head _)) (by decide)

end Initng
