import Initng.DaemonHooks
import Initng.DecimalText
import Mathlib.Data.List.Nodup

/-! `modules/daemon/initng_daemon.c`. -/

namespace Initng

open DecimalText List Option

/-- What becomes of a pidfile: `open` fails, `read` fails, or it delivers these bytes. -/
inductive PidFile
  | unopened
  | unread
  | delivered (bytes : List Char)
  deriving DecidableEq

/-- The first loop of `pid_from_file`, with `len - i` and the bytes from `buf[i]` on; `none` if
it reads a byte that was not delivered. -/
def skipToDigit : ℕ → List Char → Option (ℕ × List Char)
  | 0, buf => some (0, buf)
  | _ + 1, [] => none
  | len + 1, c :: buf => if c.isDigit then some (len + 1, c :: buf) else skipToDigit len buf

/-- The second loop; `none` also if `ret` overflows. -/
def readDigits : ℕ → ℕ → List Char → Option ℕ
  | ret, 0, _ => some ret
  | _, _ + 1, [] => none
  | ret, len + 1, c :: buf =>
    if c.isDigit then
      if 10 * ret + (c.toNat - 48) ≤ 2147483647 then readDigits (10 * ret + (c.toNat - 48)) len buf
      else none
    else some ret

def scanPid (len : ℕ) (buf : List Char) : Option Int :=
  if len < 1 then some (-1)
  else (skipToDigit len buf).bind fun r => (readDigits 0 r.1 r.2).map Int.ofNat

/-- `pid_from_file`; `len` is unsigned, so that the -1 of a failing `read` is a large number. -/
def pidFromFile : PidFile → Option Int
  | .unopened => some (-1)
  | .unread => scanPid 4294967295 []
  | .delivered bytes => scanPid bytes.length bytes

def PidFile.number : PidFile → Option ℕ
  | .delivered bytes =>
    match bytes.dropWhile fun c => !c.isDigit with
    | [] => none
    | run => some (digits 0 run)
  | _ => none

/-- Only delivered bytes are read, and the pid is the number if there is one that fits. -/
def PidRead (file : PidFile) : Prop :=
  ∃ pid, pidFromFile file = some pid ∧ (∀ n ∈ file.number, n ≤ 2147483647 → pid = n) ∧
    ((∀ n ∈ file.number, 2147483647 < n) → pid ≤ 0)

lemma skipToDigit_length (buf : List Char) :
    skipToDigit buf.length buf =
      some ((buf.dropWhile fun c => !c.isDigit).length, buf.dropWhile fun c => !c.isDigit) := by
  induction buf with
  | nil => rfl
  | cons c buf ih =>
    cases hc : c.isDigit with
    | true => simp [skipToDigit, hc]
    | false => simp [skipToDigit, hc, ih]

lemma le_digits (acc : ℕ) (buf : List Char) : acc ≤ digits acc buf := by
  induction buf generalizing acc with
  | nil => exact Nat.le_refl _
  | cons c buf ih =>
    rw [digits]
    split
    · exact Nat.le_trans (by omega) (ih _)
    · exact Nat.le_refl _

lemma readDigits_length {ret : ℕ} (h : ret ≤ 2147483647) (buf : List Char) :
    readDigits ret buf.length buf =
      if digits ret buf ≤ 2147483647 then some (digits ret buf) else none := by
  induction buf generalizing ret with
  | nil => exact (if_pos h).symm
  | cons c buf ih =>
    rw [length_cons, readDigits, digits]
    split
    · split
      next hfits => exact ih hfits
      next hover =>
        have hle := le_digits (10 * ret + (c.toNat - 48)) buf
        exact (if_neg (by omega)).symm
    · rfl

lemma pidFromFile_delivered {bytes : List Char} (hne : bytes ≠ []) :
    pidFromFile (.delivered bytes) =
      if ((PidFile.delivered bytes).number.getD 0) ≤ 2147483647 then
        some ((PidFile.delivered bytes).number.getD 0 : Int) else none := by
  have hlen : ¬ bytes.length < 1 := by
    have hpos := length_pos_iff.mpr hne
    omega
  have hnumber : (PidFile.delivered bytes).number.getD 0 =
      digits 0 (bytes.dropWhile fun c => !c.isDigit) := by
    rw [PidFile.number]
    split
    next hnil => rw [hnil]; rfl
    · rfl
  rw [pidFromFile, scanPid, if_neg hlen, skipToDigit_length, bind_some,
    readDigits_length (by omega), hnumber]
  split <;> rfl

lemma pidRead_iff_fits (file : PidFile) :
    PidRead file ↔ file ≠ .unread ∧ ∀ n ∈ file.number, n ≤ 2147483647 := by
  cases file with
  | unopened => exact ⟨fun _ => ⟨by simp, nofun⟩, fun _ => ⟨-1, rfl, nofun, fun _ => by omega⟩⟩
  | unread =>
    refine ⟨fun ⟨pid, hpid, _⟩ => ?_, fun h => absurd rfl h.1⟩
    cases hpid
  | delivered bytes =>
    by_cases hne : bytes = []
    · subst hne
      exact ⟨fun _ => ⟨by simp, nofun⟩, fun _ => ⟨-1, rfl, nofun, fun _ => by omega⟩⟩
    · rw [PidRead, pidFromFile_delivered hne]
      generalize (PidFile.delivered bytes).number = number
      constructor
      · rintro ⟨pid, hpid, -⟩
        refine ⟨by simp, fun n hn => ?_⟩
        obtain rfl : number = some n := hn
        split at hpid
        next hle => exact hle
        · cases hpid
      · rintro ⟨-, h⟩
        cases number with
        | none => exact ⟨0, rfl, nofun, fun _ => Int.le_refl 0⟩
        | some n =>
          have hle : n ≤ 2147483647 := h n rfl
          refine ⟨n, if_pos hle, fun m hm _ => ?_, fun hbig => ?_⟩
          · rw [some.inj hm]
          · exact absurd (hbig n rfl) (by omega)

lemma number_of_pidFromFile {file : PidFile} {pid : Int} (h : pidFromFile file = some pid)
    (hpid : 1 < pid) : ∃ n : ℕ, file.number = some n ∧ pid = n := by
  cases file with
  | unopened => cases h; omega
  | unread => cases h
  | delivered bytes =>
    by_cases hne : bytes = []
    · subst hne
      cases h
      omega
    · rw [pidFromFile_delivered hne] at h
      split at h
      · cases hn : (PidFile.delivered bytes).number with
        | none =>
          rw [hn] at h
          obtain rfl := some.inj h
          exact absurd hpid (by decide)
        | some n =>
          rw [hn] at h
          exact ⟨n, rfl, (some.inj h).symm⟩
      · cases h

lemma pidFromFiles_written {files : String → PidFile} {env : Env} {entries : List (Option String)}
    (h : ∀ path, some path ∈ entries → pidFromFile (files path) = some (env.pidFromFile path)) :
    pidFromFiles env entries = -1 ∨ ∃ path, ∃ n : ℕ, some path ∈ entries ∧
      (files path).number = some n ∧ pidFromFiles env entries = n := by
  induction entries with
  | nil => exact .inl rfl
  | cons entry rest ih =>
    cases entry with
    | none => exact .inl rfl
    | some path =>
      rw [pidFromFiles]
      split
      · exact .inl rfl
      · split
        next hpid =>
          obtain ⟨n, hn, heq⟩ := number_of_pidFromFile (h path (.head _)) hpid
          exact .inr ⟨path, n, .head _, hn, heq⟩
        · refine (ih fun path hpath => h path (.tail _ hpath)).imp_right ?_
          rintro ⟨path, n, hmem, hn⟩
          exact ⟨path, n, .tail _ hmem, hn⟩

/-- A pidfile is read exactly if `read` does not fail and the number in it fits; and what
`get_pidfile` returns is written in a pidfile, where all that it reads have a pid. -/
theorem pidRead_iff (files : String → PidFile) :
    (∀ path, PidRead (files path) ↔
      files path ≠ .unread ∧ ∀ n ∈ (files path).number, n ≤ 2147483647) ∧
    ∀ (env : Env) (g : G) (s : Sid),
      (∀ path, some path ∈ strings .pidfile g s →
        pidFromFile (files path) = some (env.pidFromFile path)) →
      getPidfile env g s = -1 ∨ ∃ path, ∃ n : ℕ, some path ∈ strings .pidfile g s ∧
        (files path).number = some n ∧ getPidfile env g s = n :=
  ⟨fun path => pidRead_iff_fits (files path), fun _ _ _ h => pidFromFiles_written h⟩

/-- The number does not fit. -/
theorem not_always_pidRead : ¬ ∀ bytes : List Char, bytes.length ≤ 20 →
    PidRead (.delivered bytes) := by
  intro h
  obtain ⟨pid, hpid, -⟩ := h "2147483648".toList (by decide)
  cases hpid

structure ProcEntry where
  dName : List Char
  stat : Option (List Char)
  deriving DecidableEq

def statMatches (name stat : List Char) : Bool :=
  match (stat.take 511).dropWhile (· ≠ ' ') with
  | _ :: '(' :: s =>
    -- `strncmp(s, name, len)`: only as much of `name` counts as there is in parentheses
    let len := (s.takeWhile (· ≠ ')')).length
    s.take len = name.take len
  | _ => false

def pidOf (name : List Char) : List ProcEntry → Int
  | [] => -1
  | d :: dir =>
    if 0 < atoi d.dName ∧ d.stat.any (statMatches name) then atoi d.dName else pidOf name dir

structure Proc where
  pid : Int
  name : List Char
  rest : List Char
  pid_pos : 0 < pid
  pid_lt : pid < 2147483648
  name_length : name.length ≤ 15
  stat_length : (printed pid ++ ' ' :: '(' :: (name ++ ')' :: rest)).length ≤ 511

def Proc.entry (p : Proc) : ProcEntry :=
  ⟨printed p.pid, some (printed p.pid ++ ' ' :: '(' :: (p.name ++ ')' :: p.rest))⟩

inductive ProcDir : List ProcEntry → List Proc → Prop
  | nil : ProcDir [] []
  | other {d dir procs} : atoi d.dName ≤ 0 → ProcDir dir procs → ProcDir (d :: dir) procs
  | process {dir procs} (p : Proc) : ProcDir dir procs → ProcDir (p.entry :: dir) (p :: procs)

def Proc.named (name : List Char) (p : Proc) : Bool := p.name.take 15 = name.take 15

/-- Up to the first parenthesis, the name of the process is what the wanted one begins with. -/
def Proc.taken (name : List Char) (p : Proc) : Bool := (p.name.takeWhile (· ≠ ')')).isPrefixOf name

def pidOfFirst (procs : Option Proc) : Int := (procs.map Proc.pid).getD (-1)

section
variable {name : List Char} {dir : List ProcEntry} {procs : List Proc}

lemma takeWhile_close (name rest : List Char) :
    (name ++ ')' :: rest).takeWhile (· ≠ ')') = name.takeWhile (· ≠ ')') := by
  induction name with
  | nil => rfl
  | cons c name ih => rw [cons_append, takeWhile_cons, takeWhile_cons, ih]

lemma statMatches_entry (p : Proc) : p.entry.stat.any (statMatches name) = p.taken name := by
  have hspace : ∀ c ∈ printed p.pid, decide (c ≠ ' ') = true := by
    intro c hc
    refine decide_eq_true ?_
    rintro rfl
    exact notMem_printed (by decide) (by decide) p.pid hc
  have hcut : (p.name ++ ')' :: p.rest).take (p.name.takeWhile (· ≠ ')')).length =
      p.name.takeWhile (· ≠ ')') := by
    rw [← takeWhile_close p.name p.rest]
    exact (prefix_iff_eq_take.mp ( takeWhile_prefix _)).symm
  rw [Proc.entry, any_some, statMatches, take_of_length_le p.stat_length,
    dropWhile_append_of_pos hspace, dropWhile_cons_of_neg (by simp)]
  show decide ((p.name ++ ')' :: p.rest).take
    ((p.name ++ ')' :: p.rest).takeWhile (· ≠ ')')).length = name.take _) = _
  rw [takeWhile_close, hcut, Proc.taken, Bool.eq_iff_iff, decide_eq_true_eq,
    isPrefixOf_iff_prefix, prefix_iff_eq_take]

lemma pidOf_eq (h : ProcDir dir procs) : pidOf name dir = pidOfFirst (procs.find? (Proc.taken name)) := by
  induction h with
  | nil => rfl
  | other hd _ ih => rw [pidOf, if_neg (by omega), ih]
  | process p _ ih =>
    have hpid : atoi p.entry.dName = p.pid :=
      atoi_printed (Int.le_of_lt (Int.lt_trans (by decide) p.pid_pos)) p.pid_lt
    rw [pidOf, hpid, statMatches_entry, find?_cons]
    cases p.taken name with
    | true => simp [p.pid_pos, pidOfFirst]
    | false => simp [ih]

lemma taken_of_named {p : Proc} (h : p.named name) : p.taken name := by
  have heq : p.name = name.take 15 := by
    rw [← of_decide_eq_true h, take_of_length_le p.name_length]
  have hbegins : p.name <+: name := heq ▸ take_prefix 15 name
  exact isPrefixOf_iff_prefix.mpr (( takeWhile_prefix _).trans hbegins)

/-- The pid is that of the first process with the name exactly if the first process whose name
the wanted one begins with has the name. -/
theorem pidOf_eq_iff (hdir : ProcDir dir procs) (hpids : (procs.map Proc.pid).Nodup) :
    pidOf name dir = pidOfFirst (procs.find? (Proc.named name)) ↔
      ∀ p, procs.find? (Proc.taken name) = some p → p.named name := by
  rw [pidOf_eq hdir]
  cases hfirst : procs.find? (Proc.taken name) with
  | none =>
    have hnone : procs.find? (Proc.named name) = none :=
      find?_eq_none.mpr fun p hp hnamed => find?_eq_none.mp hfirst p hp (taken_of_named hnamed)
    simp [hnone]
  | some p =>
    constructor
    · rintro heq p' ⟨⟩
      cases hq : procs.find? (Proc.named name) with
      | none =>
        rw [hq] at heq
        have hneg : p.pid = -1 := heq
        have hpos := p.pid_pos
        omega
      | some q =>
        rw [hq] at heq
        obtain rfl : p = q :=
          inj_on_of_nodup_map hpids (mem_of_find?_eq_some hfirst) (mem_of_find?_eq_some hq) heq
        exact find?_some hq
    · intro h
      obtain ⟨-, front, behind, rfl, hfront⟩ := find?_eq_some_iff_append.mp hfirst
      have hp : (front ++ p :: behind).find? (Proc.named name) = some p := by
        refine find?_eq_some_iff_append.mpr ⟨h p rfl, front, behind, rfl, fun q hq => ?_⟩
        cases hnamed : q.named name with
        | false => rfl
        | true => simpa [taken_of_named hnamed] using hfront q hq
      rw [hp]

end

def sshd : Proc := ⟨80, "sshd".toList, [], by decide, by decide, by decide, by decide⟩

def ss : Proc := ⟨7, "ss".toList, [], by decide, by decide, by decide, by decide⟩

theorem pidOf_sshd : pidOf "sshd".toList [⟨"self".toList, none⟩, sshd.entry, ss.entry] = 80 :=
  (pidOf_eq_iff (.other (by decide) (.process sshd (.process ss .nil))) (by decide)).mpr (by
    rintro p ⟨⟩
    decide)

theorem not_always_pidByName : ¬ ∀ (name : List Char) (dir : List ProcEntry) (procs : List Proc),
    ProcDir dir procs → (procs.map Proc.pid).Nodup → ')' ∉ name →
      pidOf name dir = pidOfFirst (procs.find? (Proc.named name)) := by
  intro h
  have heq := h "sshd".toList [ss.entry, sshd.entry] [ss, sshd]
    (.process ss (.process sshd .nil)) (by decide) (by decide)
  exact absurd heq (by decide)

end Initng
