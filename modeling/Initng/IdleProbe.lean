import Mathlib.Data.List.Basic

/-! `is_cpu_idle` of `modules/idleprobe/initng_idleprobe.c`. -/

namespace Initng

/-- The counters of a line of `/proc/stat`. -/
structure CpuSample where
  user : ℕ
  nice : ℕ
  system : ℕ
  idle : ℕ
  dummy1 : ℕ
  dummy2 : ℕ
  dummy3 : ℕ
  deriving DecidableEq

/-- The static variables: `old_cpu_user` and so on, `cpu_user` and so on, `last`, `idle_cnt`. -/
structure IdleProbe where
  old : CpuSample
  cpu : CpuSample
  last : Int
  idleCnt : ℕ
  deriving DecidableEq

/-- `cpu_idle_frm`. -/
def CpuSample.idleFrm (old cpu : CpuSample) : Int :=
  if cpu.idle > old.idle then (cpu.idle : Int) - old.idle else 0

/-- `cpu_tot_frm`, before it is made positive. -/
def CpuSample.totFrm (old cpu : CpuSample) : Int :=
  ((cpu.user : Int) - old.user) + ((cpu.nice : Int) - old.nice) +
    ((cpu.system : Int) - old.system) + old.idleFrm cpu + ((cpu.dummy1 : Int) - old.dummy1) +
    ((cpu.dummy2 : Int) - old.dummy2) + ((cpu.dummy3 : Int) - old.dummy3)

/-- `is_cpu_idle` at the time `now`, when `/proc/stat` is read as `sample`; the fault is an overflow
of `cpu_tot_frm`. -/
def isCpuIdle (wait now : Int) (sample : Option CpuSample) (c : IdleProbe) :
    Option (Bool × IdleProbe) :=
  if wait < 0 then some (false, c)
  else if now = c.last then some (false, c)
  else
    match sample with
    | none => some (false, { c with last := now })
    | some cpu =>
      let c : IdleProbe := { c with last := now, cpu := cpu }
      if c.old.totFrm cpu > 9223372036854775807 then none
      else
        let tot := if c.old.totFrm cpu < 1 then 1 else c.old.totFrm cpu
        let scale := 100000 / tot
        if c.old.user = 0 then some (false, { c with old := cpu })
        else if c.old.idleFrm cpu * scale > 90000 then
          let c : IdleProbe := { c with idleCnt := c.idleCnt + 1 }
          if wait < c.idleCnt then some (true, c) else some (false, { c with old := cpu })
        else some (false, { c with idleCnt := 0, old := cpu })

/-- No counter of the earlier sample is larger, and there is some user time and some difference. -/
structure CpuSample.Before (old cpu : CpuSample) : Prop where
  user : 0 < old.user ∧ old.user ≤ cpu.user
  nice : old.nice ≤ cpu.nice
  system : old.system ≤ cpu.system
  idle : old.idle ≤ cpu.idle
  dummy : old.dummy1 ≤ cpu.dummy1 ∧ old.dummy2 ≤ cpu.dummy2 ∧ old.dummy3 ≤ cpu.dummy3
  total : 1 ≤ old.totFrm cpu

/-- The call counts the sample just if the processor was more than 90 percent idle since the sample
before. -/
def Detects (wait now : Int) (cpu : CpuSample) (c : IdleProbe) : Prop :=
  ∃ r ∈ isCpuIdle wait now (some cpu) c,
    r.2.idleCnt = (if 10 * c.cpu.idleFrm cpu > 9 * c.cpu.totFrm cpu then c.idleCnt + 1 else 0) ∧
      (r.1 = true → wait < r.2.idleCnt)

/-- The scale is rounded down, so that nothing is taken for idle that is not. -/
lemma idle_of_scaled {idle tot : Int} (htot : 1 ≤ tot)
    (h : idle * (100000 / tot) > 90000) : 10 * idle > 9 * tot := by
  have hscale : 100000 / tot * tot ≤ 100000 := Int.ediv_mul_le _ (by omega)
  by_contra hnot
  have hle : 10 * idle * (100000 / tot) ≤ 9 * tot * (100000 / tot) :=
    Int.mul_le_mul_of_nonneg_right (by omega) (Int.ediv_nonneg (by decide) (by omega))
  have hcomm : 9 * tot * (100000 / tot) = 9 * (100000 / tot * tot) := by
    rw [Int.mul_assoc, Int.mul_comm tot]
  rw [hcomm, Int.mul_assoc] at hle
  omega

end Initng
