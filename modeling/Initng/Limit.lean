import Initng.ServiceHooks

namespace Initng

structure Rlimit where
  cur : ℕ
  max : ℕ
  deriving DecidableEq

/-- The product of two `int`s, converted to an `rlim_t` of 64 bits; `none` if it overflows. -/
def rlimProduct (value times : Int) : Option ℕ :=
  if -2147483648 ≤ value * times ∧ value * times ≤ 2147483647 then
    some (value * times % 18446744073709551616).toNat
  else none

section SetLimit

variable (service : Sid) (times : Int) (w : World)

def takeLimit (entry : SEntry) (current : ℕ) : Option ℕ :=
  if is entry w.g service then rlimProduct (w.getInt entry service) times else some current

/-- `set_limit` with the outcomes of `getrlimit` and `setrlimit`: its result and the limits it
passes to `setrlimit`; `none` if a product overflows. -/
def setLimit (soft hard : SEntry) (getrlimit : Option Rlimit) (setrlimit : Rlimit → Bool) :
    Option (Int × Option Rlimit) :=
  if is soft w.g service || is hard w.g service then
    match getrlimit with
    | none => some (-1, none)
    | some l => do
      let cur ← takeLimit service times w soft l.cur
      let max ← takeLimit service times w hard l.max
      -- the hard limit is raised to the soft one, also where it is configured
      let l : Rlimit := ⟨cur, if max < cur then cur else max⟩
      return (if setrlimit l then 0 else -1, some l)
  else some (0, none)

def configured (entry : SEntry) : Option ℕ :=
  if is entry w.g service then some (w.getInt entry service * times).toNat else none

/-- The limits to be set: an unconfigured soft limit stays below a configured hard one, and an
unconfigured hard limit grows with the soft one. -/
def Rlimit.requested (soft hard : Option ℕ) (l : Rlimit) : Rlimit where
  cur := soft.getD (hard.elim l.cur fun h => if h < l.cur then h else l.cur)
  max := hard.getD (soft.elim l.max fun s => if l.max < s then s else l.max)

def LimitsExact (soft hard : SEntry) (l : Rlimit) : Prop :=
  ∀ setrlimit : Rlimit → Bool, ∃ ret,
    setLimit service times w soft hard (some l) setrlimit = some (ret,
      some (l.requested (configured service times w soft) (configured service times w hard)))

variable {service times w}

lemma rlimProduct_eq {value : Int} (h : 0 ≤ value * times) :
    rlimProduct value times =
      if value * times ≤ 2147483647 then some (value * times).toNat else none := by
  unfold rlimProduct
  split_ifs with hrange hle hle
  · rw [Int.emod_eq_of_lt h (by omega)]
  · omega
  · omega
  · rfl

lemma takeLimit_eq {entry : SEntry} (h : 0 ≤ w.getInt entry service * times) (current : ℕ) :
    takeLimit service times w entry current =
      if w.getInt entry service * times ≤ 2147483647 then
        some ((configured service times w entry).getD current) else none := by
  unfold takeLimit configured
  by_cases hset : is entry w.g service
  · simp [hset, rlimProduct_eq h]
  · simp [hset, World.getInt]

/-- The limits are exact if and only if no product overflows and the soft limit, configured or
current, does not exceed a configured hard limit. -/
theorem limitsExact_iff {soft hard : SEntry} {l : Rlimit}
    (hset : is soft w.g service ∨ is hard w.g service) (htimes : 0 ≤ times)
    (hsoft : 0 ≤ w.getInt soft service) (hhard : 0 ≤ w.getInt hard service) :
    LimitsExact service times w soft hard l ↔
      w.getInt soft service * times ≤ 2147483647 ∧ w.getInt hard service * times ≤ 2147483647 ∧
        ∀ h ∈ configured service times w hard,
          (configured service times w soft).getD l.cur ≤ h := by
  have hs : 0 ≤ w.getInt soft service * times := Int.mul_nonneg hsoft htimes
  have hh : 0 ≤ w.getInt hard service * times := Int.mul_nonneg hhard htimes
  simp only [LimitsExact, setLimit, Bool.or_eq_true, hset, if_true, takeLimit_eq hs,
    takeLimit_eq hh]
  by_cases hsle : w.getInt soft service * times ≤ 2147483647
  · by_cases hhle : w.getInt hard service * times ≤ 2147483647
    · -- which values are configured decides which of the two repairs the request has
      simp only [hsle, hhle, if_true, true_and]
      have hone : (configured service times w soft).isSome ∨
          (configured service times w hard).isSome := by simpa [configured] using hset
      generalize configured service times w soft = s at *
      generalize configured service times w hard = h at *
      cases s <;> cases h <;> simp_all [Rlimit.requested] <;> omega
    · simp [hsle, hhle]
  · simp [hsle]

end SetLimit

def openFiles (hard : Int) : World :=
  World.setInt (.other "rlimit_nofile_hard") 0 hard
    ⟨configGlobalNew ⟨0, 0⟩, twoServices, fun _ _ => 0, 0, 0, []⟩

theorem limitsExact_openFiles :
    LimitsExact 0 1 (openFiles 2048) (.other "rlimit_nofile_soft") (.other "rlimit_nofile_hard")
      ⟨1024, 4096⟩ :=
  (limitsExact_iff (by decide) (by decide) (by decide) (by decide)).mpr (by decide)

theorem not_always_limitsExact :
    ¬ ∀ (w : World) (l : Rlimit), is (.other "rlimit_nofile_hard") w.g 0 →
      0 ≤ w.getInt (.other "rlimit_nofile_hard") 0 →
      LimitsExact 0 1 w (.other "rlimit_nofile_soft") (.other "rlimit_nofile_hard") l := by
  intro h
  obtain ⟨ret, hret⟩ := h (openFiles 8) ⟨1024, 4096⟩ (by decide) (by decide) fun _ => true
  -- the hard limit of 8 is raised to the soft limit
  have hpassed : setLimit 0 1 (openFiles 8) (.other "rlimit_nofile_soft")
      (.other "rlimit_nofile_hard") (some ⟨1024, 4096⟩) (fun _ => true) =
        some (0, some ⟨1024, 1024⟩) := by decide
  have hlimits := (Prod.mk.inj (Option.some.inj (hpassed.symm.trans hret))).2
  exact absurd hlimits (by decide)

end Initng
