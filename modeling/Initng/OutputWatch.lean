import Initng.NgcsWatches

/-! `service_output_watch` of `modules/ngcs/initng_ngcs_cmds.c` as one walk. -/

namespace Initng

open List

def NgcsWatch.wantsOutput (name : String) (watch : NgcsWatch) : Bool :=
  watch.flags &&& ngcsWatchOutput ≠ 0 && watch.name.all (· = name)

/-- The watches that are sent the event, in turn; `fails` says where `ngcs_chan_send` fails. -/
def serviceOutputWatch (fails : ChanRef → Bool) (name : String) : List NgcsWatch → List NgcsWatch
  | [] => []
  | watch :: rest =>
    if watch.wantsOutput name then
      if fails watch.chan then [watch] else watch :: serviceOutputWatch fails name rest
    else serviceOutputWatch fails name rest

/-- No send of the event on the connection of the watch fails. -/
def Accepts (fails : ChanRef → Bool) (name : String) (watches : List NgcsWatch)
    (watch : NgcsWatch) : Bool :=
  watches.all fun w => w.chan.1 ≠ watch.chan.1 || !w.wantsOutput name || !fails w.chan

/-- Each watch that wants the event is sent it once, if its own connection accepts it. -/
def DeliversOutput (fails : ChanRef → Bool) (name : String) (watches : List NgcsWatch) : Prop :=
  (serviceOutputWatch fails name watches).filter (Accepts fails name watches) =
    (watches.filter (NgcsWatch.wantsOutput name)).filter (Accepts fails name watches)

/-- The walk ends behind the first send that fails. -/
lemma filter_serviceOutputWatch {fails : ChanRef → Bool} {name : String}
    {watches : List NgcsWatch} {P : NgcsWatch → Bool}
    (hP : ∀ w ∈ watches, w.wantsOutput name → fails w.chan → P w = false) :
    (serviceOutputWatch fails name watches).filter P =
        (watches.filter (NgcsWatch.wantsOutput name)).filter P ↔
      ∀ w ∈ (watches.filter (NgcsWatch.wantsOutput name)).dropWhile fun w => !fails w.chan,
        P w = false := by
  induction watches with
  | nil => exact iff_of_true rfl fun w hw => nomatch hw
  | cons watch rest ih =>
    have hrest := ih fun w hw => hP w (.tail _ hw)
    by_cases hwants : watch.wantsOutput name
    · cases hfails : fails watch.chan with
      | true =>
        have hwatch := hP watch (.head _) hwants hfails
        rw [serviceOutputWatch, if_pos hwants, if_pos hfails, filter_cons_of_pos hwants,
          dropWhile_cons_of_neg (by simp [hfails]), filter_cons_of_neg (by simp [hwatch]),
          filter_cons_of_neg (by simp [hwatch]), filter_nil, eq_comm, filter_eq_nil_iff]
        simp [hwatch]
      | false =>
        rw [serviceOutputWatch, if_pos hwants, if_neg (by simp [hfails]),
          filter_cons_of_pos hwants, dropWhile_cons_of_pos (by simp [hfails])]
        cases hwatch : P watch with
        | true => rwa [filter_cons_of_pos hwatch, filter_cons_of_pos hwatch, cons_inj_right]
        | false => rwa [filter_cons_of_neg (by simp [hwatch]), filter_cons_of_neg (by simp [hwatch])]
    · rw [serviceOutputWatch, if_neg hwants, filter_cons_of_neg hwants]
      exact hrest

/-- The event is delivered just if no watch of a connection that accepts it stands behind one that
a send fails for. -/
theorem deliversOutput_iff (fails : ChanRef → Bool) (name : String) (watches : List NgcsWatch) :
    DeliversOutput fails name watches ↔
      ∀ watch ∈ (watches.filter (NgcsWatch.wantsOutput name)).dropWhile fun w => !fails w.chan,
        Accepts fails name watches watch = false := by
  refine filter_serviceOutputWatch fun w hw hwants hfails => ?_
  exact all_eq_false.mpr ⟨w, hw, by simp [hwants, hfails]⟩

/-- The client of the first watch is gone, and the second one is sent nothing. -/
theorem not_always_deliversOutput :
    ¬ DeliversOutput (fun chan => chan.1 = 0) "net"
      [⟨(0, 1), none, ngcsWatchOutput⟩, ⟨(1, 1), none, ngcsWatchOutput⟩] := by
  unfold DeliversOutput
  decide

end Initng
