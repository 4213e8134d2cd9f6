import Initng.ServiceFile
import Initng.TextSearch

/-! `tools/killalli5.c`. -/

namespace Initng.KillAll

open TextSearch List

/-- A process as `readproc` finds it; kernel threads and zombies have no `argv0` here. -/
structure Proc where
  pid : Int
  sid : Int
  argv0 : Option (List Char)
  deriving DecidableEq

structure Killer where
  pid : Int
  sid : Int
  ignorelist : Option (List Char)

def Killer.protects (k : Killer) (p : Proc) : Bool :=
  if p.pid = 1 then true
  else if p.pid = k.pid then true
  else if p.sid = k.sid then true
  else
    match p.argv0 with
    | none => true
    | some argv0 => "bash_helper".toList.isPrefixOf argv0 ||
        k.ignorelist.any fun text => (afterFirst (stringBasename argv0) text).isSome

def markSession (sid : Int) (q : Proc × Bool) : Proc × Bool :=
  if q.2 = false ∧ q.1.sid = sid then (q.1, true) else q

def markFrom (plist : List (Proc × Bool)) (i : ℕ) : List (Proc × Bool) :=
  match plist[i]? with
  | none => plist
  | some p => if 0 < p.1.sid ∧ p.2 = true then plist.map (markSession p.1.sid) else plist

def Killer.killed (k : Killer) (plist : List Proc) : List Int :=
  let marked := (range plist.length).foldl markFrom (plist.map fun p => (p, k.protects p))
  (marked.filter fun p => !p.2).map fun p => p.1.pid

def Killer.spares (k : Killer) (plist : List Proc) (p : Proc) : Prop :=
  k.protects p = true ∨ 0 < p.sid ∧ ∃ q ∈ plist, k.protects q = true ∧ q.sid = p.sid

instance (k : Killer) (plist : List Proc) (p : Proc) : Decidable (k.spares plist p) :=
  inferInstanceAs (Decidable (_ ∨ _))

/-- Marks behind `n` processes of the second walk: they are right as far as they go, and the
sessions of the protected ones among these are marked. -/
structure Marks (k : Killer) (plist : List Proc) (n : ℕ) (mark : Proc → Bool) : Prop where
  first : ∀ p, k.protects p = true → mark p = true
  sound : ∀ p, mark p = true → k.spares plist p
  passed : ∀ q ∈ plist.take n, k.protects q = true → 0 < q.sid → ∀ p, p.sid = q.sid → mark p = true

variable {k : Killer} {plist : List Proc} {n : ℕ} {mark : Proc → Bool}

lemma map_markSession (sid : Int) :
    (plist.map fun p => (p, mark p)).map (markSession sid) =
      plist.map fun p => (p, mark p || p.sid = sid) := by
  rw [map_map]
  refine map_congr_left fun p _ => ?_
  simp only [Function.comp, markSession]
  cases mark p <;> by_cases hsid : p.sid = sid <;> simp [hsid]

lemma Marks.step (h : Marks k plist n mark) : ∃ mark', Marks k plist (n + 1) mark' ∧
    markFrom (plist.map fun p => (p, mark p)) n = plist.map fun p => (p, mark' p) := by
  have hpassed {mark' : Proc → Bool} (hold : ∀ p, mark p = true → mark' p = true)
      (hnew : ∀ q ∈ plist[n]?, k.protects q = true → 0 < q.sid →
        ∀ p, p.sid = q.sid → mark' p = true) :
      ∀ q ∈ plist.take (n + 1), k.protects q = true → 0 < q.sid →
        ∀ p, p.sid = q.sid → mark' p = true := by
    intro q hq hprotects hpos p hsid
    rw [take_add_one, mem_append, Option.mem_toList] at hq
    rcases hq with hq | hq
    · exact hold p (h.passed q hq hprotects hpos p hsid)
    · exact hnew q hq hprotects hpos p hsid
  rw [markFrom, getElem?_map]
  cases hp : plist[n]? with
  | none => exact ⟨mark, ⟨h.first, h.sound, hpassed (fun _ => id) (by simp [hp])⟩, rfl⟩
  | some p =>
    by_cases hmark : 0 < p.sid ∧ mark p = true
    · refine ⟨fun q => mark q || q.sid = p.sid, ⟨fun q hq => by simp [h.first q hq], ?_,
        hpassed (fun q hq => by simp [hq]) ?_⟩, (if_pos hmark).trans (map_markSession p.sid)⟩
      · intro q hq
        rcases (Bool.or_eq_true _ _).mp hq with hq | hsid
        · exact h.sound q hq
        have hsid : q.sid = p.sid := of_decide_eq_true hsid
        -- the session of `p` is spared because of `p` or of what has made `p` spared
        refine .inr ⟨hsid ▸ hmark.1, ?_⟩
        rcases h.sound p hmark.2 with hp' | ⟨-, r, hr, hprotects, he⟩
        · exact ⟨p, mem_of_getElem? hp, hp', hsid.symm⟩
        · exact ⟨r, hr, hprotects, he.trans hsid.symm⟩
      · intro r hr _ _ q hsid
        rw [hp] at hr
        cases hr
        simp [hsid]
    · refine ⟨mark, ⟨h.first, h.sound, hpassed (fun _ => id) ?_⟩, if_neg hmark⟩
      intro r hr hprotects hpos
      rw [hp] at hr
      cases hr
      exact absurd ⟨hpos, h.first p hprotects⟩ hmark

lemma exists_marks (k : Killer) (plist : List Proc) (n : ℕ) : ∃ mark, Marks k plist n mark ∧
    (range n).foldl markFrom (plist.map fun p => (p, k.protects p)) =
      plist.map fun p => (p, mark p) := by
  induction n with
  | zero => exact ⟨k.protects, ⟨fun _ => id, fun _ => .inl, by simp⟩, rfl⟩
  | succ n ih =>
    obtain ⟨mark, hmarks, he⟩ := ih
    obtain ⟨mark', hmarks', he'⟩ := hmarks.step
    exact ⟨mark', hmarks', by rw [range_succ, foldl_append, he, foldl_cons, foldl_nil, he']⟩

/-- The signal goes to those that are not spared, on account of themselves or of their session. -/
theorem killed_eq (k : Killer) (plist : List Proc) :
    k.killed plist = (plist.filter fun p => ¬ k.spares plist p).map Proc.pid := by
  obtain ⟨mark, hmarks, he⟩ := exists_marks k plist plist.length
  have hmark : ∀ p, mark p = true ↔ k.spares plist p := by
    refine fun p => ⟨hmarks.sound p, ?_⟩
    rintro (hp | ⟨hpos, q, hq, hprotects, hsid⟩)
    · exact hmarks.first p hp
    · exact hmarks.passed q (by rwa [take_length]) hprotects (hsid ▸ hpos) p hsid.symm
  rw [Killer.killed, he, filter_map, List.map_map]
  refine congrArg _ (filter_congr fun p _ => ?_)
  simp only [Function.comp, ← hmark]
  cases mark p <;> rfl

end Initng.KillAll
