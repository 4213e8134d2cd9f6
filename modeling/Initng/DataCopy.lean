import Initng.DataMemory

namespace Initng.DataStore

open LinkRing CursorScan List Option Function

def EDt.hasString : EDt → Bool
  | .string | .strings | .variableString | .variableStrings => true
  | _ => false

namespace DataMem

def strdup (p : ℕ) (m : DataMem) : Option (ℕ × DataMem) := do
  let s ← m.string p
  return (m.nextString, { m with
    string := update m.string m.nextString (some s), nextString := m.nextString + 1 })

def duplicate (current : ℕ) (m : DataMem) : DataMem :=
  { m with
    entry := update m.entry m.nextEntry (m.entry current)
    list := update m.list (.entry m.nextEntry) (m.list (.entry current))
    nextEntry := m.nextEntry + 1 }

def copyString (type : SEntry) (current tmp : ℕ) (m : DataMem) : Option DataMem :=
  match type.type.hasString, (m.entry current).t with
  | true, some p => do
    let (s, m) ← m.strdup p
    return { m with entry := update m.entry tmp { m.entry tmp with t := some s } }
  | _, _ => some m

def copyName (current tmp : ℕ) (m : DataMem) : Option DataMem :=
  match (m.entry current).vn with
  | some p => do
    let (s, m) ← m.strdup p
    return { m with entry := update m.entry tmp { m.entry tmp with vn := some s } }
  | none => some { m with entry := update m.entry tmp { m.entry tmp with vn := none } }

def copyEntry (to_ current : ℕ) (m : DataMem) : Option DataMem :=
  match (m.entry current).type with
  | none => some m
  | some type => do
    let tmp := m.nextEntry
    let m := m.duplicate current
    let m ← m.copyString type current tmp
    let m ← m.copyName current tmp
    let list ← initngListAdd (.entry tmp) (.head to_) m.list
    return { m with list }

def copyTurns (from_ to_ : ℕ) : ℕ → Option DataAddr → DataMem → Option DataMem
  | 0, _, _ => none
  | fuel + 1, pos, m =>
    match pos with
    | none => none
    | some (.head n) => if n = from_ then some m else none
    | some (.entry current) => do
      let m ← m.copyEntry to_ current
      copyTurns from_ to_ fuel (← m.list.next pos) m

def initngDataCopyAll (fuel from_ to_ : ℕ) (m : DataMem) : Option DataMem := do
  copyTurns from_ to_ fuel (← m.list.next (DataAddr.head from_)) m

structure Extends (m m' : DataMem) : Prop where
  res : m'.res = m.res
  head : ∀ n, m'.list (.head n) = m.list (.head n)
  link : ∀ e < m.nextEntry, m'.list (.entry e) = m.list (.entry e)
  entry : ∀ e < m.nextEntry, m'.entry e = m.entry e
  string : ∀ p < m.nextString, m'.string p = m.string p
  nextEntry : m.nextEntry ≤ m'.nextEntry
  nextString : m.nextString ≤ m'.nextString

lemma Extends.refl (m : DataMem) : m.Extends m :=
  ⟨rfl, fun _ => rfl, fun _ _ => rfl, fun _ _ => rfl, fun _ _ => rfl, le_refl _, le_refl _⟩

variable {m m' m'' : DataMem} {l : List ℕ}

lemma Extends.trans (h : m.Extends m') (h' : m'.Extends m'') : m.Extends m'' where
  res := h'.res.trans h.res
  head n := (h'.head n).trans (h.head n)
  link e he := (h'.link e (he.trans_le h.nextEntry)).trans (h.link e he)
  entry e he := (h'.entry e (he.trans_le h.nextEntry)).trans (h.entry e he)
  string p hp := (h'.string p (hp.trans_le h.nextString)).trans (h.string p hp)
  nextEntry := h.nextEntry.trans h'.nextEntry
  nextString := h.nextString.trans h'.nextString

structure Sound (m : DataMem) (l : List ℕ) : Prop where
  allocated : ∀ e ∈ l, e < m.nextEntry
  name : ∀ e ∈ l, ∀ p, (m.entry e).vn = some p → p < m.nextString ∧ ∃ s, m.string p = some s
  string : ∀ e ∈ l, ∀ type p, (m.entry e).type = some type → type.type.hasString →
    (m.entry e).t = some p → p < m.nextString ∧ ∃ s, m.string p = some s

lemma Sound.of_subset {l' : List ℕ} (h : m.Sound l) (hsub : l' ⊆ l) : m.Sound l' :=
  ⟨fun e he => h.allocated e (hsub he), fun e he => h.name e (hsub he),
    fun e he => h.string e (hsub he)⟩

lemma Extends.sound (h : m.Extends m') (hs : m.Sound l) : m'.Sound l where
  allocated e he := (hs.allocated e he).trans_le h.nextEntry
  name e he p hp := by
    rw [h.entry e (hs.allocated e he)] at hp
    obtain ⟨hlt, s, hs⟩ := hs.name e he p hp
    exact ⟨hlt.trans_le h.nextString, s, (h.string p hlt).trans hs⟩
  string e he type p htype hhas hp := by
    rw [h.entry e (hs.allocated e he)] at htype hp
    obtain ⟨hlt, s, hs⟩ := hs.string e he type p htype hhas hp
    exact ⟨hlt.trans_le h.nextString, s, (h.string p hlt).trans hs⟩

lemma Extends.lists {head : ℕ} (h : m.Extends m') (hs : m.Sound l) (hl : m.Lists head l) :
    m'.Lists head l := by
  refine ⟨hl.holds.congr fun a ha => ?_, fun e he p hp => ?_⟩
  · have hlink : m'.list a = m.list a := by
      cases a with
      | head n => exact h.head n
      | entry e => exact h.link e (hs.allocated e (by simpa using ha))
    simp [Links.next, Links.prev, hlink]
  · exact ((h.sound hs).name e he p hp).2

structure Fills (tmp : ℕ) (m m' : DataMem) : Prop where
  res : m'.res = m.res
  list : m'.list = m.list
  entry : ∀ e ≠ tmp, m'.entry e = m.entry e
  string : ∀ p < m.nextString, m'.string p = m.string p
  nextEntry : m'.nextEntry = m.nextEntry
  nextString : m.nextString ≤ m'.nextString

lemma Fills.trans {tmp : ℕ} (h : Fills tmp m m') (h' : Fills tmp m' m'') : Fills tmp m m'' where
  res := h'.res.trans h.res
  list := h'.list.trans h.list
  entry e he := (h'.entry e he).trans (h.entry e he)
  string p hp := (h'.string p (hp.trans_le h.nextString)).trans (h.string p hp)
  nextEntry := h'.nextEntry.trans h.nextEntry
  nextString := h.nextString.trans h'.nextString

section
variable {m : DataMem} {from_ current tmp p : ℕ} {l : List ℕ}

lemma fills_write (m : DataMem) (tmp : ℕ) (c : DataCell) :
    Fills tmp m { m with entry := update m.entry tmp c } where
  res := rfl
  list := rfl
  entry _ he := update_of_ne he ..
  string _ _ := rfl
  nextEntry := rfl
  nextString := le_refl _

lemma strdup_fills (tmp : ℕ) (hp : ∃ s, m.string p = some s) :
    ∃ m', m.strdup p = some (m.nextString, m') ∧ Fills tmp m m' := by
  obtain ⟨s, hs⟩ := hp
  refine ⟨_, by simp only [strdup, hs, bind_eq_bind, bind_some]; rfl, ?_⟩
  exact
    { res := rfl, list := rfl, entry := fun _ _ => rfl, nextEntry := rfl
      string := fun q hq => update_of_ne (Nat.ne_of_lt hq) ..
      nextString := Nat.le_succ _ }

lemma copyString_fills {type : SEntry} (tmp : ℕ)
    (hread : ∀ p, type.type.hasString → (m.entry current).t = some p → ∃ s, m.string p = some s) :
    ∃ m', m.copyString type current tmp = some m' ∧ Fills tmp m m' := by
  unfold copyString
  split
  · rename_i p hhas hp
    obtain ⟨m', eq, hm'⟩ := strdup_fills tmp (hread p hhas hp)
    simp only [eq, bind_eq_bind, bind_some]
    exact ⟨_, rfl, hm'.trans (fills_write ..)⟩
  · exact ⟨m, rfl, rfl, rfl, fun _ _ => rfl, fun _ _ => rfl, rfl, le_refl _⟩

lemma copyName_fills (tmp : ℕ)
    (hread : ∀ p, (m.entry current).vn = some p → ∃ s, m.string p = some s) :
    ∃ m', m.copyName current tmp = some m' ∧ Fills tmp m m' := by
  unfold copyName
  split
  · rename_i p hp
    obtain ⟨m', eq, hm'⟩ := strdup_fills tmp (hread p hp)
    simp only [eq, bind_eq_bind, bind_some]
    exact ⟨_, rfl, hm'.trans (fills_write ..)⟩
  · exact ⟨_, rfl, fills_write ..⟩

lemma duplicate_extends (current : ℕ) (m : DataMem) : m.Extends (m.duplicate current) where
  res := rfl
  head _ := by simp [duplicate]
  link _ he := update_of_ne (by simpa using Nat.ne_of_lt he) ..
  entry _ he := update_of_ne (Nat.ne_of_lt he) ..
  string _ _ := rfl
  nextEntry := Nat.le_succ _
  nextString := le_refl _

lemma Extends.fills {m m' m'' : DataMem} (h : m.Extends m') (hf : Fills tmp m' m'')
    (ht : m.nextEntry ≤ tmp) : m.Extends m'' where
  res := hf.res.trans h.res
  head n := by rw [hf.list, h.head]
  link e he := by rw [hf.list, h.link e he]
  entry e he := by rw [hf.entry e (Nat.ne_of_lt (he.trans_le ht)), h.entry e he]
  string p hp := by rw [hf.string p (hp.trans_le h.nextString), h.string p hp]
  nextEntry := hf.nextEntry.symm ▸ h.nextEntry
  nextString := h.nextString.trans hf.nextString

lemma copyEntry_extends (to_ : ℕ) (hl : m.Lists from_ l) (hs : m.Sound l) (hm : current ∈ l) :
    ∃ m', m.copyEntry to_ current = some m' ∧ m.Extends m' := by
  unfold copyEntry
  cases htype : (m.entry current).type with
  | none => exact ⟨m, rfl, .refl m⟩
  | some type =>
    have hd := m.duplicate_extends current
    have hsd := hd.sound hs
    have hcur := hs.allocated current hm
    have hentry := hd.entry current hcur
    obtain ⟨m₁, eq₁, f₁⟩ := copyString_fills m.nextEntry fun p hhas hp =>
      (hsd.string current hm type p (hentry ▸ htype) hhas hp).2
    have hsame : m₁.entry current = (m.duplicate current).entry current :=
      f₁.entry current (Nat.ne_of_lt hcur)
    obtain ⟨m₂, eq₂, f₂⟩ := copyName_fills (m := m₁) m.nextEntry fun p hp => by
      obtain ⟨hlt, s, hread⟩ := hsd.name current hm p (hsame ▸ hp)
      exact ⟨s, (f₁.string p hlt).trans hread⟩
    have hf := f₁.trans f₂
    have hring : DataAddr.entry current ∈
        (↑(l.reverse.map DataAddr.entry ++ [DataAddr.head from_]) : Cycle _) :=
      Cycle.mem_coe_iff.mpr (by simpa using hm)
    have hlink : m₂.list (.entry m.nextEntry) = m.list (.entry current) := by
      simp [hf.list, duplicate]
    have hnext : ∃ n, m₂.list.next (DataAddr.entry m.nextEntry) = some (some n) := by
      obtain ⟨n, -, hn⟩ := Ring.exists_linked hl.holds hring
      exact ⟨n, by simpa [Links.next, hlink] using hn.1⟩
    have hprev : ∃ p, m₂.list.prev (DataAddr.entry m.nextEntry) = some (some p) := by
      obtain ⟨p, -, hp⟩ := Ring.exists_linked_to hl.holds hring
      exact ⟨p, by simpa [Links.prev, hlink] using hp.2⟩
    have hadd : initngListAdd (.entry m.nextEntry) (.head to_) m₂.list = some m₂.list := by
      obtain ⟨n, hn⟩ := hnext
      obtain ⟨p, hp⟩ := hprev
      simp [initngListAdd, hn, hp]
    exact ⟨m₂, by simp [eq₁, eq₂, hadd], hd.fills hf (le_refl _)⟩

lemma Lists.next_entry {done todo : List ℕ} (h : m.Lists from_ l)
    (hr : l.reverse = done ++ current :: todo) :
    m.list.next (DataAddr.entry current) = some (some (position from_ todo)) := by
  have hx := Ring.chain h.holds
  rw [hr, map_append, map_cons, append_assoc, cons_append, ← cons_append, isChain_append] at hx
  cases todo with
  | nil | cons => exact (isChain_cons_cons.mp hx.2.1).1.1

lemma Lists.next_head (h : m.Lists from_ l) :
    m.list.next (DataAddr.head from_) = some (some (position from_ l.reverse)) := by
  have hx := Ring.chain h.holds
  cases hr : l.reverse with
  | nil | cons =>
    rw [hr] at hx
    exact (isChain_cons_cons.mp hx).1.1

lemma copyTurns_extends (to_ : ℕ) (done todo : List ℕ) (hl : m.Lists from_ l) (hs : m.Sound l)
    (hr : l.reverse = done ++ todo) :
    ∃ m', m.Extends m' ∧ ∀ fuel, todo.length < fuel →
      copyTurns from_ to_ fuel (some (position from_ todo)) m = some m' := by
  induction todo generalizing m done with
  | nil =>
    refine ⟨m, .refl m, fun fuel hf => ?_⟩
    obtain _ | fuel := fuel
    · cases hf
    simp [position, copyTurns]
  | cons e todo ih =>
    have he : e ∈ l := by
      rw [← mem_reverse, hr]
      simp
    obtain ⟨m₁, eq₁, h₁⟩ := copyEntry_extends to_ hl hs he
    have hl₁ := h₁.lists hs hl
    obtain ⟨m', h', hrun⟩ := ih (done ++ [e]) hl₁ (h₁.sound hs) (by simpa using hr)
    refine ⟨m', h₁.trans h', fun fuel hf => ?_⟩
    obtain _ | fuel := fuel
    · cases hf
    have hpos : position from_ (e :: todo) = .entry e := rfl
    simp [hpos, copyTurns, eq₁, hl₁.next_entry hr, hrun fuel (Nat.lt_of_succ_lt_succ hf)]

lemma copyAll_extends (hl : m.Lists from_ l) (hs : m.Sound l) (to_ : ℕ) :
    ∃ m', m.Extends m' ∧ ∀ fuel, l.length < fuel →
      m.initngDataCopyAll fuel from_ to_ = some m' := by
  obtain ⟨m', h, hrun⟩ := copyTurns_extends to_ [] l.reverse hl hs rfl
  refine ⟨m', h, fun fuel hf => ?_⟩
  simp [initngDataCopyAll, hl.next_head, hrun fuel (by simpa using hf)]

end

end DataMem

inductive DataValue
  | string (s : Option String)
  | word (t : Option ℕ)
  deriving DecidableEq

structure DataView where
  type : Option SEntry
  vn : Option String
  value : DataValue
  deriving DecidableEq

namespace DataMem

def hasString (m : DataMem) (e : ℕ) : Bool := (m.entry e).type.any fun type => type.type.hasString

def view (m : DataMem) (e : ℕ) : DataView where
  type := (m.entry e).type
  vn := (m.entry e).vn.bind m.string
  value := if m.hasString e then .string ((m.entry e).t.bind m.string) else .word (m.entry e).t

def strings (m : DataMem) (e : ℕ) : List ℕ :=
  (m.entry e).vn.toList ++ if m.hasString e then (m.entry e).t.toList else []

/-- After the copy both heads give the same entries for every type and name.  They have no
entry or string in common, and the source is as it was. -/
def CopiesAll (m : DataMem) (from_ to_ : ℕ) : Prop :=
  ∃ m', (∃ bound, ∀ fuel, bound < fuel → m.initngDataCopyAll fuel from_ to_ = some m') ∧
    (∀ type vn, ∃ es es', m.Enumerates type vn from_ es ∧ m'.Enumerates type vn to_ es' ∧
      es'.map m'.view = es.map m.view) ∧
    (∀ l l', m'.Lists from_ l → m'.Lists to_ l' → ∀ e ∈ l, ∀ e' ∈ l',
      e ≠ e' ∧ ∀ p ∈ m'.strings e, p ∉ m'.strings e') ∧
    ∀ l, m.Lists from_ l → m'.Lists from_ l ∧ ∀ e ∈ l, m'.entry e = m.entry e ∧ m'.view e = m.view e

section
variable {m : DataMem} {from_ to_ : ℕ} {chain : List (ℕ × List ℕ)}

lemma CopiesAll.entries_eq_nil (h : m.CopiesAll from_ to_) (hc : m.Chain from_ chain)
    (hs : m.Sound (entries chain)) (hto : m.Lists to_ []) (hres : m.res to_ = none) :
    entries chain = [] := by
  obtain ⟨l, rest, rfl, hl⟩ := hc.exists_head
  have hsl : m.Sound l := hs.of_subset (subset_append_left _ _)
  obtain ⟨m', ⟨bound, hrun⟩, hsame, -⟩ := h
  obtain ⟨m₁, h₁, hrun₁⟩ := copyAll_extends hl hsl to_
  obtain rfl : m' = m₁ := by
    have hrun := hrun (bound + l.length + 1) (by omega)
    rw [hrun₁ _ (by omega)] at hrun
    exact (some.inj hrun).symm
  have hnil : m'.Enumerates none none to_ [] :=
    (Chain.last (h₁.lists (hs.of_subset (nil_subset _)) hto)
      ((congrFun h₁.res to_).trans hres)).enumerates none none
  have hall : m.Enumerates none none from_ (entries ((from_, l) :: rest)) := by
    have henum := hc.enumerates none none
    rwa [filter_eq_self.mpr fun e _ => by simp [Fits]] at henum
  obtain ⟨es, es', hes, hes', hview⟩ := hsame none none
  rw [hes.unique hall, hes'.unique hnil, map_nil, eq_comm, map_eq_nil_iff] at hview
  exact hview

/-- A data head is copied if and only if there is nothing to copy, in it and behind it. -/
theorem copies_all_iff (hc : m.Chain from_ chain) (hs : m.Sound (entries chain))
    (hto : m.Lists to_ []) (hres : m.res to_ = none) :
    m.CopiesAll from_ to_ ↔ entries chain = [] := by
  constructor
  · exact fun h => h.entries_eq_nil hc hs hto hres
  · intro hnone
    obtain ⟨l, rest, rfl, hl⟩ := hc.exists_head
    obtain rfl : l = [] := (append_eq_nil_iff.mp hnone).1
    have hrun : ∀ fuel, 0 < fuel → m.initngDataCopyAll fuel from_ to_ = some m := by
      intro fuel hf
      obtain ⟨fuel, rfl⟩ := Nat.exists_eq_succ_of_ne_zero (Nat.ne_of_gt hf)
      simp [initngDataCopyAll, hl.next_head, position, copyTurns]
    have hempty : ∀ type vn, m.Enumerates type vn from_ [] ∧ m.Enumerates type vn to_ [] := by
      intro type vn
      have henum := hc.enumerates type vn
      rw [hnone] at henum
      exact ⟨henum, (Chain.last hto hres).enumerates type vn⟩
    refine ⟨m, ⟨0, hrun⟩, fun type vn => ?_, fun l l' h _ e he => ?_, fun l h => ?_⟩
    · exact ⟨[], [], (hempty type vn).1, (hempty type vn).2, rfl⟩
    · obtain rfl := h.unique hl
      cases he
    · exact ⟨h, fun e _ => ⟨rfl, rfl⟩⟩

end

def oneString : DataMem where
  list
    | .head 0 => some ⟨some (.entry 0), some (.entry 0)⟩
    | .entry 0 => some ⟨some (.head 0), some (.head 0)⟩
    | .head n => some ⟨some (.head n), some (.head n)⟩
    | _ => none
  entry _ := ⟨some 0, some (.entry 1 .string), none⟩
  res _ := none
  string
    | 0 => some "getty"
    | _ => none
  nextEntry := 1
  nextString := 1

lemma oneString_chain : oneString.Chain 0 [(0, [0])] := by
  refine .last ⟨Ring.of_chain (by decide) ?_, fun e he p hp => ?_⟩ rfl
  · exact .cons_cons ⟨rfl, rfl⟩ (.cons_cons ⟨rfl, rfl⟩ (.singleton _))
  · cases hp

lemma oneString_sound : oneString.Sound (entries [(0, [0])]) := by
  refine ⟨by simp [entries, oneString], fun e he p hp => ?_, fun e he type p _ _ hp => ?_⟩
  · cases hp
  · obtain rfl : 0 = p := some.inj hp
    exact ⟨Nat.zero_lt_one, _, rfl⟩

lemma oneString_to : oneString.Lists 1 [] :=
  ⟨Ring.of_chain (l := []) (by decide) (.cons_cons ⟨rfl, rfl⟩ (.singleton _)), by simp⟩

theorem copies_all_iff_string :
    (oneString.Chain 0 [(0, [0])] ∧ oneString.Sound (entries [(0, [0])]) ∧
      oneString.Lists 1 [] ∧ oneString.res 1 = none) ∧
    (oneString.CopiesAll 0 1 ↔ entries [(0, [0])] = []) :=
  ⟨⟨oneString_chain, oneString_sound, oneString_to, rfl⟩,
    copies_all_iff oneString_chain oneString_sound oneString_to rfl⟩

/-- The list of the target stays empty. -/
theorem not_always_copies_all :
    ¬ ∀ (m : DataMem) (from_ to_ : ℕ) (chain : List (ℕ × List ℕ)), m.Chain from_ chain →
      m.Sound (entries chain) → m.Lists to_ [] → m.res to_ = none → m.CopiesAll from_ to_ := by
  intro hall
  have hcopied := hall oneString 0 1 _ oneString_chain oneString_sound oneString_to rfl
  have hnil := hcopied.entries_eq_nil oneString_chain oneString_sound oneString_to rfl
  simp [entries] at hnil

end DataMem

end Initng.DataStore
