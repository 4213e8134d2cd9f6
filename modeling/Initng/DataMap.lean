import Initng.DataStore
import Initng.MultiMap

/-! `main/data`. -/

namespace Initng.DataStore

open MultiMap List Option Function

abbrev Key := SEntry × Option String

def key (type : SEntry) (vn : Option String) : Key := (type.aliasWalk, vn)

def Consistent (named : SEntry → Bool) (type : SEntry) (vn : Option String) : Prop :=
  vn.isSome = named type.aliasWalk

def Content.Fits (type : SEntry) : Content → Prop
  | .s _ => type.it .string = true ∨ type.it .strings = true
  | .i _ => type.it .int = true
  | .zero => type.it .set = true

def SData.cell (e : SData) : Key × Content := ((e.type, e.vn), e.t)

structure SData.WellTyped (named : SEntry → Bool) (e : SData) : Prop where
  consistent : e.vn.isSome = named e.type
  fits : e.t.Fits e.type

variable {a : EDt} {t : Content}

lemma it_unique {type : SEntry} {b : EDt} (ha : type.it a = true) (hb : type.it b = true)
    (ha' : a.toNat < 50) (hb' : b.toNat < 50) : a.toNat = b.toNat := by
  simp only [SEntry.it, decide_eq_true_eq] at ha hb
  omega

lemma not_strings {type : SEntry} (ha : type.it a = true) (ha' : a.toNat < 50)
    (hne : a.toNat ≠ EDt.strings.toNat) : type.it .strings = false := by
  rw [← Bool.not_eq_true]
  exact fun hs => hne (it_unique ha hs ha' (by decide))

lemma Content.Fits.string {type : SEntry} (h : t.Fits type) (hs : type.it .strings = true) :
    ∃ string, t = .s string := by
  cases t with
  | s string => exact ⟨string, rfl⟩
  | i | zero => exact absurd (it_unique h hs (by decide) (by decide)) (by decide)

lemma Content.Fits.zero {type : SEntry} (h : t.Fits type) (hs : type.it .set = true) :
    t = .zero := by
  cases t with
  | s string =>
    rcases h with h | h <;> exact absurd (it_unique h hs (by decide) (by decide)) (by decide)
  | i value => exact absurd (it_unique h hs (by decide) (by decide)) (by decide)
  | zero => rfl

lemma aliasWalk_aliasWalk (type : SEntry) : type.aliasWalk.aliasWalk = type.aliasWalk := by
  induction type with
  | entry addr type => rfl
  | aliased addr type target ih =>
    by_cases h : type = .alias
    · rw [SEntry.aliasWalk, if_pos h, ih]
    · rw [SEntry.aliasWalk, if_neg h, SEntry.aliasWalk, if_neg h]

lemma matches_eq {named : SEntry → Bool} {e : SData} {type : SEntry} {vn : Option String}
    (he : e.WellTyped named) (hc : Consistent named type vn) :
    e.matches (some type.aliasWalk) vn = decide (e.cell.1 = key type vn) := by
  rw [SData.matches, decide_eq_decide, SData.cell, key, Prod.mk.injEq]
  constructor
  · rintro ⟨ht, hn⟩
    have ht : e.type = type.aliasWalk := by simpa using ht
    have hsome : e.vn.isSome = vn.isSome := by rw [he.consistent, ht, ← hc]
    refine ⟨ht, ?_⟩
    rcases hn with hn | hn | hn
    · have hvn : ¬vn.isSome = true := by simp [← hsome, hn]
      rw [hn, not_isSome_iff_eq_none.mp hvn]
    · have hvn : ¬e.vn.isSome = true := by simp [hsome, hn]
      rw [hn, not_isSome_iff_eq_none.mp hvn]
    · exact hn
  · rintro ⟨ht, hn⟩
    exact ⟨.inr (congrArg some ht), .inr (.inr hn)⟩

def DataRing.cell (ring : DataRing) : ℕ → Key × Content := SData.cell ∘ ring.entry

/-- The data head has no parent and these entries, one only for each key whose type is not that
of many strings. -/
structure DataHead.Keeps (named : SEntry → Bool) (d : DataHead) (l : List ℕ) : Prop where
  res : d.res = []
  lists : d.ring.Lists l
  wellTyped : ∀ e ∈ l, (d.ring.entry e).WellTyped named
  single : ∀ k : Key, k.1.it .strings = false → (stored d.ring.cell l k).length ≤ 1

lemma DataHead.empty_keeps (named : SEntry → Bool) : DataHead.empty.Keeps named [] where
  res := rfl
  lists := DataHead.empty_lists
  wellTyped := by simp
  single := by simp [stored]

section
variable {named : SEntry → Bool} {d : DataHead} {l rest : List ℕ} {type : SEntry}
  {vn : Option String} {cur : Option DataPtr}

lemma cell_update (entry : ℕ → SData) (i : ℕ) (e : SData) :
    SData.cell ∘ update entry i e = update (SData.cell ∘ entry) i e.cell :=
  comp_update ..

def DataHead.Does (named : SEntry → Bool) (d : DataHead) (l : List ℕ) (op : Op Key Content)
    (result : Option DataHead) : Prop :=
  ∃ d' l', result = some d' ∧ d'.Keeps named l' ∧
    stored d'.ring.cell l' = op.apply (stored d.ring.cell l)

variable {e : SData} {t : Content}

namespace DataHead.Keeps
variable (h : d.Keeps named l)
include h

lemma single_apply (op : Op Key Content)
    (hop : op.isAdd = false ∨ op.key.1.it .strings = true) (k : Key)
    (hk : k.1.it .strings = false) : (op.apply (stored d.ring.cell l) k).length ≤ 1 := by
  by_cases hne : op.key = k
  · subst hne
    cases op with
    | put k v => simp [Op.apply, Op.key]
    | add k v =>
      rcases hop with hop | hop
      · cases hop
      · rw [hop] at hk
        cases hk
    | drop k => simp [Op.apply, Op.key]
  · rw [Op.apply_of_ne hne]
    exact h.single k hk

lemma add (he : e.WellTyped named) :
    ∃ d', d.add e = some d' ∧ d'.res = [] ∧ d'.ring.Lists (l ++ [d.ring.next]) ∧
      (∀ i ∈ l ++ [d.ring.next], (d'.ring.entry i).WellTyped named) ∧
      stored d'.ring.cell (l ++ [d.ring.next]) =
        (Op.add e.cell.1 e.t).apply (stored d.ring.cell l) := by
  obtain ⟨list, hadd, hlists⟩ := add_lists h.lists e
  refine ⟨_, hadd, h.res, hlists, fun i hi => ?_, ?_⟩
  · rcases mem_append.mp hi with hi | hi
    · have hne : i ≠ d.ring.next := ne_of_mem_of_not_mem hi h.lists.next_notMem
      simpa [hne] using h.wellTyped i hi
    · simpa [mem_singleton.mp hi] using he
  · rw [← stored_append h.lists.next_notMem e.cell.1 e.t, DataRing.cell, cell_update]
    rfl

lemma does_add (he : e.WellTyped named)
    (hs : e.type.it .strings = true) : d.Does named l (.add e.cell.1 e.t) (d.add e) := by
  obtain ⟨d', hadd, hres, hlists, hwell, hstored⟩ := h.add he
  refine ⟨d', _, hadd, ⟨hres, hlists, hwell, ?_⟩, hstored⟩
  rw [hstored]
  exact h.single_apply _ (.inr hs)

lemma does_add_first (he : e.WellTyped named)
    (hnone : stored d.ring.cell l e.cell.1 = []) :
    d.Does named l (.put e.cell.1 e.t) (d.add e) := by
  obtain ⟨d', hadd, hres, hlists, hwell, hstored⟩ := h.add he
  rw [Op.apply, hnone, nil_append] at hstored
  refine ⟨d', _, hadd, ⟨hres, hlists, hwell, ?_⟩, hstored⟩
  rw [hstored]
  exact h.single_apply (.put e.cell.1 e.t) (.inl rfl)

lemma does_write {i : ℕ} (hi : i ∈ l) {k : Key}
    (hk : (d.ring.cell i).1 = k) (ht : t.Fits k.1) (hs : k.1.it .strings = false) :
    d.Does named l (.put k t) (d.write ⟨0, i⟩ t) := by
  have hcell : SData.cell { d.ring.entry i with t } = (k, t) := by
    rw [← hk]
    rfl
  have hstored : stored (SData.cell ∘ update d.ring.entry i { d.ring.entry i with t }) l =
      (Op.put k t).apply (stored d.ring.cell l) := by
    rw [cell_update, hcell]
    exact stored_write h.lists.represents.nodup hi hk (h.single k hs) t
  refine ⟨_, l, rfl, ⟨h.res, ⟨h.lists.represents, h.lists.allocated⟩, fun j hj => ?_, ?_⟩, hstored⟩
  · by_cases hji : j = i
    · subst hji
      have hwell := h.wellTyped j hj
      have htype : (d.ring.entry j).type = k.1 := congrArg Prod.fst hk
      refine ⟨?_, ?_⟩
      · simpa using hwell.consistent
      · simpa [htype] using ht
    · simpa [hji] using h.wellTyped j hj
  · intro k' hk'
    rw [DataRing.cell, hstored]
    exact h.single_apply (.put k t) (.inl rfl) k' hk'

variable (hc : Consistent named type vn)
include hc

lemma find_eq
    (hrest : ∀ e ∈ rest, e ∈ l) :
    (rest.find? fun e => (d.ring.entry e).matches (some type.aliasWalk) vn) =
      rest.find? fun e => (d.ring.cell e).1 = key type vn := by
  rw [← head?_filter, ← head?_filter]
  exact congrArg _ (filter_congr fun e he => matches_eq (h.wellTyped e (hrest e he)) hc)

lemma first :
    initngDataGetNextVar (some type) vn d none = some
      ((l.find? fun e => (d.ring.cell e).1 = key type vn).map fun e => ⟨0, e⟩) := by
  rw [getNextVar_first h.res h.lists, map_some, h.find_eq hc fun _ he => he]

lemma first_aliasWalk :
    initngDataGetNextVar (some type.aliasWalk) vn d none = some
      ((l.find? fun e => (d.ring.cell e).1 = key type vn).map fun e => ⟨0, e⟩) := by
  have hc' : Consistent named type.aliasWalk vn := by
    rw [Consistent, aliasWalk_aliasWalk]
    exact hc
  have hkey : key type.aliasWalk vn = key type vn := by rw [key, aliasWalk_aliasWalk, key]
  rw [h.first hc', hkey]

lemma firstContent :
    firstContent (some type) vn d = some (stored d.ring.cell l (key type vn)).head? := by
  rw [DataStore.firstContent, h.first hc, head?_stored]
  cases l.find? fun e => (d.ring.cell e).1 = key type vn with
  | none | some => rfl

lemma nextStrings
    (hstrings : (key type vn).1.it .strings = true) {fuel : ℕ} (hrest : Behind l cur rest)
    (hf : (stored d.ring.cell rest (key type vn)).length < fuel) :
    nextStrings (some type) vn d fuel cur =
      some ((stored d.ring.cell rest (key type vn)).filterMap Content.string) := by
  induction fuel generalizing cur rest with
  | zero => cases hf
  | succ fuel ih =>
    have hsub : ∀ e ∈ rest, e ∈ l := by
      rcases hrest with ⟨-, rfl⟩ | ⟨xs, e, -, rfl⟩
      · exact fun _ he => he
      · exact fun _ he => by simp [he]
    rw [DataStore.nextStrings, initngDataGetNextStringVar, getNextVar_eq h.res h.lists hrest,
      map_some, h.find_eq hc hsub]
    cases hfind : rest.find? fun e => (d.ring.cell e).1 = key type vn with
    | none =>
      have hnil : stored d.ring.cell rest (key type vn) = [] := by
        rw [← head?_eq_none_iff, head?_stored, hfind, map_none]
      rw [hnil]
      rfl
    | some e =>
      obtain ⟨hkey, front, back, rfl, hfront⟩ := find?_eq_some_iff_append.mp hfind
      have hkey : (d.ring.cell e).1 = key type vn := by simpa using hkey
      have hstored : stored d.ring.cell (front ++ e :: back) (key type vn) =
          (d.ring.entry e).t :: stored d.ring.cell back (key type vn) := by
        have hnone : (front.filter fun e => (d.ring.cell e).1 = key type vn) = [] :=
          filter_eq_nil_iff.mpr fun a ha => by simpa using hfront a ha
        rw [stored, filter_append, hnone, nil_append, filter_cons_of_pos (by simpa)]
        rfl
      -- the entry has the type of the key, so it is a string
      obtain ⟨string, ht⟩ : ∃ string, (d.ring.entry e).t = .s string := by
        have htype : (d.ring.entry e).type = (key type vn).1 := congrArg Prod.fst hkey
        refine (h.wellTyped e (hsub e (by simp))).fits.string ?_
        rwa [htype]
      have hbehind : Behind l (some ⟨0, e⟩) back := by
        rcases hrest with ⟨-, rfl⟩ | ⟨xs, e', -, rfl⟩
        · exact .inr ⟨front, e, rfl, rfl⟩
        · exact .inr ⟨xs ++ e' :: front, e, rfl, by simp⟩
      rw [hstored] at hf ⊢
      have hnext := ih hbehind (Nat.lt_of_succ_lt_succ hf)
      simp [DataHead.entry, ht, Content.string, hnext]

lemma does_overwrite
    (ht : t.Fits type.aliasWalk) (hs : type.aliasWalk.it .strings = false) :
    d.Does named l (.put (key type vn) t) (overwrite t vn d type.aliasWalk) := by
  rw [overwrite, h.first_aliasWalk hc]
  cases hfind : l.find? fun e => (d.ring.cell e).1 = key type vn with
  | none =>
    refine h.does_add_first (e := ⟨t, type.aliasWalk, vn⟩) ⟨hc, ht⟩ ?_
    rw [← head?_eq_none_iff, head?_stored]
    exact congrArg (Option.map _) hfind
  | some e =>
    exact h.does_write (mem_of_find?_eq_some hfind) (by simpa using find?_some hfind) ht hs

lemma does_setVar
    (hs : type.aliasWalk.it .set = true) (hn : ¬(vn = none ∧ 50 ≤ type.aliasWalk.type.toNat)) :
    d.Does named l (.put (key type vn) .zero) (initngDataSetVar (some type) vn d) := by
  rw [initngDataSetVar, onType, if_neg hn, hs, initngDataIsVar, h.first_aliasWalk hc]
  cases hfind : l.find? fun e => (d.ring.cell e).1 = key type vn with
  | none =>
    refine h.does_add_first (e := ⟨.zero, type.aliasWalk, vn⟩) ⟨hc, hs⟩ ?_
    rw [← head?_eq_none_iff, head?_stored]
    exact congrArg (Option.map _) hfind
  | some e =>
    have hi := mem_of_find?_eq_some hfind
    have hkey : (d.ring.cell e).1 = key type vn := by simpa using find?_some hfind
    have htype : (d.ring.entry e).type = type.aliasWalk := congrArg Prod.fst hkey
    have hzero : (d.ring.entry e).t = .zero := (h.wellTyped e hi).fits.zero (by rwa [htype])
    have hhead : (stored d.ring.cell l (key type vn)).head? = some .zero := by
      rw [head?_stored, hfind]
      exact congrArg some hzero
    -- the entry is the only one of its key
    have hflag : stored d.ring.cell l (key type vn) = [.zero] := by
      obtain ⟨more, hmore⟩ := head?_eq_some_iff.mp hhead
      have hlen := h.single (key type vn) (not_strings hs (by decide) (by decide))
      rw [hmore, length_cons] at hlen
      rw [hmore, length_eq_zero_iff.mp (by omega : more.length = 0)]
    refine ⟨d, l, rfl, h, ?_⟩
    rw [Op.apply, ← hflag, update_eq_self]

lemma does_removeVar :
    d.Does named l (.drop (key type vn)) (initngDataRemoveVar (some type) vn d) := by
  have hf : (l.filter fun e => (d.ring.entry e).matches (some type.aliasWalk) vn).length <
      d.fuel := by
    have hle := length_filter_le (fun e => (d.ring.entry e).matches (some type.aliasWalk) vn) l
    have hlt := h.lists.length_lt
    simp only [DataHead.fuel, h.res, map_cons, map_nil, sum_cons, sum_nil]
    omega
  obtain ⟨list, hturns, hlists⟩ := removeTurns_lists h.res h.lists hf
  have hfilter : (l.filter fun e => !(d.ring.entry e).matches (some type.aliasWalk) vn) =
      l.filter fun e => (d.ring.cell e).1 ≠ key type vn := by
    refine filter_congr fun e he => ?_
    rw [matches_eq (h.wellTyped e he) hc]
    exact (decide_not ..).symm
  rw [hfilter] at hlists
  have hstored := stored_dropped d.ring.cell l (key type vn)
  refine ⟨_, _, hturns, ⟨h.res, hlists, fun e he => ?_, ?_⟩, hstored⟩
  · exact h.wellTyped e (mem_of_mem_filter he)
  · intro k hk
    have hsingle := h.single_apply (.drop (key type vn)) (.inl rfl) k hk
    rwa [← hstored] at hsingle

end DataHead.Keeps

end

inductive DataCall
  | setStringVar (type : SEntry) (vn : Option String) (string : String)
  | setIntVar (type : SEntry) (vn : Option String) (value : ℤ)
  | setVar (type : SEntry) (vn : Option String)
  | setAnotherStringVar (type : SEntry) (vn : Option String) (string : String)
  | removeVar (type : SEntry) (vn : Option String)
  deriving DecidableEq

namespace DataCall

def type : DataCall → SEntry
  | setStringVar type .. | setIntVar type .. | setVar type _ | setAnotherStringVar type ..
  | removeVar type _ => type

def vn : DataCall → Option String
  | setStringVar _ vn _ | setIntVar _ vn _ | setVar _ vn | setAnotherStringVar _ vn _
  | removeVar _ vn => vn

def apply (c : DataCall) (d : DataHead) : Option DataHead :=
  match c with
  | setStringVar type vn string => initngDataSetStringVar (some type) vn d string
  | setIntVar type vn value => initngDataSetIntVar (some type) vn d value
  | setVar type vn => initngDataSetVar (some type) vn d
  | setAnotherStringVar type vn string => initngDataSetAnotherStringVar (some type) vn d string
  | removeVar type vn => initngDataRemoveVar (some type) vn d

def kind : DataCall → Option EDt
  | setStringVar .. => some .string
  | setIntVar .. => some .int
  | setVar .. => some .set
  | setAnotherStringVar .. => some .strings
  | removeVar .. => none

def op : DataCall → Op Key Content
  | setStringVar type vn string => .put (DataStore.key type vn) (.s string)
  | setIntVar type vn value => .put (DataStore.key type vn) (.i value)
  | setVar type vn => .put (DataStore.key type vn) .zero
  | setAnotherStringVar type vn string => .add (DataStore.key type vn) (.s string)
  | removeVar type vn => .drop (DataStore.key type vn)

/-- A call with arguments that it accepts, and with a name just if the type is used with names. -/
structure WellTyped (named : SEntry → Bool) (c : DataCall) : Prop where
  consistent : Consistent named c.type c.vn
  kind : ∀ kind ∈ c.kind, c.type.aliasWalk.it kind = true
  vn : c.kind ≠ none → ¬(c.vn = none ∧ 50 ≤ c.type.aliasWalk.type.toNat)

instance (named : SEntry → Bool) (c : DataCall) : Decidable (c.WellTyped named) :=
  decidable_of_iff (c.vn.isSome = named c.type.aliasWalk ∧
      (∀ kind ∈ c.kind, c.type.aliasWalk.it kind = true) ∧
      (c.kind ≠ none → ¬(c.vn = none ∧ 50 ≤ c.type.aliasWalk.type.toNat)))
    ⟨fun h => ⟨h.1, h.2.1, h.2.2⟩, fun h => ⟨h.consistent, h.kind, h.vn⟩⟩

end DataCall

def runCalls (calls : List DataCall) (d : DataHead) : Option DataHead :=
  calls.foldlM (fun d c => c.apply d) d

section
variable {named : SEntry → Bool} {d : DataHead} {l : List ℕ} {c : DataCall}

@[simp] lemma DataCall.op_key (c : DataCall) : c.op.key = key c.type c.vn := by
  cases c <;> rfl

variable {type : SEntry} {vn : Option String}

lemma onType_eq {kind : EDt} (hkind : type.aliasWalk.it kind = true)
    (hn : ¬(vn = none ∧ 50 ≤ type.aliasWalk.type.toNat)) (body : SEntry → Option DataHead) :
    onType kind (some type) vn d body = body type.aliasWalk := by
  rw [onType, if_neg hn, hkind]
  rfl

lemma DataCall.WellTyped.does (hc : c.WellTyped named) (h : d.Keeps named l) :
    d.Does named l c.op (c.apply d) := by
  cases c with
  | setStringVar type vn string =>
    have hkind : type.aliasWalk.it .string = true := hc.kind .string rfl
    have hn : ¬(vn = none ∧ 50 ≤ type.aliasWalk.type.toNat) := hc.vn (some_ne_none _)
    rw [apply, initngDataSetStringVar, onType_eq hkind hn]
    exact h.does_overwrite hc.consistent (.inl hkind) (not_strings hkind (by decide) (by decide))
  | setIntVar type vn value =>
    have hkind : type.aliasWalk.it .int = true := hc.kind .int rfl
    have hn : ¬(vn = none ∧ 50 ≤ type.aliasWalk.type.toNat) := hc.vn (some_ne_none _)
    rw [apply, initngDataSetIntVar, onType_eq hkind hn]
    exact h.does_overwrite hc.consistent hkind (not_strings hkind (by decide) (by decide))
  | setVar type vn =>
    exact h.does_setVar hc.consistent (hc.kind .set rfl) (hc.vn (some_ne_none _))
  | setAnotherStringVar type vn string =>
    have hkind : type.aliasWalk.it .strings = true := hc.kind .strings rfl
    have hn : ¬(vn = none ∧ 50 ≤ type.aliasWalk.type.toNat) := hc.vn (some_ne_none _)
    rw [apply, initngDataSetAnotherStringVar, onType_eq hkind hn]
    exact h.does_add (e := ⟨.s string, type.aliasWalk, vn⟩) ⟨hc.consistent, .inr hkind⟩ hkind
  | removeVar type vn => exact h.does_removeVar hc.consistent

lemma runCalls_keeps {calls : List DataCall} (hcalls : ∀ c ∈ calls, c.WellTyped named) :
    ∃ d l, runCalls calls .empty = some d ∧ d.Keeps named l ∧
      stored d.ring.cell l = run (calls.map DataCall.op) := by
  induction calls using reverseRecOn with
  | nil => exact ⟨_, [], rfl, DataHead.empty_keeps named, rfl⟩
  | append_singleton calls c ih =>
    obtain ⟨d, l, hrun, h, hstored⟩ := ih fun c hc => hcalls c (mem_append_left _ hc)
    obtain ⟨d', l', happly, h', hstored'⟩ := (hcalls c (by simp)).does h
    refine ⟨d', l', ?_, h', ?_⟩
    · rw [runCalls, foldlM_append]
      rw [runCalls] at hrun
      simp [hrun, happly]
    · rw [hstored', hstored, map_append, map_singleton, run_concat]

structure Answers (d : DataHead) (type : SEntry) (vn : Option String) (value : Option Content) :
    Prop where
  string : initngDataGetStringVar (some type) vn d = some (value.bind Content.string)
  int : initngDataGetIntVar (some type) vn d = some ((value.map Content.int).getD 0)
  isVar : initngDataIsVar (some type) vn d = some value.isSome

def ListsStrings (d : DataHead) (type : SEntry) (vn : Option String) (values : List Content) :
    Prop :=
  ∀ fuel, values.length < fuel →
    nextStrings (some type) vn d fuel none = some (values.filterMap Content.string)

structure SameAnswers (d d' : DataHead) (type : SEntry) (vn : Option String) : Prop where
  string : initngDataGetStringVar (some type) vn d' = initngDataGetStringVar (some type) vn d
  int : initngDataGetIntVar (some type) vn d' = initngDataGetIntVar (some type) vn d
  isVar : initngDataIsVar (some type) vn d' = initngDataIsVar (some type) vn d
  strings : type.aliasWalk.it .strings = true →
    ∃ values, ListsStrings d type vn values ∧ ListsStrings d' type vn values

/-- The data are a map from types and names to the last value set since the last removal, and to
all of them for types of many strings. -/
structure RefinesMap (named : SEntry → Bool) (ops : List (Op Key Content)) (d : DataHead) :
    Prop where
  single : ∀ type vn, Consistent named type vn → type.aliasWalk.it .strings = false →
    Answers d type vn (lastSet (key type vn) ops)
  multi : ∀ type vn, Consistent named type vn → type.aliasWalk.it .strings = true →
    Answers d type vn (setSince (key type vn) ops).head? ∧
      ListsStrings d type vn (setSince (key type vn) ops)
  oneEntry : ∃ entries, whileData d = some entries ∧ ∀ type vn, type.it .strings = false →
    (entries.filter fun e => e.type = type ∧ e.vn = vn).length ≤ 1
  independent : ∀ c, DataCall.WellTyped named c → ∃ d', c.apply d = some d' ∧
    ∀ type vn, Consistent named type vn → key type vn ≠ key c.type c.vn → SameAnswers d d' type vn

lemma DataHead.Keeps.answers (h : d.Keeps named l) (hc : Consistent named type vn) :
    Answers d type vn (stored d.ring.cell l (key type vn)).head? where
  string := by
    rw [initngDataGetStringVar, h.firstContent hc]
    rfl
  int := by
    rw [initngDataGetIntVar, h.firstContent hc]
    rfl
  isVar := by
    rw [initngDataIsVar, h.first hc, head?_stored]
    cases l.find? fun e => (d.ring.cell e).1 = key type vn with
    | none | some => rfl

lemma DataHead.Keeps.listsStrings (h : d.Keeps named l) (hc : Consistent named type vn)
    (hs : type.aliasWalk.it .strings = true) :
    ListsStrings d type vn (stored d.ring.cell l (key type vn)) :=
  fun _ hf => h.nextStrings hc hs (.inl ⟨rfl, rfl⟩) hf

lemma DataCall.WellTyped.sameAnswers (hc : c.WellTyped named) (h : d.Keeps named l) :
    ∃ d', c.apply d = some d' ∧ ∀ type vn, Consistent named type vn →
      key type vn ≠ key c.type c.vn → SameAnswers d d' type vn := by
  obtain ⟨d', l', happly, h', hstored⟩ := hc.does h
  refine ⟨d', happly, fun type vn hcons hne => ?_⟩
  have hsame : stored d'.ring.cell l' (key type vn) = stored d.ring.cell l (key type vn) := by
    rw [hstored, Op.apply_of_ne]
    rw [DataCall.op_key]
    exact hne.symm
  have hans := h.answers hcons
  have hans' := h'.answers hcons
  rw [hsame] at hans'
  exact {
    string := hans'.string.trans hans.string.symm
    int := hans'.int.trans hans.int.symm
    isVar := hans'.isVar.trans hans.isVar.symm
    strings := fun hs => ⟨_, h.listsStrings hcons hs, hsame ▸ h'.listsStrings hcons hs⟩ }

lemma DataHead.Keeps.oneEntry (h : d.Keeps named l) :
    ∃ entries, whileData d = some entries ∧ ∀ type vn, type.it .strings = false →
      (entries.filter fun e => e.type = type ∧ e.vn = vn).length ≤ 1 := by
  refine ⟨_, whileData_eq h.lists, fun type vn hs => ?_⟩
  have hsingle := h.single (type, vn) hs
  rw [stored, length_map] at hsingle
  rw [List.filter_map, List.length_map]
  refine Eq.trans_le ?_ hsingle
  refine congrArg length (filter_congr fun e _ => ?_)
  simp [DataRing.cell, SData.cell]

lemma DataCall.WellTyped.strings_of_isAdd (hc : c.WellTyped named) (hadd : c.op.isAdd = true) :
    c.op.key.1.it .strings = true := by
  cases c with
  | setAnotherStringVar type vn string => exact hc.kind .strings rfl
  | setStringVar | setIntVar | setVar | removeVar => cases hadd

lemma DataCall.WellTyped.not_strings_of_isPut (hc : c.WellTyped named)
    (hput : c.op.isPut = true) : c.op.key.1.it .strings = false := by
  cases c with
  | setStringVar type vn string =>
    exact not_strings (hc.kind .string rfl) (by decide) (by decide)
  | setIntVar type vn value => exact not_strings (hc.kind .int rfl) (by decide) (by decide)
  | setVar type vn => exact not_strings (hc.kind .set rfl) (by decide) (by decide)
  | setAnotherStringVar | removeVar => cases hput

/-- The data store refines a finite map. -/
theorem data_refinesMap (named : SEntry → Bool) (calls : List DataCall)
    (hcalls : ∀ c ∈ calls, c.WellTyped named) :
    ∃ d, runCalls calls .empty = some d ∧ RefinesMap named (calls.map DataCall.op) d := by
  obtain ⟨d, l, hrun, h, hstored⟩ := runCalls_keeps hcalls
  refine ⟨d, hrun, ?_, ?_, h.oneEntry, fun c hc => hc.sameAnswers h⟩
  · intro type vn hc hs
    have hlast : run (calls.map DataCall.op) (key type vn) =
        (lastSet (key type vn) (calls.map DataCall.op)).toList := by
      refine run_eq_lastSet fun op hop hk => ?_
      obtain ⟨c, hmem, rfl⟩ := mem_map.mp hop
      refine Bool.eq_false_iff.mpr fun hadd => ?_
      have hstrings := (hcalls c hmem).strings_of_isAdd hadd
      rw [hk] at hstrings
      exact absurd (hstrings.symm.trans hs) (by decide)
    have hans := h.answers hc
    rwa [hstored, hlast, head?_toList] at hans
  · intro type vn hc hs
    have hall : run (calls.map DataCall.op) (key type vn) =
        setSince (key type vn) (calls.map DataCall.op) := by
      refine run_eq_setSince fun op hop hk => ?_
      obtain ⟨c, hmem, rfl⟩ := mem_map.mp hop
      refine Bool.eq_false_iff.mpr fun hput => ?_
      have hstrings := (hcalls c hmem).not_strings_of_isPut hput
      rw [hk] at hstrings
      exact absurd (hs.symm.trans hstrings) (by decide)
    have hans := h.answers hc
    have hlists := h.listsStrings hc hs
    rw [hstored, hall] at hans hlists
    exact ⟨hans, hlists⟩

/-- The services that another one needs are set, removed and set again; its path is set, and
set again through an alias. -/
def needAndPath : List DataCall :=
  [.setAnotherStringVar (.entry 0 .strings) none "net",
    .setStringVar (.entry 1 .variableString) (some "PATH") "/bin",
    .removeVar (.entry 0 .strings) none,
    .setStringVar (.aliased 2 .alias (.entry 1 .variableString)) (some "PATH") "/sbin",
    .setAnotherStringVar (.entry 0 .strings) none "fsck",
    .setAnotherStringVar (.entry 0 .strings) none "mount"]

theorem data_refinesMap_needAndPath :
    ∃ d, runCalls needAndPath .empty = some d ∧
      Answers d (.entry 1 .variableString) (some "PATH") (some (.s "/sbin")) ∧
      ListsStrings d (.entry 0 .strings) none [.s "fsck", .s "mount"] := by
  have hcalls : ∀ c ∈ needAndPath, c.WellTyped fun type => decide (50 ≤ type.type.toNat) := by
    decide
  obtain ⟨d, hrun, h⟩ := data_refinesMap _ _ hcalls
  exact ⟨d, hrun, h.single (.entry 1 .variableString) (some "PATH") rfl rfl,
    (h.multi (.entry 0 .strings) none rfl rfl).2⟩

end

end Initng.DataStore
