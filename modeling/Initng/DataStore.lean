import Initng.ListOrder
import Mathlib.Algebra.Ring.Nat

/-! `main/data` and `initng/list.h`. -/

namespace Initng.DataStore

open LinkRing List Option Function

inductive EDt
  | uDT
  | string
  | strings
  | set
  | int
  | alias
  | timeT
  | variableString
  | variableStrings
  | variableSet
  | variableInt
  | variableTimeT
  deriving DecidableEq

def EDt.toNat : EDt → ℕ
  | .uDT => 0
  | .string => 1
  | .strings => 2
  | .set => 3
  | .int => 6
  | .alias => 7
  | .timeT => 8
  | .variableString => 51
  | .variableStrings => 52
  | .variableSet => 53
  | .variableInt => 56
  | .variableTimeT => 58

/-- A pointer to an `s_entry`: its address, its type and what its alias points to, if that is
not NULL. -/
inductive SEntry
  | entry (addr : ℕ) (type : EDt)
  | aliased (addr : ℕ) (type : EDt) (target : SEntry)
  deriving DecidableEq

def SEntry.type : SEntry → EDt
  | .entry _ type | .aliased _ type _ => type

def SEntry.aliasWalk : SEntry → SEntry
  | .entry addr type => .entry addr type
  | .aliased addr type target =>
    if type = .alias then target.aliasWalk else .aliased addr type target

def SEntry.it (x : EDt) (type : SEntry) : Bool :=
  type.type.toNat = x.toNat ∨ type.type.toNat = x.toNat + 50

inductive Content
  | s (string : String)
  | i (value : ℤ)
  | zero
  deriving DecidableEq

def Content.string : Content → Option String
  | .s string => some string
  | _ => none

def Content.int : Content → ℤ
  | .i value => value
  | _ => 0

structure SData where
  t : Content
  type : SEntry
  vn : Option String
  deriving DecidableEq

/-- The list of a `data_head`: its links, the entries at their addresses and the next address
that is free. -/
structure DataRing where
  list : Links ListAddr
  entry : ℕ → SData
  next : ℕ

structure DataHead where
  ring : DataRing
  res : List DataRing

structure DataPtr where
  level : ℕ
  entry : ℕ
  deriving DecidableEq

def DataHead.empty : DataHead where
  ring.list
    | .head => some ⟨some .head, some .head⟩
    | .entry _ => some ⟨none, none⟩
  ring.entry _ := ⟨.zero, .entry 0 .uDT, none⟩
  ring.next := 0
  res := []

namespace DataHead

def onRing (level : ℕ) (f : DataRing → Option DataRing) (d : DataHead) : Option DataHead :=
  match level with
  | 0 => (f d.ring).map fun ring => { d with ring }
  | level + 1 => do
    let ring ← f (← d.res[level]?)
    return { d with res := d.res.set level ring }

def entry (d : DataHead) (p : DataPtr) : Option SData :=
  ((d.ring :: d.res)[p.level]?).map fun ring => ring.entry p.entry

def write (p : DataPtr) (t : Content) (d : DataHead) : Option DataHead :=
  d.onRing p.level fun ring =>
    some { ring with entry := update ring.entry p.entry { ring.entry p.entry with t } }

def add (e : SData) (d : DataHead) : Option DataHead :=
  d.onRing 0 fun ring => do
    let list ← initngListAdd (.entry ring.next) .head ring.list
    return { ring with
      list, entry := update ring.entry ring.next e, next := ring.next + 1 }

def dfree (p : DataPtr) (d : DataHead) : Option DataHead :=
  d.onRing p.level fun ring => do
    let list ← initngListDel (.entry p.entry) ring.list
    return { ring with list }

def fuel (d : DataHead) : ℕ := ((d.ring :: d.res).map DataRing.next).sum + 1

end DataHead

def SData.matches (type : Option SEntry) (vn : Option String) (e : SData) : Bool :=
  (type = none ∨ some e.type = type) ∧ (e.vn = none ∨ vn = none ∨ e.vn = vn)

def DataRing.search (ring : DataRing) (test : SData → Bool) (level : ℕ) :
    ℕ → Option ListAddr → Option DataPtr → Option (Option DataPtr × Option DataPtr)
  | 0, _, _ => none
  | fuel + 1, place, last =>
    match place with
    | none | some .head => some (none, last)
    | some (.entry e) =>
      let current : DataPtr := ⟨level, e⟩
      if last ≠ none ∧ last ≠ some current then do
        ring.search test level fuel (← ring.list.prev place) last
      else if last = some current then do
        ring.search test level fuel (← ring.list.prev place) none
      else if test (ring.entry e) then some (some current, last)
      else do
        ring.search test level fuel (← ring.list.prev place) last

def DataRing.place (ring : DataRing) : Option (Option ListAddr) := do
  if ← initngListIsempty .head ring.list then return none
  ring.list.prev ListAddr.head

def searchRings (test : SData → Bool) : List DataRing → ℕ → Option DataPtr → Option (Option DataPtr)
  | [], _, _ => some none
  | ring :: res, level, last => do
    let (current, last) ← ring.search test level (ring.next + 1) (← ring.place) last
    match current with
    | some current => return some current
    | none => searchRings test res (level + 1) last

def initngDataGetNextVar (type : Option SEntry) (vn : Option String) (d : DataHead)
    (last : Option DataPtr) : Option (Option DataPtr) :=
  searchRings (SData.matches (type.map SEntry.aliasWalk) vn) (d.ring :: d.res) 0 last

def firstContent (type : Option SEntry) (vn : Option String) (d : DataHead) :
    Option (Option Content) := do
  let current ← initngDataGetNextVar type vn d none
  return (current.bind d.entry).map SData.t

def initngDataGetStringVar (type : Option SEntry) (vn : Option String) (d : DataHead) :
    Option (Option String) := do
  return (← firstContent type vn d).bind Content.string

def initngDataGetIntVar (type : Option SEntry) (vn : Option String) (d : DataHead) : Option ℤ := do
  return ((← firstContent type vn d).map Content.int).getD 0

def initngDataIsVar (type : Option SEntry) (vn : Option String) (d : DataHead) : Option Bool := do
  return (← initngDataGetNextVar type vn d none).isSome

def initngDataGetNextStringVar (type : Option SEntry) (vn : Option String) (d : DataHead)
    (cur : Option DataPtr) : Option (Option String × Option DataPtr) := do
  let current ← initngDataGetNextVar type vn d cur
  return (((current.bind d.entry).map SData.t).bind Content.string, current)

def nextStrings (type : Option SEntry) (vn : Option String) (d : DataHead) :
    ℕ → Option DataPtr → Option (List String)
  | 0, _ => none
  | fuel + 1, cur => do
    let (string, cur) ← initngDataGetNextStringVar type vn d cur
    match string with
    | none => return []
    | some string => return string :: (← nextStrings type vn d fuel cur)

def whileData (d : DataHead) : Option (List SData) := do
  let places ← initngListForeachRev (d.ring.next + 1) .head d.ring.list
  return places.filterMap fun a => match a with
    | .head => none
    | .entry e => some (d.ring.entry e)

def onType (kind : EDt) (type : Option SEntry) (vn : Option String) (d : DataHead)
    (body : SEntry → Option DataHead) : Option DataHead :=
  match type with
  | none => some d
  | some type =>
    let type := type.aliasWalk
    if vn = none ∧ 50 ≤ type.type.toNat then some d
    else if !type.it kind then some d
    else body type

def overwrite (t : Content) (vn : Option String) (d : DataHead) (type : SEntry) :
    Option DataHead := do
  match ← initngDataGetNextVar (some type) vn d none with
  | some current => d.write current t
  | none => d.add ⟨t, type, vn⟩

def initngDataSetStringVar (type : Option SEntry) (vn : Option String) (d : DataHead)
    (string : String) : Option DataHead :=
  onType .string type vn d (overwrite (.s string) vn d)

def initngDataSetIntVar (type : Option SEntry) (vn : Option String) (d : DataHead) (value : ℤ) :
    Option DataHead :=
  onType .int type vn d (overwrite (.i value) vn d)

def initngDataSetVar (type : Option SEntry) (vn : Option String) (d : DataHead) :
    Option DataHead :=
  onType .set type vn d fun type => do
    if ← initngDataIsVar (some type) vn d then return d
    d.add ⟨.zero, type, vn⟩

def initngDataSetAnotherStringVar (type : Option SEntry) (vn : Option String) (d : DataHead)
    (string : String) : Option DataHead :=
  onType .strings type vn d fun type => d.add ⟨.s string, type, vn⟩

def removeTurns (type : SEntry) (vn : Option String) : ℕ → DataHead → Option DataHead
  | 0, _ => none
  | fuel + 1, d => do
    match ← initngDataGetNextVar (some type) vn d none with
    | none => return d
    | some current => removeTurns type vn fuel (← d.dfree current)

/-- The assertion fails for a type that is NULL. -/
def initngDataRemoveVar (type : Option SEntry) (vn : Option String) (d : DataHead) :
    Option DataHead := do
  removeTurns (← type) vn d.fuel d

structure DataRing.Lists (ring : DataRing) (l : List ℕ) : Prop where
  represents : Represents ring.list l
  allocated : ∀ e ∈ l, e < ring.next

lemma DataHead.empty_lists : DataHead.empty.ring.Lists [] where
  represents := by
    refine ⟨Ring.of_chain (nodup_singleton _) ?_, fun s _ => ⟨rfl, rfl⟩⟩
    exact isChain_pair.mpr ⟨rfl, rfl⟩
  allocated := by simp

section
variable {ring : DataRing} {test : SData → Bool} {level e : ℕ} {l xs ys todo : List ℕ}

lemma DataRing.Lists.length_lt (h : ring.Lists l) : l.length < ring.next + 1 :=
  h.represents.length_lt h.allocated

lemma DataRing.Lists.next_notMem (h : ring.Lists l) : ring.next ∉ l := fun hm =>
  absurd (h.allocated _ hm) (lt_irrefl _)

lemma DataRing.Lists.search (pre : List ℕ) (h : ring.Lists (pre ++ todo)) {fuel : ℕ}
    (hf : todo.length < fuel) :
    ring.search test level fuel (some (position todo)) none =
      some ((todo.find? fun e => test (ring.entry e)).map fun e => ⟨level, e⟩, none) := by
  induction todo generalizing pre fuel with
  | nil =>
    obtain _ | fuel := fuel
    · cases hf
    rfl
  | cons e todo ih =>
    obtain _ | fuel := fuel
    · cases hf
    have hpos : position (e :: todo) = .entry e := rfl
    have hprev := h.represents.prev_entry
    have h' : ring.Lists ((pre ++ [e]) ++ todo) := by simpa using h
    have hrest := ih _ h' (Nat.lt_of_succ_lt_succ hf)
    rw [hpos, DataRing.search]
    cases htest : test (ring.entry e) with
    | true => simp [htest]
    | false => simp [htest, hprev, hrest]

lemma DataRing.Lists.search_after (pre : List ℕ) (h : ring.Lists (pre ++ (xs ++ e :: ys)))
    {fuel : ℕ} (hf : (xs ++ e :: ys).length < fuel) :
    ring.search test level fuel (some (position (xs ++ e :: ys))) (some ⟨level, e⟩) =
      some ((ys.find? fun e => test (ring.entry e)).map fun e => ⟨level, e⟩, none) := by
  induction xs generalizing pre fuel with
  | nil =>
    obtain _ | fuel := fuel
    · cases hf
    have hpos : position ([] ++ e :: ys) = .entry e := rfl
    have hprev := h.represents.prev_entry
    have h' : ring.Lists ((pre ++ [e]) ++ ys) := by simpa using h
    rw [hpos, DataRing.search]
    simp [hprev, DataRing.Lists.search _ h' (Nat.lt_of_succ_lt_succ hf)]
  | cons x xs ih =>
    obtain _ | fuel := fuel
    · cases hf
    have hpos : position (x :: xs ++ e :: ys) = .entry x := rfl
    have hprev := h.represents.prev_entry
    have hne : e ≠ x := by
      have hnd := (nodup_append.mp h.represents.nodup).2.1
      rintro rfl
      exact (nodup_cons.mp hnd).1 (by simp)
    have h' : ring.Lists ((pre ++ [x]) ++ (xs ++ e :: ys)) := by simpa using h
    have hrest := ih _ h' (Nat.lt_of_succ_lt_succ hf)
    rw [hpos, DataRing.search]
    simp [hprev, hrest, hne]

lemma DataRing.Lists.place (h : ring.Lists l) :
    ∃ place, ring.place = some place ∧ ∀ fuel last,
      ring.search test level (fuel + 1) place last =
        ring.search test level (fuel + 1) (some (position l)) last := by
  rw [DataRing.place, h.represents.isempty]
  cases l with
  | nil => exact ⟨none, rfl, fun fuel last => rfl⟩
  | cons e l => exact ⟨_, h.represents.prev_head, fun fuel last => rfl⟩

end

def Behind (l : List ℕ) (cur : Option DataPtr) (rest : List ℕ) : Prop :=
  (cur = none ∧ rest = l) ∨ ∃ xs e, cur = some ⟨0, e⟩ ∧ l = xs ++ e :: rest

section
variable {d : DataHead} {l rest : List ℕ} {type : Option SEntry} {vn : Option String}
  {cur : Option DataPtr}

lemma getNextVar_eq (hres : d.res = []) (h : d.ring.Lists l) (hrest : Behind l cur rest) :
    initngDataGetNextVar type vn d cur = some
      ((rest.find? fun e => (d.ring.entry e).matches (type.map SEntry.aliasWalk) vn).map
        fun e => ⟨0, e⟩) := by
  obtain ⟨place, hplace, hsame⟩ := h.place
  have hsearch : d.ring.search (SData.matches (type.map SEntry.aliasWalk) vn) 0 (d.ring.next + 1)
      place cur = some
        ((rest.find? fun e => (d.ring.entry e).matches (type.map SEntry.aliasWalk) vn).map
          fun e => ⟨0, e⟩, none) := by
    rw [hsame]
    rcases hrest with ⟨rfl, rfl⟩ | ⟨xs, e, rfl, rfl⟩
    · exact DataRing.Lists.search [] h h.length_lt
    · exact DataRing.Lists.search_after [] h h.length_lt
  rw [initngDataGetNextVar, hres, searchRings, hplace]
  simp only [bind_eq_bind, bind_some, hsearch]
  cases rest.find? fun e => (d.ring.entry e).matches (type.map SEntry.aliasWalk) vn with
  | none | some => rfl

lemma getNextVar_first (hres : d.res = []) (h : d.ring.Lists l) :
    initngDataGetNextVar type vn d none = some
      ((l.find? fun e => (d.ring.entry e).matches (type.map SEntry.aliasWalk) vn).map
        fun e => ⟨0, e⟩) :=
  getNextVar_eq hres h (.inl ⟨rfl, rfl⟩)

lemma whileData_eq (h : d.ring.Lists l) : whileData d = some (l.map d.ring.entry) := by
  rw [whileData, h.represents.foreachRev h.length_lt]
  simp only [bind_eq_bind, bind_some, filterMap_map]
  exact congrArg some (filterMap_eq_map ▸ rfl)

lemma add_lists (h : d.ring.Lists l) (e : SData) :
    ∃ list, d.add e = some { d with ring := ⟨list, update d.ring.entry d.ring.next e,
        d.ring.next + 1⟩ } ∧
      DataRing.Lists ⟨list, update d.ring.entry d.ring.next e, d.ring.next + 1⟩
        (l ++ [d.ring.next]) := by
  obtain ⟨list, eq, r⟩ := h.represents.add h.next_notMem
  refine ⟨list, by simp [DataHead.add, DataHead.onRing, eq], r, fun e' he' => ?_⟩
  rcases mem_append.mp he' with he' | he'
  · exact Nat.lt_succ_of_lt (h.allocated e' he')
  · exact mem_singleton.mp he' ▸ Nat.lt_succ_self _

lemma dfree_lists (h : d.ring.Lists l) (e : ℕ) :
    ∃ list, d.dfree ⟨0, e⟩ = some { d with ring := { d.ring with list } } ∧
      DataRing.Lists { d.ring with list } (l.filter (· ≠ e)) := by
  obtain ⟨list, eq, r⟩ := h.represents.del e
  refine ⟨list, by simp [DataHead.dfree, DataHead.onRing, eq], r, fun e' he' => ?_⟩
  exact h.allocated e' (mem_of_mem_filter he')

lemma removeTurns_lists {type : SEntry} {fuel : ℕ} (hres : d.res = []) (h : d.ring.Lists l)
    (hf : (l.filter fun e => (d.ring.entry e).matches (some type.aliasWalk) vn).length < fuel) :
    ∃ list, removeTurns type vn fuel d = some { d with ring := { d.ring with list } } ∧
      DataRing.Lists { d.ring with list }
        (l.filter fun e => !(d.ring.entry e).matches (some type.aliasWalk) vn) := by
  induction fuel generalizing d l with
  | zero => cases hf
  | succ fuel ih =>
    rw [removeTurns, getNextVar_first hres h]
    cases hfind : l.find? fun e => (d.ring.entry e).matches (some type.aliasWalk) vn with
    | none =>
      have hall : (l.filter fun e => !(d.ring.entry e).matches (some type.aliasWalk) vn) = l := by
        refine filter_eq_self.mpr fun e he => ?_
        simpa using find?_eq_none.mp hfind e he
      refine ⟨d.ring.list, by simp [hfind], ?_⟩
      rwa [hall]
    | some e =>
      have hmatch := find?_some hfind
      have hmem := mem_of_find?_eq_some hfind
      obtain ⟨list, hfree, h'⟩ := dfree_lists h e
      have hlt : ((l.filter (· ≠ e)).filter fun e =>
          (d.ring.entry e).matches (some type.aliasWalk) vn).length < fuel := by
        rw [filter_comm]
        refine lt_of_lt_of_le ?_ (Nat.le_of_lt_succ hf)
        refine length_filter_lt_length_iff_exists.mpr ⟨e, ?_, by simp⟩
        exact mem_filter.mpr ⟨hmem, hmatch⟩
      obtain ⟨list', hturns, h''⟩ := ih (d := { d with ring := { d.ring with list } }) hres h' hlt
      have hsame : ((l.filter (· ≠ e)).filter fun e =>
          !(d.ring.entry e).matches (some type.aliasWalk) vn) =
          l.filter fun e => !(d.ring.entry e).matches (some type.aliasWalk) vn := by
        rw [List.filter_filter]
        refine filter_congr fun x _ => ?_
        by_cases hx : x = e
        · simp [hx, hmatch]
        · simp [hx]
      rw [hsame] at h''
      exact ⟨list', by simp [hfind, hfree, hturns], h''⟩

end

end Initng.DataStore
