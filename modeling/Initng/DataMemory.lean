import Initng.CursorScan
import Initng.DataStore

namespace Initng.DataStore

open LinkRing CursorScan List Option

/-- Where a `list_t` is: in a `data_head` or in an `s_data`. -/
inductive DataAddr
  | head (n : ℕ)
  | entry (n : ℕ)
  deriving DecidableEq

/-- An `s_data` without its links.  The union `t` is one word, the address of a string for the
types that have one; `none` is zero and NULL. -/
structure DataCell where
  t : Option ℕ
  type : Option SEntry
  vn : Option ℕ
  deriving DecidableEq

/-- The links, the entries, `res` of the heads and the strings; the hooks of the heads are NULL. -/
structure DataMem where
  list : Links DataAddr
  entry : ℕ → DataCell
  res : ℕ → Option ℕ
  string : ℕ → Option String
  nextEntry : ℕ
  nextString : ℕ

namespace DataMem

/-- The test of the names; `strcmp` reads the one of the entry. -/
def testName (m : DataMem) : Option ℕ → Option String → Option Bool
  | some p, some vn => (m.string p).map (· = vn)
  | _, _ => some true

def test (m : DataMem) (type : Option SEntry) (vn : Option String) (current : ℕ) : Option Bool :=
  if type = none ∨ (m.entry current).type = type then m.testName (m.entry current).vn vn
  else some false

def search (m : DataMem) (test : ℕ → Option Bool) (head : ℕ) :
    ℕ → Option DataAddr → Option ℕ → Option (Option ℕ × Option ℕ)
  | 0, _, _ => none
  | fuel + 1, place, last =>
    match place with
    | none => some (none, last)
    | some (.head n) => if n = head then some (none, last) else none
    | some (.entry current) =>
      if last ≠ none ∧ last ≠ some current then do
        m.search test head fuel (← m.list.prev place) last
      else if last = some current then do
        m.search test head fuel (← m.list.prev place) none
      else do
        if ← test current then return (some current, last)
        m.search test head fuel (← m.list.prev place) last

def place (m : DataMem) (head : ℕ) : Option (Option DataAddr) := do
  if ← initngListIsempty (.head head) m.list then return none
  m.list.prev (DataAddr.head head)

/-- The fuel bounds the turns of each loop and how often `res` is followed. -/
def initngDataGetNextVar (m : DataMem) (vn : Option String) :
    ℕ → Option SEntry → ℕ → Option ℕ → Option (Option ℕ)
  | 0, _, _, _ => none
  | fuel + 1, type, head, last => do
    let type := type.map SEntry.aliasWalk
    let (current, last) ← m.search (m.test type vn) head (fuel + 1) (← m.place head) last
    match current with
    | some current => return some current
    | none =>
      match m.res head with
      | some res => m.initngDataGetNextVar vn fuel type res last
      | none => return none

/-- The entries on the list of a head, the oldest first: `initng_list_add` puts a new one in
front.  Their names can be read. -/
structure Lists (m : DataMem) (head : ℕ) (l : List ℕ) : Prop where
  holds : Holds m.list (.head head) (l.reverse.map .entry)
  named : ∀ e ∈ l, ∀ p, (m.entry e).vn = some p → ∃ s, m.string p = some s

inductive Chain (m : DataMem) : ℕ → List (ℕ × List ℕ) → Prop
  | last {head : ℕ} {l : List ℕ} (hl : m.Lists head l) (hres : m.res head = none) :
      Chain m head [(head, l)]
  | more {head res : ℕ} {l : List ℕ} {chain : List (ℕ × List ℕ)} (hl : m.Lists head l)
      (hres : m.res head = some res) (hc : Chain m res chain) : Chain m head ((head, l) :: chain)

def entries (chain : List (ℕ × List ℕ)) : List ℕ := chain.flatMap Prod.snd

def Fits (m : DataMem) (type : Option SEntry) (vn : Option String) (e : ℕ) : Prop :=
  (type = none ∨ (m.entry e).type = type) ∧
    ((m.entry e).vn = none ∨ vn = none ∨ (m.entry e).vn.bind m.string = vn)

instance (m : DataMem) (type : Option SEntry) (vn : Option String) (e : ℕ) :
    Decidable (m.Fits type vn e) :=
  inferInstanceAs (Decidable (_ ∧ _))

def position (head : ℕ) : List ℕ → DataAddr
  | [] => .head head
  | e :: _ => .entry e

section
variable {m : DataMem} {head e : ℕ} {l pre todo : List ℕ}

lemma Lists.nodup (h : m.Lists head l) : l.Nodup := by
  have hnd := (nodup_append.mp (Cycle.nodup_coe_iff.mp (Ring.nodup h.holds))).1
  exact nodup_reverse.mp hnd.of_map

lemma Lists.unique {l' : List ℕ} (h : m.Lists head l) (h' : m.Lists head l') : l = l' := by
  have hfuel : (l.reverse.map DataAddr.entry).length < l.length + l'.length + 1 := by
    rw [length_map, length_reverse]
    omega
  have hfuel' : (l'.reverse.map DataAddr.entry).length < l.length + l'.length + 1 := by
    rw [length_map, length_reverse]
    omega
  have hwalk := h.holds.foreach hfuel
  rw [h'.holds.foreach hfuel'] at hwalk
  have hmap : Function.Injective (map DataAddr.entry) :=
    map_injective_iff.mpr fun _ _ => DataAddr.entry.inj
  exact (reverse_injective (hmap (some.inj hwalk))).symm

lemma getLast_reverse_map (head : ℕ) (l : List ℕ) :
    (l.reverse.map DataAddr.entry).getLast?.getD (.head head) = position head l := by
  cases l <;> simp [position]

lemma Lists.prev_head (h : m.Lists head l) :
    m.list.prev (DataAddr.head head) = some (some (position head l)) := by
  rw [h.holds.prev_head, getLast_reverse_map]

lemma Lists.prev_entry (h : m.Lists head (pre ++ e :: todo)) :
    m.list.prev (DataAddr.entry e) = some (some (position head todo)) := by
  have hholds : Holds m.list (.head head) (todo.reverse.map .entry ++
      DataAddr.entry e :: pre.reverse.map .entry) := by
    simpa using h.holds
  rw [hholds.prev, getLast_reverse_map]

lemma Lists.isempty (h : m.Lists head l) :
    initngListIsempty (.head head) m.list = some (decide (l = [])) := by
  have hx := Ring.chain h.holds
  rcases eq_nil_or_concat l with rfl | ⟨l, e, rfl⟩
  · have hself : m.list.next (DataAddr.head head) = some (some (.head head)) :=
      (isChain_pair.mp hx).1
    simp [initngListIsempty, hself]
  · rw [concat_eq_append, reverse_append, reverse_singleton,
      singleton_append, map_cons, cons_append] at hx
    have hnext : m.list.next (DataAddr.head head) = some (some (.entry e)) :=
      (isChain_cons_cons.mp hx).1.1
    simp [initngListIsempty, hnext]

lemma Lists.test (h : m.Lists head l) (he : e ∈ l) (type : Option SEntry)
    (vn : Option String) : m.test type vn e = some (decide (m.Fits type vn e)) := by
  have hname : m.testName (m.entry e).vn vn =
      some (decide ((m.entry e).vn = none ∨ vn = none ∨ (m.entry e).vn.bind m.string = vn)) := by
    cases hvn : (m.entry e).vn with
    | none => simp [testName]
    | some p =>
      obtain ⟨s, hs⟩ := h.named e he p hvn
      cases vn <;> simp [testName, hs]
  rw [DataMem.test, hname]
  by_cases htype : type = none ∨ (m.entry e).type = type <;> simp [Fits, htype]

lemma Lists.search (pre : List ℕ) (h : m.Lists head (pre ++ todo)) {test : ℕ → Option Bool}
    {fits : ℕ → Bool} (htest : ∀ e ∈ todo, test e = some (fits e)) {fuel : ℕ}
    (hf : todo.length < fuel) (last : Option ℕ) :
    m.search test head fuel (some (position head todo)) last = some (seek fits todo last) := by
  induction todo generalizing pre fuel last with
  | nil =>
    obtain _ | fuel := fuel
    · cases hf
    simp [position, DataMem.search, seek]
  | cons e todo ih =>
    obtain _ | fuel := fuel
    · cases hf
    have hprev := h.prev_entry
    have h' : m.Lists head ((pre ++ [e]) ++ todo) := by simpa using h
    have hrest := ih _ h' (fun e he => htest e (.tail _ he)) (Nat.lt_of_succ_lt_succ hf)
    have hpos : position head (e :: todo) = .entry e := rfl
    rw [hpos, DataMem.search, seek]
    split
    · simp [hprev, hrest]
    split
    · simp [hprev, hrest]
    rw [htest e (.head _)]
    cases fits e <;> simp [hprev, hrest]

variable (h : m.Lists head l)
include h

lemma Lists.place :
    ∃ place, m.place head = some place ∧ ∀ test fuel last,
      m.search test head (fuel + 1) place last =
        m.search test head (fuel + 1) (some (position head l)) last := by
  rw [DataMem.place, h.isempty]
  cases l with
  | nil => exact ⟨none, rfl, fun test fuel last => by simp [DataMem.search, position]⟩
  | cons e l => exact ⟨_, h.prev_head, fun test fuel last => rfl⟩

lemma Lists.searched (type : Option SEntry) (vn : Option String)
    {fuel : ℕ} (hf : l.length < fuel) (last : Option ℕ) :
    ∃ place, m.place head = some place ∧
      m.search (m.test type vn) head fuel place last =
        some (seek (fun e => m.Fits type vn e) l last) := by
  obtain _ | fuel := fuel
  · cases hf
  obtain ⟨place, hplace, hsame⟩ := h.place
  refine ⟨place, hplace, ?_⟩
  rw [hsame]
  exact Lists.search [] h (fun e he => h.test he type vn) hf last

lemma Lists.add (hen : m.list.next (DataAddr.entry e) = some none)
    (hep : m.list.prev (DataAddr.entry e) = some none)
    (hvn : ∀ p, (m.entry e).vn = some p → ∃ s, m.string p = some s) :
    ∃ list, initngListAdd (.entry e) (.head head) m.list = some list ∧
      Lists { m with list } head (l ++ [e]) := by
  obtain ⟨list, eq, hholds, -⟩ := h.holds.add hen hep
  refine ⟨list, eq, by simpa using hholds, fun x hx p hp => ?_⟩
  rcases mem_append.mp hx with hx | hx
  · exact h.named x hx p hp
  · obtain rfl := mem_singleton.mp hx
    exact hvn p hp

lemma Lists.disjoint {other : ℕ} {l' : List ℕ} (h' : m.Lists other l')
    (hne : head ≠ other) (he : e ∈ l) : e ∉ l' := by
  intro he'
  have hmem : ∀ {k : ℕ} {l : List ℕ}, e ∈ l →
      DataAddr.entry e ∈ (↑(l.reverse.map DataAddr.entry ++ [DataAddr.head k]) : Cycle _) :=
    fun he => Cycle.mem_coe_iff.mpr (by simpa using he)
  have hhead : DataAddr.head head ∈ l'.reverse.map DataAddr.entry ++ [.head other] :=
    Cycle.mem_coe_iff.mp <| Ring.mem_of_mem h.holds h'.holds (hmem he) (hmem he')
      (Cycle.mem_coe_iff.mpr (by simp))
  simp [hne] at hhead

end

section
variable {m : DataMem} {head : ℕ} {chain : List (ℕ × List ℕ)}

section
variable (h : m.Chain head chain)
include h

lemma Chain.heads_unique {chain' : List (ℕ × List ℕ)}
    (h' : m.Chain head chain') : chain.length = chain'.length := by
  induction h generalizing chain' with
  | last hl hres =>
    cases h' with
    | last => rfl
    | more _ hres' => simp [hres] at hres'
  | more hl hres hc ih =>
    cases h' with
    | last _ hres' => simp [hres] at hres'
    | more _ hres' hc' =>
      obtain rfl := some.inj (hres.symm.trans hres')
      simp [ih hc']

lemma Chain.exists_from {k : ℕ} {l : List ℕ} (hk : (k, l) ∈ chain) :
    m.Lists k l ∧ ∃ chain', m.Chain k chain' ∧ chain'.length ≤ chain.length := by
  induction h with
  | last hl hres =>
    obtain ⟨rfl, rfl⟩ : k = _ ∧ l = _ := by simpa using hk
    exact ⟨hl, _, .last hl hres, le_refl _⟩
  | more hl hres hc ih =>
    rcases mem_cons.mp hk with heq | hk
    · obtain ⟨rfl, rfl⟩ := Prod.mk.inj heq
      exact ⟨hl, _, .more hl hres hc, le_refl _⟩
    · obtain ⟨hkl, chain', hc', hlen⟩ := ih hk
      exact ⟨hkl, chain', hc', Nat.le_succ_of_le hlen⟩

lemma Chain.exists_head : ∃ l rest, chain = (head, l) :: rest ∧ m.Lists head l := by
  cases h with
  | last hl => exact ⟨_, [], rfl, hl⟩
  | more hl hres hc => exact ⟨_, _, rfl, hl⟩

lemma Chain.nodup : (entries chain).Nodup := by
  induction h with
  | last hl hres => simpa [entries] using hl.nodup
  | @more head res l chain hl hres hc ih =>
    have hdis : ∀ e ∈ l, e ∉ entries chain := by
      intro e he hm
      obtain ⟨⟨k, l'⟩, hk, he'⟩ := mem_flatMap.mp hm
      obtain ⟨hkl, chain', hc', hlen⟩ := hc.exists_from hk
      have hne : head ≠ k := by
        rintro rfl
        have := (Chain.more hl hres hc).heads_unique hc'
        simp only [length_cons] at this
        omega
      exact hl.disjoint hkl hne he he'
    exact nodup_append.mpr ⟨hl.nodup, ih, fun a ha b hb hab => hdis a ha (hab ▸ hb)⟩

end

lemma aliasWalk_aliasWalk (type : SEntry) : type.aliasWalk.aliasWalk = type.aliasWalk := by
  induction type with
  | entry addr type => rfl
  | aliased addr type target ih =>
    by_cases h : type = .alias <;> simp [SEntry.aliasWalk, h, ih]

lemma Chain.getNextVar (h : m.Chain head chain) (type : Option SEntry) (vn : Option String)
    {fuel : ℕ} (hf : chain.length + (entries chain).length < fuel) (last : Option ℕ) :
    m.initngDataGetNextVar vn fuel type head last =
      some (seek (fun e => m.Fits (type.map SEntry.aliasWalk) vn e) (entries chain) last).1 := by
  induction h generalizing type fuel last with
  | @last head l hl hres =>
    obtain _ | fuel := fuel
    · cases hf
    have hlen : l.length < fuel + 1 := by simp [entries] at hf; omega
    obtain ⟨place, hplace, hsearch⟩ := hl.searched (type.map SEntry.aliasWalk) vn hlen last
    simp only [initngDataGetNextVar, hplace, hsearch, bind_eq_bind, bind_some,
      entries, flatMap_singleton]
    cases seek (fun e => m.Fits (type.map SEntry.aliasWalk) vn e) l last with
    | mk current last => cases current <;> simp [hres]
  | @more head res l chain hl hres hc ih =>
    obtain _ | fuel := fuel
    · cases hf
    have hlen : l.length < fuel + 1 := by simp [entries] at hf; omega
    have hrest : chain.length + (entries chain).length < fuel := by simp [entries] at hf ⊢; omega
    obtain ⟨place, hplace, hsearch⟩ := hl.searched (type.map SEntry.aliasWalk) vn hlen last
    simp only [initngDataGetNextVar, hplace, hsearch, bind_eq_bind, bind_some,
      entries, flatMap_cons, seek_append]
    cases seek (fun e => m.Fits (type.map SEntry.aliasWalk) vn e) l last with
    | mk current last =>
      cases current with
      | some current => rfl
      | none =>
        have hih := ih (type.map SEntry.aliasWalk) hrest last
        simp only [Option.map_map, Function.comp_def, aliasWalk_aliasWalk] at hih
        simp [hres, hih, entries]

def Enumerates (m : DataMem) (type : Option SEntry) (vn : Option String) (head : ℕ)
    (es : List ℕ) : Prop :=
  ∃ bound, ∀ fuel, bound < fuel →
    enumerate (m.initngDataGetNextVar vn fuel type head) fuel none = some es

lemma Enumerates.unique {type : Option SEntry} {vn : Option String} {es es' : List ℕ}
    (h : m.Enumerates type vn head es) (h' : m.Enumerates type vn head es') : es = es' := by
  obtain ⟨bound, h⟩ := h
  obtain ⟨bound', h'⟩ := h'
  have hfuel := h (bound + bound' + 1) (by omega)
  rw [h' _ (by omega)] at hfuel
  exact (some.inj hfuel).symm

lemma Chain.enumerates (h : m.Chain head chain) (type : Option SEntry) (vn : Option String) :
    m.Enumerates type vn head
      ((entries chain).filter fun e => m.Fits (type.map SEntry.aliasWalk) vn e) := by
  refine ⟨chain.length + (entries chain).length, fun fuel hf => ?_⟩
  apply enumerate_rest [] (entries chain) h.nodup rfl rfl (h.getNextVar type vn hf)
  have hle := length_filter_le (fun e => decide (m.Fits (type.map SEntry.aliasWalk) vn e))
    (entries chain)
  omega

/-- Each entry that fits is returned once, those of a nearer head first and on each head in the
order in which they were added. -/
theorem enumeration_complete (h : m.Chain head chain) (type : Option SEntry)
    (vn : Option String) :
    (entries chain).Nodup ∧
    m.Enumerates type vn head
      ((entries chain).filter fun e => m.Fits (type.map SEntry.aliasWalk) vn e) ∧
    ∀ k l, (k, l) ∈ chain → ∀ e, m.list.next (DataAddr.entry e) = some none →
      m.list.prev (DataAddr.entry e) = some none →
      (∀ p, (m.entry e).vn = some p → ∃ s, m.string p = some s) →
      ∃ list, initngListAdd (.entry e) (.head k) m.list = some list ∧
        Lists { m with list } k (l ++ [e]) := by
  refine ⟨h.nodup, h.enumerates type vn, fun k l hk e hen hep hvn => ?_⟩
  exact (h.exists_from hk).1.add hen hep hvn

end

/-- A head with two entries, and behind it one with a third; the second entry has no name. -/
def twoHeads : DataMem where
  list
    | .head 0 => some ⟨some (.entry 1), some (.entry 0)⟩
    | .entry 1 => some ⟨some (.entry 0), some (.head 0)⟩
    | .entry 0 => some ⟨some (.head 0), some (.entry 1)⟩
    | .head 1 => some ⟨some (.entry 2), some (.entry 2)⟩
    | .entry 2 => some ⟨some (.head 1), some (.head 1)⟩
    | _ => none
  entry
    | 0 => ⟨some 3, some (.entry 1 .variableInt), some 0⟩
    | 1 => ⟨some 4, some (.entry 1 .variableInt), none⟩
    | _ => ⟨some 5, some (.entry 1 .variableInt), some 1⟩
  res
    | 0 => some 1
    | _ => none
  string
    | 0 => some "HOME"
    | _ => some "TERM"
  nextEntry := 3
  nextString := 2

lemma twoHeads_chain : twoHeads.Chain 0 [(0, [0, 1]), (1, [2])] := by
  have hnear : twoHeads.Lists 0 [0, 1] := by
    refine ⟨Ring.of_chain (by decide) ?_, fun e he p hp => ?_⟩
    · refine .cons_cons ⟨rfl, rfl⟩ (.cons_cons ⟨rfl, rfl⟩ (.cons_cons ⟨rfl, rfl⟩ (.singleton _)))
    · cases p <;> exact ⟨_, rfl⟩
  have hfar : twoHeads.Lists 1 [2] := by
    refine ⟨Ring.of_chain (by decide) ?_, fun e he p hp => ?_⟩
    · exact .cons_cons ⟨rfl, rfl⟩ (.cons_cons ⟨rfl, rfl⟩ (.singleton _))
    · cases p <;> exact ⟨_, rfl⟩
  exact .more hnear rfl (.last hfar rfl)

/-- The entries without a name and with this one, of both heads. -/
theorem enumeration_complete_named :
    twoHeads.Chain 0 [(0, [0, 1]), (1, [2])] ∧
    twoHeads.Enumerates (some (.aliased 2 .alias (.entry 1 .variableInt))) (some "TERM") 0 [1, 2] :=
  ⟨twoHeads_chain, (enumeration_complete twoHeads_chain
    (some (.aliased 2 .alias (.entry 1 .variableInt))) (some "TERM")).2.1⟩

end DataMem

end Initng.DataStore
