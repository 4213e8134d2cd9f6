import Initng.ModuleDb

namespace Initng

open List

/-- The outcome of `initng_module_load` when the modules of `l` are loaded: NULL, or a module
with a new name whose needs are all among `l`. -/
inductive LoadOutcome (db : ModuleDb) (l : List Mid) (db' : ModuleDb) : Option Mid → Prop
  | refused (lists : db'.Lists l) (files : ∀ n ∈ l, db'.file n = db.file n)
      (calls : ∀ c ∈ db'.calls, c ∈ db.calls ∨ ∃ file ok, c = .init file ok) :
      LoadOutcome db l db' none
  | added (m : Mid) (lists : db'.Lists (l ++ [m])) (files : ∀ n ∈ l, db'.file n = db.file n)
      (calls : ∀ c ∈ db'.calls, c ∈ db.calls ∨ ∃ file ok, c = .init file ok)
      (name : ∀ n ∈ l, (db.file n).name ≠ (db'.file m).name)
      (needs : ∀ need ∈ (db'.file m).modinfo.deps, ∃ n ∈ l, (db.file n).name = need) :
      LoadOutcome db l db' (some m)

section
variable {db : ModuleDb} {l : List Mid}

lemma initngModuleOpen_name {file : SharedObject} {path name : String} {m : ModuleFile}
    (h : initngModuleOpen file path name = some m) : m.name = name := by
  unfold initngModuleOpen at h
  split at h
  · cases h
  · cases h
  · cases h
  · split_ifs at h
    cases h
    rfl

lemma ModuleDb.Lists.loadOpened (h : db.Lists l) {file : ModuleFile}
    (hname : ∀ n ∈ l, (db.file n).name ≠ file.name) :
    ∃ db' r, loadOpened file db = some (db', r) ∧ LoadOutcome db l db' r := by
  have hnew := h.next_notMem
  have hfree : l.filter (· ≠ db.next) = l := filter_eq_self.mpr (ListCursor.all_ne hnew)
  have hold : ∀ n ∈ l, (db.alloc file).2.file n = db.file n := fun n hn => by
    have hne : n ≠ db.next := fun e => hnew (e ▸ hn)
    rw [db.alloc_file, if_neg hne]
  have hfile : (db.alloc file).2.file db.next = file := by rw [db.alloc_file, if_pos rfl]
  have halloc := h.alloc file
  have hneeds := halloc.moduleNeedsAreLoaded file
  cases hmet : file.modinfo.deps.all
      fun need => l.any fun m => ((db.alloc file).2.file m).name = need with
  | false =>
    rw [hmet] at hneeds
    obtain ⟨list, eq, hdel⟩ := halloc.closeAndFree db.next
    rw [hfree] at hdel
    refine ⟨_, none, ?_, .refused hdel hold fun c hc => .inl hc⟩
    have hid : (db.alloc file).1 = db.next := rfl
    simp [Initng.loadOpened, hneeds, hid, eq]
  | true =>
    rw [hmet] at hneeds
    obtain ⟨db₁, hinit, hlists, hnext, hfiles, -, hcalls⟩ := halloc.moduleInit db.next
    rw [hfile] at hinit hlists hcalls
    have hid : (db.alloc file).1 = db.next := rfl
    have hfiles₁ : ∀ n ∈ l, db₁.file n = db.file n := fun n hn => (hfiles n).trans (hold n hn)
    have hcalls₁ : ∀ c ∈ db₁.calls, c ∈ db.calls ∨ ∃ file ok, c = .init file ok := fun c hc => by
      rw [hcalls] at hc
      exact (mem_append.mp hc).imp_right fun hc => ⟨_, _, mem_singleton.mp hc⟩
    cases hok : file.initOk with
    | false =>
      rw [hok, if_neg Bool.false_ne_true, hfree] at hlists
      refine ⟨db₁, none, ?_, .refused hlists hfiles₁ hcalls₁⟩
      simp [Initng.loadOpened, hneeds, hid, hinit, hok]
    | true =>
      rw [hok, if_pos rfl] at hlists
      have hlt : db.next < db₁.next := by
        rw [hnext]
        exact Nat.lt_succ_self _
      obtain ⟨list, eq, hadd⟩ := hlists.add hnew hlt
      have hfile₁ : db₁.file db.next = file := (hfiles db.next).trans hfile
      refine ⟨_, some db.next, ?_, .added db.next hadd hfiles₁ hcalls₁ (fun n hn => ?_) ?_⟩
      · simp [Initng.loadOpened, hneeds, hid, hinit, hok, eq]
      · change (db.file n).name ≠ (db₁.file db.next).name
        rw [hfile₁]
        exact hname n hn
      · change ∀ need ∈ (db₁.file db.next).modinfo.deps, _
        rw [hfile₁]
        intro need hneed
        obtain ⟨n, hn, heq⟩ := any_eq_true.mp (all_eq_true.mp hmet need hneed)
        rw [hold n hn] at heq
        exact ⟨n, hn, of_decide_eq_true heq⟩

lemma ModuleDb.Lists.load (h : db.Lists l) (files : String → SharedObject) (dir arg : String) :
    ∃ db' r, initngModuleLoad files dir arg db = some (db', r) ∧ LoadOutcome db l db' r := by
  have hrefused : LoadOutcome db l db none := .refused h (fun n _ => rfl) fun c hc => .inl hc
  simp only [initngModuleLoad, h.moduleIsLoaded]
  generalize modulePathName arg = parts
  cases hdup : l.any fun m => (db.file m).name = parts.2 with
  | true => exact ⟨db, none, rfl, hrefused⟩
  | false =>
    cases hopen : (modulePaths dir parts.1 parts.2).findSome? fun path =>
        initngModuleOpen (files path) path parts.2 with
    | none => exact ⟨db, none, rfl, hrefused⟩
    | some file =>
      obtain ⟨path, -, hpath⟩ := exists_of_findSome?_eq_some hopen
      have hname : ∀ n ∈ l, (db.file n).name ≠ file.name := fun n hn heq => by
        rw [initngModuleOpen_name hpath] at heq
        exact any_eq_false.mp hdup n hn (decide_eq_true heq)
      exact h.loadOpened hname

end

def loadModules (dir : String) : List ((String → SharedObject) × String) → ModuleDb →
    Option ModuleDb
  | [], db => some db
  | (files, arg) :: loads, db => do
    let (db, _) ← initngModuleLoad files dir arg db
    loadModules dir loads db

/-- The loaded modules have different names, and the needs of each are among those loaded
before. -/
structure ModuleDb.Stacked (db : ModuleDb) (l : List Mid) : Prop where
  lists : db.Lists l
  names : l.Pairwise fun n m => (db.file n).name ≠ (db.file m).name
  needs : ∀ before m after, l = before ++ m :: after →
    ∀ need ∈ (db.file m).modinfo.deps, ∃ n ∈ before, (db.file n).name = need
  calls : ∀ c ∈ db.calls, ∃ file ok, c = .init file ok

namespace ModuleDb.Stacked

section
variable {db db' : ModuleDb} {l : List Mid}

lemma empty : ModuleDb.empty.Stacked [] where
  lists := ModuleDb.empty_lists
  names := .nil
  needs before m after h := by simp at h
  calls c hc := by cases hc

lemma calls_init (h : db.Stacked l)
    (hcalls : ∀ c ∈ db'.calls, c ∈ db.calls ∨ ∃ file ok, c = .init file ok) :
    ∀ c ∈ db'.calls, ∃ file ok, c = .init file ok := fun c hc => by
  rcases hcalls c hc with hc | hc
  · exact h.calls c hc
  · exact hc

lemma needs_append {m : Mid} (h : db.Stacked l)
    (hfiles : ∀ n ∈ l, db'.file n = db.file n)
    (hm : ∀ need ∈ (db'.file m).modinfo.deps, ∃ n ∈ l, (db'.file n).name = need) :
    ∀ before n after, l ++ [m] = before ++ n :: after →
      ∀ need ∈ (db'.file n).modinfo.deps, ∃ k ∈ before, (db'.file k).name = need := by
  intro before n after hsplit need hneed
  rcases eq_nil_or_concat after with rfl | ⟨after, last, rfl⟩
  · obtain ⟨rfl, hlast⟩ := append_inj' hsplit rfl
    obtain rfl : m = n := by simpa using hlast
    exact hm need hneed
  · have hsplit : l ++ [m] = (before ++ n :: after) ++ [last] := by simpa using hsplit
    obtain ⟨hl, -⟩ := append_inj' hsplit rfl
    have hn : n ∈ l := by simp [hl]
    rw [hfiles n hn] at hneed
    obtain ⟨k, hk, hname⟩ := h.needs before n after hl need hneed
    have hkl : k ∈ l := by simp [hl, hk]
    exact ⟨k, hk, by rw [hfiles k hkl, hname]⟩

lemma load_step {r : Option Mid} (h : db.Stacked l) (ho : LoadOutcome db l db' r) :
    ∃ l', db'.Stacked l' := by
  cases ho with
  | refused lists files calls =>
    refine ⟨l, lists, ?_, fun before m after hl need hneed => ?_, h.calls_init calls⟩
    · refine h.names.imp_of_mem fun {n m} hn hm hne => ?_
      rwa [files n hn, files m hm]
    · have hm : m ∈ l := by simp [hl]
      rw [files m hm] at hneed
      obtain ⟨n, hn, hname⟩ := h.needs before m after hl need hneed
      have hnl : n ∈ l := by simp [hl, hn]
      exact ⟨n, hn, by rw [files n hnl, hname]⟩
  | added m lists files calls name needs =>
    refine ⟨l ++ [m], lists, ?_, ?_, h.calls_init calls⟩
    · refine pairwise_append.mpr ⟨?_, pairwise_singleton .., fun n hn k hk => ?_⟩
      · refine h.names.imp_of_mem fun {n k} hn hk hne => ?_
        rwa [files n hn, files k hk]
      · rw [mem_singleton.mp hk, files n hn]
        exact name n hn
    · refine h.needs_append files fun need hneed => ?_
      obtain ⟨n, hn, hname⟩ := needs need hneed
      exact ⟨n, hn, by rw [files n hn, hname]⟩

lemma loadModules (dir : String) (loads : List ((String → SharedObject) × String))
    {db : ModuleDb} {l : List Mid} (h : db.Stacked l) :
    ∃ db' l', loadModules dir loads db = some db' ∧ db'.Stacked l' := by
  induction loads generalizing db l with
  | nil => exact ⟨db, l, rfl, h⟩
  | cons load loads ih =>
    obtain ⟨files, arg⟩ := load
    obtain ⟨db₁, r, hload, ho⟩ := h.lists.load files dir arg
    obtain ⟨l₁, h₁⟩ := h.load_step ho
    obtain ⟨db₂, l₂, hrun, h₂⟩ := ih h₁
    exact ⟨db₂, l₂, by simp [Initng.loadModules, hload, hrun], h₂⟩

end

end ModuleDb.Stacked

/-- Every module is unloaded once, and after all that list it in their deps. -/
structure UnloadedInReverse (loaded : List ModuleFile) (calls : List ModuleCall) : Prop where
  once : ∀ m ∈ loaded, calls.count (.unload m) = 1
  order : ∀ before m after, calls = before ++ .unload m :: after →
    ∀ n ∈ loaded, m.name ∈ n.modinfo.deps → .unload n ∈ before

structure UnloadAt (db : ModuleDb) (l kept todo : List Mid) (db' : ModuleDb) : Prop where
  kept : kept = []
  lists : db'.Lists todo
  file : db'.file = db.file
  calls : ∃ done, l = done ++ todo ∧ db'.calls = db.calls ++ done.map fun m => .unload (db.file m)

lemma UnloadAt.turn {db db' : ModuleDb} {l kept todo : List Mid} {m : Mid}
    (h : UnloadAt db l kept (m :: todo) db') :
    ∃ db'', onModule moduleUnload (.entry m) db' = some db'' ∧ UnloadAt db l kept todo db'' := by
  obtain ⟨done, hl, hcalls⟩ := h.calls
  obtain ⟨list, eq, hdel⟩ := (h.lists.call (.unload (db'.file m))).closeAndFree m
  have hm := (nodup_cons.mp h.lists.represents.nodup).1
  have hrest : (m :: todo).filter (· ≠ m) = todo := ListCursor.filter_ne_append not_mem_nil hm
  rw [hrest] at hdel
  refine ⟨_, eq, h.kept, hdel, h.file, done ++ [m], by simp [hl], ?_⟩
  simp [ModuleDb.call, hcalls, h.file]

lemma ModuleDb.Lists.unloadAll {db : ModuleDb} {l : List Mid} (h : db.Lists l) :
    ∃ db', initngModuleUnloadAll db = some db' ∧
      db'.calls = db.calls ++ l.map fun m => .unload (db.file m) := by
  have hstart : UnloadAt db l [] l db := ⟨rfl, h, rfl, [], rfl, by simp⟩
  obtain ⟨kept, db', hrun, hend⟩ := foreachRevSafe_invariant
    (fun _ _ _ hP => by simpa [hP.kept] using hP.lists.represents)
    (fun _ _ _ _ hP => hP.turn.imp fun _ hturn => ⟨hturn.1, .inr hturn.2⟩) hstart h.length_lt
  obtain ⟨done, hl, hcalls⟩ := hend.calls
  have hhead : db'.list .head ≠ none := fun hnone => by
    simpa [LinkRing.Links.prev, hnone] using hend.lists.represents.prev_head
  obtain ⟨list, eq, -⟩ := initngListInit_holds hhead
  refine ⟨{ db' with list }, ?_, ?_⟩
  · simp [initngModuleUnloadAll, whileModuleDbSafe, hrun, eq]
  · rw [hl, append_nil]
    exact hcalls

section
variable {db : ModuleDb} {l : List Mid}

variable (h : db.Stacked l)
include h

lemma ModuleDb.Stacked.file_injOn {m n : Mid} (hm : m ∈ l) (hn : n ∈ l)
    (heq : db.file m = db.file n) : m = n := by
  have hnodup : (l.map fun m => (db.file m).name).Nodup := pairwise_map.mpr h.names
  exact inj_on_of_nodup_map hnodup hm hn (congrArg ModuleFile.name heq)

lemma ModuleDb.Stacked.notMem_calls (m : ModuleFile) :
    .unload m ∉ db.calls := fun hm => by
  obtain ⟨file, ok, heq⟩ := h.calls _ hm
  cases heq

lemma ModuleDb.Stacked.unloads_nodup : (l.map fun m => ModuleCall.unload (db.file m)).Nodup := by
  refine Nodup.map_on (fun m hm n hn heq => ?_) h.lists.represents.nodup
  exact h.file_injOn hm hn (ModuleCall.unload.inj heq)

lemma ModuleDb.Stacked.deps_eq_nil
    (hr : UnloadedInReverse (l.map db.file)
      (db.calls ++ l.map fun m => .unload (db.file m))) {m : Mid} (hm : m ∈ l) :
    (db.file m).modinfo.deps = [] := by
  by_contra hdeps
  obtain ⟨need, hneed⟩ := exists_mem_of_ne_nil _ hdeps
  obtain ⟨before, after, rfl⟩ := append_of_mem hm
  obtain ⟨n, hn, rfl⟩ := h.needs before m after rfl need hneed
  obtain ⟨front, back, rfl⟩ := append_of_mem hn
  have hmem := hr.order (db.calls ++ front.map fun k => .unload (db.file k)) (db.file n)
    (back.map (fun k => .unload (db.file k)) ++
      .unload (db.file m) :: after.map fun k => .unload (db.file k))
    (by simp) (db.file m) (by simp) hneed
  rcases mem_append.mp hmem with hmem | hmem
  · exact h.notMem_calls _ hmem
  · obtain ⟨k, hk, heq⟩ := mem_map.mp hmem
    obtain rfl : k = m := h.file_injOn (by simp [hk]) (by simp) (ModuleCall.unload.inj heq)
    have hnd := (nodup_append.mp h.lists.represents.nodup).2.2
    exact hnd k (by simp [hk]) k (.head _) rfl

end

/-- Modules are unloaded once each, and in reverse order only if no module needs another. -/
theorem moduleUnloadAll_reverse_iff (dir : String)
    (loads : List ((String → SharedObject) × String)) :
    ∃ db l db', loadModules dir loads .empty = some db ∧ whileModuleDb db = some l ∧
      initngModuleUnloadAll db = some db' ∧
      (∀ m ∈ l.map db.file, db'.calls.count (.unload m) = 1) ∧
      (UnloadedInReverse (l.map db.file) db'.calls ↔ ∀ m ∈ l.map db.file, m.modinfo.deps = []) := by
  obtain ⟨db, l, hload, h⟩ := ModuleDb.Stacked.empty.loadModules dir loads
  obtain ⟨db', hunload, hcalls⟩ := h.lists.unloadAll
  have honce : ∀ m ∈ l.map db.file, db'.calls.count (.unload m) = 1 := fun m hm => by
    obtain ⟨k, hk, rfl⟩ := mem_map.mp hm
    rw [hcalls, count_append, count_eq_zero.mpr (h.notMem_calls _), Nat.zero_add]
    exact count_eq_one_of_mem h.unloads_nodup (mem_map_of_mem hk)
  refine ⟨db, l, db', hload, h.lists.whileModuleDb, hunload, honce, fun hr m hm => ?_,
    fun hdeps => ⟨honce, fun before m after _ n hn hneed => ?_⟩⟩
  · obtain ⟨k, hk, rfl⟩ := mem_map.mp hm
    rw [hcalls] at hr
    exact h.deps_eq_nil hr hk
  · rw [hdeps n hn] at hneed
    cases hneed

/-- `service` is unloaded while `synchron` is loaded. -/
theorem moduleUnloadAll_not_reverse :
    ¬ ∀ (dir : String) (loads : List ((String → SharedObject) × String)) (db db' : ModuleDb)
      (l : List Mid), loadModules dir loads .empty = some db → whileModuleDb db = some l →
      initngModuleUnloadAll db = some db' → UnloadedInReverse (l.map db.file) db'.calls := by
  intro hall
  have hrun : ((loadModules "/lib/initng" [(serviceFiles, "service"), (serviceFiles, "synchron")]
      .empty).bind fun db => (whileModuleDb db).bind fun l => (initngModuleUnloadAll db).map
        fun db' => (l.map db.file, db'.calls)) =
      some ([serviceModule, synchronModule], [.init serviceModule true, .init synchronModule true,
        .unload serviceModule, .unload synchronModule]) := by
    decide +kernel
  obtain ⟨db, hload, hrun⟩ := Option.bind_eq_some_iff.mp hrun
  obtain ⟨l, hl, hrun⟩ := Option.bind_eq_some_iff.mp hrun
  obtain ⟨db', hunload, heq⟩ := Option.map_eq_some_iff.mp hrun
  obtain ⟨hfiles, hcalls⟩ := Prod.mk.inj heq
  have hr := hall _ _ db db' l hload hl hunload
  rw [hfiles, hcalls] at hr
  have hmem := hr.order [.init serviceModule true, .init synchronModule true] serviceModule
    [.unload synchronModule] rfl synchronModule (by decide) (by decide)
  exact absurd hmem (by decide)

inductive ModuleOp
  | load (files : String → SharedObject) (arg : String)
  | unloadNamed (name : String)
  | unloadMarked

def ModuleOp.apply (dir : String) (db : ModuleDb) : ModuleOp → Option ModuleDb
  | load files arg => (initngModuleLoad files dir arg db).map Prod.fst
  | unloadNamed name => (initngModuleUnloadNamed name db).map Prod.snd
  | unloadMarked => initngModuleUnloadMarked db

/-- `Stacked`, whatever was called. -/
def ModuleDb.Ordered (db : ModuleDb) (l : List Mid) : Prop := { db with calls := [] }.Stacked l

section
variable {db db' : ModuleDb} {l : List Mid}

lemma ModuleDb.Ordered.toLists (ho : db.Ordered l) : db.Lists l :=
  ⟨ho.lists.represents, ho.lists.allocated⟩

/-- Modules that no module needs may be taken out. -/
lemma ModuleDb.Ordered.filter (ho : db.Ordered l) {p : Mid → Bool}
    (hlists : db'.Lists (l.filter p)) (hfile : db'.file = db.file)
    (hp : ∀ n, p n = false → ∀ m ∈ l, (db.file n).name ∉ (db.file m).modinfo.deps) :
    db'.Ordered (l.filter p) := by
  have hnames : (l.filter p).Pairwise fun n m => (db.file n).name ≠ (db.file m).name :=
    ho.names.filter p
  have hneeds : ∀ before m after, l.filter p = before ++ m :: after →
      ∀ need ∈ (db.file m).modinfo.deps, ∃ n ∈ before, (db.file n).name = need := by
    intro before m after hsplit need hneed
    obtain ⟨front, back, hl, rfl, hback⟩ := filter_eq_append_iff.mp hsplit
    obtain ⟨skipped, rest, rfl, hskipped, -, -⟩ := filter_eq_cons_iff.mp hback
    obtain ⟨n, hn, rfl⟩ := ho.needs (front ++ skipped) m rest (by simp [hl]) need hneed
    have hpn : p n = true := by
      by_contra hno
      exact hp n (by simpa using hno) m (by simp [hl]) hneed
    rcases mem_append.mp hn with hn | hn
    · exact ⟨n, mem_filter.mpr ⟨hn, hpn⟩, rfl⟩
    · exact absurd hpn (hskipped n hn)
  rw [← hfile] at hnames hneeds
  exact ⟨⟨hlists.represents, hlists.allocated⟩, hnames, hneeds, fun c hc => (by cases hc)⟩

lemma ModuleDb.setRemove_file {m : Mid} {r : Bool} : (db.setRemove m r).file = db.file := by
  funext n
  by_cases hn : n = m <;> simp [file, ModuleDb.setRemove, hn]

lemma ModuleDb.Ordered.setRemove (ho : db.Ordered l) (m : Mid) (remove : Bool) :
    (db.setRemove m remove).Ordered l := by
  have hlists : (db.setRemove m remove).Lists (l.filter fun _ => true) := by
    rw [filter_true]
    exact ⟨ho.lists.represents, ho.lists.allocated⟩
  have hsame := ho.filter hlists setRemove_file fun n hn => (by cases hn)
  rwa [filter_true] at hsame

def ModuleDb.needed (db : ModuleDb) (l : List Mid) (m : Mid) : Bool :=
  l.any fun n => (db.file n).modinfo.deps.contains (db.file m).name

def ModuleDb.stays (db : ModuleDb) (l : List Mid) (m : Mid) : Bool :=
  !(db.entry m).remove || db.needed l m

/-- A pass over `l` has left `kept` of what it has seen, and `todo` is to come. -/
structure ModuleDb.Passing (db : ModuleDb) (l kept todo : List Mid) (db' : ModuleDb) : Prop where
  seen : ∃ seen, l = seen ++ todo ∧ kept = seen.filter (db.stays l) ∧
    db'.calls = db.calls ++ (seen.filter (!db.stays l ·)).map fun m => .unload (db.file m)
  lists : db'.Lists (kept ++ todo)
  file : db'.file = db.file
  ahead : ∀ m ∈ todo, (db'.entry m).remove = (db.entry m).remove
  clear : ∀ m ∈ kept, (db'.entry m).remove = false

/-- Whoever needs a module was loaded after it, and is still there when the pass comes to it. -/
lemma ModuleDb.Ordered.needed_append {seen xs todo : List Mid} {m : Mid}
    (ho : db.Ordered (seen ++ m :: todo)) (hxs : xs ⊆ seen) :
    db.needed (xs ++ m :: todo) m = db.needed (m :: todo) m := by
  rw [needed, any_append, any_eq_false.mpr, Bool.false_or, needed]
  intro n hn hneed
  obtain ⟨front, back, rfl⟩ := append_of_mem (hxs hn)
  obtain ⟨k, hk, hname⟩ := ho.needs front n (back ++ m :: todo) (by simp) _ (elem_iff.mp hneed)
  exact (pairwise_append.mp ho.names).2.2 k (by simp [hk]) m (.head _) hname

lemma ModuleDb.Ordered.unloadMarked_turn (ho : db.Ordered l) {kept todo : List Mid} {m : Mid}
    (h : db.Passing l kept (m :: todo) db') :
    ∃ db'', onModule unloadMarked (.entry m) db' = some db'' ∧
      (db.Passing l (kept ++ [m]) todo db'' ∨ db.Passing l kept todo db'') := by
  obtain ⟨seen, hl, hkept, hcalls⟩ := h.seen
  have hmark := h.ahead m (.head _)
  have hseen : db.Ordered (seen ++ m :: todo) := hl ▸ ho
  have hneeded : moduleIsNeeded (db'.file m).name db' = some (db.needed l m) := by
    rw [moduleIsNeeded, h.lists.whileModuleDb, h.file, hl, hseen.needed_append (Subset.refl _),
      ← hseen.needed_append (hkept ▸ filter_sublist.subset)]
    rfl
  have hnot := mt mem_append.mpr (nodup_cons.mp (nodup_middle.mp h.lists.represents.nodup)).1
  have hleft (hs : db.stays l m = true) : ∃ seen, l = seen ++ todo ∧
      kept ++ [m] = seen.filter (db.stays l) ∧ db'.calls = db.calls ++
        (seen.filter (!db.stays l ·)).map fun m => .unload (db.file m) :=
    ⟨seen ++ [m], by simp [hl], by simp [hkept, hs], by simp [hcalls, hs]⟩
  have hlists : db'.Lists (kept ++ [m] ++ todo) := append_cons .. ▸ h.lists
  simp only [onModule, unloadMarked, hneeded]
  cases hr : (db'.entry m).remove with
  | false =>
    have hs : db.stays l m = true := by simp [stays, ← hmark, hr]
    refine ⟨db', rfl, .inl ⟨hleft hs, hlists, h.file, fun n hn => h.ahead n (.tail _ hn), ?_⟩⟩
    exact forall_mem_append.mpr ⟨h.clear, by simpa using hr⟩
  | true =>
    cases hneed : db.needed l m with
    | true =>
      refine ⟨_, rfl, .inl ⟨hleft (by simp [stays, hneed]),
        ⟨hlists.represents, hlists.allocated⟩, setRemove_file.trans h.file, fun n hn => ?_,
        fun n hn => ?_⟩⟩
      · have hne : n ≠ m := fun he => hnot (.inr (he ▸ hn))
        simpa [ModuleDb.setRemove, hne] using h.ahead n (.tail _ hn)
      · by_cases hne : n = m
        · simp [ModuleDb.setRemove, hne]
        · have hin : n ∈ kept := by simpa [hne] using hn
          simpa [ModuleDb.setRemove, hne] using h.clear n hin
    | false =>
      have hs : db.stays l m = false := by simp [stays, ← hmark, hr, hneed]
      obtain ⟨list, eq, hdel⟩ := (h.lists.call (.unload (db'.file m))).closeAndFree m
      rw [ListCursor.filter_ne_append (fun h => hnot (.inl h)) fun h => hnot (.inr h)] at hdel
      refine ⟨_, eq, .inr ⟨⟨seen ++ [m], by simp [hl], by simp [hkept, hs], ?_⟩, hdel, h.file,
        fun n hn => h.ahead n (.tail _ hn), h.clear⟩⟩
      simp [ModuleDb.call, hcalls, hs, h.file]

lemma ModuleDb.Ordered.unloadMarked (ho : db.Ordered l) :
    ∃ db', initngModuleUnloadMarked db = some db' ∧
      db.Passing l (l.filter (db.stays l)) [] db' := by
  obtain ⟨kept, db', hrun, h⟩ := foreachRevSafe_invariant (P := db.Passing l)
    (fun _ _ _ h => h.lists.represents) (fun _ _ _ _ h => ho.unloadMarked_turn h)
    ⟨⟨[], rfl, rfl, by simp⟩, ho.toLists, rfl, fun _ _ => rfl, by simp⟩ ho.toLists.length_lt
  obtain ⟨seen, hl, rfl, -⟩ := h.seen
  rw [append_nil] at hl
  exact ⟨db', hrun, hl ▸ h⟩

lemma ModuleDb.Ordered.step (ho : db.Ordered l) (dir : String) (op : ModuleOp) :
    ∃ db' l', op.apply dir db = some db' ∧ db'.Ordered l' := by
  have hlists := ho.toLists
  cases op with
  | load files arg =>
    obtain ⟨db', r, hload, houtcome⟩ := hlists.load files dir arg
    have houtcome' : LoadOutcome { db with calls := [] } l { db' with calls := [] } r := by
      cases houtcome with
      | refused lists files =>
        exact .refused ⟨lists.represents, lists.allocated⟩ files fun c hc => (by cases hc)
      | added m lists files _ name needs =>
        exact .added m ⟨lists.represents, lists.allocated⟩ files (fun c hc => (by cases hc)) name
          needs
    obtain ⟨l', h'⟩ := ho.load_step houtcome'
    exact ⟨db', l', by rw [ModuleOp.apply, hload]; rfl, h'⟩
  | unloadNamed name =>
    simp only [ModuleOp.apply, initngModuleUnloadNamed, hlists.moduleIsLoaded, hlists.whileModuleDb]
    cases l.any fun m => (db.file m).name = name with
    | false => exact ⟨db, l, rfl, ho⟩
    | true =>
      cases hfind : l.find? fun m => (db.file m).name = name with
      | none => exact ⟨db, l, by simp [hfind], ho⟩
      | some m => exact ⟨db.setRemove m true, l, by simp [hfind], ho.setRemove m true⟩
  | unloadMarked =>
    obtain ⟨db', hrun, h⟩ := ho.unloadMarked
    refine ⟨db', _, hrun, ho.filter (append_nil _ ▸ h.lists) h.file fun n hn m hm hin => ?_⟩
    rw [stays, Bool.or_eq_false_iff] at hn
    exact any_eq_false.mp hn.2 m hm (elem_iff.mpr hin)

end

lemma ModuleDb.Ordered.ops (dir : String) (ops : List ModuleOp) {db : ModuleDb} {l : List Mid}
    (ho : db.Ordered l) : ∃ db' l', ops.foldlM (ModuleOp.apply dir) db = some db' ∧
      db'.Ordered l' := by
  induction ops generalizing db l with
  | nil => exact ⟨db, l, rfl, ho⟩
  | cons op ops ih =>
    obtain ⟨db₁, l₁, hop, h₁⟩ := ho.step dir op
    obtain ⟨db₂, l₂, hrun, h₂⟩ := ih h₁
    exact ⟨db₂, l₂, by simp [foldlM_cons, hop, hrun], h₂⟩

/-- A pass unloads the marked modules that no loaded module needs, marked or not, and withdraws
the other marks. -/
theorem moduleUnloadMarked_exact (dir : String) (ops : List ModuleOp) :
    ∃ db l db', ops.foldlM (ModuleOp.apply dir) .empty = some db ∧ whileModuleDb db = some l ∧
      initngModuleUnloadMarked db = some db' ∧ whileModuleDb db' = some (l.filter (db.stays l)) ∧
      db'.calls = db.calls ++ (l.filter (!db.stays l ·)).map (fun m => .unload (db.file m)) ∧
      ∀ m ∈ l.filter (db.stays l), (db'.entry m).remove = false := by
  have hempty : ModuleDb.empty.Ordered [] := ModuleDb.Stacked.empty
  obtain ⟨db, l, hrun, ho⟩ := hempty.ops dir ops
  obtain ⟨db', hpass, h⟩ := ho.unloadMarked
  obtain ⟨seen, hl, -, hcalls⟩ := h.seen
  rw [append_nil] at hl
  subst hl
  refine ⟨db, l, db', hrun, ho.toLists.whileModuleDb, hpass, ?_, hcalls, h.clear⟩
  rw [h.lists.whileModuleDb, append_nil]

end Initng
