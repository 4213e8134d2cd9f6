import Initng.DependencyOrder
import Initng.ModuleDb

namespace Initng

open DependencyOrder Relation List

/-- `initng_string_match`, over `fnmatch`. -/
def initngStringMatch (fnmatch : String → String → Bool) (string pattern : String) : Bool :=
  if string.toList.contains '*' || string.toList.contains '?' then false
  else fnmatch pattern string && string.toList.count '/' == pattern.toList.count '/'

def initngCommonServiceBlacklisted (fnmatch : String → String → Bool) (argv : List String)
    (name : String) : Bool :=
  argv.any fun p => match p.toList with
    | '-' :: rest => name = String.ofList rest || initngStringMatch fnmatch name (String.ofList rest)
    | _ => false

/-- What `initng_module_load_all` finds, in the order of `readdir`; none if `opendir` fails. -/
structure ModuleDir where
  path : String
  readdir : Option (List String)
  files : String → SharedObject
  argv : List String
  fnmatch : String → String → Bool

def ModuleDir.open (d : ModuleDir) (dName : String) : Option ModuleFile :=
  if dName.toList.take 3 ≠ ['m', 'o', 'd'] then none
  else
    let name := String.ofList (dropSuffix (dName.toList.drop 3))
    if initngCommonServiceBlacklisted d.fnmatch d.argv name then none
    else
      let modpath := d.path ++ "/" ++ dName
      initngModuleOpen (d.files modpath) modpath name

def ModuleDir.openAll (d : ModuleDir) : List String → Bool → ModuleDb → Option (Bool × ModuleDb)
  | [], success, db => some (success, db)
  | dName :: dNames, success, db =>
    match d.open dName with
    | none => d.openAll dNames success db
    | some file => do
      let (current, db) := db.alloc file
      d.openAll dNames true (← moduleListAdd current db)

def loadTurn (current : Mid) (db : ModuleDb) : Option ModuleDb := do
  if (db.entry current).initialized then return db
  if !(← moduleNeedsAreLoaded (db.file current) db) then
    return ← initngModuleCloseAndFree current db
  let (_, db) ← moduleInit current db
  return db

def initngModuleLoadAll (d : ModuleDir) (db : ModuleDb) : Option (Bool × ModuleDb) :=
  match d.readdir with
  | none => some (false, db)
  | some dNames => do
    let (success, db) ← d.openAll dNames false db
    let db ← whileModuleDbSafe loadTurn db
    return (success, db)

def needsListed (listed : List ModuleFile) (m : ModuleFile) : Bool :=
  m.modinfo.deps.all fun need => listed.any fun n => n.name = need

def initPass (kept : List ModuleFile) (calls : List ModuleCall) :
    List ModuleFile → List ModuleFile × List ModuleCall
  | [] => (kept, calls)
  | m :: todo =>
    if needsListed (kept ++ m :: todo) m then
      initPass (if m.initOk then kept ++ [m] else kept) (calls ++ [.init m m.initOk]) todo
    else initPass kept calls todo

variable {db : ModuleDb} {m : ModuleFile}

lemma ModuleDb.Lists.openAll (d : ModuleDir) (dNames : List String) (success : Bool)
    {l : List Mid} (h : db.Lists l) (hnew : ∀ m ∈ l, (db.entry m).initialized = false) :
    ∃ db' success' l', d.openAll dNames success db = some (success', db') ∧ db'.Lists l' ∧
      l'.map db'.file = l.map db.file ++ dNames.filterMap d.open ∧ db'.calls = db.calls ∧
      ∀ m ∈ l', (db'.entry m).initialized = false := by
  induction dNames generalizing success db l with
  | nil => exact ⟨db, success, l, rfl, h, by simp, rfl, hnew⟩
  | cons dName dNames ih =>
    cases hopen : d.open dName with
    | none =>
      obtain ⟨db', success', l', hrun, hl', hmap, hcalls, hinit⟩ := ih success h hnew
      refine ⟨db', success', l', by simp [ModuleDir.openAll, hopen, hrun], hl', ?_, hcalls, hinit⟩
      rw [hmap, filterMap_cons_none hopen]
    | some file =>
      have hnext := h.next_notMem
      have hne : ∀ m ∈ l, m ≠ db.next := fun m hm e => hnext (e ▸ hm)
      obtain ⟨list, hadd, hl⟩ := (h.alloc file).add hnext (Nat.lt_succ_self _)
      have hinit : ∀ m ∈ l ++ [db.next], ((db.alloc file).2.entry m).initialized = false := by
        intro m hm
        rcases mem_append.mp hm with hm | hm
        · simpa [ModuleDb.alloc, hne m hm] using hnew m hm
        · simp [ModuleDb.alloc, mem_singleton.mp hm]
      obtain ⟨db', success', l', hrun, hl', hmap, hcalls, hinit'⟩ := ih true hl hinit
      refine ⟨db', success', l', ?_, hl', ?_, hcalls, hinit'⟩
      · have hid : (db.alloc file).1 = db.next := rfl
        simp [ModuleDir.openAll, hopen, hid, hadd, hrun]
      · have hold : l.map (db.alloc file).2.file = l.map db.file := by
          refine map_congr_left fun m hm => ?_
          rw [db.alloc_file, if_neg (hne m hm)]
        have hfile : (db.alloc file).2.file db.next = file := by rw [db.alloc_file, if_pos rfl]
        rw [hmap, filterMap_cons_some hopen, map_append, append_cons]
        exact congrArg₂ (· ++ ·) (congrArg₂ (· ++ ·) hold (congrArg (fun f => [f]) hfile)) rfl

structure PassAt (result : List ModuleFile × List ModuleCall) (kept todo : List Mid)
    (db : ModuleDb) : Prop where
  lists : db.Lists (kept ++ todo)
  new : ∀ m ∈ todo, (db.entry m).initialized = false
  pass : initPass (kept.map db.file) db.calls (todo.map db.file) = result

lemma PassAt.turn {result : List ModuleFile × List ModuleCall} {kept todo : List Mid} {m : Mid}
    (h : PassAt result kept (m :: todo) db) :
    ∃ db', onModule loadTurn (.entry m) db = some db' ∧
      (PassAt result (kept ++ [m]) todo db' ∨ PassAt result kept todo db') := by
  obtain ⟨-, hnd, hdis⟩ := nodup_append.mp h.lists.represents.nodup
  have hmt : m ∉ todo := (nodup_cons.mp hnd).1
  have hmk : m ∉ kept := fun hk => hdis m hk m (.head _) rfl
  have hfilter := ListCursor.filter_ne_append hmk hmt
  have hflag := h.new m (.head _)
  have hrest : ∀ n ∈ todo, (db.entry n).initialized = false := fun n hn =>
    h.new n (mem_cons_of_mem m hn)
  have hneeds := h.lists.moduleNeedsAreLoaded (db.file m)
  have hlisted : needsListed (kept.map db.file ++ db.file m :: todo.map db.file) (db.file m) =
      (db.file m).modinfo.deps.all
        fun need => (kept ++ m :: todo).any fun n => (db.file n).name = need := by
    rw [needsListed, ← map_cons, ← map_append]
    simp only [any_map, Function.comp_def]
  have hpass := h.pass
  rw [map_cons, initPass, hlisted] at hpass
  cases hmet : (db.file m).modinfo.deps.all
      fun need => (kept ++ m :: todo).any fun n => (db.file n).name = need with
  | false =>
    rw [hmet] at hneeds hpass
    obtain ⟨list, eq, hdel⟩ := h.lists.closeAndFree m
    rw [hfilter] at hdel
    exact ⟨_, by simp [onModule, loadTurn, hflag, hneeds, eq], .inr ⟨hdel, hrest, hpass⟩⟩
  | true =>
    rw [hmet] at hneeds hpass
    obtain ⟨db', eq, hdb', -, hfiles, hentry, hcalls⟩ := h.lists.moduleInit m
    have hrun : onModule loadTurn (.entry m) db = some db' := by
      simp [onModule, loadTurn, hflag, hneeds, eq]
    have hfile : db'.file = db.file := funext hfiles
    have hrest' : ∀ n ∈ todo, (db'.entry n).initialized = false := fun n hn => by
      have hne : n ≠ m := fun e => hmt (e ▸ hn)
      rw [hentry n hne]
      exact hrest n hn
    rw [if_pos rfl] at hpass
    cases hok : (db.file m).initOk with
    | false =>
      rw [hok, if_neg Bool.false_ne_true] at hdb' hpass
      rw [hok] at hcalls
      rw [hfilter] at hdb'
      refine ⟨db', hrun, .inr ⟨hdb', hrest', ?_⟩⟩
      rw [hfile, hcalls, hpass]
    | true =>
      rw [hok, if_pos rfl] at hdb' hpass
      rw [hok] at hcalls
      refine ⟨db', hrun, .inl ⟨by simpa using hdb', hrest', ?_⟩⟩
      rw [hfile, hcalls, map_append]
      exact hpass

lemma ModuleDb.Lists.loadPass {l : List Mid} (h : db.Lists l)
    (hnew : ∀ m ∈ l, (db.entry m).initialized = false) :
    ∃ db' l', whileModuleDbSafe loadTurn db = some db' ∧ db'.Lists l' ∧
      (l'.map db'.file, db'.calls) = initPass [] db.calls (l.map db.file) := by
  have hstart : PassAt (initPass [] db.calls (l.map db.file)) [] l db := ⟨h, hnew, rfl⟩
  obtain ⟨kept, db', hrun, hend⟩ := foreachRevSafe_invariant
    (fun _ _ _ hP => hP.lists.represents) (fun _ _ _ _ hP => hP.turn) hstart h.length_lt
  exact ⟨db', kept, hrun, by simpa using hend.lists, hend.pass⟩

def ModuleDir.opened (d : ModuleDir) : List ModuleFile := (d.readdir.getD []).filterMap d.open

def Needs (opened : Set ModuleFile) (m n : ModuleFile) : Prop :=
  n ∈ opened ∧ n.name ∈ m.modinfo.deps

def CanInit (opened : Set ModuleFile) (m : ModuleFile) : Prop :=
  m ∈ opened ∧ m.initOk = true ∧ ∀ need ∈ m.modinfo.deps, ∃ n ∈ opened, n.name = need

def DepsInitialised (opened : Set ModuleFile) (calls : List ModuleCall) (m : ModuleFile) : Prop :=
  ∀ need ∈ m.modinfo.deps, (∃ n ∈ opened, n.name = need) ∧
    ∀ n ∈ opened, n.name = need → .init n true ∈ calls

def InitsOrdered (opened : Set ModuleFile) (calls : List ModuleCall) : Prop :=
  ∀ before m ok after, calls = before ++ .init m ok :: after → DepsInitialised opened before m

/-- `init` is called after those of all deps have succeeded, never on a cycle, and the loaded
modules are the largest set that is closed under deps and has no cycle. -/
structure InDependencyOrder (opened loaded : Set ModuleFile) (calls : List ModuleCall) : Prop where
  order : InitsOrdered opened calls
  cycle : ∀ m ok, TransGen (Needs opened) m m → .init m ok ∉ calls
  greatest : IsGreatest {S : Set ModuleFile | (∀ m ∈ S, CanInit opened m ∧
    ∀ n, Needs opened m n → n ∈ S) ∧ ∀ m ∈ S, ¬ TransGen (Needs opened) m m} loaded

abbrev Loadable (opened : List ModuleFile) : ModuleFile → Prop :=
  Doable (CanInit {m | m ∈ opened}) (Needs {m | m ∈ opened})

/-- Every module whose deps are all on the list when its turn comes stands behind them, and
they can be loaded. -/
def NeedsFirst (opened : List ModuleFile) : Prop :=
  ∀ before m after, opened = before ++ m :: after →
    (∀ need ∈ m.modinfo.deps, ∃ n, n.name = need ∧
      (n ∈ m :: after ∨ n ∈ before ∧ Loadable opened n)) →
    ∀ n ∈ opened, n.name ∈ m.modinfo.deps → n ∈ before ∧ Loadable opened n

lemma isGreatest_loadable (opened : List ModuleFile) :
    IsGreatest {S : Set ModuleFile | (∀ m ∈ S, CanInit {m | m ∈ opened} m ∧
      ∀ n, Needs {m | m ∈ opened} m n → n ∈ S) ∧
      ∀ m ∈ S, ¬ TransGen (Needs {m | m ∈ opened}) m m} {m | Loadable opened m} :=
  isGreatest_doable ((finite_toSet opened).subset fun _ hm => hm.1)

lemma needsListed_iff {listed : List ModuleFile} :
    needsListed listed m = true ↔ ∀ need ∈ m.modinfo.deps, ∃ n ∈ listed, n.name = need := by
  simp [needsListed]

lemma initPass_append (before after kept : List ModuleFile) (calls : List ModuleCall) :
    ∃ kept' calls', kept' ⊆ before ∧ (∀ m, .init m true ∈ calls' → m ∈ kept') ∧
      initPass kept calls (before ++ after) = initPass (kept ++ kept') (calls ++ calls') after := by
  induction before generalizing kept calls with
  | nil => exact ⟨[], [], nil_subset _, by simp, by simp⟩
  | cons m before ih =>
    rw [cons_append, initPass]
    split_ifs with hneeds hok
    · obtain ⟨kept', calls', hsub, hcalls, heq⟩ := ih (kept ++ [m]) (calls ++ [.init m m.initOk])
      refine ⟨m :: kept', .init m m.initOk :: calls', ?_, fun n hn => ?_, ?_⟩
      · exact cons_subset_cons m hsub
      · rcases mem_cons.mp hn with hn | hn
        · rw [(ModuleCall.init.inj hn).1]
          exact .head _
        · exact mem_cons_of_mem m (hcalls n hn)
      · rw [heq]
        simp
    · obtain ⟨kept', calls', hsub, hcalls, heq⟩ := ih kept (calls ++ [.init m m.initOk])
      refine ⟨kept', .init m m.initOk :: calls', ?_, fun n hn => ?_, ?_⟩
      · exact subset_cons_of_subset m hsub
      · rcases mem_cons.mp hn with hn | hn
        · exact absurd (ModuleCall.init.inj hn).2.symm hok
        · exact hcalls n hn
      · rw [heq]
        simp
    · obtain ⟨kept', calls', hsub, hcalls, heq⟩ := ih kept calls
      exact ⟨kept', calls', subset_cons_of_subset m hsub, hcalls, heq⟩

lemma initPass_prefix (kept : List ModuleFile) (calls : List ModuleCall)
    (todo : List ModuleFile) :
    ∃ kept' calls', kept' ⊆ todo ∧ initPass kept calls todo = (kept ++ kept', calls ++ calls') := by
  obtain ⟨kept', calls', hsub, -, heq⟩ := initPass_append todo [] kept calls
  rw [append_nil] at heq
  exact ⟨kept', calls', hsub, heq⟩

lemma needsFirst_of_inDependencyOrder {opened : List ModuleFile}
    (h : InDependencyOrder {m | m ∈ opened} {m | m ∈ (initPass [] [] opened).1}
      (initPass [] [] opened).2) : NeedsFirst opened := by
  have hloaded : ∀ m, m ∈ (initPass [] [] opened).1 ↔ Loadable opened m :=
    Set.ext_iff.mp (h.greatest.unique (isGreatest_loadable opened))
  intro before m after hsplit hpremise n hn hneed
  obtain ⟨kept, calls, hsub, hcalls, heq⟩ := initPass_append before (m :: after) [] []
  rw [← hsplit, nil_append, nil_append] at heq
  have hkept : ∀ k, k ∈ (initPass [] [] opened).1 → k ∈ kept ++ m :: after := fun k hk => by
    obtain ⟨kept', calls', hsub', heq'⟩ := initPass_prefix kept calls (m :: after)
    rw [heq, heq'] at hk
    rcases mem_append.mp hk with hk | hk
    · exact mem_append_left _ hk
    · exact mem_append_right _ (hsub' hk)
  have hlisted : needsListed (kept ++ m :: after) m = true := needsListed_iff.mpr fun need hneed => by
    obtain ⟨k, hname, hk⟩ := hpremise need hneed
    rcases hk with hk | ⟨-, hk⟩
    · exact ⟨k, mem_append_right kept hk, hname⟩
    · exact ⟨k, hkept k ((hloaded k).mpr hk), hname⟩
  rw [initPass, if_pos hlisted] at heq
  obtain ⟨kept', calls', -, heq'⟩ := initPass_prefix
    (if m.initOk then kept ++ [m] else kept) (calls ++ [.init m m.initOk]) after
  rw [heq'] at heq
  have hinit := (h.order calls m m.initOk calls' (by rw [heq]; simp) n.name hneed).2 n hn rfl
  have hk := hcalls n hinit
  refine ⟨hsub hk, (hloaded n).mp ?_⟩
  rw [heq]
  refine mem_append_left kept' ?_
  split_ifs
  · exact mem_append_left [m] hk
  · exact hk

structure PassInv (opened before kept : List ModuleFile) (calls : List ModuleCall) : Prop where
  loaded : ∀ m, m ∈ kept ↔ m ∈ before ∧ Loadable opened m
  inits : ∀ m ∈ kept, .init m true ∈ calls
  needs : ∀ m ok, .init m ok ∈ calls → ∀ n, Needs {m | m ∈ opened} m n → Loadable opened n
  order : InitsOrdered {m | m ∈ opened} calls

lemma InitsOrdered.append {opened : Set ModuleFile} {calls : List ModuleCall} {ok : Bool}
    (h : InitsOrdered opened calls) (hm : DepsInitialised opened calls m) :
    InitsOrdered opened (calls ++ [.init m ok]) := by
  intro front n ok' back hsplit
  rcases eq_nil_or_concat back with rfl | ⟨back, last, rfl⟩
  · obtain ⟨rfl, hlast⟩ := append_inj' hsplit rfl
    obtain ⟨rfl, -⟩ : m = n ∧ ok = ok' := by simpa using hlast
    exact hm
  · have hsplit : calls ++ [.init m ok] = (front ++ .init n ok' :: back) ++ [last] := by
      simpa using hsplit
    exact h front n ok' back (append_inj' hsplit rfl).1

section
variable {opened before todo kept : List ModuleFile} {calls : List ModuleCall} {m : ModuleFile}

lemma PassInv.skip (h : PassInv opened before kept calls) (hsplit : opened = before ++ m :: todo)
    (hneeds : ¬ needsListed (kept ++ m :: todo) m = true) :
    PassInv opened (before ++ [m]) kept calls := by
  have hm : ¬ Loadable opened m := fun hm => hneeds <| needsListed_iff.mpr fun need hneed => by
    obtain ⟨n, hn, hname⟩ := hm.sound.2.2 need hneed
    have hload : Loadable opened n := hm.of_needs ⟨hn, hname ▸ hneed⟩
    have hn : n ∈ before ++ m :: todo := hsplit ▸ hn
    rcases mem_append.mp hn with hn | hn
    · exact ⟨n, mem_append_left _ ((h.loaded n).mpr ⟨hn, hload⟩), hname⟩
    · exact ⟨n, mem_append_right _ hn, hname⟩
  refine ⟨fun n => ?_, h.inits, h.needs, h.order⟩
  rw [h.loaded, mem_append, mem_singleton]
  refine ⟨fun ⟨hn, hload⟩ => ⟨.inl hn, hload⟩, fun ⟨hn, hload⟩ => ⟨?_, hload⟩⟩
  rcases hn with hn | rfl
  · exact hn
  · exact absurd hload hm

lemma PassInv.init (h : PassInv opened before kept calls) (hsplit : opened = before ++ m :: todo)
    (hfirst : NeedsFirst opened) (hneeds : needsListed (kept ++ m :: todo) m = true) :
    PassInv opened (before ++ [m]) (if m.initOk then kept ++ [m] else kept)
      (calls ++ [.init m m.initOk]) := by
  rw [needsListed_iff] at hneeds
  have hdeps : ∀ n ∈ opened, n.name ∈ m.modinfo.deps → n ∈ before ∧ Loadable opened n := by
    refine hfirst before m todo hsplit fun need hneed => ?_
    obtain ⟨n, hn, hname⟩ := hneeds need hneed
    rcases mem_append.mp hn with hn | hn
    · exact ⟨n, hname, .inr ((h.loaded n).mp hn)⟩
    · exact ⟨n, hname, .inl hn⟩
  have hthere : ∀ need ∈ m.modinfo.deps, ∃ n ∈ opened, n.name = need := fun need hneed => by
    obtain ⟨n, hn, hname⟩ := hneeds need hneed
    refine ⟨n, ?_, hname⟩
    rw [hsplit]
    rcases mem_append.mp hn with hn | hn
    · exact mem_append_left _ ((h.loaded n).mp hn).1
    · exact mem_append_right _ hn
  have hm : m ∈ opened := by simp [hsplit]
  have hload : Loadable opened m ↔ m.initOk = true :=
    ⟨fun hm => hm.sound.2.1, fun hok => .intro ⟨hm, hok, hthere⟩ fun n hn => (hdeps n hn.1 hn.2).2⟩
  refine ⟨fun n => ?_, fun n hn => ?_, fun n ok hn k hk => ?_, h.order.append fun need hneed => ?_⟩
  · have hkept := h.loaded n
    split_ifs with hok
    · rw [mem_append, mem_append, mem_singleton, hkept]
      refine ⟨?_, fun ⟨hn, hl⟩ => hn.imp_left fun hn => ⟨hn, hl⟩⟩
      rintro (⟨hn, hl⟩ | rfl)
      · exact ⟨.inl hn, hl⟩
      · exact ⟨.inr rfl, hload.mpr hok⟩
    · rw [mem_append, mem_singleton, hkept]
      refine ⟨fun ⟨hn, hl⟩ => ⟨.inl hn, hl⟩, fun ⟨hn, hl⟩ => ⟨?_, hl⟩⟩
      rcases hn with hn | rfl
      · exact hn
      · exact absurd (hload.mp hl) hok
  · split_ifs at hn with hok
    · rcases mem_append.mp hn with hn | hn
      · exact mem_append_left _ (h.inits n hn)
      · rw [mem_singleton.mp hn, hok]
        exact mem_append_right _ (.head _)
    · exact mem_append_left _ (h.inits n hn)
  · rcases mem_append.mp hn with hn | hn
    · exact h.needs n ok hn k hk
    · obtain ⟨rfl, -⟩ := ModuleCall.init.inj (mem_singleton.mp hn)
      exact (hdeps k hk.1 hk.2).2
  · refine ⟨hthere need hneed, fun n hn hname => ?_⟩
    exact h.inits n ((h.loaded n).mpr (hdeps n hn (hname ▸ hneed)))

lemma PassInv.pass (hfirst : NeedsFirst opened) (h : PassInv opened before kept calls)
    (hsplit : opened = before ++ todo) :
    PassInv opened opened (initPass kept calls todo).1 (initPass kept calls todo).2 := by
  induction todo generalizing before kept calls with
  | nil =>
    rw [append_nil] at hsplit
    rw [hsplit] at h ⊢
    exact h
  | cons m todo ih =>
    have hsplit' : opened = (before ++ [m]) ++ todo := by simpa using hsplit
    by_cases hneeds : needsListed (kept ++ m :: todo) m = true
    · rw [initPass, if_pos hneeds]
      exact ih (h.init hsplit hfirst hneeds) hsplit'
    · rw [initPass, if_neg hneeds]
      exact ih (h.skip hsplit hneeds) hsplit'

end

lemma inDependencyOrder_of_needsFirst {opened : List ModuleFile} (hfirst : NeedsFirst opened) :
    InDependencyOrder {m | m ∈ opened} {m | m ∈ (initPass [] [] opened).1}
      (initPass [] [] opened).2 := by
  have hstart : PassInv opened [] [] [] :=
    ⟨by simp, by simp, by simp, fun front m ok back h => by simp at h⟩
  have h := hstart.pass hfirst (nil_append opened).symm
  have hloaded : {m | m ∈ (initPass [] [] opened).1} = {m | Loadable opened m} := by
    ext m
    exact ⟨fun hm => ((h.loaded m).mp hm).2, fun hm => (h.loaded m).mpr ⟨hm.sound.1, hm⟩⟩
  refine ⟨h.order, fun m ok hcycle hm => ?_, ?_⟩
  · exact not_cycle_of_needs (h.needs m ok hm) hcycle
  · rw [hloaded]
    exact isGreatest_loadable opened

lemma initngModuleLoadAll_spec (d : ModuleDir) :
    ∃ success db l, initngModuleLoadAll d .empty = some (success, db) ∧
      whileModuleDb db = some l ∧ (l.map db.file, db.calls) = initPass [] [] d.opened := by
  unfold initngModuleLoadAll ModuleDir.opened
  cases d.readdir with
  | none => exact ⟨false, .empty, [], rfl, ModuleDb.empty_lists.whileModuleDb, rfl⟩
  | some dNames =>
    obtain ⟨db, success, l, hopen, hl, hmap, hcalls, hnew⟩ :=
      ModuleDb.empty_lists.openAll d dNames false (by simp)
    obtain ⟨db', l', hpass, hl', heq⟩ := hl.loadPass hnew
    refine ⟨success, db', l', by simp [hopen, hpass], hl'.whileModuleDb, ?_⟩
    rw [heq, hmap, hcalls]
    rfl

/-- Modules are loaded in dependency order just if the directory lists them so. -/
theorem moduleLoadAll_order_iff (d : ModuleDir) :
    ∃ success db l, initngModuleLoadAll d .empty = some (success, db) ∧
      whileModuleDb db = some l ∧
      (InDependencyOrder {m | m ∈ d.opened} {m | m ∈ l.map db.file} db.calls ↔
        NeedsFirst d.opened) := by
  obtain ⟨success, db, l, hrun, hl, heq⟩ := initngModuleLoadAll_spec d
  refine ⟨success, db, l, hrun, hl, ?_⟩
  have hloaded : l.map db.file = (initPass [] [] d.opened).1 := congrArg Prod.fst heq
  have hcalls : db.calls = (initPass [] [] d.opened).2 := congrArg Prod.snd heq
  rw [hloaded, hcalls]
  exact ⟨needsFirst_of_inDependencyOrder, inDependencyOrder_of_needsFirst⟩

def synchronFirst : ModuleDir where
  path := "/lib/initng"
  readdir := some ["modsynchron.so", "modservice.so"]
  files := serviceFiles
  argv := []
  fnmatch _ _ := false

/-- `synchron` is initialised before the module it needs. -/
theorem moduleLoadAll_not_order :
    ¬ ∀ (d : ModuleDir) (success : Bool) (db : ModuleDb) (l : List Mid),
      initngModuleLoadAll d .empty = some (success, db) → whileModuleDb db = some l →
      InDependencyOrder {m | m ∈ d.opened} {m | m ∈ l.map db.file} db.calls := by
  intro hall
  have hrun : ((initngModuleLoadAll synchronFirst .empty).bind fun r =>
      (whileModuleDb r.2).map fun _ => r.2.calls) =
      some [.init synchronModule true, .init serviceModule true] := by
    decide +kernel
  obtain ⟨⟨success, db⟩, hload, hrun⟩ := Option.bind_eq_some_iff.mp hrun
  obtain ⟨l, hl, hcalls⟩ := Option.map_eq_some_iff.mp hrun
  have h := hall _ _ _ _ hload hl
  have hdeps := h.order [] synchronModule true [.init serviceModule true] hcalls "service"
    (by decide)
  have hservice : serviceModule ∈ synchronFirst.opened := by decide +kernel
  exact absurd (hdeps.2 serviceModule hservice rfl) not_mem_nil

end Initng
