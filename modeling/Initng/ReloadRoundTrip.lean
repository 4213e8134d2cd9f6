import Initng.Reload
import Mathlib.Data.List.Forall2
import Mathlib.Data.List.Nodup

namespace Initng

open List Option

def EDt.ValueFits : (type : EDt) → type.Value → Prop
  | .string, (s : Option String) | .strings, (s : Option String)
  | .variableString, (s : Option String) | .variableStrings, (s : Option String) =>
    ∀ x, s = some x → x.length ≤ maxDataStringLen
  | .uDT, _ | .set, _ | .int, _ | .alias, _ | .timeT, _
  | .variableSet, _ | .variableInt, _ | .variableTimeT, _ => True

def EDt.ValueKept : (type : EDt) → type.Value → Prop
  | .string, (s : Option String) | .strings, (s : Option String)
  | .variableString, (s : Option String) | .variableStrings, (s : Option String) => s ≠ none
  | .timeT, (l : Int) | .variableTimeT, (l : Int) => l = 0
  | .uDT, _ | .set, _ | .int, _ | .alias, _ | .variableSet, _ | .variableInt, _ => True

structure DataEntry.Fits (r : Registered) (d : DataEntry) : Prop where
  type_mem : d.type ∈ r.optionDb
  name_length : d.type.name.length ≤ maxTypeStringLen
  vn_length : ∀ vn, d.vn = some vn → vn.length ≤ maxDataVnLen
  value : d.type.type.ValueFits d.t

structure ProcessH.Fits (r : Registered) (p : ProcessH) : Prop where
  pt_mem : p.pt ∈ r.ptypes
  name_ne : p.pt.name ≠ ""
  name_length : p.pt.name.length ≤ maxPtypeStringLen
  pipes_length : p.pipes.length ≤ maxPipes
  targets_length : ∀ pipe ∈ p.pipes, pipe.targets.length ≤ maxPipeTargets

structure SavedService.Fits (r : Registered) (a : SavedService) : Prop where
  name_length : a.name.length < maxServiceNameStringLen
  state_mem : a.currentState ∈ r.states
  state_length : a.currentState.name.length ≤ maxServiceStateLen
  type_mem : ∃ type ∈ r.stypes, a.type = some type ∧ type.name.length ≤ maxTypeStringLen
  processes_length : a.processes.length ≤ maxProcesses
  processes : ∀ p ∈ a.processes, p.Fits r
  data_length : a.data.length ≤ maxEntrysForService
  data : ∀ d ∈ a.data, d.Fits r

def SavedService.live (a : SavedService) : List ProcessH :=
  a.processes.filter fun p => p.pst = .pActive

structure SavedService.Same (a b : SavedService) : Prop where
  name : b.name = a.name
  state : b.currentState = a.currentState
  type : b.type = a.type
  time : b.timeCurrentState = a.timeCurrentState
  live : b.live = a.live
  data : b.data = a.data

/-- The file is written, and reading it into an empty list brings the same services back. -/
def Reloads (r : Registered) (db : List SavedService) : Prop :=
  ∃ success file, writeFile db = some (success, file) ∧
    List.Forall₂ SavedService.Same db (readFile r file []).2

/-- The entry is found again under the name of its type, it has a variable name exactly if its
type wants one, and all of its value is saved. -/
structure DataEntry.Kept (r : Registered) (d : DataEntry) : Prop where
  found : r.dataTypeFind d.type.name = some d.type
  defined : d.type.type ≠ .uDT
  vn_isSome : d.vn.isSome = d.type.type.isVariable
  value : d.type.type.ValueKept d.t

/-- The type is the first registered one whose name begins like its name, there are no
processes, and the data entries are the same read backwards. -/
structure SavedService.Kept (r : Registered) (a : SavedService) : Prop where
  type : ∀ type, a.type = some type → r.serviceTypeGetByName type.name = some type
  processes : a.processes = []
  data_reverse : a.data.reverse = a.data
  data : ∀ d ∈ a.data, d.Kept r

namespace Registered

variable {r : Registered}

lemma activeStateFind_mem {state : AState} (h : state ∈ r.states) :
    r.activeStateFind state.name = some state := by
  cases hfind : r.activeStateFind state.name with
  | none =>
    rw [activeStateFind, find?_eq_none] at hfind
    exact absurd (by simp) (hfind state h)
  | some found =>
    have hmem := mem_of_find?_eq_some hfind
    have hname : found.name = state.name := by simpa using find?_some hfind
    rw [inj_on_of_nodup_map r.states_names hmem h hname]

lemma exists_ptypeFind {pt : Ptype} (h : pt ∈ r.ptypes) :
    ∃ found, r.ptypeFind pt.name = some found := by
  rw [← isSome_iff_exists, ptypeFind, find?_isSome]
  exact ⟨pt, h, by simp⟩

lemma dataTypeFind_name {name : String} {type : DataType} (h : r.dataTypeFind name = some type) :
    type.name = name := by
  simpa using find?_some h

end Registered

variable {p pnr : ℕ} {r : Registered} {ps : List ProcessH} {d : DataEntry} {l : List DataEntry}
  {rows : List RDataEntry} {a : SavedService} {db : List SavedService}

lemma readPipes_dir {rows : List RPipe} : ∀ pipe ∈ readPipes p rows, pipe.dir ≠ .unknownPipe := by
  induction rows generalizing p with
  | nil => simp [readPipes]
  | cons row rows ih =>
    intro pipe hpipe
    rw [readPipes] at hpipe
    split at hpipe
    next hrow =>
      rcases mem_cons.mp hpipe with rfl | hpipe
      · exact hrow.1
      · exact ih pipe hpipe
    next => simp at hpipe

lemma readPipes_length {rows : List RPipe} (hdir : ∀ row ∈ rows, row.dir ≠ .unknownPipe)
    (hp : p + rows.length ≤ maxPipes) : (readPipes p rows).length = rows.length := by
  induction rows generalizing p with
  | nil => rfl
  | cons row rows ih =>
    rw [length_cons] at hp
    have hrow : row.dir ≠ .unknownPipe ∧ p < maxPipes := ⟨hdir row (.head _), by omega⟩
    rw [readPipes, if_pos hrow, length_cons, length_cons,
      ih (fun row h => hdir row (.tail _ h)) (by omega)]

lemma readProcess_ne {p : ProcessH} (hp : p.Fits r) (pt : Ptype) :
    readProcess pt (writeProcess p) ≠ p := by
  intro h
  have hpipes : (processDbNew pt).pipes ++ readPipes 0 (p.pipes.map writePipe) = p.pipes :=
    congrArg ProcessH.pipes h
  have hdir : ∀ row ∈ p.pipes.map writePipe, row.dir ≠ .unknownPipe := by
    intro row hrow
    obtain ⟨pipe, hpipe, rfl⟩ := mem_map.mp hrow
    rw [← hpipes] at hpipe
    rcases mem_append.mp hpipe with hpipe | hpipe
    · rw [mem_singleton.mp hpipe]
      exact EDir.noConfusion
    · exact readPipes_dir pipe hpipe
  have hlength := congrArg length hpipes
  rw [length_append, readPipes_length hdir (by simpa using hp.pipes_length)] at hlength
  simp [processDbNew] at hlength

lemma readProcesses_pst {rows : List RProcess} :
    ∀ p ∈ readProcesses r pnr rows, p.pst = .pActive := by
  induction rows generalizing pnr with
  | nil => simp [readProcesses]
  | cons row rows ih =>
    intro p hp
    rw [readProcesses] at hp
    split at hp
    · split at hp
      · exact ih p hp
      · rcases mem_cons.mp hp with rfl | hp
        · rfl
        · exact ih p hp
    · simp at hp

lemma readProcesses_eq (hps : ∀ p ∈ ps, p.Fits r) (hpnr : pnr + ps.length ≤ maxProcesses) :
    Forall₂ (fun p q => ∃ pt, q = readProcess pt (writeProcess p)) ps
      (readProcesses r pnr (ps.map writeProcess)) := by
  induction ps generalizing pnr with
  | nil => exact .nil
  | cons p ps ih =>
    rw [length_cons] at hpnr
    have hp := hps p (.head _)
    obtain ⟨pt, hpt⟩ := Registered.exists_ptypeFind hp.pt_mem
    have hname : (writeProcess p).ptype = p.pt.name := strncpy_of_le hp.name_length
    rw [map_cons, readProcesses, hname, if_pos ⟨hp.name_ne, by omega⟩, hpt]
    exact .cons ⟨pt, rfl⟩ (ih (fun p h => hps p (.tail _ h)) (by omega))

lemma readProcesses_live_iff (hps : ∀ p ∈ ps, p.Fits r) (hlength : ps.length ≤ maxProcesses) :
    (readProcesses r 0 (ps.map writeProcess)).filter (fun p => p.pst = .pActive) =
      ps.filter (fun p => p.pst = .pActive) ↔ ps = [] := by
  have hback := readProcesses_eq hps (show 0 + ps.length ≤ maxProcesses by omega)
  have hall : (readProcesses r 0 (ps.map writeProcess)).filter (fun p => p.pst = .pActive) =
      readProcesses r 0 (ps.map writeProcess) :=
    filter_eq_self.mpr fun p hp => decide_eq_true (readProcesses_pst p hp)
  rw [hall]
  constructor
  · intro heq
    -- as many as before, so none was freed
    have hlive : ps.filter (fun p => p.pst = .pActive) = ps := by
      apply Sublist.eq_of_length filter_sublist
      rw [← heq, ← hback.length_eq]
    rw [heq, hlive] at hback
    cases ps with
    | nil => rfl
    | cons p ps =>
      obtain ⟨⟨pt, hp⟩, -⟩ := forall₂_cons.mp hback
      exact absurd hp.symm (readProcess_ne (hps p (.head _)) pt)
  · rintro rfl
    rfl

lemma writeValue_of_kept {type : EDt} {t : type.Value} (hfit : type.ValueFits t)
    (hkept : type.ValueKept t) : ∃ v, writeValue type t = some v ∧ readValue type v = t := by
  have hstring {s : Option String} (hfit : ∀ x, s = some x → x.length ≤ maxDataStringLen)
      (hkept : s ≠ none) : ∃ x, s = some x ∧ strncpy maxDataStringLen x = x := by
    obtain ⟨x, hx⟩ := ne_none_iff_exists'.mp hkept
    exact ⟨x, hx, strncpy_of_le (hfit x hx)⟩
  cases type with
  | string | strings | variableString | variableStrings =>
    obtain ⟨x, hx, hcopy⟩ := hstring hfit hkept
    subst hx
    exact ⟨.s x, congrArg (fun y => some (RValue.s y)) hcopy, rfl⟩
  | int | variableInt => exact ⟨.i t, rfl, rfl⟩
  | timeT | variableTimeT => exact ⟨.i 0, rfl, hkept.symm⟩
  | uDT | set | «alias» | variableSet => exact ⟨.i 0, rfl, rfl⟩

lemma readValue_kept (type : EDt) (v : RValue) : type.ValueKept (readValue type v) := by
  cases type <;> cases v <;> simp [EDt.ValueKept, readValue]

lemma writeData_of_kept (hfit : d.Fits r) (hkept : d.Kept r) :
    ∃ row, writeData d = some row ∧ row.type = d.type.name ∧ row.optType = d.type.type ∧
      readData d.type row = d := by
  obtain ⟨v, hwrite, hread⟩ := writeValue_of_kept hfit.value hkept.value
  have hname := strncpy_of_le hfit.name_length
  have hvn := hkept.vn_isSome
  obtain ⟨type, vn, t⟩ := d
  dsimp only at *
  cases hvar : type.type.isVariable with
  | true =>
    rw [hvar] at hvn
    obtain ⟨vn, rfl⟩ := isSome_iff_exists.mp hvn
    refine ⟨⟨type.name, type.type, vn, v⟩, ?_, rfl, rfl, ?_⟩
    · simp [writeData, writeVn, hwrite, hvar, hname, strncpy_of_le (hfit.vn_length vn rfl)]
    · simp [readData, hvar, hread]
  | false =>
    rw [hvar] at hvn
    obtain rfl : vn = none := by simpa using hvn
    refine ⟨⟨type.name, type.type, "", v⟩, ?_, rfl, rfl, ?_⟩
    · simp [writeData, writeVn, hwrite, hvar, hname]
    · simp [readData, hvar, hread]

lemma mapM_writeData (h : l.mapM writeData = some rows) :
    rows.length = l.length ∧ ∀ d ∈ l, ∃ row ∈ rows, writeData d = some row := by
  induction l generalizing rows with
  | nil =>
    obtain rfl := some.inj h
    exact ⟨rfl, by simp⟩
  | cons d l ih =>
    simp only [List.mapM_cons, Option.bind_eq_bind, Option.bind_eq_some_iff, Option.pure_def,
      some.injEq] at h
    obtain ⟨row, hrow, rows, hrows, rfl⟩ := h
    obtain ⟨hlength, hmem⟩ := ih hrows
    refine ⟨by simp [hlength], fun d' hd' => ?_⟩
    rcases mem_cons.mp hd' with rfl | hd'
    · exact ⟨row, mem_cons_self .., hrow⟩
    · obtain ⟨row', hrow', hwrite⟩ := hmem d' hd'
      exact ⟨row', mem_cons_of_mem _ hrow', hwrite⟩

lemma readDatas_kept :
    ∀ d ∈ readDatas r rows, r.dataTypeFind d.type.name = some d.type ∧
      d.vn.isSome = d.type.type.isVariable ∧ d.type.type.ValueKept d.t := by
  induction rows with
  | nil => simp [readDatas]
  | cons row rows ih =>
    intro d hd
    rw [readDatas] at hd
    split at hd
    · simp at hd
    · split at hd
      · exact ih d hd
      next type htype =>
        rcases mem_cons.mp hd with rfl | hd
        · refine ⟨?_, ?_, readValue_kept _ _⟩
          · exact (Registered.dataTypeFind_name htype).symm ▸ htype
          · dsimp only [readData]
            cases type.type.isVariable <;> rfl
        · exact ih d hd

lemma readDatas_length :
    (readDatas r rows).length ≤ rows.length ∧
      ((readDatas r rows).length = rows.length → ∀ row ∈ rows, row.optType ≠ .uDT) := by
  induction rows with
  | nil => simp [readDatas]
  | cons row rows ih =>
    obtain ⟨hle, hdefined⟩ := ih
    rw [readDatas]
    split
    · simp
    next hrow =>
      split
      · rw [length_cons]
        exact ⟨by omega, fun h => by omega⟩
      · rw [length_cons, length_cons]
        refine ⟨by omega, fun h => ?_⟩
        intro row' hrow'
        rcases mem_cons.mp hrow' with rfl | hrow'
        · exact hrow
        · exact hdefined (by omega) row' hrow'

lemma readDatas_of_kept (hfit : ∀ d ∈ l, d.Fits r) (hkept : ∀ d ∈ l, d.Kept r) :
    ∃ rows, l.mapM writeData = some rows ∧ readDatas r rows = l := by
  induction l with
  | nil => exact ⟨[], rfl, rfl⟩
  | cons d l ih =>
    obtain ⟨rows, hrows, hread⟩ := ih (fun d h => hfit d (.tail _ h))
      (fun d h => hkept d (.tail _ h))
    have hd := hkept d (.head _)
    obtain ⟨row, hrow, htype, hopt, hback⟩ := writeData_of_kept (hfit d (.head _)) hd
    refine ⟨row :: rows, ?_, ?_⟩
    · simp [mapM_cons, hrow, hrows]
    · rw [readDatas, if_neg (hopt ▸ hd.defined), htype, hd.found]
      dsimp only
      rw [hback, hread]

lemma readDatas_eq_iff {data : List DataEntry} (hfit : ∀ d ∈ data, d.Fits r) :
    (∃ rows, data.reverse.mapM writeData = some rows ∧ readDatas r rows = data) ↔
      data.reverse = data ∧ ∀ d ∈ data, d.Kept r := by
  have hfit' : ∀ d ∈ data.reverse, d.Fits r := fun d hd => hfit d (mem_reverse.mp hd)
  constructor
  · rintro ⟨rows, hrows, hread⟩
    obtain ⟨hcount, hmem⟩ := mapM_writeData hrows
    have hkept : ∀ d ∈ data, d.Kept r := by
      intro d hd
      obtain ⟨hfound, hvn, hvalue⟩ := readDatas_kept d (hread.symm ▸ hd)
      refine ⟨hfound, ?_, hvn, hvalue⟩
      have hlength : (readDatas r rows).length = rows.length := by
        rw [hread, hcount, length_reverse]
      obtain ⟨row, hrow, hwrite⟩ := hmem d (mem_reverse.mpr hd)
      simp only [writeData, Option.bind_eq_bind, Option.bind_eq_some_iff, Option.pure_def,
        some.injEq] at hwrite
      obtain ⟨t, -, vn, -, rfl⟩ := hwrite
      exact readDatas_length.2 hlength _ hrow
    obtain ⟨rows', hrows', hread'⟩ := readDatas_of_kept hfit'
      fun d hd => hkept d (mem_reverse.mp hd)
    rw [hrows] at hrows'
    cases hrows'
    exact ⟨hread'.symm.trans hread, hkept⟩
  · rintro ⟨hrev, hkept⟩
    obtain ⟨rows, hrows, hread⟩ := readDatas_of_kept hfit' fun d hd => hkept d (mem_reverse.mp hd)
    exact ⟨rows, hrows, hread.trans hrev⟩

section
variable {r : Registered} {a : SavedService} {entry : DataSaveStruct}

lemma writeEntry_eq (hfit : a.Fits r) {type : Stype} (htype : a.type = some type)
    (hlength : type.name.length ≤ maxTypeStringLen) :
    writeEntry a = (a.data.reverse.mapM writeData).map fun data =>
      ⟨a.name, type.name, a.currentState.name, a.timeCurrentState,
        a.processes.map writeProcess, data⟩ := by
  have hdata : a.data.reverse.take maxEntrysForService = a.data.reverse :=
    take_of_length_le (by simpa using hfit.data_length)
  have hprocesses : a.processes.take maxProcesses = a.processes :=
    take_of_length_le hfit.processes_length
  simp only [writeEntry, hdata, hprocesses, htype, map_some, getD_some,
    strncpy_of_le (Nat.le_of_lt hfit.name_length), strncpy_of_le hfit.state_length,
    strncpy_of_le hlength]
  cases a.data.reverse.mapM writeData <;> rfl

lemma writeEntry_lookup (hfit : a.Fits r) (hentry : writeEntry a = some entry) :
    entry.name = a.name ∧ r.activeStateFind entry.state = some a.currentState ∧
      ∃ type, r.serviceTypeGetByName entry.type = some type := by
  obtain ⟨type, hmem, htype, hlength⟩ := hfit.type_mem
  rw [writeEntry_eq hfit htype hlength, map_eq_some_iff] at hentry
  obtain ⟨data, -, rfl⟩ := hentry
  exact ⟨rfl, Registered.activeStateFind_mem hfit.state_mem,
    isSome_iff_exists.mp (find?_isSome.mpr ⟨type, hmem, by simp⟩)⟩

lemma exists_writeEntry (hfit : a.Fits r) (hkept : a.Kept r) :
    ∃ entry, writeEntry a = some entry := by
  obtain ⟨type, -, htype, hlength⟩ := hfit.type_mem
  obtain ⟨rows, hrows, -⟩ := (readDatas_eq_iff hfit.data).mpr ⟨hkept.data_reverse, hkept.data⟩
  rw [writeEntry_eq hfit htype hlength, hrows]
  exact ⟨_, rfl⟩

lemma readEntry_same_iff (hfit : a.Fits r) (hentry : writeEntry a = some entry) {found : Stype}
    (hfound : r.serviceTypeGetByName entry.type = some found) :
    SavedService.Same a (readEntry r entry a.currentState found) ↔ a.Kept r := by
  obtain ⟨type, -, htype, hlength⟩ := hfit.type_mem
  rw [writeEntry_eq hfit htype hlength, map_eq_some_iff] at hentry
  obtain ⟨rows, hrows, rfl⟩ := hentry
  have hdata := readDatas_eq_iff hfit.data
  have hlive := readProcesses_live_iff hfit.processes hfit.processes_length
  constructor
  · intro hsame
    have heq : some found = a.type := hsame.type
    obtain ⟨hrev, hkept⟩ := hdata.mp ⟨rows, hrows, hsame.data⟩
    refine ⟨fun type' htype' => ?_, hlive.mp hsame.live, hrev, hkept⟩
    rw [htype] at heq htype'
    cases heq
    cases htype'
    exact hfound
  · intro hkept
    have heq : some found = a.type := by
      rw [← hfound, htype]
      exact hkept.type type htype
    obtain ⟨rows', hrows', hread⟩ := hdata.mpr ⟨hkept.data_reverse, hkept.data⟩
    rw [hrows] at hrows'
    cases hrows'
    exact ⟨rfl, rfl, heq, rfl, hlive.mpr hkept.processes, hread⟩

end

lemma readFile_extends (r : Registered) (file : List DataSaveStruct) (db : List SavedService) :
    ∃ l, (readFile r file db).2 = db ++ l := by
  induction file generalizing db with
  | nil => exact ⟨[], (append_nil db).symm⟩
  | cons entry file ih =>
    rw [readFile]
    split
    · exact ih db
    · split
      next state type _ _ =>
        obtain ⟨l, hl⟩ := ih (db ++ [readEntry r entry state type])
        exact ⟨readEntry r entry state type :: l, by simpa using hl⟩
      next => exact ih db

lemma readFile_cons (hfit : a.Fits r) {entry : DataSaveStruct}
    (hentry : writeEntry a = some entry) (hnew : ∀ b ∈ db, b.name ≠ a.name)
    (file : List DataSaveStruct) :
    ∃ found, r.serviceTypeGetByName entry.type = some found ∧
      (readFile r (entry :: file) db) =
        readFile r file (db ++ [readEntry r entry a.currentState found]) := by
  obtain ⟨hname, hstate, found, hfound⟩ := writeEntry_lookup hfit hentry
  refine ⟨found, hfound, ?_⟩
  have hnone : ¬ (db.any fun current => current.name = entry.name) = true := by
    simpa [hname] using hnew
  rw [readFile, if_neg hnone, hstate, hfound]

lemma writeFile_cons (hfit : a.Fits r) (rest : List SavedService) (success : Bool)
    (file : List DataSaveStruct) :
    writeFile (a :: rest) = some (success, file) ↔
      ∃ entry success' file', writeEntry a = some entry ∧ writeFile rest = some (success', file') ∧
        success = (success' && decide (a.data.length < maxEntrysForService)) ∧
        file = entry :: file' := by
  have hname : ¬ a.name.length ≥ maxServiceNameStringLen := Nat.not_le.mpr hfit.name_length
  rw [writeFile, if_neg hname]
  simp only [Option.bind_eq_bind, Option.bind_eq_some_iff, Option.pure_def, Option.some.injEq,
    Prod.mk.injEq, Prod.exists]
  grind

lemma reloads_behind_iff {old : List SavedService} (hfit : ∀ a ∈ db, a.Fits r)
    (hnames : (db.map SavedService.name).Nodup) (hnew : ∀ a ∈ db, ∀ b ∈ old, b.name ≠ a.name) :
    (∃ success file, writeFile db = some (success, file) ∧
      ∃ l, (readFile r file old).2 = old ++ l ∧ Forall₂ SavedService.Same db l) ↔
      ∀ a ∈ db, a.Kept r := by
  induction db generalizing old with
  | nil => simp [writeFile, readFile]
  | cons a db ih =>
    obtain ⟨hfa, hfdb⟩ := forall_mem_cons.mp hfit
    obtain ⟨hna, hndb⟩ := forall_mem_cons.mp hnew
    obtain ⟨hnot, hnodup⟩ := nodup_cons.mp hnames
    -- the services behind the first are not named like it
    have hnext {b : SavedService} (hb : b.name = a.name) :
        ∀ c ∈ db, ∀ b' ∈ old ++ [b], b'.name ≠ c.name := by
      intro c hc b' hb'
      rcases mem_append.mp hb' with hb' | hb'
      · exact hndb c hc b' hb'
      · rw [mem_singleton.mp hb', hb]
        exact fun e => hnot (e ▸ mem_map_of_mem hc)
    rw [forall_mem_cons]
    constructor
    · rintro ⟨success, file, hwrite, l, hread, hsame⟩
      obtain ⟨entry, success', file', hentry, hwrite', -, rfl⟩ := (writeFile_cons hfa ..).mp hwrite
      obtain ⟨found, hfound, hcons⟩ := readFile_cons hfa hentry hna file'
      have hname := (writeEntry_lookup hfa hentry).1
      obtain ⟨l', hl'⟩ := readFile_extends r file' (old ++ [readEntry r entry a.currentState found])
      have hl : l = readEntry r entry a.currentState found :: l' := by
        rw [hcons, hl', append_assoc] at hread
        exact (append_cancel_left hread).symm
      rw [hl, forall₂_cons] at hsame
      exact ⟨(readEntry_same_iff hfa hentry hfound).mp hsame.1,
        (ih hfdb hnodup (hnext hname)).mp ⟨success', file', hwrite', l', hl', hsame.2⟩⟩
    · rintro ⟨hka, hkdb⟩
      obtain ⟨entry, hentry⟩ := exists_writeEntry hfa hka
      have hname := (writeEntry_lookup hfa hentry).1
      obtain ⟨found, hfound, -⟩ := readFile_cons hfa hentry hna []
      obtain ⟨success', file', hwrite', l', hl', hsame⟩ := (ih hfdb hnodup
        (hnext (b := readEntry r entry a.currentState found) hname)).mpr hkdb
      obtain ⟨found', hfound', hcons⟩ := readFile_cons hfa hentry hna file'
      rw [hfound] at hfound'
      cases hfound'
      refine ⟨_, entry :: file', (writeFile_cons hfa ..).mpr
        ⟨entry, success', file', hentry, hwrite', rfl, rfl⟩,
        readEntry r entry a.currentState found :: l', ?_, ?_⟩
      · rw [hcons, hl', append_assoc]
        rfl
      · exact .cons ((readEntry_same_iff hfa hentry hfound).mpr hka) hsame

theorem reloads_iff (r : Registered) (db : List SavedService)
    (hnames : (db.map SavedService.name).Nodup) (hfit : ∀ a ∈ db, a.Fits r) :
    Reloads r db ↔ ∀ a ∈ db, a.Kept r := by
  have hnew : ∀ a ∈ db, ∀ b ∈ ([] : List SavedService), b.name ≠ a.name := by simp
  rw [← reloads_behind_iff hfit hnames hnew, Reloads]
  simp

def registeredSome : Registered where
  states := [⟨"DAEMON_RUNNING", .isUp⟩]
  states_names := by decide
  stypes := [⟨"daemon"⟩]
  ptypes := [⟨"daemon", true⟩]
  optionDb := [⟨"pid_file", .string⟩, ⟨"env", .variableString⟩]

def runningDaemon (processes : List ProcessH) (data : List DataEntry) : SavedService where
  name := "daemon/a"
  currentState := ⟨"DAEMON_RUNNING", .isUp⟩
  type := some ⟨"daemon"⟩
  timeCurrentState := ⟨100, 0⟩
  processes := processes
  data := data

theorem reloads_iff_oneEntry :
    Reloads registeredSome [runningDaemon [] [⟨⟨"env", .variableString⟩, some "HOME", some "/"⟩]] :=
  (reloads_iff registeredSome _ (by decide) (by
    intro a ha
    rw [mem_singleton.mp ha]
    refine ⟨by decide, by decide, by decide, ⟨⟨"daemon"⟩, by decide, rfl, by decide⟩, by decide,
      by simp [runningDaemon], by simp [runningDaemon, maxEntrysForService], ?_⟩
    intro d hd
    rw [mem_singleton.mp hd]
    refine ⟨by decide, by decide, ?_, ?_⟩
    · rintro vn ⟨⟩
      decide
    · rintro x ⟨⟩
      decide)).mpr (by
    intro a ha
    rw [mem_singleton.mp ha]
    refine ⟨?_, rfl, rfl, ?_⟩
    · rintro type ⟨⟩
      decide
    · intro d hd
      rw [mem_singleton.mp hd]
      exact ⟨by decide, by decide, by decide, by simp [EDt.ValueKept]⟩)

def mainProcess : ProcessH := (processDbNew ⟨"daemon", true⟩).fork [(5, 6)] 100

theorem reload_adds_pipe :
    ¬ ∀ (r : Registered) (db : List SavedService), (db.map SavedService.name).Nodup →
      (∀ a ∈ db, a.Fits r) → Reloads r db := by
  intro h
  have hreload := h registeredSome [runningDaemon [mainProcess] []] (by decide) (by
    intro a ha
    rw [mem_singleton.mp ha]
    refine ⟨by decide, by decide, by decide, ⟨⟨"daemon"⟩, by decide, rfl, by decide⟩, by decide,
      ?_, by simp [runningDaemon], by simp [runningDaemon]⟩
    intro p hp
    rw [mem_singleton.mp hp]
    exact ⟨by decide, by decide, by decide, by decide, by decide⟩)
  obtain ⟨success, file, hwrite, hsame⟩ := hreload
  obtain ⟨b, l, hb, -, hread⟩ := forall₂_cons_left_iff.mp hsame
  have hpipes : ((writeFile [runningDaemon [mainProcess] []]).map fun w =>
      (readFile registeredSome w.2 []).2.map fun a => a.live.map fun p => p.pipes.length) =
      some [[2]] := by
    decide +kernel
  rw [hwrite, map_some, hread, map_cons, hb.live] at hpipes
  exact absurd (cons.inj (some.inj hpipes)).1 (by decide)

end Initng
