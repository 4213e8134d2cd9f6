import Initng.ReloadRoundTrip

namespace Initng

open List

def maxTargets : ℕ := 10

/-- What `active_type` holds of a service, in the order of the walks.  `none` in the data is an
entry without a type, or whose type has no name. -/
structure DumpService where
  name : String
  currentState : Option AState
  type : Option Stype
  timeCurrentState : Timeval
  processes : List ProcessH
  data : List (Option DataEntry)

inductive DumpFault
  | outside
  | nullRead
  deriving DecidableEq

section
variable {α : Type*}

def store (rows : List α) (i : ℕ) (row : α) : Except DumpFault (List α) :=
  if i < rows.length then .ok (rows.set i row) else .error .outside

def padTo (n : ℕ) (zero : α) (l : List α) : List α := l ++ replicate (n - l.length) zero

end

def zeroPipe : RPipe := ⟨(0, 0), .unknownPipe, replicate (maxPipeTargets + 1) 0⟩

def zeroProcess : RProcess := ⟨"", replicate (maxPipes + 1) zeroPipe, 0, 0⟩

def zeroData : RDataEntry := ⟨"", .uDT, "", .i 0⟩

def dumpTargets : List Int → ℕ → List Int → Except DumpFault (List Int)
  | [], _, row => .ok row
  | target :: targets, i, row =>
    if i < maxTargets ∧ i < maxPipeTargets ∧ target > 0 then do
      let row ← store row i target
      dumpTargets targets (i + 1) row
    else .ok row

def dumpPipes : List PipeH → ℕ → List RPipe → Except DumpFault (List RPipe)
  | [], _, rows => .ok rows
  | pipe :: pipes, p, rows => do
    let targets ← dumpTargets pipe.targets 0 zeroPipe.targets
    let rows ← store rows p ⟨pipe.pipe, pipe.dir, targets⟩
    dumpPipes pipes (p + 1) rows

def dumpProcesses : List ProcessH → ℕ → List RProcess → Except DumpFault (ℕ × List RProcess)
  | [], pnr, rows => .ok (pnr, rows)
  | process :: processes, pnr, rows => do
    let pipes ← dumpPipes process.pipes 0 zeroProcess.pipes
    let rows ← store rows pnr
      ⟨strncpy maxPtypeStringLen process.pt.name, pipes, process.pid, process.rCode⟩
    if pnr + 1 ≥ maxProcesses then .ok (pnr + 1, rows)
    else dumpProcesses processes (pnr + 1) rows

def endProcesses (pnr : ℕ) (rows : List RProcess) : Except DumpFault (List RProcess) :=
  match rows[pnr]? with
  | none => .error .outside
  | some row => store rows pnr { row with ptype := "" }

def dumpDatas : List (Option DataEntry) → ℕ → List RDataEntry →
    Except DumpFault (Bool × List RDataEntry)
  | [], _, rows => .ok (true, rows)
  | none :: data, i, rows => dumpDatas data i rows
  | some d :: data, i, rows =>
    match writeData d with
    | none => .error .nullRead
    | some row => do
      let rows ← store rows i row
      if i + 1 = maxEntrysForService then .ok (false, rows)
      else dumpDatas data (i + 1) rows

def dumpEntry (current : DumpService) (state : AState) :
    Except DumpFault (Bool × DataSaveStruct) := do
  let (pnr, process) ← dumpProcesses current.processes 0 (replicate maxProcesses zeroProcess)
  let process ← endProcesses pnr process
  let (fit, data) ← dumpDatas current.data 0 (replicate (maxEntrysForService + 1) zeroData)
  return (fit, {
    name := strncpy maxServiceNameStringLen current.name
    type := (current.type.map fun type => strncpy maxTypeStringLen type.name).getD ""
    state := strncpy maxServiceStateLen state.name
    timeCurrentState := current.timeCurrentState
    process := process
    data := data })

/-- The walk over the services: if it succeeded, and the file.  `fails` says how many records
are written before `fwrite` fails, if it does. -/
def dumpServices : Option ℕ → List DumpService → Except DumpFault (Bool × List DataSaveStruct)
  | _, [] => .ok (true, [])
  | fails, current :: rest =>
    match current.currentState with
    -- "State is not set, wont save this one!"
    | none => dumpServices fails rest
    | some state =>
      if current.name.length ≥ maxServiceNameStringLen then do
        let (_, file) ← dumpServices fails rest
        return (false, file)
      else do
        let (fit, entry) ← dumpEntry current state
        match fails with
        | some 0 => return (false, [])
        | fails => do
          let (success, file) ← dumpServices (fails.map (· - 1)) rest
          return (success && fit, entry :: file)

def dumpFile (opened : Bool) (fails : Option ℕ) (db : List DumpService) :
    Except DumpFault (Bool × List DataSaveStruct) :=
  if opened then dumpServices fails db else .ok (false, [])

def EDt.ValueNull : (type : EDt) → type.Value → Prop
  | .string, (s : Option String) | .strings, (s : Option String)
  | .variableString, (s : Option String) | .variableStrings, (s : Option String) => s = none
  | .uDT, _ | .set, _ | .int, _ | .alias, _ | .timeT, _
  | .variableSet, _ | .variableInt, _ | .variableTimeT, _ => False

def DataEntry.HasNull (d : DataEntry) : Prop :=
  d.type.type.ValueNull d.t ∨ d.type.type.isVariable ∧ d.vn = none

namespace DumpService

def typed (a : DumpService) : List DataEntry := a.data.filterMap id

structure InBounds (a : DumpService) : Prop where
  processes : a.processes.length < maxProcesses
  pipes : ∀ p ∈ a.processes, p.pipes.length ≤ maxPipes + 1

def ReadsNull (a : DumpService) : Prop := ∃ d ∈ a.typed.take maxEntrysForService, d.HasNull

end DumpService

section
variable {α : Type*} {n : ℕ} {zero : α} {l : List α}

lemma length_padTo (h : l.length ≤ n) : (padTo n zero l).length = n := by
  rw [padTo, length_append, length_replicate]
  omega

lemma padTo_nil : padTo n zero [] = replicate n zero := rfl

lemma store_padTo (h : l.length ≤ n) (row : α) :
    store (padTo n zero l) l.length row =
      if l.length < n then .ok (padTo n zero (l ++ [row])) else .error .outside := by
  rw [store, length_padTo h]
  split
  next hlt =>
    obtain ⟨k, hk⟩ : ∃ k, n - l.length = k + 1 := ⟨n - l.length - 1, by omega⟩
    have hk' : n - (l ++ [row]).length = k := by
      rw [length_append, length_singleton]
      omega
    rw [padTo, padTo, hk, hk', replicate_succ, set_append_right _ _ (Nat.le_refl _),
      Nat.sub_self, set_cons_zero, append_assoc]
    rfl
  next => rfl

lemma getElem?_padTo (h : l.length < n) : (padTo n zero l)[l.length]? = some zero := by
  rw [padTo, getElem?_append_right (Nat.le_refl _), Nat.sub_self, getElem?_replicate,
    if_pos (by omega)]

lemma padTo_concat_zero (h : l.length < n) : padTo n zero (l ++ [zero]) = padTo n zero l := by
  obtain ⟨k, hk⟩ : ∃ k, n - l.length = k + 1 := ⟨n - l.length - 1, by omega⟩
  have hk' : n - (l ++ [zero]).length = k := by
    rw [length_append, length_singleton]
    omega
  rw [padTo, padTo, hk, hk', append_assoc, replicate_succ]
  rfl

end

lemma dumpTargets_eq (targets pre : List Int) (h : pre.length ≤ maxPipeTargets) :
    dumpTargets targets pre.length (padTo (maxPipeTargets + 1) 0 pre) =
      .ok (padTo (maxPipeTargets + 1) 0 (pre ++
        (targets.take (maxPipeTargets - pre.length)).takeWhile fun target => target > 0)) := by
  induction targets generalizing pre with
  | nil => simp [dumpTargets]
  | cons target targets ih =>
    rw [dumpTargets]
    by_cases hi : pre.length < maxPipeTargets
    · have hmax : pre.length < maxTargets := Nat.lt_trans hi (by decide)
      obtain ⟨k, hk⟩ : ∃ k, maxPipeTargets - pre.length = k + 1 :=
        ⟨maxPipeTargets - pre.length - 1, by omega⟩
      have hlength : (pre ++ [target]).length = pre.length + 1 := by simp
      have hk' : maxPipeTargets - (pre ++ [target]).length = k := by omega
      by_cases hpos : target > 0
      · have hnext := ih (pre ++ [target]) (by omega)
        rw [if_pos ⟨hmax, hi, hpos⟩, store_padTo (by omega), if_pos (by omega)]
        show dumpTargets targets (pre.length + 1) _ = _
        rw [← hlength, hnext, hk, hk', take_succ_cons, takeWhile_cons_of_pos (by simpa),
          append_assoc]
        rfl
      · rw [if_neg fun hc => hpos hc.2.2, hk, take_succ_cons,
          takeWhile_cons_of_neg (by simpa using hpos), append_nil]
    · have hzero : maxPipeTargets - pre.length = 0 := by omega
      rw [if_neg fun hc => hi hc.2.1, hzero, take_zero, takeWhile_nil, append_nil]

def pipeRow (pipe : PipeH) : RPipe :=
  ⟨pipe.pipe, pipe.dir, padTo (maxPipeTargets + 1) 0 (copyTargets pipe.targets)⟩

lemma dumpPipes_eq (pipes : List PipeH) (pre : List RPipe) (h : pre.length ≤ maxPipes + 1) :
    dumpPipes pipes pre.length (padTo (maxPipes + 1) zeroPipe pre) =
      if pre.length + pipes.length ≤ maxPipes + 1 then
        .ok (padTo (maxPipes + 1) zeroPipe (pre ++ pipes.map pipeRow))
      else .error .outside := by
  induction pipes generalizing pre with
  | nil =>
    rw [if_pos (by simpa using h), map_nil, append_nil]
    rfl
  | cons pipe pipes ih =>
    have htargets : dumpTargets pipe.targets 0 zeroPipe.targets =
        .ok (padTo (maxPipeTargets + 1) 0 (copyTargets pipe.targets)) :=
      dumpTargets_eq pipe.targets [] (Nat.zero_le _)
    rw [dumpPipes, htargets]
    show (store _ pre.length (pipeRow pipe) >>= _) = _
    rw [store_padTo h]
    by_cases hlt : pre.length < maxPipes + 1
    · have hlength : (pre ++ [pipeRow pipe]).length = pre.length + 1 := by simp
      rw [if_pos hlt]
      show dumpPipes pipes (pre.length + 1) _ = _
      rw [← hlength, ih _ (by omega), hlength, append_assoc, length_cons,
        Nat.add_assoc, Nat.add_comm 1]
      rfl
    · rw [if_neg hlt, length_cons, if_neg (by omega)]
      rfl

def processRow (p : ProcessH) : RProcess :=
  ⟨strncpy maxPtypeStringLen p.pt.name, padTo (maxPipes + 1) zeroPipe (p.pipes.map pipeRow), p.pid,
    p.rCode⟩

lemma dumpProcesses_eq (ps : List ProcessH) (pre : List RProcess)
    (h : pre.length < maxProcesses) :
    dumpProcesses ps pre.length (padTo maxProcesses zeroProcess pre) =
      if ∀ p ∈ ps.take (maxProcesses - pre.length), p.pipes.length ≤ maxPipes + 1 then
        .ok (pre.length + (ps.take (maxProcesses - pre.length)).length,
          padTo maxProcesses zeroProcess
            (pre ++ (ps.take (maxProcesses - pre.length)).map processRow))
      else .error .outside := by
  induction ps generalizing pre with
  | nil => simp [dumpProcesses]
  | cons p ps ih =>
    obtain ⟨k, hk⟩ : ∃ k, maxProcesses - pre.length = k + 1 :=
      ⟨maxProcesses - pre.length - 1, by omega⟩
    have hpipes : dumpPipes p.pipes 0 zeroProcess.pipes =
        if p.pipes.length ≤ maxPipes + 1 then
          .ok (padTo (maxPipes + 1) zeroPipe (p.pipes.map pipeRow))
        else .error .outside := by
      have heq := dumpPipes_eq p.pipes [] (Nat.zero_le _)
      rwa [length_nil, Nat.zero_add, nil_append] at heq
    rw [dumpProcesses, hpipes, hk, take_succ_cons]
    simp only [forall_mem_cons]
    by_cases hp : p.pipes.length ≤ maxPipes + 1
    swap
    · rw [if_neg hp, if_neg fun hc => hp hc.1]
      rfl
    rw [if_pos hp]
    show (store _ pre.length (processRow p) >>= _) = _
    rw [store_padTo (Nat.le_of_lt h), if_pos h]
    show (if pre.length + 1 ≥ maxProcesses then _ else _) = _
    have hlength : (pre ++ [processRow p]).length = pre.length + 1 := by simp
    have hk' : maxProcesses - (pre ++ [processRow p]).length = k := by omega
    by_cases hlast : pre.length + 1 ≥ maxProcesses
    · obtain rfl : k = 0 := by omega
      rw [if_pos hlast, if_pos ⟨hp, by simp⟩]
      rfl
    · have hnext := ih (pre ++ [processRow p]) (by omega)
      rw [hk', hlength, append_assoc] at hnext
      rw [if_neg hlast, hnext]
      simp only [hp, true_and, length_cons, map_cons, Nat.add_assoc, Nat.add_comm 1]
      rfl

lemma endProcesses_eq (ps : List ProcessH) :
    (dumpProcesses ps 0 (replicate maxProcesses zeroProcess) >>= fun x =>
      endProcesses x.1 x.2) =
      if ps.length < maxProcesses ∧ ∀ p ∈ ps, p.pipes.length ≤ maxPipes + 1 then
        .ok (padTo maxProcesses zeroProcess (ps.map processRow))
      else .error .outside := by
  have heq := dumpProcesses_eq ps [] (by decide)
  rw [length_nil, Nat.sub_zero, padTo_nil, Nat.zero_add, nil_append] at heq
  rw [heq]
  by_cases hlt : ps.length < maxProcesses
  · rw [take_of_length_le (Nat.le_of_lt hlt)]
    by_cases hpipes : ∀ p ∈ ps, p.pipes.length ≤ maxPipes + 1
    · rw [if_pos hpipes, if_pos ⟨hlt, hpipes⟩]
      have hrows : (ps.map processRow).length < maxProcesses := by rwa [length_map]
      show endProcesses ps.length _ = _
      have hlength : ps.length = (ps.map processRow).length := by rw [length_map]
      rw [endProcesses, hlength, getElem?_padTo hrows]
      show store _ _ zeroProcess = _
      rw [store_padTo (Nat.le_of_lt hrows), if_pos hrows, padTo_concat_zero hrows]
    · rw [if_neg hpipes, if_neg fun hc => hpipes hc.2]
      rfl
  · have hright : ¬ (ps.length < maxProcesses ∧ ∀ p ∈ ps, p.pipes.length ≤ maxPipes + 1) :=
      fun hc => hlt hc.1
    rw [if_neg hright]
    by_cases hpipes : ∀ p ∈ ps.take maxProcesses, p.pipes.length ≤ maxPipes + 1
    · rw [if_pos hpipes]
      have hlength : (ps.take maxProcesses).length = maxProcesses := by
        rw [length_take]
        omega
      have hrows : ((ps.take maxProcesses).map processRow).length = maxProcesses := by
        rw [length_map, hlength]
      show endProcesses (ps.take maxProcesses).length _ = _
      rw [hlength, endProcesses,
        getElem?_eq_none (Nat.le_of_eq (length_padTo (Nat.le_of_eq hrows)))]
    · rw [if_neg hpipes]
      rfl

lemma dumpDatas_eq (data : List (Option DataEntry)) (pre : List RDataEntry)
    (h : pre.length < maxEntrysForService) :
    dumpDatas data pre.length (padTo (maxEntrysForService + 1) zeroData pre) =
      match ((data.filterMap id).take (maxEntrysForService - pre.length)).mapM writeData with
      | none => .error .nullRead
      | some rows => .ok (decide (pre.length + (data.filterMap id).length < maxEntrysForService),
          padTo (maxEntrysForService + 1) zeroData (pre ++ rows)) := by
  induction data generalizing pre with
  | nil => simp [dumpDatas, h]
  | cons d data ih =>
    cases d with
    | none =>
      rw [dumpDatas, ih pre h]
      rfl
    | some d =>
      obtain ⟨k, hk⟩ : ∃ k, maxEntrysForService - pre.length = k + 1 :=
        ⟨maxEntrysForService - pre.length - 1, by omega⟩
      have hcons : (some d :: data).filterMap id = d :: data.filterMap id := rfl
      rw [dumpDatas, hcons, hk, take_succ_cons, mapM_cons]
      cases hrow : writeData d with
      | none => rfl
      | some row =>
        have hlength : (pre ++ [row]).length = pre.length + 1 := by simp
        have hk' : maxEntrysForService - (pre ++ [row]).length = k := by omega
        show (store _ pre.length row >>= _) = _
        rw [store_padTo (by omega), if_pos (by omega)]
        show (if pre.length + 1 = maxEntrysForService then _ else _) = _
        by_cases hlast : pre.length + 1 = maxEntrysForService
        · obtain rfl : k = 0 := by omega
          have hfull : decide (pre.length + (d :: data.filterMap id).length < maxEntrysForService) =
              false := by
            rw [decide_eq_false_iff_not, length_cons]
            omega
          rw [if_pos hlast, hfull]
          rfl
        · rw [if_neg hlast, ← hlength, ih (pre ++ [row]) (by omega), hk', hlength]
          simp only [length_cons, Nat.add_assoc, Nat.add_comm 1]
          cases ((data.filterMap id).take k).mapM writeData with
          | none => rfl
          | some rows =>
            have happend : pre ++ [row] ++ rows = pre ++ row :: rows := append_assoc ..
            simp only [happend]
            rfl

lemma writeValue_eq_none {type : EDt} {t : type.Value} :
    writeValue type t = none ↔ type.ValueNull t := by
  cases type with
  | string | strings | variableString | variableStrings => exact Option.map_eq_none_iff
  | uDT | set | int | «alias» | timeT | variableSet | variableInt | variableTimeT =>
    exact iff_of_false (by simp [writeValue]) id

lemma writeData_eq_none {d : DataEntry} : writeData d = none ↔ d.HasNull := by
  have hvn : writeVn d = none ↔ d.type.type.isVariable ∧ d.vn = none := by
    unfold writeVn
    split <;> simp_all
  rw [DataEntry.HasNull, ← writeValue_eq_none, ← hvn, writeData]
  cases writeValue d.type.type d.t with
  | none => simp
  | some v => cases writeVn d <;> simp

lemma mapM_writeData_eq_none {l : List DataEntry} :
    l.mapM writeData = none ↔ ∃ d ∈ l, d.HasNull := by
  induction l with
  | nil => simp
  | cons d l ih =>
    rw [mapM_cons, exists_mem_cons_iff, ← ih, ← writeData_eq_none]
    cases writeData d with
    | none => simp
    | some row => cases l.mapM writeData <;> simp

def recordOf (a : DumpService) (state : AState) (rows : List RDataEntry) : DataSaveStruct where
  name := strncpy maxServiceNameStringLen a.name
  type := (a.type.map fun type => strncpy maxTypeStringLen type.name).getD ""
  state := strncpy maxServiceStateLen state.name
  timeCurrentState := a.timeCurrentState
  process := padTo maxProcesses zeroProcess (a.processes.map processRow)
  data := padTo (maxEntrysForService + 1) zeroData rows

section
variable {a : DumpService} {state : AState}

lemma dumpEntry_eq (a : DumpService) (state : AState) :
    dumpEntry a state =
      (dumpProcesses a.processes 0 (replicate maxProcesses zeroProcess) >>= fun x =>
        endProcesses x.1 x.2) >>= fun process =>
          (dumpDatas a.data 0 (replicate (maxEntrysForService + 1) zeroData)).map fun x =>
            (x.1, { recordOf a state [] with process := process, data := x.2 }) := by
  unfold dumpEntry
  cases dumpProcesses a.processes 0 (replicate maxProcesses zeroProcess) with
  | error fault => rfl
  | ok x =>
    obtain ⟨pnr, rows⟩ := x
    show (endProcesses pnr rows >>= _) = endProcesses pnr rows >>= _
    cases endProcesses pnr rows with
    | error fault => rfl
    | ok process =>
      show (dumpDatas _ _ _ >>= _) = Except.map _ (dumpDatas _ _ _)
      cases dumpDatas a.data 0 (replicate (maxEntrysForService + 1) zeroData) <;> rfl

lemma dumpEntry_outside (h : ¬ a.InBounds) : dumpEntry a state = .error .outside := by
  rw [dumpEntry_eq, endProcesses_eq, if_neg fun hc => h ⟨hc.1, hc.2⟩]
  rfl

lemma dumpEntry_inBounds (h : a.InBounds) :
    dumpEntry a state =
      match (a.typed.take maxEntrysForService).mapM writeData with
      | none => .error .nullRead
      | some rows =>
        .ok (decide (a.typed.length < maxEntrysForService), recordOf a state rows) := by
  have hdatas := dumpDatas_eq a.data [] (by decide)
  rw [length_nil, Nat.sub_zero, padTo_nil] at hdatas
  rw [dumpEntry_eq, endProcesses_eq, if_pos ⟨h.processes, h.pipes⟩]
  show (dumpDatas a.data 0 _).map _ = _
  rw [hdatas, DumpService.typed]
  simp only [Nat.zero_add, nil_append]
  cases ((a.data.filterMap id).take maxEntrysForService).mapM writeData <;> rfl

lemma readsNull_iff : a.ReadsNull ↔ (a.typed.take maxEntrysForService).mapM writeData = none :=
  mapM_writeData_eq_none.symm

lemma dumpEntry_nullRead (h : a.InBounds) (hnull : a.ReadsNull) :
    dumpEntry a state = .error .nullRead := by
  rw [dumpEntry_inBounds h, readsNull_iff.mp hnull]

end

end Initng
