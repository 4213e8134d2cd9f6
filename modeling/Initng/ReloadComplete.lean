import Initng.ReloadDump
import Mathlib.Data.List.TakeWhile

namespace Initng

open List Option

def PipeH.activeTargets (pipe : PipeH) : List Int :=
  (pipe.targets.take maxTargets).takeWhile fun target => target > 0

structure RPipe.Holds (row : RPipe) (p : PipeH) : Prop where
  pipe : row.pipe = p.pipe
  dir : row.dir = p.dir
  targets : ∃ k, row.targets = p.activeTargets ++ replicate k 0

structure RProcess.Holds (row : RProcess) (p : ProcessH) : Prop where
  ptype : row.ptype = p.pt.name
  pid : row.pid = p.pid
  rcode : row.rcode = p.rCode
  pipes : List.Forall₂ RPipe.Holds (row.pipes.take p.pipes.length) p.pipes

def EDt.ValueHeld : (type : EDt) → type.Value → RValue → Prop
  | .string, (s : Option String), v | .strings, (s : Option String), v
  | .variableString, (s : Option String), v | .variableStrings, (s : Option String), v =>
    ∃ x, s = some x ∧ v = .s x
  | .int, (i : Int), v | .variableInt, (i : Int), v
  | .timeT, (i : Int), v | .variableTimeT, (i : Int), v => v = .i i
  | .uDT, _, _ | .set, _, _ | .alias, _, _ | .variableSet, _, _ => True

structure RDataEntry.Holds (row : RDataEntry) (d : DataEntry) : Prop where
  type : row.type = d.type.name
  optType : row.optType = d.type.type
  vn : d.type.type.isVariable → d.vn = some row.vn
  value : d.type.type.ValueHeld d.t row.t

/-- The record holds the service: its processes that are not freed, with all their pipes and
targets, and all of its data. -/
structure DataSaveStruct.Holds (entry : DataSaveStruct) (a : DumpService) : Prop where
  name : entry.name = a.name
  state : ∃ state, a.currentState = some state ∧ entry.state = state.name
  type : entry.type = (a.type.map Stype.name).getD ""
  time : entry.timeCurrentState = a.timeCurrentState
  processes : ∀ p ∈ a.processes, p.pst = .pActive → ∃ row ∈ entry.process, row.Holds p
  data : ∀ d ∈ a.data, ∃ e, d = some e ∧ ∃ row ∈ entry.data, row.Holds e

/-- No store is outside of an array, and if the dump succeeds it is complete. -/
def DumpSound (db : List DumpService) (result : Except DumpFault (Bool × List DataSaveStruct)) :
    Prop :=
  result ≠ .error .outside ∧
    ∀ file, result = .ok (true, file) → ∀ a ∈ db, ∃ entry ∈ file, entry.Holds a

def EDt.ValueSaved : (type : EDt) → type.Value → Prop
  | .string, (s : Option String) | .strings, (s : Option String)
  | .variableString, (s : Option String) | .variableStrings, (s : Option String) =>
    ∃ x, s = some x ∧ x.length ≤ maxDataStringLen
  | .timeT, (i : Int) | .variableTimeT, (i : Int) => i = 0
  | .uDT, _ | .set, _ | .int, _ | .alias, _ | .variableSet, _ | .variableInt, _ => True

structure DataEntry.Saved (d : DataEntry) : Prop where
  type : d.type.name.length ≤ maxTypeStringLen
  vn : d.type.type.isVariable → ∃ vn, d.vn = some vn ∧ vn.length ≤ maxDataVnLen
  value : d.type.type.ValueSaved d.t

structure ProcessH.Saved (p : ProcessH) : Prop where
  ptype : p.pt.name.length ≤ maxPtypeStringLen
  targets : ∀ pipe ∈ p.pipes, pipe.activeTargets.length ≤ maxPipeTargets

namespace DumpService

def Recorded (a : DumpService) : Prop :=
  a.currentState ≠ none ∧ a.name.length < maxServiceNameStringLen

def Refused (a : DumpService) : Prop :=
  a.currentState ≠ none ∧
    (maxServiceNameStringLen ≤ a.name.length ∨ maxEntrysForService ≤ a.typed.length)

structure Saved (a : DumpService) : Prop where
  state : ∃ state, a.currentState = some state ∧ state.name.length ≤ maxServiceStateLen
  type : ∀ type, a.type = some type → type.name.length ≤ maxTypeStringLen
  processes : ∀ p ∈ a.processes, p.pst = .pActive → p.Saved
  data : ∀ d ∈ a.data, ∃ e, d = some e ∧ e.Saved

end DumpService

/-- No service that `write_file` comes to has too many processes or pipes; and one is refused or
has a `NULL` string, or nothing of any is cut off. -/
structure DumpFits (db : List DumpService) : Prop where
  bounds : ∀ before a after, db = before ++ a :: after →
    (∀ b ∈ before, b.Recorded → ¬ b.ReadsNull) → a.Recorded → a.InBounds
  saved : (∃ a ∈ db, a.Refused ∨ a.Recorded ∧ a.ReadsNull) ∨ ∀ a ∈ db, a.Saved

variable {α : Type*} {pipe : PipeH} {p : ProcessH} {type : EDt} {t : type.Value} {v : RValue}
  {d : DataEntry} {row : RDataEntry} {a : DumpService} {state : AState} {rows : List RDataEntry}
  {l : List DataEntry} {fails : Option ℕ} {db : List DumpService}

lemma takeWhile_take (p : α → Bool) (n : ℕ) (l : List α) :
    (l.take n).takeWhile p = (l.takeWhile p).take n := by
  induction l generalizing n with
  | nil => simp
  | cons x l ih =>
    cases n with
    | zero => simp
    | succ n => by_cases hx : p x <;> simp [hx, ih]

lemma copyTargets_eq (h : pipe.activeTargets.length ≤ maxPipeTargets) :
    copyTargets pipe.targets = pipe.activeTargets := by
  have hcopy : copyTargets pipe.targets = pipe.activeTargets.take maxPipeTargets := by
    rw [copyTargets, PipeH.activeTargets, takeWhile_take, takeWhile_take, take_take]
    rfl
  rw [hcopy, take_of_length_le h]

lemma processRow_holds (h : p.Saved) : (processRow p).Holds p := by
  refine ⟨strncpy_of_le h.ptype, rfl, rfl, ?_⟩
  have htake : (processRow p).pipes.take p.pipes.length = p.pipes.map pipeRow := by
    show (padTo _ zeroPipe (p.pipes.map pipeRow)).take p.pipes.length = _
    rw [padTo, take_append_of_le_length (by simp), take_of_length_le (by simp)]
  rw [htake, forall₂_map_left_iff, forall₂_same]
  refine fun pipe hpipe => ⟨rfl, rfl, maxPipeTargets + 1 - pipe.activeTargets.length, ?_⟩
  show padTo _ 0 (copyTargets pipe.targets) = _
  rw [copyTargets_eq (h.targets pipe hpipe)]
  rfl

lemma writeValue_held (h : type.ValueSaved t) (hv : writeValue type t = some v) :
    type.ValueHeld t v := by
  cases type with
  | string | strings | variableString | variableStrings =>
    obtain ⟨x, rfl, hx⟩ := h
    have hv : some (RValue.s (strncpy maxDataStringLen x)) = some v := hv
    exact ⟨x, rfl, by rw [← some.inj hv, strncpy_of_le hx]⟩
  | int | variableInt => exact (some.inj hv).symm
  | timeT | variableTimeT =>
    have h : t = (0 : Int) := h
    rw [h]
    exact (some.inj hv).symm
  | uDT | set | «alias» | variableSet => trivial

lemma writeData_eq_some (h : writeData d = some row) :
    ∃ v vn, writeValue d.type.type d.t = some v ∧ writeVn d = some vn ∧
      row = ⟨strncpy maxTypeStringLen d.type.name, d.type.type, vn, v⟩ := by
  simp only [writeData, Option.bind_eq_bind, Option.bind_eq_some_iff, Option.pure_def,
    some.injEq] at h
  obtain ⟨v, hv, vn, hvn, rfl⟩ := h
  exact ⟨v, vn, hv, hvn, rfl⟩

lemma writeData_holds (h : d.Saved) (hrow : writeData d = some row) : row.Holds d := by
  obtain ⟨v, vn, hv, hvn, rfl⟩ := writeData_eq_some hrow
  refine ⟨strncpy_of_le h.type, rfl, fun hvar => ?_, writeValue_held h.value hv⟩
  obtain ⟨x, hx, hlength⟩ := h.vn hvar
  rw [writeVn, if_pos hvar, hx, map_some, strncpy_of_le hlength] at hvn
  rw [hx, hvn]

lemma recordOf_holds (hstate : a.currentState = some state)
    (hname : a.name.length < maxServiceNameStringLen) (hsaved : a.Saved)
    (hlength : a.typed.length < maxEntrysForService)
    (hrows : (a.typed.take maxEntrysForService).mapM writeData = some rows) :
    (recordOf a state rows).Holds a := by
  rw [take_of_length_le (le_of_lt hlength)] at hrows
  refine ⟨strncpy_of_le (le_of_lt hname), ⟨state, hstate, ?_⟩, ?_, rfl, ?_, ?_⟩
  · obtain ⟨state', hstate', hlength⟩ := hsaved.state
    obtain rfl := some.inj (hstate.symm.trans hstate')
    exact strncpy_of_le hlength
  · show (a.type.map _).getD "" = _
    cases htype : a.type with
    | none => rfl
    | some type => exact strncpy_of_le (hsaved.type type htype)
  · intro p hp hactive
    exact ⟨processRow p, mem_append_left _ (mem_map_of_mem hp),
      processRow_holds (hsaved.processes p hp hactive)⟩
  · intro d hd
    obtain ⟨e, rfl, he⟩ := hsaved.data d hd
    have hmem : e ∈ a.typed := mem_filterMap.mpr ⟨some e, hd, rfl⟩
    obtain ⟨row, hrow, hwrite⟩ := (mapM_writeData hrows).2 e hmem
    exact ⟨e, rfl, row, mem_append_left _ hrow, writeData_holds he hwrite⟩

lemma mem_padTo {n : ℕ} {zero x : α} {l : List α} (h : x ∈ padTo n zero l) : x ∈ l ∨ x = zero := by
  rcases mem_append.mp h with h | h
  · exact .inl h
  · exact .inr (eq_of_mem_replicate h)

def TargetsRow (row : RPipe) : Prop :=
  ∃ l, row.targets = padTo (maxPipeTargets + 1) 0 l ∧ l.length ≤ maxPipeTargets ∧ ∀ x ∈ l, x > 0

lemma targetsRow_of_mem (pipes : List PipeH) {row : RPipe}
    (h : row ∈ padTo (maxPipes + 1) zeroPipe (pipes.map pipeRow)) : TargetsRow row := by
  rcases mem_padTo h with h | rfl
  · obtain ⟨pipe, -, rfl⟩ := mem_map.mp h
    refine ⟨copyTargets pipe.targets, rfl, ?_, fun x hx => ?_⟩
    · exact le_trans (takeWhile_sublist _).length_le (length_take_le ..)
    · simpa using mem_takeWhile_imp hx
  · exact ⟨[], rfl, Nat.zero_le _, by simp⟩

lemma RPipe.Holds.length_le {row : RPipe} (h : row.Holds pipe) (hrow : TargetsRow row) :
    pipe.activeTargets.length ≤ maxPipeTargets := by
  obtain ⟨l, hl, hlength, hpos⟩ := hrow
  obtain ⟨k, hk⟩ := h.targets
  have hzeros : ∀ (l : List Int) k, (∀ x ∈ l, x > 0) →
      (l ++ replicate k 0).takeWhile (fun x => x > 0) = l := by
    intro l k hl
    rw [takeWhile_append_of_pos (by simpa using hl)]
    cases k <;> simp
  have hactive : ∀ x ∈ pipe.activeTargets, x > 0 := fun x hx => by
    simpa using mem_takeWhile_imp hx
  have heq := congrArg (takeWhile fun x : Int => x > 0) (hl.symm.trans hk)
  rw [padTo, hzeros l _ hpos, hzeros _ _ hactive] at heq
  rwa [← heq]

lemma exists_of_forall₂ {β : Type*} {R : α → β → Prop} {l : List α} {l' : List β}
    (h : Forall₂ R l l') {b : β} (hb : b ∈ l') : ∃ a ∈ l, R a b := by
  induction h with
  | nil => cases hb
  | cons hab _ ih =>
    rcases mem_cons.mp hb with rfl | hb
    · exact ⟨_, mem_cons_self .., hab⟩
    · obtain ⟨a, ha, hab⟩ := ih hb
      exact ⟨a, mem_cons_of_mem _ ha, hab⟩

lemma RProcess.Holds.saved {ps : List ProcessH} {row : RProcess} (h : row.Holds p)
    (hrow : row ∈ padTo maxProcesses zeroProcess (ps.map processRow)) : p.Saved := by
  have hpipes : row.ptype.length ≤ maxPtypeStringLen ∧ ∀ r ∈ row.pipes, TargetsRow r := by
    rcases mem_padTo hrow with hrow | rfl
    · obtain ⟨q, -, rfl⟩ := mem_map.mp hrow
      exact ⟨length_strncpy_le .., fun r hr => targetsRow_of_mem q.pipes hr⟩
    · exact ⟨Nat.zero_le _, fun r hr => targetsRow_of_mem [] hr⟩
  refine ⟨h.ptype ▸ hpipes.1, fun pipe hpipe => ?_⟩
  obtain ⟨r, hr, hholds⟩ := exists_of_forall₂ h.pipes hpipe
  exact hholds.length_le (hpipes.2 r (mem_of_mem_take hr))

lemma EDt.ValueHeld.saved {t' : type.Value} (hv : writeValue type t = some v)
    (h : type.ValueHeld t' v) : type.ValueSaved t' := by
  cases type with
  | string | strings | variableString | variableStrings =>
    obtain ⟨x, rfl, rfl⟩ := h
    obtain ⟨y, -, hy⟩ := map_eq_some_iff.mp hv
    exact ⟨x, rfl, RValue.s.inj hy ▸ length_strncpy_le ..⟩
  | timeT | variableTimeT =>
    have h : v = .i t' := h
    have hv : some (RValue.i 0) = some v := hv
    rw [h] at hv
    exact (RValue.i.inj (some.inj hv)).symm
  | uDT | set | «alias» | variableSet | int | variableInt => trivial

lemma mem_of_mapM_writeData (h : l.mapM writeData = some rows) (hrow : row ∈ rows) :
    ∃ d, writeData d = some row := by
  induction l generalizing rows with
  | nil =>
    obtain rfl := some.inj h
    cases hrow
  | cons d l ih =>
    simp only [List.mapM_cons, Option.bind_eq_bind, Option.bind_eq_some_iff, Option.pure_def,
      some.injEq] at h
    obtain ⟨row', hwrite, rows, hrows, rfl⟩ := h
    rcases mem_cons.mp hrow with rfl | hrow
    · exact ⟨d, hwrite⟩
    · exact ih hrows hrow

lemma length_writeVn_le {vn : String} (h : writeVn d = some vn) : vn.length ≤ maxDataVnLen := by
  unfold writeVn at h
  split at h
  · obtain ⟨x, -, rfl⟩ := map_eq_some_iff.mp h
    exact length_strncpy_le ..
  · obtain rfl := some.inj h
    exact Nat.zero_le _

lemma RDataEntry.Holds.saved {e : DataEntry} (hrows : l.mapM writeData = some rows)
    (h : row.Holds e) (hrow : row ∈ padTo (maxEntrysForService + 1) zeroData rows) : e.Saved := by
  obtain ⟨⟨name, type⟩, vn, t⟩ := e
  obtain ⟨hname, htype, hvn, hvalue⟩ := h
  dsimp only at hname htype hvn hvalue
  rcases mem_padTo hrow with hrow | rfl
  · obtain ⟨d, hwrite⟩ := mem_of_mapM_writeData hrows hrow
    obtain ⟨v, vn', hv, hvn', rfl⟩ := writeData_eq_some hwrite
    obtain rfl : d.type.type = type := htype
    refine ⟨?_, fun hvar => ⟨vn', hvn hvar, length_writeVn_le hvn'⟩, hvalue.saved hv⟩
    exact hname ▸ length_strncpy_le ..
  · obtain rfl : EDt.uDT = type := htype
    refine ⟨?_, fun hvar => Bool.noConfusion hvar, trivial⟩
    exact hname ▸ Nat.zero_le _

lemma DataSaveStruct.Holds.saved {b : DumpService} (hrows : l.mapM writeData = some rows)
    (h : (recordOf b state rows).Holds a) : a.Saved := by
  refine ⟨?_, fun type htype => ?_, fun p hp hactive => ?_, fun d hd => ?_⟩
  · obtain ⟨state', hstate', hname⟩ := h.state
    exact ⟨state', hstate', hname ▸ length_strncpy_le ..⟩
  · have heq := h.type
    rw [htype] at heq
    have heq : (b.type.map fun type => strncpy maxTypeStringLen type.name).getD "" =
        type.name := heq
    rw [← heq]
    cases b.type with
    | none => exact Nat.zero_le _
    | some type => exact length_strncpy_le ..
  · obtain ⟨row, hrow, hholds⟩ := h.processes p hp hactive
    exact hholds.saved hrow
  · obtain ⟨e, rfl, row, hrow, hholds⟩ := h.data d hd
    exact ⟨e, rfl, hholds.saved hrows hrow⟩

section
variable {fails : Option ℕ} {a : DumpService} {rest : List DumpService}

lemma dumpServices_noState (h : a.currentState = none) :
    dumpServices fails (a :: rest) = dumpServices fails rest := by
  rw [dumpServices, h]

lemma dumpServices_longName (h : a.currentState ≠ none)
    (hname : maxServiceNameStringLen ≤ a.name.length) :
    dumpServices fails (a :: rest) = (dumpServices fails rest).map fun x => (false, x.2) := by
  obtain ⟨state, hstate⟩ := ne_none_iff_exists'.mp h
  rw [dumpServices, hstate]
  simp only [ge_iff_le, if_pos hname]
  cases dumpServices fails rest <;> rfl

lemma dumpServices_fault (h : a.Recorded) {fault : DumpFault}
    (hentry : ∀ state, dumpEntry a state = .error fault) :
    dumpServices fails (a :: rest) = .error fault := by
  obtain ⟨state, hstate⟩ := ne_none_iff_exists'.mp h.1
  rw [dumpServices, hstate]
  simp only [ge_iff_le, if_neg (not_le.mpr h.2), hentry]
  rfl

lemma dumpServices_record (h : a.Recorded) (hbounds : a.InBounds) (hnull : ¬ a.ReadsNull)
    (fails : Option ℕ) (rest : List DumpService) :
    ∃ state rows, a.currentState = some state ∧
      (a.typed.take maxEntrysForService).mapM writeData = some rows ∧
      dumpServices fails (a :: rest) =
        if fails = some 0 then .ok (false, [])
        else (dumpServices (fails.map (· - 1)) rest).map fun x =>
          (x.1 && decide (a.typed.length < maxEntrysForService), recordOf a state rows :: x.2) := by
  obtain ⟨state, hstate⟩ := ne_none_iff_exists'.mp h.1
  obtain ⟨rows, hrows⟩ := ne_none_iff_exists'.mp fun hc => hnull (readsNull_iff.mpr hc)
  refine ⟨state, rows, hstate, hrows, ?_⟩
  rw [dumpServices, hstate]
  simp only [ge_iff_le, if_neg (not_le.mpr h.2), dumpEntry_inBounds hbounds, hrows]
  match fails with
  | some 0 => rfl
  | some (n + 1) =>
    rw [if_neg (by simp)]
    show (dumpServices (some n) rest >>= _) = _
    simp only [map_some, Nat.add_sub_cancel]
    cases dumpServices (some n) rest <;> rfl
  | none =>
    rw [if_neg (by simp)]
    show (dumpServices none rest >>= _) = _
    simp only [map_none]
    cases dumpServices none rest <;> rfl

lemma error_of_map {α β ε : Type} {x : Except ε α} {f : α → β} {e : ε}
    (h : x.map f = .error e) : x = .error e := by
  cases x <;> cases h
  rfl

lemma ok_of_map {α β ε : Type} {x : Except ε α} {f : α → β} {b : β} (h : x.map f = .ok b) :
    ∃ a, x = .ok a ∧ f a = b := by
  cases x <;> cases h
  exact ⟨_, rfl, rfl⟩

lemma DumpService.cases (a : DumpService) :
    a.currentState = none ∨
      (a.currentState ≠ none ∧ maxServiceNameStringLen ≤ a.name.length) ∨ a.Recorded := by
  by_cases hstate : a.currentState = none
  · exact .inl hstate
  · rcases Nat.lt_or_ge a.name.length maxServiceNameStringLen with hname | hname
    · exact .inr (.inr ⟨hstate, hname⟩)
    · exact .inr (.inl ⟨hstate, hname⟩)

end

def MeetsOutside (db : List DumpService) : Prop :=
  ∃ before a after, db = before ++ a :: after ∧ (∀ b ∈ before, b.Recorded → ¬ b.ReadsNull) ∧
    a.Recorded ∧ ¬ a.InBounds

lemma MeetsOutside.cons {rest : List DumpService} (h : MeetsOutside rest)
    (ha : a.Recorded → ¬ a.ReadsNull) : MeetsOutside (a :: rest) := by
  obtain ⟨before, b, after, rfl, hbefore, hb⟩ := h
  exact ⟨a :: before, b, after, rfl, forall_mem_cons.mpr ⟨ha, hbefore⟩, hb⟩

lemma meetsOutside_of_error (h : dumpServices fails db = .error .outside) : MeetsOutside db := by
  induction db generalizing fails with
  | nil => cases h
  | cons a rest ih =>
    rcases a.cases with hstate | ⟨hstate, hname⟩ | hrec
    · rw [dumpServices_noState hstate] at h
      exact (ih h).cons fun hrec => absurd hstate hrec.1
    · rw [dumpServices_longName hstate hname] at h
      exact (ih (error_of_map h)).cons fun hrec => absurd hrec.2 (not_lt.mpr hname)
    by_cases hbounds : a.InBounds
    swap
    · exact ⟨[], a, rest, rfl, by simp, hrec, hbounds⟩
    by_cases hnull : a.ReadsNull
    · rw [dumpServices_fault hrec fun _ => dumpEntry_nullRead hbounds hnull] at h
      cases h
    obtain ⟨state, rows, -, -, heq⟩ := dumpServices_record hrec hbounds hnull fails rest
    rw [heq] at h
    split at h
    · cases h
    exact (ih (error_of_map h)).cons fun _ => hnull

lemma MeetsOutside.error (h : MeetsOutside db) : dumpServices none db = .error .outside := by
  obtain ⟨before, a, after, rfl, hbefore, hrec, hbounds⟩ := h
  induction before with
  | nil => exact dumpServices_fault hrec fun _ => dumpEntry_outside hbounds
  | cons b before ih =>
    obtain ⟨hb, hbefore⟩ := forall_mem_cons.mp hbefore
    have hrest := ih hbefore
    rw [cons_append]
    rcases b.cases with hstate | ⟨hstate, hname⟩ | hbrec
    · rw [dumpServices_noState hstate, hrest]
    · rw [dumpServices_longName hstate hname, hrest]
      rfl
    by_cases hbb : b.InBounds
    · obtain ⟨state, rows, -, -, heq⟩ := dumpServices_record hbrec hbb (hb hbrec) none
        (before ++ a :: after)
      rw [heq, if_neg (by simp), map_none, hrest]
      rfl
    · exact dumpServices_fault hbrec fun _ => dumpEntry_outside hbb

structure Dumped (db : List DumpService) (file : List DataSaveStruct) : Prop where
  accepted : ∀ a ∈ db, ¬ (a.Refused ∨ a.Recorded ∧ a.ReadsNull)
  written : ∀ a ∈ db, a.currentState ≠ none → ∃ state rows, a.currentState = some state ∧
    (a.typed.take maxEntrysForService).mapM writeData = some rows ∧ recordOf a state rows ∈ file
  records : ∀ entry ∈ file, ∃ b state rows, ∃ l : List DataEntry,
    l.mapM writeData = some rows ∧ entry = recordOf b state rows

lemma dumped_of_true {file : List DataSaveStruct} (h : dumpServices fails db = .ok (true, file)) :
    Dumped db file := by
  induction db generalizing fails file with
  | nil =>
    obtain rfl := (Prod.mk.inj (Except.ok.inj h)).2
    exact ⟨by simp, by simp, by simp⟩
  | cons a rest ih =>
    rcases a.cases with hstate | ⟨hstate, hname⟩ | hrec
    · rw [dumpServices_noState hstate] at h
      obtain ⟨haccepted, hwritten, hrecords⟩ := ih h
      refine ⟨forall_mem_cons.mpr ⟨?_, haccepted⟩,
        forall_mem_cons.mpr ⟨fun hne => absurd hstate hne, hwritten⟩, hrecords⟩
      rintro (href | ⟨hrec, -⟩)
      · exact href.1 hstate
      · exact hrec.1 hstate
    · rw [dumpServices_longName hstate hname] at h
      obtain ⟨x, -, hx⟩ := ok_of_map h
      cases hx
    by_cases hbounds : a.InBounds
    swap
    · rw [dumpServices_fault hrec fun _ => dumpEntry_outside hbounds] at h
      cases h
    by_cases hnull : a.ReadsNull
    · rw [dumpServices_fault hrec fun _ => dumpEntry_nullRead hbounds hnull] at h
      cases h
    obtain ⟨state, rows, hstate, hrows, heq⟩ := dumpServices_record hrec hbounds hnull fails rest
    rw [heq] at h
    split at h
    · cases h
    obtain ⟨⟨success, file'⟩, hrest, hfile⟩ := ok_of_map h
    obtain ⟨hsuccess, rfl⟩ := Prod.mk.inj hfile
    obtain ⟨rfl, hlength⟩ := Bool.and_eq_true_iff.mp hsuccess
    obtain ⟨haccepted, hwritten, hrecords⟩ := ih hrest
    refine ⟨forall_mem_cons.mpr ⟨?_, haccepted⟩, forall_mem_cons.mpr ⟨?_, ?_⟩,
      forall_mem_cons.mpr ⟨⟨a, state, rows, _, hrows, rfl⟩, hrecords⟩⟩
    · rintro (⟨-, hlong | hmany⟩ | ⟨-, hreads⟩)
      · exact not_le.mpr hrec.2 hlong
      · exact not_le.mpr (of_decide_eq_true hlength) hmany
      · exact hnull hreads
    · exact fun _ => ⟨state, rows, hstate, hrows, mem_cons_self ..⟩
    · intro b hb hne
      obtain ⟨state', rows', hstate', hrows', hmem⟩ := hwritten b hb hne
      exact ⟨state', rows', hstate', hrows', mem_cons_of_mem _ hmem⟩

lemma exists_dumpServices (hbounds : ¬ MeetsOutside db)
    (haccepted : ∀ a ∈ db, ¬ (a.Refused ∨ a.Recorded ∧ a.ReadsNull)) :
    ∃ file, dumpServices none db = .ok (true, file) := by
  induction db with
  | nil => exact ⟨[], rfl⟩
  | cons a rest ih =>
    obtain ⟨ha, hrest⟩ := forall_mem_cons.mp haccepted
    have hnull : a.Recorded → ¬ a.ReadsNull := fun hrec hreads => ha (.inr ⟨hrec, hreads⟩)
    obtain ⟨file, hfile⟩ := ih (fun hmeets => hbounds (hmeets.cons hnull)) hrest
    rcases a.cases with hstate | hlong | hrec
    · exact ⟨file, (dumpServices_noState hstate).trans hfile⟩
    · exact absurd (.inl ⟨hlong.1, .inl hlong.2⟩) ha
    have hin : a.InBounds := by
      by_contra hout
      exact hbounds ⟨[], a, rest, rfl, by simp, hrec, hout⟩
    have hlength : a.typed.length < maxEntrysForService := by
      by_contra hmany
      exact ha (.inl ⟨hrec.1, .inr (Nat.le_of_not_lt hmany)⟩)
    obtain ⟨state, rows, -, -, heq⟩ := dumpServices_record hrec hin (hnull hrec) none rest
    refine ⟨recordOf a state rows :: file, ?_⟩
    rw [heq, if_neg (by simp), map_none, hfile]
    simp [Except.map, hlength]

/-- `write_file` stays inside its record and says when it has left something out, exactly for
these services. -/
theorem dump_sound_iff (db : List DumpService) :
    (∀ opened fails, DumpSound db (dumpFile opened fails db)) ↔ DumpFits db := by
  have hmeets : ¬ MeetsOutside db ↔ ∀ before a after, db = before ++ a :: after →
      (∀ b ∈ before, b.Recorded → ¬ b.ReadsNull) → a.Recorded → a.InBounds := by
    constructor
    · intro h before a after hdb hbefore hrec
      by_contra hout
      exact h ⟨before, a, after, hdb, hbefore, hrec, hout⟩
    · rintro h ⟨before, a, after, hdb, hbefore, hrec, hout⟩
      exact hout (h before a after hdb hbefore hrec)
  constructor
  · intro h
    obtain ⟨hinside, hcomplete⟩ := h true none
    have hnot : ¬ MeetsOutside db := fun hm => hinside hm.error
    refine ⟨hmeets.mp hnot, ?_⟩
    by_cases hbad : ∃ a ∈ db, a.Refused ∨ a.Recorded ∧ a.ReadsNull
    · exact .inl hbad
    · -- the dump succeeds, so that every service is held by a record
      obtain ⟨file, hfile⟩ := exists_dumpServices hnot fun a ha hb => hbad ⟨a, ha, hb⟩
      refine .inr fun a ha => ?_
      obtain ⟨entry, hentry, hholds⟩ := hcomplete file hfile a ha
      obtain ⟨b, state, rows, l, hrows, rfl⟩ := (dumped_of_true hfile).records entry hentry
      exact hholds.saved hrows
  · rintro ⟨hbounds, hsaved⟩ opened fails
    cases opened with
    | false => exact ⟨by simp [dumpFile], fun file hfile => by simp [dumpFile] at hfile⟩
    | true =>
      refine ⟨fun h => hmeets.mpr hbounds (meetsOutside_of_error h), fun file hfile a ha => ?_⟩
      obtain ⟨haccepted, hwritten, -⟩ := dumped_of_true hfile
      have hall : ∀ a ∈ db, a.Saved := hsaved.resolve_left fun ⟨a, ha, hb⟩ => haccepted a ha hb
      obtain ⟨state, hstate, -⟩ := (hall a ha).state
      have hne : a.currentState ≠ none := by rw [hstate]; simp
      obtain ⟨state, rows, hstate, hrows, hmem⟩ := hwritten a ha hne
      have hname : a.name.length < maxServiceNameStringLen := by
        by_contra hlong
        exact haccepted a ha (.inl ⟨hne, .inl (Nat.le_of_not_lt hlong)⟩)
      have hlength : a.typed.length < maxEntrysForService := by
        by_contra hmany
        exact haccepted a ha (.inl ⟨hne, .inr (Nat.le_of_not_lt hmany)⟩)
      exact ⟨_, hmem, recordOf_holds hstate hname (hall a ha) hlength hrows⟩

def upService (processes : List ProcessH) (data : List (Option DataEntry)) : DumpService :=
  ⟨"daemon/a", some ⟨"DAEMON_RUNNING", .isUp⟩, some ⟨"daemon"⟩, ⟨100, 0⟩, processes, data⟩

def longString : DataEntry := ⟨⟨"env", .string⟩, none, some (String.ofList (replicate 201 'x'))⟩

/-- Six processes of one service: the row behind the last one is set, and there is none.  And a
long string, which is cut off while the dump succeeds. -/
theorem dump_not_always_sound :
    dumpFile true none [upService (replicate 6 mainProcess) []] = .error .outside ∧
    ∃ file, dumpFile true none [upService [] [some longString]] = .ok (true, file) ∧
      ¬ ∃ entry ∈ file, entry.Holds (upService [] [some longString]) := by
  constructor
  · have hrec : (upService (replicate 6 mainProcess) []).Recorded :=
      ⟨by simp [upService], by decide⟩
    have hout : ¬ (upService (replicate 6 mainProcess) []).InBounds :=
      fun h => absurd h.processes (by decide)
    show dumpServices none [upService (replicate 6 mainProcess) []] = _
    exact dumpServices_fault hrec fun _ => dumpEntry_outside hout
  · have hbounds : ¬ MeetsOutside [upService [] [some longString]] := fun hm => by
      obtain ⟨before, a, after, hdb, -, -, hout⟩ := hm
      have ha : a ∈ [upService [] [some longString]] := by simp [hdb]
      rw [mem_singleton.mp ha] at hout
      exact hout ⟨by decide, by simp [upService]⟩
    have haccepted : ∀ a ∈ [upService [] [some longString]],
        ¬ (a.Refused ∨ a.Recorded ∧ a.ReadsNull) := by
      intro a ha
      rw [mem_singleton.mp ha]
      rintro (⟨-, hname | hmany⟩ | ⟨-, d, hd, hnull⟩)
      · revert hname
        decide
      · revert hmany
        decide
      · rw [mem_singleton.mp hd] at hnull
        rcases hnull with hnull | ⟨hvar, -⟩
        · cases hnull
        · cases hvar
    obtain ⟨file, hfile⟩ := exists_dumpServices hbounds haccepted
    refine ⟨file, hfile, fun ⟨entry, hentry, hholds⟩ => ?_⟩
    obtain ⟨b, state, rows, l, hrows, rfl⟩ := (dumped_of_true hfile).records entry hentry
    obtain ⟨e, he, hsaved⟩ := (hholds.saved hrows).data (some longString) (mem_singleton.mpr rfl)
    obtain rfl := some.inj he
    obtain ⟨x, hx, hlength⟩ := hsaved.value
    obtain rfl := some.inj hx
    rw [String.length_ofList, length_replicate] at hlength
    exact absurd hlength (by decide)

end Initng
