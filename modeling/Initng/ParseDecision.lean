import Initng.ServiceFile
import Mathlib.Data.List.Find

namespace Initng

open List Option

structure Filed (name : String) (s : Sid) (g : G) : Prop where
  named : (g.svc s).name = name
  found : activeDbFindByName g name = some s
  allocated : ∀ t ∈ g.activeDb, t < g.brk

/-- Whatever happened, a service that is parsed is as before, and one that is not is not parsed
again. -/
def LeavesParse (name : String) (s : Sid) (g g' : G) : Prop :=
  Filed name s g → Filed name s g' ∧ (Parsing g s → g'.svc s = g.svc s) ∧
    (¬ Parsing g s → ¬ Parsing g' s)

/-- The start hooks of the service types change their own service only and put none into the
states of a parsed service, and hooks of `EVENT_NEW_ACTIVE` leave the parsing of services that
exist alone. -/
structure ParseHooks (m : Modules) : Prop where
  own : ∀ {type hook}, m.start type = some hook → ∀ t g, OwnChange t g (hook t g).2
  brk : ∀ {type hook}, m.start type = some hook → ∀ t g, g.brk ≤ (hook t g).2.brk
  past : ∀ {type hook}, m.start type = some hook → ∀ t g, ¬ Parsing g t → ¬ Parsing (hook t g).2 t
  newActive : ∀ hook ∈ m.newActive, ∀ asked st name s, LeavesParse name s st.1 (hook asked st).2.1

section
variable {name : String} {s t : Sid} {g g' g'' : G}

lemma Parsing.congr (h : g'.svc s = g.svc s) : Parsing g' s ↔ Parsing g s := by
  simp only [Parsing, h]

lemma Parsing.isNew (h : Parsing g s) : getState g s = .isNew := by
  rcases h with h | h <;> simp [getState, h, AState.parsing, AState.parsingForStart]

lemma LeavesParse.refl (name : String) (s : Sid) (g : G) : LeavesParse name s g g :=
  fun hf => ⟨hf, fun _ => rfl, id⟩

lemma LeavesParse.trans (h : LeavesParse name s g g') (h' : LeavesParse name s g' g'') :
    LeavesParse name s g g'' := by
  intro hf
  obtain ⟨hf', hsame, hpast⟩ := h hf
  obtain ⟨hf'', hsame', hpast'⟩ := h' hf'
  refine ⟨hf'', fun hp => ?_, fun hp => hpast' (hpast hp)⟩
  have heq := hsame hp
  exact (hsame' ((Parsing.congr heq).mpr hp)).trans heq

lemma Filed.ne {service : String} (hf : Filed name s g)
    (hfind : activeDbFindByName g service = some t) (hne : service ≠ name) : t ≠ s := by
  rintro rfl
  exact hne ((activeDbFindByName_mem hfind).2.symm.trans hf.named)

lemma Filed.ownChange (hf : Filed name s g) (h : OwnChange t g g') (hbrk : g.brk ≤ g'.brk) :
    Filed name s g' where
  named := (h.svc_name s).trans hf.named
  found := by rw [activeDbFindByName_congr h.activeDb h.svc_name, hf.found]
  allocated u hu := by
    rw [h.activeDb] at hu
    exact lt_of_lt_of_le (hf.allocated u hu) hbrk

lemma LeavesParse.ownChange (h : OwnChange t g g') (hbrk : g.brk ≤ g'.brk)
    (hown : t = s → ¬ Parsing g s ∧ ¬ Parsing g' s) : LeavesParse name s g g' := by
  intro hf
  refine ⟨hf.ownChange h hbrk, fun hp => ?_, fun hp => ?_⟩
  · refine h.other s fun hst => ?_
    exact (hown hst.symm).1 hp
  · by_cases hst : t = s
    · exact (hown hst).2
    · rwa [Parsing.congr (h.other s (Ne.symm hst))]

lemma not_parsing_mark {state : AState} (hstate : state ≠ .parsing ∧ state ≠ .parsingForStart)
    (hp : ¬ Parsing g t) : ¬ Parsing (commonMarkService t state g).2 t := by
  rcases commonMarkService_currentState g t state with h | h
  · simpa only [Parsing, h] using hp
  · simp only [Parsing, h, not_or]
    exact hstate

lemma LeavesParse.mark {state : AState} (hstate : state ≠ .parsing ∧ state ≠ .parsingForStart)
    (hp : t = s → ¬ Parsing g s) : LeavesParse name s g (commonMarkService t state g).2 := by
  refine .ownChange (.mark state) (Nat.le_of_eq (commonMarkService_brk ..).symm) ?_
  rintro rfl
  exact ⟨hp rfl, not_parsing_mark hstate (hp rfl)⟩

variable {m : Modules} (hm : ParseHooks m)
include hm

lemma leavesParse_moduleActiveNew (asked : String) (g : G) :
    LeavesParse name s g (moduleActiveNew m asked g).2 := by
  have hsend : LeavesParse name s g
      (eventSend (m.newActive.map fun hook => hook asked) (g, none)).2.1 := by
    refine eventSend_rel (R := fun st st' : G × Option Sid => LeavesParse name s st.1 st'.1)
      (fun st => .refl name s st.1) (fun _ _ _ h h' => h.trans h') (fun f hf st => ?_) (g, none)
    obtain ⟨hook, hmem, rfl⟩ := mem_map.mp hf
    exact hm.newActive hook hmem asked st name s
  unfold moduleActiveNew
  split <;> simp_all only

lemma leavesParse_runStart (hp : t = s → ¬ Parsing g s) :
    LeavesParse name s g (runStart m t g).2 := by
  unfold runStart
  split
  · exact .refl name s g
  next hook hbind =>
    obtain ⟨type, -, hhook⟩ := bind_eq_some_iff.mp hbind
    have hobs : LeavesParse name s g (g.observe (.start t)) := by
      intro hf
      exact ⟨⟨hf.named, hf.found, hf.allocated⟩, fun _ => rfl, id⟩
    refine hobs.trans (.ownChange (hm.own hhook t _) (hm.brk hhook t _) ?_)
    rintro rfl
    exact ⟨hp rfl, hm.past hhook t _ (hp rfl)⟩

lemma leavesParse_dependStartDeps {start : Sid → G → Option (Bool × G)}
    (hstart : ∀ t g r, start t g = some r → LeavesParse name s g r.2) {l : List SData}
    {r : Bool × G} (hf : Filed name s g) (hp : t = s → ¬ Parsing g s)
    (h : dependStartDeps start m t l g = some r) : LeavesParse name s g r.2 := by
  induction l generalizing g with
  | nil =>
    cases h
    exact .refl name s _
  | cons current rest ih =>
    have hnext {g' : G} (hl : LeavesParse name s g g')
        (h : dependStartDeps start m t rest g' = some r) : LeavesParse name s g r.2 := by
      obtain ⟨hf', -, hpast⟩ := hl hf
      exact hl.trans (ih hf' (fun hts => hpast (hp hts)) h)
    have hskip := hnext (.refl name s g)
    rw [dependStartDeps] at h
    split at h
    · exact hskip h
    split at h
    · exact hskip h
    split at h
    · split at h
      · obtain ⟨r', hr', h⟩ := bind_eq_some_iff.mp h
        exact hnext (hstart _ _ _ hr') h
      · exact hskip h
    next hfind =>
      obtain ⟨r', hr', h⟩ := bind_eq_some_iff.mp h
      have hnew : LeavesParse name s g r'.2 := by
        simp only [handlerStartNewServiceNamed, hfind, some.injEq] at hr'
        rw [← hr']
        exact leavesParse_moduleActiveNew hm _ g
      split at h
      · exact hnext hnew h
      · cases h
        obtain ⟨-, -, hpast⟩ := hnew hf
        exact hnew.trans (.mark (by decide) fun hts => hpast (hp hts))

lemma leavesParse_handlerStartService (fuel : ℕ) (t : Sid) (g : G) (r : Bool × G)
    (h : handlerStartService m fuel t g = some r) : LeavesParse name s g r.2 := by
  induction fuel generalizing t g r with
  | zero => simp [handlerStartService] at h
  | succ fuel ih =>
    rw [handlerStartService] at h
    split_ifs at h
    iterate 3
      cases h
      exact .refl name s g
    have hdeps (hrest : getState g t ≠ .isNew)
        (h : (dependStartDeps (handlerStartService m fuel) m t (g.svc t).data g).map
          (fun r => if r.1 = false then (false, r.2) else runStart m t r.2) = some r) :
        LeavesParse name s g r.2 := by
      intro hf
      -- a service that is started is at rest, so it is not the parsed one
      have hp : t = s → ¬ Parsing g s := by
        rintro rfl hp
        exact hrest hp.isNew
      obtain ⟨r', hr', rfl⟩ := map_eq_some_iff.mp h
      have hl := leavesParse_dependStartDeps hm (ih · · ·) hf hp hr'
      obtain ⟨-, -, hpast⟩ := hl hf
      refine hl.trans ?_ hf
      split
      · exact .refl name s _
      · exact leavesParse_runStart hm fun hts => hpast (hp hts)
    split at h
    all_goals first
      | (cases h; exact .refl name s g)
      | exact hdeps (by simp [*]) h

end

structure FreshChange (g g' : G) : Prop where
  old : ∀ t < g.brk, g'.svc t = g.svc t
  activeDb : g'.activeDb = g.activeDb ∨ g'.activeDb = g.activeDb ++ [g.brk]
  brk : g'.brk = g.brk + 1

section
variable {name : String} {s : Sid} {g g' : G}

lemma Filed.lt_brk (hf : Filed name s g) : s < g.brk :=
  hf.allocated s (activeDbFindByName_mem hf.found).1

lemma Filed.fresh (hf : Filed name s g) (h : FreshChange g g') : Filed name s g' := by
  have hfind : g.activeDb.find? (fun t => (g'.svc t).name = name) = some s := by
    rw [← hf.found, activeDbFindByName_eq]
    refine find?_congr fun t ht => ?_
    rw [h.old t (hf.allocated t ht)]
  refine ⟨by rw [h.old s hf.lt_brk, hf.named], ?_, fun t ht => ?_⟩
  · rw [activeDbFindByName_eq]
    rcases h.activeDb with hdb | hdb
    · rw [hdb, hfind]
    · rw [hdb, find?_append, hfind, some_or]
  · have hor : t ∈ g.activeDb ∨ t = g.brk := by
      rcases h.activeDb with hdb | hdb <;> rw [hdb] at ht
      · exact .inl ht
      · simpa using ht
    rw [h.brk]
    rcases hor with ht | rfl
    · exact Nat.lt_succ_of_lt (hf.allocated t ht)
    · exact Nat.lt_succ_self g.brk

lemma FreshChange.leavesParse (h : FreshChange g g') : LeavesParse name s g g' := by
  intro hf
  have hsame := h.old s hf.lt_brk
  exact ⟨hf.fresh h, fun _ => hsame, fun hp => by rwa [Parsing.congr hsame]⟩

lemma FreshChange.new (service : String) (f : ActiveType → ActiveType) (g : G) :
    FreshChange g ((activeDbNew service g).2.modify g.brk f) where
  old t ht := by simp [activeDbNew, Nat.ne_of_lt ht]
  activeDb := .inl rfl
  brk := rfl

lemma FreshChange.setOrigin (h : FreshChange g g') (fromFile : String) (stype : Stype) :
    FreshChange g (setOrigin g.brk fromFile stype g') where
  old t ht := by rw [Initng.setOrigin, G.modify_svc_ne _ _ _ _ (Nat.ne_of_lt ht), h.old t ht]
  activeDb := h.activeDb
  brk := h.brk

lemma FreshChange.register (h : FreshChange g g') (hdb : g'.activeDb = g.activeDb) :
    FreshChange g (activeDbRegister g.brk g').2 := by
  rcases activeDbRegister_cases g.brk g' with he | ⟨-, he⟩
  · rwa [he]
  · rw [he]
    exact ⟨h.old, .inr (by simp [hdb]), h.brk⟩

lemma FreshChange.free (h : FreshChange g g') (hdb : g'.activeDb = g.activeDb)
    (ha : ∀ t ∈ g.activeDb, t < g.brk) : FreshChange g (activeDbFree g.brk g') where
  old t ht := by
    rw [← h.old t ht]
    exact commonMarkService_svc_ne _ _ (Nat.ne_of_lt ht)
  activeDb := by
    left
    simp only [activeDbFree, commonMarkService_activeDb, hdb]
    refine filter_eq_self.mpr fun t ht => ?_
    simpa using Nat.ne_of_lt (ha t ht)
  brk := by rw [← h.brk]; exact commonMarkService_brk ..

end

section
variable {name : String} {s t : Sid} {g g' : G}

lemma parseNewServiceFile_leavesParse (stat : Option FileStat) (asked : String) :
    LeavesParse name s g (parseNewServiceFile stat asked g).2 := by
  intro hf
  have hnew := FreshChange.new asked
    (fun a => { a with currentState := .parsingForStart, type := some .unset }) g
  unfold parseNewServiceFile
  iterate 3
    split
    · exact LeavesParse.refl name s g hf
  dsimp only
  split
  · exact (hnew.register rfl).leavesParse hf
  · exact (hnew.free rfl hf.allocated).leavesParse hf

def DataChange (t : Sid) (g g' : G) : Prop :=
  ∃ data, g' = g.modify t fun a => { a with data := data }

lemma DataChange.refl (t : Sid) (g : G) : DataChange t g g := ⟨(g.svc t).data, by simp [G.modify]⟩

lemma DataChange.trans {g'' : G} (h : DataChange t g g') (h' : DataChange t g' g'') :
    DataChange t g g'' := by
  obtain ⟨data, rfl⟩ := h
  obtain ⟨data', rfl⟩ := h'
  exact ⟨data', by simp [G.modify]⟩

lemma DataChange.setData (type : DataType) (vn : Option String) (t : Sid)
    (f : List SData → List SData) (g : G) : DataChange t g (setData type vn t f g) := by
  unfold Initng.setData
  split
  · exact .refl t g
  · exact ⟨f (g.svc t).data, rfl⟩

lemma dataChange_bpSetByType (type : DataType) (varname : Option String) (value : String)
    (t : Sid) (g : G) : DataChange t g (bpSetByType type varname value t g).2 := by
  have hwords (words : List String) (g : G) : DataChange t g
      (words.foldl (fun g word => setAnotherStringVar type varname t word g) g) := by
    induction words generalizing g with
    | nil => exact .refl t g
    | cons word words ih => exact (DataChange.setData ..).trans (ih _)
  unfold bpSetByType
  split
  all_goals first
    | exact .setData ..
    | exact hwords _ g
    | exact .refl t g

lemma bpSetVariable_cases (r : Registered) (service vartype varname value : String) (g : G) :
    (bpSetVariable r service vartype varname value g).2 = g ∨
      ∃ active, activeDbFindByName g service = some active ∧
        DataChange active g (bpSetVariable r service vartype varname value g).2 := by
  unfold bpSetVariable
  iterate 3
    split
    · exact .inl rfl
  next active hfind =>
    refine .inr ⟨active, hfind, ?_⟩
    iterate 3
      split
      · exact .refl active g
    exact dataChange_bpSetByType ..

lemma Filed.modify (hf : Filed name s g) {f : ActiveType → ActiveType}
    (hname : ∀ a, (f a).name = a.name) : Filed name s (g.modify t f) := by
  have hnames (u : Sid) : ((g.modify t f).svc u).name = (g.svc u).name := by
    by_cases hu : u = t
    · rw [hu, G.modify_svc_self, hname]
    · rw [G.modify_svc_ne _ _ _ _ hu]
  refine ⟨(hnames s).trans hf.named, ?_, hf.allocated⟩
  rw [activeDbFindByName_congr (G.modify_activeDb ..) hnames, hf.found]

lemma LeavesParse.modify (hne : t ≠ s) {f : ActiveType → ActiveType}
    (hname : ∀ a, (f a).name = a.name) : LeavesParse name s g (g.modify t f) := by
  intro hf
  have hsame : (g.modify t f).svc s = g.svc s := G.modify_svc_ne _ _ _ _ hne.symm
  exact ⟨hf.modify hname, fun _ => hsame, fun hp => by rwa [Parsing.congr hsame]⟩

lemma LeavesParse.setOrigin (hne : t ≠ s) (fromFile : String) (stype : Stype) :
    LeavesParse name s g (setOrigin t fromFile stype g) := by
  unfold Initng.setOrigin
  exact .modify hne fun _ => rfl

lemma bpNewActive_other (r : Registered) (type service fromFile : String)
    (hf : Filed name s g) (hne : service ≠ name) :
    LeavesParse name s g (bpNewActive r type service fromFile g).2 := by
  unfold bpNewActive
  split
  · exact .refl name s g
  next stype _ =>
    split
    next newActive hfind =>
      split
      · exact .refl name s g
      · exact .setOrigin (hf.ne hfind hne) fromFile stype
    · have hnew := FreshChange.new service (fun a => { a with currentState := .parsing }) g
      dsimp only
      split
      · exact ((hnew.register rfl).setOrigin fromFile stype).leavesParse
      · exact (hnew.free rfl hf.allocated).leavesParse

variable {m : Modules} (hm : ParseHooks m) {fuel : ℕ} {rep : BpRep}
include hm

lemma bpDone_other {service : String} (hf : Filed name s g) (hne : service ≠ name)
    (h : bpDone m fuel service g = some (rep, g')) : LeavesParse name s g g' := by
  unfold bpDone at h
  split at h
  · cases h
    exact .refl name s g
  next active hfind =>
    have hactive : active ≠ s := hf.ne hfind hne
    have hmark (state : AState) (hstate : state ≠ .parsing ∧ state ≠ .parsingForStart) :
        LeavesParse name s g (commonMarkService active state g).2 :=
      .mark hstate fun heq => absurd heq hactive
    dsimp only at h
    split_ifs at h
    · cases h
      exact .refl name s g
    · obtain ⟨r, hr, heq⟩ := map_eq_some_iff.mp h
      cases heq
      exact (hmark _ (by decide)).trans (leavesParse_handlerStartService hm fuel active _ r hr)
    all_goals
      cases h
      first
        | exact .refl name s g
        | exact hmark _ (by decide)

lemma bpHandleClient_other {r : Registered} {req : BpReq} (hf : Filed name s g)
    (hne : req.service ≠ name) (h : bpHandleClient m r fuel req g = some (rep, g')) :
    LeavesParse name s g g' := by
  unfold bpHandleClient at h
  split at h
  · cases h
    exact .refl name s g
  split at h
  next type fromFile _ =>
    obtain rfl : (bpNewActive r type req.service fromFile g).2 = g' := by
      rw [some.inj h]
    exact bpNewActive_other r type req.service fromFile hf hne
  next vartype varname value _ =>
    obtain rfl : (bpSetVariable r req.service vartype varname value g).2 = g' := by
      rw [some.inj h]
    rcases bpSetVariable_cases r req.service vartype varname value g with
      he | ⟨active, hfind, data, he⟩ <;> rw [he]
    · exact .refl name s g
    · exact .modify (hf.ne hfind hne) fun _ => rfl
  next =>
    obtain ⟨_, -, heq⟩ := map_eq_some_iff.mp h
    cases heq
    exact .refl name s g
  · exact bpDone_other hm hf hne h
  all_goals
    cases h
    exact .refl name s g

end

structure StillParsed (name : String) (s : Sid) (type : Stype) (g : G) : Prop where
  filed : Filed name s g
  state : (g.svc s).currentState = .parsingForStart
  unlocked : (g.svc s).stateLock = 0
  typed : (g.svc s).type = some type

inductive ParsePhase
  | untyped | typed | left
  deriving DecidableEq

def InPhase (name : String) (s : Sid) (g : G) : ParsePhase → Prop
  | .untyped => StillParsed name s .unset g
  | .typed => ∃ type, type ≠ .unset ∧ StillParsed name s type g
  | .left => Filed name s g ∧ ¬ Parsing g s

def BpReq.registers (r : Registered) (name : String) (req : BpReq) : Bool :=
  req.version == serviceFileVersion && req.service == name &&
    match req.request with
    | .newActive type _ => (r.serviceTypeGetByName type).isSome
    | _ => false

def BpReq.finishes (name : String) (req : BpReq) : Bool :=
  req.version == serviceFileVersion && req.service == name && req.request == .done

def ParsePhase.after (r : Registered) (name : String) (req : BpReq) : ParsePhase → ParsePhase
  | .untyped => if req.registers r name then .typed else .untyped
  | .typed => if req.finishes name then .left else .typed
  | .left => .left

section
variable {name : String} {s : Sid} {type : Stype} {g g' : G} {phase : ParsePhase}

lemma StillParsed.parsing (h : StillParsed name s type g) : Parsing g s := .inr h.state

lemma StillParsed.leavesParse (h : StillParsed name s type g)
    (hl : LeavesParse name s g g') : StillParsed name s type g' := by
  obtain ⟨hf, hsame, -⟩ := hl h.filed
  have heq := hsame h.parsing
  exact ⟨hf, by rw [heq, h.state], by rw [heq, h.unlocked], by rw [heq, h.typed]⟩

section
variable (h : InPhase name s g phase)
include h

lemma InPhase.filed : Filed name s g := by
  cases phase with
  | untyped => exact StillParsed.filed h
  | typed =>
    obtain ⟨type, -, hw⟩ := h
    exact hw.filed
  | left => exact h.1

lemma InPhase.leavesParse (hl : LeavesParse name s g g') : InPhase name s g' phase := by
  cases phase with
  | untyped => exact StillParsed.leavesParse h hl
  | typed =>
    obtain ⟨type, htype, hw⟩ := h
    exact ⟨type, htype, hw.leavesParse hl⟩
  | left =>
    obtain ⟨hf, -, hpast⟩ := hl h.1
    exact ⟨hf, hpast h.2⟩

lemma InPhase.dataChange (hd : DataChange s g g') : InPhase name s g' phase := by
  obtain ⟨data, rfl⟩ := hd
  have hwait {type : Stype} (hw : StillParsed name s type g) :
      StillParsed name s type (g.modify s fun a => { a with data := data }) :=
    ⟨hw.filed.modify fun _ => rfl, by simpa using hw.state, by simpa using hw.unlocked,
      by simpa using hw.typed⟩
  cases phase with
  | untyped => exact hwait h
  | typed =>
    obtain ⟨type, htype, hw⟩ := h
    exact ⟨type, htype, hwait hw⟩
  | left => exact ⟨h.1.modify fun _ => rfl, by simpa [Parsing] using h.2⟩

end

variable {m : Modules} {r : Registered} {fuel : ℕ} {rep : BpRep}

lemma StillParsed.setOrigin {stype : Stype} (h : StillParsed name s type g)
    (fromFile : String) : StillParsed name s stype (setOrigin s fromFile stype g) :=
  ⟨h.filed.modify fun _ => rfl, by simpa [Initng.setOrigin] using h.state,
    by simpa [Initng.setOrigin] using h.unlocked, by simp [Initng.setOrigin]⟩

lemma bpNewActive_waiting (h : StillParsed name s type g)
    (asked fromFile : String) : (bpNewActive r asked name fromFile g).2 =
      match r.serviceTypeGetByName asked with
      | none => g
      | some stype => setOrigin s fromFile stype g := by
  unfold bpNewActive
  cases r.serviceTypeGetByName asked with
  | none => rfl
  | some stype => simp [h.filed.found, h.state]

lemma bpNewActive_left (hf : Filed name s g) (hp : ¬ Parsing g s)
    (asked fromFile : String) : (bpNewActive r asked name fromFile g).2 = g := by
  have hstate : (g.svc s).currentState ≠ .parsingForStart := fun h => hp (.inr h)
  unfold bpNewActive
  cases r.serviceTypeGetByName asked with
  | none => rfl
  | some stype => simp [hf.found, hstate]

lemma bpDone_typed (hm : ParseHooks m) (hw : StillParsed name s type g)
    (htype : type ≠ .unset) (h : bpDone m fuel name g = some (rep, g')) :
    Filed name s g' ∧ ¬ Parsing g' s := by
  have hstate : (g.svc s).currentState ≠ .redyForStart := by rw [hw.state]; decide
  have hmark := commonMarkService_unlocked g s .redyForStart hw.unlocked hstate
  have hleft : ¬ Parsing (commonMarkService s .redyForStart g).2 s := by
    rw [hmark]
    simp [Parsing, ActiveType.enter, AState.redyForStart, AState.parsing, AState.parsingForStart]
  have hfiled : Filed name s (commonMarkService s .redyForStart g).2 :=
    hw.filed.ownChange (.mark _) (Nat.le_of_eq (commonMarkService_brk ..).symm)
  have htrue : (commonMarkService s .redyForStart g).1 = true := by rw [hmark]
  simp only [bpDone, hw.filed.found, hw.typed, hw.state, htrue] at h
  rw [if_neg (by simpa using htype), if_pos trivial, if_pos trivial] at h
  obtain ⟨r, hr, heq⟩ := map_eq_some_iff.mp h
  cases heq
  obtain ⟨hf', -, hpast⟩ := leavesParse_handlerStartService hm fuel s _ r hr hfiled
  exact ⟨hf', hpast hleft⟩

lemma InPhase.newActive (hr : Stype.unset ∉ r.stypes)
    (hi : InPhase name s g phase) (asked fromFile : String) :
    InPhase name s (bpNewActive r asked name fromFile g).2
      (phase.after r name ⟨serviceFileVersion, .newActive asked fromFile, name⟩) := by
  have htyped {type stype : Stype} (hw : StillParsed name s type g)
      (hfind : r.serviceTypeGetByName asked = some stype) :
      InPhase name s (setOrigin s fromFile stype g) .typed := by
    refine ⟨stype, fun heq => hr ?_, hw.setOrigin fromFile⟩
    rw [← heq]
    exact mem_of_find?_eq_some hfind
  cases phase with
  | untyped =>
    rw [bpNewActive_waiting hi]
    cases hfind : r.serviceTypeGetByName asked with
    | none => simpa [ParsePhase.after, BpReq.registers, hfind] using hi
    | some stype => simpa [ParsePhase.after, BpReq.registers, hfind] using htyped hi hfind
  | typed =>
    obtain ⟨type, htype, hw⟩ := hi
    have hafter : ParsePhase.after r name ⟨serviceFileVersion, .newActive asked fromFile, name⟩
        .typed = .typed := by
      simp [ParsePhase.after, BpReq.finishes]
    rw [bpNewActive_waiting hw, hafter]
    cases hfind : r.serviceTypeGetByName asked with
    | none => exact ⟨type, htype, hw⟩
    | some stype => exact htyped hw hfind
  | left =>
    rw [bpNewActive_left hi.1 hi.2]
    exact hi

lemma InPhase.done (hm : ParseHooks m) (hi : InPhase name s g phase)
    (h : bpDone m fuel name g = some (rep, g')) :
    InPhase name s g' (phase.after r name ⟨serviceFileVersion, .done, name⟩) := by
  cases phase with
  | untyped =>
    simp only [bpDone, StillParsed.filed hi |>.found, StillParsed.typed hi] at h
    cases h
    simpa [ParsePhase.after, BpReq.registers] using hi
  | typed =>
    obtain ⟨type, htype, hw⟩ := hi
    have hafter : ParsePhase.after r name ⟨serviceFileVersion, .done, name⟩ .typed = .left := by
      simp [ParsePhase.after, BpReq.finishes]
    rw [hafter]
    exact bpDone_typed hm hw htype h
  | left =>
    obtain ⟨hparsing, hstart⟩ := not_or.mp hi.2
    simp only [bpDone, hi.1.found, hparsing, hstart, if_false] at h
    split at h <;> cases h <;> exact hi

lemma ParsePhase.after_eq {req : BpReq} (hreg : req.registers r name = false)
    (hfin : req.finishes name = false) : phase.after r name req = phase := by
  cases phase <;> simp [ParsePhase.after, hreg, hfin]

lemma InPhase.request (hm : ParseHooks m) (hr : Stype.unset ∉ r.stypes) {req : BpReq}
    (hi : InPhase name s g phase) (h : bpHandleClient m r fuel req g = some (rep, g')) :
    InPhase name s g' (phase.after r name req) := by
  by_cases hown : req.version = serviceFileVersion ∧ req.service = name
  case neg =>
    have hsame : phase.after r name req = phase := by
      refine ParsePhase.after_eq ?_ ?_ <;> simp only [BpReq.registers, BpReq.finishes] <;> grind
    rw [hsame]
    by_cases hname : req.service = name
    · have hversion : req.version ≠ serviceFileVersion := fun hv => hown ⟨hv, hname⟩
      rw [bpHandleClient, if_pos hversion] at h
      cases h
      exact hi
    · exact hi.leavesParse (bpHandleClient_other hm hi.filed hname h)
  case pos =>
    obtain ⟨version, request, service⟩ := req
    obtain ⟨rfl, rfl⟩ := hown
    simp only [bpHandleClient, ne_eq, not_true_eq_false, if_false] at h
    cases request with
    | newActive asked fromFile =>
      obtain rfl : (bpNewActive r asked service fromFile g).2 = g' := by rw [some.inj h]
      exact hi.newActive hr asked fromFile
    | setVariable vartype varname value =>
      obtain rfl : (bpSetVariable r service vartype varname value g).2 = g' := by
        rw [some.inj h]
      rw [ParsePhase.after_eq (by simp [BpReq.registers]) (by simp [BpReq.finishes])]
      rcases bpSetVariable_cases r service vartype varname value g with he | ⟨active, hfind, hd⟩
      · rw [he]
        exact hi
      · obtain rfl : active = s := some.inj (hfind.symm.trans hi.filed.found)
        exact hi.dataChange hd
    | getVariable vartype varname =>
      obtain ⟨_, -, heq⟩ := map_eq_some_iff.mp h
      cases heq
      rwa [ParsePhase.after_eq (by simp [BpReq.registers]) (by simp [BpReq.finishes])]
    | done => exact hi.done hm h
    | abort | unsetInvalid =>
      cases h
      rwa [ParsePhase.after_eq (by simp [BpReq.registers]) (by simp [BpReq.finishes])]

lemma not_parsing_parseFail (hp : (g.svc s).stateLock = 0 ∨ ¬ Parsing g s) :
    ¬ Parsing (commonMarkService s .parseFail g).2 s := by
  by_cases hs : Parsing g s
  · have hlock := hp.resolve_right (not_not_intro hs)
    have hstate : (g.svc s).currentState ≠ .parseFail := by
      rcases hs with hs | hs <;> rw [hs] <;> decide
    rw [commonMarkService_unlocked g s .parseFail hlock hstate]
    simp [Parsing, ActiveType.enter, AState.parseFail, AState.parsing, AState.parsingForStart]
  · exact not_parsing_mark (by decide) hs

lemma InPhase.handleKilled (hm : ParseHooks m) {rCode : Int} (hi : InPhase name s g phase)
    (h : handleKilled m fuel s rCode g = some g') :
    Parsing g' s ↔ phase = .typed ∧ wExitStatus rCode = 0 := by
  have hstart {type : Stype} (htype : type ≠ .unset) (hw : StillParsed name s type g)
      (hcode : wExitStatus rCode = 0) : Parsing g' s := by
    have hcond : ¬ (wExitStatus rCode ≠ 0 ∨ (g.svc s).type = some .unset) := by
      rw [hw.typed]
      simp [hcode, htype]
    rw [Initng.handleKilled, if_neg hcond] at h
    obtain ⟨r, hr, rfl⟩ := map_eq_some_iff.mp h
    exact (hw.leavesParse (leavesParse_handlerStartService hm fuel s g r hr)).parsing
  have hfail (hcond : wExitStatus rCode ≠ 0 ∨ (g.svc s).type = some .unset)
      (hp : (g.svc s).stateLock = 0 ∨ ¬ Parsing g s) : ¬ Parsing g' s := by
    rw [Initng.handleKilled, if_pos hcond] at h
    cases h
    exact not_parsing_parseFail hp
  cases phase with
  | untyped =>
    have hw : StillParsed name s .unset g := hi
    simpa using hfail (.inr hw.typed) (.inl hw.unlocked)
  | typed =>
    obtain ⟨type, htype, hw⟩ := hi
    by_cases hcode : wExitStatus rCode = 0
    · simpa [hcode] using hstart htype hw hcode
    · simpa [hcode] using hfail (.inl hcode) (.inl hw.unlocked)
  | left =>
    have hleft : ¬ Parsing g' s := by
      by_cases hcond : wExitStatus rCode ≠ 0 ∨ (g.svc s).type = some .unset
      · exact hfail hcond (.inr hi.2)
      · rw [Initng.handleKilled, if_neg hcond] at h
        obtain ⟨r, hr, rfl⟩ := map_eq_some_iff.mp h
        exact (leavesParse_handlerStartService hm fuel s g r hr hi.1).2.2 hi.2
    simpa using hleft

end

/-- The requests of a parse process.  Between them anything may happen that leaves the parsing
alone. -/
inductive ParseRun (m : Modules) (r : Registered) (name : String) (s : Sid) :
    G → List BpReq → G → Prop
  | dies (g : G) : ParseRun m r name s g [] g
  | aside {g g' g'' : G} {reqs : List BpReq} (hl : LeavesParse name s g g')
      (hrun : ParseRun m r name s g' reqs g'') : ParseRun m r name s g reqs g''
  | request {g g' g'' : G} {req : BpReq} {reqs : List BpReq} (fuel : ℕ) (rep : BpRep)
      (hreq : bpHandleClient m r fuel req g = some (rep, g'))
      (hrun : ParseRun m r name s g' reqs g'') : ParseRun m r name s g (req :: reqs) g''

/-- The first `iregister` that was accepted is not followed by an `idone`. -/
def LeftOpen (r : Registered) (name : String) (reqs : List BpReq) : Prop :=
  ∃ before req after, reqs = before ++ req :: after ∧
    (∀ q ∈ before, q.registers r name = false) ∧ req.registers r name = true ∧
    ∀ q ∈ after, q.finishes name = false

def ParsePhase.afterAll (r : Registered) (name : String) (reqs : List BpReq)
    (phase : ParsePhase) : ParsePhase :=
  reqs.foldl (fun phase req => phase.after r name req) phase

section
variable {m : Modules} {r : Registered} {name : String} {s : Sid} {g g' : G}
  {reqs : List BpReq} {phase : ParsePhase}

lemma InPhase.run (hm : ParseHooks m) (hr : Stype.unset ∉ r.stypes)
    (hi : InPhase name s g phase) (h : ParseRun m r name s g reqs g') :
    InPhase name s g' (phase.afterAll r name reqs) := by
  induction h generalizing phase with
  | dies g => exact hi
  | aside hl _ ih => exact ih (hi.leavesParse hl)
  | request fuel rep hreq _ ih => exact ih (hi.request hm hr hreq)

variable {req : BpReq}

lemma ParsePhase.afterAll_cons : afterAll r name (req :: reqs) phase =
    afterAll r name reqs (phase.after r name req) := rfl

lemma ParsePhase.afterAll_left : afterAll r name reqs .left = .left := by
  induction reqs with
  | nil => rfl
  | cons req reqs ih => exact ih

lemma ParsePhase.afterAll_typed :
    afterAll r name reqs .typed = .typed ↔ ∀ q ∈ reqs, q.finishes name = false := by
  induction reqs with
  | nil => simp [afterAll]
  | cons req reqs ih =>
    rw [forall_mem_cons, afterAll_cons]
    cases hfin : req.finishes name with
    | true => simp [after, hfin, afterAll_left]
    | false => simpa [after, hfin] using ih

lemma leftOpen_cons_registers (h : req.registers r name = true) :
    LeftOpen r name (req :: reqs) ↔ ∀ q ∈ reqs, q.finishes name = false := by
  constructor
  · rintro ⟨before, first, after, heq, hbefore, -, hafter⟩
    cases before with
    | nil =>
      cases heq
      exact hafter
    | cons q before =>
      obtain ⟨rfl, -⟩ := cons.inj heq
      rw [hbefore req (.head _)] at h
      cases h
  · exact fun hafter => ⟨[], req, reqs, rfl, by simp, h, hafter⟩

lemma leftOpen_cons (h : req.registers r name = false) :
    LeftOpen r name (req :: reqs) ↔ LeftOpen r name reqs := by
  constructor
  · rintro ⟨before, first, after, heq, hbefore, hfirst, hafter⟩
    cases before with
    | nil =>
      cases heq
      rw [h] at hfirst
      cases hfirst
    | cons q before =>
      obtain ⟨-, heq⟩ := cons.inj heq
      exact ⟨before, first, after, heq, fun q hq => hbefore q (.tail _ hq), hfirst, hafter⟩
  · rintro ⟨before, first, after, rfl, hbefore, hfirst, hafter⟩
    exact ⟨req :: before, first, after, rfl, forall_mem_cons.mpr ⟨h, hbefore⟩, hfirst, hafter⟩

lemma ParsePhase.afterAll_untyped :
    afterAll r name reqs .untyped = .typed ↔ LeftOpen r name reqs := by
  induction reqs with
  | nil => simp [afterAll, LeftOpen]
  | cons req reqs ih =>
    rw [afterAll_cons]
    cases hreg : req.registers r name with
    | true =>
      rw [leftOpen_cons_registers hreg, ← afterAll_typed (r := r)]
      simp [after, hreg]
    | false =>
      rw [leftOpen_cons hreg, ← ih]
      simp [after, hreg]

lemma filed_of_register (h : (activeDbRegister s g).1 = true) (hs : s < g.brk)
    (ha : ∀ t ∈ g.activeDb, t < g.brk) :
    Filed (g.svc s).name s (activeDbRegister s g).2 ∧ (activeDbRegister s g).2.svc = g.svc := by
  unfold activeDbRegister at h ⊢
  split at h
  · cases h
  next hnone =>
    rw [if_neg hnone]
    rw [not_isSome_iff_eq_none, activeDbFindByName_eq] at hnone
    refine ⟨⟨rfl, ?_, fun t ht => ?_⟩, rfl⟩
    · rw [activeDbFindByName_eq]
      show (g.activeDb ++ [s]).find? (fun t => (g.svc t).name = (g.svc s).name) = some s
      rw [find?_append, hnone]
      simp
    · rcases mem_append.mp ht with ht | ht
      · exact ha t ht
      · rw [mem_singleton.mp ht]
        exact hs

lemma parseNewServiceFile_inPhase {stat : Option FileStat}
    (ha : ∀ t ∈ g.activeDb, t < g.brk) (h : parseNewServiceFile stat name g = (some s, g')) :
    InPhase name s g' .untyped := by
  unfold parseNewServiceFile at h
  iterate 3
    split at h
    · cases h
  dsimp only at h
  split at h
  next hreg =>
    cases h
    obtain ⟨hfiled, hsvc⟩ := filed_of_register hreg (Nat.lt_succ_self g.brk)
      fun t ht => Nat.lt_succ_of_lt (ha t ht)
    refine ⟨by simpa [activeDbNew, ActiveType.ofName] using hfiled, ?_, ?_, ?_⟩
    all_goals
      rw [hsvc]
      simp [activeDbNew, ActiveType.ofName]
  · cases h

end

def serviceFileModules (root : String) (stat : String → Option FileStat) : Modules :=
  { allTypes with newActive := [createNewActive root stat] }

variable {name : String} {s : Sid}

lemma parseFirst_leavesParse (stat : String → Option FileStat) (asked : String)
    (files : List String) (g : G) : LeavesParse name s g (parseFirst stat asked files g).2 := by
  induction files generalizing g with
  | nil => exact .refl name s g
  | cons file files ih =>
    have hfile : LeavesParse name s g (parseNewServiceFile (stat file) asked g).2 :=
      parseNewServiceFile_leavesParse (stat file) asked
    rw [parseFirst]
    split
    next newActive g' heq => simpa [heq] using hfile
    next g' heq =>
      rw [heq] at hfile
      exact hfile.trans (ih g')

lemma createNewActive_leavesParse (root : String) (stat : String → Option FileStat)
    (asked : String) (st : G × Option Sid) :
    LeavesParse name s st.1 (createNewActive root stat asked st).2.1 := by
  have hfirst : LeavesParse name s st.1 (parseFirst stat asked (triedFiles root asked) st.1).2 :=
    parseFirst_leavesParse stat asked _ st.1
  unfold createNewActive
  split
  · exact .refl name s st.1
  · split <;> simp_all only

lemma allTypes_start_marks {type : Stype} {hook : Sid → G → Bool × G}
    (h : allTypes.start type = some hook) (t : Sid) (g : G) :
    (hook t g).2 = g ∨ ∃ state, (state ≠ .parsing ∧ state ≠ .parsingForStart) ∧
      (hook t g).2 = (commonMarkService t state g).2 := by
  have hturn (waiting back marked : AState) (hback : back ≠ .parsing ∧ back ≠ .parsingForStart)
      (hmarked : marked ≠ .parsing ∧ marked ≠ .parsingForStart) :
      ∃ state, (state ≠ .parsing ∧ state ≠ .parsingForStart) ∧
        (turnHook waiting back marked t g).2 = (commonMarkService t state g).2 := by
    unfold turnHook
    split
    · exact ⟨back, hback, rfl⟩
    · exact ⟨marked, hmarked, rfl⟩
  simp only [allTypes, typeModules] at h
  split_ifs at h <;> cases h
  · unfold startTask
    split
    · exact .inr ⟨.taskRunMarked, by decide, rfl⟩
    · exact .inl rfl
  · exact .inl rfl
  all_goals exact .inr (hturn _ _ _ (by decide) (by decide))

lemma serviceFileModules_parseHooks (root : String) (stat : String → Option FileStat) :
    ParseHooks (serviceFileModules root stat) where
  own h t g := by
    rcases allTypes_start_marks h t g with he | ⟨state, -, he⟩ <;> rw [he]
    · exact .refl t g
    · exact .mark state
  brk h t g := by
    rcases allTypes_start_marks h t g with he | ⟨state, -, he⟩ <;> rw [he]
    rw [commonMarkService_brk]
  past h t g hp := by
    rcases allTypes_start_marks h t g with he | ⟨state, hstate, he⟩ <;> rw [he]
    · exact hp
    · exact not_parsing_mark hstate hp
  newActive hook hmem asked st name s := by
    rw [mem_singleton.mp hmem]
    exact createNewActive_leavesParse root stat asked st

def parseAll (m : Modules) (r : Registered) (fuel : ℕ) (s : Sid) (rCode : Int) (g : G) :
    List BpReq → Option G
  | [] => handleKilled m fuel s rCode g
  | req :: reqs =>
    (bpHandleClient m r fuel req g).bind fun reply => parseAll m r fuel s rCode reply.2 reqs

lemma parseRun_of_parseAll {m : Modules} {r : Registered} {fuel : ℕ} {rCode : Int} {g g₂ : G}
    {reqs : List BpReq} (h : parseAll m r fuel s rCode g reqs = some g₂) :
    ∃ g₁, ParseRun m r name s g reqs g₁ ∧ handleKilled m fuel s rCode g₁ = some g₂ := by
  induction reqs generalizing g with
  | nil => exact ⟨g, .dies g, h⟩
  | cons req reqs ih =>
    obtain ⟨⟨rep, g'⟩, hreq, hrest⟩ := bind_eq_some_iff.mp h
    obtain ⟨g₁, hrun, hkilled⟩ := ih hrest
    exact ⟨g₁, .request fuel rep hreq hrun, hkilled⟩

/-- The service is out of the parsing once its parse process has died, exactly if the process has
left an exit code, or no `iregister` was accepted, or an `idone` followed it. -/
theorem parse_decided_iff {m : Modules} (hm : ParseHooks m) {r : Registered}
    (hr : Stype.unset ∉ r.stypes) {stat : Option FileStat} {name : String} {s : Sid}
    {g g₀ g₁ g₂ : G} {reqs : List BpReq} {fuel : ℕ} {rCode : Int}
    (ha : ∀ t ∈ g.activeDb, t < g.brk)
    (hnew : parseNewServiceFile stat name g = (some s, g₀))
    (hrun : ParseRun m r name s g₀ reqs g₁)
    (hkilled : handleKilled m fuel s rCode g₁ = some g₂) :
    ¬ Parsing g₂ s ↔ wExitStatus rCode ≠ 0 ∨ ¬ LeftOpen r name reqs := by
  have hi := (parseNewServiceFile_inPhase ha hnew).run hm hr hrun
  rw [hi.handleKilled hm hkilled, ParsePhase.afterAll_untyped]
  tauto

def justDaemons : Registered where
  states := []
  states_names := .nil
  stypes := [⟨"daemon"⟩]
  ptypes := []
  optionDb := []

def emptyUp : G := { configGlobalNew ⟨0, 0⟩ with sysState := .stateUp }

def sshdParsed : Option Sid × G := parseNewServiceFile (some ⟨true, true⟩) "sshd" emptyUp

def iregisterSshd : BpReq := ⟨1, .newActive "daemon" "/etc/initng/sshd", "sshd"⟩

/-- A file that registers a daemon and finishes with `idone` is parsed and the daemon started. -/
theorem parse_decided_sshd :
    ∃ g₂, parseAll (serviceFileModules "/etc/initng" fun _ => none) justDaemons 2 0 0 sshdParsed.2
      [iregisterSshd, ⟨1, .done, "sshd"⟩] = some g₂ ∧ ¬ Parsing g₂ 0 := by
  have hsome : (parseAll (serviceFileModules "/etc/initng" fun _ => none) justDaemons 2 0 0
      sshdParsed.2 [iregisterSshd, ⟨1, .done, "sshd"⟩]).isSome = true := by
    decide +kernel
  obtain ⟨g₂, hall⟩ := isSome_iff_exists.mp hsome
  obtain ⟨g₁, hrun, hkilled⟩ := parseRun_of_parseAll hall
  have hclosed : ¬ LeftOpen justDaemons "sshd" [iregisterSshd, ⟨1, .done, "sshd"⟩] := by
    rw [leftOpen_cons_registers (by decide)]
    decide
  have hnew : parseNewServiceFile (some ⟨true, true⟩) _ emptyUp = (some 0, sshdParsed.2) := rfl
  exact ⟨g₂, hall, (parse_decided_iff (serviceFileModules_parseHooks _ _) (by decide) (by decide)
    hnew hrun hkilled).mpr (.inr hclosed)⟩

/-- A file that registers a daemon and ends without `idone` leaves it in `PARSING_FOR_START`. -/
theorem parse_not_always_decided :
    ¬ ∀ (m : Modules) (r : Registered) (stat : Option FileStat) (name : String) (s : Sid)
      (g g₀ g₁ g₂ : G) (reqs : List BpReq) (fuel : ℕ) (rCode : Int), ParseHooks m →
      Stype.unset ∉ r.stypes → (∀ t ∈ g.activeDb, t < g.brk) →
      parseNewServiceFile stat name g = (some s, g₀) → ParseRun m r name s g₀ reqs g₁ →
      handleKilled m fuel s rCode g₁ = some g₂ → ¬ Parsing g₂ s := by
  intro hall
  have hany : (parseAll (serviceFileModules "/etc/initng" fun _ => none) justDaemons 2 0 0
      sshdParsed.2 [iregisterSshd]).any (fun g₂ => Parsing g₂ 0) = true := by
    decide +kernel
  obtain ⟨g₂, hrun, hparsing⟩ := (Option.any_eq_true ..).mp hany
  obtain ⟨g₁, hrun, hkilled⟩ := parseRun_of_parseAll hrun
  exact hall _ justDaemons (some ⟨true, true⟩) "sshd" 0 emptyUp _ g₁ g₂ _ 2 0
    (serviceFileModules_parseHooks _ _) (by decide) (by decide) rfl hrun hkilled
    (of_decide_eq_true hparsing)

end Initng
