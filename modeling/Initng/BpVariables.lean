import Initng.HeapBlock
import Initng.ParseDecision

/-! `modules/service_file/initng_service_file.c`. -/

namespace Initng

open HeapBlock List Option

def stringsOf (vars : List SData) : List String := vars.map fun d => d.s.getD ""

def joined : List String → List Char
  | [] => []
  | [string] => string.toList
  | string :: next :: rest => string.toList ++ ' ' :: joined (next :: rest)

/-- All strings but the last are empty, and with the blanks between them they take this room. -/
def Fills : ℕ → List String → Prop
  | _, [] => False
  | room, [string] => string.length = room
  | room, string :: next :: rest => string = "" ∧ 0 < room ∧ Fills (room - 1) (next :: rest)

inductive GetFault
  | nullString
  | outside
  deriving DecidableEq

def bpGetStringsIn : List SData → ℕ → ℕ → List Char → Except GetFault (List Char)
  | [], _, _, _ => .error .nullString
  | itt :: rest, p, rem, message =>
    match itt.s with
    | none => .error .nullString
    | some tmp =>
      let text := tmp.toList.take rem
      match HeapBlock.store message p text with
      | none => .error .outside
      | some message =>
        if rem - text.length = 0 then .ok message
        else
          match HeapBlock.store message p [' '] with
          | none => .error .outside
          | some message => bpGetStringsIn rest (p + 1) (rem - text.length - 1) message

section
variable {vars : List SData} {d : SData} {tmp : String} {p rem q : ℕ} {message m text : List Char}

lemma store_eq_overlay (h : p + text.length ≤ message.length) :
    HeapBlock.store message p text = some (overlay message p text) := if_pos h

lemma length_overlay (h : p + text.length ≤ message.length) :
    (overlay message p text).length = message.length := by
  simp only [overlay, length_append, length_take, length_drop]
  omega

lemma bpGetStringsIn_eq (h : p + rem < message.length) :
    bpGetStringsIn vars p rem message =
      (bpGetStrings vars p rem message).elim (.error .nullString) .ok := by
  induction vars generalizing p rem message with
  | nil => rfl
  | cons d vars ih =>
    rw [bpGetStringsIn, bpGetStrings]
    cases d.s with
    | none => rfl
    | some tmp =>
      have htext : p + (tmp.toList.take rem).length ≤ message.length := by
        rw [length_take]
        omega
      have hlen := length_overlay htext
      have hblank : p + [' '].length ≤ (overlay message p (tmp.toList.take rem)).length := by
        rw [hlen, length_singleton]
        omega
      dsimp only
      rw [store_eq_overlay htext]
      dsimp only
      split
      · rfl
      · rw [store_eq_overlay hblank]
        refine ih ?_
        rw [length_overlay hblank, hlen]
        omega

lemma bpGetStrings_last (hd : d.s = some tmp) (h : rem ≤ tmp.length) :
    bpGetStrings (d :: vars) p rem message = some (overlay message p (tmp.toList.take rem)) := by
  have hlen : rem - (tmp.toList.take rem).length = 0 := by
    rw [length_take, String.length_toList]
    omega
  rw [bpGetStrings, hd]
  dsimp only
  rw [if_pos hlen]

lemma bpGetStrings_more (hd : d.s = some tmp) (h : tmp.length < rem) :
    bpGetStrings (d :: vars) p rem message = bpGetStrings vars (p + 1) (rem - tmp.length - 1)
      (overlay (overlay message p tmp.toList) p [' ']) := by
  have htake : tmp.toList.take rem = tmp.toList := take_of_length_le (le_of_lt h)
  rw [bpGetStrings, hd]
  dsimp only
  rw [htake, String.length_toList, if_neg (by omega)]

lemma length_joined_cons (hd : d.s = some tmp) (vars : List SData) :
    (joined (stringsOf (d :: vars))).length =
      tmp.length + if vars = [] then 0 else 1 + (joined (stringsOf vars)).length := by
  cases vars with
  | nil => simp only [stringsOf, map_cons, map_nil, joined, hd, getD_some,
      String.length_toList, if_true, Nat.add_zero]
  | cons next vars =>
    simp only [stringsOf, map_cons, joined, hd, getD_some, length_append,
      length_cons, String.length_toList, reduceCtorEq, if_false]
    omega

lemma bpGetStrings_isSome (hs : ∀ d ∈ vars, d.s.isSome) :
    (bpGetStrings vars p rem message).isSome ↔
      vars ≠ [] ∧ rem ≤ (joined (stringsOf vars)).length := by
  induction vars generalizing p rem message with
  | nil => simp [bpGetStrings]
  | cons d vars ih =>
    obtain ⟨tmp, hd⟩ := isSome_iff_exists.mp (hs d (.head _))
    have hlen := length_joined_cons hd vars
    by_cases hfull : rem ≤ tmp.length
    · rw [bpGetStrings_last hd hfull]
      exact iff_of_true rfl ⟨cons_ne_nil _ _, by omega⟩
    · rw [bpGetStrings_more hd (by omega), ih fun d hin => hs d (.tail _ hin), hlen]
      by_cases hnil : vars = []
      · simp [hnil]
        omega
      · simp only [hnil, ne_eq, not_false_eq_true, true_and, cons_ne_nil, if_false]
        omega

lemma length_cText_le (h : ∀ c ∈ message.drop q, c = '\x00') : (cText message).length ≤ q := by
  rw [cText, String.length_ofList]
  induction message generalizing q with
  | nil => exact Nat.zero_le q
  | cons c message ih =>
    rw [takeWhile_cons]
    split
    next hc =>
      cases q with
      | zero => exact absurd (h c (.head _)) (by simpa using hc)
      | succ q => exact Nat.succ_le_succ (ih h)
    · exact Nat.zero_le q

lemma zeros_overlay {q' : ℕ} (h : ∀ c ∈ message.drop q, c = '\x00')
    (hp : p + text.length ≤ message.length) (hq : q ≤ q') (hq' : p + text.length ≤ q') :
    ∀ c ∈ (overlay message p text).drop q', c = '\x00' := by
  have hfront : (message.take p ++ text).length = p + text.length := by
    rw [length_append, length_take]
    omega
  have hdrop : (overlay message p text).drop q' = message.drop q' := by
    rw [overlay, drop_append, hfront, drop_eq_nil_of_le (by omega), nil_append, drop_drop]
    congr 1
    omega
  rw [hdrop]
  exact fun c hc => h c (drop_subset_drop_left _ hq hc)

lemma overlay_blank (htmp : p + tmp.length < message.length)
    (hzero : ∀ c ∈ message.drop q, c = '\x00') (q' : ℕ) (hq : q ≤ q') (hend : p + tmp.length ≤ q')
    (hp : p < q') :
    (overlay (overlay message p tmp.toList) p [' ']).length = message.length ∧
      ∀ c ∈ (overlay (overlay message p tmp.toList) p [' ']).drop q', c = '\x00' := by
  rw [← String.length_toList] at htmp hend
  have hmessage := length_overlay (le_of_lt htmp)
  have hblank : p + [' '].length ≤ (overlay message p tmp.toList).length := by
    rw [hmessage, length_singleton]
    omega
  exact ⟨(length_overlay hblank).trans hmessage,
    zeros_overlay (zeros_overlay hzero (le_of_lt htmp) hq hend) hblank le_rfl hp⟩

/-- The places move on by one with each string, so the text is not longer than they are together,
nor than the room. -/
lemma length_bpGetStrings_le (hs : ∀ d ∈ vars, d.s.isSome)
    (hzero : ∀ c ∈ message.drop q, c = '\x00') (hroom : p + rem < message.length)
    (h : bpGetStrings vars p rem message = some m) :
    (cText m).length ≤ max q (p + min rem (joined (stringsOf vars)).length) := by
  induction vars generalizing p rem q message with
  | nil => cases h
  | cons d vars ih =>
    obtain ⟨tmp, hd⟩ := isSome_iff_exists.mp (hs d (.head _))
    have hlen := length_joined_cons hd vars
    by_cases hfull : rem ≤ tmp.length
    · rw [bpGetStrings_last hd hfull] at h
      rw [← some.inj h]
      have htake : (tmp.toList.take rem).length = rem := by
        rw [length_take, String.length_toList, min_eq_left hfull]
      exact length_cText_le (zeros_overlay hzero (by omega) (by omega) (by omega))
    · rw [bpGetStrings_more hd (by omega)] at h
      have hne : vars ≠ [] := by
        rintro rfl
        cases h
      rw [if_neg hne] at hlen
      have hfits : p + tmp.length < message.length := by omega
      obtain ⟨hmessage, hzero'⟩ := overlay_blank hfits hzero (max q (p + tmp.length + 1))
        (by omega) (by omega) (by omega)
      have hrest := ih (fun d hin => hs d (.tail _ hin)) hzero' (by omega) h
      omega

def blanks (p rem : ℕ) : List Char := replicate p ' ' ++ replicate (rem + 1) '\x00'

lemma length_blanks : (blanks p rem).length = p + rem + 1 := by simp [blanks, Nat.add_assoc]

lemma overlay_blanks (text : List Char) : overlay (blanks p rem) p text =
    replicate p ' ' ++ text ++ replicate (rem + 1 - text.length) '\x00' := by
  rw [overlay, blanks, take_left' length_replicate, ← drop_drop,
    drop_left' length_replicate, drop_replicate]

lemma cText_append (h : '\x00' ∉ text) (n : ℕ) :
    cText (text ++ replicate (n + 1) '\x00') = String.ofList text := by
  have htext (c : Char) (hc : c ∈ text) : (c != '\x00') = true := by
    have hne : c ≠ '\x00' := fun he => h (he ▸ hc)
    simpa using hne
  rw [cText, takeWhile_append_of_pos htext, replicate_succ,
    takeWhile_cons_of_neg (by simp), append_nil]

lemma bpGetStrings_single (hd : d.s = some tmp) (hnul : '\x00' ∉ tmp.toList) :
    (∃ m, bpGetStrings [d] p rem (blanks p rem) = some m ∧
      cText m = String.ofList (replicate p ' ' ++ tmp.toList)) ↔ tmp.length = rem := by
  by_cases hfull : rem ≤ tmp.length
  · have htake : (tmp.toList.take rem).length = rem := by
      rw [length_take, String.length_toList, min_eq_left hfull]
    have hnone : '\x00' ∉ replicate p ' ' ++ tmp.toList.take rem := by
      rw [mem_append, not_or]
      exact ⟨by simp, fun hin => hnul (mem_of_mem_take hin)⟩
    have htext := cText_append hnone 0
    rw [bpGetStrings_last hd hfull, overlay_blanks, htake, Nat.add_sub_cancel_left]
    simp only [some.injEq, exists_eq_left', htext, String.ofList_inj,
      append_cancel_left_eq, take_eq_self_iff, String.length_toList]
    omega
  · rw [bpGetStrings_more hd (by omega)]
    exact iff_of_false (fun ⟨m, hm, _⟩ => by cases hm) (by omega)

/-- What is not the last string is lost unless it is empty and room is left: its first place is
taken by the blank, and the next string begins behind that. -/
lemma bpGetStrings_lost (hs : ∀ d ∈ vars, d.s.isSome) (hd : d.s = some tmp) (hne : vars ≠ [])
    (htmp : ¬ (tmp = "" ∧ 0 < rem)) (h : bpGetStrings (d :: vars) p rem (blanks p rem) = some m) :
    (cText m).length < p + (joined (stringsOf (d :: vars))).length := by
  have hlen := length_joined_cons hd vars
  rw [if_neg hne] at hlen
  have hzero : ∀ c ∈ (blanks p rem).drop p, c = '\x00' := by
    intro c hc
    rw [blanks, drop_left' length_replicate] at hc
    exact eq_of_mem_replicate hc
  by_cases hfull : rem ≤ tmp.length
  · have hsingle : bpGetStrings [d] p rem (blanks p rem) = some m := by
      rw [← h, bpGetStrings_last hd hfull, bpGetStrings_last hd hfull]
    have hle := length_bpGetStrings_le (by simp [hd]) hzero (by rw [length_blanks]; omega) hsingle
    rw [length_joined_cons hd, if_pos rfl] at hle
    omega
  · rw [bpGetStrings_more hd (by omega)] at h
    have hpos : 0 < tmp.length := by
      rw [Nat.pos_iff_ne_zero, ne_eq, String.length_eq_zero_iff]
      exact fun hempty => htmp ⟨hempty, by omega⟩
    have hroom : (blanks p rem).length = p + rem + 1 := length_blanks
    have hfits : p + tmp.length < (blanks p rem).length := by omega
    obtain ⟨hmessage, hzero'⟩ := overlay_blank hfits hzero (p + tmp.length) (by omega)
      le_rfl (by omega)
    have hle := length_bpGetStrings_le hs hzero' (by omega) h
    omega

lemma bpGetStrings_empty (hd : d.s = some "") :
    bpGetStrings (d :: vars) p (rem + 1) (blanks p (rem + 1)) =
      bpGetStrings vars (p + 1) rem (blanks (p + 1) rem) := by
  have hnothing : overlay (blanks p (rem + 1)) p "".toList = blanks p (rem + 1) := by
    rw [overlay_blanks]
    simp [blanks]
  have hblank : overlay (blanks p (rem + 1)) p [' '] = blanks (p + 1) rem := by
    rw [overlay_blanks]
    simp [blanks, replicate_succ']
  rw [bpGetStrings_more hd (Nat.succ_pos rem), hnothing, hblank]
  rfl

lemma bpGetStrings_joined_iff (hs : ∀ d ∈ vars, d.s.isSome)
    (hnul : ∀ string ∈ stringsOf vars, '\x00' ∉ string.toList) :
    (∃ m, bpGetStrings vars p rem (blanks p rem) = some m ∧
      cText m = String.ofList (replicate p ' ' ++ joined (stringsOf vars))) ↔
        Fills rem (stringsOf vars) := by
  induction vars generalizing p rem with
  | nil => simp [bpGetStrings, stringsOf, Fills]
  | cons d vars ih =>
    obtain ⟨tmp, hd⟩ := isSome_iff_exists.mp (hs d (.head _))
    have hstrings : stringsOf (d :: vars) = tmp :: stringsOf vars := by simp [stringsOf, hd]
    have hs' (d : SData) (hin : d ∈ vars) : d.s.isSome := hs d (.tail _ hin)
    have hnul' (string : String) (hin : string ∈ stringsOf vars) : '\x00' ∉ string.toList :=
      hnul string (hstrings ▸ .tail _ hin)
    cases vars with
    | nil => exact hstrings ▸ bpGetStrings_single hd (hnul tmp (hstrings ▸ .head _))
    | cons next vars =>
      have hfills : Fills rem (stringsOf (d :: next :: vars)) ↔
          tmp = "" ∧ 0 < rem ∧ Fills (rem - 1) (stringsOf (next :: vars)) := by
        rw [hstrings]
        rfl
      rw [hfills]
      by_cases hstep : tmp = "" ∧ 0 < rem
      · obtain ⟨rfl, hrem⟩ := hstep
        obtain ⟨rem, rfl⟩ := Nat.exists_eq_succ_of_ne_zero (Nat.pos_iff_ne_zero.mp hrem)
        have hjoined : replicate p ' ' ++ joined (stringsOf (d :: next :: vars)) =
            replicate (p + 1) ' ' ++ joined (stringsOf (next :: vars)) := by
          rw [hstrings, replicate_succ', append_assoc]
          rfl
        rw [bpGetStrings_empty hd, hjoined, ih hs' hnul']
        simp
      · refine iff_of_false (fun ⟨m, hm, htext⟩ => ?_) fun h => hstep ⟨h.1, h.2.1⟩
        have hless := bpGetStrings_lost hs' hd (cons_ne_nil _ _) hstep hm
        rw [htext, String.length_ofList, length_append, length_replicate] at hless
        exact lt_irrefl _ hless

end

inductive VarKind
  | string
  | strings
  | set
  | int
  | other
  deriving DecidableEq

def EDt.kind : EDt → VarKind
  | .string | .variableString => .string
  | .strings | .variableStrings => .strings
  | .set | .variableSet => .set
  | .int | .variableInt => .int
  | _ => .other

def unnamed (type : DataType) (vn : Option String) : Bool := vn.isNone && type.type.isVariable

/-- The reply carries the value that was set, and of several strings those that were set before,
too. -/
def Carries (kind : VarKind) (value : String) (old : List String) (rep : Option BpRep) : Prop :=
  match kind with
  | .string => rep = some ⟨true, value⟩
  | .strings => rep = some ⟨true, String.ofList (joined (old ++ dupWords value.toList))⟩
  | .set => ∃ message, rep = some ⟨true, message⟩
  | .int => rep = some ⟨true, toString (DecimalText.atoi value.toList)⟩
  | .other => True

/-- The variable has the name it needs, or the entries that are there make up for it. -/
def KeepsValue (type : DataType) (vn : Option String) (value : String) (vars : List SData) : Prop :=
  match type.type.kind with
  | .string =>
    unnamed type vn = false ∨ (vars.head?.bind SData.s).map (strncpy bpRepMaxlen) = some value
  | .strings => (unnamed type vn = false ∨ dupWords value.toList = []) ∧
      Fills bpRepMaxlen (stringsOf vars ++ dupWords value.toList)
  | .set => unnamed type vn = false ∨ vars ≠ []
  | .int => unnamed type vn = false ∨
      (vars.head?.bind SData.s).getD "0" = toString (DecimalText.atoi value.toList)
  | .other => True

def HoldStrings (vars : List SData) : Prop :=
  ∀ d ∈ vars, ∃ string, d.s = some string ∧ '\x00' ∉ string.toList

lemma HoldStrings.isSome {vars : List SData} (h : HoldStrings vars) : ∀ d ∈ vars, d.s.isSome := by
  intro d hd
  obtain ⟨string, hs, _⟩ := h d hd
  exact hs ▸ rfl

lemma HoldStrings.stringsOf {vars : List SData} (h : HoldStrings vars) :
    ∀ string ∈ Initng.stringsOf vars, '\x00' ∉ string.toList := by
  refine forall_mem_map.mpr fun d hd => ?_
  obtain ⟨string, hs, hfree⟩ := h d hd
  rwa [hs, getD_some]

/-- What entries hold: strings have no zeros inside, and an int has at most 11 characters. -/
structure Stored (type : DataType) (vars : List SData) : Prop where
  strings : type.type.kind = .strings → HoldStrings vars
  int : type.type.kind = .int → ∀ d ∈ vars, ∀ string ∈ d.s, string.length ≤ 11

def Enough (type : DataType) (vars : List SData) : Prop :=
  match type.type.kind with
  | .string => (vars.head?.bind SData.s).isSome
  | .strings => bpRepMaxlen ≤ (joined (stringsOf vars)).length
  | _ => True

section
variable {type : DataType} {vn : Option String} {value : String} {active : Sid} {g : G}
  {data : List SData}

def written (type : DataType) (vn : Option String) (value : String) (data : List SData) :
    List SData :=
  match type.type.kind with
  | .string => putData ⟨.ofName type.name, some value, vn⟩ data
  | .strings =>
    data ++ (dupWords value.toList).map fun word => ⟨.ofName type.name, some word, vn⟩
  | .set => addOnce ⟨.ofName type.name, none, vn⟩ data
  | .int =>
    putData ⟨.ofName type.name, some (toString (DecimalText.atoi value.toList)), vn⟩ data
  | .other => data

lemma data_setData (type : DataType) (vn : Option String) (active : Sid)
    (f : List SData → List SData) (g : G) :
    ((setData type vn active f g).svc active).data =
      if unnamed type vn then (g.svc active).data else f (g.svc active).data := by
  rw [setData, unnamed]
  split
  · rfl
  · rw [G.modify_svc_self]

lemma data_setStrings (type : DataType) (vn : Option String) (active : Sid)
    (words : List String) (g : G) :
    ((words.foldl (fun g word => setAnotherStringVar type vn active word g) g).svc active).data =
      if unnamed type vn then (g.svc active).data
      else (g.svc active).data ++ words.map fun word => ⟨.ofName type.name, some word, vn⟩ := by
  induction words generalizing g with
  | nil => simp
  | cons word words ih =>
    rw [foldl_cons, ih, setAnotherStringVar, data_setData]
    split
    · rfl
    · rw [append_assoc, map_cons, singleton_append]

lemma data_bpSetByType : ((bpSetByType type vn value active g).2.svc active).data =
    if unnamed type vn then (g.svc active).data else written type vn value (g.svc active).data := by
  have hstrings := data_setStrings type vn active (dupWords value.toList) g
  have hset (f : List SData → List SData) := data_setData type vn active f g
  unfold bpSetByType written
  rcases type with ⟨name, _ | _ | _ | _ | _ | _ | _ | _ | _ | _ | _ | _⟩
  all_goals first | exact hset _ | exact hstrings | simp [EDt.kind]

lemma success_bpSetByType :
    (bpSetByType type vn value active g).1.success = true ↔ type.type.kind ≠ .other := by
  unfold bpSetByType
  rcases type with ⟨name, _ | _ | _ | _ | _ | _ | _ | _ | _ | _ | _ | _⟩
  all_goals simp [EDt.kind, BpRep.failed]

def bpGetByKind (kind : VarKind) (vars : List SData) : Option BpRep :=
  match kind with
  | .string => (vars.head?.bind SData.s).map fun string => ⟨true, strncpy bpRepMaxlen string⟩
  | .strings => (bpGetStrings vars 0 bpRepMaxlen (blanks 0 bpRepMaxlen)).map fun message =>
      ⟨true, cText message⟩
  | .set => some ⟨!vars.isEmpty, ""⟩
  | .int => some ⟨true, (vars.head?.bind SData.s).getD "0"⟩
  | .other => some (.failed "Unknown data type.")

variable {r : Registered} {service vartype varname : String} {vars : List SData}
  {string : List Char}

lemma bpGetVariable_eq (hservice : service ≠ "") (hvartype : vartype ≠ "")
    (hfind : activeDbFindByName g service = some active)
    (htype : r.dataTypeFind vartype = some type) :
    bpGetVariable r service vartype varname g =
      bpGetByKind type.type.kind (varsOf type (orNull varname) active g) := by
  unfold bpGetVariable
  rw [if_neg (by simp [hservice, hvartype]), hfind, htype]
  rcases type with ⟨name, _ | _ | _ | _ | _ | _ | _ | _ | _ | _ | _ | _⟩
  all_goals rfl

lemma bpSetVariable_success (hfind : activeDbFindByName g service = some active)
    (htype : r.dataTypeFind vartype = some type)
    (h : (bpSetVariable r service vartype varname value g).1.success = true) :
    service ≠ "" ∧ vartype ≠ "" ∧ type.type.kind ≠ .other ∧
      (bpSetVariable r service vartype varname value g).2 =
        (bpSetByType type (orNull varname) value active g).2 := by
  unfold bpSetVariable at h ⊢
  rw [hfind, htype] at h ⊢
  dsimp only at h ⊢
  by_cases hservice : service.isEmpty
  · rw [if_pos hservice] at h
    cases h
  by_cases hvartype : vartype.isEmpty
  · rw [if_neg hservice, if_pos hvartype] at h
    cases h
  rw [if_neg hservice, if_neg hvartype] at h ⊢
  split at h
  · cases h
  split at h
  · cases h
  next hparsing hvalue =>
    rw [if_neg hparsing, if_neg hvalue]
    exact ⟨by simpa using hservice, by simpa using hvartype, success_bpSetByType.mp h, rfl⟩

lemma matches_self (type : SEntry) (s vn : Option String) :
    SData.matches type vn ⟨type, s, vn⟩ = true := by simp [SData.matches]

lemma head_putData (new : SData) (data : List SData) :
    ((putData new data).filter (SData.matches new.type new.vn)).head?.bind SData.s = new.s := by
  induction data with
  | nil =>
    rw [putData, filter_cons_of_pos (matches_self ..)]
    rfl
  | cons d data ih =>
    rw [putData]
    by_cases hd : d.matches new.type new.vn
    · have hd' : SData.matches new.type new.vn { d with s := new.s } = true := hd
      rw [if_pos hd, filter_cons_of_pos hd']
      rfl
    · rw [if_neg hd, filter_cons_of_neg hd, ih]

lemma filter_addOnce_ne_nil (new : SData) (data : List SData) :
    (addOnce new data).filter (SData.matches new.type new.vn) ≠ [] := by
  rw [addOnce, ne_eq, filter_eq_nil_iff]
  intro hnone
  split at hnone
  next hany =>
    obtain ⟨d, hd, hm⟩ := any_eq_true.mp hany
    exact hnone d hd hm
  · exact hnone new (by simp) (matches_self ..)

lemma joined_lt_append {xs ys : List String} (hx : xs ≠ []) (hy : ys ≠ []) :
    (joined xs).length < (joined (xs ++ ys)).length := by
  induction xs with
  | nil => exact absurd rfl hx
  | cons x xs ih =>
    cases xs with
    | nil =>
      obtain ⟨y, ys, rfl⟩ := exists_cons_of_ne_nil hy
      simp only [singleton_append, joined, length_append, length_cons]
      omega
    | cons x' xs =>
      have hrest := ih (cons_ne_nil _ _)
      simp only [cons_append, joined, length_append, length_cons] at hrest ⊢
      omega

lemma length_reply_le {message : List Char} (hs : ∀ d ∈ vars, d.s.isSome)
    (h : bpGetStrings vars 0 bpRepMaxlen (blanks 0 bpRepMaxlen) = some message) :
    (cText message).length ≤ min bpRepMaxlen (joined (stringsOf vars)).length := by
  have hzero : ∀ c ∈ (blanks 0 bpRepMaxlen).drop 0, c = '\x00' := by
    simp [blanks, mem_replicate]
  have hle := length_bpGetStrings_le hs hzero (by rw [length_blanks]; omega) h
  omega

lemma carries_strings_iff (strings : List String) (h : HoldStrings vars) :
    bpGetByKind .strings vars =
      some ⟨true, String.ofList (joined (stringsOf vars ++ strings))⟩ ↔
      strings = [] ∧ Fills bpRepMaxlen (stringsOf vars) := by
  have hreply (text : List Char) : bpGetByKind .strings vars = some ⟨true, String.ofList text⟩ ↔
      ∃ m, bpGetStrings vars 0 bpRepMaxlen (blanks 0 bpRepMaxlen) = some m ∧
        cText m = String.ofList text := by
    simp [bpGetByKind, map_eq_some_iff]
  rw [hreply]
  by_cases hnil : strings = []
  · have hiff : (∃ m, bpGetStrings vars 0 bpRepMaxlen (blanks 0 bpRepMaxlen) = some m ∧
        cText m = String.ofList ([] ++ joined (stringsOf vars))) ↔
          Fills bpRepMaxlen (stringsOf vars) := bpGetStrings_joined_iff h.isSome h.stringsOf
    rw [hnil, append_nil]
    simpa using hiff
  · refine iff_of_false (fun ⟨m, hm, htext⟩ => ?_) fun h => hnil h.1
    have hsome := (bpGetStrings_isSome h.isSome).mp (isSome_iff_exists.mpr ⟨m, hm⟩)
    have hle := length_reply_le h.isSome hm
    have hne : stringsOf vars ≠ [] := by simpa [stringsOf] using hsome.1
    have hlt := joined_lt_append hne hnil
    rw [htext, String.length_ofList] at hle
    omega

lemma dupNextWord_sublist {word rest : List Char} (h : dupNextWord string = some (word, rest)) :
    word.Sublist string ∧ rest.Sublist string := by
  have hquoted {close : Char} {string word rest : List Char}
      (h : dupQuoted close string = some (word, rest)) :
      word.Sublist string ∧ rest.Sublist string := by
    unfold dupQuoted at h
    dsimp only at h
    split at h
    · cases h
    · cases h
      exact ⟨takeWhile_sublist _, (drop_sublist _ _).trans (drop_sublist _ _)⟩
  have hjump : (jumpSpaces string).Sublist string := dropWhile_sublist _
  unfold dupNextWord at h
  split at h
  · cases h
  next c tail heq =>
    rw [heq] at hjump
    have htail : tail.Sublist string := (sublist_cons_self c tail).trans hjump
    split at h
    · cases h
    split at h
    · exact (hquoted h).imp (·.trans htail) (·.trans htail)
    split at h
    · exact (hquoted h).imp (·.trans htail) (·.trans htail)
    · dsimp only at h
      split at h
      · cases h
      · cases h
        exact ⟨(takeWhile_sublist _).trans hjump, (drop_sublist _ _).trans hjump⟩

lemma mem_of_mem_dupWords {word : String} (h : word ∈ dupWords string) {c : Char}
    (hc : c ∈ word.toList) : c ∈ string := by
  induction string using dupWords.induct with
  | case1 string hnone =>
    rw [dupWords, hnone] at h
    cases h
  | case2 string word' rest hsome ih =>
    rw [dupWords, hsome] at h
    obtain ⟨hword, hrest⟩ := dupNextWord_sublist hsome
    rcases mem_cons.mp h with rfl | hin
    · exact hword.subset (by simpa using hc)
    · exact hrest.subset (ih hin)

lemma carries_iff {vn : Option String} {value : String} {data : List SData}
    (hvalue : value.length ≤ bpRepMaxlen) (hnul : '\x00' ∉ value.toList)
    (hstored : Stored type (data.filter (SData.matches (.ofName type.name) vn))) :
    Carries type.type.kind value
        (stringsOf (data.filter (SData.matches (.ofName type.name) vn)))
        (bpGetByKind type.type.kind ((if unnamed type vn then data
          else written type vn value data).filter (SData.matches (.ofName type.name) vn))) ↔
      KeepsValue type vn value (data.filter (SData.matches (.ofName type.name) vn)) := by
  rw [KeepsValue, written]
  cases hkind : type.type.kind with
  | string =>
    have hiff (o : Option String) : (o.map fun string =>
        (⟨true, strncpy bpRepMaxlen string⟩ : BpRep)) = some ⟨true, value⟩ ↔
          o.map (strncpy bpRepMaxlen) = some value := by cases o <;> simp
    refine (hiff _).trans ?_
    cases hnamed : unnamed type vn with
    | true => exact ⟨.inr, fun h => h.resolve_left nofun⟩
    | false =>
      have hput := head_putData ⟨.ofName type.name, some value, vn⟩ data
      rw [if_neg Bool.false_ne_true, hput]
      exact iff_of_true (congrArg some (strncpy_of_le hvalue)) (.inl rfl)
  | int =>
    cases hnamed : unnamed type vn with
    | true => simp [Carries, bpGetByKind]
    | false =>
      have hput := head_putData ⟨.ofName type.name,
        some (toString (DecimalText.atoi value.toList)), vn⟩ data
      refine iff_of_true ?_ (.inl rfl)
      rw [if_neg Bool.false_ne_true, Carries, bpGetByKind, hput, getD_some]
  | set =>
    cases hnamed : unnamed type vn with
    | true => simp [Carries, bpGetByKind]
    | false =>
      have hput := filter_addOnce_ne_nil ⟨.ofName type.name, none, vn⟩ data
      refine iff_of_true ⟨"", ?_⟩ (.inl rfl)
      rw [if_neg Bool.false_ne_true, bpGetByKind, some_inj, BpRep.mk.injEq]
      exact ⟨by simpa using hput, rfl⟩
  | strings =>
    have hentries := hstored.strings hkind
    generalize hvars : data.filter (SData.matches (.ofName type.name) vn) = vars at hentries
    cases hnamed : unnamed type vn with
    | true =>
      rw [if_pos rfl, hvars]
      refine (carries_strings_iff _ hentries).trans
        ⟨fun ⟨hnil, hfills⟩ => ?_, fun ⟨hnil, hfills⟩ => ?_⟩
      · exact ⟨.inr hnil, by rwa [hnil, append_nil]⟩
      · have hnil := hnil.resolve_left nofun
        exact ⟨hnil, by rwa [hnil, append_nil] at hfills⟩
    | false =>
      -- The words are entries that are found, after those that were there.
      let new := (dupWords value.toList).map fun word =>
        (⟨.ofName type.name, some word, vn⟩ : SData)
      have hfound : (data ++ new).filter (SData.matches (.ofName type.name) vn) = vars ++ new := by
        rw [filter_append, hvars, filter_eq_self.mpr]
        simp [new, matches_self]
      have hwords : stringsOf (vars ++ new) = stringsOf vars ++ dupWords value.toList := by
        simp [stringsOf, new, Function.comp_def]
      have hnew : HoldStrings (vars ++ new) := by
        refine forall_mem_append.mpr ⟨hentries, forall_mem_map.mpr fun word hin => ?_⟩
        exact ⟨word, rfl, fun hzero => hnul (mem_of_mem_dupWords hin hzero)⟩
      have hiff := carries_strings_iff [] hnew
      rw [if_neg Bool.false_ne_true, hfound]
      rw [append_nil, hwords] at hiff
      exact hiff.trans ⟨fun h => ⟨.inl rfl, h.2⟩, fun h => ⟨rfl, h.2⟩⟩
  | other => exact iff_of_true trivial trivial

lemma isSome_bpGetByKind (hstored : Stored type vars) :
    (bpGetByKind type.type.kind vars).isSome ↔ Enough type vars := by
  rw [Enough]
  cases hkind : type.type.kind with
  | string => rw [bpGetByKind, isSome_map]
  | strings =>
    rw [bpGetByKind, isSome_map, bpGetStrings_isSome (hstored.strings hkind).isSome]
    refine and_iff_right_of_imp ?_
    rintro hroom rfl
    exact absurd hroom (by decide)
  | set | int | other => exact iff_of_true rfl trivial

lemma length_bpGetByKind (hstored : Stored type vars) {rep : BpRep}
    (h : bpGetByKind type.type.kind vars = some rep) : rep.message.length ≤ bpRepMaxlen := by
  cases hkind : type.type.kind with
  | string =>
    rw [hkind] at h
    obtain ⟨string, _, rfl⟩ := map_eq_some_iff.mp h
    exact length_strncpy_le ..
  | strings =>
    rw [hkind] at h
    obtain ⟨message, hm, rfl⟩ := map_eq_some_iff.mp h
    exact (length_reply_le (hstored.strings hkind).isSome hm).trans (Nat.min_le_left ..)
  | set =>
    rw [hkind] at h
    cases h
    exact Nat.zero_le _
  | int =>
    have hshort := hstored.int hkind
    rw [hkind] at h
    cases h
    cases hhead : vars.head?.bind SData.s with
    | none => decide
    | some string =>
      obtain ⟨d, hd, hs⟩ := bind_eq_some_iff.mp hhead
      exact (hshort d (mem_of_head? hd) string hs).trans (by decide)
  | other =>
    rw [hkind] at h
    cases h
    decide

end

/-- What is got after it was set is the value, if the name is there that the type asks for and
strings fill the message; there is a reply if there is enough to copy, and all of it is written
inside the message. -/
theorem bpGetVariable_set_iff {r : Registered} {service vartype varname : String} {g : G}
    {active : Sid} {type : DataType} (hservice : service ≠ "") (hvartype : vartype ≠ "")
    (hfind : activeDbFindByName g service = some active)
    (htype : r.dataTypeFind vartype = some type)
    (hstored : Stored type (varsOf type (orNull varname) active g)) :
    (∀ value : String, value.length ≤ bpRepMaxlen → '\x00' ∉ value.toList →
      (bpSetVariable r service vartype varname value g).1.success = true →
      (Carries type.type.kind value (stringsOf (varsOf type (orNull varname) active g))
          (bpGetVariable r service vartype varname
            (bpSetVariable r service vartype varname value g).2) ↔
        KeepsValue type (orNull varname) value (varsOf type (orNull varname) active g))) ∧
    ((bpGetVariable r service vartype varname g).isSome ↔
      Enough type (varsOf type (orNull varname) active g)) ∧
    (∀ rep, bpGetVariable r service vartype varname g = some rep →
      rep.message.length ≤ bpRepMaxlen) ∧
    bpGetStringsIn (varsOf type (orNull varname) active g) 0 bpRepMaxlen (blanks 0 bpRepMaxlen) ≠
      .error .outside := by
  refine ⟨fun value hvalue hnul hsuccess => ?_, ?_, fun rep hrep => ?_, ?_⟩
  · obtain ⟨-, -, -, hset⟩ := bpSetVariable_success hfind htype hsuccess
    have hfind' : activeDbFindByName
        (bpSetByType type (orNull varname) value active g).2 service = some active := by
      obtain ⟨data, hdata⟩ := dataChange_bpSetByType type (orNull varname) value active g
      rw [hdata, activeDbFindByName_congr (G.modify_activeDb ..), hfind]
      intro s
      by_cases hs : s = active
      · rw [hs, G.modify_svc_self]
      · rw [G.modify_svc_ne _ _ _ _ hs]
    rw [hset, bpGetVariable_eq hservice hvartype hfind' htype]
    simp only [varsOf, data_bpSetByType]
    exact carries_iff hvalue hnul hstored
  · rw [bpGetVariable_eq hservice hvartype hfind htype]
    exact isSome_bpGetByKind hstored
  · rw [bpGetVariable_eq hservice hvartype hfind htype] at hrep
    exact length_bpGetByKind hstored hrep
  · rw [bpGetStringsIn_eq (by rw [length_blanks]; omega)]
    cases bpGetStrings (varsOf type (orNull varname) active g) 0 bpRepMaxlen
      (blanks 0 bpRepMaxlen) <;> nofun

def someOptions : Registered where
  states := []
  states_names := nodup_nil
  stypes := []
  ptypes := []
  optionDb := [⟨"pid_file", .string⟩, ⟨"need", .strings⟩]

lemma sshd_stored (type : DataType) : Stored type (varsOf type none 0 sshdParsed.2) where
  strings _ := nofun
  int _ := nofun

theorem bpGetVariable_set_pidFile : bpGetVariable someOptions "sshd" "pid_file" ""
      (bpSetVariable someOptions "sshd" "pid_file" "" "/run/sshd.pid" sshdParsed.2).2 =
    some ⟨true, "/run/sshd.pid"⟩ := by
  have hfind : activeDbFindByName sshdParsed.2 "sshd" = some 0 := by decide
  have htype : someOptions.dataTypeFind "pid_file" = some ⟨"pid_file", .string⟩ := by decide
  have hstored : Stored ⟨"pid_file", .string⟩ (varsOf ⟨"pid_file", .string⟩ (orNull "") 0
    sshdParsed.2) := sshd_stored _
  have hpair := bpGetVariable_set_iff (by decide) (by decide) hfind htype hstored
  exact (hpair.1 "/run/sshd.pid" (by decide) (by decide) (by decide)).mpr (.inl rfl)

/-- One word of several that can be set does not fill the message, and the loop takes the next
string where there is none. -/
theorem bpGetVariable_not_always_set :
    ¬ ∀ (r : Registered) (service vartype varname value : String) (g : G) (active : Sid)
      (type : DataType), activeDbFindByName g service = some active →
      r.dataTypeFind vartype = some type →
      Stored type (varsOf type (orNull varname) active g) → value.length ≤ bpRepMaxlen →
      '\x00' ∉ value.toList → (bpSetVariable r service vartype varname value g).1.success = true →
      Carries type.type.kind value (stringsOf (varsOf type (orNull varname) active g))
        (bpGetVariable r service vartype varname
          (bpSetVariable r service vartype varname value g).2) := by
  intro hall
  have hcarries := hall someOptions "sshd" "need" "" "net" sshdParsed.2 0 ⟨"need", .strings⟩
    (by decide) (by decide) (sshd_stored _) (by decide) (by decide) (by decide +kernel)
  have hnull : bpGetVariable someOptions "sshd" "need" ""
      (bpSetVariable someOptions "sshd" "need" "" "net" sshdParsed.2).2 = none := by
    decide +kernel
  rw [hnull] at hcarries
  cases hcarries

end Initng
