import Mathlib.Data.List.TakeWhile
import Initng.ListHead

/-! `modules/history/initng_history.c`. -/

namespace Initng

open LinkRing List Function

section
variable {α : Type} [DecidableEq α]

/-- The links of `history_db`, `history_records`, and the records that were freed, the last one
first. -/
structure HistoryLinks (α : Type) where
  links : Links α
  records : ℕ
  freed : List α

def HistoryLinks.addHist (head hist : α) (c : HistoryLinks α) : Option (HistoryLinks α) := do
  if c.links hist ≠ none then
    none
  let links ← initngListAdd hist head (update c.links hist (some ⟨none, none⟩))
  if c.records + 1 > 800 then
    let entry ← links.prev head
    let entry ← entry
    let links ← initngListDel entry links
    return ⟨update links entry none, c.records, entry :: c.freed⟩
  return ⟨links, c.records + 1, c.freed⟩

def addHists (head : α) : List α → Option (HistoryLinks α)
  | [] => some ⟨update (fun _ => none) head (some ⟨some head, some head⟩), 0, []⟩
  | hist :: recs => (addHists head recs).bind (HistoryLinks.addHist head hist)

/-- No record is where the head or one of the 800 records before it is. -/
def Apart (head : α) : List α → Prop
  | [] => True
  | hist :: recs => hist ≠ head ∧ hist ∉ recs.take 800 ∧ Apart head recs

/-- The list has the last 800 records, the newest first, and the older ones have been freed, each
one once. -/
structure KeepsLast (head : α) (recs : List α) (c : HistoryLinks α) : Prop where
  holds : Holds c.links head (recs.take 800)
  freed : c.freed = recs.drop 800
  records : c.records = min recs.length 800
  unused : ∀ a ∉ head :: recs.take 800, c.links a = none

variable {head hist : α} {recs xs : List α} {c : HistoryLinks α} {h h' : Links α} {a : α}

omit [DecidableEq α] in
lemma unused_of_next (he : h'.next a = h.next a) (ha : h a = none) : h' a = none := by
  simpa [Links.next, ha] using he

lemma Holds.update (r : Holds h head xs) (ha : a ∉ xs ++ [head]) (cell : Option (Cell α)) :
    Holds (Function.update h a cell) head xs := by
  refine r.congr fun b hb => ?_
  have hne : b ≠ a := fun he => ha (he ▸ hb)
  rw [next_update, prev_update, if_neg hne, if_neg hne]
  exact ⟨rfl, rfl⟩

lemma KeepsLast.addHist (hc : KeepsLast head recs c) (hhead : hist ≠ head)
    (hhist : hist ∉ recs.take 800) :
    ∃ c' ∈ c.addHist head hist, KeepsLast head (hist :: recs) c' := by
  have hnew : c.links hist = none := hc.unused hist (by simp [hhead, hhist])
  have hring := hc.holds.update (a := hist) (by simp [hhead, hhist]) (some ⟨none, none⟩)
  have hnext : Links.next (update c.links hist (some ⟨none, none⟩)) hist = some none := by
    simp [next_update]
  have hprev : Links.prev (update c.links hist (some ⟨none, none⟩)) hist = some none := by
    simp [prev_update]
  obtain ⟨links, hadd, hholds, hframe⟩ := hring.add hnext hprev
  have hunused : ∀ a ∉ head :: hist :: recs.take 800, links a = none := by
    intro a ha
    refine unused_of_next (hframe a ha).1 ?_
    simp only [mem_cons, not_or] at ha
    rw [update_of_ne ha.2.1]
    exact hc.unused a (by simp [ha.1, ha.2.2])
  have hrecords := hc.records
  by_cases hfull : 800 ≤ recs.length
  · have hlt : 799 < recs.length := hfull
    obtain ⟨e, htake, hdrop⟩ : ∃ e, recs.take 800 = recs.take 799 ++ [e] ∧
        recs.drop 799 = e :: recs.drop 800 :=
      ⟨_, (take_append_getElem hlt).symm, drop_eq_getElem_cons hlt⟩
    rw [htake, ← cons_append] at hholds hunused
    have hlast : links.prev head = some (some e) := by
      rw [hholds.prev_head, getLast?_concat, Option.getD_some]
    obtain ⟨links', hdel, hholds', hnext', -, hframe'⟩ := hholds.del
    rw [append_nil] at hholds'
    refine ⟨⟨update links' e none, c.records, e :: c.freed⟩, ?_,
      hholds'.update (hholds'.notMem hnext') none, ?_, ?_, fun a ha => ?_⟩
    · have hmany : c.records + 1 > 800 := by omega
      simp [HistoryLinks.addHist, hnew, hadd, hmany, hlast, hdel]
    · exact (congrArg _ hc.freed).trans hdrop.symm
    · rw [length_cons]
      exact hrecords.trans (by omega)
    · dsimp only
      by_cases hae : a = e
      · rw [hae, update_self]
      · have hout : a ∉ head :: (hist :: recs.take 799 ++ [e]) := by simpa [hae] using ha
        rw [update_of_ne hae]
        exact unused_of_next (hframe' a hout).1 (hunused a hout)
  · have hshort : recs.take 800 = recs := take_of_length_le (by omega)
    have hshort' : (hist :: recs).take 800 = hist :: recs :=
      take_of_length_le (by rw [length_cons]; omega)
    rw [hshort] at hholds hunused
    refine ⟨⟨links, c.records + 1, c.freed⟩, ?_, hshort'.symm ▸ hholds, ?_, ?_,
      hshort'.symm ▸ hunused⟩
    · have hfew : ¬ c.records + 1 > 800 := by omega
      simp [HistoryLinks.addHist, hnew, hadd, hfew]
    · rw [hc.freed, drop_of_length_le (by omega), drop_of_length_le (by rw [length_cons]; omega)]
    · dsimp only
      rw [length_cons]
      omega

/-- After any calls the list is the log of the last 800 records. -/
theorem addHists_keepsLast (head : α) (recs : List α) (h : Apart head recs) :
    ∃ c ∈ addHists head recs, KeepsLast head recs c := by
  induction recs with
  | nil =>
    refine ⟨_, rfl, Ring.of_chain (nodup_singleton _) ?_, rfl, rfl, fun a ha => ?_⟩
    · simp [Links.Linked, Links.next, Links.prev]
    · have hne : a ≠ head := by simpa using ha
      dsimp only
      rw [update_of_ne hne]
  | cons hist recs ih =>
    obtain ⟨hhead, hhist, hrecs⟩ := h
    obtain ⟨c, hc, hkeeps⟩ := ih hrecs
    obtain ⟨c', hc', hkeeps'⟩ := hkeeps.addHist hhead hhist
    refine ⟨c', ?_, hkeeps'⟩
    rw [addHists, Option.mem_def.mp hc]
    exact hc'

theorem addHists_keepsLast_two : Apart 0 [2, 1] ∧ ∃ c ∈ addHists 0 [2, 1], KeepsLast 0 [2, 1] c :=
  have h : Apart 0 [2, 1] := ⟨by decide, by decide, by decide, by decide, trivial⟩
  ⟨h, addHists_keepsLast 0 [2, 1] h⟩

end

def rowLength (i : ℕ) : List Char → ℕ
  | [] => i
  | c :: tmp =>
    if c = '\n' ∨ 70 ≤ i then i
    else if 60 < i ∧ (c = ' ' ∨ c = '\t') then i
    else rowLength (i + 1) tmp

def indention (c : Char) : Bool := c == ' ' || c == '\t' || c == '\n'

/-- The loop of `cmd_log` over the data of a record; a row that does not fit into `buf` is a
fault. -/
def logRows : ℕ → List Char → Option (List (List Char))
  | 0, _ => none
  | fuel + 1, tmp =>
    let tmp := tmp.dropWhile indention
    if tmp = [] then some []
    else
      let i := rowLength 0 tmp
      if i < 71 then (logRows fuel (tmp.drop i)).map (tmp.take i :: ·) else none

structure RowsOf (text : List Char) (rows : List (List Char)) : Prop where
  length : ∀ row ∈ rows, 1 ≤ row.length ∧ row.length ≤ 70
  start : ∀ row ∈ rows, ∀ c ∈ row.head?, c ≠ ' ' ∧ c ≠ '\t' ∧ c ≠ '\n'
  newline : ∀ row ∈ rows, '\n' ∉ row
  all : (rows.flatten.filter fun c => c != ' ' && c != '\t') = text.filter fun c => !indention c

lemma rowLength_spec {i : ℕ} (hi : i ≤ 70) (tmp : List Char) :
    ∃ k ≤ tmp.length, rowLength i tmp = i + k ∧ i + k ≤ 70 ∧ '\n' ∉ tmp.take k := by
  induction tmp generalizing i with
  | nil => exact ⟨0, Nat.le_refl 0, rfl, hi, not_mem_nil⟩
  | cons c tmp ih =>
    rw [rowLength]
    split
    · exact ⟨0, Nat.zero_le _, rfl, hi, not_mem_nil⟩
    next hc =>
      split
      · exact ⟨0, Nat.zero_le _, rfl, hi, not_mem_nil⟩
      · obtain ⟨k, hk, he, hle, hnot⟩ := ih (i := i + 1) (by omega)
        refine ⟨k + 1, Nat.succ_le_succ hk, by omega, by omega, ?_⟩
        rw [take_succ_cons, mem_cons, not_or]
        exact ⟨fun he => hc (.inl he.symm), hnot⟩

lemma RowsOf.cons {text row rest : List Char} {c : Char} {rows : List (List Char)}
    (h : RowsOf rest rows) (hc : indention c = false) (hrow : '\n' ∉ row) (hlen : row.length < 70)
    (htext : text.dropWhile indention = c :: (row ++ rest)) : RowsOf text ((c :: row) :: rows) := by
  have hstart : c ≠ ' ' ∧ c ≠ '\t' ∧ c ≠ '\n' := by simpa [indention, and_assoc] using hc
  have hsame : ((c :: row).filter fun c => c != ' ' && c != '\t') =
      (c :: row).filter fun c => !indention c := by
    refine filter_congr fun x hx => ?_
    have hx : x ≠ '\n' := by
      rintro rfl
      exact (mem_cons.mp hx).elim (fun he => hstart.2.2 he.symm) hrow
    simp [indention, bne, beq_false_of_ne hx]
  have hblank : (text.takeWhile indention).filter (fun c => !indention c) = [] :=
    filter_eq_nil_iff.mpr fun x hx => by simp [mem_takeWhile_imp hx]
  refine ⟨forall_mem_cons.mpr ⟨⟨by simp, hlen⟩, h.length⟩,
    forall_mem_cons.mpr ⟨fun x hx => Option.mem_some.mp hx ▸ hstart, h.start⟩,
    forall_mem_cons.mpr ⟨?_, h.newline⟩, ?_⟩
  · rw [mem_cons, not_or]
    exact ⟨fun he => hstart.2.2 he.symm, hrow⟩
  · rw [flatten_cons, filter_append, h.all, hsame, ← takeWhile_append_dropWhile (l := text), htext,
      ← cons_append, filter_append, filter_append, hblank, nil_append]

theorem logRows_rowsOf (text : List Char) :
    ∃ rows ∈ logRows (text.length + 1) text, RowsOf text rows := by
  have hrun (fuel : ℕ) (text : List Char) (hfuel : text.length < fuel) :
      ∃ rows ∈ logRows fuel text, RowsOf text rows := by
    induction fuel generalizing text with
    | zero => exact absurd hfuel (Nat.not_lt_zero _)
    | succ fuel ih =>
      rw [logRows]
      dsimp only
      have hless := (dropWhile_sublist indention (l := text)).length_le
      have hhead := head?_dropWhile_not indention text
      cases htmp : text.dropWhile indention with
      | nil =>
        have hall : ∀ c ∈ text, indention c = true := dropWhile_eq_nil_iff.mp htmp
        refine ⟨[], rfl, by simp, by simp, by simp, ?_⟩
        exact (filter_eq_nil_iff.mpr fun c hc => by simp [hall c hc]).symm
      | cons c tmp =>
        rw [htmp] at hless hhead
        have hc : c ≠ '\n' := by
          rintro rfl
          cases hhead
        obtain ⟨k, hk, hlen, hle, hnot⟩ := rowLength_spec (by decide : 1 ≤ 70) tmp
        have hi : rowLength 0 (c :: tmp) = k + 1 := by
          simp [rowLength, hc, hlen, Nat.add_comm]
        obtain ⟨rows, hrows, hall⟩ := ih (tmp.drop k) (by simp at hless ⊢; omega)
        refine ⟨(c :: tmp.take k) :: rows, ?_, hall.cons hhead hnot ?_ ?_⟩
        · rw [if_neg (cons_ne_nil _ _), hi, if_pos (by omega), drop_succ_cons,
            Option.mem_def.mp hrows]
          rfl
        · rw [length_take]
          omega
        · rw [htmp, take_append_drop]
  exact hrun _ text (Nat.lt_succ_self _)

end Initng
