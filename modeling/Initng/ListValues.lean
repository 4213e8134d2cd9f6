import Initng.BpVariables
import Initng.WordSplit

namespace Initng

open List WordSplit

def listDelim (c : Char) : Bool := [' ', '\t', ','].contains c

/-- One entry is added for each longest run of characters other than space, tab and comma. -/
def KeepsWords (type : DataType) (vn : Option String) (value : String) : Prop :=
  ∀ active g, ((bpSetByType type vn value active g).2.svc active).data = (g.svc active).data ++
    (words listDelim value.toList).map fun word => ⟨.ofName type.name, some (.ofList word), vn⟩

def Unquoted (text : List Char) : Prop := ∀ c ∈ text, c ∉ ['\n', ';', '\x22', '\x7b', '\x7d']

instance (text : List Char) : Decidable (Unquoted text) := List.decidableBAll _ _

section
variable {text : List Char}

lemma dupNextWord_unquoted (h : Unquoted text) : ∃ word rest,
    jumpSpaces text = word ++ rest ∧ (∀ c ∈ word, listDelim c = false) ∧
      (∀ c ∈ rest.head?, listDelim c = true) ∧
      dupNextWord text = if word = [] then none else some (word, rest) := by
  have hjump : Unquoted (jumpSpaces text) := fun c hc => h c ((dropWhile_sublist _).subset hc)
  rw [dupNextWord]
  generalize jumpSpaces text = string at hjump
  have hstop {c : Char} (hc : c ∈ string) :
      " \t\n;,".toList.contains c = true ↔ listDelim c = true := by
    have hc := hjump c hc
    simp [listDelim] at hc ⊢
    tauto
  let word := string.takeWhile fun c => !" \t\n;,".toList.contains c
  let rest := string.dropWhile fun c => !" \t\n;,".toList.contains c
  have hsplit : word ++ rest = string := takeWhile_append_dropWhile
  have hdrop : string.drop word.length = rest := by rw [← hsplit, drop_left]
  refine ⟨word, rest, hsplit.symm, fun c hc => ?_, fun c hc => ?_, ?_⟩
  · have hin := all_eq_true.mp all_takeWhile c hc
    rw [Bool.not_eq_true', ← Bool.not_eq_true, hstop ((takeWhile_sublist _).subset hc)] at hin
    simpa using hin
  · have hhead := head?_dropWhile_not (fun c => !" 	
;,".toList.contains c) string
    rw [show (string.dropWhile _).head? = some c from hc] at hhead
    have hin : c ∈ string := (dropWhile_sublist _).subset (mem_of_head? hc)
    exact (hstop hin).mp (by simpa only [Bool.not_eq_false'] using hhead)
  · cases string with
    | nil => rfl
    | cons c tail =>
      have hc := hjump c (.head _)
      simp only [mem_cons, not_mem_nil, or_false, not_or] at hc
      simp only [hc, if_false]
      rw [hdrop]
      simp only [List.isEmpty_iff]
      rfl

lemma words_until_comma {word rest : List Char} (hjump : jumpSpaces text = word ++ rest)
    (hword : ∀ c ∈ word, listDelim c = false) (hrest : ∀ c ∈ rest.head?, listDelim c = true) :
    words listDelim (text.takeWhile (· ≠ ',')) =
      words listDelim word ++ words listDelim (rest.takeWhile (· ≠ ',')) := by
  let blanks := text.takeWhile fun c => c == ' ' || c == '	'
  have hblank (c : Char) (hc : c ∈ blanks) : c = ' ' ∨ c = '	' := by
    simpa using all_eq_true.mp all_takeWhile c hc
  have htext : text = blanks ++ (word ++ rest) := by
    rw [← hjump]
    exact takeWhile_append_dropWhile.symm
  have hhead : ∀ c ∈ (rest.takeWhile (· ≠ ',')).head?, listDelim c = true := by
    intro c hc
    rw [head?_takeWhile, Option.mem_def, Option.filter_eq_some_iff] at hc
    exact hrest c hc.1
  have hcomma (c : Char) (hc : c ∈ word) : decide (c ≠ ',') = true := by
    refine decide_eq_true fun he => absurd (hword c hc) ?_
    rw [he]
    decide
  rw [htext, takeWhile_append_of_pos fun c hc => by rcases hblank c hc with rfl | rfl <;> decide,
    takeWhile_append_of_pos hcomma,
    words_append fun c hc => by rcases hblank c hc with rfl | rfl <;> rfl,
    words_append_of_head hhead]

lemma dupWords_eq (h : Unquoted text) :
    dupWords text = (words listDelim (text.takeWhile (· ≠ ','))).map String.ofList := by
  induction text using dupWords.induct with
  | case1 text hnone =>
    obtain ⟨word, rest, hjump, hword, hrest, heq⟩ := dupNextWord_unquoted h
    rw [hnone] at heq
    obtain rfl : word = [] := by
      by_contra hne
      rw [if_neg hne] at heq
      cases heq
    have hcomma : rest.takeWhile (· ≠ ',') = [] := by
      cases rest with
      | nil => rfl
      | cons c tail =>
        have hblank := head?_dropWhile_not (fun c => c == ' ' || c == '	') text
        rw [show text.dropWhile _ = c :: tail from hjump] at hblank
        have hdelim := hrest c rfl
        simp [listDelim] at hblank hdelim
        obtain rfl := (hdelim.resolve_left hblank.1).resolve_left hblank.2
        rfl
    rw [dupWords, hnone, words_until_comma hjump hword hrest, hcomma]
    rfl
  | case2 text word rest hsome ih =>
    obtain ⟨word', rest', hjump, hword, hrest, heq⟩ := dupNextWord_unquoted h
    rw [hsome] at heq
    split at heq
    · cases heq
    next hne =>
      cases heq
      have hrest' : Unquoted rest := fun c hc => h c ((dupNextWord_sublist hsome).2.subset hc)
      rw [dupWords, hsome, words_until_comma hjump hword hrest, words_eq_singleton hne hword]
      exact congrArg (_ :: ·) (ih hrest')

end

/-- All words of a list value are kept exactly if none stands behind a comma. -/
theorem keepsWords_iff {type : DataType} {vn : Option String} {value : String}
    (hkind : type.type.kind = .strings) (hnamed : unnamed type vn = false)
    (hvalue : Unquoted value.toList) :
    KeepsWords type vn value ↔ words listDelim (value.toList.dropWhile (· ≠ ',')) = [] := by
  have hcomma : ∀ c ∈ (value.toList.dropWhile (· ≠ ',')).head?, listDelim c = true := by
    intro c hc
    have hnot := head?_dropWhile_not (· ≠ ',') value.toList
    rw [show _ = some c from hc] at hnot
    rw [show c = ',' by simpa using hnot]
    rfl
  have hwords := words_append_of_head hcomma (value.toList.takeWhile (· ≠ ','))
  rw [takeWhile_append_dropWhile] at hwords
  have hentry : Function.Injective fun word : List Char =>
      (⟨.ofName type.name, some (.ofList word), vn⟩ : SData) := by
    intro word word' he
    simpa [String.ofList_inj] using he
  simp only [KeepsWords, data_bpSetByType, hnamed, written, hkind, dupWords_eq hvalue, hwords,
    Bool.false_eq_true, if_false, append_cancel_left_eq, List.map_map]
  constructor
  · intro h
    have hall := map_injective_iff.mpr hentry (h 0 (configGlobalNew ⟨0, 0⟩))
    exact self_eq_append_right.mp hall
  · intro h active g
    rw [h, append_nil]
    rfl

/-- Two words with a comma behind them. -/
theorem keepsWords_need : KeepsWords ⟨"need", .strings⟩ none "net	 sshd," :=
  (keepsWords_iff rfl rfl (by decide)).mpr (by decide)

/-- What stands behind a comma is lost. -/
theorem not_always_keepsWords : ¬ ∀ value : String, Unquoted value.toList →
    KeepsWords ⟨"need", .strings⟩ none value := by
  intro hall
  have hkept := hall "net, sshd" (by decide) 0 (configGlobalNew ⟨0, 0⟩)
  exact absurd hkept (by decide +kernel)

end Initng
