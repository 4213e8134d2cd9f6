import Mathlib.Data.List.TakeWhile
import Initng.SimpleRun

namespace Initng.Launcher

open WordSplit HeapBlock List Option

/-- `strtok_r` from a place in a block: the block, the place to go on from, and the token. -/
def strtokR (delim : Char → Bool) (block : List Char) (pos : ℕ) :
    Option ((List Char × ℕ) × Option ℕ) :=
  (textAt nul block pos).map fun text =>
    let start := (text.takeWhile delim).length
    let stop := start + ((text.drop start).takeWhile fun c => !delim c).length
    if stop = start then ((block, pos + start), none)
    else if stop = text.length then ((block, pos + stop), some (pos + start))
    else ((block.set (pos + stop) nul, pos + stop + 1), some (pos + start))

structure Tokens where
  block : List Char
  saveptr : ℕ
  /-- The tokens in `array`, by their places in the block, and the number of its slots. -/
  array : List ℕ
  arraySize : ℕ

def Tokens.push (tok : ℕ) (t : Tokens) : Option Tokens :=
  if t.array.length < t.arraySize then some { t with array := t.array ++ [tok] } else none

def Tokens.grow (t : Tokens) : Tokens :=
  if t.arraySize ≤ t.array.length then { t with arraySize := t.arraySize + 16 } else t

def tokensFrom (delim : Char → Bool) : ℕ → Tokens → Option Tokens
  | 0, _ => none
  | fuel + 1, t => do
    let ((block, saveptr), tok) ← strtokR delim t.block t.saveptr
    match tok with
    | none => some { t with block := block, saveptr := saveptr }
    | some tok =>
      let t ← Tokens.push tok { t with block := block, saveptr := saveptr }
      tokensFrom delim fuel t.grow

structure SplitBlock where
  base : Int
  string : List Char
  strs : List (Option Int)

/-- The string is copied to `dest`, and `realloc` moves the copy to `tmp`. -/
def splitBlock (delim : Char → Bool) (mem : List Char) (dest tmp : Int) : Option SplitBlock := do
  let string ← skipDelim delim mem
  let text ← textAt nul string 0
  let ((block, saveptr), tok) ← strtokR delim (text ++ [nul]) 0
  let tok ← tok
  let t ← Tokens.push tok ⟨block, saveptr, [], 16⟩
  let t ← tokensFrom delim (text.length + 1) t
  if t.array.length < t.arraySize then
    let array := t.array.map fun tok : ℕ => dest + tok
    let array := if tmp = dest then array else array.map fun p => p + (tmp - dest)
    some ⟨tmp, t.block, array.map some ++ [none]⟩
  else none

/-- The entries of the array are the words in the block, in order, with `NULL` behind them, and the
block begins with the first one. -/
def SplitsExactly (delim str : CText) (mem : List Char) (dest tmp : Int) : Prop :=
  ∃ r ∈ splitBlock delim.chars.contains mem dest tmp, ∃ offs : List ℕ,
    offs.map (textAt nul r.string) = (words delim.chars.contains str.chars).map some ∧
      r.strs = offs.map (fun o : ℕ => some (r.base + o)) ++ [none] ∧ offs.head? = some 0

structure FirstWord (delim : Char → Bool) (dels word after : List Char) : Prop where
  dels : ∀ c ∈ dels, delim c = true
  ne : word ≠ []
  word : ∀ c ∈ word, delim c = false
  after : ∀ c ∈ after.head?, delim c = true

def cutBehind (front word : List Char) : List Char → List Char × ℕ
  | [] => (front ++ (word ++ [nul]), front.length + word.length)
  | _ :: after => (front ++ (word ++ nul :: (after ++ [nul])), front.length + word.length + 1)

/-- The texts of the tokens that are new in the array; their places are behind `front`. -/
def Cuts (front : List Char) (texts : List (List Char)) (array : List ℕ) (t : Tokens) : Prop :=
  t.array.length < t.arraySize ∧ ∃ (string : List Char) (offs : List ℕ), t.block = front ++ string ∧
    t.array = array ++ offs.map (front.length + ·) ∧ offs.map (textAt nul string) = texts.map some

def LoopCuts (delim : Char → Bool) (fuel : ℕ) : Prop :=
  ∀ (front : List Char) {rest array size}, nul ∉ rest → array.length < size → rest.length < fuel →
    ∃ t, tokensFrom delim fuel ⟨front ++ (rest ++ [nul]), front.length, array, size⟩ = some t ∧
      Cuts front (words delim rest) array t

section
variable {delim : Char → Bool} {dels word after rest : List Char}

lemma exists_firstWord (h : ¬ ∀ c ∈ rest, delim c = true) :
    ∃ dels word after, rest = dels ++ (word ++ after) ∧ FirstWord delim dels word after := by
  obtain ⟨c, string, hc⟩ := exists_cons_of_ne_nil fun hnil => h (dropWhile_eq_nil_iff.mp hnil)
  have hplain : delim c = false := by
    have hhead := head?_dropWhile_not delim rest
    rwa [hc] at hhead
  refine ⟨rest.takeWhile delim, c :: string.takeWhile (!delim ·), string.dropWhile (!delim ·), ?_,
    fun x hx => mem_takeWhile_imp hx, cons_ne_nil _ _, ?_, fun x hx => ?_⟩
  · rw [cons_append, takeWhile_append_dropWhile, ← hc, takeWhile_append_dropWhile]
  · rintro x (_ | ⟨_, hx⟩)
    · exact hplain
    · simpa using mem_takeWhile_imp hx
  · have hhead := head?_dropWhile_not (!delim ·) string
    rw [hx] at hhead
    simpa using hhead

lemma FirstWord.words_eq (h : FirstWord delim dels word after) :
    words delim (dels ++ (word ++ after)) = word :: words delim after.tail := by
  have htail : words delim after = words delim after.tail := by
    cases after with
    | nil => rfl
    | cons d after =>
      have hd : ∀ c ∈ [d], delim c = true := by simpa using h.after d rfl
      exact words_append hd after
  rw [words_append h.dels, words_append_of_head h.after, words_eq_singleton h.ne h.word, htail]
  rfl

variable (front : List Char)

lemma textAt_rest (hnul : nul ∉ rest) :
    textAt nul (front ++ (rest ++ [nul])) front.length = some rest :=
  (textAt_append 0).trans (textAt_text hnul [])

lemma strtokR_word (h : FirstWord delim dels word after)
    (hnul : nul ∉ dels ++ (word ++ after)) :
    strtokR delim (front ++ (dels ++ (word ++ after) ++ [nul])) front.length =
      some (cutBehind (front ++ dels) word after, some (front ++ dels).length) := by
  have hstart : (dels ++ (word ++ after)).takeWhile delim = dels := by
    obtain ⟨c, word, rfl⟩ := exists_cons_of_ne_nil h.ne
    rw [takeWhile_append_of_pos h.dels, cons_append,
      takeWhile_cons_of_neg (by simp [h.word c (.head _)]), append_nil]
  have hstop : (word ++ after).takeWhile (fun c => !delim c) = word := by
    rw [takeWhile_append_of_pos fun c hc => by simp [h.word c hc]]
    cases after with
    | nil => exact append_nil _
    | cons d after => rw [takeWhile_cons_of_neg (by simp [h.after d rfl]), append_nil]
  have hpos : word.length ≠ 0 := fun hnil => h.ne (length_eq_zero_iff.mp hnil)
  simp only [strtokR, textAt_rest front hnul, map_some, hstart, drop_left, hstop]
  rw [if_neg (by omega)]
  cases after with
  | nil =>
    rw [if_pos (by simp)]
    simp [cutBehind, Nat.add_assoc]
  | cons d after =>
    rw [if_neg (by simp only [length_append, length_cons]; omega)]
    simp [cutBehind, Nat.add_assoc]

variable {fuel size : ℕ} {array : List ℕ}

lemma tokensFrom_none (hrest : ∀ c ∈ rest, delim c = true)
    (hnul : nul ∉ rest) :
    tokensFrom delim (fuel + 1) ⟨front ++ (rest ++ [nul]), front.length, array, size⟩ =
      some ⟨front ++ (rest ++ [nul]), front.length + rest.length, array, size⟩ := by
  simp [tokensFrom, strtokR, textAt_rest front hnul, takeWhile_eq_self_iff.mpr hrest]

/-- A turn of the loop stores a token, and there is a free slot again. -/
lemma tokensFrom_some (fuel : ℕ) {block : List Char} {saveptr tok : ℕ} {cut : List Char × ℕ}
    (h : strtokR delim block saveptr = some (cut, some tok)) (hroom : array.length < size) :
    ∃ size', (array ++ [tok]).length < size' ∧
      tokensFrom delim (fuel + 1) ⟨block, saveptr, array, size⟩ =
        tokensFrom delim fuel ⟨cut.1, cut.2, array ++ [tok], size'⟩ := by
  have hturn : tokensFrom delim (fuel + 1) ⟨block, saveptr, array, size⟩ =
      tokensFrom delim fuel (Tokens.grow ⟨cut.1, cut.2, array ++ [tok], size⟩) := by
    simp [tokensFrom, h, Tokens.push, hroom]
  rw [hturn, Tokens.grow]
  dsimp only
  rw [length_append, length_singleton]
  split
  · exact ⟨_, by omega, rfl⟩
  · exact ⟨_, by omega, rfl⟩

lemma Cuts.cons {front : List Char} {texts : List (List Char)} {t : Tokens} (hnul : nul ∉ word)
    (h : Cuts (front ++ dels ++ (word ++ [nul])) texts (array ++ [(front ++ dels).length]) t) :
    Cuts front (word :: texts) array t := by
  obtain ⟨hroom, string, offs, hblock, harray, hoffs⟩ := h
  refine ⟨hroom, dels ++ (word ++ [nul]) ++ string,
    dels.length :: offs.map ((dels ++ (word ++ [nul])).length + ·), ?_, ?_, ?_⟩
  · simp [hblock]
  · simp [harray, Nat.add_assoc]
  · have htext : textAt nul (dels ++ (word ++ [nul]) ++ string) dels.length = some word := by
      rw [append_assoc, append_assoc, singleton_append]
      exact (textAt_append 0).trans (textAt_text hnul string)
    have hbehind : (fun o => textAt nul (dels ++ (word ++ [nul]) ++ string)
        ((dels ++ (word ++ [nul])).length + o)) = textAt nul string := funext textAt_append
    rw [map_cons, htext, List.map_map, Function.comp_def, hbehind, hoffs, map_cons]

lemma LoopCuts.behind (ih : LoopCuts delim fuel) (front word : List Char) (hnul : nul ∉ after)
    (hfuel : after.length < fuel) (hroom : array.length < size) :
    ∃ t, tokensFrom delim fuel
        ⟨(cutBehind front word after).1, (cutBehind front word after).2, array, size⟩ = some t ∧
      Cuts (front ++ (word ++ [nul])) (words delim after.tail) array t := by
  cases after with
  | nil =>
    obtain _ | fuel := fuel
    · cases hfuel
    refine ⟨⟨front ++ (word ++ [nul]), front.length + word.length, array, size⟩, ?_, hroom, [], [],
      by simp, by simp, rfl⟩
    have hnil : ∀ c ∈ ([] : List Char), delim c = true := by simp
    rw [cutBehind, ← length_append, ← append_assoc]
    exact tokensFrom_none (front ++ word) hnil not_mem_nil
  | cons d after =>
    obtain ⟨t, ht, hcuts⟩ := ih (front ++ (word ++ [nul])) (fun h => hnul (.tail _ h)) hroom
      (Nat.lt_of_succ_lt hfuel)
    exact ⟨t, by simpa [cutBehind, Nat.add_assoc] using ht, hcuts⟩

lemma loopCuts (delim : Char → Bool) (fuel : ℕ) : LoopCuts delim fuel := by
  induction fuel with
  | zero => exact fun _ _ _ _ _ _ hfuel => absurd hfuel (Nat.not_lt_zero _)
  | succ fuel ih =>
    intro front rest array size hnul hroom hfuel
    by_cases hall : ∀ c ∈ rest, delim c = true
    · rw [words_eq_nil_iff.mpr hall]
      refine ⟨_, tokensFrom_none front hall hnul, hroom, rest ++ [nul], [], rfl, ?_, rfl⟩
      rw [map_nil, append_nil]
    obtain ⟨dels, word, after, rfl, hfirst⟩ := exists_firstWord hall
    obtain ⟨size', hroom', hturn⟩ := tokensFrom_some fuel (strtokR_word front hfirst hnul) hroom
    have hafter : nul ∉ after := fun h => hnul (by simp [h])
    have hlen : dels.length + (word.length + after.length) < fuel + 1 := by simpa using hfuel
    have hpos : 0 < word.length := length_pos_iff.mpr hfirst.ne
    obtain ⟨t, ht, hcuts⟩ := ih.behind (front ++ dels) word hafter (by omega) hroom'
    rw [hturn, hfirst.words_eq]
    exact ⟨t, ht, hcuts.cons fun h => hnul (by simp [h])⟩

end

theorem splitsExactly (delim str : CText) (h : ∃ c ∈ str.chars, c ∉ delim.chars)
    (tail : List Char) (dest tmp : Int) :
    SplitsExactly delim str (str.chars ++ nul :: tail) dest tmp := by
  obtain ⟨c, hc, hplain⟩ := h
  have hwords : words delim.chars.contains str.chars ≠ [] := fun hnil =>
    hplain (by simpa using words_eq_nil_iff.mp hnil c hc)
  obtain ⟨front, string, hstr, hfront, hskip, hhead⟩ :=
    skipDelim_text str.nulFree hwords (nul :: tail)
  have hnul : nul ∉ string := fun hin => str.nulFree (hstr ▸ mem_append_right _ hin)
  rw [hstr, words_append hfront] at hwords
  obtain ⟨dels, word, after, rfl, hfirst⟩ :=
    exists_firstWord fun h => hwords (words_eq_nil_iff.mpr h)
  obtain rfl : dels = [] := by
    cases dels with
    | nil => rfl
    | cons d dels => exact absurd ((hhead d rfl).symm.trans (hfirst.dels d (.head _))) (by decide)
  have htok : strtokR delim.chars.contains (word ++ after ++ [nul]) 0 =
      some (cutBehind [] word after, some 0) := strtokR_word [] hfirst hnul
  have hlen : after.length < (word ++ after).length + 1 := by
    rw [length_append]
    omega
  obtain ⟨t, ht, hcuts⟩ := (loopCuts delim.chars.contains _).behind [] word
    (fun h => hnul (by simp [h])) hlen (by decide : [0].length < 16)
  have hall : Cuts [] (word :: words delim.chars.contains after.tail) [] t :=
    Cuts.cons (fun h => hnul (by simp [h])) hcuts
  obtain ⟨hroom, string, offs, hblock, harray, hoffs⟩ := hall
  obtain rfl : t.array = offs := by simpa using harray
  refine ⟨⟨tmp, t.block, t.array.map (fun o : ℕ => some (tmp + o)) ++ [none]⟩, ?_, t.array, ?_, rfl,
    ?_⟩
  · have htext : textAt nul (word ++ after ++ nul :: tail) 0 = some (word ++ after) :=
      textAt_text hnul tail
    simp only [splitBlock, hskip, nil_append, bind_eq_bind, bind_some, htext, htok, Tokens.push,
      length_nil, Nat.zero_lt_succ, if_true, ht, hroom]
    by_cases htmp : tmp = dest
    · simp [htmp]
    · have hmove (o : ℕ) : dest + o + (tmp - dest) = tmp + (o : Int) := by omega
      simp [htmp, hmove]
  · rw [hblock, nil_append, hoffs, hstr, words_append hfront, hfirst.words_eq]
  · obtain ⟨-, -, rest, -, hbegin, -⟩ := hcuts
    rw [hbegin]
    rfl

theorem splitsExactly_listing : (∃ c ∈ "ls -l".toList, c ∉ [' ', '\t']) ∧
    SplitsExactly ⟨[' ', '\t'], by decide⟩ ⟨"ls -l".toList, by decide⟩ "ls -l\x00".toList 64 128 :=
  ⟨⟨'l', by decide, by decide⟩,
    splitsExactly ⟨[' ', '\t'], by decide⟩ ⟨"ls -l".toList, by decide⟩ ⟨'l', by decide, by decide⟩
      [] 64 128⟩

end Initng.Launcher
