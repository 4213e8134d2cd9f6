import Initng.NgeWire
import Mathlib.Data.List.Chain

/-! `initng_nge.c`. -/

namespace Initng

open DecimalText TextSearch List Option

section
variable {name point : List Char}

lemma getOptionFrom_eq (hname : Unbordered name) (hne : name ≠ []) (heq : '=' ∉ name)
    {fuel : ℕ} (hfuel : point.length < fuel) :
    getOptionFrom name fuel point = (afterFirst (name ++ ['=', '\x22']) point).map untilQuote := by
  induction fuel generalizing point with
  | zero => omega
  | succ fuel ih =>
    cases hfirst : afterFirst name point with
    | none => rw [getOptionFrom, hfirst, afterFirst_none_append hfirst, map_none]
    | some rest =>
      have hlen : rest.length < point.length := by
        obtain ⟨p, rfl, -⟩ := afterFirst_some hfirst
        have hpos := length_pos_iff.mpr hne
        simp only [length_append]
        omega
      rw [getOptionFrom, hfirst]
      split
      next hnone => cases hnone
      next value hvalue =>
        cases hvalue
        rw [afterFirst_continued ['=', '\x22'] hfirst, map_some]
      next tail hno htail =>
        cases htail
        have hmore : ¬ ['=', '\x22'] <+: '=' :: tail := by
          rintro ⟨value, hvalue⟩
          exact hno value (cons.inj hvalue).2.symm
        have hstart : ¬ name ++ ['=', '\x22'] <+: '=' :: tail := by
          intro hbegins
          obtain ⟨a, name, rfl⟩ := exists_cons_of_ne_nil hne
          have ha : a = '=' := (cons_prefix_cons.mp hbegins).1
          exact heq (ha ▸ .head _)
        rw [hname.afterFirst_skip hfirst hmore, afterFirst_cons hstart]
        exact ih (by simp only [length_cons] at hlen; omega)
      next rest' hno hno' hrest =>
        cases hrest
        have hmore : ¬ ['=', '\x22'] <+: rest := by
          rintro ⟨value, hvalue⟩
          exact hno value hvalue.symm
        rw [hname.afterFirst_skip hfirst hmore]
        exact ih (by omega)

end

/-- The segment ends in `name=`, so the client takes what follows for the value of the option. -/
def EndsIn (name : String) (segment : List Char) : Prop := name.toList ++ ['='] <:+ segment

def Ordinary (text : List Char) : Prop :=
  ∀ c ∈ text, c ≠ '=' ∧ c ≠ '\x22' ∧ c ≠ '/' ∧ c ≠ '<' ∧ c ≠ '>' ∧ c ≠ '\x00'

@[mk_iff]
structure NamesFit (type : String) (names : List String) : Prop where
  type_ordinary : Ordinary type.toList
  ordinary : ∀ name ∈ names, Ordinary name.toList
  found : ∀ name ∈ names, name.toList ≠ [] ∧ Unbordered name.toList
  apart_type : ∀ name ∈ names, ¬ EndsIn name eventOpen ∧ ¬ EndsIn name type.toList
  apart : names.Pairwise fun a b => ¬ EndsIn b (' ' :: (a.toList ++ ['=']))

instance (name : String) (segment : List Char) : Decidable (EndsIn name segment) :=
  inferInstanceAs (Decidable (_ <:+ _))

instance (text : List Char) : Decidable (Ordinary text) := decidableBAll _ _

instance (type : String) (names : List String) : Decidable (NamesFit type names) :=
  decidable_of_iff' _ (namesFit_iff type names)

def NoTagEnd (text : List Char) : Prop := ¬ ['/', '>'] <:+: text ∧ ¬ ['<', '/'] <:+: text

instance (text : List Char) : Decidable (NoTagEnd text) := inferInstanceAs (Decidable (_ ∧ _))

/-- The client reads a tag as it was meant: values have no quote and no end of a tag in them, and
none of them ends as if a later option began; if there is content, it is not empty and has no `<`
and no `/>` in it, and no value has a `>`. -/
structure EventTag.Plain (t : EventTag) : Prop where
  quote : ∀ a ∈ t.attrs, '\x22' ∉ a.2
  tagEnd : ∀ a ∈ t.attrs, NoTagEnd a.2
  apart : t.attrs.Pairwise fun a b => ¬ EndsIn b.1 a.2
  content : ∀ text, t.ending = .content text →
    text ≠ [] ∧ '<' ∉ text ∧ NoTagEnd text ∧ ∀ a ∈ t.attrs, '>' ∉ a.2

section
variable {name : String} {rest : List Char}

lemma Ordinary.notMem_quote {text : List Char} (h : Ordinary text) : '\x22' ∉ text :=
  fun hm => (h _ hm).2.1 rfl

lemma quote_notMem_name (h : Ordinary name.toList) : '\x22' ∉ name.toList ++ ['='] := by
  simp only [mem_append, mem_singleton, not_or]
  exact ⟨h.notMem_quote, by decide⟩

lemma lookup_segment {segment : List Char} (hname : Ordinary name.toList)
    (hq : '\x22' ∉ segment) (h : ¬ EndsIn name segment) :
    afterFirst (name.toList ++ ['=', '\x22']) (segment ++ '\x22' :: rest) =
      afterFirst (name.toList ++ ['=', '\x22']) rest := by
  rw [append_cons name.toList]
  exact afterFirst_segment (quote_notMem_name hname) hq h

lemma lookup_segment_end {segment : List Char} (hname : Ordinary name.toList)
    (hq : '\x22' ∉ segment) (h : EndsIn name segment) :
    afterFirst (name.toList ++ ['=', '\x22']) (segment ++ '\x22' :: rest) = some rest := by
  rw [append_cons name.toList]
  exact afterFirst_segment_end (quote_notMem_name hname) hq h

lemma tagOption_append (a : String × List Char) (rest : List Char) :
    tagOption a ++ rest = ' ' :: (a.1.toList ++ ['=']) ++ '\x22' :: (a.2 ++ '\x22' :: rest) := by
  simp [tagOption]

lemma quote_notMem_option {a : String × List Char} (h : Ordinary a.1.toList) :
    '\x22' ∉ ' ' :: (a.1.toList ++ ['=']) := by
  simp only [mem_cons, mem_append, not_mem_nil, not_or, or_false]
  exact ⟨by decide, h.notMem_quote, by decide⟩

lemma lookup_own (hname : Ordinary name.toList) {value : List Char} :
    afterFirst (name.toList ++ ['=', '\x22']) (tagOption (name, value) ++ rest) =
      some (value ++ '\x22' :: rest) := by
  have hq : '\x22' ∉ ' ' :: (name.toList ++ ['=']) := quote_notMem_option (a := (name, value)) hname
  rw [tagOption_append, lookup_segment_end hname hq (suffix_cons ' ' _)]

lemma lookup_options (hname : Ordinary name.toList) {attrs : List (String × List Char)}
    (hnames : ∀ a ∈ attrs, Ordinary a.1.toList) (hquote : ∀ a ∈ attrs, '\x22' ∉ a.2)
    (hapart : ∀ a ∈ attrs, ¬ EndsIn name (' ' :: (a.1.toList ++ ['='])) ∧ ¬ EndsIn name a.2) :
    afterFirst (name.toList ++ ['=', '\x22']) (attrs.flatMap tagOption ++ rest) =
      afterFirst (name.toList ++ ['=', '\x22']) rest := by
  induction attrs with
  | nil => rfl
  | cons a attrs ih =>
    rw [flatMap_cons, append_assoc, tagOption_append,
      lookup_segment hname (quote_notMem_option (hnames a (.head _))) (hapart a (.head _)).1,
      lookup_segment hname (hquote a (.head _)) (hapart a (.head _)).2]
    exact ih (fun b hb => hnames b (.tail _ hb)) (fun b hb => hquote b (.tail _ hb))
      fun b hb => hapart b (.tail _ hb)

lemma untilQuote_append {value : List Char} (h : '\x22' ∉ value) :
    untilQuote (value ++ '\x22' :: rest) = value := by
  rw [untilQuote, takeWhile_append_of_pos (bne_of_notMem h)]
  simp

end

abbrev IsInt (value : Int) : Prop := -2147483648 ≤ value ∧ value < 2147483648

section
variable {t : EventTag} (hfit : NamesFit t.type (t.attrs.map Prod.fst))
include hfit

lemma EventTag.getOption_type : ngeclientGetOption t.text "type" = some t.type.toList := by
  have hname : Ordinary "type".toList := by decide +kernel
  rw [ngeclientGetOption, getOptionFrom_eq (by decide) (by decide) (by decide)
    (Nat.lt_succ_self _), EventTag.text,
    lookup_segment_end hname (by decide) (by decide), map_some,
    untilQuote_append hfit.type_ordinary.notMem_quote]

variable (hplain : t.Plain)
include hplain

lemma EventTag.getOption {i : ℕ} {name : String} {value : List Char}
    (hi : t.attrs[i]? = some (name, value)) : ngeclientGetOption t.text name = some value := by
  obtain ⟨hlt, hget⟩ := List.getElem?_eq_some_iff.mp hi
  have hsplit : t.attrs = t.attrs.take i ++ (name, value) :: t.attrs.drop (i + 1) := by
    rw [← hget, ← drop_eq_getElem_cons hlt, take_append_drop]
  have hmem : (name, value) ∈ t.attrs := mem_of_getElem? hi
  have hnames (a : String × List Char) (ha : a ∈ t.attrs) : Ordinary a.1.toList :=
    hfit.ordinary a.1 (mem_map_of_mem ha)
  have hmap : name ∈ t.attrs.map Prod.fst := mem_map_of_mem hmem
  have hname : Ordinary name.toList := hnames _ hmem
  have hbefore (a : String × List Char) (ha : a ∈ t.attrs.take i) :
      ¬ EndsIn name (' ' :: (a.1.toList ++ ['='])) ∧ ¬ EndsIn name a.2 := by
    have hpairs := pairwise_map.mp hfit.apart
    have hvalues := hplain.apart
    rw [hsplit, pairwise_append] at hpairs hvalues
    exact ⟨hpairs.2.2 a ha _ (.head _), hvalues.2.2 a ha _ (.head _)⟩
  obtain ⟨hne, hborder⟩ := hfit.found name hmap
  rw [ngeclientGetOption, getOptionFrom_eq hborder hne (fun hm => (hname _ hm).1 rfl)
    (Nat.lt_succ_self _), EventTag.text,
    lookup_segment hname (by decide) (hfit.apart_type name hmap).1,
    lookup_segment hname hfit.type_ordinary.notMem_quote (hfit.apart_type name hmap).2]
  rw [hsplit, flatMap_append, append_assoc,
    lookup_options hname (fun a ha => hnames a (mem_of_mem_take ha))
      (fun a ha => hplain.quote a (mem_of_mem_take ha)) hbefore,
    flatMap_cons, append_assoc, lookup_own hname, map_some,
    untilQuote_append (hplain.quote _ hmem)]

lemma EventTag.getInt {i : ℕ} {name : String} {value : Int}
    (hi : t.attrs[i]? = some (name, printed value)) (h : IsInt value) :
    ngeclientGetInt t.text name = value := by
  rw [ngeclientGetInt, EventTag.getOption hfit hplain hi]
  exact atoi_printed h.1 h.2

end

def EndsTag (x y : Char) : Prop := x = '/' ∧ y = '>' ∨ x = '<' ∧ y = '/'

def Unended (text : List Char) : Prop := text.IsChain fun x y => ¬ EndsTag x y

section
variable {x : Char} {p text rest : List Char}

lemma NoTagEnd.unended (h : NoTagEnd text) : Unended text := by
  refine (isChain_isInfix text).imp fun x y hinfix hends => ?_
  rcases hends with ⟨rfl, rfl⟩ | ⟨rfl, rfl⟩
  · exact h.1 hinfix
  · exact h.2 hinfix

lemma Unended.cons (h : Unended text) (hx : x ≠ '/' ∧ x ≠ '<') : Unended (x :: text) := by
  refine IsChain.cons h fun y _ hends => ?_
  rcases hends with ⟨hslash, -⟩ | ⟨hless, -⟩
  · exact hx.1 hslash
  · exact hx.2 hless

lemma Unended.join (hp : Unended p) (hrest : Unended (x :: rest)) (hx : x ≠ '/' ∧ x ≠ '>') :
    Unended (p ++ x :: rest) := by
  refine IsChain.append hp hrest fun a _ b hb hends => ?_
  obtain rfl : x = b := by simpa using hb
  rcases hends with ⟨-, hgreater⟩ | ⟨-, hslash⟩
  · exact hx.2 hgreater
  · exact hx.1 hslash

lemma Ordinary.unended (h : Ordinary text) : Unended text :=
  NoTagEnd.unended ⟨fun hm => (h _ (hm.subset (.head _))).2.2.1 rfl,
    fun hm => (h _ (hm.subset (.head _))).2.2.2.1 rfl⟩

lemma Unended.quote (hp : Unended p) (hrest : Unended rest) :
    Unended (p ++ '\x22' :: rest) :=
  hp.join (hrest.cons (by decide)) (by decide)

lemma tagLength_unended (h : Unended text) : tagLength text = none := by
  induction text with
  | nil => rfl
  | cons c rest ih =>
    have hnext (y : Char) (hy : rest.head? = some y) : ¬ EndsTag c y := IsChain.rel_head? h hy
    rw [tagLength, if_neg fun hc => hnext _ hc.2 (.inl ⟨hc.1, rfl⟩),
      if_neg fun hc => hnext _ hc.2 (.inr ⟨hc.1, rfl⟩), ih (IsChain.tail h), map_none]

lemma tagLength_append (h : Unended (p ++ [x])) :
    tagLength (p ++ x :: rest) = (tagLength (x :: rest)).map (· + p.length) := by
  induction p with
  | nil => simp
  | cons c p ih =>
    have hhead : (p ++ x :: rest).head? = (p ++ [x]).head? := by
      cases p <;> rfl
    have hnext (y : Char) (hy : (p ++ x :: rest).head? = some y) : ¬ EndsTag c y :=
      IsChain.rel_head? h (hhead ▸ hy)
    rw [cons_append, tagLength, if_neg fun hc => hnext _ hc.2 (.inl ⟨hc.1, rfl⟩),
      if_neg fun hc => hnext _ hc.2 (.inr ⟨hc.1, rfl⟩), ih (List.IsChain.tail h), Option.map_map]
    rfl

end

def TagEnding.lead : TagEnding → List Char
  | .empty => []
  | .blank => [' ']
  | .content text => '>' :: text

def TagEnding.close : TagEnding → Char × List Char
  | .empty | .blank => ('/', ['>'])
  | .content _ => ('<', ['/', 'e', 'v', 'e', 'n', 't', '>'])

def EventTag.body (t : EventTag) : List Char :=
  eventOpen ++ '\x22' :: (t.type.toList ++ '\x22' :: (t.attrs.flatMap tagOption ++ t.ending.lead))

section
variable {t : EventTag}

lemma eventOpen_eq :
    eventOpen = ['<', 'e', 'v', 'e', 'n', 't', ' ', 't', 'y', 'p', 'e', '='] := by decide

lemma eventClose_eq : eventClose = ['<', '/', 'e', 'v', 'e', 'n', 't', '>'] := by decide

lemma TagEnding.text_eq (e : TagEnding) : e.text = e.lead ++ e.close.1 :: e.close.2 := by
  cases e with
  | empty | blank => rfl
  | content text =>
    rw [TagEnding.text, eventClose_eq]
    rfl

lemma EventTag.text_eq_body (t : EventTag) :
    t.text = t.body ++ t.ending.close.1 :: t.ending.close.2 := by
  rw [EventTag.text, EventTag.body, TagEnding.text_eq]
  simp only [append_assoc, cons_append]

lemma unended_options {attrs : List (String × List Char)} {rest : List Char}
    (hnames : ∀ a ∈ attrs, Ordinary a.1.toList) (hvalues : ∀ a ∈ attrs, NoTagEnd a.2)
    (hrest : Unended rest) : Unended (attrs.flatMap tagOption ++ rest) := by
  induction attrs with
  | nil => exact hrest
  | cons a attrs ih =>
    have hequals : Unended ['='] := .singleton '='
    have hname : Unended (' ' :: (a.1.toList ++ ['='])) :=
      ((hnames a (.head _)).unended.join hequals (by decide)).cons (by decide)
    rw [flatMap_cons, append_assoc, tagOption_append]
    refine hname.quote ((hvalues a (.head _)).unended.quote ?_)
    exact ih (fun b hb => hnames b (.tail _ hb)) fun b hb => hvalues b (.tail _ hb)

section
variable (hfit : NamesFit t.type (t.attrs.map Prod.fst)) (hplain : t.Plain)
include hfit hplain

lemma EventTag.unended_body : Unended (t.body ++ [t.ending.close.1]) := by
  have hlead : Unended (t.ending.lead ++ [t.ending.close.1]) := by
    cases hending : t.ending with
    | empty => exact .singleton '/'
    | blank => exact Unended.cons (.singleton '/') (by decide)
    | content text =>
      obtain ⟨-, -, hend, -⟩ := hplain.content text hending
      exact (hend.unended.join (.singleton '<') (by decide)).cons (by decide)
  have hnames (a : String × List Char) (ha : a ∈ t.attrs) : Ordinary a.1.toList :=
    hfit.ordinary a.1 (mem_map_of_mem ha)
  have hopen : Unended eventOpen := by
    rw [eventOpen_eq]
    simp [Unended, EndsTag]
  rw [EventTag.body]
  simp only [append_assoc, cons_append]
  exact hopen.quote (hfit.type_ordinary.unended.quote (unended_options hnames hplain.tagEnd hlead))

lemma EventTag.tagLength_text (more : List Char) :
    tagLength (t.text ++ more) = some t.text.length := by
  have hclose : tagLength (t.ending.close.1 :: (t.ending.close.2 ++ more)) =
      some (t.ending.close.2.length + 1) := by
    cases t.ending with
    | empty | blank => simp [TagEnding.close, tagLength]
    | content text => simp [TagEnding.close, tagLength, closeLength]
  have hlength : t.text.length = t.ending.close.2.length + 1 + t.body.length := by
    rw [EventTag.text_eq_body, length_append, length_cons]
    omega
  rw [hlength, EventTag.text_eq_body, append_assoc, cons_append,
    tagLength_append (EventTag.unended_body hfit hplain), hclose, map_some]

lemma EventTag.tagLength_cut {part : List Char} (hpart : part <+: t.text) (hne : part ≠ t.text)
    (hcut : ∀ k, 2 ≤ k → k < 8 → ¬ eventClose.take k <:+ part) : tagLength part = none := by
  have hwhole : t.text = t.body ++ [t.ending.close.1] ++ t.ending.close.2 := by
    rw [EventTag.text_eq_body, append_assoc, singleton_append]
  by_cases hshort : part.length ≤ (t.body ++ [t.ending.close.1]).length
  · have hbody : part <+: t.body ++ [t.ending.close.1] :=
      prefix_of_prefix_length_le hpart (hwhole ▸ prefix_append _ _) hshort
    have hunended := IsChain.prefix (EventTag.unended_body hfit hplain) hbody
    exact tagLength_unended hunended
  · have hlt : part.length < t.text.length :=
      Nat.lt_of_le_of_ne hpart.length_le fun h => hne (hpart.eq_of_length h)
    rw [hwhole] at hlt
    simp only [length_append, length_singleton] at hshort hlt
    cases hending : t.ending with
    | empty | blank =>
      simp only [hending, TagEnding.close, length_singleton] at hlt
      omega
    | content text =>
      -- the part goes beyond `</`, which is where the client stops too early
      simp only [hending, TagEnding.close, length_cons, length_nil] at hlt
      have htext : t.text = t.body ++ eventClose := by
        rw [EventTag.text_eq_body, hending, eventClose_eq]
        rfl
      have htake : part = t.body ++ eventClose.take (part.length - t.body.length) := by
        calc part = t.text.take part.length := prefix_iff_eq_take.mp hpart
          _ = t.body.take part.length ++ eventClose.take (part.length - t.body.length) := by
            rw [htext, take_append]
          _ = t.body ++ eventClose.take (part.length - t.body.length) := by
            rw [take_of_length_le (by omega)]
      exact absurd ⟨t.body, htake.symm⟩ (hcut (part.length - t.body.length) (by omega) (by omega))

end

def EventTag.opening (t : EventTag) : List Char :=
  eventOpen ++ '\x22' :: (t.type.toList ++ '\x22' :: t.attrs.flatMap tagOption)

lemma EventTag.text_eq_opening : t.text = t.opening ++ t.ending.text := by
  simp only [EventTag.text, EventTag.opening, append_assoc, cons_append]

lemma EventTag.text_head : t.text.head? = some '<' := by
  rw [EventTag.text, eventOpen_eq]
  rfl

section
variable (hfit : NamesFit t.type (t.attrs.map Prod.fst))
include hfit

lemma EventTag.notMem_opening {c : Char} (hc : c ≠ ' ' ∧ c ≠ '=' ∧ c ≠ '\x22' ∧ c ∉ eventOpen)
    (hordinary : ∀ {text}, Ordinary text → c ∉ text) (hvalues : ∀ a ∈ t.attrs, c ∉ a.2) :
    c ∉ t.opening := by
  have hoptions : c ∉ t.attrs.flatMap tagOption := by
    intro hm
    obtain ⟨a, ha, hm⟩ := mem_flatMap.mp hm
    simp only [tagOption, mem_cons, mem_append, not_mem_nil, or_false, hc.1, hc.2.1,
      hc.2.2.1, false_or] at hm
    exact hm.elim (hordinary (hfit.ordinary a.1 (mem_map_of_mem ha))) (hvalues a ha)
  simp only [EventTag.opening, mem_append, mem_cons, hc.2.2.1, false_or, not_or]
  exact ⟨hc.2.2.2, hordinary hfit.type_ordinary, hoptions⟩

lemma EventTag.getContent (hplain : t.Plain) {text : List Char}
    (hending : t.ending = .content text) : ngeclientGetContent t.text = some text := by
  obtain ⟨hne, hless, -, hgreater⟩ := hplain.content text hending
  have hopening := EventTag.notMem_opening hfit (c := '>') (by decide)
    (fun h hm => (h _ hm).2.2.2.2.1 rfl) hgreater
  have hdrop : t.text.dropWhile (fun c => c != '>') = '>' :: (text ++ eventClose) := by
    rw [EventTag.text_eq_opening, hending, TagEnding.text,
      dropWhile_append_of_pos (bne_of_notMem hopening)]
    simp
  have htake : (text ++ eventClose).takeWhile (fun c => c != '<') = text := by
    rw [takeWhile_append_of_pos (bne_of_notMem hless), eventClose_eq]
    simp
  have hrest : (text ++ eventClose).drop text.length = eventClose := drop_left
  simp only [ngeclientGetContent, EventTag.text_head, hdrop, htake, hrest, ne_eq,
    not_true_eq_false, if_false]
  rw [eventClose_eq]
  simp [hne]

lemma EventTag.handleTag :
    ngeclientHandleTag t.text = some (handleEventOf t.type.toList t.text) := by
  have hname : "event ".toList.isPrefixOf (t.text.drop 1) = true := by
    have hevent : "event ".toList = ['e', 'v', 'e', 'n', 't', ' '] := by decide
    rw [hevent, EventTag.text, eventOpen_eq]
    rfl
  have hmark : (t.text.drop 1).head? ≠ some '?' := by
    rw [EventTag.text, eventOpen_eq]
    simp
  simp only [ngeclientHandleTag, hmark, hname, if_false, if_true]
  rw [ngeclientHandleEvent, EventTag.getOption_type hfit, map_some]

end

/-- A text that the client reads as an event: it finds its end in whatever follows, finds none in
a part of it that does not go beyond `</`, and makes the event of it. -/
structure ReadsAs (text : List Char) (event : NgeEvent) : Prop where
  start : text.head? = some '<'
  nulFree : '\x00' ∉ text
  whole : ∀ more, tagLength (text ++ more) = some text.length
  cut : ∀ part, part <+: text → part ≠ text →
    (∀ k, 2 ≤ k → k < 8 → ¬ eventClose.take k <:+ part) → tagLength part = none
  handled : ngeclientHandleTag text = some (some event)

lemma EventTag.readsAs (hfit : NamesFit t.type (t.attrs.map Prod.fst)) (hplain : t.Plain)
    (hvalues : ∀ a ∈ t.attrs, '\x00' ∉ a.2)
    (hcontent : ∀ text, t.ending = .content text → '\x00' ∉ text) {event : NgeEvent}
    (hevent : handleEventOf t.type.toList t.text = some event) : ReadsAs t.text event where
  start := EventTag.text_head
  nulFree := by
    have hopening := EventTag.notMem_opening hfit (c := '\x00') (by decide)
      (fun h hm => (h _ hm).2.2.2.2.2 rfl) hvalues
    have hending : '\x00' ∉ t.ending.text := by
      cases hending : t.ending with
      | empty | blank => decide
      | content text =>
        have := hcontent text hending
        rw [TagEnding.text, eventClose_eq]
        simpa using this
    rw [EventTag.text_eq_opening, mem_append, not_or]
    exact ⟨hopening, hending⟩
  whole := EventTag.tagLength_text hfit hplain
  cut _ := EventTag.tagLength_cut hfit hplain
  handled := by rw [EventTag.handleTag hfit, hevent]

end

end Initng
