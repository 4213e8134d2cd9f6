import Mathlib.Data.Finite.Defs
import Mathlib.Data.Fintype.EquivFin
import Mathlib.Data.Set.Finite.Basic
import Mathlib.Order.Bounds.Defs
import Mathlib.Order.WellFounded

/-! Things that need others, some of which are not all right. -/

namespace DependencyOrder

open Relation

variable {α : Type*} {ok : α → Prop} {needs : α → α → Prop} {a b : α}

inductive Doable (ok : α → Prop) (needs : α → α → Prop) : α → Prop
  | intro {a : α} (here : ok a) (before : ∀ b, needs a b → Doable ok needs b) :
    Doable ok needs a

lemma Doable.sound (h : Doable ok needs a) : ok a := by
  cases h with
  | intro here before => exact here

lemma Doable.of_needs (h : Doable ok needs a) (hb : needs a b) : Doable ok needs b := by
  cases h with
  | intro here before => exact before b hb

lemma not_cycle_of_needs (h : ∀ b, needs a b → Doable ok needs b) : ¬ TransGen needs a a := by
  have hstep : ∀ b, Doable ok needs b → ¬ TransGen needs b b := by
    intro b hb
    induction hb with
    | intro here before ih =>
      intro hcycle
      obtain ⟨c, hc, hback⟩ := TransGen.head'_iff.mp hcycle
      exact ih c hc (TransGen.tail' hback hc)
  intro hcycle
  obtain ⟨b, hb, hback⟩ := TransGen.head'_iff.mp hcycle
  exact hstep b (h b hb) (TransGen.tail' hback hb)

lemma doable_of_closed {S : Set α} (hfin : S.Finite) (hok : ∀ a ∈ S, ok a)
    (hclosed : ∀ a ∈ S, ∀ b, needs a b → b ∈ S) (hacyclic : ∀ a ∈ S, ¬ TransGen needs a a)
    (ha : a ∈ S) : Doable ok needs a := by
  let r (x y : S) : Prop := needs y x
  have hwf : WellFounded r := by
    have hlift : ∀ x y : S, TransGen r x y → TransGen needs y x := by
      intro x y h
      induction h with
      | single hr => exact .single hr
      | tail _ hr ih => exact .head hr ih
    have := hfin.to_subtype
    have : Std.Irrefl (TransGen r) := ⟨fun x hx => hacyclic x x.2 (hlift x x hx)⟩
    have htrans := Finite.wellFounded_of_trans_of_irrefl (TransGen r)
    exact Subrelation.wf (fun h => TransGen.single h) htrans
  have hdo : ∀ x : S, Doable ok needs x := fun x => by
    induction x using hwf.induction with
    | h x ih => exact .intro (hok x x.2) fun b hb => ih ⟨b, hclosed x x.2 b hb⟩ hb
  exact hdo ⟨a, ha⟩

lemma isGreatest_doable (hfin : {a | ok a}.Finite) :
    IsGreatest {S : Set α | (∀ a ∈ S, ok a ∧ ∀ b, needs a b → b ∈ S) ∧
      ∀ a ∈ S, ¬ TransGen needs a a} {a | Doable ok needs a} := by
  refine ⟨⟨fun a ha => ⟨Doable.sound ha, fun b hb => Doable.of_needs ha hb⟩, fun a ha => ?_⟩, ?_⟩
  · exact not_cycle_of_needs fun b hb => Doable.of_needs ha hb
  · rintro S ⟨hclosed, hacyclic⟩ a ha
    have hS : S.Finite := hfin.subset fun b hb => (hclosed b hb).1
    exact doable_of_closed hS (fun b hb => (hclosed b hb).1) (fun b hb => (hclosed b hb).2)
      hacyclic ha

end DependencyOrder
