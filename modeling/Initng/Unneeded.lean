import Initng.Runlevel

/-! `modules/unneeded/initng_unneeded.c`. -/

namespace Initng

open Relation List

def serviceTypeGetByName (types : List Stype) (name : String) : Option Stype :=
  types.find? fun type => type.name = name

def neededDirectly (m : Modules) (g : G) (a : Sid) : Bool :=
  g.activeDb.any fun b => b ≠ a ∧ depend m g b a

/-- The loop of `cmd_stop_unneeded` from the service reached: the services for which
`initng_handler_stop_service` is called, and what that leaves. -/
def stopUnneededFrom (m : Modules) (typeRunlevel : Option Stype) : List Sid → G → List Sid × G
  | [], g => ([], g)
  | a :: rest, g =>
    if (g.svc a).type = typeRunlevel then stopUnneededFrom m typeRunlevel rest g
    else if neededDirectly m g a then stopUnneededFrom m typeRunlevel rest g
    else
      let r := stopUnneededFrom m typeRunlevel rest (handlerStopService m a g).2
      (a :: r.1, r.2)

def cmdStopUnneeded (m : Modules) (types : List Stype) (g : G) : List Sid × G :=
  stopUnneededFrom m (serviceTypeGetByName types "runlevel") g.activeDb g

section
variable {m : RepoModules} {g g' : G}

lemma SameServices.depend (h : SameServices g g') :
    depend m.toModules g' = depend m.toModules g := by
  funext s c
  have hdepOn : depOn g' s c = depOn g s c := by rw [depOn, depOn, h.data, h.name]
  rw [Initng.depend, Initng.depend, hdepOn]

lemma SameServices.neededDirectly (h : SameServices g g') :
    neededDirectly m.toModules g' = neededDirectly m.toModules g := by
  funext a
  simp only [Initng.neededDirectly, h.activeDb, h.depend]

lemma stopUnneededFrom_eq (typeRunlevel : Option Stype) (l : List Sid) (g : G) :
    (stopUnneededFrom m.toModules typeRunlevel l g).1 =
      l.filter fun a => (g.svc a).type ≠ typeRunlevel ∧ ¬ neededDirectly m.toModules g a := by
  induction l generalizing g with
  | nil => rfl
  | cons a l ih =>
    have hsame := sameServices_handlerStopService (m := m) a g
    rw [stopUnneededFrom]
    split_ifs with htype hneeded
    · rw [ih, filter_cons_of_neg (by simp [htype])]
    · rw [ih, filter_cons_of_neg (by simp [hneeded])]
    · rw [filter_cons_of_pos (by simp [htype, hneeded])]
      simp only [ih, hsame.type, hsame.neededDirectly]

lemma serviceTypeGetByName_runlevel {types : List Stype} (h : typeRunlevel ∈ types) :
    serviceTypeGetByName types "runlevel" = some typeRunlevel := by
  obtain ⟨type, hfind⟩ : ∃ type, serviceTypeGetByName types "runlevel" = some type :=
    Option.isSome_iff_exists.mp (find?_isSome.mpr ⟨typeRunlevel, h, by decide⟩)
  have hname : type.name = "runlevel" := by simpa using find?_some hfind
  obtain ⟨name⟩ := type
  rw [hfind, typeRunlevel]
  exact congrArg (fun n => some (Stype.mk n)) hname

def InRunlevel (m : Modules) (g : G) (s : Sid) : Prop :=
  ∃ r ∈ g.activeDb, (g.svc r).type = some typeRunlevel ∧ ReflTransGen (DependsOn m g) r s

/-- Exactly the services that are no runlevels and not in one are asked to stop. -/
def StopsOutsideRunlevels (m : Modules) (types : List Stype) (g : G) : Prop :=
  ∀ s, s ∈ (cmdStopUnneeded m types g).1 ↔
    s ∈ g.activeDb ∧ (g.svc s).type ≠ some typeRunlevel ∧ ¬ InRunlevel m g s

lemma neededDirectly_iff {m : Modules} {s : Sid} :
    neededDirectly m g s = true ↔ ∃ b ∈ g.activeDb, depend m g b s = true := by
  have hself : depend m g s s = false := by simp [Initng.depend]
  rw [neededDirectly, any_eq_true]
  constructor
  · rintro ⟨b, hb, hdep⟩
    exact ⟨b, hb, (of_decide_eq_true hdep).2⟩
  · rintro ⟨b, hb, hdep⟩
    refine ⟨b, hb, decide_eq_true ⟨?_, hdep⟩⟩
    rintro rfl
    exact Bool.noConfusion (hself.symm.trans hdep)

lemma InRunlevel.neededDirectly {m : Modules} {s : Sid} (h : InRunlevel m g s)
    (htype : (g.svc s).type ≠ some typeRunlevel) : neededDirectly m g s = true := by
  obtain ⟨r, hr, hrtype, hpath⟩ := h
  rw [neededDirectly_iff]
  cases hpath with
  | refl => exact absurd hrtype htype
  | @tail b _ hpath hlast =>
    -- the service before is the runlevel or was led to itself
    have hb : b ∈ g.activeDb := by
      cases hpath with
      | refl => exact hr
      | tail _ hstep => exact hstep.1
    exact ⟨b, hb, hlast.2⟩

/-- That is so if and only if every service that another one depends on is in a runlevel. -/
theorem stopsOutsideRunlevels_iff (m : RepoModules) {types : List Stype}
    (htypes : typeRunlevel ∈ types) (g : G) :
    StopsOutsideRunlevels m.toModules types g ↔
      ∀ s ∈ g.activeDb, (g.svc s).type ≠ some typeRunlevel →
        (∃ b ∈ g.activeDb, depend m.toModules g b s = true) → InRunlevel m.toModules g s := by
  have hstops : ∀ s, s ∈ (cmdStopUnneeded m.toModules types g).1 ↔
      s ∈ g.activeDb ∧ (g.svc s).type ≠ some typeRunlevel ∧
        ¬ neededDirectly m.toModules g s = true := fun s => by
    rw [cmdStopUnneeded, serviceTypeGetByName_runlevel htypes, stopUnneededFrom_eq]
    simp
  constructor
  · intro h s hs htype hneeded
    by_contra hout
    have hstop := (h s).mpr ⟨hs, htype, hout⟩
    exact ((hstops s).mp hstop).2.2 (neededDirectly_iff.mpr hneeded)
  · intro h s
    rw [hstops]
    refine and_congr_right fun hs => and_congr_right fun htype => not_congr ⟨?_, ?_⟩
    · exact fun hneeded => h s hs htype (neededDirectly_iff.mp hneeded)
    · exact fun hin => hin.neededDirectly htype

end

def unneededDb (needs needs' : List String) : G :=
  G.ofServices .stateUp [.needing "default" typeRunlevel .runlevelUp ["net"],
    .needing "net" ⟨"service"⟩ .serviceDone [], .needing "cupsd" ⟨"service"⟩ .serviceDone needs,
    .needing "printer" ⟨"service"⟩ .serviceDone needs']

/-- Nothing needs the printer, and it needs nothing that is not in the runlevel. -/
theorem stopsOutsideRunlevels_iff_printer :
    typeRunlevel ∈ [typeRunlevel] ∧
    StopsOutsideRunlevels repoModules.toModules [typeRunlevel] (unneededDb [] ["net"]) := by
  refine ⟨by decide, (stopsOutsideRunlevels_iff repoModules (by decide) _).mpr ?_⟩
  have honly : ∀ s ∈ (unneededDb [] ["net"]).activeDb, (∃ b ∈ (unneededDb [] ["net"]).activeDb,
      depend repoModules.toModules (unneededDb [] ["net"]) b s = true) → s = 1 := by
    decide +kernel
  have hnet : DependsOn repoModules.toModules (unneededDb [] ["net"]) 0 1 := by decide +kernel
  intro s hs _ hneeded
  obtain rfl := honly s hs hneeded
  exact ⟨0, by decide, rfl, .single hnet⟩

/-- Two services that need each other are not asked to stop. -/
theorem stopsOutsideRunlevels_not :
    ¬ ∀ (m : RepoModules) (types : List Stype) (g : G), typeRunlevel ∈ types →
      (∀ s, (g.svc s).stateLock = 0) → StopsOutsideRunlevels m.toModules types g := by
  intro hall
  have hunlocked : ∀ s, ((unneededDb ["printer"] ["cupsd"]).svc s).stateLock = 0 := by
    intro s
    rcases s with _ | _ | _ | _ | s <;> rfl
  have hstops := hall repoModules [typeRunlevel] _ (by decide) hunlocked 2
  have hnone : (cmdStopUnneeded repoModules.toModules [typeRunlevel]
      (unneededDb ["printer"] ["cupsd"])).1 = [] := by
    decide +kernel
  rw [hnone] at hstops
  apply not_mem_nil (hstops.mpr ⟨by decide, by decide, ?_⟩)
  -- the runlevel leads to itself and to `net` only
  have hclosed : ∀ a ∈ [0, 1], ∀ b ∈ (unneededDb ["printer"] ["cupsd"]).activeDb,
      depend repoModules.toModules (unneededDb ["printer"] ["cupsd"]) a b = true → b ∈ [0, 1] := by
    decide +kernel
  have hroot : ∀ r ∈ (unneededDb ["printer"] ["cupsd"]).activeDb,
      ((unneededDb ["printer"] ["cupsd"]).svc r).type = some typeRunlevel → r ∈ [0, 1] := by
    decide +kernel
  rintro ⟨r, hr, htype, hpath⟩
  have hin : ∀ s, ReflTransGen (DependsOn repoModules.toModules
      (unneededDb ["printer"] ["cupsd"])) r s → s ∈ [0, 1] := by
    intro s hpath
    induction hpath with
    | refl => exact hroot r hr htype
    | tail _ hstep ih => exact hclosed _ ih _ hstep.1 hstep.2
  exact absurd (hin 2 hpath) (by decide)

end Initng
