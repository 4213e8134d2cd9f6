import Initng.StepRun
import Mathlib.Data.Finset.Card
import Mathlib.Data.Fintype.Card

/-! `probe_network_devices` of `modules/netdev/initng_netdev.c`. -/

namespace Initng

open StepRun List Function

abbrev DevName := List Char

/-- `s_netdev`, for a slot that is in use. -/
structure NetDev where
  dev : DevName
  status : Bool
  deriving DecidableEq

abbrev DevSlots := Fin 20 → Option NetDev

abbrev NicServices := DevName → Option Bool

/-- `devs`, and the services of the type `NETDEV` by name: `true` stands for `NIC_UP` and `false`
for `NIC_DOWN`. -/
structure NetDevs where
  devs : DevSlots
  services : NicServices

def devsReset (devs : DevSlots) : DevSlots := fun i => (devs i).map ({ · with status := false })

def setFound (devs : DevSlots) (name : DevName) : DevSlots :=
  match (finRange 20).find? fun i => (devs i).any (·.dev = name) with
  | some i => update devs i (some ⟨name, true⟩)
  | none =>
    match (finRange 20).find? fun i => (devs i).isNone with
    | some i => update devs i (some ⟨name, true⟩)
    | none => devs

/-- The name of the service; `strncat` appends ten characters. -/
def deviceName (name : DevName) : DevName := "device/".toList ++ name.take 10

def netSetUp (name : DevName) (services : NicServices) : NicServices :=
  update services (deviceName name) (some true)

def netRemove (name : DevName) (services : NicServices) : NicServices :=
  update services (deviceName name) ((services (deviceName name)).map fun _ => false)

def handleDev (services : NicServices) : Option NetDev → NicServices
  | none => services
  | some d => if d.status then netSetUp d.dev services else netRemove d.dev services

def handleDevs (c : NetDevs) : NetDevs :=
  ⟨fun i => (c.devs i).filter NetDev.status, (ofFn c.devs).foldl handleDev c.services⟩

def probeNetworkDevices (names : List DevName) (c : NetDevs) : NetDevs :=
  handleDevs { c with devs := names.foldl setFound (devsReset c.devs) }

def NetDevs.start : NetDevs := ⟨fun _ => none, fun _ => none⟩

/-- The services that are up are those of these interfaces. -/
def ReflectsDevs (names : List DevName) (c : NetDevs) : Prop :=
  ∀ service, c.services service = some true ↔ ∃ name ∈ names, service = "device/".toList ++ name

/-- Names have no more than ten characters, and those of a probe and of the one before it have
room in the slots. -/
def NamesFitSlots : List DevName → List (List DevName) → Prop
  | _, [] => True
  | before, names :: probes => (∀ name ∈ names, name.length ≤ 10) ∧
      (names.toFinset ∪ before.toFinset).card ≤ 20 ∧ NamesFitSlots names probes

/-- The slots hold these names, each once, with whether they are found. -/
structure SlotsHold (names found : Finset DevName) (devs : DevSlots) : Prop where
  distinct : ∀ {i j d e}, devs i = some d → devs j = some e → d.dev = e.dev → i = j
  mem : ∀ d, (∃ i, devs i = some d) ↔ d.dev ∈ names ∧ d.status = decide (d.dev ∈ found)

section
variable {names found : Finset DevName} {devs : DevSlots} {name : DevName}

section
variable (h : SlotsHold names found devs)
include h

lemma SlotsHold.put {i : Fin 20}
    (hi : ∀ j d, devs j = some d → (d.dev = name ↔ j = i)) :
    SlotsHold (insert name names) (insert name found) (update devs i (some ⟨name, true⟩)) := by
  have hother {j : Fin 20} {d : NetDev} (hd : d.dev ≠ name) :
      update devs i (some ⟨name, true⟩) j = some d ↔ devs j = some d := by
    by_cases hj : j = i
    · rw [hj, update_self]
      refine iff_of_false (fun heq => ?_) fun heq => hd ((hi i d heq).mpr rfl)
      cases heq
      exact hd rfl
    · rw [update_of_ne hj]
  have hname {j : Fin 20} {d : NetDev} (hj : update devs i (some ⟨name, true⟩) j = some d)
      (hd : d.dev = name) : j = i := by
    by_contra hne
    rw [update_of_ne hne] at hj
    exact hne ((hi j d hj).mp hd)
  constructor
  · intro j k d e hj hk heq
    by_cases hd : d.dev = name
    · exact (hname hj hd).trans (hname hk (heq ▸ hd)).symm
    · exact h.distinct ((hother hd).mp hj) ((hother (heq ▸ hd)).mp hk) heq
  · intro d
    by_cases hd : d.dev = name
    · obtain ⟨dev, status⟩ := d
      obtain rfl : dev = name := hd
      have hstatus : (∃ j, update devs i (some ⟨dev, true⟩) j = some ⟨dev, status⟩) ↔
          status = true := by
        refine ⟨fun ⟨j, hj⟩ => ?_, fun hs => ⟨i, by rw [hs, update_self]⟩⟩
        rw [hname hj rfl, update_self] at hj
        cases hj
        rfl
      simp [hstatus]
    · simp [hother hd, h.mem d, hd]

lemma SlotsHold.card (hfull : ∀ i, devs i ≠ none) : 20 ≤ names.card := by
  choose d hd using fun i => Option.ne_none_iff_exists'.mp (hfull i)
  have hinj : Injective fun i => (d i).dev := fun i j heq => h.distinct (hd i) (hd j) heq
  rw [← Fintype.card_fin 20, ← Finset.card_univ, ← Finset.card_image_of_injective _ hinj]
  refine Finset.card_le_card fun name hm => ?_
  obtain ⟨i, -, rfl⟩ := Finset.mem_image.mp hm
  exact ((h.mem (d i)).mp ⟨i, hd i⟩).1

lemma SlotsHold.setFound
    (hcard : (insert name names).card ≤ 20) :
    SlotsHold (insert name names) (insert name found) (setFound devs name) := by
  rw [Initng.setFound]
  split
  next i hfind =>
    obtain ⟨d, hd, hname⟩ : ∃ d, devs i = some d ∧ d.dev = name := by
      simpa [Option.any_eq_true] using find?_some hfind
    refine h.put fun j e he => ⟨fun heq => h.distinct he hd (heq.trans hname.symm), fun hj => ?_⟩
    rw [hj, hd] at he
    exact Option.some.inj he ▸ hname
  next hfind =>
    have hnone (j : Fin 20) (d : NetDev) (hd : devs j = some d) : d.dev ≠ name := by
      simpa [hd] using find?_eq_none.mp hfind j (mem_finRange j)
    split
    next i hfree =>
      have hi : devs i = none := by simpa using find?_some hfree
      refine h.put fun j d hd => iff_of_false (hnone j d hd) fun hj => ?_
      rw [hj, hi] at hd
      cases hd
    next hfree =>
      have hnames : name ∉ names := fun hm => by
        obtain ⟨i, hi⟩ := (h.mem ⟨name, decide (name ∈ found)⟩).mpr ⟨hm, rfl⟩
        exact hnone i _ hi rfl
      have hfull := h.card fun i => by simpa using find?_eq_none.mp hfree i (mem_finRange i)
      rw [Finset.card_insert_of_notMem hnames] at hcard
      omega

end

lemma SlotsHold.foldl (probe : List DevName) (h : SlotsHold names found devs)
    (hcard : (probe.toFinset ∪ names).card ≤ 20) :
    SlotsHold (probe.toFinset ∪ names) (probe.toFinset ∪ found)
      (probe.foldl Initng.setFound devs) := by
  induction probe generalizing devs names found with
  | nil => simpa using h
  | cons name probe ih =>
    rw [toFinset_cons, Finset.insert_union, ← Finset.union_insert] at hcard ⊢
    rw [Finset.insert_union, ← Finset.union_insert]
    exact ih (h.setFound ((Finset.card_le_card Finset.subset_union_right).trans hcard)) hcard

lemma SlotsHold.handled (h : SlotsHold names found devs) (hsub : found ⊆ names) :
    SlotsHold found ∅ (devsReset fun i => (devs i).filter NetDev.status) := by
  have hslot (i : Fin 20) (d : NetDev) : devsReset (fun i => (devs i).filter NetDev.status) i =
      some d ↔ devs i = some ⟨d.dev, true⟩ ∧ d.status = false := by
    simp only [devsReset, Option.map_eq_some_iff, Option.filter_eq_some_iff]
    constructor
    · rintro ⟨d', ⟨hd', hstatus⟩, rfl⟩
      exact ⟨by rw [hd', ← hstatus], rfl⟩
    · rintro ⟨hd, hstatus⟩
      exact ⟨_, ⟨hd, rfl⟩, by rw [← hstatus]⟩
  refine ⟨fun hi hj heq => ?_, fun d => ?_⟩
  · exact h.distinct ((hslot _ _).mp hi).1 ((hslot _ _).mp hj).1 heq
  · simp only [hslot, exists_and_right, h.mem]
    simpa using fun _ hd => hsub hd

lemma foldl_handleDev_iff {slots : List (Option NetDev)} {service : DevName}
    {up : Prop} {services : NicServices}
    (h : ∀ d, some d ∈ slots → deviceName d.dev = service → (d.status = true ↔ up))
    (hrest : (∀ d, some d ∈ slots → deviceName d.dev ≠ service) →
      (services service = some true ↔ up)) :
    slots.foldl handleDev services service = some true ↔ up := by
  induction slots generalizing services with
  | nil => exact hrest fun d hd => nomatch hd
  | cons slot slots ih =>
    refine ih (fun d hd => h d (.tail _ hd)) fun hno => ?_
    cases slot with
    | none => exact hrest fun d hd => hno d ((mem_cons.mp hd).resolve_left fun heq => nomatch heq)
    | some d =>
      by_cases hname : deviceName d.dev = service
      · rw [← h d (.head _) hname, ← hname]
        cases hstatus : d.status <;> simp [handleDev, netSetUp, netRemove, hstatus]
      · have hsame : handleDev services (some d) service = services service := by
          cases hstatus : d.status <;>
            simp [handleDev, netSetUp, netRemove, hstatus, update_of_ne (Ne.symm hname)]
        rw [hsame]
        refine hrest fun d' hd' => ?_
        rcases mem_cons.mp hd' with heq | hd'
        · cases heq
          exact hname
        · exact hno d' hd'

end

/-- The slots and the services agree with the names of the last probe. -/
structure NetDevs.Ok (names : List DevName) (c : NetDevs) : Prop where
  slots : SlotsHold names.toFinset ∅ (devsReset c.devs)
  short : ∀ name ∈ names, name.length ≤ 10
  reflects : ReflectsDevs names c

lemma NetDevs.Ok.probe {before names : List DevName} {c : NetDevs} (h : c.Ok before)
    (hshort : ∀ name ∈ names, name.length ≤ 10)
    (hcard : (names.toFinset ∪ before.toFinset).card ≤ 20) :
    (probeNetworkDevices names c).Ok names := by
  have hslots := h.slots.foldl names hcard
  rw [Finset.union_empty] at hslots
  refine ⟨hslots.handled Finset.subset_union_left, hshort, fun service => ?_⟩
  have hname (d : NetDev) (hd : ∃ i, names.foldl setFound (devsReset c.devs) i = some d) :
      deviceName d.dev = "device/".toList ++ d.dev := by
    refine congrArg _ (take_of_length_le ?_)
    rcases Finset.mem_union.mp ((hslots.mem d).mp hd).1 with hd | hd
    · exact hshort _ (mem_toFinset.mp hd)
    · exact h.short _ (mem_toFinset.mp hd)
  refine foldl_handleDev_iff (fun d hd hservice => ?_) fun hno => ?_
  · rw [mem_ofFn] at hd
    rw [((hslots.mem d).mp hd).2, ← hservice, hname d hd]
    simp
  · have hnot (name : DevName) (hm : name ∈ names ∨ name ∈ before) :
        service ≠ "device/".toList ++ name := fun heq => by
      have hd := (hslots.mem ⟨name, decide (name ∈ names.toFinset)⟩).mpr ⟨by simpa using hm, rfl⟩
      exact hno _ (mem_ofFn.mpr hd) ((hname _ hd).trans heq.symm)
    refine iff_of_false (fun hup => ?_) fun ⟨name, hm, heq⟩ => hnot name (.inl hm) heq
    obtain ⟨name, hm, heq⟩ := (h.reflects service).mp hup
    exact hnot name (.inr hm) heq

lemma NetDevs.Ok.run {probes : List (List DevName)} {before : List DevName} {c : NetDevs}
    (hok : c.Ok before) (h : NamesFitSlots before probes) : Along probeNetworkDevices
      (fun c names => ReflectsDevs names (probeNetworkDevices names c)) c probes := by
  induction probes generalizing before c with
  | nil => trivial
  | cons names probes ih =>
    have hok' := hok.probe h.1 h.2.1
    exact ⟨hok'.reflects, ih hok' h.2.2⟩

lemma NetDevs.start_ok : NetDevs.start.Ok [] where
  slots := ⟨fun hi => (nomatch hi), fun d => by simp [devsReset, NetDevs.start]⟩
  short _ hm := nomatch hm
  reflects service := by simp [NetDevs.start]

/-- The services reflect the interfaces after each probe, as long as the names fit. -/
theorem netDevs_reflect {probes : List (List DevName)} (h : NamesFitSlots [] probes) :
    Along probeNetworkDevices (fun c names => ReflectsDevs names (probeNetworkDevices names c))
      NetDevs.start probes := NetDevs.start_ok.run h

theorem netDevs_reflect_swap :
    let c := probeNetworkDevices ["eth1".toList] (probeNetworkDevices ["eth0".toList] NetDevs.start)
    ReflectsDevs ["eth1".toList] c :=
  (@netDevs_reflect [["eth0".toList], ["eth1".toList]]
    ⟨by decide, by decide, by decide, by decide, trivial⟩).2.1

/-- The last character of a name is cut off. -/
theorem not_always_reflectsDevs :
    ¬ ReflectsDevs ["enp0s31f6u1".toList]
      (probeNetworkDevices ["enp0s31f6u1".toList] NetDevs.start) := by
  intro h
  obtain ⟨name, hm, heq⟩ := (h "device/enp0s31f6u".toList).mp (by decide +kernel)
  rw [mem_singleton.mp hm] at heq
  exact absurd heq (by decide +kernel)

end Initng
