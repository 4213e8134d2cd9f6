import Initng.BudgetSearch
import Initng.Event

/-! `depend/dep_on.c`, `depend/depend.c` and `depend/depend_deep.c`. -/

namespace Initng

open BudgetSearch Relation

def depOn (g : G) (service check : Sid) : Bool :=
  (g.svc service).data.any fun current =>
    (current.type = .require ∨ current.type = .need ∨ current.type = .use) ∧
      current.s = some (g.svc check).name

def depend (m : Modules) (g : G) (service check : Sid) : Bool :=
  if service = check then false
  else if depOn g service check then true
  else (eventSend (m.depOn.map fun hook _ => (hook service check, ())) ()).1 = .handled

def deepLoop (deep2 : Sid → ℕ → Option (Bool × ℕ)) (dep : Sid → Bool) :
    List Sid → ℕ → Option (Bool × ℕ)
  | [], stack => some (false, stack)
  | current :: rest, stack =>
    if dep current then
      match deep2 current stack with
      | none => none
      | some (true, stack) => some (true, stack)
      | some (false, stack) => deepLoop deep2 dep rest stack
    else deepLoop deep2 dep rest stack

/-- `initng_depend_deep2`, with the value it leaves in `*stack`; `none` means out of fuel.
The test "avoid circular" compares `service` with NULL and is left out. -/
def dependDeep2 (m : Modules) (g : G) (check : Sid) : ℕ → Sid → ℕ → Option (Bool × ℕ)
  | 0, _, _ => none
  | fuel + 1, service, stack =>
    if depend m g service check then some (true, stack)
    else if stack + 1 > 10 then some (false, stack + 1)
    else deepLoop (dependDeep2 m g check fuel) (depend m g service) g.activeDb (stack + 1)

/-- `initng_depend_deep`.  The counter bounds the depth, see `dependDeep2_search`. -/
def dependDeep (m : Modules) (g : G) (service check : Sid) : Bool :=
  match dependDeep2 m g check 11 service 0 with
  | some (result, _) => result
  | none => false

section
variable (m : Modules) (g : G)

def DependsOn (s c : Sid) : Prop := c ∈ g.activeDb ∧ depend m g s c = true

instance (s c : Sid) : Decidable (DependsOn m g s c) := inferInstanceAs (Decidable (_ ∧ _))

def deps (s : Sid) : List Sid := g.activeDb.filter (depend m g s)

lemma mem_deps {s c : Sid} : c ∈ deps m g s ↔ DependsOn m g s c := by
  simp [deps, DependsOn]

variable {m g} {c : Sid}

lemma deepLoop_visitAll {visit : Sid → ℕ → Bool × ℕ}
    {deep2 : Sid → ℕ → Option (Bool × ℕ)} {lo : ℕ}
    (h : ∀ y stack, lo ≤ stack → ∃ stack', stack ≤ stack' ∧
      deep2 y stack = some ((visit y (10 - stack)).1, stack') ∧
      (visit y (10 - stack)).2 = 10 - stack')
    (dep : Sid → Bool) (l : List Sid) (stack : ℕ) (hs : lo ≤ stack) :
    ∃ stack', stack ≤ stack' ∧
      deepLoop deep2 dep l stack =
        some ((visitAll visit (l.filter dep) (10 - stack)).1, stack') ∧
      (visitAll visit (l.filter dep) (10 - stack)).2 = 10 - stack' := by
  induction l generalizing stack with
  | nil => exact ⟨stack, Nat.le_refl _, rfl, rfl⟩
  | cons y l ih =>
    by_cases hd : dep y = true
    · obtain ⟨stack₁, hle, hcall, hleft⟩ := h y stack hs
      simp only [deepLoop, hd, if_true, hcall, List.filter_cons_of_pos, visitAll]
      rcases hv : visit y (10 - stack) with ⟨_ | _, b⟩
      · -- not below `y`: the loop goes on with the counter `y` left
        obtain ⟨stack₂, hle', hrest, hleft'⟩ := ih stack₁ (by omega)
        rw [hv] at hleft
        dsimp only at hleft ⊢
        rw [hleft]
        exact ⟨stack₂, by omega, hrest, hleft'⟩
      · rw [hv] at hleft
        exact ⟨stack₁, hle, rfl, hleft⟩
    · rw [List.filter_cons_of_neg hd]
      simp only [deepLoop, hd, Bool.false_eq_true, if_false]
      exact ih stack hs

lemma dependDeep2_search (n fuel stack : ℕ) (s : Sid) (hn : 10 - stack ≤ n)
    (hf : 10 - stack < fuel) :
    ∃ stack', stack ≤ stack' ∧
      dependDeep2 m g c fuel s stack =
        some ((search (deps m g) (depend m g · c) n s (10 - stack)).1, stack') ∧
      (search (deps m g) (depend m g · c) n s (10 - stack)).2 = 10 - stack' := by
  induction fuel generalizing n stack s with
  | zero => omega
  | succ fuel ih =>
    cases hd : depend m g s c with
    | true =>
      refine ⟨stack, Nat.le_refl _, ?_, ?_⟩
      · simp [dependDeep2, hd, search_of_goal]
      · simp [hd, search_of_goal]
    | false =>
      rcases Nat.lt_or_ge stack 10 with hlt | hge
      · obtain ⟨n, rfl⟩ : ∃ k, n = k + 1 := ⟨n - 1, by omega⟩
        have hb : 10 - stack = (10 - (stack + 1)) + 1 := by omega
        have hguard : ¬ stack + 1 > 10 := by omega
        rw [hb, search_succ (deps m g) (depend m g · c) hd]
        simp only [dependDeep2, hd, Bool.false_eq_true, if_false, hguard]
        obtain ⟨stack', hle, hloop⟩ := deepLoop_visitAll
          (fun y k (hk : stack + 1 ≤ k) => ih n k y (by omega) (by omega))
          (depend m g s) g.activeDb (stack + 1) (Nat.le_refl _)
        exact ⟨stack', by omega, hloop⟩
      · have hb : 10 - stack = 0 := by omega
        have hguard : stack + 1 > 10 := by omega
        have hleft : 10 - (stack + 1) = 0 := by omega
        rw [hb, search_zero (deps m g) (depend m g · c) hd]
        refine ⟨stack + 1, Nat.le_succ stack, ?_, hleft.symm⟩
        simp only [dependDeep2, hd, Bool.false_eq_true, if_false, if_pos hguard]

lemma dependDeep_eq_search (s : Sid) :
    dependDeep m g s c = (search (deps m g) (depend m g · c) 10 s 10).1 := by
  obtain ⟨stack', -, hcall, -⟩ :=
    dependDeep2_search (m := m) (g := g) (c := c) 10 11 0 s (by omega) (by omega)
  simp only [dependDeep, hcall, Nat.sub_zero]

lemma dependDeep_congr {g' : G} (hdb : g'.activeDb = g.activeDb)
    (hdep : ∀ s c, depOn g' s c = depOn g s c) : dependDeep m g' = dependDeep m g := by
  have hdepend : depend m g' = depend m g := by
    funext s c
    simp only [depend, hdep]
  have hdeps : deps m g' = deps m g := by
    funext s
    simp only [deps, hdb, hdepend]
  funext s c
  rw [dependDeep_eq_search, dependDeep_eq_search, hdeps, hdepend]

variable (m g) in
/-- The services that a call for `s` gets to expand: the first ten of the unfolded
dependency tree of `s` in preorder, services met twice counted twice. -/
def expanded (s : Sid) : List Sid := (preorder (deps m g) 10 s).take 10

lemma dependDeep_iff (s : Sid) :
    dependDeep m g s c = true ↔
      depend m g s c = true ∨ ∃ z ∈ expanded m g s, ∃ y ∈ deps m g z, depend m g y c = true := by
  rw [dependDeep_eq_search, (search_exact 10 10 s (Nat.le_refl _)).found]
  simp [FoundBelow, expanded]

lemma dependDeep_sound {s : Sid} (hc : c ∈ g.activeDb) (h : dependDeep m g s c = true) :
    TransGen (DependsOn m g) s c := by
  rcases (dependDeep_iff s).mp h with hd | ⟨z, hz, y, hy, hd⟩
  · exact .single ⟨hc, hd⟩
  · have hpath : ReflTransGen (DependsOn m g) s z := by
      have hreach := preorder_reachable (List.mem_of_mem_take hz)
      simpa only [mem_deps] using hreach
    have hlast : TransGen (DependsOn m g) z c := .head ((mem_deps m g).mp hy) (.single ⟨hc, hd⟩)
    exact TransGen.trans_right hpath hlast

end

/-- The deep search decides the transitive dependency exactly if a path to `c` can be
completed from the services it gets to expand. -/
theorem dependDeep_decides_iff (m : Modules) (g : G) (s c : Sid) (hc : c ∈ g.activeDb) :
    (dependDeep m g s c = true ↔ TransGen (DependsOn m g) s c) ↔
      (TransGen (DependsOn m g) s c →
        depend m g s c = true ∨ ∃ z ∈ expanded m g s, ∃ y ∈ deps m g z, depend m g y c = true) := by
  rw [← dependDeep_iff]
  exact ⟨fun h => h.mpr, fun h => ⟨dependDeep_sound hc, h⟩⟩

def wideDb : G :=
  let daemon name needs := ActiveType.needing name ⟨"daemon"⟩ .loading needs
  G.ofServices .stateUp
    [daemon "s" ["1", "2", "3", "4", "5", "6", "7", "8", "9", "b"],
      daemon "1" [], daemon "2" [], daemon "3" [], daemon "4" [], daemon "5" [],
      daemon "6" [], daemon "7" [], daemon "8" [], daemon "9" [],
      daemon "b" ["d"], daemon "d" ["c"], daemon "c" []]

theorem dependDeep_decides_iff_wide :
    12 ∈ wideDb.activeDb ∧
      ((dependDeep {} wideDb 10 12 = true ↔ TransGen (DependsOn {} wideDb) 10 12) ↔
        (TransGen (DependsOn {} wideDb) 10 12 →
          depend {} wideDb 10 12 = true ∨
            ∃ z ∈ expanded {} wideDb 10, ∃ y ∈ deps {} wideDb z, depend {} wideDb y 12 = true)) :=
  ⟨by decide, dependDeep_decides_iff {} wideDb 10 12 (by decide)⟩

/-- The nine siblings of `"b"` use the counter up, although no path is longer than three. -/
theorem dependDeep_misses_wide :
    ¬ (dependDeep {} wideDb 0 12 = true ↔ TransGen (DependsOn {} wideDb) 0 12) := by
  have hpath : TransGen (DependsOn {} wideDb) 0 12 :=
    .head (b := 10) (by decide) (.head (b := 11) (by decide) (.single (by decide)))
  have hmiss : dependDeep {} wideDb 0 12 = false := by decide +kernel
  simp [hpath, hmiss]

end Initng
