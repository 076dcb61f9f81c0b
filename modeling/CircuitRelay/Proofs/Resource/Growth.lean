import CircuitRelay.Resource.Ceilings
import Mathlib.Order.Monotone.Basic

/-!
# Ceilings grow without wrapping

A ceiling is computed in machine words: a difference that stops at zero, a product of two words in a
double word, a quotient that is cut back to a word, and a sum that stops at the largest word.  Here
each of these steps is the operation on natural numbers that it stands for, held back at the ends of
a word where the step says so.  The product is the only one that could pass the range of a word, and
it stays within a double word whatever the two factors are.  So a ceiling is one formula in natural
numbers, held back once, at the largest word, and what is monotone in the formula is monotone in the
ceiling.

* `toNat_addSaturating`, `toNat_subSaturating`, `toNat_narrow`: the steps.
* `toNat_extra`, `toNat_product`, `toNat_grown`: what they come to in a ceiling.
* `Growth.get_scale`, `ResourcePlan.get_resolve`: ceilings as a formula.
* `ResourcePlan.get_resolve_mono`: what ceilings are monotone in.
* `ResourcePlan.resolve_scales`: the ceilings of any plan.
-/

namespace CircuitRelay

namespace Growth

/-! ## Steps -/

theorem toNat_maxWord : maxWord.toNat = Resource.maxAmount := by decide

/-- An amount that fits in a word is kept by the word. -/
theorem toNat_ofNat_of_le {n : Nat} (h : n ≤ Resource.maxAmount) : (UInt64.ofNat n).toNat = n := by
  simp only [Resource.maxAmount] at h
  exact UInt64.toNat_ofNat_of_lt' (by rw [UInt64.size]; omega)

theorem toNat_addSaturating (a b : UInt64) :
    (addSaturating a b).toNat = min Resource.maxAmount (a.toNat + b.toNat) := by
  have ha := a.toNat_lt
  have hb := b.toNat_lt
  have hadd : (a + b).toNat = (a.toNat + b.toNat) % 2 ^ 64 := UInt64.toNat_add a b
  unfold addSaturating
  simp only [UInt64.lt_iff_toNat_lt, hadd]
  split
  · rw [toNat_maxWord, Resource.maxAmount]
    omega
  · rw [hadd, Resource.maxAmount]
    omega

theorem toNat_subSaturating (a b : UInt64) :
    (subSaturating a b).toNat = a.toNat - b.toNat := by
  unfold subSaturating
  simp only [UInt64.lt_iff_toNat_lt]
  split
  · rw [UInt64.toNat_zero]
    omega
  · have hle : b ≤ a := UInt64.le_iff_toNat_le.mpr (by omega)
    exact UInt64.toNat_sub_of_le a b hle

@[simp] theorem toNat_widen (n : UInt64) : (widen n).toNat = n.toNat :=
  BitVec.toNat_setWidth_of_le (by decide)

theorem toNat_narrow (n : BitVec 128) : (narrow n).toNat = min Resource.maxAmount n.toNat := by
  unfold narrow
  simp only [BitVec.le_def, toNat_widen, toNat_maxWord]
  split
  · rename_i hle
    rw [min_eq_right hle]
    simp only [Resource.maxAmount] at hle
    have : (n.setWidth 64).toNat = n.toNat := by
      rw [BitVec.toNat_setWidth]
      omega
    exact this
  · rw [toNat_maxWord]
    omega

/-! ## Ceilings of one kind of scope -/

variable {g : Growth} {memory : Nat} {r : Resource}

/-- The part of a budget above the smallest one. -/
theorem toNat_extra (h : memory ≤ Resource.maxAmount) :
    (extra memory).toNat = memory - minMemory := by
  have hmin : minMemory ≤ Resource.maxAmount := by decide
  rw [extra, toNat_subSaturating, toNat_ofNat_of_le h, toNat_ofNat_of_le hmin]

/-- A double word has room for a product of two words. -/
theorem toNat_widen_mul_widen (a b : UInt64) :
    (widen a * widen b).toNat = a.toNat * b.toNat := by
  have hlt : a.toNat * b.toNat < 2 ^ 64 * 2 ^ 64 := Nat.mul_lt_mul'' a.toNat_lt b.toNat_lt
  rw [BitVec.toNat_mul, toNat_widen, toNat_widen]
  exact Nat.mod_eq_of_lt hlt

theorem toNat_product (h : memory ≤ Resource.maxAmount)
    (hr : g.perGib.get r ≤ Resource.maxAmount) :
    (g.product memory r).toNat = g.perGib.get r * (memory - minMemory) := by
  rw [product, toNat_widen_mul_widen, toNat_extra h, toNat_ofNat_of_le hr]

theorem toNat_grown (h : memory ≤ Resource.maxAmount)
    (hr : g.perGib.get r ≤ Resource.maxAmount) :
    (g.grown memory r).toNat =
      min Resource.maxAmount (g.perGib.get r * (memory - minMemory) / gib) := by
  have hgib : gib ≤ Resource.maxAmount := by decide
  rw [grown, toNat_narrow, BitVec.toNat_udiv, toNat_product h hr, toNat_widen,
    toNat_ofNat_of_le hgib]

/-- A ceiling is held back once, at the end. -/
theorem ceilingAt_eq (h : memory ≤ Resource.maxAmount)
    (hbase : g.base.get r ≤ Resource.maxAmount) (hr : g.perGib.get r ≤ Resource.maxAmount) :
    g.ceilingAt memory r = min Resource.maxAmount
      (g.base.get r + g.perGib.get r * (memory - minMemory) / gib) := by
  rw [ceilingAt, toNat_addSaturating, toNat_ofNat_of_le hbase, toNat_grown h hr]
  omega

/-- What is added to the base of a resource at the given budgets. -/
def added (g : Growth) (memory fds : Nat) (r : Resource) : Nat :=
  if r = .fds then (fdPart g.fdShare fds).toNat
  else g.perGib.get r * (memory - minMemory) / gib

/-- Every ceiling is its base and what is added, held back at the largest amount. -/
theorem get_scale (h : memory ≤ Resource.maxAmount) (hbase : g.base.get r ≤ Resource.maxAmount)
    (hr : g.perGib.get r ≤ Resource.maxAmount) (fds : Nat) :
    (g.scale memory fds).get r =
      min Resource.maxAmount (g.base.get r + g.added memory fds r) := by
  rw [scale, Amounts.get_ofFn, added]
  split
  · rename_i hfds
    subst hfds
    have hfd : (UInt64.ofNat g.base.fds).toNat = g.base.get .fds := toNat_ofNat_of_le hbase
    rw [toNat_addSaturating, hfd]
  · exact ceilingAt_eq h hbase hr

theorem added_mono {g' : Growth} {memory' : Nat} (hmemory : memory ≤ memory')
    (hr : g.perGib.get r ≤ g'.perGib.get r) (hshare : g'.fdShare = g.fdShare) (fds : Nat) :
    g.added memory fds r ≤ g'.added memory' fds r := by
  unfold added
  rw [hshare]
  split
  · exact le_rfl
  · exact Nat.div_le_div_right (Nat.mul_le_mul hr (Nat.sub_le_sub_right hmemory _))

end Growth

/-! ## Ceilings of a plan -/

namespace ResourcePlan

/-- Every number that ceilings are computed from is a 64-bit word. -/
structure IsOfWords (p : ResourcePlan) : Prop where
  base : ∀ k r, (p.growth.get k).base.get r ≤ Resource.maxAmount
  perGib : ∀ k r, (p.growth.get k).perGib.get r ≤ Resource.maxAmount
  maxMemory : ∀ m, p.maxMemory = some m → m ≤ Resource.maxAmount

/-- The plan with one more override. -/
def withOverride (p : ResourcePlan) (k : ScopeKind) (r : Resource) (n : Nat) : ResourcePlan :=
  { p with overrides := .ofFn fun k' => .ofFn fun r' =>
      if k' = k ∧ r' = r then some n else (p.overrides.get k').get r' }

variable {p p' : ResourcePlan} {t t' : Nat} {k : ScopeKind} {r : Resource}

theorem memoryBudget_eq (p : ResourcePlan) (t : Nat) : p.memoryBudget t =
    match p.maxMemory with
    | some m => m
    | none => max (t / 8) (2 ^ 27) := by
  unfold memoryBudget
  cases p.maxMemory <;> rfl

theorem memoryBudget_le (hp : p.IsOfWords) (ht : t ≤ Resource.maxAmount) :
    p.memoryBudget t ≤ Resource.maxAmount := by
  rw [memoryBudget_eq]
  cases hm : p.maxMemory with
  | some m => exact hp.maxMemory m hm
  | none =>
    simp only [Resource.maxAmount] at ht ⊢
    omega

theorem memoryBudget_mono (p : ResourcePlan) (h : t ≤ t') :
    p.memoryBudget t ≤ p.memoryBudget t' := by
  simp only [memoryBudget_eq]
  cases p.maxMemory with
  | some m => exact le_rfl
  | none =>
    show max (t / 8) (2 ^ 27) ≤ max (t' / 8) (2 ^ 27)
    omega

/-- A ceiling is the override if there is one, and otherwise computed. -/
theorem get_resolve (p : ResourcePlan) (t : Nat) (k : ScopeKind) (r : Resource) :
    ((p.resolve t).get k).get r = ((p.overrides.get k).get r).getD
      (((p.growth.get k).scale (p.memoryBudget t) p.fdBudget).get r) := by
  rw [resolve, PerScope.get_ofFn, Overrides.apply, Amounts.get_ofFn]

/-- A larger memory budget and a growth from larger numbers make no ceiling smaller. -/
theorem get_resolve_mono (hp : p.IsOfWords) (hp' : p'.IsOfWords) (ht : t ≤ Resource.maxAmount)
    (ht' : t' ≤ Resource.maxAmount) (hoverrides : p'.overrides = p.overrides)
    (hfds : p'.maxFds = p.maxFds) (hmemory : p.memoryBudget t ≤ p'.memoryBudget t')
    (hshare : (p'.growth.get k).fdShare = (p.growth.get k).fdShare)
    (hbase : (p.growth.get k).base.get r ≤ (p'.growth.get k).base.get r)
    (hperGib : (p.growth.get k).perGib.get r ≤ (p'.growth.get k).perGib.get r) :
    ((p.resolve t).get k).get r ≤ ((p'.resolve t').get k).get r := by
  rw [get_resolve, get_resolve, hoverrides]
  cases (p.overrides.get k).get r with
  | some n => exact le_rfl
  | none =>
    have hadded := Growth.added_mono hmemory hperGib hshare p.fdBudget
    have hbudget : p'.fdBudget = p.fdBudget := by rw [fdBudget, fdBudget, hfds]
    simp only [Option.getD_none]
    rw [Growth.get_scale (memoryBudget_le hp ht) (hp.base k r) (hp.perGib k r),
      Growth.get_scale (memoryBudget_le hp' ht') (hp'.base k r) (hp'.perGib k r), hbudget]
    omega

/-- A ceiling depends on its own override only. -/
theorem get_resolve_withOverride (p : ResourcePlan) (t : Nat) (k k' : ScopeKind) (r r' : Resource)
    (n : Nat) : (((p.withOverride k r n).resolve t).get k').get r' =
      if k' = k ∧ r' = r then n else ((p.resolve t).get k').get r' := by
  rw [get_resolve, get_resolve]
  simp only [withOverride, PerScope.get_ofFn, Overrides.get_ofFn]
  split
  · rfl
  · rfl

/-- The ceilings of any plan whose numbers are words, on a host with any memory.  Each ceiling but
that of file descriptors is the override if there is one, and otherwise the base and what the memory
budget adds, computed without bounds and held back at the largest word.  No step on the way to it
passes the range of the words that it is made in.

No ceiling falls when the memory of the host, the memory budget, a base or a growth rises.  An
override changes no other ceiling, and the ceilings of file descriptors do not depend on memory. -/
theorem resolve_scales (p : ResourcePlan) (hp : p.IsOfWords) (t : Nat)
    (ht : t ≤ Resource.maxAmount) :
    let budget := match p.maxMemory with
      | some m => m
      | none => max (t / 8) (2 ^ 27)
    let ceiling := fun (p : ResourcePlan) (t : Nat) (k : ScopeKind) (r : Resource) =>
      ((p.resolve t).get k).get r
    (∀ k r, r ≠ .fds → ceiling p t k r =
      match (p.overrides.get k).get r with
      | some n => n
      | none => min (2 ^ 64 - 1) ((p.growth.get k).base.get r +
          (p.growth.get k).perGib.get r * (budget - 2 ^ 27) / 2 ^ 30)) ∧
    (∀ k r, (Growth.extra budget).toNat = budget - 2 ^ 27 ∧
      ((p.growth.get k).product budget r).toNat =
        (p.growth.get k).perGib.get r * (budget - 2 ^ 27) ∧
      ((p.growth.get k).grown budget r).toNat =
        min (2 ^ 64 - 1) ((p.growth.get k).perGib.get r * (budget - 2 ^ 27) / 2 ^ 30)) ∧
    (∀ t', t ≤ t' → t' ≤ Resource.maxAmount → ∀ k r, ceiling p t k r ≤ ceiling p t' k r) ∧
    (∀ m m', m ≤ m' → m' ≤ Resource.maxAmount → ∀ k r,
      ceiling { p with maxMemory := some m } t k r ≤
        ceiling { p with maxMemory := some m' } t k r) ∧
    (∀ growth : PerScope Growth, { p with growth := growth }.IsOfWords →
      ∀ k r, (growth.get k).fdShare = (p.growth.get k).fdShare →
        (p.growth.get k).base.get r ≤ (growth.get k).base.get r →
        (p.growth.get k).perGib.get r ≤ (growth.get k).perGib.get r →
        ceiling p t k r ≤ ceiling { p with growth := growth } t k r) ∧
    (∀ k r n k' r', ceiling (p.withOverride k r n) t k' r' =
      if k' = k ∧ r' = r then n else ceiling p t k' r') ∧
    ∀ maxMemory t' k, ceiling { p with maxMemory := maxMemory } t' k .fds = ceiling p t k .fds := by
  intro budget ceiling
  have hbudget : p.memoryBudget t = budget := memoryBudget_eq p t
  have hle : budget ≤ Resource.maxAmount := hbudget ▸ memoryBudget_le hp ht
  refine ⟨fun k r hr => ?_, fun k r => ⟨?_, ?_, ?_⟩, fun t' htt' ht' k r => ?_,
    fun m m' hmm' hm' k r => ?_, fun growth hwords k r hshare hbase hperGib => ?_,
    fun k r n k' r' => get_resolve_withOverride p t k k' r r' n, fun maxMemory t' k => ?_⟩
  · show ((p.resolve t).get k).get r = _
    rw [get_resolve, hbudget]
    cases (p.overrides.get k).get r with
    | some n => rfl
    | none =>
      simp only [Option.getD_none]
      rw [Growth.get_scale hle (hp.base k r) (hp.perGib k r), Growth.added, if_neg hr]
      rfl
  · exact Growth.toNat_extra hle
  · exact Growth.toNat_product hle (hp.perGib k r)
  · exact Growth.toNat_grown hle (hp.perGib k r)
  · exact get_resolve_mono hp hp ht ht' rfl rfl (memoryBudget_mono p htt') rfl le_rfl le_rfl
  · have hwords : ∀ m, m ≤ Resource.maxAmount → { p with maxMemory := some m }.IsOfWords :=
      fun m hm => ⟨hp.base, hp.perGib, fun _ heq => Option.some.inj heq ▸ hm⟩
    exact get_resolve_mono (hwords m (hmm'.trans hm')) (hwords m' hm') ht ht rfl rfl hmm' rfl
      le_rfl le_rfl
  · exact get_resolve_mono hp hwords ht ht rfl rfl le_rfl hshare hbase hperGib
  · show ((resolve _ t').get k).get .fds = ((p.resolve t).get k).get .fds
    rw [get_resolve, get_resolve]
    rfl

/-- With the largest numbers everywhere the product passes a word by far, and the ceiling is the
largest one. -/
theorem resolve_scales_largest :
    let p : ResourcePlan := ⟨some Resource.maxAmount, none,
      .ofFn fun _ => ⟨.unlimited, .unlimited, 0⟩, .ofFn fun _ => .none⟩
    p.IsOfWords ∧ Resource.maxAmount ≤ Resource.maxAmount ∧
    ((p.resolve Resource.maxAmount).get .system).get .memory = 2 ^ 64 - 1 ∧
    ((p.growth.get .system).product Resource.maxAmount .memory).toNat =
      (2 ^ 64 - 1) * (2 ^ 64 - 1 - 2 ^ 27) := by
  intro p
  have hp : p.IsOfWords := by
    refine ⟨?_, ?_, fun m hm => (Option.some.inj hm).symm.le⟩ <;>
    · intro k r
      cases k <;> cases r <;> decide
  obtain ⟨hexact, hsteps, -⟩ := resolve_scales p hp Resource.maxAmount le_rfl
  exact ⟨hp, le_rfl, (hexact .system .memory (by decide)).trans (by decide),
    (hsteps .system .memory).2.1.trans (by decide)⟩

end ResourcePlan

end CircuitRelay
