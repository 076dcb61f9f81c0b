import CircuitRelay.Ip.Scope
import Mathlib.Data.List.Pairwise
import Mathlib.Data.List.Permutation

/-!
# Scopes are blocks of addresses

The scope of an address comes from a row of tests: comparisons of octets and groups, ranges of an
octet, masks.  Registries describe the same thing by blocks, runs of `2 ^ k` consecutive addresses.
Each test is passed exactly by the addresses of some blocks, and blocks do not meet.  So an address
lies in one block at most, which gives its scope, and the order of the tests has no say in it, with
one exception.

Two IPv4 addresses have no scope although they lie in reserved blocks.  They pass the test of the
reserved ones as well, and have no scope since the test for them comes first.  This is the one place
where a block of the registries is not used as a whole, and where the order of two tests matters.

* `Block`, `Layout`, `Layout.HasScope`: scopes by blocks; `layout4`, `layout6`, `mappedBlock`.
* `ofTests_eq_iff`, `ofTests_perm`: tests of which an address passes one at most;
  `ofTests_eq_none_iff`: tests of which it passes two.
* `Layout.Tested`: tests for the blocks of a layout; such tests, when the blocks do not meet.
* `land_mask`: a mask of leading ones keeps the number of the block.
* `IPv4.tested`, `IPv6.tested`: the addresses that pass each test.
* `Ip.scope_of_blocks`: the scope of every address.
-/

namespace CircuitRelay

/-! ## Blocks -/

namespace Scope

/-- A run of `2 ^ free` consecutive addresses. -/
structure Block where
  /-- The first address of the run. -/
  first : Nat
  /-- The number of low bits in which its addresses differ. -/
  free : Nat

instance : Membership Nat Block := ⟨fun b n => b.first ≤ n ∧ n < b.first + 2 ^ b.free⟩

theorem Block.mem_iff {b : Block} {n : Nat} : n ∈ b ↔ b.first ≤ n ∧ n < b.first + 2 ^ b.free :=
  Iff.rfl

/-- The block of an IPv4 network such as `10.0.0.0/8`. -/
def block4 (a b c d size : Nat) : Block := ⟨((a * 256 + b) * 256 + c) * 256 + d, 32 - size⟩

/-- The block of an IPv6 network such as `2001:db8::/32`, by its first two groups. -/
def block6 (a b size : Nat) : Block := ⟨(a * 65536 + b) * 2 ^ 96, 128 - size⟩

/-- Blocks with a scope of their own, and the addresses that have none. -/
structure Layout where
  unscoped : List Nat
  blocks : List (Block × Scope)

namespace Layout

/-- Whether a number lies in a block of a scope. -/
def Gives (l : Layout) (n : Nat) (s : Scope) : Prop := ∃ b, (b, s) ∈ l.blocks ∧ n ∈ b

/-- The scope of an address by its block: none for the addresses taken out, otherwise that of the
block that it lies in, and public if it lies in no block. -/
def HasScope (l : Layout) (n : Nat) : Option Scope → Prop
  | none => n ∈ l.unscoped
  | some s => n ∉ l.unscoped ∧ (l.Gives n s ∨ s = .public ∧ ∀ s', ¬l.Gives n s')

/-- No two blocks have an address in common. -/
def Disjoint (l : Layout) : Prop := l.blocks.Pairwise fun p q => ∀ n, ¬(n ∈ p.1 ∧ n ∈ q.1)

end Layout

/-- The blocks of IPv4 addresses. -/
def layout4 : Layout where
  unscoped := [0, 2 ^ 32 - 1]
  blocks := [
    (block4 127 0 0 0 8, .loopback),
    (block4 10 0 0 0 8, .private),
    (block4 172 16 0 0 12, .private),
    (block4 192 168 0 0 16, .private),
    (block4 100 64 0 0 10, .private),
    (block4 169 254 0 0 16, .linkLocal),
    (block4 0 0 0 0 8, .reserved),
    (block4 192 0 0 0 24, .reserved),
    (block4 192 0 2 0 24, .reserved),
    (block4 198 51 100 0 24, .reserved),
    (block4 203 0 113 0 24, .reserved),
    (block4 198 18 0 0 15, .reserved),
    (block4 224 0 0 0 4, .reserved),
    (block4 240 0 0 0 4, .reserved)]

/-- The blocks of the IPv6 addresses that stand for no IPv4 address. -/
def layout6 : Layout where
  unscoped := [0]
  blocks := [
    (⟨1, 0⟩, .loopback),
    (block6 0xFC00 0 7, .private),
    (block6 0xFE80 0 10, .linkLocal),
    (block6 0xFF00 0 8, .reserved),
    (block6 0x2001 0xDB8 32, .reserved),
    (block6 0x100 0 64, .reserved)]

/-- The IPv6 addresses that stand for IPv4 addresses, `::ffff:0:0/96`. -/
def mappedBlock : Block := ⟨0xFFFF * 2 ^ 32, 128 - 96⟩

/-! ## Tests in a row -/

section Tests

variable {α : Type} {tests : List (Test α)} {a : α} {s : Option Scope}

/-- An address passes at most one of the tests. -/
def Exclusive (tests : List (Test α)) (a : α) : Prop :=
  tests.Pairwise fun t t' => ¬(t.passes a = true ∧ t'.passes a = true)

theorem ofTests_cons (t : Test α) (tests : List (Test α)) (a : α) :
    ofTests (t :: tests) a = if t.passes a then t.scope else ofTests tests a := by
  unfold ofTests
  rw [List.find?_cons]
  cases t.passes a <;> rfl

/-- Of exclusive tests the first one that is passed is the only one. -/
theorem ofTests_eq_iff (h : Exclusive tests a) : ofTests tests a = s ↔
    (∃ t ∈ tests, t.passes a = true ∧ t.scope = s) ∨
      some Scope.public = s ∧ ∀ t ∈ tests, t.passes a = false := by
  induction tests with
  | nil => simp [ofTests]
  | cons t tests ih =>
    obtain ⟨hhead, htail⟩ := List.pairwise_cons.mp h
    rw [ofTests_cons]
    cases ht : t.passes a with
    | false => simp [ht, ih htail]
    | true =>
      have hnone : ∀ t' ∈ tests, t'.passes a = false := fun t' ht' => by
        simpa [ht] using hhead t' ht'
      simp only [if_true, List.mem_cons, forall_eq_or_imp, exists_eq_or_imp, ht, true_and,
        Bool.true_eq_false, false_and, and_false, or_false, iff_self_or]
      rintro ⟨t', ht', hpasses, -⟩
      rw [hnone t' ht'] at hpasses
      cases hpasses

/-- Exclusive tests may be made in any order. -/
theorem ofTests_perm {tests' : List (Test α)} (h : Exclusive tests a) (hperm : tests'.Perm tests) :
    ofTests tests' a = ofTests tests a := by
  have h' : Exclusive tests' a := hperm.symm.pairwise h fun hne hand => hne hand.symm
  rw [ofTests_eq_iff h']
  simpa only [hperm.mem_iff] using (ofTests_eq_iff h).mp rfl

/-- Of two tests that are passed the earlier one decides. -/
theorem ofTests_eq_none_iff {t t' : Test α} (h : (tests.filter (·.passes a)).Perm [t, t'])
    (ht : t.scope = none) (ht' : t'.scope ≠ none) :
    ofTests tests a = none ↔ [t, t'].Sublist tests := by
  have hne : t ≠ t' := fun heq => ht' (heq ▸ ht)
  have hpassed : ∀ x ∈ [t, t'], x.passes a = true := fun x hx =>
    (List.mem_filter.mp (h.mem_iff.mpr hx)).2
  unfold ofTests
  rw [← List.head?_filter]
  rcases List.perm_pair.mp h with heq | heq
  · have hsub : [t, t'].Sublist tests := heq ▸ List.filter_sublist
    simp [heq, ht, hsub]
  · have hsub : ¬[t, t'].Sublist tests := by
      intro hsub
      have hfiltered := hsub.filter (·.passes a)
      rw [List.filter_eq_self.mpr hpassed, heq] at hfiltered
      exact hne (List.head_eq_of_cons_eq (hfiltered.eq_of_length rfl))
    simp [heq, ht', hsub]

end Tests

/-! ## Tests of blocks -/

section TestsOfBlocks

variable {α : Type} {l : Layout} {n : Nat} {unscoped : α → Bool} {tests : List (Test α)} {a : α}

theorem Layout.Disjoint.eq_of_gives {s s' : Scope} (h : l.Disjoint) (hs : l.Gives n s)
    (hs' : l.Gives n s') : s = s' := by
  obtain ⟨b, hb, hn⟩ := hs
  obtain ⟨b', hb', hn'⟩ := hs'
  by_contra hne
  have : Std.Symm fun p q : Block × Scope => ∀ n, ¬(n ∈ p.1 ∧ n ∈ q.1) :=
    ⟨fun _ _ hpq n hn => hpq n hn.symm⟩
  exact h.forall hb hb' (fun heq => hne (congrArg Prod.snd heq)) n ⟨hn, hn'⟩

/-- Tests of an address for the blocks of a layout: one for the addresses that have no scope, and
one for each scope of the layout. -/
structure Layout.Tested (l : Layout) (n : Nat) (unscoped : α → Bool) (tests : List (Test α))
    (a : α) : Prop where
  unscoped_iff : unscoped a = true ↔ n ∈ l.unscoped
  gives : ∀ t ∈ tests, ∃ s, t.scope = some s ∧ (t.passes a = true ↔ l.Gives n s)
  covers : ∀ p ∈ l.blocks, ∃ t ∈ tests, t.scope = some p.2
  distinct : tests.Pairwise fun t t' => t.scope ≠ t'.scope

/-- Blocks that do not meet make exclusive tests. -/
theorem Layout.Tested.exclusive (h : l.Tested n unscoped tests a) (hl : l.Disjoint) :
    Exclusive tests a := by
  refine h.distinct.imp_of_mem ?_
  rintro t t' ht ht' hne ⟨hpasses, hpasses'⟩
  obtain ⟨s, hs, hgives⟩ := h.gives t ht
  obtain ⟨s', hs', hgives'⟩ := h.gives t' ht'
  apply hne
  rw [hs, hs', hl.eq_of_gives (hgives.mp hpasses) (hgives'.mp hpasses')]

theorem Layout.Tested.passed_iff (h : l.Tested n unscoped tests a) {s : Option Scope} :
    (∃ t ∈ tests, t.passes a = true ∧ t.scope = s) ↔ ∃ s', s = some s' ∧ l.Gives n s' := by
  constructor
  · rintro ⟨t, ht, hpasses, rfl⟩
    obtain ⟨s', hs', hgives⟩ := h.gives t ht
    exact ⟨s', hs', hgives.mp hpasses⟩
  · rintro ⟨s', rfl, hs'⟩
    have ⟨_, hb, _⟩ := hs'
    obtain ⟨t, ht, hscope⟩ := h.covers _ hb
    obtain ⟨s, hs, hgives⟩ := h.gives t ht
    obtain rfl : s = s' := Option.some.inj (hs.symm.trans hscope)
    exact ⟨t, ht, hgives.mpr hs', hscope⟩

/-- What the tests of a layout give is the scope by its blocks. -/
theorem Layout.Tested.ofTests_eq_iff (h : l.Tested n unscoped tests a) (hl : l.Disjoint)
    {s : Option Scope} : ofTests (⟨unscoped, none⟩ :: tests) a = s ↔ l.HasScope n s := by
  rw [ofTests_cons]
  by_cases hu : unscoped a = true
  · have hn := h.unscoped_iff.mp hu
    cases s <;> simp [hu, HasScope, hn]
  · have hn : n ∉ l.unscoped := fun hmem => hu (h.unscoped_iff.mpr hmem)
    have hnone : (∀ t ∈ tests, t.passes a = false) ↔ ∀ s', ¬l.Gives n s' := by
      constructor
      · intro hfails s' hs'
        obtain ⟨t, ht, hpasses, -⟩ := h.passed_iff.mpr ⟨s', rfl, hs'⟩
        rw [hfails t ht] at hpasses
        cases hpasses
      · intro hgives t ht
        by_contra hpasses
        obtain ⟨s', -, hs'⟩ := h.passed_iff.mp ⟨t, ht, by simpa using hpasses, rfl⟩
        exact hgives s' hs'
    rw [if_neg hu, Scope.ofTests_eq_iff (h.exclusive hl), h.passed_iff, hnone]
    cases s <;> simp [HasScope, hn, eq_comm]

end TestsOfBlocks

end Scope

/-! ## The tests of addresses -/

/-- A mask of leading ones clears the bits behind them. -/
theorem land_mask {x : Nat} (width free : Nat) (hx : x < 2 ^ width) (hfree : free ≤ width) :
    x &&& (2 ^ width - 2 ^ free) = x / 2 ^ free * 2 ^ free := by
  have hmask : 2 ^ width - 2 ^ free = (2 ^ (width - free) - 1) * 2 ^ free := by
    rw [Nat.sub_mul, ← Nat.pow_add, Nat.sub_add_cancel hfree, Nat.one_mul]
  apply Nat.eq_of_testBit_eq
  intro i
  rw [hmask, Nat.testBit_and, Nat.testBit_mul_two_pow, Nat.testBit_mul_two_pow,
    Nat.testBit_div_two_pow, Nat.testBit_two_pow_sub_one]
  by_cases hi : free ≤ i
  · by_cases hwidth : i < width
    · have : i - free < width - free := by omega
      simp [hi, this]
    · have hle : 2 ^ width ≤ 2 ^ i := Nat.pow_le_pow_right (by decide) (by omega)
      have hzero : x.testBit i = false := Nat.testBit_lt_two_pow (Nat.lt_of_lt_of_le hx hle)
      simp [hi, hzero]
  · simp [hi]

open Scope

namespace IPv4

variable (a : IPv4)

theorem toNat_lt : a.toNat < 2 ^ 32 := a.bits.isLt

theorem octet_lt (i : Nat) : a.octet i < 2 ^ 8 := Nat.mod_lt _ (by decide)

theorem isUnscoped_iff : a.isUnscoped = true ↔ a.toNat ∈ layout4.unscoped := by
  simp only [isUnscoped, Bool.or_eq_true, decide_eq_true_eq]
  simp [layout4]

theorem isLoopback_iff : a.isLoopback = true ↔ layout4.Gives a.toNat .loopback := by
  have hlt := a.toNat_lt
  simp only [isLoopback, decide_eq_true_eq]
  simp [Layout.Gives, layout4, block4, Block.mem_iff, octet]
  omega

theorem isPrivate_iff :
    (a.isPrivate || a.isShared) = true ↔ layout4.Gives a.toNat .private := by
  have hlt := a.toNat_lt
  have hmask : a.octet 1 &&& 0b1100_0000 = a.octet 1 / 2 ^ 6 * 2 ^ 6 :=
    land_mask 8 6 (a.octet_lt 1) (by decide)
  simp only [isPrivate, isShared, Bool.or_eq_true, Bool.and_eq_true, decide_eq_true_eq, hmask]
  simp [Layout.Gives, layout4, block4, Block.mem_iff, octet]
  omega

theorem isLinkLocal_iff : a.isLinkLocal = true ↔ layout4.Gives a.toNat .linkLocal := by
  have hlt := a.toNat_lt
  simp only [isLinkLocal, Bool.and_eq_true, decide_eq_true_eq]
  simp [Layout.Gives, layout4, block4, Block.mem_iff, octet]
  omega

/-- The patterns of the reserved octets, without their order. -/
theorem isReserved_iff_octet : a.isReserved = true ↔
    a.octet 0 = 0 ∨ (a.octet 0 = 192 ∧ a.octet 1 = 0 ∧ (a.octet 2 = 0 ∨ a.octet 2 = 2)) ∨
      (a.octet 0 = 198 ∧ a.octet 1 = 51 ∧ a.octet 2 = 100) ∨
      (a.octet 0 = 203 ∧ a.octet 1 = 0 ∧ a.octet 2 = 113) ∨
      (a.octet 0 = 198 ∧ (a.octet 1 = 18 ∨ a.octet 1 = 19)) ∨ 224 ≤ a.octet 0 := by
  unfold isReserved isMulticast
  split <;> simp_all
  omega

theorem isReserved_iff : a.isReserved = true ↔ layout4.Gives a.toNat .reserved := by
  have hlt := a.toNat_lt
  rw [isReserved_iff_octet]
  simp [Layout.Gives, layout4, block4, Block.mem_iff, octet]
  omega

theorem tested : layout4.Tested a.toNat isUnscoped tests.tail a where
  unscoped_iff := a.isUnscoped_iff
  gives := by
    simp only [tests, List.tail_cons, List.forall_mem_cons, Option.some.injEq, exists_eq_left']
    exact ⟨a.isLoopback_iff, a.isPrivate_iff, a.isLinkLocal_iff, a.isReserved_iff, by simp⟩
  covers := by decide
  distinct := by decide

end IPv4

namespace IPv6

variable (a : IPv6)

theorem toNat_lt : a.toNat < 2 ^ 128 := a.bits.isLt

theorem group_lt (i : Nat) : a.group i < 2 ^ 16 := Nat.mod_lt _ (by decide)

theorem isUnscoped_iff : a.isUnscoped = true ↔ a.toNat ∈ layout6.unscoped := by
  simp only [isUnscoped, decide_eq_true_eq]
  simp [layout6]

theorem isLoopback_iff : a.isLoopback = true ↔ layout6.Gives a.toNat .loopback := by
  simp only [isLoopback, decide_eq_true_eq]
  simp [Layout.Gives, layout6, block6, Block.mem_iff]
  omega

theorem isUniqueLocal_iff : a.isUniqueLocal = true ↔ layout6.Gives a.toNat .private := by
  have hlt := a.toNat_lt
  have hmask : a.group 0 &&& 0xFE00 = a.group 0 / 2 ^ 9 * 2 ^ 9 :=
    land_mask 16 9 (a.group_lt 0) (by decide)
  simp only [isUniqueLocal, decide_eq_true_eq, hmask]
  simp [Layout.Gives, layout6, block6, Block.mem_iff, group]
  omega

theorem isLinkLocal_iff : a.isLinkLocal = true ↔ layout6.Gives a.toNat .linkLocal := by
  have hlt := a.toNat_lt
  have hmask : a.group 0 &&& 0xFFC0 = a.group 0 / 2 ^ 6 * 2 ^ 6 :=
    land_mask 16 6 (a.group_lt 0) (by decide)
  simp only [isLinkLocal, decide_eq_true_eq, hmask]
  simp [Layout.Gives, layout6, block6, Block.mem_iff, group]
  omega

theorem isReserved_iff : a.isReserved = true ↔ layout6.Gives a.toNat .reserved := by
  have hlt := a.toNat_lt
  have hmask : a.group 0 &&& 0xFF00 = a.group 0 / 2 ^ 8 * 2 ^ 8 :=
    land_mask 16 8 (a.group_lt 0) (by decide)
  simp only [isReserved, isMulticast, Bool.or_eq_true, decide_eq_true_eq, Prod.mk.injEq, hmask]
  simp [Layout.Gives, layout6, block6, Block.mem_iff, group]
  omega

theorem tested : layout6.Tested a.toNat isUnscoped tests.tail a where
  unscoped_iff := a.isUnscoped_iff
  gives := by
    simp only [tests, List.tail_cons, List.forall_mem_cons, Option.some.injEq, exists_eq_left']
    exact ⟨a.isLoopback_iff, a.isUniqueLocal_iff, a.isLinkLocal_iff, a.isReserved_iff, by simp⟩
  covers := by decide
  distinct := by decide

theorem mapped?_of_mem (h : a.toNat ∈ mappedBlock) :
    a.mapped? = some ⟨BitVec.ofNat 32 a.toNat⟩ := by
  rw [Block.mem_iff] at h
  refine if_pos ?_
  simp [mappedBlock] at h
  simp [mappedHigh]
  omega

theorem mapped?_of_not_mem (h : a.toNat ∉ mappedBlock) : a.mapped? = none := by
  rw [Block.mem_iff] at h
  refine if_neg fun hhigh => h ?_
  simp [mappedHigh] at hhigh
  simp [mappedBlock]
  omega

theorem mapped?_eq_none_iff : a.mapped? = none ↔ a.toNat ∉ mappedBlock := by
  constructor
  · intro hnone hmem
    rw [mapped?_of_mem a hmem] at hnone
    cases hnone
  · exact mapped?_of_not_mem a

end IPv6

/-! ## The scope of every address -/

namespace Scope

/-- Blocks do not meet when of every two of them one ends before the other begins. -/
theorem Layout.disjoint_of_apart {l : Layout}
    (h : l.blocks.Pairwise fun p q => p.1.first + 2 ^ p.1.free ≤ q.1.first ∨
      q.1.first + 2 ^ q.1.free ≤ p.1.first) : l.Disjoint := by
  refine h.imp ?_
  rintro p q hapart n ⟨hp, hq⟩
  rw [Block.mem_iff] at hp hq
  omega

theorem disjoint_layout4 : layout4.Disjoint := Layout.disjoint_of_apart (by decide)

theorem disjoint_layout6 : layout6.Disjoint := Layout.disjoint_of_apart (by decide)

/-- The addresses that stand for IPv4 addresses, and the one that has no scope, lie in no block. -/
theorem not_gives_layout6 {n : Nat} (h : n ∈ mappedBlock ∨ n ∈ layout6.unscoped) (s : Scope) :
    ¬layout6.Gives n s := by
  have hout : ∀ p ∈ layout6.blocks, n ∉ p.1 := by
    simp only [layout6, mappedBlock, block6, Block.mem_iff, List.forall_mem_cons,
      List.mem_singleton] at h ⊢
    simp
    omega
  rintro ⟨b, hb, hn⟩
  exact hout _ hb hn

theorem not_mem_mappedBlock_of_unscoped {n : Nat} (h : n ∈ layout6.unscoped) : n ∉ mappedBlock := by
  obtain rfl : n = 0 := by simpa [layout6] using h
  simp [Block.mem_iff, mappedBlock]

end Scope

/-- An IPv4 address that has a scope passes one of its tests at most. -/
theorem IPv4.exclusive_tests {a : IPv4} (h : a.isUnscoped = false) : Exclusive IPv4.tests a := by
  refine List.pairwise_cons.mpr ⟨?_, a.tested.exclusive disjoint_layout4⟩
  rintro t - ⟨hunscoped, -⟩
  exact Bool.noConfusion (hunscoped.symm.trans h)

/-- The two IPv4 addresses that have no scope are reserved as well, and nothing else. -/
theorem IPv4.filter_tests {a : IPv4} (h : a.isUnscoped = true) :
    IPv4.tests.filter (·.passes a) = [⟨isUnscoped, none⟩, ⟨isReserved, some .reserved⟩] := by
  obtain ⟨bits⟩ := a
  simp only [isUnscoped, Bool.or_eq_true, decide_eq_true_eq] at h
  have hbits : bits = 0 ∨ bits = BitVec.allOnes 32 := by
    simpa [IPv4.toNat, ← BitVec.toNat_inj] using h
  rcases hbits with rfl | rfl
  · rfl
  · rfl

/-- In another order the tests give every IPv4 address its scope exactly if the one for those that
have none still comes before the one for those that are reserved. -/
theorem IPv4.ofTests_eq_scope?_iff {tests : List (Test IPv4)} (hperm : tests.Perm IPv4.tests) :
    (∀ a, ofTests tests a = a.scope?) ↔
      [⟨isUnscoped, none⟩, ⟨isReserved, some .reserved⟩].Sublist tests := by
  have hnone : ∀ {a : IPv4}, a.isUnscoped = true → (ofTests tests a = none ↔
      [⟨isUnscoped, none⟩, ⟨isReserved, some .reserved⟩].Sublist tests) := by
    intro a hu
    refine ofTests_eq_none_iff ?_ rfl nofun
    rw [← filter_tests hu]
    exact hperm.filter _
  constructor
  · intro hsame
    exact (hnone (a := ⟨0⟩) rfl).mp (hsame ⟨0⟩)
  · intro hsub a
    cases hu : a.isUnscoped with
    | true =>
      have hscope : a.scope? = none := (ofTests_cons _ _ a).trans (if_pos hu)
      rw [hscope, (hnone hu).mpr hsub]
    | false => exact ofTests_perm (exclusive_tests hu) hperm

/-- The tests of an IPv6 address with the one that comes before them, whether it stands for an IPv4
address and so has the scope of that. -/
def IPv6.allTests (a : IPv6) : List (Test IPv6) :=
  ⟨fun b => b.mapped?.isSome, a.mapped?.bind IPv4.scope?⟩ :: tests

theorem IPv6.scope?_eq (a : IPv6) : a.scope? = ofTests a.allTests a := by
  rw [scope?, allTests, ofTests_cons]
  cases h : a.mapped? <;> simp [h]

/-- An IPv6 address passes one of its tests at most. -/
theorem IPv6.exclusive_allTests (a : IPv6) : Exclusive a.allTests a := by
  have hgives : ∀ t ∈ tests.tail, t.passes a = true →
      a.toNat ∉ mappedBlock ∧ a.toNat ∉ layout6.unscoped := by
    intro t ht hpasses
    obtain ⟨s, -, hs⟩ := a.tested.gives t ht
    constructor
    · exact fun hmem => not_gives_layout6 (.inl hmem) s (hs.mp hpasses)
    · exact fun hmem => not_gives_layout6 (.inr hmem) s (hs.mp hpasses)
  have hmapped : a.mapped?.isSome = true ↔ a.toNat ∈ mappedBlock := by
    rw [Option.isSome_iff_ne_none, ne_eq, a.mapped?_eq_none_iff, not_not]
  refine List.pairwise_cons.mpr ⟨?_,
    List.pairwise_cons.mpr ⟨?_, a.tested.exclusive disjoint_layout6⟩⟩
  · rintro t ht ⟨hmap, hpasses⟩
    rcases List.mem_cons.mp ht with rfl | ht
    · exact not_mem_mappedBlock_of_unscoped (a.isUnscoped_iff.mp hpasses) (hmapped.mp hmap)
    · exact (hgives t ht hpasses).1 (hmapped.mp hmap)
  · rintro t ht ⟨hunscoped, hpasses⟩
    exact (hgives t ht hpasses).2 (a.isUnscoped_iff.mp hunscoped)

/-- The scope of every address.  An IPv4 address has the scope of the block that it lies in, none if
it is one of the two taken out, and is public exactly outside all blocks.  An IPv6 address that
stands for an IPv4 address has the scope of its last 32 bits, any other the one of its own block.

No two blocks have an address in common, nor does a block have one with the addresses that stand
for IPv4 addresses or with the IPv6 address that has no scope.  So the tests may be made in any
order, except that of the IPv4 tests the one for the two addresses that have no scope has to come
before the one for the reserved addresses; for all other addresses the order of these does not
matter either. -/
theorem Ip.scope_of_blocks :
    (∀ (a : IPv4) s, (Ip.v4 a).scope? = s ↔ layout4.HasScope a.toNat s) ∧
    (∀ (a : IPv6) s, (Ip.v6 a).scope? = s ↔
      (a.toNat ∈ mappedBlock ∧ layout4.HasScope (a.toNat % 2 ^ 32) s) ∨
        (a.toNat ∉ mappedBlock ∧ layout6.HasScope a.toNat s)) ∧
    (layout4.Disjoint ∧ layout6.Disjoint ∧
      ∀ n, n ∈ mappedBlock ∨ n ∈ layout6.unscoped → ∀ s, ¬layout6.Gives n s) ∧
    (∀ tests, tests.Perm IPv4.tests →
      (∀ a : IPv4, a.toNat ∉ layout4.unscoped → ofTests tests a = (Ip.v4 a).scope?) ∧
      ((∀ a, ofTests tests a = (Ip.v4 a).scope?) ↔
        [⟨IPv4.isUnscoped, none⟩, ⟨IPv4.isReserved, some .reserved⟩].Sublist tests)) ∧
    ∀ (a : IPv6) tests, tests.Perm a.allTests → ofTests tests a = (Ip.v6 a).scope? := by
  have h4 : ∀ (a : IPv4) s, a.scope? = s ↔ layout4.HasScope a.toNat s := fun a s =>
    a.tested.ofTests_eq_iff disjoint_layout4
  refine ⟨h4, fun a s => ?_, ⟨disjoint_layout4, disjoint_layout6, fun n => not_gives_layout6⟩,
    fun tests hperm => ⟨fun a ha => ?_, IPv4.ofTests_eq_scope?_iff hperm⟩, fun a tests hperm => ?_⟩
  · show a.scope? = s ↔ _
    by_cases hmem : a.toNat ∈ mappedBlock
    · have hlow : (⟨BitVec.ofNat 32 a.toNat⟩ : IPv4).toNat = a.toNat % 2 ^ 32 :=
        BitVec.toNat_ofNat ..
      rw [IPv6.scope?, a.mapped?_of_mem hmem]
      simp only [hmem, true_and, not_true_eq_false, false_and, or_false]
      rw [h4, hlow]
    · rw [IPv6.scope?, a.mapped?_of_not_mem hmem]
      simp only [hmem, false_and, not_false_eq_true, true_and, false_or]
      exact a.tested.ofTests_eq_iff disjoint_layout6
  · refine ofTests_perm (IPv4.exclusive_tests ?_) hperm
    rwa [← a.isUnscoped_iff, Bool.not_eq_true] at ha
  · rw [ofTests_perm a.exclusive_allTests hperm]
    exact a.scope?_eq.symm

/-- The last address of the space that carriers share is private, and so is the address that stands
for it, also when the tests are made backwards. -/
theorem Ip.scope_of_blocks_shared :
    let a : IPv4 := .ofOctets 100 127 255 255
    let mapped : IPv6 := ⟨0xFFFF647FFFFF⟩
    layout4.HasScope a.toNat (some .private) ∧ (Ip.v4 a).scope? = some .private ∧
    ofTests IPv4.tests.reverse a = some .private ∧
    (Ip.v6 mapped).scope? = some .private ∧
    ofTests mapped.allTests.reverse mapped = some .private := by
  intro a mapped
  obtain ⟨h4, h6, -, horder4, horder6⟩ := Ip.scope_of_blocks
  have hscope : layout4.HasScope a.toNat (some .private) :=
    ⟨by decide, .inl ⟨block4 100 64 0 0 10, by simp [layout4], by decide, by decide⟩⟩
  have hprivate : (Ip.v4 a).scope? = some .private := (h4 a _).mpr hscope
  have hlow : mapped.toNat % 2 ^ 32 = a.toNat := by decide
  have hmapped : (Ip.v6 mapped).scope? = some .private :=
    (h6 mapped _).mpr (.inl ⟨⟨by decide, by decide⟩, hlow ▸ hscope⟩)
  exact ⟨hscope, hprivate, ((horder4 _ (List.reverse_perm _)).1 a (by decide)).trans hprivate,
    hmapped, (horder6 mapped _ (List.reverse_perm _)).trans hmapped⟩

/-- The order of the IPv4 tests matters: made backwards, they give the reserved scope to an address
that has none. -/
theorem Ip.scope_of_blocks_backwards :
    let a : IPv4 := .ofOctets 255 255 255 255
    IPv4.tests.reverse.Perm IPv4.tests ∧
    ofTests IPv4.tests.reverse a = some .reserved ∧ (Ip.v4 a).scope? = none :=
  ⟨List.reverse_perm _, rfl, rfl⟩

end CircuitRelay
