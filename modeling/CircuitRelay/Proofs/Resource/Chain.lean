import CircuitRelay.Proofs.Resource.Charge

/-!
# Charging a chain of scopes

A charge walks along a chain of scopes and is undone when a scope has no room.  The statements here
are about usages only: whether a scope without charges exists makes no difference to them.

* `SameUsage m m'`: nothing is charged otherwise in `m'` than in `m`.
* `Charged m m' amount chain`: `m'` is `m` with an amount charged to the scopes of a chain, each of
  which had room.
* `Refused m m' amount chain k r`: the first scope of the chain that lacks room is of kind `k` and
  lacks `r`, and `m'` is `m` with that refusal counted.
* `chargeChain_cases`: a chain is charged as a whole or refused as a whole.
* `usage_dischargeAll`: giving back concerns the scopes of the chain only.
-/

namespace CircuitRelay

namespace ResourceManager

variable {m m' : ResourceManager} {amount : Amounts} {s t : ScopeName}

/-! ## One scope -/

theorem usage?_setUsage (m : ResourceManager) (s t : ScopeName) (a : Amounts) :
    (m.setUsage s a).usage? t = if s = t then some a else m.usage? t := by
  cases s <;> cases t <;> simp [setUsage, usage?, Table.get?_insert]

theorem usage_setUsage (m : ResourceManager) (s t : ScopeName) (a : Amounts) :
    (m.setUsage s a).usage t = if s = t then a else m.usage t := by
  rw [usage, usage?_setUsage]
  split <;> rfl

@[simp] theorem ceilings_setUsage (m : ResourceManager) (s : ScopeName) (a : Amounts) :
    (m.setUsage s a).ceilings = m.ceilings := by
  cases s <;> rfl

@[simp] theorem closed_setUsage (m : ResourceManager) (s : ScopeName) (a : Amounts) :
    (m.setUsage s a).closed = m.closed := by
  cases s <;> rfl

@[simp] theorem blocked_setUsage (m : ResourceManager) (s : ScopeName) (a : Amounts) :
    (m.setUsage s a).blocked = m.blocked := by
  cases s <;> rfl

/-- A scope on which something is charged exists. -/
theorem isSome_usage? {r : Resource} (h : (m.usage s).get r ≠ 0) : (m.usage? s).isSome := by
  rw [usage] at h
  cases hs : m.usage? s with
  | some _ => rfl
  | none =>
    rw [hs, Option.getD_none, Amounts.get_zero] at h
    exact absurd rfl h

/-- Nothing is charged otherwise than before. -/
structure SameUsage (m m' : ResourceManager) : Prop where
  usage : ∀ s, m'.usage s = m.usage s
  ceilings : m'.ceilings = m.ceilings
  closed : m'.closed = m.closed

theorem SameUsage.refl (m : ResourceManager) : SameUsage m m := ⟨fun _ => rfl, rfl, rfl⟩

theorem SameUsage.symm (h : SameUsage m m') : SameUsage m' m :=
  ⟨fun s => (h.usage s).symm, h.ceilings.symm, h.closed.symm⟩

theorem SameUsage.trans {m'' : ResourceManager} (h : SameUsage m m') (h' : SameUsage m' m'') :
    SameUsage m m'' :=
  ⟨fun s => (h'.usage s).trans (h.usage s), h'.ceilings.trans h.ceilings,
    h'.closed.trans h.closed⟩

/-- Where the same is charged, a scope is the same on both sides, or it is absent on one of them and
counts nothing on the other. -/
theorem SameUsage.usage?_eq (h : SameUsage m m')
    (hfound : (m'.usage? s).isSome → (m.usage? s).isSome) :
    m'.usage? s = m.usage? s ∨ m'.usage? s = none ∧ m.usage? s = some .zero := by
  have husage := h.usage s
  rw [ResourceManager.usage, ResourceManager.usage] at husage
  cases hs' : m'.usage? s with
  | some a =>
    rw [hs'] at husage hfound
    obtain ⟨b, hb⟩ := Option.isSome_iff_exists.mp (hfound rfl)
    rw [hb] at husage ⊢
    exact .inl (congrArg some husage)
  | none =>
    rw [hs'] at husage
    cases hs : m.usage? s with
    | none => exact .inl rfl
    | some b =>
      rw [hs] at husage
      exact .inr ⟨rfl, congrArg some husage.symm⟩

theorem sameUsage_touch (m : ResourceManager) (s : ScopeName) : SameUsage m (m.touch s) where
  usage t := by
    rw [touch, usage_setUsage]
    split
    · rename_i h
      rw [h]
    · rfl
  ceilings := ceilings_setUsage m s _
  closed := closed_setUsage m s _

theorem sameUsage_recordRefusal (m : ResourceManager) (k : ScopeKind) (r : Resource) :
    SameUsage m (m.recordRefusal k r) where
  usage t := by cases t <;> rfl
  ceilings := rfl
  closed := rfl

/-- Whether a scope has room for an amount. -/
def HasRoom (m : ResourceManager) (amount : Amounts) (s : ScopeName) : Prop :=
  (m.usage s).Fits (m.ceilings.get s.kind) amount

/-- The first resource that a scope lacks for an amount. -/
def lacking? (m : ResourceManager) (amount : Amounts) (s : ScopeName) : Option Resource :=
  (m.usage s).lacking? (m.ceilings.get s.kind) amount

theorem lacking?_eq_none_iff : m.lacking? amount s = none ↔ m.HasRoom amount s :=
  Amounts.lacking?_eq_none_iff

theorem charge_of_hasRoom (h : m.HasRoom amount s) :
    m.charge amount s = (none, m.setUsage s (m.usage s + amount)) := by
  rw [charge, Amounts.take_of_fits h]

theorem charge_of_lacking {r : Resource} (h : m.lacking? amount s = some r) :
    m.charge amount s = (some r, m.touch s) := by
  rw [charge, Amounts.take_of_lacking h]
  rfl

/-! ## Giving back -/

theorem usage?_discharge (h : (m.usage? s).isSome) :
    (m.discharge amount s).usage? t =
      if s = t then some ((m.usage s).release amount) else m.usage? t := by
  obtain ⟨a, ha⟩ := Option.isSome_iff_exists.mp h
  have hu : m.usage s = a := by rw [usage, ha, Option.getD_some]
  rw [discharge, ha, hu]
  exact usage?_setUsage m s t _

@[simp] theorem ceilings_discharge (amount : Amounts) (m : ResourceManager) (s : ScopeName) :
    (m.discharge amount s).ceilings = m.ceilings := by
  unfold discharge
  split
  · rfl
  · exact ceilings_setUsage m s _

@[simp] theorem closed_discharge (amount : Amounts) (m : ResourceManager) (s : ScopeName) :
    (m.discharge amount s).closed = m.closed := by
  unfold discharge
  split
  · rfl
  · exact closed_setUsage m s _

@[simp] theorem blocked_discharge (amount : Amounts) (m : ResourceManager) (s : ScopeName) :
    (m.discharge amount s).blocked = m.blocked := by
  unfold discharge
  split
  · rfl
  · exact blocked_setUsage m s _

/-- Giving back concerns the scope that gives back. -/
theorem usage_discharge (h : (m.usage? s).isSome) :
    (m.discharge amount s).usage t = if s = t then (m.usage s).release amount else m.usage t := by
  rw [usage, usage?_discharge h]
  split <;> rfl

@[simp] theorem ceilings_dischargeAll (amount : Amounts) (m : ResourceManager)
    (chain : List ScopeName) : (m.dischargeAll amount chain).ceilings = m.ceilings := by
  induction chain generalizing m with
  | nil => rfl
  | cons s chain ih => exact (ih (m.discharge amount s)).trans (ceilings_discharge amount m s)

@[simp] theorem closed_dischargeAll (amount : Amounts) (m : ResourceManager)
    (chain : List ScopeName) : (m.dischargeAll amount chain).closed = m.closed := by
  induction chain generalizing m with
  | nil => rfl
  | cons s chain ih => exact (ih (m.discharge amount s)).trans (closed_discharge amount m s)

@[simp] theorem blocked_dischargeAll (amount : Amounts) (m : ResourceManager)
    (chain : List ScopeName) : (m.dischargeAll amount chain).blocked = m.blocked := by
  induction chain generalizing m with
  | nil => rfl
  | cons s chain ih => exact (ih (m.discharge amount s)).trans (blocked_discharge amount m s)

/-- Giving back concerns the scopes of the chain only. -/
theorem usage_dischargeAll {chain : List ScopeName} (hchain : chain.Nodup)
    (h : ∀ s ∈ chain, (m.usage? s).isSome) (t : ScopeName) :
    (m.dischargeAll amount chain).usage t =
      if t ∈ chain then (m.usage t).release amount else m.usage t := by
  induction chain generalizing m with
  | nil => rfl
  | cons s chain ih =>
    rw [List.nodup_cons] at hchain
    have hs : (m.usage? s).isSome := h s (List.mem_cons_self ..)
    have hrest : ∀ s' ∈ chain, ((m.discharge amount s).usage? s').isSome := by
      intro s' hs'
      rw [usage?_discharge hs]
      split
      · rfl
      · exact h s' (List.mem_cons_of_mem s hs')
    rw [show m.dischargeAll amount (s :: chain) = (m.discharge amount s).dischargeAll amount chain
      from rfl, ih hchain.2 hrest, usage_discharge hs]
    by_cases hst : s = t
    · subst hst
      rw [if_neg hchain.1, if_pos rfl, if_pos (List.mem_cons_self ..)]
    · have hmem : t ∈ s :: chain ↔ t ∈ chain := by simp [Ne.symm hst]
      simp only [hst, if_false, hmem]

/-! ## A chain of scopes -/

/-- One manager is another with an amount charged to the scopes of a chain, which had room. -/
structure Charged (m m' : ResourceManager) (amount : Amounts) (chain : List ScopeName) : Prop where
  usage : ∀ t, m'.usage t = if t ∈ chain then m.usage t + amount else m.usage t
  ceilings : m'.ceilings = m.ceilings
  closed : m'.closed = m.closed
  blocked : m'.blocked = m.blocked
  found : ∀ t ∈ chain, (m'.usage? t).isSome
  room : ∀ t ∈ chain, m.HasRoom amount t

theorem Charged.nil (m : ResourceManager) (amount : Amounts) : Charged m m amount [] where
  usage _ := rfl
  ceilings := rfl
  closed := rfl
  blocked := rfl
  found := by simp
  room := by simp

/-- One more scope is charged. -/
theorem Charged.snoc {chain : List ScopeName} (h : Charged m m' amount chain) (hs : s ∉ chain)
    (hroom : m.HasRoom amount s) :
    Charged m (m'.setUsage s (m'.usage s + amount)) amount (chain ++ [s]) where
  usage t := by
    rw [usage_setUsage, h.usage s, if_neg hs, h.usage t]
    by_cases hst : s = t
    · subst hst
      rw [if_pos rfl, if_pos (by simp)]
    · have hmem : t ∈ chain ++ [s] ↔ t ∈ chain := by simp [Ne.symm hst]
      simp only [hst, if_false, hmem]
  ceilings := (ceilings_setUsage m' s _).trans h.ceilings
  closed := (closed_setUsage m' s _).trans h.closed
  blocked := (blocked_setUsage m' s _).trans h.blocked
  found t ht := by
    rw [usage?_setUsage]
    split
    · rfl
    · rename_i hst
      rcases List.mem_append.mp ht with ht | ht
      · exact h.found t ht
      · exact absurd (List.mem_singleton.mp ht).symm hst
  room t ht := by
    rcases List.mem_append.mp ht with ht | ht
    · exact h.room t ht
    · rw [List.mem_singleton.mp ht]
      exact hroom

/-- A scope may come into being meanwhile. -/
theorem Charged.touch {chain : List ScopeName} (h : Charged m m' amount chain) (s : ScopeName) :
    Charged m (m'.touch s) amount chain where
  usage t := ((sameUsage_touch m' s).usage t).trans (h.usage t)
  ceilings := (ceilings_setUsage m' s _).trans h.ceilings
  closed := (closed_setUsage m' s _).trans h.closed
  blocked := (blocked_setUsage m' s _).trans h.blocked
  found t ht := by
    rw [ResourceManager.touch, usage?_setUsage]
    split
    · rfl
    · exact h.found t ht
  room := h.room

/-- A scope that is not charged yet answers as before. -/
theorem Charged.lacking?_eq {chain : List ScopeName} (h : Charged m m' amount chain)
    (hs : s ∉ chain) : m'.lacking? amount s = m.lacking? amount s := by
  rw [lacking?, lacking?, h.usage s, if_neg hs, h.ceilings]

/-- Giving the chain its charge back leads to where it started. -/
theorem Charged.sameUsage_dischargeAll {chain : List ScopeName} (h : Charged m m' amount chain)
    (hchain : chain.Nodup) : SameUsage m (m'.dischargeAll amount chain) where
  usage t := by
    rw [usage_dischargeAll hchain h.found, h.usage t]
    split
    · rename_i ht
      exact Amounts.release_add fun r hr => (h.room t ht r hr).1
    · rfl
  ceilings := (ceilings_dischargeAll amount m' chain).trans h.ceilings
  closed := (closed_dischargeAll amount m' chain).trans h.closed

/-- The first scope of a chain that lacks room for an amount refused it, and nothing else happened
than that the refusal was counted. -/
structure Refused (m m' : ResourceManager) (amount : Amounts) (chain : List ScopeName)
    (k : ScopeKind) (r : Resource) : Prop where
  first : ∃ before s after, chain = before ++ s :: after ∧ s.kind = k ∧
    (∀ t ∈ before, m.HasRoom amount t) ∧ m.lacking? amount s = some r
  same : SameUsage m m'
  blocked : m'.blocked = m.blocked.record (k, r)

/-- A scope with room at the head of the chain is not the one that refuses. -/
theorem Refused.cons {chain : List ScopeName} {k : ScopeKind} {r : Resource}
    (h : Refused m m' amount chain k r) (hs : m.HasRoom amount s) :
    Refused m m' amount (s :: chain) k r := by
  refine ⟨?_, h.same, h.blocked⟩
  obtain ⟨before, s', after, hchain, hk, hbefore, hl⟩ := h.first
  refine ⟨s :: before, s', after, by rw [hchain, List.cons_append], hk, ?_, hl⟩
  intro t ht
  rcases List.mem_cons.mp ht with rfl | ht
  · exact hs
  · exact hbefore t ht

/-- The walk along a chain, from any scope on: the scopes before that one are charged. -/
theorem chargeChain_cases_of_charged {charged rest : List ScopeName}
    (hchain : (charged ++ rest).Nodup) (h : Charged m m' amount charged) :
    (∃ m'', m'.chargeChain amount charged rest = (.ok (), m'') ∧
      Charged m m'' amount (charged ++ rest)) ∨
    (∃ m'' k r, m'.chargeChain amount charged rest = (.error (.exceeded k r), m'') ∧
      Refused m m'' amount rest k r) := by
  induction rest generalizing charged m' with
  | nil =>
    refine .inl ⟨m', rfl, ?_⟩
    rw [List.append_nil]
    exact h
  | cons s rest ih =>
    have hs : s ∉ charged := fun hmem =>
      (List.nodup_append.mp hchain).2.2 s hmem s (List.mem_cons_self ..) rfl
    rw [chargeChain]
    cases hl : m.lacking? amount s with
    | none =>
      have hroom : m.HasRoom amount s := lacking?_eq_none_iff.mp hl
      have hroom' : m'.HasRoom amount s := by
        rw [← lacking?_eq_none_iff, h.lacking?_eq hs]
        exact hl
      rw [charge_of_hasRoom hroom']
      rw [List.append_cons charged s rest] at hchain ⊢
      rcases ih hchain (h.snoc hs hroom) with hok | ⟨m'', k, r, heq, hrefused⟩
      · exact .inl hok
      · exact .inr ⟨m'', k, r, heq, hrefused.cons hroom⟩
    | some r =>
      -- the scope stays as it was, and the charged ones give back
      have hl' : m'.lacking? amount s = some r := (h.lacking?_eq hs).trans hl
      rw [charge_of_lacking hl']
      have hback : SameUsage m ((m'.touch s).dischargeAll amount charged) :=
        (h.touch s).sameUsage_dischargeAll (List.nodup_append.mp hchain).1
      refine .inr ⟨_, s.kind, r, rfl, ⟨[], s, rest, rfl, rfl, by simp, hl⟩,
        hback.trans (sameUsage_recordRefusal _ _ _), ?_⟩
      rw [recordRefusal, blocked_dischargeAll, (h.touch s).blocked]

/-- A chain is charged as a whole or refused as a whole. -/
theorem chargeChain_cases (m : ResourceManager) (amount : Amounts) {chain : List ScopeName}
    (hchain : chain.Nodup) :
    (∃ m', m.chargeChain amount [] chain = (.ok (), m') ∧ Charged m m' amount chain) ∨
    (∃ m' k r, m.chargeChain amount [] chain = (.error (.exceeded k r), m') ∧
      Refused m m' amount chain k r) :=
  chargeChain_cases_of_charged (show ([] ++ chain).Nodup from hchain) (Charged.nil m amount)

end ResourceManager

end CircuitRelay
