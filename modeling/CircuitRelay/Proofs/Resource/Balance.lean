import CircuitRelay.Proofs.Resource.Request
import CircuitRelay.Resource.Holdings
import Mathlib.Algebra.Ring.Nat

/-!
# The books of the resource manager

A guard is charged to a scope as long as it lives.  `Balanced ceilings m gs` says that
the guards `gs` account for everything that the manager `m` counts: the usage of every scope is the
sum of what the guards take of it, no usage has passed its ceiling, and every guard stands for one
connection or one stream.  It speaks about a list of guards, in any order, so that it serves whoever
keeps the guards: a table under names, or the queues of the relay.

* `Balanced.charged`, `Balanced.releaseIn`: a guard comes, a guard goes.
* `Balanced.moved`: a connection gets its peer.
* `Balanced.of_sameUsage`: whatever changes no usage keeps the books.
* `Balanced.openConnection`, `Balanced.reserveStream`, `Balanced.assignPeer`: a request adds its
  guard to the books, or leaves them alone when it is refused.
* `Balanced.le_usage`: a scope counts at least what any one guard took of it, so that giving back
  never wraps a counter.
-/

namespace CircuitRelay

/-! ## What guards take -/

/-- Amounts that one connection or one stream may take: inbound and outbound ones add up, and it is
not nothing. -/
structure Amounts.IsCharge (a : Amounts) : Prop where
  conns : a.get .conns = a.get .connsInbound + a.get .connsOutbound
  streams : a.get .streams = a.get .streamsInbound + a.get .streamsOutbound
  pos : 0 < a.get .conns + a.get .streams

theorem Amounts.isCharge_connection (direction : Direction) (usesFd : Bool) :
    (Amounts.connection direction usesFd).IsCharge := by
  cases direction <;> exact ⟨rfl, rfl, Nat.one_pos⟩

theorem Amounts.isCharge_stream (direction : Direction) (memory : Nat) :
    (Amounts.stream direction memory).IsCharge := by
  cases direction <;> exact ⟨rfl, rfl, Nat.one_pos⟩

/-- A charge takes something of some resource. -/
theorem Amounts.IsCharge.exists_get_ne_zero {a : Amounts} (h : a.IsCharge) :
    ∃ r, a.get r ≠ 0 := by
  by_cases hconns : a.get .conns = 0
  · refine ⟨.streams, ?_⟩
    have hpos := h.pos
    omega
  · exact ⟨.conns, hconns⟩

namespace Guard

theorem nodup_scopes (g : Guard) : g.scopes.Nodup := by
  cases g with
  | connection g => exact g.nodup_scopes
  | stream g => exact g.nodup_scopes

theorem takes_of_mem {g : Guard} {s : ScopeName} (h : s ∈ g.scopes) : g.takes s = g.amount :=
  if_pos h

theorem takes_of_not_mem {g : Guard} {s : ScopeName} (h : s ∉ g.scopes) : g.takes s = .zero :=
  if_neg h

/-- A connection without a peer is charged to the transient scope. -/
theorem scopes_of_peer_eq_none {c : ConnectionGuard} (hc : c.peer = none) :
    (Guard.connection c).scopes = [.transient, .system] := by
  show c.scopes = _
  rw [ConnectionGuard.scopes, hc]

/-- What guards take together of a resource in a scope. -/
def total (gs : List Guard) (s : ScopeName) (r : Resource) : Nat :=
  (gs.map fun g => (g.takes s).get r).sum

@[simp] theorem total_nil (s : ScopeName) (r : Resource) : total [] s r = 0 := rfl

theorem total_cons (g : Guard) (gs : List Guard) (s : ScopeName) (r : Resource) :
    total (g :: gs) s r = (g.takes s).get r + total gs s r := by
  rw [total, List.map_cons, List.sum_cons]
  rfl

theorem total_append (gs gs' : List Guard) (s : ScopeName) (r : Resource) :
    total (gs ++ gs') s r = total gs s r + total gs' s r := by
  rw [total, List.map_append, List.sum_append]
  rfl

/-- Guards that take nothing of a resource anywhere. -/
theorem total_eq_zero {gs : List Guard} {r : Resource} (h : ∀ g ∈ gs, g.amount.get r = 0)
    (s : ScopeName) : total gs s r = 0 := by
  induction gs with
  | nil => rfl
  | cons g gs ih =>
    rw [total_cons, ih fun g' hg' => h g' (List.mem_cons_of_mem g hg'), Nat.add_zero]
    by_cases hs : s ∈ g.scopes
    · rw [takes_of_mem hs]
      exact h g (List.mem_cons_self ..)
    · rw [takes_of_not_mem hs, Amounts.get_zero]

theorem total_perm {gs gs' : List Guard} (h : gs.Perm gs') (s : ScopeName) (r : Resource) :
    total gs s r = total gs' s r :=
  (h.map _).sum_nat

end Guard

namespace ResourceManager

variable {ceilings : Ceilings} {m m' : ResourceManager} {g : Guard} {gs : List Guard}

/-! ## The books -/

/-- The live guards account for all usage, and the usage is within the ceilings. -/
structure Balanced (ceilings : Ceilings) (m : ResourceManager) (gs : List Guard) : Prop where
  ceilings_eq : m.ceilings = ceilings
  usage_eq : ∀ s r, (m.usage s).get r = Guard.total gs s r
  le_ceiling : ∀ s r, (m.usage s).get r ≤ (ceilings.get s.kind).get r
  le_word : ∀ s r, (m.usage s).get r ≤ Resource.maxAmount
  isCharge : ∀ g ∈ gs, g.amount.IsCharge
  own : ∀ c, Guard.connection c ∈ gs → ∀ r, c.amount.get r ≤ ceilings.connection.get r

/-- A new manager has no guards. -/
theorem balanced_ofCeilings (ceilings : Ceilings) :
    Balanced ceilings (.ofCeilings ceilings) [] := by
  have hzero : ∀ s, (ResourceManager.ofCeilings ceilings).usage s = .zero := by
    intro s
    cases s <;> rfl
  refine ⟨rfl, fun s r => ?_, fun s r => ?_, fun s r => ?_, by simp, by simp⟩
  · rw [hzero, Amounts.get_zero, Guard.total_nil]
  · rw [hzero, Amounts.get_zero]
    exact Nat.zero_le _
  · rw [hzero, Amounts.get_zero]
    exact Nat.zero_le _

/-- The order of the guards does not matter. -/
theorem Balanced.perm {gs' : List Guard} (h : Balanced ceilings m gs) (hp : gs.Perm gs') :
    Balanced ceilings m gs' where
  ceilings_eq := h.ceilings_eq
  usage_eq s r := (h.usage_eq s r).trans (Guard.total_perm hp s r)
  le_ceiling := h.le_ceiling
  le_word := h.le_word
  isCharge g hg := h.isCharge g (hp.mem_iff.mpr hg)
  own c hc := h.own c (hp.mem_iff.mpr hc)

theorem Balanced.of_sameUsage (h : Balanced ceilings m gs) (hs : SameUsage m m') :
    Balanced ceilings m' gs where
  ceilings_eq := hs.ceilings.trans h.ceilings_eq
  usage_eq s r := by rw [hs.usage, h.usage_eq]
  le_ceiling s r := by
    rw [hs.usage]
    exact h.le_ceiling s r
  le_word s r := by
    rw [hs.usage]
    exact h.le_word s r
  isCharge := h.isCharge
  own := h.own

/-- A scope counts at least what a live guard took of it. -/
theorem Balanced.le_usage (h : Balanced ceilings m gs) (hg : g ∈ gs) {s : ScopeName}
    (hs : s ∈ g.scopes) (r : Resource) : g.amount.get r ≤ (m.usage s).get r := by
  rw [h.usage_eq, Guard.total_perm (List.perm_cons_erase hg), Guard.total_cons,
    Guard.takes_of_mem hs]
  exact Nat.le_add_right _ _

/-- A scope to which a live guard is charged exists. -/
theorem Balanced.isSome_usage? (h : Balanced ceilings m gs) (hg : g ∈ gs) {s : ScopeName}
    (hs : s ∈ g.scopes) : (m.usage? s).isSome := by
  obtain ⟨r, hr⟩ := (h.isCharge g hg).exists_get_ne_zero
  have hle := h.le_usage hg hs r
  exact ResourceManager.isSome_usage? (r := r) (by omega)

/-! ## Guards come and go -/

/-- A charge for which there is room stays within the ceiling. -/
theorem Balanced.add_le (h : Balanced ceilings m gs) {amount : Amounts} {s : ScopeName}
    (hroom : m.HasRoom amount s) (r : Resource) :
    (m.usage s + amount).get r ≤ (ceilings.get s.kind).get r ∧
      (m.usage s + amount).get r ≤ Resource.maxAmount := by
  rw [Amounts.get_add]
  by_cases hzero : amount.get r = 0
  · rw [hzero, Nat.add_zero]
    exact ⟨h.le_ceiling s r, h.le_word s r⟩
  · rw [← h.ceilings_eq]
    exact ⟨(hroom r hzero).2, (hroom r hzero).1⟩

/-- A new guard takes its place in the books. -/
theorem Balanced.charged (h : Balanced ceilings m gs) (hm : Charged m m' g.amount g.scopes)
    (hcharge : g.amount.IsCharge)
    (hown : ∀ c, g = .connection c → ∀ r, c.amount.get r ≤ ceilings.connection.get r) :
    Balanced ceilings m' (g :: gs) where
  ceilings_eq := hm.ceilings.trans h.ceilings_eq
  usage_eq s r := by
    rw [hm.usage, Guard.total_cons]
    split
    · rename_i hs
      rw [Guard.takes_of_mem hs, Amounts.get_add, h.usage_eq, Nat.add_comm]
    · rename_i hs
      rw [Guard.takes_of_not_mem hs, Amounts.get_zero, Nat.zero_add, h.usage_eq]
  le_ceiling s r := by
    rw [hm.usage]
    split
    · rename_i hs
      exact (h.add_le (hm.room s hs) r).1
    · exact h.le_ceiling s r
  le_word s r := by
    rw [hm.usage]
    split
    · rename_i hs
      exact (h.add_le (hm.room s hs) r).2
    · exact h.le_word s r
  isCharge g' hg' := by
    rcases List.mem_cons.mp hg' with rfl | hg'
    · exact hcharge
    · exact h.isCharge g' hg'
  own c hc r := by
    rcases List.mem_cons.mp hc with hc | hc
    · exact hown c hc.symm r
    · exact h.own c hc r

/-- What a scope counts beside one of its guards. -/
theorem Balanced.usage_eq_add (h : Balanced ceilings m (g :: gs)) {s : ScopeName}
    (hs : s ∈ g.scopes) :
    m.usage s = Amounts.ofFn (Guard.total gs s) + g.amount := by
  apply Amounts.ext_get
  intro r
  rw [Amounts.get_add, Amounts.get_ofFn, h.usage_eq, Guard.total_cons, Guard.takes_of_mem hs,
    Nat.add_comm]

/-- Giving back what a guard took leaves what the others take. -/
theorem Balanced.get_release (h : Balanced ceilings m (g :: gs)) {s : ScopeName} (hs : s ∈ g.scopes)
    (r : Resource) : ((m.usage s).release g.amount).get r = Guard.total gs s r := by
  have hadd := h.usage_eq_add hs
  rw [hadd, Amounts.release_add, Amounts.get_ofFn]
  intro r' _
  rw [← Amounts.get_add, ← hadd]
  exact h.le_word s r'

/-- A guard that goes leaves the books of the others. -/
theorem Balanced.releaseIn (h : Balanced ceilings m (g :: gs)) :
    Balanced ceilings (m.dischargeAll g.amount g.scopes) gs := by
  have hfound : ∀ s ∈ g.scopes, (m.usage? s).isSome := fun s hs =>
    h.isSome_usage? (List.mem_cons_self ..) hs
  have husage : ∀ s r, ((m.dischargeAll g.amount g.scopes).usage s).get r =
      Guard.total gs s r := by
    intro s r
    rw [usage_dischargeAll g.nodup_scopes hfound]
    split
    · rename_i hs
      exact h.get_release hs r
    · rename_i hs
      rw [h.usage_eq, Guard.total_cons, Guard.takes_of_not_mem hs, Amounts.get_zero, Nat.zero_add]
  have hle : ∀ s r, Guard.total gs s r ≤ (m.usage s).get r := by
    intro s r
    rw [h.usage_eq, Guard.total_cons]
    exact Nat.le_add_left _ _
  refine ⟨?_, husage, fun s r => ?_, fun s r => ?_, fun g' hg' => ?_, fun c hc r => ?_⟩
  · rw [ceilings_dischargeAll]
    exact h.ceilings_eq
  · rw [husage]
    exact Nat.le_trans (hle s r) (h.le_ceiling s r)
  · rw [husage]
    exact Nat.le_trans (hle s r) (h.le_word s r)
  · exact h.isCharge g' (List.mem_cons_of_mem g hg')
  · exact h.own c (List.mem_cons_of_mem g hc) r

/-- A connection that gets its peer is charged there and no longer in the transient scope. -/
theorem Balanced.total_moved {c : ConnectionGuard} {peer : PeerId}
    (h : Balanced ceilings m (.connection c :: gs)) (hc : c.peer = none)
    (hm : Moved m m' c.amount peer) (s : ScopeName) (r : Resource) :
    (m'.usage s).get r = Guard.total (.connection { c with peer := some peer } :: gs) s r := by
  have hbefore := Guard.scopes_of_peer_eq_none hc
  have hafter : (Guard.connection { c with peer := some peer }).scopes = [.peer peer, .system] :=
    rfl
  rw [hm.usage, Guard.total_cons]
  by_cases hpeer : s = .peer peer
  · subst hpeer
    rw [if_pos rfl, Guard.takes_of_mem (by rw [hafter]; simp), Amounts.get_add, h.usage_eq,
      Guard.total_cons, Guard.takes_of_not_mem (by rw [hbefore]; simp), Amounts.get_zero,
      Nat.zero_add, Nat.add_comm]
    rfl
  · rw [if_neg hpeer]
    by_cases htransient : s = .transient
    · subst htransient
      rw [if_pos rfl, Guard.takes_of_not_mem (by rw [hafter]; simp), Amounts.get_zero,
        Nat.zero_add]
      exact h.get_release (by rw [hbefore]; simp) r
    · -- the system, or a scope that has nothing to do with the connection
      rw [if_neg htransient, h.usage_eq, Guard.total_cons]
      by_cases hsystem : s = .system
      · subst hsystem
        rw [Guard.takes_of_mem (by rw [hbefore]; simp), Guard.takes_of_mem (by rw [hafter]; simp)]
        rfl
      · rw [Guard.takes_of_not_mem (by rw [hbefore]; simp [htransient, hsystem]),
          Guard.takes_of_not_mem (by rw [hafter]; simp [hpeer, hsystem])]

/-- Only the peer's scope counts more than before, and it had room. -/
theorem Balanced.moved_le {c : ConnectionGuard} {peer : PeerId}
    (h : Balanced ceilings m (.connection c :: gs)) (hc : c.peer = none)
    (hm : Moved m m' c.amount peer) (s : ScopeName) (r : Resource) :
    (m'.usage s).get r ≤ (ceilings.get s.kind).get r ∧
      (m'.usage s).get r ≤ Resource.maxAmount := by
  by_cases hpeer : s = .peer peer
  · subst hpeer
    rw [hm.usage, if_pos rfl]
    exact h.add_le hm.room r
  · have hle : (m'.usage s).get r ≤ (m.usage s).get r := by
      rw [hm.usage, if_neg hpeer]
      split
      · rename_i htransient
        have hs : s ∈ (Guard.connection c).scopes := by
          rw [Guard.scopes_of_peer_eq_none hc, htransient]
          simp
        show ((m.usage s).release (Guard.connection c).amount).get r ≤ _
        rw [h.get_release hs r, h.usage_eq, Guard.total_cons]
        exact Nat.le_add_left _ _
      · exact Nat.le_refl _
    exact ⟨Nat.le_trans hle (h.le_ceiling s r), Nat.le_trans hle (h.le_word s r)⟩

/-- A connection that gets its peer keeps its place in the books. -/
theorem Balanced.moved {c : ConnectionGuard} {peer : PeerId}
    (h : Balanced ceilings m (.connection c :: gs)) (hc : c.peer = none)
    (hm : Moved m m' c.amount peer) :
    Balanced ceilings m' (.connection { c with peer := some peer } :: gs) where
  ceilings_eq := hm.ceilings.trans h.ceilings_eq
  usage_eq := h.total_moved hc hm
  le_ceiling s r := (h.moved_le hc hm s r).1
  le_word s r := (h.moved_le hc hm s r).2
  isCharge g' hg' := by
    rcases List.mem_cons.mp hg' with rfl | hg'
    · exact h.isCharge (.connection c) (List.mem_cons_self ..)
    · exact h.isCharge g' (List.mem_cons_of_mem _ hg')
  own c' hc' r := by
    rcases List.mem_cons.mp hc' with hc' | hc'
    · rw [Guard.connection.inj hc']
      exact h.own c (List.mem_cons_self ..) r
    · exact h.own c' (List.mem_cons_of_mem _ hc') r

/-! ## Requests -/

theorem Balanced.openConnection (h : Balanced ceilings m gs) (direction : Direction)
    (usesFd : Bool) :
    (∃ c m', m.openConnection direction usesFd = (.ok c, m') ∧
      c = ⟨.connection direction usesFd, none⟩ ∧ Balanced ceilings m' (.connection c :: gs)) ∨
    (∃ e m', m.openConnection direction usesFd = (.error e, m') ∧ Balanced ceilings m' gs) := by
  rcases openConnection_cases m direction usesFd with
    ⟨-, heq⟩ | ⟨-, r, -, heq⟩ | ⟨-, hown, m', heq, hm⟩ | ⟨-, -, m', k, r, heq, hm⟩
  · exact .inr ⟨_, _, heq, h⟩
  · exact .inr ⟨_, _, heq, h.of_sameUsage (sameUsage_recordRefusal m _ r)⟩
  · refine .inl ⟨_, m', heq, rfl, h.charged hm (Amounts.isCharge_connection direction usesFd) ?_⟩
    -- the connection's own scope had room as well
    intro c hc r
    cases hc
    rw [h.ceilings_eq, Amounts.lacking?_eq_none_iff] at hown
    show (Amounts.connection direction usesFd).get r ≤ _
    by_cases hzero : (Amounts.connection direction usesFd).get r = 0
    · rw [hzero]
      exact Nat.zero_le _
    · have hroom := (hown r hzero).2
      rwa [Amounts.get_zero, Nat.zero_add] at hroom
  · exact .inr ⟨_, m', heq, h.of_sameUsage hm.same⟩

theorem Balanced.reserveStream (h : Balanced ceilings m gs) (peer : PeerId) (protocol : String)
    (direction : Direction) (memory : Nat) :
    (∃ m', m.reserveStream peer protocol direction memory =
        (.ok ⟨.stream direction memory, peer, protocol⟩, m') ∧
      Balanced ceilings m' (.stream ⟨.stream direction memory, peer, protocol⟩ :: gs)) ∨
    (∃ e m', m.reserveStream peer protocol direction memory = (.error e, m') ∧
      Balanced ceilings m' gs) := by
  rcases reserveStream_cases m peer protocol direction memory with
    ⟨-, heq⟩ | ⟨-, m', heq, hm⟩ | ⟨-, m', k, r, heq, hm⟩
  · exact .inr ⟨_, _, heq, h.of_sameUsage (sameUsage_named m peer protocol)⟩
  · refine .inl ⟨m', heq, h.charged hm (Amounts.isCharge_stream direction memory) ?_⟩
    intro c hc
    cases hc
  · exact .inr ⟨_, m', heq, h.of_sameUsage hm.same⟩

theorem Balanced.assignPeer {c : ConnectionGuard} (h : Balanced ceilings m (.connection c :: gs))
    (peer : PeerId) :
    (∃ c' m', m.assignPeer c peer = (.ok c', m') ∧
      c'.amount = c.amount ∧ Balanced ceilings m' (.connection c' :: gs)) ∨
    (∃ e m', m.assignPeer c peer = (.error e, m') ∧
      Balanced ceilings m' (.connection c :: gs)) := by
  rcases assignPeer_cases m c peer with ⟨-, heq⟩ | ⟨hc, m', heq, hm⟩ | ⟨-, m', r, heq, -, hs, -⟩
  · exact .inl ⟨c, m, heq, rfl, h⟩
  · exact .inl ⟨_, m', heq, rfl, h.moved hc hm⟩
  · exact .inr ⟨_, m', heq, h.of_sameUsage hs⟩

theorem Balanced.collect (h : Balanced ceilings m gs) : Balanced ceilings m.collect.2 gs :=
  h.of_sameUsage (sameUsage_collect m)

/-- Closing concerns requests to come only. -/
theorem Balanced.close (h : Balanced ceilings m gs) : Balanced ceilings m.close gs where
  ceilings_eq := h.ceilings_eq
  usage_eq s r := by
    rw [← h.usage_eq s r]
    cases s <;> rfl
  le_ceiling s r := by
    have hle := h.le_ceiling s r
    cases s <;> exact hle
  le_word s r := by
    have hle := h.le_word s r
    cases s <;> exact hle
  isCharge := h.isCharge
  own := h.own

end ResourceManager

end CircuitRelay
