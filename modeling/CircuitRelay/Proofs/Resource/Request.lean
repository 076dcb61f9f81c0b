import CircuitRelay.Proofs.Resource.Chain

/-!
# What becomes of requests to the resource manager

Each request to the manager has one lemma that lists everything it can come to, with the conditions
under which it does.  Later arguments use these lists and never open a request again.

* `openConnection_cases`, `reserveStream_cases`, `assignPeer_cases`.
* `sameUsage_collect`: dropping idle scopes changes no usage.
-/

namespace CircuitRelay

theorem ConnectionGuard.nodup_scopes (g : ConnectionGuard) : g.scopes.Nodup := by
  unfold ConnectionGuard.scopes
  split <;> simp

theorem StreamGuard.nodup_scopes (g : StreamGuard) : g.scopes.Nodup := by
  simp [StreamGuard.scopes]

namespace ResourceManager

variable {m m' : ResourceManager} {amount : Amounts} {chain : List ScopeName}

/-- A new connection is refused because the manager was closed, by its own scope or by the scopes
of the node; otherwise it is charged. -/
theorem openConnection_cases (m : ResourceManager) (direction : Direction) (usesFd : Bool) :
    let guard : ConnectionGuard := ⟨.connection direction usesFd, none⟩
    let own := Amounts.zero.lacking? m.ceilings.connection guard.amount
    (m.closed = true ∧ m.openConnection direction usesFd = (.error .closed, m)) ∨
    (m.closed = false ∧ ∃ r, own = some r ∧ m.openConnection direction usesFd =
      (.error (.exceeded .connection r), m.recordRefusal .connection r)) ∨
    (m.closed = false ∧ own = none ∧ ∃ m', m.openConnection direction usesFd = (.ok guard, m') ∧
      Charged m m' guard.amount guard.scopes) ∨
    (m.closed = false ∧ own = none ∧ ∃ m' k r,
      m.openConnection direction usesFd = (.error (.exceeded k r), m') ∧
      Refused m m' guard.amount guard.scopes k r) := by
  intro guard own
  cases hclosed : m.closed with
  | true => exact .inl ⟨rfl, by rw [openConnection, if_pos hclosed]⟩
  | false =>
    have hopen : ¬m.closed = true := by
      rw [hclosed]
      exact Bool.false_ne_true
    cases hown : own with
    | some r =>
      refine .inr (.inl ⟨rfl, r, rfl, ?_⟩)
      rw [openConnection, if_neg hopen, Amounts.take_of_lacking hown]
    | none =>
      rw [openConnection, if_neg hopen,
        Amounts.take_of_fits (Amounts.lacking?_eq_none_iff.mp hown)]
      rcases chargeChain_cases m guard.amount guard.nodup_scopes with
        ⟨m', heq, h⟩ | ⟨m', k, r, heq, h⟩
      · exact .inr (.inr (.inl ⟨rfl, rfl, m', by rw [heq]; rfl, h⟩))
      · exact .inr (.inr (.inr ⟨rfl, rfl, m', k, r, by rw [heq]; rfl, h⟩))

/-! ## Streams -/

/-- The manager in which the scopes of a stream exist. -/
def named (m : ResourceManager) (peer : PeerId) (protocol : String) : ResourceManager :=
  (m.touch (.peer peer)).touch (.protocol protocol)

theorem sameUsage_named (m : ResourceManager) (peer : PeerId) (protocol : String) :
    SameUsage m (m.named peer protocol) :=
  (sameUsage_touch m _).trans (sameUsage_touch _ _)

theorem SameUsage.lacking?_eq (h : SameUsage m m') (s : ScopeName) :
    m'.lacking? amount s = m.lacking? amount s := by
  rw [lacking?, lacking?, h.usage s, h.ceilings]

theorem SameUsage.hasRoom_iff (h : SameUsage m m') (s : ScopeName) :
    m'.HasRoom amount s ↔ m.HasRoom amount s := by
  rw [← lacking?_eq_none_iff, ← lacking?_eq_none_iff, h.lacking?_eq s]

/-- A charge may be seen from before its scopes came into being. -/
theorem Charged.of_sameUsage {n : ResourceManager} (h : Charged n m' amount chain)
    (hn : SameUsage m n) (hblocked : n.blocked = m.blocked) : Charged m m' amount chain where
  usage t := by rw [h.usage t, hn.usage t]
  ceilings := h.ceilings.trans hn.ceilings
  closed := h.closed.trans hn.closed
  blocked := h.blocked.trans hblocked
  found := h.found
  room t ht := (hn.hasRoom_iff t).mp (h.room t ht)

/-- A refusal may be seen from before the scopes came into being. -/
theorem Refused.of_sameUsage {n : ResourceManager} {k : ScopeKind} {r : Resource}
    (h : Refused n m' amount chain k r) (hn : SameUsage m n) (hblocked : n.blocked = m.blocked) :
    Refused m m' amount chain k r := by
  refine ⟨?_, hn.trans h.same, by rw [h.blocked, hblocked]⟩
  obtain ⟨before, s, after, hchain, hk, hbefore, hl⟩ := h.first
  exact ⟨before, s, after, hchain, hk, fun t ht => (hn.hasRoom_iff t).mp (hbefore t ht),
    (hn.lacking?_eq s).symm.trans hl⟩

/-- A new stream is refused because the manager was closed or by one of its scopes; otherwise it is
charged. -/
theorem reserveStream_cases (m : ResourceManager) (peer : PeerId) (protocol : String)
    (direction : Direction) (memory : Nat) :
    let guard : StreamGuard := ⟨.stream direction memory, peer, protocol⟩
    (m.closed = true ∧ m.reserveStream peer protocol direction memory =
      (.error .closed, m.named peer protocol)) ∨
    (m.closed = false ∧ ∃ m', m.reserveStream peer protocol direction memory = (.ok guard, m') ∧
      Charged m m' guard.amount guard.scopes) ∨
    (m.closed = false ∧ ∃ m' k r,
      m.reserveStream peer protocol direction memory = (.error (.exceeded k r), m') ∧
      Refused m m' guard.amount guard.scopes k r) := by
  intro guard
  have hn : SameUsage m (m.named peer protocol) := sameUsage_named m peer protocol
  have hblocked : (m.named peer protocol).blocked = m.blocked := by
    rw [named, touch, blocked_setUsage, touch, blocked_setUsage]
  have hunfold : m.reserveStream peer protocol direction memory =
      ((m.named peer protocol).chargeAll guard.amount guard.scopes).map
        (·.map fun _ => guard) id := rfl
  rw [hunfold, chargeAll, hn.closed]
  cases m.closed with
  | true => exact .inl ⟨rfl, rfl⟩
  | false =>
    rcases chargeChain_cases (m.named peer protocol) guard.amount guard.nodup_scopes with
      ⟨m', heq, h⟩ | ⟨m', k, r, heq, h⟩
    · exact .inr (.inl ⟨rfl, m', by rw [heq]; rfl, h.of_sameUsage hn hblocked⟩)
    · exact .inr (.inr ⟨rfl, m', k, r, by rw [heq]; rfl, h.of_sameUsage hn hblocked⟩)

/-! ## Peers of connections -/

/-- One manager is another with an amount moved from the transient scope to a peer's, which had
room. -/
structure Moved (m m' : ResourceManager) (amount : Amounts) (peer : PeerId) : Prop where
  usage : ∀ t, m'.usage t =
    if t = .peer peer then m.usage t + amount
    else if t = .transient then (m.usage t).release amount
    else m.usage t
  ceilings : m'.ceilings = m.ceilings
  closed : m'.closed = m.closed
  blocked : m'.blocked = m.blocked
  room : m.HasRoom amount (.peer peer)

theorem assignPeer_of_refused {g : ConnectionGuard} {peer : PeerId} {r : Resource}
    (hp : g.peer = none)
    (h : (m.touch (.peer peer)).charge g.amount (.peer peer) = (some r, m')) :
    m.assignPeer g peer = (.error (.exceeded .peer r), m'.recordRefusal .peer r) := by
  rw [assignPeer, hp, h]

theorem assignPeer_of_charged {g : ConnectionGuard} {peer : PeerId} (hp : g.peer = none)
    (h : (m.touch (.peer peer)).charge g.amount (.peer peer) = (none, m')) :
    m.assignPeer g peer = (.ok { g with peer := some peer }, m'.discharge g.amount .transient) := by
  rw [assignPeer, hp, h]

/-- A connection keeps a peer that it has; one without a peer is moved to the scope of the peer, or
refused by it. -/
theorem assignPeer_cases (m : ResourceManager) (g : ConnectionGuard) (peer : PeerId) :
    (g.peer ≠ none ∧ m.assignPeer g peer = (.ok g, m)) ∨
    (g.peer = none ∧ ∃ m', m.assignPeer g peer = (.ok { g with peer := some peer }, m') ∧
      Moved m m' g.amount peer) ∨
    (g.peer = none ∧ ∃ m' r, m.assignPeer g peer = (.error (.exceeded .peer r), m') ∧
      m.lacking? g.amount (.peer peer) = some r ∧ SameUsage m m' ∧
      m'.blocked = m.blocked.record (.peer, r)) := by
  cases hp : g.peer with
  | some _ =>
    refine .inl ⟨Option.some_ne_none _, ?_⟩
    rw [assignPeer, hp]
  | none =>
    have hn : SameUsage m (m.touch (.peer peer)) := sameUsage_touch m _
    have hblocked : (m.touch (.peer peer)).blocked = m.blocked := blocked_setUsage m _ _
    cases hl : m.lacking? g.amount (.peer peer) with
    | some r =>
      refine .inr (.inr ⟨rfl, ((m.touch (.peer peer)).touch (.peer peer)).recordRefusal .peer r, r,
        ?_, rfl, ?_, ?_⟩)
      · exact assignPeer_of_refused hp (charge_of_lacking ((hn.lacking?_eq _).trans hl))
      · exact (hn.trans (sameUsage_touch _ _)).trans (sameUsage_recordRefusal _ _ _)
      · rw [recordRefusal, touch, blocked_setUsage, hblocked]
    | none =>
      have hroom : m.HasRoom g.amount (.peer peer) := lacking?_eq_none_iff.mp hl
      have hcharge := charge_of_hasRoom ((hn.hasRoom_iff (.peer peer)).mpr hroom)
      refine .inr (.inl ⟨rfl, discharge g.amount ((m.touch (.peer peer)).setUsage (.peer peer)
        ((m.touch (.peer peer)).usage (.peer peer) + g.amount)) .transient, ?_, ?_⟩)
      · exact assignPeer_of_charged hp hcharge
      · refine ⟨fun t => ?_, ?_, ?_, ?_, hroom⟩
        · -- the transient scope is another one than the peer's
          rw [usage_discharge rfl, usage_setUsage, usage_setUsage, hn.usage, hn.usage, hn.usage]
          by_cases hpeer : t = .peer peer
          · subst hpeer
            simp
          · by_cases htransient : t = .transient
            · subst htransient
              simp
            · simp [hpeer, htransient, Ne.symm hpeer, Ne.symm htransient]
        · rw [ceilings_discharge, ceilings_setUsage, hn.ceilings]
        · rw [closed_discharge, closed_setUsage, hn.closed]
        · rw [blocked_discharge, blocked_setUsage, hblocked]

/-! ## Collecting and closing -/

/-- A look-up that stands at zero may as well find nothing. -/
theorem getD_filter_isZero (o : Option Amounts) :
    (o.filter fun a => !a.isZero).getD .zero = o.getD .zero := by
  cases o with
  | none => rfl
  | some a =>
    rw [Option.filter_some, Option.getD_some]
    split
    · rfl
    · rename_i h
      have hzero : a.isZero = true := by simpa using h
      rw [Option.getD_none, Amounts.isZero_iff.mp hzero]

/-- Dropping idle scopes changes no usage. -/
theorem sameUsage_collect (m : ResourceManager) : SameUsage m m.collect.2 where
  usage t := by
    cases t with
    | system => rfl
    | transient => rfl
    | peer p =>
      show ((m.peers.filter fun _ a => !a.isZero).get? p).getD .zero = (m.peers.get? p).getD .zero
      rw [Table.get?_filter, getD_filter_isZero]
    | protocol q =>
      show ((m.protocols.filter fun _ a => !a.isZero).get? q).getD .zero =
        (m.protocols.get? q).getD .zero
      rw [Table.get?_filter, getD_filter_isZero]
  ceilings := rfl
  closed := rfl

end ResourceManager

end CircuitRelay
