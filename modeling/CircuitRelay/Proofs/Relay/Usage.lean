import CircuitRelay.Proofs.Relay.Permits

/-!
# What the permits of the relay use

When nobody but the gate reserves streams, the streams that the scopes count are the permits in the
four tables, and the memory that they count is that of the permits for circuits.

* `total_guards`: what the permits of a table take of a scope together.
* `connections_perform`: a holder that reserves no stream only has guards of connections.
* `run_usage`: the usage along a run, for every peer and in total.
-/

namespace CircuitRelay

/-! ## Guards of connections -/

/-- A guard that `openConnection` gives, with or without a peer. -/
def Guard.IsConnection (g : Guard) : Prop :=
  ∃ direction usesFd peer, g = .connection ⟨.connection direction usesFd, peer⟩

/-- Connections take no streams and no memory. -/
theorem Guard.total_connections {gs : List Guard} (h : ∀ g ∈ gs, g.IsConnection) {r : Resource}
    (hr : ∀ direction usesFd, (Amounts.connection direction usesFd).get r = 0) (s : ScopeName) :
    total gs s r = 0 := by
  refine total_eq_zero (fun g hg => ?_) s
  obtain ⟨direction, usesFd, peer, rfl⟩ := h g hg
  exact hr direction usesFd

namespace Holdings

variable {ν : Type} [DecidableEq ν] {h : Holdings ν}

/-- Whether a step reserves a stream. -/
def Step.reservesStream : Step ν → Bool
  | .reserveStream .. => true
  | _ => false

/-- A holder that reserves no stream only has guards of connections. -/
theorem connections_perform (hc : ∀ g ∈ h.guards.values, g.IsConnection) {step : Step ν}
    (hstep : step.reservesStream = false) :
    ∀ g ∈ (h.perform step).guards.values, g.IsConnection := by
  intro g hg
  rcases mem_values_perform hg with
    hold | ⟨-, direction, usesFd, -, rfl⟩ | ⟨c, peer, hold, rfl⟩ | ⟨_, _, _, _, _, rfl, -⟩
  · exact hc g hold
  · exact ⟨direction, usesFd, none, rfl⟩
  · obtain ⟨direction, usesFd, given, hconn⟩ := hc _ hold
    rw [Guard.connection.inj hconn]
    exact ⟨direction, usesFd, some peer, rfl⟩
  · cases hstep

end Holdings

/-! ## Guards of permits -/

/-- Whether a scope counts the relayed streams of a peer. -/
def Relay.countsHop : ScopeName → PeerId → Bool
  | .system, _ => true
  | .transient, _ => false
  | .peer p, peer => peer = p
  | .protocol name, _ => hopProtocol = name

namespace PermitQueues

variable {κ : Type} [DecidableEq κ] {q : PermitQueues κ}

/-- Permits with the same guard take the same. -/
theorem total_guards_of_eq {permits : List Permit} {guard : StreamGuard}
    (h : ∀ p ∈ permits, p.guard = guard) (s : ScopeName) (r : Resource) :
    Guard.total (Permit.guards permits) s r =
      permits.length * ((Guard.stream guard).takes s).get r := by
  induction permits with
  | nil =>
    rw [List.length_nil, Nat.zero_mul]
    rfl
  | cons p permits ih =>
    show Guard.total (.stream p.guard :: Permit.guards permits) s r = _
    rw [Guard.total_cons, ih fun p' hp' => h p' (List.mem_cons_of_mem p hp'),
      h p (List.mem_cons_self ..), List.length_cons, Nat.succ_mul, Nat.add_comm]

theorem takes_hopGuard (memory : Nat) (peer : PeerId) (s : ScopeName) (r : Resource) :
    ((Guard.stream (Relay.hopGuard memory peer)).takes s).get r =
      if Relay.countsHop s peer then (Amounts.stream .inbound memory).get r else 0 := by
  have hbelongs : (Guard.stream (Relay.hopGuard memory peer)).belongsTo s =
      Relay.countsHop s peer := by
    cases s with
    | system => rfl
    | transient => rfl
    | peer p => rfl
    | protocol name => rfl
  rw [← hbelongs]
  split
  · rename_i hs
    rw [Guard.takes_of_mem (Guard.belongsTo_iff.mp hs)]
    rfl
  · rename_i hs
    rw [Guard.takes_of_not_mem fun hmem => hs (Guard.belongsTo_iff.mpr hmem), Amounts.get_zero]

omit [DecidableEq κ] in
/-- Counting some keys with a weight is weighing the permits of these keys. -/
theorem sum_weighted (mine : κ → Bool) (n : Nat) (l : List (κ × List Permit)) :
    (l.map fun e => e.2.length * if mine e.1 then n else 0).sum =
      n * ((l.filter fun e => mine e.1).map fun e => e.2.length).sum := by
  induction l with
  | nil => rfl
  | cons e l ih =>
    rw [List.map_cons, List.sum_cons, ih, List.filter_cons]
    split
    · rw [List.map_cons, List.sum_cons, Nat.mul_add, Nat.mul_comm]
    · rw [Nat.mul_zero, Nat.zero_add]

omit [DecidableEq κ] in
theorem total_guards_flatten {memory : Nat} {owner : κ → PeerId} {l : List (κ × List Permit)}
    (h : ∀ e ∈ l, ∀ p ∈ e.2, p.guard = Relay.hopGuard memory (owner e.1)) (s : ScopeName)
    (r : Resource) :
    Guard.total (Permit.guards (l.map Prod.snd).flatten) s r =
      (l.map fun e =>
        e.2.length * if Relay.countsHop s (owner e.1) then
          (Amounts.stream .inbound memory).get r else 0).sum := by
  induction l with
  | nil => rfl
  | cons e l ih =>
    have hsplit : Permit.guards ((e :: l).map Prod.snd).flatten =
        Permit.guards e.2 ++ Permit.guards (l.map Prod.snd).flatten := List.map_append
    rw [hsplit, Guard.total_append, ih fun e' he' => h e' (List.mem_cons_of_mem e he'),
      total_guards_of_eq (h e (List.mem_cons_self ..)), takes_hopGuard, List.map_cons,
      List.sum_cons]

/-- What the permits of a table take of a scope: each key that is charged to the scope takes as much
for each of its permits. -/
theorem total_guards {memory : Nat} {owner : κ → PeerId}
    (h : ∀ k, ∀ p ∈ q.queue k, p.guard = Relay.hopGuard memory (owner k)) (s : ScopeName)
    (r : Resource) :
    Guard.total (Permit.guards q.permits) s r =
      (Amounts.stream .inbound memory).get r * q.countBy fun k => Relay.countsHop s (owner k) := by
  have hentries : ∀ e ∈ q.entries, ∀ p ∈ e.2, p.guard = Relay.hopGuard memory (owner e.1) := by
    intro e he p hp
    refine h e.1 p ?_
    rwa [queue_of_get? (Table.get?_eq_some_iff.mpr he)]
  exact (total_guards_flatten hentries s r).trans
    (sum_weighted (fun k => Relay.countsHop s (owner k)) _ q.entries)

end PermitQueues

/-! ## Usage -/

namespace RelayGate

/-- How many permits for reservations, pending or held, a peer owns. -/
def reservationsOf (g : RelayGate) (peer : PeerId) : Nat :=
  (g.pendingReservations.queue peer).length + (g.reservations.queue peer).length

/-- How many permits for circuits, pending or running, a peer owns as their source. -/
def circuitsOf (g : RelayGate) (peer : PeerId) : Nat :=
  (g.pendingCircuits.queue peer).length + g.circuits.countBy fun k => decide (k.1 = peer)

/-- How many permits for reservations a scope counts. -/
def reservationsIn (g : RelayGate) (s : ScopeName) : Nat :=
  g.pendingReservations.countBy (Relay.countsHop s) + g.reservations.countBy (Relay.countsHop s)

/-- How many permits for circuits a scope counts. -/
def circuitsIn (g : RelayGate) (s : ScopeName) : Nat :=
  g.pendingCircuits.countBy (Relay.countsHop s) +
    g.circuits.countBy fun k => Relay.countsHop s k.1

theorem reservationsIn_peer (g : RelayGate) (peer : PeerId) :
    g.reservationsIn (.peer peer) = g.reservationsOf peer := by
  have hpending := PermitQueues.countBy_eq_lengths g.pendingReservations peer
  have hheld := PermitQueues.countBy_eq_lengths g.reservations peer
  exact congr (congrArg _ hpending) hheld

theorem circuitsIn_peer (g : RelayGate) (peer : PeerId) :
    g.circuitsIn (.peer peer) = g.circuitsOf peer := by
  have hpending := PermitQueues.countBy_eq_lengths g.pendingCircuits peer
  exact congrArg (· + _) hpending

/-- The system and the hop protocol count every permit. -/
theorem reservationsIn_of_all {s : ScopeName} (hs : ∀ peer, Relay.countsHop s peer = true)
    (g : RelayGate) :
    g.reservationsIn s = g.pendingReservations.count + g.reservations.count := by
  rw [reservationsIn, funext hs, PermitQueues.countBy_true, PermitQueues.countBy_true]

theorem circuitsIn_of_all {s : ScopeName} (hs : ∀ peer, Relay.countsHop s peer = true)
    (g : RelayGate) : g.circuitsIn s = g.pendingCircuits.count + g.circuits.count := by
  rw [circuitsIn, funext fun k : PeerId × PeerId => hs k.1, funext hs, PermitQueues.countBy_true,
    PermitQueues.countBy_true]

end RelayGate

namespace Relay

variable {r : Relay} {ceilings : Ceilings} {settings : RelaySettings} {hand : List Guard}

/-- The relay keeps permits that were charged to the owner of their queue. -/
abbrev KeepsHop (ceilings : Ceilings) (settings : RelaySettings) (hand : List Guard) (r : Relay) :
    Prop :=
  r.Keeps ceilings settings (fun peer p => p.guard = hopGuard 0 peer)
    (fun peer p => p.guard = hopGuard settings.circuitMemory peer) hand

theorem admits_hop (h : r.gate.settings = settings) :
    r.Admits (fun peer p => p.guard = hopGuard 0 peer)
      (fun peer p => p.guard = hopGuard settings.circuitMemory peer) := by
  refine admits_of_passes (fun _ hadmitted => hadmitted.guard) fun _ hadmitted => ?_
  rw [← h]
  exact hadmitted.guard

/-- What a scope counts: as much for each permit for a reservation, as much for each permit for a
circuit, and what the hand takes. -/
theorem Keeps.get_usage (h : KeepsHop ceilings settings hand r) (s : ScopeName) (res : Resource) :
    (r.resources.usage s).get res =
      (Amounts.stream .inbound 0).get res * r.gate.reservationsIn s +
        (Amounts.stream .inbound settings.circuitMemory).get res * r.gate.circuitsIn s +
        Guard.total hand s res := by
  have hpr : Guard.total (Permit.guards r.gate.pendingReservations.permits) s res =
      (Amounts.stream .inbound 0).get res * r.gate.pendingReservations.countBy (countsHop s) :=
    PermitQueues.total_guards h.holds.1.all s res
  have hr : Guard.total (Permit.guards r.gate.reservations.permits) s res =
      (Amounts.stream .inbound 0).get res * r.gate.reservations.countBy (countsHop s) :=
    PermitQueues.total_guards h.holds.2.all s res
  have hpc : Guard.total (Permit.guards r.gate.pendingCircuits.permits) s res =
      (Amounts.stream .inbound settings.circuitMemory).get res *
        r.gate.pendingCircuits.countBy (countsHop s) :=
    PermitQueues.total_guards h.holds.3.all s res
  have hc : Guard.total (Permit.guards r.gate.circuits.permits) s res =
      (Amounts.stream .inbound settings.circuitMemory).get res *
        r.gate.circuits.countBy fun k => countsHop s k.1 :=
    PermitQueues.total_guards h.holds.4.all s res
  have hsplit : Permit.guards r.gate.permits =
      Permit.guards r.gate.pendingReservations.permits ++
        Permit.guards r.gate.reservations.permits ++
        Permit.guards r.gate.pendingCircuits.permits ++
        Permit.guards r.gate.circuits.permits := by
    rw [Permit.guards, RelayGate.permits, List.map_append, List.map_append, List.map_append]
    rfl
  rw [h.balanced.usage_eq, Guard.total_append, hsplit, Guard.total_append, Guard.total_append,
    Guard.total_append, hpr, hr, hpc, hc, RelayGate.reservationsIn, RelayGate.circuitsIn,
    Nat.mul_add, Nat.mul_add]
  omega

end Relay

namespace SharedRelay

variable {ν : Type} [DecidableEq ν]

/-- Whether a step of the others reserves a stream. -/
def Step.reservesStream : Step ν → Bool
  | .others step => step.reservesStream
  | _ => false

theorem connections_run {s : SharedRelay ν} (hc : ∀ g ∈ s.guards.values, g.IsConnection)
    {steps : List (Step ν)} (hsteps : ∀ step ∈ steps, step.reservesStream = false) :
    ∀ g ∈ (s.run steps).guards.values, g.IsConnection := by
  induction steps generalizing s with
  | nil => exact hc
  | cons step steps ih =>
    refine ih ?_ fun step' hstep' => hsteps step' (List.mem_cons_of_mem step hstep')
    have hstep := hsteps step (List.mem_cons_self ..)
    cases step with
    | gate operation => exact hc
    | connections step => exact hc
    | others step => exact Holdings.connections_perform hc hstep

/-- When nobody but the gate reserves streams, the inbound streams of a peer are the permits that it
owns, and its memory is that of its permits for circuits; the hop protocol and the system count all
permits in this way.  No table keeps an empty queue. -/
theorem run_usage (list : AccessList) (settings : RelaySettings) (connections : ConnectionManager)
    (ceilings : Ceilings) (steps : List (Step ν))
    (hsteps : ∀ step ∈ steps, step.reservesStream = false) :
    let s := (start list settings connections ceilings).run steps
    let g := s.relay.gate
    let usage := s.relay.resources.usage
    (∀ peer,
      (usage (.peer peer)).get .streamsInbound = g.reservationsOf peer + g.circuitsOf peer ∧
      (usage (.peer peer)).get .memory = settings.circuitMemory * g.circuitsOf peer) ∧
    (∀ scope ∈ [ScopeName.protocol Relay.hopProtocol, .system],
      (∀ r ∈ [Resource.streams, .streamsInbound], (usage scope).get r =
        g.pendingReservations.count + g.reservations.count + g.pendingCircuits.count +
          g.circuits.count) ∧
      (usage scope).get .memory =
        settings.circuitMemory * (g.pendingCircuits.count + g.circuits.count)) ∧
    (∀ peer, g.pendingReservations.get? peer ≠ some [] ∧ g.reservations.get? peer ≠ some [] ∧
      g.pendingCircuits.get? peer ≠ some []) ∧
    ∀ pair, g.circuits.get? pair ≠ some [] := by
  intro s g usage
  have hkeeps : s.Keeps ceilings settings _ _ :=
    keeps_run (fun r hr => Relay.admits_hop hr) (keeps_start list settings connections ceilings _ _)
      steps
  have hconnections : ∀ g ∈ s.guards.values, g.IsConnection :=
    connections_run (fun g hg => absurd hg List.not_mem_nil) hsteps
  have hothers : ∀ {res : Resource},
      (∀ direction usesFd, (Amounts.connection direction usesFd).get res = 0) →
      ∀ scope, Guard.total s.guards.values scope res = 0 :=
    fun hres scope => Guard.total_connections hconnections hres scope
  have hstreams : ∀ res ∈ [Resource.streams, .streamsInbound], ∀ scope,
      (usage scope).get res = g.reservationsIn scope + g.circuitsIn scope := by
    intro res hres scope
    rw [Relay.Keeps.get_usage hkeeps scope res]
    rcases List.mem_cons.mp hres with rfl | hres
    · rw [hothers (fun _ _ => rfl)]
      show 1 * g.reservationsIn scope + 1 * g.circuitsIn scope + 0 = _
      omega
    · rw [List.mem_singleton.mp hres, hothers (fun _ _ => rfl)]
      show 1 * g.reservationsIn scope + 1 * g.circuitsIn scope + 0 = _
      omega
  have hmemory : ∀ scope,
      (usage scope).get .memory = settings.circuitMemory * g.circuitsIn scope := by
    intro scope
    rw [Relay.Keeps.get_usage hkeeps scope .memory, hothers (fun _ _ => rfl)]
    show 0 * g.reservationsIn scope + settings.circuitMemory * g.circuitsIn scope + 0 = _
    omega
  refine ⟨fun peer => ⟨?_, ?_⟩, fun scope hscope => ?_, fun peer => ?_, hkeeps.holds.4.tidy⟩
  · rw [hstreams .streamsInbound (by simp), RelayGate.reservationsIn_peer,
      RelayGate.circuitsIn_peer]
  · rw [hmemory, RelayGate.circuitsIn_peer]
  · have hall : ∀ peer, Relay.countsHop scope peer = true := by
      intro peer
      rcases List.mem_cons.mp hscope with rfl | hscope
      · exact decide_eq_true (Eq.refl Relay.hopProtocol)
      · rw [List.mem_singleton.mp hscope]
        rfl
    refine ⟨fun res hres => ?_, ?_⟩
    · rw [hstreams res hres, RelayGate.reservationsIn_of_all hall, RelayGate.circuitsIn_of_all hall]
      omega
    · rw [hmemory, RelayGate.circuitsIn_of_all hall]
  · exact ⟨hkeeps.holds.1.tidy peer, hkeeps.holds.2.tidy peer, hkeeps.holds.3.tidy peer⟩

/-- A peer reserves and opens a circuit while others hold one connection. -/
theorem run_usage_circuit :
    let a : PeerId := ⟨.sha256, [1]⟩
    let b : PeerId := ⟨.sha256, [2]⟩
    let steps : List (Step Nat) := [
      .others (.openConnection 0 .inbound true), .others (.assignPeer 0 a),
      .gate (.admitReservation a ⟨[]⟩ 0), .gate (.reservationAccepted a false),
      .gate (.admitCircuit a ⟨[]⟩ 1), .gate (.circuitAccepted a b), .others .collect]
    let s := (start .open .standard (.ofMarks .standard) .unlimited).run steps
    (∀ step ∈ steps, step.reservesStream = false) ∧
    ∀ peer,
      (s.relay.resources.usage (.peer peer)).get .streamsInbound =
        s.relay.gate.reservationsOf peer + s.relay.gate.circuitsOf peer ∧
      (s.relay.resources.usage (.peer peer)).get .memory =
        RelaySettings.standard.circuitMemory * s.relay.gate.circuitsOf peer :=
  ⟨by decide, (run_usage _ _ _ _ _ (by decide)).1⟩

end SharedRelay

end CircuitRelay
