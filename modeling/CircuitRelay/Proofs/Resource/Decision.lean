import CircuitRelay.Proofs.Resource.Accounting

/-!
# A request is one decision

A request charges one resource after the other in one scope after the other, and undoes all of it
when something is lacking.  Seen from outside it decides on the usages that it finds: it is granted
when every link of its chain admits it, and otherwise names the first link that does not, and the
first resource that this link lacks.  Ceilings are 64-bit words, so that a sum that passes the range
of a word has passed its ceiling as well, and room is an inequality between natural numbers.

* `Link`, `Link.Admits`, `FirstLack`: the chain as it is found, and what it lacks.
* `Decides`: the answer of a request, and the manager that it leaves behind.
* `decides_openConnection`, `decides_reserveStream`: the two requests that make guards.
* `DecidesPeer`, `decidesPeer_assignPeer`: a connection gets its peer.
* `run_decides`: the decisions after any run.
-/

namespace CircuitRelay

/-- Whether every ceiling is a 64-bit word. -/
def Ceilings.AreWords (ceilings : Ceilings) : Prop :=
  ∀ k r, (ceilings.get k).get r ≤ Resource.maxAmount

theorem Ceilings.areWords_unlimited : Ceilings.unlimited.AreWords := by
  intro k r
  rw [unlimited, PerScope.get_ofFn, Amounts.unlimited, Amounts.get_ofFn]

/-! ## Links and what they lack -/

/-- A link of a chain: the kind of a scope and what the scope counts. -/
structure Link where
  kind : ScopeKind
  used : Amounts

/-- Whether the ceiling of a link admits what an amount takes of a resource; an amount of zero is
always admitted. -/
def Link.Admits (l : Link) (ceilings : Ceilings) (amount : Amounts) (r : Resource) : Prop :=
  amount.get r ≠ 0 → l.used.get r + amount.get r ≤ (ceilings.get l.kind).get r

/-- The first link that does not admit an amount is of kind `k`, and the first resource that it
lacks is `r`. -/
def FirstLack (ceilings : Ceilings) (amount : Amounts) (links : List Link) (k : ScopeKind)
    (r : Resource) : Prop :=
  ∃ before l after, links = before ++ l :: after ∧ l.kind = k ∧
    (∀ l' ∈ before, ∀ r', l'.Admits ceilings amount r') ∧
    ∃ passed rest, Resource.all = passed ++ r :: rest ∧
      (∀ r' ∈ passed, l.Admits ceilings amount r') ∧ ¬l.Admits ceilings amount r

variable {ceilings : Ceilings} {amount : Amounts} {l : Link} {links : List Link} {k : ScopeKind}
  {r : Resource}

theorem Link.fits_iff (hwords : ceilings.AreWords) :
    l.used.Fits (ceilings.get l.kind) amount ↔ ∀ r, l.Admits ceilings amount r := by
  constructor
  · intro h r hr
    exact (h r hr).2
  · intro h r hr
    exact ⟨le_trans (h r hr) (hwords l.kind r), h r hr⟩

theorem Link.lacks_iff (hwords : ceilings.AreWords) :
    l.used.lacks (ceilings.get l.kind) amount r = true ↔ ¬l.Admits ceilings amount r := by
  rw [Amounts.lacks_eq_true_iff, Admits, Classical.not_imp]
  refine and_congr_right fun _ => not_congr ⟨fun h => h.2, fun h => ?_⟩
  exact ⟨le_trans h (hwords l.kind r), h⟩

/-- A link that lacks a resource is where its chain lacks something first. -/
theorem Link.firstLack (hwords : ceilings.AreWords)
    (h : l.used.lacking? (ceilings.get l.kind) amount = some r) (links : List Link) :
    FirstLack ceilings amount (l :: links) l.kind r := by
  obtain ⟨hr, passed, rest, hall, hpassed⟩ := List.find?_eq_some_iff_append.mp h
  refine ⟨[], l, links, rfl, rfl, by simp, passed, rest, hall, fun r' hr' => ?_,
    (lacks_iff hwords).mp hr⟩
  by_contra hnot
  have hlacks := hpassed r' hr'
  rw [(lacks_iff hwords).mpr hnot] at hlacks
  cases hlacks

/-- Links with room may stand before. -/
theorem FirstLack.append (h : FirstLack ceilings amount links k r) {front : List Link}
    (hfront : ∀ l ∈ front, ∀ r', l.Admits ceilings amount r') :
    FirstLack ceilings amount (front ++ links) k r := by
  obtain ⟨before, l, after, rfl, hk, hbefore, hlack⟩ := h
  refine ⟨front ++ before, l, after, (List.append_assoc ..).symm, hk, fun l' hl' => ?_, hlack⟩
  rcases List.mem_append.mp hl' with hl' | hl'
  · exact hfront l' hl'
  · exact hbefore l' hl'

theorem FirstLack.not_admits (h : FirstLack ceilings amount links k r) :
    ¬∀ l ∈ links, ∀ r', l.Admits ceilings amount r' := by
  obtain ⟨before, l, after, rfl, -, -, passed, rest, -, -, hlack⟩ := h
  exact fun hall => hlack (hall l (List.mem_append_right _ List.mem_cons_self) r)

namespace ResourceManager

variable {m m' : ResourceManager} {chain : List ScopeName} {γ : Type} {guard : γ}

/-- A scope as a link of a chain. -/
def link (m : ResourceManager) (s : ScopeName) : Link := ⟨s.kind, m.usage s⟩

/-- A chain of scopes that refused lacks something first where it was refused. -/
theorem Refused.firstLack (h : Refused m m' amount chain k r) (hwords : m.ceilings.AreWords) :
    FirstLack m.ceilings amount (chain.map m.link) k r := by
  obtain ⟨before, s, after, rfl, rfl, hbefore, hlacking⟩ := h.first
  rw [List.map_append, List.map_cons]
  refine FirstLack.append ((m.link s).firstLack hwords hlacking (after.map m.link)) ?_
  intro l hl
  obtain ⟨t, ht, rfl⟩ := List.mem_map.mp hl
  exact (Link.fits_iff hwords).mp (hbefore t ht)

/-- A chain of scopes that was charged had room everywhere. -/
theorem Charged.admits (h : Charged m m' amount chain) (hwords : m.ceilings.AreWords) :
    ∀ l ∈ chain.map m.link, ∀ r, l.Admits m.ceilings amount r := by
  intro l hl
  obtain ⟨s, hs, rfl⟩ := List.mem_map.mp hl
  exact (Link.fits_iff hwords).mp (h.room s hs)

/-! ## Requests that make guards -/

/-- A request for an amount along some links is decided at once, on the usages that it finds.  When
it is granted, the answer is a guard of that amount, which is what the own scope of a connection
counts, and the scopes of the chain in the manager count it too.  When it is refused, all usage
stays, and the answer is that the manager was closed, or what the links lack first; only the latter
is counted. -/
structure Decides (m : ResourceManager) (links : List Link) (chain : List ScopeName)
    (amount : Amounts) (guard : γ) (outcome : Except Refusal γ × ResourceManager) : Prop where
  granted_iff : (∃ g, outcome.1 = .ok g) ↔
    m.closed = false ∧ ∀ l ∈ links, ∀ r, l.Admits m.ceilings amount r
  granted : ∀ g, outcome.1 = .ok g → g = guard ∧ outcome.2.blocked = m.blocked ∧
    ∀ s, outcome.2.usage s = if s ∈ chain then m.usage s + amount else m.usage s
  refused : ∀ e, outcome.1 = .error e → (∀ s, outcome.2.usage s = m.usage s) ∧
    ((m.closed = true ∧ e = .closed ∧ outcome.2.blocked = m.blocked) ∨
    (m.closed = false ∧ ∃ k r, e = .exceeded k r ∧ FirstLack m.ceilings amount links k r ∧
      ∀ pair, outcome.2.blocked.count pair =
        m.blocked.count pair + if (k, r) = pair then 1 else 0))

theorem decides_of_closed (hclosed : m.closed = true) (hsame : SameUsage m m')
    (hblocked : m'.blocked = m.blocked) :
    m.Decides links chain amount guard (.error .closed, m') where
  granted_iff := by
    refine iff_of_false (fun hok => ?_) fun hopen => ?_
    · obtain ⟨_, heq⟩ := hok
      cases heq
    · rw [hclosed] at hopen
      exact Bool.noConfusion hopen.1
  granted g h := by cases h
  refused e h := by
    cases h
    exact ⟨hsame.usage, .inl ⟨hclosed, rfl, hblocked⟩⟩

theorem decides_of_charged (hopen : m.closed = false) (h : Charged m m' amount chain)
    (hlinks : ∀ l ∈ links, ∀ r, l.Admits m.ceilings amount r) :
    m.Decides links chain amount guard (.ok guard, m') where
  granted_iff := iff_of_true ⟨guard, rfl⟩ ⟨hopen, hlinks⟩
  granted g hg := by
    cases hg
    exact ⟨rfl, h.blocked, h.usage⟩
  refused e he := by cases he

theorem decides_of_lack (hopen : m.closed = false) (h : FirstLack m.ceilings amount links k r)
    (hsame : SameUsage m m') (hblocked : m'.blocked = m.blocked.record (k, r)) :
    m.Decides links chain amount guard (.error (.exceeded k r), m') where
  granted_iff := by
    refine iff_of_false (fun hok => ?_) fun hroom => h.not_admits hroom.2
    obtain ⟨_, heq⟩ := hok
    cases heq
  granted g hg := by cases hg
  refused e he := by
    cases he
    refine ⟨hsame.usage, .inr ⟨hopen, k, r, rfl, h, fun pair => ?_⟩⟩
    rw [hblocked, Tally.count_record]

/-- A new connection is decided on its own empty scope, the transient scope and the system. -/
theorem decides_openConnection (hwords : m.ceilings.AreWords) (direction : Direction)
    (usesFd : Bool) :
    let amount := Amounts.connection direction usesFd
    let chain : List ScopeName := [.transient, .system]
    m.Decides (⟨.connection, .zero⟩ :: chain.map m.link) chain amount ⟨amount, none⟩
      (m.openConnection direction usesFd) := by
  intro amount chain
  -- the scope of the connection itself is not one of the manager
  have hown : Amounts.zero.lacking? m.ceilings.connection amount = none →
      ∀ l ∈ [(⟨.connection, .zero⟩ : Link)], ∀ r, l.Admits m.ceilings amount r := by
    intro hnone l hl
    cases List.mem_singleton.mp hl
    exact (Link.fits_iff hwords).mp (Amounts.lacking?_eq_none_iff.mp hnone)
  rcases m.openConnection_cases direction usesFd with
    ⟨hclosed, heq⟩ | ⟨hopen, r, hr, heq⟩ | ⟨hopen, hnone, m', heq, h⟩ |
    ⟨hopen, hnone, m', k, r, heq, h⟩
  · rw [heq]
    exact decides_of_closed hclosed (.refl m) rfl
  · rw [heq]
    have hlack := Link.firstLack (l := ⟨.connection, .zero⟩) hwords hr (chain.map m.link)
    exact decides_of_lack hopen hlack (sameUsage_recordRefusal m .connection r) rfl
  · rw [heq]
    refine decides_of_charged hopen h fun l hl => ?_
    rcases List.mem_cons.mp hl with hl | hl
    · exact hown hnone l (List.mem_singleton.mpr hl)
    · exact h.admits hwords l hl
  · rw [heq]
    exact decides_of_lack hopen ((h.firstLack hwords).append (hown hnone)) h.same h.blocked

/-- A new stream is decided on its peer, its protocol and the system. -/
theorem decides_reserveStream (hwords : m.ceilings.AreWords) (peer : PeerId) (protocol : String)
    (direction : Direction) (memory : Nat) :
    let amount := Amounts.stream direction memory
    let chain : List ScopeName := [.peer peer, .protocol protocol, .system]
    m.Decides (chain.map m.link) chain amount ⟨amount, peer, protocol⟩
      (m.reserveStream peer protocol direction memory) := by
  intro amount chain
  rcases m.reserveStream_cases peer protocol direction memory with
    ⟨hclosed, heq⟩ | ⟨hopen, m', heq, h⟩ | ⟨hopen, m', k, r, heq, h⟩
  · rw [heq]
    refine decides_of_closed hclosed (m.sameUsage_named peer protocol) ?_
    rw [named, touch, blocked_setUsage, touch, blocked_setUsage]
  · rw [heq]
    exact decides_of_charged hopen h (h.admits hwords)
  · rw [heq]
    exact decides_of_lack hopen (h.firstLack hwords) h.same h.blocked

end ResourceManager

namespace Holdings

variable {ν : Type} [DecidableEq ν] {h : Holdings ν} {name : ν} {g : ConnectionGuard}

/-! ## Peers of connections -/

/-- A connection `g` of some holdings that is to get a peer, and what comes of it: it has one
already or the scope of the peer has room, and the answer is a peer; or all usage and all guards
stay, and the answer is what the scope of the peer lacks first. -/
def DecidesPeer (h : Holdings ν) (g : ConnectionGuard) (peer : PeerId)
    (outcome : Option (Except Refusal (Option PeerId)) × Holdings ν) : Prop :=
  let l := h.manager.link (.peer peer)
  let room := ∀ r, l.Admits h.manager.ceilings g.amount r
  ((g.peer ≠ none ∨ room) ∧ ∃ p, outcome.1 = some (.ok p)) ∨
  (¬(g.peer ≠ none ∨ room) ∧ (∀ s, outcome.2.manager.usage s = h.manager.usage s) ∧
    outcome.2.guards = h.guards ∧
    ∃ r, outcome.1 = some (.error (.exceeded .peer r)) ∧
      FirstLack h.manager.ceilings g.amount [l] .peer r ∧
      ∀ pair, outcome.2.manager.blocked.count pair =
        h.manager.blocked.count pair + if (.peer, r) = pair then 1 else 0)

/-- Whether the manager was closed makes no difference to a connection that gets its peer. -/
theorem decidesPeer_assignPeer (hwords : h.manager.ceilings.AreWords)
    (hg : h.connection? name = some g) (peer : PeerId) :
    h.DecidesPeer g peer (h.assignPeer name peer) := by
  rw [assignPeer, hg]
  dsimp only
  rcases h.manager.assignPeer_cases g peer with
    ⟨hpeer, heq⟩ | ⟨-, m', heq, hmoved⟩ | ⟨hpeer, m', r, heq, hlacking, hsame, hblocked⟩
  · rw [heq]
    exact .inl ⟨.inl hpeer, _, rfl⟩
  · rw [heq]
    exact .inl ⟨.inr ((Link.fits_iff hwords).mp hmoved.room), _, rfl⟩
  · rw [heq]
    have hlack := Link.firstLack (l := h.manager.link (.peer peer)) hwords hlacking []
    refine .inr ⟨?_, hsame.usage, rfl, r, rfl, hlack, fun pair => ?_⟩
    · rintro (hhas | hroom)
      · exact hhas hpeer
      · exact hlack.not_admits fun l hl => List.mem_singleton.mp hl ▸ hroom
    · show m'.blocked.count pair = _
      rw [hblocked, Tally.count_record]

/-! ## Runs -/

/-- After any run of requests, whatever was granted, refused or given back before, and however
close to the end of the 64-bit range the counters are: opening a connection, reserving a stream and
giving a connection its peer are each one decision on the usages at that time. -/
theorem run_decides (ceilings : Ceilings) (hwords : ceilings.AreWords) (steps : List (Step ν)) :
    let h := (Holdings.ofCeilings ceilings).run steps
    let m := h.manager
    m.ceilings = ceilings ∧
    (∀ direction usesFd,
      let amount := Amounts.connection direction usesFd
      let chain : List ScopeName := [.transient, .system]
      m.Decides (⟨.connection, .zero⟩ :: chain.map m.link) chain amount ⟨amount, none⟩
        (m.openConnection direction usesFd)) ∧
    (∀ peer protocol direction memory,
      let amount := Amounts.stream direction memory
      let chain : List ScopeName := [.peer peer, .protocol protocol, .system]
      m.Decides (chain.map m.link) chain amount ⟨amount, peer, protocol⟩
        (m.reserveStream peer protocol direction memory)) ∧
    (∀ name g peer, h.connection? name = some g →
      h.DecidesPeer g peer (h.assignPeer name peer)) := by
  intro h m
  have hbalanced : Balanced ceilings [] h := balanced_run (balanced_ofCeilings ceilings) steps
  have hceilings : m.ceilings = ceilings := hbalanced.ceilings_eq
  rw [← hceilings] at hwords
  exact ⟨hceilings, fun direction usesFd => ResourceManager.decides_openConnection hwords ..,
    fun peer protocol direction memory => ResourceManager.decides_reserveStream hwords ..,
    fun name g peer hg => decidesPeer_assignPeer hwords hg peer⟩

/-- The node has taken all memory but one byte of the 64-bit range.  There is room for that byte and
for no other; a connection that was opened beside it gets its peer after the manager was closed. -/
theorem run_decides_at_limit :
    let p : PeerId := ⟨.sha256, [1]⟩
    let steps : List (Step Nat) :=
      [.reserveStream 0 p "/chat" .inbound (2 ^ 64 - 2), .openConnection 1 .outbound true]
    let c : ConnectionGuard := ⟨.connection .outbound true, none⟩
    let m := ((Holdings.ofCeilings .unlimited).run steps).manager
    let closed := (Holdings.ofCeilings .unlimited).run (steps ++ [.close])
    let one := m.reserveStream p "/chat" .inbound 1
    let two := m.reserveStream p "/chat" .inbound 2
    Ceilings.unlimited.AreWords ∧
    one.1 = .ok ⟨.stream .inbound 1, p, "/chat"⟩ ∧
    one.2.usage .system = m.usage .system + .stream .inbound 1 ∧
    two.1 = .error (.exceeded .peer .memory) ∧ (∀ s, two.2.usage s = m.usage s) ∧
    closed.connection? 1 = some c ∧ closed.DecidesPeer c p (closed.assignPeer 1 p) := by
  intro p steps c m closed one two
  have hgranted : one.1 = .ok ⟨.stream .inbound 1, p, "/chat"⟩ := by decide +kernel
  have hrefused : two.1 = .error (.exceeded .peer .memory) := by decide +kernel
  have hconnection : closed.connection? 1 = some c := by decide +kernel
  obtain ⟨-, -, hstream, -⟩ := run_decides .unlimited Ceilings.areWords_unlimited steps
  obtain ⟨-, -, -, hpeer⟩ := run_decides .unlimited Ceilings.areWords_unlimited (steps ++ [.close])
  obtain ⟨-, -, hsystem⟩ := (hstream p "/chat" .inbound 1).granted _ hgranted
  exact ⟨Ceilings.areWords_unlimited, hgranted, hsystem .system, hrefused,
    ((hstream p "/chat" .inbound 2).refused _ hrefused).1, hconnection, hpeer 1 c p hconnection⟩

end Holdings

end CircuitRelay
