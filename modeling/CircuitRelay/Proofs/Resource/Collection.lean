import CircuitRelay.Proofs.Resource.Accounting

/-!
# Collecting idle scopes cannot be seen

Scopes come into being when they are first named, also by requests that are refused, and a
collection drops those that count nothing.  A dropped scope that is named again begins at zero,
which is where it was.  So a run with collections and the same run without them differ in one way
only: a scope that counts nothing may be absent.

`Thinned m m'` is this relation.  Every request keeps it and answers alike in both managers.  Giving
back is where it could break, because giving back to an absent scope does nothing; but a scope that
somebody gives back to is one that counts a live guard, and such a scope is never absent.

* `Thinned.charge`, `Thinned.dischargeAll`, `Thinned.chargeChain`: the walks along a chain.
* `Thinned.openConnection`, `Thinned.reserveStream`, `Thinned.assignPeer`: requests.
* `thinned_perform`, `thinned_run`: steps and runs, of which one side also collects.
* `collects_collect`: which scopes a collection drops, and how many.
* `usage?_collect_of_refused`: a refused request leaves nothing behind that a collection does not
  drop.
* `run_collects`: all of this after any run.
-/

namespace CircuitRelay

namespace ResourceManager

variable {α β : Type} {m m' : ResourceManager} {amount : Amounts} {s : ScopeName}

/-! ## Managers that differ by idle scopes -/

/-- The manager `m'` is `m` without some of the scopes that count nothing. -/
structure Thinned (m m' : ResourceManager) : Prop extends SameUsage m m' where
  found : ∀ s, (m'.usage? s).isSome → (m.usage? s).isSome
  blocked : m'.blocked = m.blocked

/-- An answer and the manager after it, where some scopes that count nothing may be absent. -/
structure ThinnedOutcome (o o' : α × ResourceManager) : Prop where
  answer : o'.1 = o.1
  manager : Thinned o.2 o'.2

theorem ThinnedOutcome.exists_eq {o o' : α × ResourceManager} (h : ThinnedOutcome o o') :
    ∃ answer n n', o = (answer, n) ∧ o' = (answer, n') ∧ Thinned n n' :=
  ⟨o.1, o.2, o'.2, rfl, Prod.ext h.answer rfl, h.manager⟩

theorem ThinnedOutcome.map {o o' : α × ResourceManager} (h : ThinnedOutcome o o') (f : α → β) :
    ThinnedOutcome (o.map f id) (o'.map f id) :=
  ⟨congrArg f h.answer, h.manager⟩

theorem Thinned.refl (m : ResourceManager) : Thinned m m := ⟨.refl m, fun _ => id, rfl⟩

theorem Thinned.trans {m'' : ResourceManager} (h : Thinned m m') (h' : Thinned m' m'') :
    Thinned m m'' :=
  ⟨h.toSameUsage.trans h'.toSameUsage, fun s hs => h.found s (h'.found s hs),
    h'.blocked.trans h.blocked⟩

/-! ## Walks along a chain -/

theorem Thinned.setUsage (h : Thinned m m') (s : ScopeName) (a : Amounts) :
    Thinned (m.setUsage s a) (m'.setUsage s a) where
  usage t := by rw [usage_setUsage, usage_setUsage, h.usage]
  ceilings := by rw [ceilings_setUsage, ceilings_setUsage, h.ceilings]
  closed := by rw [closed_setUsage, closed_setUsage, h.closed]
  found t ht := by
    rw [usage?_setUsage] at ht ⊢
    split at ht
    · rename_i hst
      rw [if_pos hst]
      rfl
    · rename_i hst
      rw [if_neg hst]
      exact h.found t ht
  blocked := by rw [blocked_setUsage, blocked_setUsage, h.blocked]

theorem Thinned.touch (h : Thinned m m') (s : ScopeName) : Thinned (m.touch s) (m'.touch s) := by
  rw [ResourceManager.touch, ResourceManager.touch, h.usage]
  exact h.setUsage s _

theorem Thinned.recordRefusal (h : Thinned m m') (k : ScopeKind) (r : Resource) :
    Thinned (m.recordRefusal k r) (m'.recordRefusal k r) where
  usage t := by
    rw [(sameUsage_recordRefusal m' k r).usage, (sameUsage_recordRefusal m k r).usage, h.usage]
  ceilings := h.ceilings
  closed := h.closed
  found t ht := by
    cases t with
    | system => rfl
    | transient => rfl
    | peer p => exact h.found (.peer p) ht
    | protocol q => exact h.found (.protocol q) ht
  blocked := congrArg (Tally.record · (k, r)) h.blocked

/-- Charging a scope looks at its usage only, and leaves it in existence. -/
theorem Thinned.charge (h : Thinned m m') (amount : Amounts) (s : ScopeName) :
    ThinnedOutcome (m.charge amount s) (m'.charge amount s) := by
  rw [ResourceManager.charge, ResourceManager.charge, h.usage, h.ceilings]
  rcases (m.usage s).take (m.ceilings.get s.kind) amount with ⟨lacking, used⟩
  exact ⟨rfl, h.setUsage s used⟩

theorem isSome_usage?_charge {t : ScopeName} (ht : (m.usage? t).isSome ∨ t = s) :
    ((m.charge amount s).2.usage? t).isSome := by
  rw [ResourceManager.charge]
  rcases (m.usage s).take (m.ceilings.get s.kind) amount with ⟨lacking, used⟩
  show ((m.setUsage s used).usage? t).isSome
  rw [usage?_setUsage]
  split
  · rfl
  · rename_i hst
    exact ht.resolve_right (Ne.symm hst)

/-- Giving back to a scope that is there. -/
theorem Thinned.discharge (h : Thinned m m') (hs : (m'.usage? s).isSome) (amount : Amounts) :
    Thinned (m.discharge amount s) (m'.discharge amount s) := by
  obtain ⟨a', ha'⟩ := Option.isSome_iff_exists.mp hs
  obtain ⟨a, ha⟩ := Option.isSome_iff_exists.mp (h.found s hs)
  have husage := h.usage s
  rw [ResourceManager.usage, ResourceManager.usage, ha, ha', Option.getD_some,
    Option.getD_some] at husage
  rw [ResourceManager.discharge, ResourceManager.discharge, ha, ha', husage]
  exact h.setUsage s _

theorem Thinned.dischargeAll {chain : List ScopeName} (h : Thinned m m')
    (hchain : ∀ s ∈ chain, (m'.usage? s).isSome) (amount : Amounts) :
    Thinned (m.dischargeAll amount chain) (m'.dischargeAll amount chain) := by
  induction chain generalizing m m' with
  | nil => exact h
  | cons s chain ih =>
    have hs := hchain s List.mem_cons_self
    refine ih (h.discharge hs amount) fun t ht => ?_
    rw [usage?_discharge hs]
    split
    · rfl
    · exact hchain t (List.mem_cons_of_mem s ht)

/-- The walk along a chain, from any scope on: the scopes before that one are charged and there. -/
theorem Thinned.chargeChain (h : Thinned m m') (amount : Amounts) {charged rest : List ScopeName}
    (hcharged : ∀ s ∈ charged, (m'.usage? s).isSome) :
    ThinnedOutcome (m.chargeChain amount charged rest) (m'.chargeChain amount charged rest) := by
  induction rest generalizing charged m m' with
  | nil => exact ⟨rfl, h⟩
  | cons s rest ih =>
    have hfound : ∀ t, (m'.usage? t).isSome ∨ t = s → ((m'.charge amount s).2.usage? t).isSome :=
      fun t ht => isSome_usage?_charge ht
    obtain ⟨lacking, n, n', heq, heq', hn⟩ := (h.charge amount s).exists_eq
    rw [heq'] at hfound
    rw [ResourceManager.chargeChain, ResourceManager.chargeChain, heq, heq']
    cases lacking with
    | none =>
      refine ih hn fun t ht => hfound t ?_
      exact (List.mem_append.mp ht).imp (hcharged t) List.mem_singleton.mp
    | some r =>
      refine ⟨rfl, (hn.dischargeAll (fun t ht => ?_) amount).recordRefusal s.kind r⟩
      exact hfound t (.inl (hcharged t ht))

/-! ## Requests -/

theorem Thinned.openConnection (h : Thinned m m') (direction : Direction) (usesFd : Bool) :
    ThinnedOutcome (m.openConnection direction usesFd) (m'.openConnection direction usesFd) := by
  rw [ResourceManager.openConnection, ResourceManager.openConnection, h.closed, h.ceilings]
  dsimp only
  split
  · exact ⟨rfl, h⟩
  · split
    · exact ⟨rfl, h.recordRefusal ..⟩
    · exact (h.chargeChain _ (by simp)).map _

theorem Thinned.reserveStream (h : Thinned m m') (peer : PeerId) (protocol : String)
    (direction : Direction) (memory : Nat) :
    ThinnedOutcome (m.reserveStream peer protocol direction memory)
      (m'.reserveStream peer protocol direction memory) := by
  have hnamed : Thinned (m.named peer protocol) (m'.named peer protocol) := (h.touch _).touch _
  have hall : ∀ amount, ThinnedOutcome
      ((m.named peer protocol).chargeAll amount [.peer peer, .protocol protocol, .system])
      ((m'.named peer protocol).chargeAll amount [.peer peer, .protocol protocol, .system]) := by
    intro amount
    rw [chargeAll, chargeAll, hnamed.closed]
    split
    · exact ⟨rfl, hnamed⟩
    · exact hnamed.chargeChain amount (by simp)
  exact (hall _).map _

/-- A connection that moves is given back by the transient scope, which is always there. -/
theorem Thinned.assignPeer (h : Thinned m m') (g : ConnectionGuard) (peer : PeerId) :
    ThinnedOutcome (m.assignPeer g peer) (m'.assignPeer g peer) := by
  rw [ResourceManager.assignPeer, ResourceManager.assignPeer]
  cases g.peer with
  | some _ => exact ⟨rfl, h⟩
  | none =>
    obtain ⟨lacking, n, n', heq, heq', hn⟩ :=
      ((h.touch (.peer peer)).charge g.amount (.peer peer)).exists_eq
    dsimp only
    rw [heq, heq']
    cases lacking with
    | some r => exact ⟨rfl, hn.recordRefusal .peer r⟩
    | none =>
      have hback := hn.discharge (s := .transient) rfl g.amount
      exact ⟨rfl, hback⟩

/-! ## Collecting -/

/-- The scopes of peers and protocols that exist. -/
def namedScopes (m : ResourceManager) : List ScopeName :=
  m.peers.keys.map .peer ++ m.protocols.keys.map .protocol

theorem mem_namedScopes_iff : s ∈ m.namedScopes ↔
    s ≠ .system ∧ s ≠ .transient ∧ (m.usage? s).isSome := by
  rw [namedScopes, List.mem_append, List.mem_map, List.mem_map]
  cases s with
  | system => simp
  | transient => simp
  | peer p =>
    show _ ↔ _ ∧ _ ∧ (m.peers.get? p).isSome
    rw [← Table.contains_iff, Table.contains]
    simp
  | protocol q =>
    show _ ↔ _ ∧ _ ∧ (m.protocols.get? q).isSome
    rw [← Table.contains_iff, Table.contains]
    simp

/-- After a collection a scope of a peer or a protocol exists when it counts something; the two
scopes of the node always do. -/
theorem usage?_collect (m : ResourceManager) (s : ScopeName) :
    m.collect.2.usage? s =
      if s = .system ∨ s = .transient ∨ m.usage s ≠ .zero then some (m.usage s) else none := by
  have hfilter : ∀ o : Option Amounts, (o.filter fun a => !a.isZero) =
      if o.getD .zero ≠ .zero then some (o.getD .zero) else none := by
    intro o
    cases o with
    | none => rfl
    | some a =>
      have hzero : (!a.isZero) = true ↔ a ≠ .zero := by
        rw [Bool.not_eq_true', ← Bool.not_eq_true, Amounts.isZero_iff]
      simp only [Option.filter_some, Option.getD_some, hzero]
  cases s with
  | system => rfl
  | transient => rfl
  | peer p =>
    show (m.peers.filter fun _ a => !a.isZero).get? p = _
    rw [Table.get?_filter, hfilter]
    simp [usage, usage?]
  | protocol q =>
    show (m.protocols.filter fun _ a => !a.isZero).get? q = _
    rw [Table.get?_filter, hfilter]
    simp [usage, usage?]

theorem thinned_collect (m : ResourceManager) : Thinned m m.collect.2 where
  toSameUsage := sameUsage_collect m
  found s hs := by
    rw [usage?_collect] at hs
    split at hs
    · rename_i hkept
      rcases hkept with rfl | rfl | hne
      · rfl
      · rfl
      · rw [usage] at hne
        cases hfound : m.usage? s with
        | none =>
          rw [hfound] at hne
          exact absurd rfl hne
        | some _ => rfl
    · exact Bool.noConfusion hs
  blocked := rfl

end ResourceManager

namespace Holdings

variable {ν : Type} {ceilings : Ceilings} {elsewhere : List Guard} {h h' : Holdings ν}

/-! ## What a collection drops -/

/-- A scope counts nothing exactly when no live guard belongs to it. -/
theorem usage_eq_zero_iff (hb : h.manager.Balanced ceilings h.guards.values) (s : ScopeName) :
    h.manager.usage s = .zero ↔ h.guardsOf s = [] := by
  constructor
  · intro hzero
    rw [List.eq_nil_iff_forall_not_mem]
    intro g hg
    obtain ⟨hlive, hbelongs⟩ := List.mem_filter.mp hg
    obtain ⟨r, hr⟩ := (hb.isCharge g hlive).exists_get_ne_zero
    have hle := hb.le_usage hlive (Guard.belongsTo_iff.mp hbelongs) r
    rw [hzero, Amounts.get_zero] at hle
    omega
  · intro hnil
    apply Amounts.ext_get
    intro r
    rw [get_usage_eq_sum hb, hnil, Amounts.get_zero, List.map_nil, List.sum_nil]

/-- What a collection does to some holdings: it drops the scopes of peers and protocols to which no
live guard belongs and nothing else, answers their number, and leaves none of them for another
collection. -/
structure Collects (h : Holdings ν) (outcome : Nat × Holdings ν) : Prop where
  guards : outcome.2.guards = h.guards
  scopes : outcome.2.manager.namedScopes =
    h.manager.namedScopes.filter fun s => !(h.guardsOf s).isEmpty
  usage? : ∀ s, s ∉ h.manager.namedScopes ∨ h.guardsOf s ≠ [] →
    outcome.2.manager.usage? s = h.manager.usage? s
  count : outcome.1 = h.manager.namedScopes.countP fun s => (h.guardsOf s).isEmpty
  again : outcome.2.collect.1 = 0

theorem namedScopes_collect (hb : h.manager.Balanced ceilings h.guards.values) :
    h.collect.2.manager.namedScopes =
      h.manager.namedScopes.filter fun s => !(h.guardsOf s).isEmpty := by
  have hkept : ∀ s a, h.manager.usage? s = some a → (!a.isZero) = !(h.guardsOf s).isEmpty := by
    intro s a ha
    have husage : h.manager.usage s = a := by
      rw [ResourceManager.usage, ha, Option.getD_some]
    rw [Bool.eq_iff_iff, Bool.not_eq_true', Bool.not_eq_true', ← Bool.not_eq_true,
      ← Bool.not_eq_true, Amounts.isZero_iff, List.isEmpty_iff, ← usage_eq_zero_iff hb, husage]
  have hpeers : (h.manager.peers.filter fun _ a => !a.isZero).keys =
      h.manager.peers.keys.filter fun p => !(h.guardsOf (.peer p)).isEmpty :=
    Table.keys_filter fun p a ha => hkept (.peer p) a ha
  have hprotocols : (h.manager.protocols.filter fun _ a => !a.isZero).keys =
      h.manager.protocols.keys.filter fun q => !(h.guardsOf (.protocol q)).isEmpty :=
    Table.keys_filter fun q a ha => hkept (.protocol q) a ha
  show (h.manager.peers.filter fun _ a => !a.isZero).keys.map ScopeName.peer ++
    (h.manager.protocols.filter fun _ a => !a.isZero).keys.map ScopeName.protocol = _
  rw [hpeers, hprotocols, ResourceManager.namedScopes, List.filter_append, List.filter_map,
    List.filter_map]
  rfl

theorem fst_collect (hb : h.manager.Balanced ceilings h.guards.values) :
    h.collect.1 = h.manager.namedScopes.countP fun s => (h.guardsOf s).isEmpty := by
  have hlength : ∀ m : ResourceManager,
      m.namedScopes.length = m.peers.size + m.protocols.size := by
    intro m
    rw [ResourceManager.namedScopes, List.length_append, List.length_map, List.length_map,
      Table.keys, Table.keys, List.length_map, List.length_map]
    rfl
  have hdropped : h.collect.1 =
      h.manager.namedScopes.length - h.collect.2.manager.namedScopes.length := by
    rw [hlength, hlength]
    rfl
  have hsplit := (List.filter_append_perm (fun s => (h.guardsOf s).isEmpty)
    h.manager.namedScopes).length_eq
  rw [List.length_append] at hsplit
  rw [hdropped, namedScopes_collect hb, List.countP_eq_length_filter, ← hsplit,
    Nat.add_sub_cancel]

theorem collects_collect (hb : h.manager.Balanced ceilings h.guards.values) :
    h.Collects h.collect where
  guards := rfl
  scopes := namedScopes_collect hb
  usage? s hs := by
    show h.manager.collect.2.usage? s = _
    rw [ResourceManager.usage?_collect]
    split
    · rename_i hkept
      cases hfound : h.manager.usage? s with
      | some a => rw [ResourceManager.usage, hfound, Option.getD_some]
      | none =>
        -- a scope that does not exist counts nothing, and is not one of the node's
        rcases hkept with rfl | rfl | hne
        · cases hfound
        · cases hfound
        · rw [ResourceManager.usage, hfound] at hne
          exact absurd rfl hne
    · rename_i hdropped
      rw [not_or, not_or, not_not] at hdropped
      obtain ⟨hsystem, htransient, hzero⟩ := hdropped
      rcases hs with hs | hs
      · rw [ResourceManager.mem_namedScopes_iff] at hs
        cases hfound : h.manager.usage? s with
        | none => rfl
        | some a => exact absurd ⟨hsystem, htransient, by rw [hfound]; rfl⟩ hs
      · exact absurd ((usage_eq_zero_iff hb s).mp hzero) hs
  count := fst_collect hb
  again := by
    have hafter : h.collect.2.manager.Balanced ceilings h.collect.2.guards.values :=
      ResourceManager.Balanced.collect hb
    rw [fst_collect hafter, namedScopes_collect hb, List.countP_eq_zero]
    intro s hs hempty
    have hbusy := (List.mem_filter.mp hs).2
    rw [Bool.not_eq_true'] at hbusy
    exact Bool.noConfusion (hbusy.symm.trans hempty)

/-! ## Steps and runs -/

/-- What a holder of guards is answered. -/
inductive Answer where
  | opened (result : Except Refusal Unit)
  | assigned (result : Option (Except Refusal (Option PeerId)))
  | reserved (result : Except Refusal Amounts)
  | dropped (guard : Option Guard)
  | closed

/-- Whether an answer refuses a request. -/
def Answer.refuses : Answer → Bool
  | .opened (.error _) | .assigned (some (.error _)) | .reserved (.error _) => true
  | _ => false

/-- Whether a step collects idle scopes. -/
def Step.collects : Step ν → Bool
  | .collect => true
  | _ => false

theorem Step.eq_collect_of_collects {step : Step ν} (h : step.collects = true) :
    step = .collect := by
  cases step with
  | collect => rfl
  | _ => cases h

/-- A guard that accounts for usage is charged to scopes that exist. -/
theorem isSome_usage?_of_balanced {m : ResourceManager} {gs : List Guard}
    (hb : m.Balanced ceilings gs) {guards : Table ν Guard} (hgs : ∀ g ∈ guards.values, g ∈ gs) :
    ∀ g ∈ guards.values, ∀ s ∈ g.scopes, (m.usage? s).isSome :=
  fun g hg _ hs => hb.isSome_usage? (hgs g hg) hs

variable [DecidableEq ν]

/-- The answer to a step; collections are left out. -/
def answer? (h : Holdings ν) : Step ν → Option Answer
  | .openConnection name direction usesFd =>
    some (.opened (h.openConnection name direction usesFd).1)
  | .assignPeer name peer => some (.assigned (h.assignPeer name peer).1)
  | .reserveStream name peer protocol direction memory =>
    some (.reserved (h.reserveStream name peer protocol direction memory).1)
  | .drop name => some (.dropped (h.drop name).1)
  | .collect => none
  | .close => some .closed

/-- The answers to the steps of a run. -/
def answers (h : Holdings ν) : List (Step ν) → List Answer
  | [] => []
  | step :: rest => (h.answer? step).toList ++ (h.perform step).answers rest

/-- The same guards, over managers of which the second may lack idle scopes. -/
structure Thinned (h h' : Holdings ν) : Prop where
  guards : h'.guards = h.guards
  manager : h.manager.Thinned h'.manager

theorem thinned_keep {m m' : ResourceManager} (h : m.Thinned m') {guards : Table ν Guard}
    (hfound : ∀ g ∈ guards.values, ∀ s ∈ g.scopes, (m'.usage? s).isSome) (name : ν) (g : Guard) :
    Thinned (Holdings.keep ⟨m, guards⟩ name g) (Holdings.keep ⟨m', guards⟩ name g) := by
  unfold keep
  cases hname : guards.get? name with
  | none => exact ⟨rfl, h⟩
  | some old =>
    exact ⟨rfl, h.dischargeAll (hfound old (Table.mem_values_of_get? hname)) old.amount⟩

/-- A step that collects nothing is answered alike, and leads to holdings that still differ by idle
scopes only. -/
theorem thinned_perform (ht : Thinned h h') (hb : Balanced ceilings elsewhere h') {step : Step ν}
    (hstep : step.collects = false) :
    h'.answer? step = h.answer? step ∧ Thinned (h.perform step) (h'.perform step) := by
  obtain ⟨m, guards⟩ := h
  obtain ⟨m', guards'⟩ := h'
  obtain ⟨hguards, hm⟩ := ht
  cases (hguards : guards' = guards)
  replace hm : m.Thinned m' := hm
  replace hb : m'.Balanced ceilings (guards.values ++ elsewhere) := hb
  have hheld : ∀ g ∈ guards.values, g ∈ guards.values ++ elsewhere := fun g hg =>
    List.mem_append_left elsewhere hg
  cases step with
  | openConnection name direction usesFd =>
    obtain ⟨answer, n, n', heq, heq', hn⟩ := (hm.openConnection direction usesFd).exists_eq
    simp only [answer?, perform, Holdings.openConnection, heq, heq']
    cases answer with
    | error e => exact ⟨rfl, rfl, hn⟩
    | ok c =>
      refine ⟨rfl, thinned_keep hn ?_ name _⟩
      rcases hb.openConnection direction usesFd with
        ⟨c', n'', heq'', -, hafter⟩ | ⟨e, n'', heq'', -⟩
      · cases heq'.symm.trans heq''
        exact isSome_usage?_of_balanced hafter fun g hg => List.mem_cons_of_mem _ (hheld g hg)
      · cases heq'.symm.trans heq''
  | assignPeer name peer =>
    have hconnection : connection? ⟨m', guards⟩ name = connection? ⟨m, guards⟩ name := rfl
    simp only [answer?, perform, Holdings.assignPeer, hconnection]
    cases connection? ⟨m, guards⟩ name with
    | none => exact ⟨rfl, rfl, hm⟩
    | some c =>
      obtain ⟨answer, n, n', heq, heq', hn⟩ := (hm.assignPeer c peer).exists_eq
      simp only [heq, heq']
      cases answer with
      | error e => exact ⟨rfl, rfl, hn⟩
      | ok c' => exact ⟨rfl, rfl, hn⟩
  | reserveStream name peer protocol direction memory =>
    obtain ⟨answer, n, n', heq, heq', hn⟩ :=
      (hm.reserveStream peer protocol direction memory).exists_eq
    simp only [answer?, perform, Holdings.reserveStream, heq, heq']
    cases answer with
    | error e => exact ⟨rfl, rfl, hn⟩
    | ok g =>
      refine ⟨rfl, thinned_keep hn ?_ name _⟩
      rcases hb.reserveStream peer protocol direction memory with
        ⟨n'', heq'', hafter⟩ | ⟨e, n'', heq'', -⟩
      · cases heq'.symm.trans heq''
        exact isSome_usage?_of_balanced hafter fun g hg => List.mem_cons_of_mem _ (hheld g hg)
      · cases heq'.symm.trans heq''
  | drop name =>
    simp only [answer?, perform, Holdings.drop]
    cases hname : guards.get? name with
    | none => exact ⟨rfl, rfl, hm⟩
    | some g =>
      have hfound := isSome_usage?_of_balanced hb hheld g (Table.mem_values_of_get? hname)
      exact ⟨rfl, rfl, hm.dischargeAll hfound g.amount⟩
  | collect => cases hstep
  | close =>
    refine ⟨rfl, rfl, ⟨fun s => ?_, hm.ceilings, rfl⟩, fun s hs => ?_, hm.blocked⟩
    · have husage := hm.usage s
      cases s <;> exact husage
    · have hfound := hm.found s
      cases s <;> exact hfound hs

/-- A run that collects now and then, and the same run without it. -/
theorem thinned_run (ht : Thinned h h') (hb : Balanced ceilings elsewhere h')
    (steps : List (Step ν)) :
    let plain := steps.filter fun step => !step.collects
    h'.answers steps = h.answers plain ∧ Thinned (h.run plain) (h'.run steps) := by
  induction steps generalizing h h' with
  | nil => exact ⟨rfl, ht⟩
  | cons step rest ih =>
    have hafter := balanced_perform hb step
    cases hstep : step.collects with
    | true =>
      have hcollect : step = .collect := Step.eq_collect_of_collects hstep
      have hstill : Thinned h (h'.perform step) := by
        rw [hcollect]
        exact ⟨ht.guards, ht.manager.trans (ResourceManager.thinned_collect h'.manager)⟩
      have hskip : (step :: rest).filter (fun step => !step.collects) =
          rest.filter fun step => !step.collects := List.filter_cons_of_neg (by simp [hstep])
      have hsilent : h'.answer? step = none := by
        rw [hcollect]
        rfl
      dsimp only
      rw [hskip, answers, hsilent]
      exact ih hstill hafter
    | false =>
      obtain ⟨hanswer, hstill⟩ := thinned_perform ht hb hstep
      obtain ⟨hanswers, hrun⟩ := ih hstill hafter
      have hkeep : (step :: rest).filter (fun step => !step.collects) =
          step :: rest.filter fun step => !step.collects :=
        List.filter_cons_of_pos (by simp [hstep])
      dsimp only
      rw [hkeep, answers, answers, hanswer, hanswers]
      exact ⟨rfl, hrun⟩

/-! ## Refused requests -/

/-- A refused request changes no usage and no guard. -/
theorem sameUsage_of_refused {step : Step ν} {answer : Answer}
    (hanswer : h.answer? step = some answer) (hrefused : answer.refuses = true) :
    h.manager.SameUsage (h.perform step).manager ∧ (h.perform step).guards = h.guards := by
  cases step with
  | openConnection name direction usesFd =>
    obtain rfl := Option.some.inj hanswer
    simp only [Holdings.openConnection] at hrefused
    simp only [perform, Holdings.openConnection]
    rcases h.manager.openConnection_cases direction usesFd with
      ⟨-, heq⟩ | ⟨-, r, -, heq⟩ | ⟨-, -, m', heq, -⟩ | ⟨-, -, m', k, r, heq, hm⟩
    · rw [heq]
      exact ⟨.refl _, rfl⟩
    · rw [heq]
      exact ⟨ResourceManager.sameUsage_recordRefusal .., rfl⟩
    · rw [heq] at hrefused
      cases hrefused
    · rw [heq]
      exact ⟨hm.same, rfl⟩
  | assignPeer name peer =>
    obtain rfl := Option.some.inj hanswer
    simp only [Holdings.assignPeer] at hrefused
    simp only [perform, Holdings.assignPeer]
    cases hname : h.connection? name with
    | none =>
      rw [hname] at hrefused
      cases hrefused
    | some c =>
      rw [hname] at hrefused
      dsimp only at hrefused ⊢
      rcases h.manager.assignPeer_cases c peer with
        ⟨-, heq⟩ | ⟨-, m', heq, -⟩ | ⟨-, m', r, heq, -, hm, -⟩
      · rw [heq] at hrefused
        cases hrefused
      · rw [heq] at hrefused
        cases hrefused
      · rw [heq]
        exact ⟨hm, rfl⟩
  | reserveStream name peer protocol direction memory =>
    obtain rfl := Option.some.inj hanswer
    simp only [Holdings.reserveStream] at hrefused
    simp only [perform, Holdings.reserveStream]
    rcases h.manager.reserveStream_cases peer protocol direction memory with
      ⟨-, heq⟩ | ⟨-, m', heq, -⟩ | ⟨-, m', k, r, heq, hm⟩
    · rw [heq]
      exact ⟨ResourceManager.sameUsage_named .., rfl⟩
    · rw [heq] at hrefused
      cases hrefused
    · rw [heq]
      exact ⟨hm.same, rfl⟩
  | drop name =>
    obtain rfl := Option.some.inj hanswer
    cases hrefused
  | collect => cases hanswer
  | close =>
    obtain rfl := Option.some.inj hanswer
    cases hrefused

/-- A collection after a refused request finds the same scopes as one without the request. -/
theorem usage?_collect_of_refused {step : Step ν} {answer : Answer}
    (hanswer : h.answer? step = some answer) (hrefused : answer.refuses = true) (s : ScopeName) :
    (h.perform step).collect.2.manager.usage? s = h.collect.2.manager.usage? s := by
  obtain ⟨hsame, -⟩ := sameUsage_of_refused hanswer hrefused
  show (h.perform step).manager.collect.2.usage? s = h.manager.collect.2.usage? s
  rw [ResourceManager.usage?_collect, ResourceManager.usage?_collect, hsame.usage]

/-! ## Runs -/

/-- Collections are transparent.  A run that collects at any points gives the answers of the same
run without collections, keeps the same guards, and counts the same refusals.  Every scope has the
same usage, and the same state unless no live guard belongs to it; then it may be absent, where the
run without collections has it at zero.

One more collection drops exactly the scopes of peers and protocols to which no live guard belongs,
answers their number, and leaves nothing for the next one.  After a refused request it leaves the
same scopes as without that request. -/
theorem run_collects (ceilings : Ceilings) (steps : List (Step ν)) :
    let start : Holdings ν := .ofCeilings ceilings
    let plain := steps.filter fun step => !step.collects
    let h := start.run steps
    let h' := start.run plain
    start.answers steps = start.answers plain ∧ h.guards = h'.guards ∧
    h.manager.closed = h'.manager.closed ∧ h.manager.blocked = h'.manager.blocked ∧
    (∀ s, h.manager.usage s = h'.manager.usage s) ∧
    (∀ s, h.manager.usage? s = h'.manager.usage? s ∨
      h.guardsOf s = [] ∧ h.manager.usage? s = none ∧ h'.manager.usage? s = some .zero) ∧
    h.Collects h.collect ∧
    (∀ step answer, h.answer? step = some answer → answer.refuses = true →
      ∀ s, (h.perform step).collect.2.manager.usage? s = h.collect.2.manager.usage? s) := by
  intro start plain h h'
  have hstart : Balanced ceilings [] start := balanced_ofCeilings ceilings
  obtain ⟨hanswers, hthinned⟩ := thinned_run ⟨rfl, .refl _⟩ hstart steps
  have hrun : Balanced ceilings [] h := balanced_run hstart steps
  have hb : h.manager.Balanced ceilings h.guards.values := by
    rwa [Balanced, List.append_nil] at hrun
  refine ⟨hanswers, hthinned.guards, hthinned.manager.closed, hthinned.manager.blocked,
    hthinned.manager.usage, fun s => ?_, collects_collect hb,
    fun step answer hanswer hrefused => usage?_collect_of_refused hanswer hrefused⟩
  refine (hthinned.manager.usage?_eq (hthinned.manager.found s)).imp_right
    fun habsent => ⟨?_, habsent⟩
  rw [← usage_eq_zero_iff hb, ResourceManager.usage, habsent.1]
  rfl

end Holdings

end CircuitRelay
