import CircuitRelay.Proofs.Resource.Checked

/-!
# Usage is what the live guards took

A run opens connections, gives them peers, reserves streams, drops guards, collects idle scopes and
closes the manager, in any order; requests that are refused are part of it.  After every run the
guards that are kept account for all usage.  The books also balance when another holder has guards
of the same manager.

* `balanced_perform`: one step keeps the books.
* `guards_perform`: which guards are held after a step.
* `within_lowered`: a step takes no counter below zero; `perform?_eq`: the step with checks.
* `balanced_run`: a run keeps the books.
* `run_accounts`: what the books say about every scope, resource by resource.
-/

namespace CircuitRelay

/-- Whether a scope counts a guard: the system counts all of them, the transient scope connections
without a peer, a peer its connections and its streams, a protocol its streams. -/
def Guard.belongsTo : Guard → ScopeName → Bool
  | _, .system => true
  | .connection c, .transient => c.peer = none
  | .stream _, .transient => false
  | .connection c, .peer p => c.peer = some p
  | .stream s, .peer p => s.peer = p
  | .connection _, .protocol _ => false
  | .stream s, .protocol q => s.protocol = q

theorem Guard.belongsTo_iff {g : Guard} {s : ScopeName} :
    g.belongsTo s = true ↔ s ∈ g.scopes := by
  cases g with
  | connection c =>
    obtain ⟨amount, peer⟩ := c
    cases peer <;> cases s <;>
      simp [belongsTo, scopes, ConnectionGuard.scopes, eq_comm]
  | stream g => cases s <;> simp [belongsTo, scopes, StreamGuard.scopes, eq_comm]

/-- The guards that do not belong to a scope take nothing of it. -/
theorem Guard.total_eq_sum_filter (gs : List Guard) (s : ScopeName) (r : Resource) :
    total gs s r = ((gs.filter (·.belongsTo s)).map fun g => g.amount.get r).sum := by
  induction gs with
  | nil => rfl
  | cons g gs ih =>
    rw [total_cons, ih]
    by_cases h : g.belongsTo s = true
    · have hfilter : (g :: gs).filter (·.belongsTo s) = g :: gs.filter (·.belongsTo s) :=
        List.filter_cons_of_pos h
      rw [hfilter, List.map_cons, List.sum_cons, takes_of_mem (belongsTo_iff.mp h)]
    · have hfilter : (g :: gs).filter (·.belongsTo s) = gs.filter (·.belongsTo s) :=
        List.filter_cons_of_neg h
      rw [hfilter, takes_of_not_mem fun hs => h (belongsTo_iff.mpr hs), Amounts.get_zero,
        Nat.zero_add]

/-- Resources that add up in every guard add up in every scope. -/
theorem Guard.total_add {gs : List Guard} {r r₁ r₂ : Resource}
    (h : ∀ g ∈ gs, g.amount.get r = g.amount.get r₁ + g.amount.get r₂) (s : ScopeName) :
    total gs s r = total gs s r₁ + total gs s r₂ := by
  induction gs with
  | nil => rfl
  | cons g gs ih =>
    have hg : (g.takes s).get r = (g.takes s).get r₁ + (g.takes s).get r₂ := by
      by_cases hs : s ∈ g.scopes
      · rw [takes_of_mem hs]
        exact h g (List.mem_cons_self ..)
      · rw [takes_of_not_mem hs, Amounts.get_zero, Amounts.get_zero, Amounts.get_zero]
    rw [total_cons, total_cons, total_cons, hg, ih fun g' hg' => h g' (List.mem_cons_of_mem g hg')]
    omega

namespace Holdings

variable {ν : Type} [DecidableEq ν] {ceilings : Ceilings} {elsewhere : List Guard}

/-- Whatever a holder of guards can do. -/
inductive Step (ν : Type) where
  | openConnection (name : ν) (direction : Direction) (usesFd : Bool)
  | assignPeer (name : ν) (peer : PeerId)
  | reserveStream (name : ν) (peer : PeerId) (protocol : String) (direction : Direction)
    (memory : Nat)
  | drop (name : ν)
  | collect
  | close

/-- The holdings after a step. -/
def perform (h : Holdings ν) : Step ν → Holdings ν
  | .openConnection name direction usesFd => (h.openConnection name direction usesFd).2
  | .assignPeer name peer => (h.assignPeer name peer).2
  | .reserveStream name peer protocol direction memory =>
    (h.reserveStream name peer protocol direction memory).2
  | .drop name => (h.drop name).2
  | .collect => h.collect.2
  | .close => h.close

/-- The holdings after a run. -/
def run (h : Holdings ν) (steps : List (Step ν)) : Holdings ν := steps.foldl perform h

/-- The books of the manager balance against the guards that are held here, and those that are held
elsewhere. -/
def Balanced (ceilings : Ceilings) (elsewhere : List Guard) (h : Holdings ν) : Prop :=
  h.manager.Balanced ceilings (h.guards.values ++ elsewhere)

/-! ## One step -/

/-- A new guard is kept, and the one it replaces is released. -/
theorem balanced_keep {m : ResourceManager} {guards : Table ν Guard} {g : Guard}
    (h : m.Balanced ceilings (g :: (guards.values ++ elsewhere))) (name : ν) :
    Balanced ceilings elsewhere (Holdings.keep ⟨m, guards⟩ name g) := by
  have hkept : (g :: ((guards.erase name).values ++ elsewhere)).Perm
      ((guards.insert name g).values ++ elsewhere) :=
    ((Table.values_insert_perm guards name g).append_right elsewhere).symm
  unfold keep
  cases hg : guards.get? name with
  | none =>
    rw [Table.erase_eq_self hg] at hkept
    exact h.perm hkept
  | some old =>
    have hold : (g :: (guards.values ++ elsewhere)).Perm
        (old :: g :: ((guards.erase name).values ++ elsewhere)) :=
      (((Table.values_perm_of_get? hg).append_right elsewhere).cons g).trans (.swap _ _ _)
    exact (h.perm hold).releaseIn.perm hkept

theorem balanced_perform {h : Holdings ν} (hb : Balanced ceilings elsewhere h) (step : Step ν) :
    Balanced ceilings elsewhere (h.perform step) := by
  cases step with
  | openConnection name direction usesFd =>
    show Balanced ceilings elsewhere (h.openConnection name direction usesFd).2
    unfold Holdings.openConnection
    rcases ResourceManager.Balanced.openConnection hb direction usesFd with
      ⟨c, m', heq, -, hm⟩ | ⟨e, m', heq, hm⟩
    · rw [heq]
      exact balanced_keep hm name
    · rw [heq]
      exact hm
  | assignPeer name peer =>
    show Balanced ceilings elsewhere (h.assignPeer name peer).2
    unfold Holdings.assignPeer connection?
    cases hg : h.guards.get? name with
    | none => exact hb
    | some g =>
      cases g with
      | stream g => exact hb
      | connection c =>
        have hperm : (h.guards.values ++ elsewhere).Perm
            (.connection c :: ((h.guards.erase name).values ++ elsewhere)) :=
          (Table.values_perm_of_get? hg).append_right elsewhere
        have hc : h.manager.Balanced ceilings
            (.connection c :: ((h.guards.erase name).values ++ elsewhere)) :=
          ResourceManager.Balanced.perm hb hperm
        rcases hc.assignPeer peer with ⟨c', m', heq, -, hm⟩ | ⟨e, m', heq, hm⟩
        · simp only [heq]
          exact hm.perm ((Table.values_insert_perm h.guards name _).append_right elsewhere).symm
        · simp only [heq]
          exact hm.perm hperm.symm
  | reserveStream name peer protocol direction memory =>
    show Balanced ceilings elsewhere (h.reserveStream name peer protocol direction memory).2
    unfold Holdings.reserveStream
    rcases ResourceManager.Balanced.reserveStream hb peer protocol direction memory with
      ⟨m', heq, hm⟩ | ⟨e, m', heq, hm⟩
    · rw [heq]
      exact balanced_keep hm name
    · rw [heq]
      exact hm
  | drop name =>
    show Balanced ceilings elsewhere (h.drop name).2
    unfold Holdings.drop
    cases hg : h.guards.get? name with
    | none => exact hb
    | some g =>
      have hperm := (Table.values_perm_of_get? hg).append_right elsewhere
      exact (ResourceManager.Balanced.perm hb hperm).releaseIn
  | collect => exact ResourceManager.Balanced.collect hb
  | close => exact ResourceManager.Balanced.close hb

theorem guards_keep (h : Holdings ν) (name : ν) (g : Guard) :
    (h.keep name g).guards = h.guards.insert name g := by
  unfold keep
  split
  · rfl
  · rfl

theorem mem_values_of_connection? {h : Holdings ν} {name : ν} {c : ConnectionGuard}
    (hc : h.connection? name = some c) : Guard.connection c ∈ h.guards.values := by
  unfold connection? at hc
  split at hc
  · rename_i g hg
    obtain rfl := Option.some.inj hc
    exact Table.mem_values_of_get? hg
  · cases hc

/-- The guards after a step, by its answer.  An accepted request puts its guard under its name, a
refused one leaves the guards alone; a connection keeps the first peer that it was given. -/
def kept (h : Holdings ν) : Step ν → Table ν Guard
  | .openConnection name direction usesFd =>
    match (h.openConnection name direction usesFd).1 with
    | .ok _ => h.guards.insert name (.connection ⟨.connection direction usesFd, none⟩)
    | .error _ => h.guards
  | .assignPeer name peer =>
    match h.connection? name, (h.assignPeer name peer).1 with
    | some c, some (.ok _) =>
      h.guards.insert name (.connection { c with peer := some (c.peer.getD peer) })
    | _, _ => h.guards
  | .reserveStream name peer protocol direction memory =>
    match (h.reserveStream name peer protocol direction memory).1 with
    | .ok _ => h.guards.insert name (.stream ⟨.stream direction memory, peer, protocol⟩)
    | .error _ => h.guards
  | .drop name => h.guards.erase name
  | .collect | .close => h.guards

theorem guards_perform (h : Holdings ν) (step : Step ν) :
    (h.perform step).guards = h.kept step := by
  cases step with
  | openConnection name direction usesFd =>
    show (h.openConnection name direction usesFd).2.guards = _
    unfold kept Holdings.openConnection
    dsimp only
    rcases h.manager.openConnection_cases direction usesFd with
      ⟨-, heq⟩ | ⟨-, r, -, heq⟩ | ⟨-, -, m', heq, -⟩ | ⟨-, -, m', k, r, heq, -⟩
    · rw [heq]
    · rw [heq]
    · rw [heq]
      exact guards_keep _ name _
    · rw [heq]
  | assignPeer name peer =>
    show (h.assignPeer name peer).2.guards = _
    unfold kept Holdings.assignPeer
    dsimp only
    cases hc : h.connection? name with
    | none => rfl
    | some c =>
      dsimp only
      rcases h.manager.assignPeer_cases c peer with
        ⟨hpeer, heq⟩ | ⟨hpeer, m', heq, -⟩ | ⟨-, m', r, heq, -⟩
      · obtain ⟨p, hp⟩ := Option.ne_none_iff_exists'.mp hpeer
        rw [heq]
        dsimp only
        rw [hp, Option.getD_some, ← hp]
      · rw [heq]
        dsimp only
        rw [hpeer, Option.getD_none]
      · rw [heq]
  | reserveStream name peer protocol direction memory =>
    show (h.reserveStream name peer protocol direction memory).2.guards = _
    unfold kept Holdings.reserveStream
    dsimp only
    rcases h.manager.reserveStream_cases peer protocol direction memory with
      ⟨-, heq⟩ | ⟨-, m', heq, -⟩ | ⟨-, m', k, r, heq, -⟩
    · rw [heq]
    · rw [heq]
      exact guards_keep _ name _
    · rw [heq]
  | drop name =>
    show (h.drop name).2.guards = h.guards.erase name
    unfold Holdings.drop
    cases hname : h.guards.get? name with
    | none => exact (Table.erase_eq_self hname).symm
    | some g => rfl
  | collect => rfl
  | close => rfl

/-- A guard that is held after a step was held before, or the step made it: it is a new connection,
one that got its peer, or a new stream. -/
theorem mem_values_perform {h : Holdings ν} {step : Step ν} {g : Guard}
    (hg : g ∈ (h.perform step).guards.values) :
    g ∈ h.guards.values ∨
    (∃ name direction usesFd, step = .openConnection name direction usesFd ∧
      g = .connection ⟨.connection direction usesFd, none⟩) ∨
    (∃ c peer, .connection c ∈ h.guards.values ∧ g = .connection { c with peer := some peer }) ∨
    ∃ name peer protocol direction memory,
      step = .reserveStream name peer protocol direction memory ∧
        g = .stream ⟨.stream direction memory, peer, protocol⟩ := by
  rw [guards_perform] at hg
  cases step with
  | openConnection name direction usesFd =>
    rw [kept] at hg
    split at hg
    · rcases Table.mem_values_insert hg with rfl | hold
      · exact .inr (.inl ⟨name, direction, usesFd, rfl, rfl⟩)
      · exact .inl hold
    · exact .inl hg
  | assignPeer name peer =>
    rw [kept] at hg
    split at hg
    · rename_i c answer hc hanswer
      rcases Table.mem_values_insert hg with rfl | hold
      · exact .inr (.inr (.inl ⟨c, _, mem_values_of_connection? hc, rfl⟩))
      · exact .inl hold
    · exact .inl hg
  | reserveStream name peer protocol direction memory =>
    rw [kept] at hg
    split at hg
    · rcases Table.mem_values_insert hg with rfl | hold
      · exact .inr (.inr (.inr ⟨name, peer, protocol, direction, memory, rfl, rfl⟩))
      · exact .inl hold
    · exact .inl hg
  | drop name => exact .inl (Table.mem_values_of_mem_erase hg)
  | collect => exact .inl hg
  | close => exact .inl hg

/-- What giving up the guard of a name lowers, in a given manager. -/
def loweredByName (h : Holdings ν) (m : ResourceManager) (name : ν) : List Lowering :=
  (h.guards.get? name).toList.flatMap fun g => m.loweredIn g.amount g.scopes

/-- Every counter that a step lowers, in the order in which it does.  A request that succeeds gives
up the guard that had the name. -/
def lowered (h : Holdings ν) : Step ν → List Lowering
  | .openConnection name direction usesFd =>
    h.manager.loweredByOpen direction usesFd ++
      match h.manager.openConnection direction usesFd with
      | (.ok _, m) => h.loweredByName m name
      | (.error _, _) => []
  | .assignPeer name peer =>
    (h.connection? name).toList.flatMap fun c => h.manager.loweredByAssign c peer
  | .reserveStream name peer protocol direction memory =>
    h.manager.loweredByReserve peer protocol direction memory ++
      match h.manager.reserveStream peer protocol direction memory with
      | (.ok _, m) => h.loweredByName m name
      | (.error _, _) => []
  | .drop name => h.loweredByName h.manager name
  | .collect | .close => []

theorem within_loweredByName {h : Holdings ν} {m : ResourceManager} {gs : List Guard}
    (hb : m.Balanced ceilings gs) (hgs : ∀ g ∈ h.guards.values, g ∈ gs) (name : ν) :
    Within (h.loweredByName m name) := by
  unfold loweredByName
  cases hg : h.guards.get? name with
  | none => exact within_nil
  | some g =>
    rw [Option.toList_some, List.flatMap_singleton]
    exact hb.within_loweredIn (hgs g (Table.mem_values_of_get? hg))

theorem within_lowered {h : Holdings ν} (hb : Balanced ceilings elsewhere h) (step : Step ν) :
    Within (h.lowered step) := by
  have hgs : ∀ g ∈ h.guards.values, g ∈ h.guards.values ++ elsewhere := fun g hg =>
    List.mem_append_left elsewhere hg
  cases step with
  | openConnection name direction usesFd =>
    refine (ResourceManager.within_loweredByOpen _ direction usesFd).append ?_
    rcases ResourceManager.Balanced.openConnection hb direction usesFd with
      ⟨c, m', heq, -, hm⟩ | ⟨e, m', heq, hm⟩
    · rw [heq]
      exact within_loweredByName hm (fun g hg => List.mem_cons_of_mem _ (hgs g hg)) name
    · rw [heq]
      exact within_nil
  | assignPeer name peer =>
    show Within ((h.connection? name).toList.flatMap _)
    cases hc : h.connection? name with
    | none => exact within_nil
    | some c =>
      rw [Option.toList_some, List.flatMap_singleton]
      exact ResourceManager.Balanced.within_loweredByAssign hb
        (hgs _ (mem_values_of_connection? hc)) peer
  | reserveStream name peer protocol direction memory =>
    refine (ResourceManager.within_loweredByReserve _ peer protocol direction memory).append ?_
    rcases ResourceManager.Balanced.reserveStream hb peer protocol direction memory with
      ⟨m', heq, hm⟩ | ⟨e, m', heq, hm⟩
    · rw [heq]
      exact within_loweredByName hm (fun g hg => List.mem_cons_of_mem _ (hgs g hg)) name
    · rw [heq]
      exact within_nil
  | drop name => exact within_loweredByName hb hgs name
  | collect => exact within_nil
  | close => exact within_nil

/-! ## One step with checks -/

/-- `keep` with checks. -/
def keep? (h : Holdings ν) (name : ν) (g : Guard) : Option (Holdings ν) :=
  match h.guards.get? name with
  | none => some { h with guards := h.guards.insert name g }
  | some old => (h.manager.dischargeAll? old.amount old.scopes).map fun m =>
    ⟨m, h.guards.insert name g⟩

/-- The holdings after a step that lowers no counter by more than it counts. -/
def perform? (h : Holdings ν) : Step ν → Option (Holdings ν)
  | .openConnection name direction usesFd =>
    (h.manager.openConnection? direction usesFd).bind fun
      | (.ok g, m) => Holdings.keep? { h with manager := m } name (.connection g)
      | (.error _, m) => some { h with manager := m }
  | .assignPeer name peer =>
    match h.connection? name with
    | none => some h
    | some g => (h.manager.assignPeer? g peer).map fun
      | (.ok g, m) => ⟨m, h.guards.insert name (.connection g)⟩
      | (.error _, m) => { h with manager := m }
  | .reserveStream name peer protocol direction memory =>
    (h.manager.reserveStream? peer protocol direction memory).bind fun
      | (.ok g, m) => Holdings.keep? { h with manager := m } name (.stream g)
      | (.error _, m) => some { h with manager := m }
  | .drop name =>
    match h.guards.get? name with
    | none => some h
    | some g => (h.manager.dischargeAll? g.amount g.scopes).map fun m => ⟨m, h.guards.erase name⟩
  | .collect => some h.collect.2
  | .close => some h.close

theorem keep?_eq (h : Holdings ν) (m : ResourceManager) (name : ν) (g : Guard) :
    Holdings.keep? { h with manager := m } name g =
      ifWithin (h.loweredByName m name) (Holdings.keep { h with manager := m } name g) := by
  unfold keep? keep loweredByName
  dsimp only
  cases h.guards.get? name with
  | none => exact (ifWithin_nil _).symm
  | some old =>
    dsimp only
    rw [ResourceManager.dischargeAll?_eq, map_ifWithin, Option.toList_some, List.flatMap_singleton]
    rfl

/-- The counters that a step lowers are those of its list: with checks it has a result exactly when
none of these goes below zero, and then the same one. -/
theorem perform?_eq (h : Holdings ν) (step : Step ν) :
    h.perform? step = ifWithin (h.lowered step) (h.perform step) := by
  cases step with
  | openConnection name direction usesFd =>
    unfold perform? lowered perform Holdings.openConnection
    dsimp only
    rw [ResourceManager.openConnection?_eq]
    apply bind_ifWithin
    rcases h.manager.openConnection direction usesFd with ⟨e | g, m⟩
    · exact (ifWithin_nil _).symm
    · exact h.keep?_eq m name _
  | assignPeer name peer =>
    unfold perform? lowered perform Holdings.assignPeer
    dsimp only
    cases h.connection? name with
    | none => exact (ifWithin_nil _).symm
    | some c =>
      dsimp only
      rw [ResourceManager.assignPeer?_eq, map_ifWithin, Option.toList_some, List.flatMap_singleton]
      rcases h.manager.assignPeer c peer with ⟨e | g, m⟩
      · rfl
      · rfl
  | reserveStream name peer protocol direction memory =>
    unfold perform? lowered perform Holdings.reserveStream
    dsimp only
    rw [ResourceManager.reserveStream?_eq]
    apply bind_ifWithin
    rcases h.manager.reserveStream peer protocol direction memory with ⟨e | g, m⟩
    · exact (ifWithin_nil _).symm
    · exact h.keep?_eq m name _
  | drop name =>
    unfold perform? lowered perform Holdings.drop loweredByName
    dsimp only
    cases h.guards.get? name with
    | none => exact (ifWithin_nil _).symm
    | some g =>
      dsimp only
      rw [ResourceManager.dischargeAll?_eq, map_ifWithin, Option.toList_some,
        List.flatMap_singleton]
      rfl
  | collect => exact (ifWithin_nil _).symm
  | close => exact (ifWithin_nil _).symm

/-! ## A run -/

omit [DecidableEq ν] in
theorem balanced_ofCeilings (ceilings : Ceilings) :
    Balanced ceilings [] (Holdings.ofCeilings ceilings : Holdings ν) :=
  ResourceManager.balanced_ofCeilings ceilings

theorem balanced_run {h : Holdings ν} (hb : Balanced ceilings elsewhere h) (steps : List (Step ν)) :
    Balanced ceilings elsewhere (h.run steps) := by
  induction steps generalizing h with
  | nil => exact hb
  | cons step steps ih => exact ih (balanced_perform hb step)

/-- The live guards that a scope counts. -/
def guardsOf (h : Holdings ν) (s : ScopeName) : List Guard :=
  h.guards.values.filter (·.belongsTo s)

omit [DecidableEq ν] in
/-- When the books balance, a scope counts what the live guards that belong to it took. -/
theorem get_usage_eq_sum {h : Holdings ν}
    (hb : h.manager.Balanced ceilings h.guards.values) (s : ScopeName) (r : Resource) :
    (h.manager.usage s).get r = ((h.guardsOf s).map fun g => g.amount.get r).sum := by
  rw [hb.usage_eq, Guard.total_eq_sum_filter]
  rfl

/-- After any run, every scope counts exactly what the live guards that belong to it took, resource
by resource, and no more than its ceiling allows; the connection's own scope never counts anything
but its one connection.  Inbound and outbound ones add up.  No counter is taken below zero, whatever
is done next: with a check of every counter that it lowers the step is the same.  The live guards
are those of the accepted requests, without the ones that were dropped, and without live guards
nothing is counted. -/
theorem run_accounts (ceilings : Ceilings) (steps : List (Step ν)) :
    let h := (Holdings.ofCeilings ceilings).run steps
    (∀ s r, (h.manager.usage s).get r = ((h.guardsOf s).map fun g => g.amount.get r).sum) ∧
    (∀ s r, ((h.guardsOf s).map fun g => g.amount.get r).sum ≤ (ceilings.get s.kind).get r) ∧
    (∀ name c, h.guards.get? name = some (.connection c) →
      ∀ r, c.amount.get r ≤ ceilings.connection.get r) ∧
    (∀ s, (h.manager.usage s).get .conns =
        (h.manager.usage s).get .connsInbound + (h.manager.usage s).get .connsOutbound ∧
      (h.manager.usage s).get .streams =
        (h.manager.usage s).get .streamsInbound + (h.manager.usage s).get .streamsOutbound) ∧
    (∀ step, Within (h.lowered step) ∧ h.perform? step = some (h.perform step)) ∧
    (∀ step, (h.perform step).guards = h.kept step) ∧
    (∀ name, (h.perform (.drop name)).guards.get? name = none) ∧
    (h.guards.size = 0 → ∀ s, h.manager.usage s = .zero) := by
  intro h
  have hrun : Balanced ceilings [] h := balanced_run (balanced_ofCeilings ceilings) steps
  have hb : h.manager.Balanced ceilings h.guards.values := by
    rwa [Balanced, List.append_nil] at hrun
  have hsum : ∀ s r, (h.manager.usage s).get r =
      ((h.guardsOf s).map fun g => g.amount.get r).sum := get_usage_eq_sum hb
  refine ⟨hsum, fun s r => ?_, fun name c hc r => ?_, fun s => ⟨?_, ?_⟩,
    fun step => ⟨within_lowered hrun step, ?_⟩, guards_perform h, fun name => ?_,
    fun hsize s => ?_⟩
  · rw [← hsum]
    exact hb.le_ceiling s r
  · exact hb.own c (Table.mem_values_of_get? hc) r
  · rw [hb.usage_eq, hb.usage_eq, hb.usage_eq]
    exact Guard.total_add (fun g hg => (hb.isCharge g hg).conns) s
  · rw [hb.usage_eq, hb.usage_eq, hb.usage_eq]
    exact Guard.total_add (fun g hg => (hb.isCharge g hg).streams) s
  · rw [perform?_eq, ifWithin_of_within (within_lowered hrun step)]
  · rw [guards_perform]
    exact (Table.get?_erase h.guards name name).trans (if_pos rfl)
  · have hnil : h.guards.values = [] := by
      rw [Table.values, List.eq_nil_of_length_eq_zero hsize, List.map_nil]
    apply Amounts.ext_get
    intro r
    rw [hb.usage_eq, hnil, Guard.total_nil, Amounts.get_zero]

end Holdings

end CircuitRelay
