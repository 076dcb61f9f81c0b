import CircuitRelay.Proofs.Resource.Lowering

/-!
# Walks with checked counters

The lists of lowerings stand beside the walks that they speak of.  To see that they name the
counters that the walks lower, the walks are made once more, the same ones but for the step that
lowers a counter: it has no result when the counter counts too little, and then the whole walk has
none.

Such a walk has a result exactly when no lowering on its list goes below zero, and then it is the
result of the walk without checks.

* `ifWithin l a`: a value, if no lowering of a list goes below zero.
* `Resource.lower?`: the step with the check, the only place where a walk can fail.
* `Amounts.takeEach?_eq`, `chargeChain?_eq`, `dischargeAll?_eq`: the loops.
* `openConnection?_eq`, `reserveStream?_eq`, `assignPeer?_eq`: the requests.
-/

namespace CircuitRelay

/-! ## Values behind a check -/

section Checks

variable {α β : Type} {l l' : List Lowering}

instance (l : List Lowering) : Decidable (Within l) :=
  inferInstanceAs (Decidable (∀ x ∈ l, x.amount ≤ x.used))

/-- A value, unless a lowering of a list goes below zero. -/
def ifWithin (l : List Lowering) (a : α) : Option α := if Within l then some a else none

theorem ifWithin_of_within (h : Within l) (a : α) : ifWithin l a = some a := if_pos h

theorem ifWithin_nil (a : α) : ifWithin [] a = some a := ifWithin_of_within within_nil a

theorem map_ifWithin (f : α → β) (l : List Lowering) (a : α) :
    (ifWithin l a).map f = ifWithin l (f a) := by
  unfold ifWithin
  split <;> rfl

/-- One check after the other is a check of both lists. -/
theorem bind_ifWithin {a : α} {b : β} {f : α → Option β} (hf : f a = ifWithin l' b) :
    (ifWithin l a).bind f = ifWithin (l ++ l') b := by
  by_cases h : Within l
  · rw [ifWithin_of_within h, Option.bind_some, hf]
    simp only [ifWithin, within_append_iff, h, true_and]
  · simp [ifWithin, within_append_iff, h]

end Checks

/-- Lowers a counter that counts enough. -/
def Resource.lower? (used amount : Nat) : Option Nat :=
  if amount ≤ used then some (lower used amount) else none

theorem Resource.lower?_eq (used amount : Nat) :
    lower? used amount = ifWithin [⟨used, amount⟩] (lower used amount) := by
  simp [lower?, ifWithin, Within]

namespace Amounts

variable {ceiling charge used : Amounts}

/-! ## One scope -/

/-- `giveBack` with a check. -/
def giveBack? (charge used : Amounts) (r : Resource) : Option Amounts :=
  if charge.get r = 0 then some used
  else (Resource.lower? (used.get r) (charge.get r)).map (used.set r)

/-- `release` with checks. -/
def release? (used charge : Amounts) : Option Amounts :=
  Resource.all.foldlM (giveBack? charge) used

/-- `takeEach` with checks. -/
def takeEach? (ceiling charge : Amounts) (passed : List Resource) (used : Amounts) :
    List Resource → Option (Option Resource × Amounts)
  | [] => some (none, used)
  | r :: rest =>
    if charge.get r = 0 then takeEach? ceiling charge (passed ++ [r]) used rest
    else
      let next := used.get r + charge.get r
      if next ≤ Resource.maxAmount ∧ next ≤ ceiling.get r then
        takeEach? ceiling charge (passed ++ [r]) (used.set r next) rest
      else (passed.foldlM (giveBack? charge) used).map fun back => (some r, back)

/-- `take` with checks. -/
def take? (used ceiling charge : Amounts) : Option (Option Resource × Amounts) :=
  takeEach? ceiling charge [] used Resource.all

theorem giveBack?_eq (charge used : Amounts) (r : Resource) :
    giveBack? charge used r = ifWithin [⟨used.get r, charge.get r⟩] (giveBack charge used r) := by
  unfold giveBack? giveBack
  split
  · rename_i hzero
    have hwithin : Within [⟨used.get r, charge.get r⟩] := by simp [Within, hzero]
    exact (ifWithin_of_within hwithin used).symm
  · rw [Resource.lower?_eq, map_ifWithin]

theorem foldlM_giveBack?_eq (charge used : Amounts) (l : List Resource) :
    l.foldlM (giveBack? charge) used =
      ifWithin (lowered charge used l) (l.foldl (giveBack charge) used) := by
  induction l generalizing used with
  | nil => exact (ifWithin_nil used).symm
  | cons r l ih =>
    rw [List.foldlM_cons, giveBack?_eq]
    exact bind_ifWithin (ih _)

theorem release?_eq (used charge : Amounts) :
    used.release? charge = ifWithin (lowered charge used Resource.all) (used.release charge) :=
  foldlM_giveBack?_eq charge used Resource.all

theorem takeEach?_eq (passed rest : List Resource) :
    takeEach? ceiling charge passed used rest =
      ifWithin (loweredByTake ceiling charge passed used rest)
        (takeEach ceiling charge passed used rest) := by
  induction rest generalizing passed used with
  | nil => exact (ifWithin_nil _).symm
  | cons r rest ih =>
    rw [takeEach?, loweredByTake, takeEach]
    dsimp only
    split
    · exact ih _
    · split
      · exact ih _
      · rw [foldlM_giveBack?_eq, map_ifWithin]

theorem take?_eq (used ceiling charge : Amounts) :
    used.take? ceiling charge =
      ifWithin (loweredByTake ceiling charge [] used Resource.all) (used.take ceiling charge) :=
  takeEach?_eq [] Resource.all

end Amounts

namespace ResourceManager

variable {m : ResourceManager} {amount : Amounts} {s : ScopeName}

/-! ## A chain of scopes -/

/-- `charge` with checks. -/
def charge? (amount : Amounts) (m : ResourceManager) (s : ScopeName) :
    Option (Option Resource × ResourceManager) :=
  ((m.usage s).take? (m.ceilings.get s.kind) amount).map fun taken =>
    (taken.1, m.setUsage s taken.2)

/-- `discharge` with checks. -/
def discharge? (amount : Amounts) (m : ResourceManager) (s : ScopeName) : Option ResourceManager :=
  match m.usage? s with
  | none => some m
  | some a => (a.release? amount).map (m.setUsage s)

/-- `dischargeAll` with checks. -/
def dischargeAll? (amount : Amounts) (m : ResourceManager) (chain : List ScopeName) :
    Option ResourceManager :=
  chain.foldlM (discharge? amount) m

/-- `chargeChain` with checks. -/
def chargeChain? (amount : Amounts) (charged : List ScopeName) (m : ResourceManager) :
    List ScopeName → Option (Except Refusal Unit × ResourceManager)
  | [] => some (.ok (), m)
  | s :: rest =>
    (m.charge? amount s).bind fun
      | (none, m) => chargeChain? amount (charged ++ [s]) m rest
      | (some r, m) => (m.dischargeAll? amount charged).map fun back =>
        (.error (.exceeded s.kind r), back.recordRefusal s.kind r)

/-- `chargeAll` with checks. -/
def chargeAll? (amount : Amounts) (m : ResourceManager) (chain : List ScopeName) :
    Option (Except Refusal Unit × ResourceManager) :=
  if m.closed then some (.error .closed, m) else m.chargeChain? amount [] chain

theorem charge?_eq (amount : Amounts) (m : ResourceManager) (s : ScopeName) :
    m.charge? amount s =
      ifWithin (Amounts.loweredByTake (m.ceilings.get s.kind) amount [] (m.usage s) Resource.all)
        (m.charge amount s) := by
  rw [charge?, Amounts.take?_eq, map_ifWithin]
  rfl

theorem discharge?_eq (amount : Amounts) (m : ResourceManager) (s : ScopeName) :
    m.discharge? amount s =
      ifWithin ((m.usage? s).toList.flatMap fun used => amount.lowered used Resource.all)
        (m.discharge amount s) := by
  unfold discharge? discharge
  cases m.usage? s with
  | none => exact (ifWithin_nil m).symm
  | some used =>
    dsimp only
    rw [Amounts.release?_eq, map_ifWithin, Option.toList_some, List.flatMap_singleton]

theorem dischargeAll?_eq (amount : Amounts) (m : ResourceManager) (chain : List ScopeName) :
    m.dischargeAll? amount chain =
      ifWithin (m.loweredIn amount chain) (m.dischargeAll amount chain) := by
  induction chain generalizing m with
  | nil => exact (ifWithin_nil m).symm
  | cons s chain ih =>
    rw [dischargeAll?, List.foldlM_cons, discharge?_eq]
    exact bind_ifWithin (ih _)

theorem chargeChain?_eq (charged rest : List ScopeName) :
    m.chargeChain? amount charged rest =
      ifWithin (m.loweredByCharge amount charged rest) (m.chargeChain amount charged rest) := by
  induction rest generalizing charged m with
  | nil => exact (ifWithin_nil _).symm
  | cons s rest ih =>
    rw [chargeChain?, loweredByCharge, chargeChain, charge?_eq]
    apply bind_ifWithin
    rcases m.charge amount s with ⟨_ | r, charged'⟩
    · exact ih _
    · dsimp only
      rw [dischargeAll?_eq, map_ifWithin]

theorem chargeAll?_eq (amount : Amounts) (m : ResourceManager) (chain : List ScopeName) :
    m.chargeAll? amount chain =
      ifWithin (if m.closed then [] else m.loweredByCharge amount [] chain)
        (m.chargeAll amount chain) := by
  unfold chargeAll? chargeAll
  split
  · exact (ifWithin_nil _).symm
  · exact chargeChain?_eq [] chain

/-! ## Requests -/

/-- `openConnection` with checks. -/
def openConnection? (m : ResourceManager) (direction : Direction) (usesFd : Bool) :
    Option (Except Refusal ConnectionGuard × ResourceManager) :=
  let guard : ConnectionGuard := ⟨.connection direction usesFd, none⟩
  if m.closed then some (.error .closed, m)
  else
    (Amounts.zero.take? m.ceilings.connection guard.amount).bind fun taken =>
      match taken.1 with
      | some r => some (.error (.exceeded .connection r), m.recordRefusal .connection r)
      | none => (m.chargeChain? guard.amount [] guard.scopes).map fun done =>
        done.map (·.map fun _ => guard) id

/-- `reserveStream` with checks. -/
def reserveStream? (m : ResourceManager) (peer : PeerId) (protocol : String)
    (direction : Direction) (memory : Nat) :
    Option (Except Refusal StreamGuard × ResourceManager) :=
  let guard : StreamGuard := ⟨.stream direction memory, peer, protocol⟩
  let named := (m.touch (.peer peer)).touch (.protocol protocol)
  (named.chargeAll? guard.amount guard.scopes).map fun done =>
    done.map (·.map fun _ => guard) id

/-- `assignPeer` with checks. -/
def assignPeer? (m : ResourceManager) (g : ConnectionGuard) (peer : PeerId) :
    Option (Except Refusal ConnectionGuard × ResourceManager) :=
  match g.peer with
  | some _ => some (.ok g, m)
  | none =>
    ((m.touch (.peer peer)).charge? g.amount (.peer peer)).bind fun
      | (some r, m) => some (.error (.exceeded .peer r), m.recordRefusal .peer r)
      | (none, m) => (m.discharge? g.amount .transient).map fun left =>
        (.ok { g with peer := some peer }, left)

theorem openConnection?_eq (m : ResourceManager) (direction : Direction) (usesFd : Bool) :
    m.openConnection? direction usesFd =
      ifWithin (m.loweredByOpen direction usesFd) (m.openConnection direction usesFd) := by
  unfold openConnection? loweredByOpen openConnection
  dsimp only
  split
  · exact (ifWithin_nil _).symm
  · rw [Amounts.take?_eq]
    apply bind_ifWithin
    cases (Amounts.zero.take m.ceilings.connection (.connection direction usesFd)).1 with
    | some r => exact (ifWithin_nil _).symm
    | none =>
      dsimp only
      rw [chargeChain?_eq, map_ifWithin]

theorem reserveStream?_eq (m : ResourceManager) (peer : PeerId) (protocol : String)
    (direction : Direction) (memory : Nat) :
    m.reserveStream? peer protocol direction memory =
      ifWithin (m.loweredByReserve peer protocol direction memory)
        (m.reserveStream peer protocol direction memory) := by
  have hclosed : (m.named peer protocol).closed = m.closed :=
    (sameUsage_named m peer protocol).closed
  rw [reserveStream?, chargeAll?_eq, map_ifWithin, loweredByReserve, ← hclosed]
  rfl

theorem assignPeer?_eq (m : ResourceManager) (g : ConnectionGuard) (peer : PeerId) :
    m.assignPeer? g peer = ifWithin (m.loweredByAssign g peer) (m.assignPeer g peer) := by
  unfold assignPeer? loweredByAssign assignPeer
  cases g.peer with
  | some _ => exact (ifWithin_nil _).symm
  | none =>
    dsimp only
    rw [charge?_eq]
    apply bind_ifWithin
    rcases (m.touch (.peer peer)).charge g.amount (.peer peer) with ⟨_ | r, charged⟩
    · dsimp only
      rw [discharge?_eq, map_ifWithin, loweredIn, loweredIn, List.append_nil]
    · exact (ifWithin_nil _).symm

end ResourceManager

end CircuitRelay
