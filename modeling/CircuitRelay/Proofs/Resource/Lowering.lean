import CircuitRelay.Proofs.Resource.Balance

/-!
# Counters are lowered by no more than they count

Giving back does not look at what a counter counts.  The lists of this file name every counter that
a request or a release lowers, in the order of the code, with what the counter counts at that
moment.  They follow the code into the two places where it undoes half a charge: a scope that lacks
a resource gives back the resources before it, and a chain with a scope that refuses gives back to
the scopes before it.

* `Within l`: no lowering of a list takes its counter below zero.
* `Amounts.within_lowered`, `Amounts.within_loweredByTake`: in one scope.
* `within_loweredIn`, `within_loweredByCharge`: along a chain.
* `within_loweredByOpen`, `within_loweredByReserve`, `Balanced.within_loweredByAssign`: requests.
-/

namespace CircuitRelay

/-- A counter that is lowered. -/
structure Lowering where
  /-- What the counter counts. -/
  used : Nat
  /-- By how much it is lowered. -/
  amount : Nat
  deriving DecidableEq, Repr

/-- No counter is lowered by more than it counts. -/
def Within (l : List Lowering) : Prop := ∀ x ∈ l, x.amount ≤ x.used

theorem within_nil : Within [] := fun _ h => absurd h List.not_mem_nil

theorem within_append_iff {l l' : List Lowering} : Within (l ++ l') ↔ Within l ∧ Within l' :=
  List.forall_mem_append

theorem Within.append {l l' : List Lowering} (h : Within l) (h' : Within l') : Within (l ++ l') :=
  within_append_iff.mpr ⟨h, h'⟩

namespace Amounts

variable {used ceiling charge : Amounts}

/-! ## One scope -/

/-- What giving a charge back lowers, resource by resource. -/
def lowered (charge used : Amounts) : List Resource → List Lowering
  | [] => []
  | r :: rest => ⟨used.get r, charge.get r⟩ :: lowered charge (giveBack charge used r) rest

/-- What taking a charge lowers: nothing, unless a resource has no room. -/
def loweredByTake (ceiling charge : Amounts) (passed : List Resource) (used : Amounts) :
    List Resource → List Lowering
  | [] => []
  | r :: rest =>
    if charge.get r = 0 then loweredByTake ceiling charge (passed ++ [r]) used rest
    else
      let next := used.get r + charge.get r
      if next ≤ Resource.maxAmount ∧ next ≤ ceiling.get r then
        loweredByTake ceiling charge (passed ++ [r]) (used.set r next) rest
      else lowered charge used passed

theorem get_giveBack_of_ne {r r' : Resource} (h : r' ≠ r) :
    (giveBack charge used r).get r' = used.get r' := by
  unfold giveBack
  split
  · rfl
  · rw [get_set, if_neg h]

theorem within_lowered {l : List Resource} (hl : l.Nodup)
    (h : ∀ r ∈ l, charge.get r ≤ used.get r) : Within (lowered charge used l) := by
  induction l generalizing used with
  | nil => exact within_nil
  | cons r l ih =>
    rw [List.nodup_cons] at hl
    intro x hx
    rcases List.mem_cons.mp hx with rfl | hx
    · exact h r (List.mem_cons_self ..)
    · refine ih hl.2 (fun r' hr' => ?_) x hx
      have hne : r' ≠ r := fun heq => hl.1 (heq ▸ hr')
      rw [get_giveBack_of_ne hne]
      exact h r' (List.mem_cons_of_mem r hr')

/-- The loop, from any point on: the resources before that point count what was taken of them. -/
theorem within_loweredByTake {passed rest : List Resource} (hnodup : (passed ++ rest).Nodup)
    (h : ∀ r ∈ passed, charge.get r ≤ used.get r) :
    Within (loweredByTake ceiling charge passed used rest) := by
  induction rest generalizing passed used with
  | nil => exact within_nil
  | cons r rest ih =>
    have hsplit := List.append_cons passed r rest
    have hr : ∀ r' ∈ passed, r' ≠ r := fun r' hr' =>
      (List.nodup_append.mp hnodup).2.2 r' hr' r (List.mem_cons_self ..)
    rw [loweredByTake]
    split
    · rename_i hzero
      refine ih (hsplit ▸ hnodup) fun r' hr' => ?_
      rcases List.mem_append.mp hr' with hr' | hr'
      · exact h r' hr'
      · rw [List.mem_singleton.mp hr', hzero]
        exact Nat.zero_le _
    · dsimp only
      split
      · refine ih (hsplit ▸ hnodup) fun r' hr' => ?_
        rcases List.mem_append.mp hr' with hr' | hr'
        · rw [get_set, if_neg (hr r' hr')]
          exact h r' hr'
        · rw [List.mem_singleton.mp hr', get_set, if_pos rfl]
          exact Nat.le_add_left _ _
      · exact within_lowered (List.nodup_append.mp hnodup).1 h

end Amounts

namespace ResourceManager

variable {ceilings : Ceilings} {m : ResourceManager} {amount : Amounts} {s t : ScopeName}
  {g : Guard} {gs : List Guard}

/-! ## A chain of scopes -/

/-- What giving back to a chain of scopes lowers. -/
def loweredIn (amount : Amounts) (m : ResourceManager) : List ScopeName → List Lowering
  | [] => []
  | s :: chain =>
    ((m.usage? s).toList.flatMap fun used => amount.lowered used Resource.all) ++
      loweredIn amount (m.discharge amount s) chain

/-- What charging a chain of scopes lowers; `charged` are the scopes charged so far. -/
def loweredByCharge (amount : Amounts) (charged : List ScopeName) (m : ResourceManager) :
    List ScopeName → List Lowering
  | [] => []
  | s :: rest =>
    Amounts.loweredByTake (m.ceilings.get s.kind) amount [] (m.usage s) Resource.all ++
      match m.charge amount s with
      | (none, m) => loweredByCharge amount (charged ++ [s]) m rest
      | (some _, m) => m.loweredIn amount charged

theorem usage_discharge_of_ne (h : s ≠ t) : (m.discharge amount s).usage t = m.usage t := by
  cases hs : m.usage? s with
  | none => rw [discharge, hs]
  | some a => rw [discharge, hs, usage_setUsage, if_neg h]

theorem within_loweredIn {chain : List ScopeName} (hchain : chain.Nodup)
    (h : ∀ s ∈ chain, ∀ r, amount.get r ≤ (m.usage s).get r) :
    Within (m.loweredIn amount chain) := by
  induction chain generalizing m with
  | nil => exact within_nil
  | cons s chain ih =>
    rw [List.nodup_cons] at hchain
    have hs := h s (List.mem_cons_self ..)
    refine Within.append ?_ (ih hchain.2 fun s' hs' r => ?_)
    · rw [usage] at hs
      cases husage : m.usage? s with
      | none => exact within_nil
      | some used =>
        rw [husage] at hs
        rw [Option.toList_some, List.flatMap_singleton]
        exact Amounts.within_lowered (by decide) fun r _ => hs r
    · have hne : s ≠ s' := fun heq => hchain.1 (heq ▸ hs')
      rw [usage_discharge_of_ne hne]
      exact h s' (List.mem_cons_of_mem s hs') r

/-- The walk along a chain, from any scope on: the scopes before that one count what they were
charged. -/
theorem within_loweredByCharge {charged rest : List ScopeName} (hchain : (charged ++ rest).Nodup)
    (h : ∀ s ∈ charged, ∀ r, amount.get r ≤ (m.usage s).get r) :
    Within (m.loweredByCharge amount charged rest) := by
  induction rest generalizing charged m with
  | nil => exact within_nil
  | cons s rest ih =>
    have hsplit := List.append_cons charged s rest
    have hs : ∀ t ∈ charged, s ≠ t := fun t ht =>
      ((List.nodup_append.mp hchain).2.2 t ht s (List.mem_cons_self ..)).symm
    rw [loweredByCharge]
    refine (Amounts.within_loweredByTake (by decide) (by simp)).append ?_
    cases hl : m.lacking? amount s with
    | none =>
      rw [charge_of_hasRoom (lacking?_eq_none_iff.mp hl)]
      refine ih (hsplit ▸ hchain) fun t ht r => ?_
      rcases List.mem_append.mp ht with ht | ht
      · rw [usage_setUsage, if_neg (hs t ht)]
        exact h t ht r
      · rw [List.mem_singleton.mp ht, usage_setUsage, if_pos rfl, Amounts.get_add]
        exact Nat.le_add_left _ _
    | some r =>
      rw [charge_of_lacking hl]
      refine within_loweredIn (List.nodup_append.mp hchain).1 fun t ht r' => ?_
      rw [(sameUsage_touch m s).usage]
      exact h t ht r'

/-! ## Requests -/

/-- What opening a connection lowers. -/
def loweredByOpen (m : ResourceManager) (direction : Direction) (usesFd : Bool) : List Lowering :=
  let guard : ConnectionGuard := ⟨.connection direction usesFd, none⟩
  if m.closed then []
  else
    Amounts.loweredByTake m.ceilings.connection guard.amount [] .zero Resource.all ++
      match (Amounts.zero.take m.ceilings.connection guard.amount).1 with
      | some _ => []
      | none => m.loweredByCharge guard.amount [] guard.scopes

/-- What reserving a stream lowers. -/
def loweredByReserve (m : ResourceManager) (peer : PeerId) (protocol : String)
    (direction : Direction) (memory : Nat) : List Lowering :=
  let guard : StreamGuard := ⟨.stream direction memory, peer, protocol⟩
  if m.closed then []
  else (m.named peer protocol).loweredByCharge guard.amount [] guard.scopes

/-- What giving a connection its peer lowers. -/
def loweredByAssign (m : ResourceManager) (c : ConnectionGuard) (peer : PeerId) : List Lowering :=
  match c.peer with
  | some _ => []
  | none =>
    let named := m.touch (.peer peer)
    Amounts.loweredByTake (named.ceilings.get .peer) c.amount [] (named.usage (.peer peer))
        Resource.all ++
      match named.charge c.amount (.peer peer) with
      | (some _, _) => []
      | (none, m) => m.loweredIn c.amount [.transient]

theorem within_loweredByOpen (m : ResourceManager) (direction : Direction) (usesFd : Bool) :
    Within (m.loweredByOpen direction usesFd) := by
  unfold loweredByOpen
  dsimp only
  split
  · exact within_nil
  · refine (Amounts.within_loweredByTake (by decide) (by simp)).append ?_
    split
    · exact within_nil
    · refine within_loweredByCharge ?_ (by simp)
      rw [List.nil_append]
      exact ConnectionGuard.nodup_scopes _

theorem within_loweredByReserve (m : ResourceManager) (peer : PeerId) (protocol : String)
    (direction : Direction) (memory : Nat) :
    Within (m.loweredByReserve peer protocol direction memory) := by
  unfold loweredByReserve
  dsimp only
  split
  · exact within_nil
  · exact within_loweredByCharge (StreamGuard.nodup_scopes _) (by simp)

/-- What a live guard took can be given back. -/
theorem Balanced.within_loweredIn (h : Balanced ceilings m gs) (hg : g ∈ gs) :
    Within (m.loweredIn g.amount g.scopes) :=
  ResourceManager.within_loweredIn g.nodup_scopes fun _ hs r => h.le_usage hg hs r

/-- The transient scope counts a connection that has no peer. -/
theorem Balanced.within_loweredByAssign {c : ConnectionGuard}
    (h : Balanced ceilings m gs) (hc : Guard.connection c ∈ gs) (peer : PeerId) :
    Within (m.loweredByAssign c peer) := by
  unfold loweredByAssign
  split
  · exact within_nil
  · rename_i hpeer
    have hs : ScopeName.transient ∈ (Guard.connection c).scopes := by
      rw [Guard.scopes_of_peer_eq_none hpeer]
      exact List.mem_cons_self ..
    refine (Amounts.within_loweredByTake (by decide) (by simp)).append ?_
    cases hl : (m.touch (.peer peer)).lacking? c.amount (.peer peer) with
    | some r =>
      rw [charge_of_lacking hl]
      exact within_nil
    | none =>
      rw [charge_of_hasRoom (lacking?_eq_none_iff.mp hl)]
      refine ResourceManager.within_loweredIn (List.pairwise_singleton _ _) fun t ht r => ?_
      rw [List.mem_singleton.mp ht, usage_setUsage, if_neg (by simp),
        (sameUsage_touch m _).usage]
      exact h.le_usage hc hs r

end ResourceManager

end CircuitRelay
