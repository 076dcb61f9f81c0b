import CircuitRelay.Proofs.Relay.Decision

/-!
# Tightening an access list

The rules of an access list stand in a fixed order, and some of them allow while others deny.  Still
a list can only be tightened and never opened by denying more peers, by a lower limit, by allowing
fewer peers and networks, and by a default that denies: what the list allows is a conjunction, by
`AccessList.decide_eq_allow_iff`, and each of its parts can only fail more often.

To allow someone is not a step of this kind, but it opens the list to no one else.  It may even
close it, as the first entry turns a default that is not configured from allowing to denying.

* `AccessList.Tightens`, `Tightens.allows`: one list is at least as tight as another.
* `AccessList.allowing`, `allows_of_allowing`: a list with one more entry.
* `AccessControl.denials_stay`: what is denied stays denied in both cases.
-/

namespace CircuitRelay

theorem Verdict.eq_deny_iff {v : Verdict} : v = .deny ↔ ¬v = .allow := by
  cases v with
  | allow => exact iff_of_false Verdict.noConfusion (not_not_intro rfl)
  | deny => exact iff_of_true rfl Verdict.noConfusion

namespace AccessList

variable {l l' : AccessList} {peer : PeerId} {request : RelayRequest} {connections : Nat}

/-! ## Tighter lists -/

/-- The first list denies at least the same peers, has a limit that is at most as high if the other
has one, allows at most the same peers and addresses, and has a default that denies if the other's
does. -/
structure Tightens (l' l : AccessList) : Prop where
  denied : ∀ p, p ∈ l.denyPeers → p ∈ l'.denyPeers
  limit : ∀ max, l.maxConnections = some max →
    ∃ max', l'.maxConnections = some max' ∧ max' ≤ max
  peers : ∀ p, p ∈ l'.allowPeers → p ∈ l.allowPeers
  networks : ∀ ip, (∃ s ∈ l'.allowSubnets, s.contains ip = true) →
    ∃ s ∈ l.allowSubnets, s.contains ip = true
  default : l.defaultVerdict = .deny → l'.defaultVerdict = .deny

theorem Tightens.grants (h : l'.Tightens l) {ip : Option Ip} (hgrants : l'.Grants peer ip) :
    l.Grants peer ip where
  not_denied hmem := hgrants.not_denied (h.denied peer hmem)
  reason := by
    rcases hgrants.reason with hpeer | ⟨i, hi, hsubnet⟩ | hdefault
    · exact .inl (h.peers peer hpeer)
    · exact .inr (.inl ⟨i, hi, h.networks i hsubnet⟩)
    · refine .inr (.inr ?_)
      by_contra hdeny
      rw [h.default (Verdict.eq_deny_iff.mpr hdeny)] at hdefault
      cases hdefault

/-- What a tighter list allows, the other allows as well. -/
theorem Tightens.allows (h : l'.Tightens l) (hallows : l'.Allows peer request connections) :
    l.Allows peer request connections where
  toGrants := h.grants hallows.toGrants
  destination d hd hmem := hallows.destination d hd (h.denied d hmem)
  below max hmax := by
    obtain ⟨max', hmax', hle⟩ := h.limit max hmax
    exact Nat.le_trans (hallows.below max' hmax') hle

/-! ## One more entry -/

/-- Whom an access list allows: a peer, or all who ask from a network. -/
inductive Entry where
  | peer (p : PeerId)
  | subnet (s : Subnet)

/-- Whether an entry is about a request of a peer. -/
def Entry.Matches (peer : PeerId) (request : RelayRequest) : Entry → Prop
  | .peer p => p = peer
  | .subnet s => request.source.ip?.any s.contains = true

instance (peer : PeerId) (request : RelayRequest) (e : Entry) :
    Decidable (e.Matches peer request) :=
  match e with
  | .peer p => inferInstanceAs (Decidable (p = peer))
  | .subnet s => inferInstanceAs (Decidable (request.source.ip?.any s.contains = true))

/-- The list that allows one entry more. -/
def allowing (l : AccessList) : Entry → AccessList
  | .peer p => { l with allowPeers := p :: l.allowPeers }
  | .subnet s => { l with allowSubnets := l.allowSubnets ++ [s] }

@[simp] theorem denyPeers_allowing (l : AccessList) (e : Entry) :
    (l.allowing e).denyPeers = l.denyPeers := by
  cases e with
  | peer p => rfl
  | subnet s => rfl

@[simp] theorem maxConnections_allowing (l : AccessList) (e : Entry) :
    (l.allowing e).maxConnections = l.maxConnections := by
  cases e with
  | peer p => rfl
  | subnet s => rfl

/-- With an entry the default denies, unless it is configured otherwise. -/
theorem defaultVerdict_allowing (l : AccessList) (e : Entry) :
    (l.allowing e).defaultVerdict = l.default.getD .deny := by
  cases e with
  | peer p => rfl
  | subnet s =>
    have hnonempty : (l.allowSubnets ++ [s]).isEmpty = false := by
      rw [List.isEmpty_eq_false_iff]
      exact List.append_ne_nil_of_right_ne_nil _ (List.cons_ne_nil s [])
    show l.default.getD (if (l.allowPeers.isEmpty && (l.allowSubnets ++ [s]).isEmpty) = true
      then .allow else .deny) = _
    rw [hnonempty, Bool.and_false, if_neg Bool.false_ne_true]

theorem defaultVerdict_of_allowing {e : Entry} (h : (l.allowing e).defaultVerdict = .allow) :
    l.defaultVerdict = .allow := by
  rw [defaultVerdict_allowing] at h
  rw [defaultVerdict]
  cases hdefault : l.default with
  | none =>
    rw [hdefault] at h
    cases h
  | some v =>
    rw [hdefault] at h
    exact h

/-- An entry opens a list only to those whom it is about. -/
theorem allows_of_allowing {e : Entry} (hother : ¬e.Matches peer request)
    (h : (l.allowing e).Allows peer request connections) : l.Allows peer request connections where
  not_denied := by
    have hdenied := h.not_denied
    rwa [denyPeers_allowing] at hdenied
  reason := by
    rcases h.reason with hpeer | ⟨i, hi, s, hs, hcontains⟩ | hdefault
    · cases e with
      | peer p => exact .inl ((List.mem_cons.mp hpeer).resolve_left fun heq => hother heq.symm)
      | subnet t => exact .inl hpeer
    · cases e with
      | peer p => exact .inr (.inl ⟨i, hi, s, hs, hcontains⟩)
      | subnet t =>
        rcases List.mem_append.mp hs with hs | hs
        · exact .inr (.inl ⟨i, hi, s, hs, hcontains⟩)
        · rw [List.mem_singleton.mp hs] at hcontains
          exact absurd ((Option.any_eq_true ..).mpr ⟨i, hi, hcontains⟩) hother
    · exact .inr (.inr (defaultVerdict_of_allowing hdefault))
  destination := by
    have hdestination := h.destination
    rwa [denyPeers_allowing] at hdestination
  below := by
    have hbelow := h.below
    rwa [maxConnections_allowing] at hbelow

end AccessList

namespace AccessControl

open AccessList

variable {c : AccessControl} {peer : PeerId} {request : RelayRequest} {connections : Nat}

theorem evaluate_eq_deny_iff : (c.evaluate peer request connections).1.1 = .deny ↔
    ¬c.list.Allows peer request connections := by
  rw [← decide_eq_allow_iff]
  exact Verdict.eq_deny_iff

/-- A denial stays a denial when the list in force is tightened, whoever asks for whatever from
wherever and with however many connections; and so it does when someone else is allowed. -/
theorem denials_stay (c c' : AccessControl) (peer : PeerId) (request : RelayRequest)
    (connections : Nat) (hdeny : (c.evaluate peer request connections).1.1 = .deny) :
    (c'.list.Tightens c.list → (c'.evaluate peer request connections).1.1 = .deny) ∧
    ∀ e : Entry, ¬e.Matches peer request → c'.list = c.list.allowing e →
      (c'.evaluate peer request connections).1.1 = .deny := by
  rw [evaluate_eq_deny_iff] at hdeny
  refine ⟨fun htightens => ?_, fun e hother hlist => ?_⟩
  · rw [evaluate_eq_deny_iff]
    exact fun hallows => hdeny (htightens.allows hallows)
  · rw [evaluate_eq_deny_iff, hlist]
    exact fun hallows => hdeny (allows_of_allowing hother hallows)

/-- A list with an allowed peer and an allowed network, and a tighter one that denies a peer more,
has a lower limit, and allows only a part of the network.  The allowed peer has too many
connections for both, and another one is unknown to both, also once a third one or its network is
allowed. -/
theorem denials_stay_two :
    let a : PeerId := ⟨.sha256, [1]⟩
    let b : PeerId := ⟨.sha256, [2]⟩
    let d : PeerId := ⟨.sha256, [3]⟩
    let wide := ofList ⟨[a], [d], [.v4 (.ofOctets 10 0 0 0) 8], none, some 4, false⟩
    let tight := ofList ⟨[], [b, d], [.v4 (.ofOctets 10 1 0 0) 16], some .deny, some 2, true⟩
    let inside : Address := ⟨[.ip4 (.ofOctets 10 1 2 3), .tcp 4001]⟩
    let outside : Address := ⟨[.ip4 (.ofOctets 34 120 1 1), .tcp 4001]⟩
    let other : Entry := .subnet (.v4 (.ofOctets 34 121 0 0) 16)
    tight.list.Tightens wide.list ∧ (wide.evaluate a (.connect inside (some b)) 4).1.1 = .allow ∧
    (tight.evaluate a (.connect inside (some b)) 5).1.1 = .deny ∧
    (tight.evaluate b (.reserve outside) 0).1.1 = .deny ∧
    ((ofList (wide.list.allowing (.peer d))).evaluate b (.reserve outside) 0).1.1 = .deny ∧
    ((ofList (wide.list.allowing other)).evaluate b (.reserve outside) 0).1.1 = .deny := by
  intro a b d wide tight inside outside other
  have htightens : tight.list.Tightens wide.list := {
    denied := by decide
    limit := by
      intro max hmax
      cases hmax
      exact ⟨2, rfl, by decide⟩
    peers := fun _ => List.not_mem_nil.elim
    networks := by
      rintro ip ⟨s, hs, hcontains⟩
      rw [List.mem_singleton.mp hs] at hcontains
      refine ⟨_, List.mem_singleton_self _, ?_⟩
      cases ip with
      | v4 i =>
        have hnarrow : 167837696 / 2 ^ 16 = i.toNat / 2 ^ 16 := of_decide_eq_true hcontains
        have hwide : 167772160 / 2 ^ 24 = i.toNat / 2 ^ 24 := by omega
        exact decide_eq_true hwide
      | v6 i => cases hcontains
    default := fun _ => rfl }
  have hcrowded : (wide.evaluate a (.connect inside (some b)) 5).1.1 = .deny := by decide
  have hunknown : (wide.evaluate b (.reserve outside) 0).1.1 = .deny := by decide
  refine ⟨htightens, by decide, (denials_stay wide tight a _ 5 hcrowded).1 htightens,
    (denials_stay wide tight b _ 0 hunknown).1 htightens, ?_, ?_⟩
  · exact (denials_stay wide _ b _ 0 hunknown).2 (.peer d) (by decide) rfl
  · exact (denials_stay wide _ b _ 0 hunknown).2 other (by decide) rfl

end AccessControl

end CircuitRelay
