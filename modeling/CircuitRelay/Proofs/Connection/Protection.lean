import CircuitRelay.Proofs.Connection.Counts

/-!
# Protected peers

A component protects a peer under a tag of its own, and a pass leaves every peer alone that some
tag protects.  `ProtectedBy` says it for one tag.  Only a step that names the tag changes whom it
protects, so the one component that uses a tag knows at any time whom it protects.

* `protectedBy_protect`, `protectedBy_unprotect`: the steps that name a tag.
* `protectedBy_perform`: all other steps.
* `spares_of_isProtected`: a pass neither returns a connection of a protected peer nor marks one.
-/

namespace CircuitRelay

open Connection

namespace ConnectionManager

variable {m : ConnectionManager} {peer p : PeerId} {tag t : String}

/-! ## Whom a tag protects -/

/-- Whether a tag protects a peer. -/
def ProtectedBy (m : ConnectionManager) (peer : PeerId) (tag : String) : Prop :=
  tag ∈ (m.standing peer).protections

instance (m : ConnectionManager) (peer : PeerId) (tag : String) :
    Decidable (m.ProtectedBy peer tag) :=
  inferInstanceAs (Decidable (tag ∈ (m.standing peer).protections))

theorem isProtected_of_protectedBy (h : m.ProtectedBy peer tag) : m.isProtected peer = true := by
  rw [isProtected, Standing.isProtected, Bool.not_eq_true', ← Bool.not_eq_true, List.isEmpty_iff]
  exact List.ne_nil_of_mem h

theorem mem_protections_protect {s : Standing} :
    tag ∈ (s.protect t).protections ↔ t = tag ∨ tag ∈ s.protections := by
  show tag ∈ (if t ∈ s.protections then s.protections else s.protections ++ [t]) ↔ _
  split
  · rename_i hmem
    constructor
    · exact .inr
    · rintro (rfl | h)
      · exact hmem
      · exact h
  · rw [List.mem_append, List.mem_singleton, or_comm, eq_comm]

theorem mem_protections_unprotect {s : Standing} :
    tag ∈ (s.unprotect t).protections ↔ t ≠ tag ∧ tag ∈ s.protections := by
  show tag ∈ s.protections.filter (fun x => decide (x ≠ t)) ↔ _
  rw [List.mem_filter, decide_eq_true_eq, and_comm, ne_comm]

theorem protectedBy_protect :
    (m.protect peer t).ProtectedBy p tag ↔ peer = p ∧ t = tag ∨ m.ProtectedBy p tag := by
  rw [protect, ProtectedBy, standing_changeStanding]
  split
  · rename_i hp
    rw [mem_protections_protect, and_iff_right hp, hp]
    exact Iff.rfl
  · rename_i hp
    exact (or_iff_right fun h => hp h.1).symm

theorem protectedBy_unprotect :
    (m.unprotect peer t).2.ProtectedBy p tag ↔ ¬(peer = p ∧ t = tag) ∧ m.ProtectedBy p tag := by
  rw [unprotect, ProtectedBy, standing_reduceStanding m peer rfl]
  split
  · rename_i hp
    rw [mem_protections_unprotect, and_iff_right hp, hp]
    exact Iff.rfl
  · rename_i hp
    exact (and_iff_right fun h => hp h.1).symm

/-- A change of a standing that leaves its protections alone. -/
theorem protectedBy_changeStanding {f : Standing → Standing}
    (hf : ∀ s, (f s).protections = s.protections) :
    (m.changeStanding peer f).ProtectedBy p tag ↔ m.ProtectedBy p tag := by
  rw [ProtectedBy, standing_changeStanding]
  split
  · rename_i hp
    rw [hf, hp]
    exact Iff.rfl
  · exact Iff.rfl

theorem protectedBy_reduceStanding {f : Standing → Standing} (hnone : f .none = .none)
    (hf : ∀ s, (f s).protections = s.protections) :
    (m.reduceStanding peer f).ProtectedBy p tag ↔ m.ProtectedBy p tag := by
  rw [ProtectedBy, standing_reduceStanding m peer hnone]
  split
  · rename_i hp
    rw [hf, hp]
    exact Iff.rfl
  · exact Iff.rfl

/-! ## A pass -/

theorem mem_candidates {now : Instant} {c : Candidate} (h : c ∈ m.candidates now) :
    ∃ r, m.records.get? c.id = some r ∧ r.peer = c.peer ∧ m.isProtected c.peer = false := by
  rw [candidates, List.mem_mergeSort, List.mem_filterMap] at h
  obtain ⟨⟨id, r⟩, he, hc⟩ := h
  rw [candidate?] at hc
  split at hc
  · rename_i hfree
    cases hc
    exact ⟨r, Table.get?_eq_some_iff.mpr he, rfl, hfree.2⟩
  · cases hc

/-- What the marking loop of a pass over `m` keeps, when it goes through some of the candidates
`cs`: it returns candidates, changes the records of candidates only, and no standing. -/
structure Passed (m : ConnectionManager) (cs : List Candidate)
    (s : List (PeerId × ConnectionId) × ConnectionManager) : Prop where
  returned : ∀ e ∈ s.1, ∃ c ∈ cs, e = (c.peer, c.id)
  records : ∀ id, (∀ c ∈ cs, c.id ≠ id) → s.2.records.get? id = m.records.get? id
  standings : s.2.standings = m.standings

theorem passed_select {cs : List Candidate} {s : List (PeerId × ConnectionId) × ConnectionManager}
    (h : Passed m cs s) (n : Nat) {c : Candidate} (hc : c ∈ cs) : Passed m cs (select n s c) := by
  rcases select_cases n s c with heq | ⟨r, -, -, heq⟩
  · rw [heq]
    exact h
  · rw [heq]
    refine ⟨fun e he => ?_, fun id hid => ?_, h.standings⟩
    · rcases List.mem_append.mp he with he | he
      · exact h.returned e he
      · exact ⟨c, hc, List.mem_singleton.mp he⟩
    · show (s.2.records.insert c.id _).get? id = _
      rw [Table.get?_insert, if_neg (hid c hc)]
      exact h.records id hid

theorem passed_foldl_select (n : Nat) {cs : List Candidate} (l : List Candidate)
    (hl : ∀ c ∈ l, c ∈ cs) {s : List (PeerId × ConnectionId) × ConnectionManager}
    (h : Passed m cs s) : Passed m cs (l.foldl (select n) s) := by
  induction l generalizing s with
  | nil => exact h
  | cons c l ih =>
    exact ih (fun c' hc' => hl c' (List.mem_cons_of_mem c hc'))
      (passed_select h n (hl c List.mem_cons_self))

theorem passed_trim (m : ConnectionManager) (now : Instant) :
    Passed m (m.candidates now) (m.trim now) := by
  have hstart : Passed m (m.candidates now) ([], m) :=
    ⟨fun _ he => absurd he List.not_mem_nil, fun _ _ => rfl, rfl⟩
  unfold trim
  split
  · exact hstart
  · have hloop := passed_foldl_select m.surplus (m.candidates now) (fun _ hc => hc) hstart
    exact ⟨hloop.returned, hloop.records, hloop.standings⟩

/-- A pass spares a peer: it returns none of its connections, and leaves their records as they
are. -/
structure Spares (m : ConnectionManager) (now : Instant) (peer : PeerId) : Prop where
  returned : ∀ e ∈ (m.trim now).1, e.1 ≠ peer ∧ ∀ r, m.record? e.2 = some r → r.peer ≠ peer
  record : ∀ id r, m.record? id = some r → r.peer = peer → (m.trim now).2.record? id = some r

/-- A pass spares every protected peer, whatever the marks and however many connections there
are. -/
theorem spares_of_isProtected (h : m.isProtected peer = true) (now : Instant) :
    m.Spares now peer := by
  have hpassed := passed_trim m now
  -- a candidate is not of the peer, by its own peer and by that of its record
  have hcandidate : ∀ c ∈ m.candidates now,
      c.peer ≠ peer ∧ ∀ r, m.records.get? c.id = some r → r.peer ≠ peer := by
    intro c hc
    obtain ⟨r, hr, hpeer, hfree⟩ := mem_candidates hc
    have hne : c.peer ≠ peer := by
      rintro rfl
      rw [h] at hfree
      exact Bool.noConfusion hfree
    refine ⟨hne, fun r' hr' => ?_⟩
    rw [hr] at hr'
    cases hr'
    rwa [hpeer]
  refine ⟨fun e he => ?_, fun id r hr hpeer => ?_⟩
  · obtain ⟨c, hc, rfl⟩ := hpassed.returned e he
    exact hcandidate c hc
  · refine (hpassed.records id fun c hc => ?_).trans hr
    rintro rfl
    exact (hcandidate c hc).2 r hr hpeer

/-! ## Steps -/

/-- Whether a step names a tag as one that protects. -/
def Step.names (tag : String) : Step → Bool
  | .protect _ t | .unprotect _ t => decide (t = tag)
  | _ => false

theorem protectedBy_connect {id : ConnectionId} {direction : Direction} {now : Instant} :
    (m.connect id peer direction now).ProtectedBy p tag ↔ m.ProtectedBy p tag := by
  unfold connect
  split
  · exact Iff.rfl
  · exact protectedBy_changeStanding (f := Standing.connect) fun _ => rfl

theorem protectedBy_disconnect {id : ConnectionId} :
    (m.disconnect id).ProtectedBy p tag ↔ m.ProtectedBy p tag := by
  unfold disconnect
  split
  · exact Iff.rfl
  · refine (protectedBy_reduceStanding (f := Standing.disconnect) rfl fun _ => rfl).trans ?_
    split
    · exact Iff.rfl
    · exact Iff.rfl

/-- A step that does not name a tag changes nobody's protection under it. -/
theorem protectedBy_perform {step : Step} (h : step.names tag = false) :
    (m.perform step).ProtectedBy p tag ↔ m.ProtectedBy p tag := by
  cases step with
  | connect id peer direction now => exact protectedBy_connect
  | disconnect id => exact protectedBy_disconnect
  | protect peer t =>
    have hother : ¬t = tag := of_decide_eq_false h
    exact protectedBy_protect.trans (or_iff_right fun hboth => hother hboth.2)
  | unprotect peer t =>
    have hother : ¬t = tag := of_decide_eq_false h
    exact protectedBy_unprotect.trans (and_iff_right fun hboth => hother hboth.2)
  | tag peer name value =>
    exact protectedBy_changeStanding (f := (·.setValue name value)) fun _ => rfl
  | untag peer name =>
    exact protectedBy_reduceStanding (f := (·.clearValue name)) rfl fun _ => rfl
  | trim now =>
    show tag ∈ (((m.trim now).2.standings.get? p).getD .none).protections ↔ _
    rw [(passed_trim m now).standings]
    exact Iff.rfl
  | close => exact Iff.rfl

end ConnectionManager

end CircuitRelay
