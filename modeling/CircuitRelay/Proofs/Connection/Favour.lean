import CircuitRelay.Proofs.Connection.Protection
import CircuitRelay.Proofs.Connection.Selection

/-!
# Peers in favour

When a peer gains worth or protection, its connections move back in the order of closing or leave
it, and nobody else's do.  A pass takes a fixed number from the front of the order, so it takes a
connection exactly if fewer than that number stand ahead of it; and the number ahead of a connection
grows for the peer in favour and shrinks for all others.

* `Reading.Favours`, `Favours`: a peer is in favour in the second of two readings or managers.
* `ahead_le_of_favoured`, `ahead_le_of_other`: what favour does to the number ahead.
* `favours_tag`, `favours_protect`: two ways into favour.
* `trim_of_favours`: a pass takes nothing from the peer in favour, and spares nobody else, that it
  would otherwise not have.
-/

namespace CircuitRelay

open Connection

namespace Connection

namespace Reading

variable {v v' : Reading} {now : Instant} {entries : List (ConnectionId × Record)}
  {a b e : ConnectionId × Record} {p : PeerId}

/-- One place stays before another if the distance in worth does not shrink. -/
theorem place_lt_of_gap_le (hlt : v.place a < v.place b)
    (hgap : v.worth b.2.peer - v.worth a.2.peer ≤ v'.worth b.2.peer - v'.worth a.2.peer) :
    v'.place a < v'.place b := by
  rw [place, place, Prod.Lex.toLex_lt_toLex] at hlt ⊢
  rcases hlt with hworth | ⟨hworth, htie⟩
  · exact .inl (by omega)
  · rcases eq_or_ne (v'.worth a.2.peer) (v'.worth b.2.peer) with heq | hne
    · exact .inr ⟨heq, htie⟩
    · exact .inl (by omega)

/-! ## Favour in what a pass reads -/

/-- A peer is worth at least as much in the second reading and is protected there if it is in the
first one; what else is read is the same. -/
structure Favours (v v' : Reading) (p : PeerId) : Prop where
  grace : v'.grace = v.grace
  isProtected : ∀ q, q ≠ p → v'.isProtected q = v.isProtected q
  worth : ∀ q, q ≠ p → v'.worth q = v.worth q
  protects : v.isProtected p = true → v'.isProtected p = true
  gains : v.worth p ≤ v'.worth p

theorem Favours.mayClose_iff (h : v.Favours v' p) {r : Record} (hr : r.peer ≠ p) :
    v'.MayClose now r ↔ v.MayClose now r := by
  rw [MayClose, MayClose, h.grace, h.isProtected r.peer hr]

theorem Favours.mayClose (h : v.Favours v' p) {r : Record} (hmay : v'.MayClose now r) :
    v.MayClose now r := by
  by_cases hr : r.peer = p
  · obtain ⟨hopen, hpast, hfree⟩ := hmay
    refine ⟨hopen, h.grace ▸ hpast, ?_⟩
    rw [hr, ← Bool.not_eq_true] at hfree ⊢
    exact fun hprotected => hfree (h.protects hprotected)
  · exact (h.mayClose_iff hr).mp hmay

/-- If the peer in favour is not protected, then the same connections may be closed. -/
theorem Favours.mayClose_of_free (h : v.Favours v' p) (hfree : v'.isProtected p = false)
    {r : Record} (hmay : v.MayClose now r) : v'.MayClose now r := by
  by_cases hr : r.peer = p
  · exact ⟨hmay.1, h.grace ▸ hmay.2.1, hr ▸ hfree⟩
  · exact (h.mayClose_iff hr).mpr hmay

/-- What stands ahead of a connection of the peer in favour still does. -/
theorem Favours.ahead_le_of_favoured (h : v.Favours v' p) (he : e.2.peer = p)
    (hmay : v'.MayClose now e.2) : v.ahead now entries e ≤ v'.ahead now entries e := by
  refine List.countP_mono_left fun d _ hd => ?_
  rw [decide_eq_true_eq] at hd ⊢
  refine ⟨h.mayClose_of_free (he ▸ hmay.2.2) hd.1, place_lt_of_gap_le hd.2 ?_⟩
  rw [he]
  by_cases hpeer : d.2.peer = p
  · rw [hpeer, Int.sub_self, Int.sub_self]
  · rw [h.worth _ hpeer]
    exact Int.sub_le_sub_right h.gains _

/-- What stands ahead of another connection did so before. -/
theorem Favours.ahead_le_of_other (h : v.Favours v' p) (he : e.2.peer ≠ p) :
    v'.ahead now entries e ≤ v.ahead now entries e := by
  refine List.countP_mono_left fun d _ hd => ?_
  rw [decide_eq_true_eq] at hd ⊢
  refine ⟨h.mayClose hd.1, place_lt_of_gap_le hd.2 ?_⟩
  rw [h.worth _ he]
  by_cases hpeer : d.2.peer = p
  · rw [hpeer]
    exact Int.sub_le_sub_left h.gains _
  · rw [h.worth _ hpeer]

end Reading

end Connection

namespace ConnectionManager

variable {m m' : ConnectionManager} {now : Instant} {p q : PeerId} {id : ConnectionId}

/-! ## Managers that differ in favour -/

/-- Two managers agree in their marks and connections and on all peers but one, which in the second
is worth at least as much and is protected if it is in the first. -/
structure Favours (m m' : ConnectionManager) (p : PeerId) : Prop extends TracksSame m m' where
  isProtected : ∀ q, q ≠ p → m'.isProtected q = m.isProtected q
  value : ∀ q, q ≠ p → (m'.standing q).value = (m.standing q).value
  protects : m.isProtected p = true → m'.isProtected p = true
  gains : (m.standing p).value ≤ (m'.standing p).value

theorem Favours.reading (h : m.Favours m' p) : m.reading.Favours m'.reading p where
  grace := congrArg Watermarks.grace h.marks
  isProtected q hq := by
    rw [reading_isProtected, reading_isProtected, h.isProtected q hq]
  worth q hq := by
    rw [reading_worth, reading_worth, h.value q hq]
  protects hp := by
    rw [reading_isProtected] at hp ⊢
    exact h.protects hp
  gains := by
    rw [reading_worth, reading_worth]
    exact h.gains

/-- A change to the standing of a peer that takes neither protection nor worth from it. -/
theorem favours_changeStanding {f : Standing → Standing}
    (hprotects : m.isProtected p = true → (m.changeStanding p f).isProtected p = true)
    (hgains : (m.standing p).value ≤ ((m.changeStanding p f).standing p).value) :
    m.Favours (m.changeStanding p f) p where
  toTracksSame := ⟨rfl, rfl, rfl, fun _ => rfl⟩
  isProtected q hq := by
    rw [isProtected, standing_changeStanding, if_neg hq.symm]
    rfl
  value q hq := by
    rw [standing_changeStanding, if_neg hq.symm]
  protects := hprotects
  gains := hgains

/-- A tag that does not lower the worth of a peer puts it in favour. -/
theorem favours_tag {name : String} {v : Int64}
    (hgains : (m.standing p).value ≤ ((m.tag p name v).standing p).value) :
    m.Favours (m.tag p name v) p := by
  refine favours_changeStanding (fun hp => ?_) hgains
  rw [isProtected, standing_changeStanding, if_pos rfl]
  exact hp

/-- Protection puts a peer in favour. -/
theorem favours_protect (m : ConnectionManager) (p : PeerId) (tag : String) :
    m.Favours (m.protect p tag) p := by
  refine favours_changeStanding (fun _ => ?_) ?_
  · exact isProtected_of_protectedBy (protectedBy_protect.mpr (.inl ⟨rfl, rfl⟩))
  · rw [standing_changeStanding, if_pos rfl]
    exact Int.le_refl _

/-- Favour never hurts: if a manager differs from another one in that a peer is worth more or is
protected, then every connection of this peer that a pass of the second selects is also selected in
the first, and every connection of any other peer that is selected in the first also is in the
second. -/
theorem trim_of_favours (h : m.Favours m' p) (now : Instant) (id : ConnectionId) :
    ((p, id) ∈ (m'.trim now).1 → (p, id) ∈ (m.trim now).1) ∧
    ∀ q, q ≠ p → (q, id) ∈ (m.trim now).1 → (q, id) ∈ (m'.trim now).1 := by
  have hahead : ∀ e, m'.reading.ahead now m'.records.entries e =
      m'.reading.ahead now m.records.entries e := fun _ => h.entries_perm.countP_eq _
  simp only [mem_trim_iff_ahead, h.needsTrim_eq, h.surplus_eq, hahead, h.records]
  constructor
  · rintro ⟨hneeds, r, hr, hpeer, hmay, hlt⟩
    exact ⟨hneeds, r, hr, hpeer, h.reading.mayClose hmay,
      (h.reading.ahead_le_of_favoured hpeer hmay).trans_lt hlt⟩
  · rintro q hq ⟨hneeds, r, hr, rfl, hmay, hlt⟩
    exact ⟨hneeds, r, hr, rfl, (h.reading.mayClose_iff hq).mpr hmay,
      (h.reading.ahead_le_of_other hq).trans_lt hlt⟩

/-- Two peers of no worth, of which the first has two connections.  Worth moves both of them behind
that of the other peer, and protection takes them out. -/
theorem trim_of_favours_tagged :
    let a : PeerId := ⟨.sha256, [1]⟩
    let b : PeerId := ⟨.sha256, [2]⟩
    let marks : Watermarks := ⟨1, 3, .zero, .zero, by decide, by decide⟩
    let m := (((ofMarks marks).connect 1 a .inbound 0).connect 2 b .inbound 1).connect 3 a
      .inbound 2
    let tagged := m.tag a "useful" 10
    let guarded := m.protect a "relay"
    (m.Favours tagged a ∧ m.Favours guarded a) ∧
    ((a, 1) ∈ (tagged.trim 5).1 ∧ (a, 1) ∈ (m.trim 5).1) ∧
    ((b, 2) ∈ (m.trim 5).1 ∧ (b, 2) ∈ (tagged.trim 5).1 ∧ (b, 2) ∈ (guarded.trim 5).1) ∧
    (a, 1) ∉ (guarded.trim 5).1 := by
  intro a b marks m tagged guarded
  have hnothing : (m.standing a).value = 0 := by decide +kernel
  have hsomething : (tagged.standing a).value = 10 := by decide +kernel
  have htagged : m.Favours tagged a := by
    refine favours_tag ?_
    rw [hnothing, hsomething]
    decide
  have hguarded : m.Favours guarded a := m.favours_protect a "relay"
  have hlast : (a, 1) ∈ (tagged.trim 5).1 := mem_trim_iff_ahead.mpr (by decide +kernel)
  have hsecond : (b, 2) ∈ (m.trim 5).1 := mem_trim_iff_ahead.mpr (by decide +kernel)
  exact ⟨⟨htagged, hguarded⟩, ⟨hlast, (trim_of_favours htagged 5 1).1 hlast⟩,
    ⟨hsecond, (trim_of_favours htagged 5 2).2 b (by decide) hsecond,
      (trim_of_favours hguarded 5 2).2 b (by decide) hsecond⟩,
    mem_trim_iff_ahead.not.mpr (by decide +kernel)⟩

end ConnectionManager

end CircuitRelay
