import CircuitRelay.Proofs.Connection.Pass
import Mathlib.Data.Prod.Lex

/-!
# The order in which connections are closed

A pass collects its candidates in the order in which the table lists its records, and sorts them.
Names break all ties, and no two connections share a name, so there is only one sorted list: it
depends on the records and not on how the table lists them, and a pass takes the first of it.

* `Reading`: what a pass reads besides the records, and the order that it makes of them.
* `Reading.ranked_of_perm`: records that are listed otherwise have the same order of closing.
* `candidates_eq`, `trim_fst_eq_take`: the candidates of a pass are the ranked records, and it
  returns the first of them.
* `Reading.ahead`, `mem_trim_iff_ahead`: a pass takes what has fewer connections ahead of it in the
  order of closing than the pass wants.
* `TracksSame`: two managers with the same connections, for which a pass wants the same number.
* `trim_of_idle`, `trim_tallies`: when a pass does nothing, and what it counts when it works.
* `trim_selects`: which connections a pass selects, and everything that it changes.
-/

namespace CircuitRelay

open Connection

namespace Connection

/-- In a list that is sorted by place, an entry is among the first exactly if fewer have a place
before it. -/
theorem mem_take_iff_countP {α β : Type} [LinearOrder β] {place : α → β} {l : List α}
    (hsorted : l.Pairwise fun a b => place a < place b) {n : Nat} {e : α} :
    e ∈ l.take n ↔ e ∈ l ∧ (l.countP fun d => place d < place e) < n := by
  induction l generalizing n with
  | nil => simp
  | cons a l ih =>
    obtain ⟨hfirst, hrest⟩ := List.pairwise_cons.mp hsorted
    cases n with
    | zero => simp
    | succ n =>
      rw [List.take_succ_cons, List.mem_cons, List.mem_cons, ih hrest, List.countP_cons]
      by_cases hea : e = a
      · have hnone : (l.countP fun d => place d < place e) = 0 := by
          rw [List.countP_eq_zero]
          intro d hd
          rw [decide_eq_true_eq, hea]
          exact not_lt_of_gt (hfirst d hd)
        rw [hnone, if_neg (by simp [hea])]
        simp [hea]
      · by_cases he : e ∈ l
        · rw [if_pos (decide_eq_true (hfirst e he))]
          simp [hea, he]
        · simp [hea, he]

/-! ## The order of closing -/

/-- What a pass reads besides the records: its grace period, and what is known about peers. -/
structure Reading where
  grace : Duration
  /-- Whether any tag protects a peer. -/
  isProtected : PeerId → Bool
  /-- The worth of a peer. -/
  worth : PeerId → Int

namespace Reading

variable {v : Reading} {now : Instant} {entries entries' : List (ConnectionId × Record)}
  {e : ConnectionId × Record}

/-- Whether a connection may be closed: it is not selected yet, it is as old as the grace period,
and nobody protects its peer. -/
def MayClose (v : Reading) (now : Instant) (r : Record) : Prop :=
  r.closing = false ∧ v.grace.nanos ≤ now - r.established ∧ v.isProtected r.peer = false

instance (v : Reading) (now : Instant) (r : Record) : Decidable (v.MayClose now r) :=
  inferInstanceAs (Decidable (_ ∧ _ ∧ _))

/-- The place of a connection in the order of closing: by the worth of its peer, then by the time
at which it was established, then by its name. -/
def place (v : Reading) (e : ConnectionId × Record) : Int ×ₗ Instant ×ₗ ConnectionId :=
  toLex (v.worth e.2.peer, toLex (e.2.established, e.1))

/-- The connections that may be closed, in the order of closing. -/
def ranked (v : Reading) (now : Instant) (entries : List (ConnectionId × Record)) :
    List (ConnectionId × Record) :=
  (entries.filter fun e => v.MayClose now e.2).mergeSort fun a b => v.place a ≤ v.place b

theorem ranked_perm (v : Reading) (now : Instant) (entries : List (ConnectionId × Record)) :
    (v.ranked now entries).Perm (entries.filter fun e => v.MayClose now e.2) :=
  List.mergeSort_perm _ _

theorem mem_ranked_iff :
    e ∈ v.ranked now entries ↔ e ∈ entries ∧ v.MayClose now e.2 := by
  rw [(v.ranked_perm now entries).mem_iff, List.mem_filter, decide_eq_true_eq]

/-- Connections with one place have one name. -/
theorem fst_eq_of_place_eq {a b : ConnectionId × Record} (h : v.place a = v.place b) :
    a.1 = b.1 :=
  congrArg (fun p => (ofLex (ofLex p).2).2) h

/-- The order of closing is strict, because the names differ. -/
theorem pairwise_ranked (hnames : (entries.map Prod.fst).Nodup) :
    (v.ranked now entries).Pairwise fun a b => v.place a < v.place b := by
  have hle : (v.ranked now entries).Pairwise fun a b => decide (v.place a ≤ v.place b) = true := by
    refine List.pairwise_mergeSort (fun a b c hab hbc => ?_) (fun a b => ?_) _
    · rw [decide_eq_true_eq] at hab hbc ⊢
      exact hab.trans hbc
    · rw [Bool.or_eq_true, decide_eq_true_eq, decide_eq_true_eq]
      exact le_total _ _
  have hne : (v.ranked now entries).Pairwise fun a b => a.1 ≠ b.1 := by
    have hnodup : ((v.ranked now entries).map Prod.fst).Nodup := by
      rw [((v.ranked_perm now entries).map Prod.fst).nodup_iff]
      exact hnames.sublist (List.filter_sublist.map _)
    exact List.pairwise_map.mp hnodup
  refine hle.imp₂ (fun a b hab hnames => ?_) hne
  rw [decide_eq_true_eq] at hab
  exact lt_of_le_of_ne hab fun heq => hnames (fst_eq_of_place_eq heq)

/-- A table that lists its records otherwise has the same order of closing. -/
theorem ranked_of_perm (h : entries.Perm entries') (hnames : (entries.map Prod.fst).Nodup) :
    v.ranked now entries = v.ranked now entries' := by
  have hnames' : (entries'.map Prod.fst).Nodup := ((h.map Prod.fst).nodup_iff).mp hnames
  have hperm : (v.ranked now entries).Perm (v.ranked now entries') :=
    ((v.ranked_perm now entries).trans (h.filter _)).trans (v.ranked_perm now entries').symm
  exact hperm.eq_of_pairwise (fun a b _ _ hab hba => absurd hba (not_lt_of_gt hab))
    (pairwise_ranked hnames) (pairwise_ranked hnames')

/-- How many connections stand ahead of one in the order of closing. -/
def ahead (v : Reading) (now : Instant) (entries : List (ConnectionId × Record))
    (e : ConnectionId × Record) : Nat :=
  entries.countP fun d => v.MayClose now d.2 ∧ v.place d < v.place e

theorem mem_take_ranked_iff (hnames : (entries.map Prod.fst).Nodup) {n : Nat} :
    e ∈ (v.ranked now entries).take n ↔
      e ∈ entries ∧ v.MayClose now e.2 ∧ v.ahead now entries e < n := by
  have hahead : ((v.ranked now entries).countP fun d => v.place d < v.place e) =
      v.ahead now entries e := by
    rw [(v.ranked_perm now entries).countP_eq, List.countP_filter, ahead]
    refine List.countP_congr fun d _ => ?_
    simp only [Bool.and_eq_true, decide_eq_true_eq, and_comm]
  rw [mem_take_iff_countP (pairwise_ranked hnames), mem_ranked_iff, hahead, and_assoc]

end Reading

end Connection

namespace ConnectionManager

variable {m m' : ConnectionManager} {now : Instant}

/-! ## What a pass of the manager reads -/

/-- What a pass reads: a peer without an entry is not protected and worth nothing. -/
def reading (m : ConnectionManager) : Reading where
  grace := m.marks.grace
  isProtected p := (m.standings.get? p).any Standing.isProtected
  worth p := ((m.standings.get? p).map Standing.value).getD 0

theorem reading_isProtected (m : ConnectionManager) (p : PeerId) :
    m.reading.isProtected p = m.isProtected p := by
  show (m.standings.get? p).any _ = ((m.standings.get? p).getD _).isProtected
  cases m.standings.get? p with
  | none => rfl
  | some s => rfl

theorem reading_worth (m : ConnectionManager) (p : PeerId) :
    m.reading.worth p = (m.standing p).value := by
  show ((m.standings.get? p).map _).getD 0 = ((m.standings.get? p).getD _).value
  cases m.standings.get? p with
  | none => rfl
  | some s => rfl

theorem mayClose_iff {r : Record} : m.reading.MayClose now r ↔ m.Eligible now r := by
  rw [Reading.MayClose, reading_isProtected]
  exact ⟨fun h => ⟨h.1, h.2.1, h.2.2⟩, fun h => ⟨h.isOpen, h.past, h.free⟩⟩

theorem before_candidate_iff {a b : ConnectionId × Record} :
    (m.candidate a.1 a.2).before (m.candidate b.1 b.2) = true ↔
      m.reading.place a ≤ m.reading.place b := by
  rw [Reading.place, Reading.place, reading_worth, reading_worth, Prod.Lex.toLex_le_toLex,
    Prod.Lex.toLex_le_toLex]
  simp only [Candidate.before, Bool.or_eq_true, Bool.and_eq_true, decide_eq_true_eq]
  exact Iff.rfl

theorem candidate?_eq (m : ConnectionManager) (now : Instant) (e : ConnectionId × Record) :
    m.candidate? now e.1 e.2 =
      if m.reading.MayClose now e.2 then some (m.candidate e.1 e.2) else none := by
  split
  · rename_i h
    exact candidate?_eq_some_iff.mpr ⟨mayClose_iff.mp h, rfl⟩
  · rename_i h
    rw [Option.eq_none_iff_forall_ne_some]
    intro c hc
    exact h (mayClose_iff.mpr (candidate?_eq_some_iff.mp hc).1)

/-- The candidates of a pass are the ranked records. -/
theorem candidates_eq (m : ConnectionManager) (now : Instant) :
    m.candidates now =
      (m.reading.ranked now m.records.entries).map fun e => m.candidate e.1 e.2 := by
  have hunsorted : m.records.entries.filterMap (fun e => m.candidate? now e.1 e.2) =
      (m.records.entries.filter fun e => m.reading.MayClose now e.2).map
        fun e => m.candidate e.1 e.2 := by
    induction m.records.entries with
    | nil => rfl
    | cons e l ih =>
      by_cases h : m.reading.MayClose now e.2
      · simp [candidate?_eq, h, ← ih]
      · simp [candidate?_eq, h, ← ih]
  rw [candidates, hunsorted, Reading.ranked, List.map_mergeSort]
  intro a _ b _
  rw [Bool.eq_iff_iff, decide_eq_true_eq, before_candidate_iff]

/-- A pass returns the first of the ranked records, as many as it wants. -/
theorem trim_fst_eq_take (m : ConnectionManager) (now : Instant) :
    (m.trim now).1 =
      if m.needsTrim then
        ((m.reading.ranked now m.records.entries).take m.surplus).map fun e => (e.2.peer, e.1)
      else [] := by
  rw [trim_fst, chosen]
  split
  · rw [candidates_eq, ← List.map_take, List.map_map]
    rfl
  · rfl

/-- A pass that works takes a connection exactly if it may be closed and fewer stand ahead of it
than the pass wants. -/
theorem mem_trim_iff_ahead {peer : PeerId} {id : ConnectionId} : (peer, id) ∈ (m.trim now).1 ↔
    m.needsTrim = true ∧ ∃ r ∈ m.record? id, r.peer = peer ∧ m.reading.MayClose now r ∧
      m.reading.ahead now m.records.entries (id, r) < m.surplus := by
  rw [trim_fst_eq_take]
  split
  · rename_i hneeds
    rw [and_iff_right hneeds, List.mem_map]
    constructor
    · rintro ⟨⟨id', r⟩, hmem, heq⟩
      obtain ⟨hentry, hmay, hahead⟩ := (Reading.mem_take_ranked_iff m.records.nodup).mp hmem
      cases heq
      exact ⟨r, Table.get?_eq_some_iff.mpr hentry, rfl, hmay, hahead⟩
    · rintro ⟨r, hr, rfl, hmay, hahead⟩
      have hentry := Table.get?_eq_some_iff.mp hr
      exact ⟨(id, r), (Reading.mem_take_ranked_iff m.records.nodup).mpr ⟨hentry, hmay, hahead⟩, rfl⟩
  · rename_i hneeds
    exact iff_of_false List.not_mem_nil fun h => hneeds h.1

/-! ## Managers that track the same -/

/-- Two managers track the same connections under the same marks.  How their tables list them is
left open, and so is what is known about peers. -/
structure TracksSame (m m' : ConnectionManager) : Prop where
  marks : m'.marks = m.marks
  closed : m'.closed = m.closed
  live : m'.live = m.live
  records : ∀ id, m'.record? id = m.record? id

theorem TracksSame.changeStanding (h : m.TracksSame m') (p p' : PeerId)
    (f f' : Standing → Standing) : (m.changeStanding p f).TracksSame (m'.changeStanding p' f') :=
  ⟨h.marks, h.closed, h.live, h.records⟩

theorem TracksSame.entries_perm (h : m.TracksSame m') :
    m'.records.entries.Perm m.records.entries :=
  Table.entries_perm_of_get?_eq h.records

theorem TracksSame.needsTrim_eq (h : m.TracksSame m') :
    m'.needsTrim = m.needsTrim := by
  rw [needsTrim, needsTrim, connectionCount, connectionCount, h.closed, h.marks, h.live]

theorem TracksSame.surplus_eq (h : m.TracksSame m') :
    m'.surplus = m.surplus := by
  rw [surplus, surplus, connectionCount, connectionCount, h.marks, h.live]

/-! ## When a pass works, and what it counts -/

/-- A pass does nothing when passes have ended, when the count is below the high mark, and when it
is at the low one. -/
theorem trim_of_idle (now : Instant)
    (h : m.closed = true ∨ m.connectionCount < m.marks.high ∨
      m.connectionCount = m.marks.low) : m.trim now = ([], m) := by
  refine if_pos ?_
  rcases h with hclosed | hbelow | hlow
  · exact .inl (by rw [needsTrim, hclosed, Bool.not_true, Bool.false_and])
  · refine .inl ?_
    rw [needsTrim, decide_eq_false (Nat.not_le_of_lt hbelow), Bool.and_false]
  · exact .inr (by rw [surplus, hlow, Nat.sub_self])

theorem needsTrim_of_high (hopen : m.closed = false) (hhigh : m.marks.high ≤ m.connectionCount) :
    m.needsTrim = true := by
  rw [needsTrim, hopen, decide_eq_true hhigh, Bool.not_false, Bool.true_and]

/-- A pass that works publishes the live count, counts what it selects, and counts the pass itself
when the live count is still at the high mark. -/
theorem trim_tallies (now : Instant) (hneeds : m.needsTrim = true) (hsurplus : m.surplus ≠ 0) :
    (m.trim now).2.gauge = (m.trim now).2.connectionCount ∧
      (m.trim now).2.pruned = m.pruned + (m.trim now).1.length ∧
      (m.trim now).2.pressure = m.pressure +
        if m.marks.high ≤ (m.trim now).2.connectionCount then 1 else 0 := by
  have hworks : ¬(m.needsTrim = false ∨ m.surplus = 0) := by
    rw [hneeds]
    exact not_or.mpr ⟨Bool.noConfusion, hsurplus⟩
  rw [trim, if_neg hworks]
  exact ⟨rfl, rfl, rfl⟩

/-- Let `E` be the connections that may be closed in the order of closing, however the table lists
its records.  A pass selects nothing and changes nothing when passes have ended, below the high
mark, and at the low one.  Otherwise it selects the first of `E`, as many as there are connections
above the low mark, or all; exactly their records are marked, the live count drops by their number
and stops at the low mark at the lowest, and nothing else changes but what is counted of passes. -/
theorem trim_selects (m : ConnectionManager) (now : Instant)
    {entries : List (ConnectionId × Record)} (hentries : entries.Perm m.records.entries) :
    let E := m.reading.ranked now entries
    let wanted := m.connectionCount - m.marks.low
    let selected := E.take (min wanted E.length)
    let after := (m.trim now).2
    (∀ e, e ∈ E ↔ m.record? e.1 = some e.2 ∧ e.2.closing = false ∧
      m.marks.grace.nanos ≤ now - e.2.established ∧ m.isProtected e.2.peer = false) ∧
    E.Pairwise (fun a b => m.reading.place a < m.reading.place b) ∧
    (m.closed = true ∨ m.connectionCount < m.marks.high ∨ m.connectionCount = m.marks.low →
      m.trim now = ([], m)) ∧
    (m.closed = false → m.marks.high ≤ m.connectionCount → m.connectionCount ≠ m.marks.low →
      (m.trim now).1 = selected.map (fun e => (e.2.peer, e.1)) ∧
      (∀ id, after.record? id = if id ∈ selected.map Prod.fst then
        (m.record? id).map fun r => { r with closing := true } else m.record? id) ∧
      after.connectionCount + selected.length = m.connectionCount ∧
      after.connectionCount = max m.marks.low (m.connectionCount - E.length) ∧
      (wanted ≤ E.length → after.connectionCount = m.marks.low) ∧
      after.standings = m.standings ∧ after.marks = m.marks ∧ after.closed = m.closed ∧
      after.gauge = after.connectionCount ∧ after.pruned = m.pruned + selected.length ∧
      after.pressure = m.pressure + if m.marks.high ≤ after.connectionCount then 1 else 0) := by
  intro E wanted selected after
  have hnames : (entries.map Prod.fst).Nodup :=
    ((hentries.map Prod.fst).nodup_iff).mpr m.records.nodup
  refine ⟨fun e => ?_, Reading.pairwise_ranked hnames, m.trim_of_idle now,
    fun hopen hhigh hlow => ?_⟩
  · rw [Reading.mem_ranked_iff, hentries.mem_iff, ← Table.get?_eq_some_iff, Reading.MayClose,
      reading_isProtected]
    exact Iff.rfl
  · have hneeds := needsTrim_of_high hopen hhigh
    have hmarks := m.marks_trim now
    have hlowhigh := m.marks.low_le_high
    have hE : E = m.reading.ranked now m.records.entries := Reading.ranked_of_perm hentries hnames
    have hchosen : m.chosen now = selected.map fun e => m.candidate e.1 e.2 := by
      rw [chosen, if_pos hneeds, candidates_eq, ← List.map_take, ← hE]
      exact congrArg _ (List.take_eq_take_min ..)
    have hlength : selected.length = min wanted E.length := by
      rw [List.length_take]
      omega
    have hcount : after.connectionCount + selected.length = m.connectionCount := by
      have hlive := hmarks.live
      rwa [hchosen, List.length_map] at hlive
    have hfst : (m.trim now).1 = selected.map fun e => (e.2.peer, e.1) := by
      rw [trim_fst, hchosen, List.map_map]
      rfl
    obtain ⟨hgauge, hpruned, hpressure⟩ := m.trim_tallies now hneeds (by rw [surplus]; omega)
    rw [hfst, List.length_map] at hpruned
    refine ⟨hfst, fun id => ?_, hcount, by omega, by omega, hmarks.standings, hmarks.marks,
      hmarks.closed, hgauge, hpruned, hpressure⟩
    have hids : (m.chosen now).map (·.id) = selected.map Prod.fst := by
      rw [hchosen, List.map_map]
      rfl
    have hrecord := hmarks.records id
    rw [hids] at hrecord
    exact hrecord

/-- Five connections, of which three may be closed: the fourth has a protected peer and the last is
too young.  The records are listed backwards, and a pass takes the count to the low mark. -/
theorem trim_selects_backwards :
    let a : PeerId := ⟨.sha256, [1]⟩
    let b : PeerId := ⟨.sha256, [2]⟩
    let c : PeerId := ⟨.sha256, [3]⟩
    let marks : Watermarks := ⟨3, 4, ⟨5, by decide⟩, .zero, by decide, by decide⟩
    let peers := ((ofMarks marks).tag b "useful" 10).protect c "relay"
    let m := ((((peers.connect 2 b .inbound 0).connect 5 a .inbound 1).connect 1 a .outbound
      1).connect 4 c .inbound 0).connect 3 a .inbound 8
    let E := m.reading.ranked 10 m.records.entries.reverse
    m.records.entries.reverse.Perm m.records.entries ∧ m.closed = false ∧
    m.marks.high ≤ m.connectionCount ∧ m.connectionCount ≠ m.marks.low ∧ E.length = 3 ∧
    (m.trim 10).1 = (E.take (min (m.connectionCount - m.marks.low) E.length)).map
      (fun e => (e.2.peer, e.1)) ∧
    (m.trim 10).2.connectionCount = m.marks.low := by
  intro a b c marks peers m E
  have hentries : m.records.entries.reverse.Perm m.records.entries := List.reverse_perm _
  have hlength : E.length = 3 := by
    rw [(m.reading.ranked_perm 10 _).length_eq]
    decide
  obtain ⟨-, -, -, hworks⟩ := trim_selects m 10 hentries
  obtain ⟨hfst, -, -, -, hlow, -⟩ := hworks (by decide) (by decide) (by decide)
  refine ⟨hentries, by decide, by decide, by decide, hlength, hfst, hlow ?_⟩
  rw [hlength]
  decide

end ConnectionManager

end CircuitRelay
