import CircuitRelay.Connection.Manager

/-!
# What one pass selects

A pass walks along its candidates and marks their records one after the other.  Seen from outside
it is one decision: it takes the first candidates, as many as it wants or all there are, marks
exactly their records, and lowers the live count by their number.

* `mem_candidates_iff`, `nodup_candidates`: the candidates are the connections past their grace
  period that were not selected before and whose peer nobody protects, each of them once.
* `chosen`: the candidates that a pass takes.
* `Marks m cs m'`: in `m'` the connections of the candidates `cs` of `m` are marked.
* `foldl_select_eq`: the walk along the candidates.
* `trim_fst`, `marks_trim`: a pass returns and marks the chosen candidates.

The live count is a machine word.  A pass wants no more than the count, so that it never wraps
here, whatever was counted before.
-/

namespace CircuitRelay

open Connection

namespace ConnectionManager

variable {m m' : ConnectionManager} {now : Instant} {c : Candidate} {n : Nat}

/-! ## Candidates -/

theorem phase_eq_prunable_iff {r : Record} {grace : Duration} :
    r.phase grace now = .prunable ↔ r.closing = false ∧ grace.nanos ≤ r.age now := by
  unfold Record.phase
  cases r.closing with
  | true => simp
  | false =>
    by_cases hage : r.age now < grace.nanos
    · simp [hage]
    · simp [hage, Nat.le_of_not_lt hage]

/-- A pass may close a connection. -/
structure Eligible (m : ConnectionManager) (now : Instant) (r : Record) : Prop where
  isOpen : r.closing = false
  past : m.marks.grace.nanos ≤ r.age now
  free : m.isProtected r.peer = false

/-- The candidate that an eligible record makes. -/
def candidate (m : ConnectionManager) (id : ConnectionId) (r : Record) : Candidate :=
  ⟨id, r.peer, (m.standing r.peer).value, r.established⟩

theorem candidate?_eq_some_iff {id : ConnectionId} {r : Record} :
    m.candidate? now id r = some c ↔ m.Eligible now r ∧ c = m.candidate id r := by
  unfold candidate?
  constructor
  · intro h
    split at h
    · rename_i hfree
      obtain ⟨hopen, hpast⟩ := phase_eq_prunable_iff.mp hfree.1
      exact ⟨⟨hopen, hpast, hfree.2⟩, (Option.some.inj h).symm⟩
    · cases h
  · rintro ⟨h, rfl⟩
    rw [if_pos ⟨phase_eq_prunable_iff.mpr ⟨h.isOpen, h.past⟩, h.free⟩]
    rfl

theorem mem_candidates_iff : c ∈ m.candidates now ↔
    ∃ id r, m.records.get? id = some r ∧ m.Eligible now r ∧ c = m.candidate id r := by
  rw [candidates, List.mem_mergeSort, List.mem_filterMap]
  constructor
  · rintro ⟨⟨id, r⟩, he, hc⟩
    exact ⟨id, r, Table.get?_eq_some_iff.mpr he, candidate?_eq_some_iff.mp hc⟩
  · rintro ⟨id, r, hr, hc⟩
    exact ⟨(id, r), Table.get?_eq_some_iff.mp hr, candidate?_eq_some_iff.mpr hc⟩

/-- Every connection makes at most one candidate. -/
theorem nodup_candidates (m : ConnectionManager) (now : Instant) :
    ((m.candidates now).map (·.id)).Nodup := by
  have hsorted : ((m.candidates now).map (·.id)).Perm
      ((m.records.entries.filterMap fun e => m.candidate? now e.1 e.2).map (·.id)) :=
    (List.mergeSort_perm _ _).map _
  have hids : (m.records.entries.filterMap fun e => m.candidate? now e.1 e.2).map (·.id) =
      (m.records.entries.filter fun e => (m.candidate? now e.1 e.2).isSome).map Prod.fst := by
    induction m.records.entries with
    | nil => rfl
    | cons e l ih =>
      cases hc : m.candidate? now e.1 e.2 with
      | none => simp [hc, ih]
      | some c =>
        have hid : c.id = e.1 := by rw [(candidate?_eq_some_iff.mp hc).2, candidate]
        simp [hc, ih, hid]
  rw [hsorted.nodup_iff, hids]
  exact m.records.nodup.sublist (List.filter_sublist.map _)

/-! ## Marking -/

/-- The name under which a candidate is returned. -/
def Candidate.entry (c : Candidate) : PeerId × ConnectionId := (c.peer, c.id)

/-- The record of a connection that was selected for closing. -/
def marked (r : Record) : Record := { r with closing := true }

/-- The manager `m'` is `m` after the connections of some candidates were marked: they no longer
count as live, and nothing else has changed. -/
structure Marks (m : ConnectionManager) (cs : List Candidate) (m' : ConnectionManager) : Prop where
  records : ∀ id, m'.records.get? id =
    if id ∈ cs.map (·.id) then (m.records.get? id).map marked else m.records.get? id
  live : m'.live.toNat + cs.length = m.live.toNat
  marks : m'.marks = m.marks
  closed : m'.closed = m.closed
  standings : m'.standings = m.standings

theorem Marks.refl (m : ConnectionManager) : Marks m [] m where
  records _ := rfl
  live := rfl
  marks := rfl
  closed := rfl
  standings := rfl

theorem select_of_length {s : List (PeerId × ConnectionId) × ConnectionManager}
    (h : s.1.length = n) : select n s c = s :=
  if_pos h

theorem select_of_open {s : List (PeerId × ConnectionId) × ConnectionManager} {r : Record}
    (hlength : s.1.length ≠ n) (hr : s.2.records.get? c.id = some r) (hopen : r.closing = false) :
    select n s c = (s.1 ++ [c.entry],
      { s.2 with records := s.2.records.insert c.id (marked r), live := s.2.live - 1 }) := by
  simp only [select, hlength, hr, hopen, if_false, Bool.false_eq_true]
  rfl

/-- One more connection is marked. -/
theorem Marks.snoc {cs : List Candidate} {r : Record} (h : Marks m cs m')
    (hr : m.records.get? c.id = some r) (hlive : cs.length < m.live.toNat) :
    Marks m (cs ++ [c])
      { m' with records := m'.records.insert c.id (marked r), live := m'.live - 1 } where
  records id := by
    rw [Table.get?_insert]
    by_cases hid : c.id = id
    · subst hid
      rw [if_pos rfl, if_pos (by simp), hr]
      rfl
    · have hmem : id ∈ (cs ++ [c]).map (·.id) ↔ id ∈ cs.map (·.id) := by simp [Ne.symm hid]
      simp only [hid, if_false, hmem]
      exact h.records id
  live := by
    have hone : (1 : UInt64) ≤ m'.live := by
      have hsum := h.live
      rw [UInt64.le_iff_toNat_le]
      show 1 ≤ m'.live.toNat
      omega
    have hsum := h.live
    show (m'.live - 1).toNat + (cs ++ [c]).length = m.live.toNat
    rw [UInt64.toNat_sub_of_le _ _ hone, List.length_append, List.length_singleton]
    show m'.live.toNat - 1 + (cs.length + 1) = m.live.toNat
    omega
  marks := h.marks
  closed := h.closed
  standings := h.standings

/-- The walk along the candidates, from any one on: those before it are marked. -/
theorem foldl_select_eq (done : List Candidate) {rest : List Candidate}
    (hnodup : ((done ++ rest).map (·.id)).Nodup)
    (hopen : ∀ c ∈ rest, ∃ r, m.records.get? c.id = some r ∧ r.closing = false)
    (hlive : n ≤ m.live.toNat) (hdone : done.length ≤ n) (h : Marks m done m') :
    let s := rest.foldl (select n) (done.map Candidate.entry, m')
    s.1 = (done ++ rest.take (n - done.length)).map Candidate.entry ∧
      Marks m (done ++ rest.take (n - done.length)) s.2 := by
  induction rest generalizing done m' with
  | nil =>
    rw [List.take_nil, List.append_nil]
    exact ⟨rfl, h⟩
  | cons c rest ih =>
    rw [List.foldl_cons]
    by_cases hlength : done.length = n
    · -- enough are selected, and the rest is passed over
      rw [select_of_length (by rw [List.length_map]; exact hlength)]
      have hnodup' : ((done ++ rest).map (·.id)).Nodup :=
        hnodup.sublist (((List.sublist_cons_self c rest).append_left done).map _)
      have hrest := ih done hnodup' (fun c' hc' => hopen c' (List.mem_cons_of_mem c hc')) hdone h
      rwa [hlength, Nat.sub_self, List.take_zero] at hrest ⊢
    · obtain ⟨r, hr, hclosing⟩ := hopen c List.mem_cons_self
      have hfresh : c.id ∉ done.map (·.id) := by
        rw [List.map_append, List.nodup_append] at hnodup
        intro hmem
        exact hnodup.2.2 c.id hmem c.id (List.mem_map_of_mem List.mem_cons_self) rfl
      have hr' : m'.records.get? c.id = some r := by
        rw [h.records, if_neg hfresh]
        exact hr
      have hroom : n - done.length = n - (done ++ [c]).length + 1 := by
        rw [List.length_append, List.length_singleton]
        omega
      have hentries : done.map Candidate.entry ++ [c.entry] =
          (done ++ [c]).map Candidate.entry := by
        rw [List.map_append, List.map_singleton]
      have htake : done ++ (c :: rest).take (n - done.length) =
          (done ++ [c]) ++ rest.take (n - (done ++ [c]).length) := by
        rw [hroom, List.take_succ_cons, ← List.append_cons]
      rw [select_of_open (by rw [List.length_map]; exact hlength) hr' hclosing, hentries, htake]
      refine ih _ ?_ (fun c' hc' => hopen c' (List.mem_cons_of_mem c hc')) ?_
        (h.snoc hr (by omega))
      · rwa [← List.append_cons]
      · rw [List.length_append, List.length_singleton]
        omega

/-! ## The whole pass -/

/-- The candidates that a pass takes: none without need, else the first ones, as many as there are
connections above the low mark. -/
def chosen (m : ConnectionManager) (now : Instant) : List Candidate :=
  if m.needsTrim then (m.candidates now).take m.surplus else []

theorem chosen_sublist (m : ConnectionManager) (now : Instant) :
    (m.chosen now).Sublist (m.candidates now) := by
  unfold chosen
  split
  · exact List.take_sublist _ _
  · exact List.nil_sublist _

/-- A pass takes no more than the surplus. -/
theorem length_chosen_le (m : ConnectionManager) (now : Instant) :
    (m.chosen now).length ≤ m.surplus := by
  unfold chosen
  split
  · rw [List.length_take]
    exact Nat.min_le_left _ _
  · exact Nat.zero_le _

/-- A pass returns the chosen candidates in order, and marks their records. -/
theorem trim_fst_and_marks (m : ConnectionManager) (now : Instant) :
    (m.trim now).1 = (m.chosen now).map Candidate.entry ∧
      Marks m (m.chosen now) (m.trim now).2 := by
  unfold trim chosen
  cases hneeds : m.needsTrim with
  | false => exact ⟨rfl, .refl m⟩
  | true =>
    by_cases hsurplus : m.surplus = 0
    · rw [if_pos (.inr hsurplus), hsurplus]
      exact ⟨rfl, .refl m⟩
    · have hneither : ¬(true = false ∨ m.surplus = 0) := by simp [hsurplus]
      have hopen : ∀ c ∈ m.candidates now,
          ∃ r, m.records.get? c.id = some r ∧ r.closing = false := by
        intro c hc
        obtain ⟨id, r, hr, heligible, rfl⟩ := mem_candidates_iff.mp hc
        exact ⟨r, hr, heligible.isOpen⟩
      have hwalk := foldl_select_eq (n := m.surplus) [] (m.nodup_candidates now) hopen
        (Nat.sub_le _ _) (Nat.zero_le _) (.refl m)
      rw [List.length_nil, Nat.sub_zero, List.nil_append] at hwalk
      obtain ⟨hfst, hmarks⟩ := hwalk
      rw [if_neg hneither, if_pos rfl]
      exact ⟨hfst, hmarks.records, hmarks.live, hmarks.marks, hmarks.closed, hmarks.standings⟩

theorem trim_fst (m : ConnectionManager) (now : Instant) :
    (m.trim now).1 = (m.chosen now).map Candidate.entry :=
  (m.trim_fst_and_marks now).1

theorem marks_trim (m : ConnectionManager) (now : Instant) :
    Marks m (m.chosen now) (m.trim now).2 :=
  (m.trim_fst_and_marks now).2

/-- The connections that a pass returns are different ones. -/
theorem nodup_trim (m : ConnectionManager) (now : Instant) :
    ((m.trim now).1.map Prod.snd).Nodup := by
  rw [trim_fst, List.map_map]
  exact (m.nodup_candidates now).sublist ((m.chosen_sublist now).map _)

theorem isProtected_trim (m : ConnectionManager) (now : Instant) (peer : PeerId) :
    (m.trim now).2.isProtected peer = m.isProtected peer := by
  rw [isProtected, isProtected, standing, standing, (m.marks_trim now).standings]

end ConnectionManager

end CircuitRelay
