import CircuitRelay.Disclosure
import CircuitRelay.Proofs.Runs

/-!
# Candidates and announced addresses along a run

Transports start and stop to listen in any order: an address may be added twice, and removed though
it is not there.  A move that finds the candidates as it would leave them reports no change and
computes nothing.  It may as well compute everything anew, because what is announced always follows
from the candidates; so every move is taken to be a computation from scratch.

* `Move`, `step`, `run`, `changes`: runs, and the changes that they report.
* `step_eq_recompute`: a move computes the announced list from the candidates that it leads to.
* `Stands`, `mem_candidates_run_iff`: the candidates are the addresses added and not removed since.
* `exists_candidates_run`, `exists_behind`: later additions stand behind what remains of the
  candidates.
* `announced_ofAddresses`: the announced list of a configured list of addresses.
* `added_step`, `removed_step`: a change is the difference of two announced lists.
* `Change.replay`, `mem_foldl_replay_iff`: a set that is only changed by the reported changes.
-/

namespace CircuitRelay

namespace Disclosure

/-- A transport starts or stops to listen on an address. -/
inductive Move where
  | add (address : Address)
  | remove (address : Address)
  deriving DecidableEq

/-- The candidates after a move. -/
def Move.apply (candidates : List Address) : Move → List Address
  | .add a => pushNew candidates a
  | .remove a => candidates.filter (· ≠ a)

/-- Makes a move; the answer is the change of the announced list. -/
def step (d : Disclosure) : Move → Change × Disclosure
  | .add a => d.add a
  | .remove a => d.remove a

/-- The disclosure after a run. -/
def run (d : Disclosure) (moves : List Move) : Disclosure :=
  moves.foldl (fun d move => (d.step move).2) d

/-- The changes that a run reports, one for each move. -/
def changes (d : Disclosure) : List Move → List Change
  | [] => []
  | move :: rest => (d.step move).1 :: changes (d.step move).2 rest

variable {d : Disclosure} {moves : List Move} {a : Address}

theorem run_append (d : Disclosure) (before after : List Move) :
    d.run (before ++ after) = (d.run before).run after :=
  List.foldl_append

theorem changes_append (d : Disclosure) (before after : List Move) :
    d.changes (before ++ after) = d.changes before ++ (d.run before).changes after := by
  induction before generalizing d with
  | nil => rfl
  | cons move before ih =>
    rw [List.cons_append, changes, changes, ih]
    rfl

/-! ## One move -/

/-- The announced list is the one that the policy gives for the candidates. -/
def IsDerived (d : Disclosure) : Prop := d.announced = d.policy.announced d.candidates

theorem isDerived_ofPolicy (policy : Policy) : (ofPolicy policy).IsDerived := rfl

/-- Nothing is added to a list of announced addresses, or removed, to get the same list. -/
theorem Change.between_self (l : List Address) : Change.between l l = .none := by
  have hnil : l.filter (fun a => !l.contains a) = [] := by
    rw [List.filter_eq_nil_iff]
    intro a ha
    simpa using ha
  rw [Change.between, hnil]
  rfl

theorem recompute_candidates (h : d.IsDerived) : d.recompute d.candidates = (.none, d) := by
  rw [recompute, ← h, Change.between_self]

/-- A move computes the announced list from the candidates that it leads to. -/
theorem step_eq_recompute (h : d.IsDerived) (move : Move) :
    d.step move = d.recompute (move.apply d.candidates) := by
  cases move with
  | add a =>
    show d.add a = d.recompute (pushNew d.candidates a)
    unfold add pushNew
    by_cases ha : a ∈ d.candidates
    · rw [if_pos (List.contains_iff_mem.mpr ha), if_pos ha, recompute_candidates h]
    · rw [if_neg (fun hc => ha (List.contains_iff_mem.mp hc)), if_neg ha]
  | remove a =>
    show d.remove a = d.recompute (d.candidates.filter (· ≠ a))
    unfold remove
    by_cases ha : a ∈ d.candidates
    · rw [if_pos (List.contains_iff_mem.mpr ha)]
    · have hsame : d.candidates.filter (· ≠ a) = d.candidates := by
        rw [List.filter_eq_self]
        intro b hb
        rw [decide_eq_true_eq]
        rintro rfl
        exact ha hb
      rw [if_neg (fun hc => ha (List.contains_iff_mem.mp hc)), hsame, recompute_candidates h]

theorem isDerived_step (h : d.IsDerived) (move : Move) : (d.step move).2.IsDerived := by
  rw [step_eq_recompute h]
  rfl

theorem policy_step (h : d.IsDerived) (move : Move) : (d.step move).2.policy = d.policy := by
  rw [step_eq_recompute h]
  rfl

theorem candidates_step (h : d.IsDerived) (move : Move) :
    (d.step move).2.candidates = move.apply d.candidates := by
  rw [step_eq_recompute h]
  rfl

/-- What a change adds is announced from now on, and was not before. -/
theorem added_step (h : d.IsDerived) (move : Move) :
    (d.step move).1.added = (d.step move).2.announced.filter (· ∉ d.announced) := by
  rw [step_eq_recompute h]
  exact List.filter_congr fun a _ => by simp

/-- What a change removes was announced before, and is not any more. -/
theorem removed_step (h : d.IsDerived) (move : Move) :
    (d.step move).1.removed = d.announced.filter (· ∉ (d.step move).2.announced) := by
  rw [step_eq_recompute h]
  show d.announced.filter _ = d.announced.filter (· ∉ d.policy.announced _)
  exact List.filter_congr fun a _ => by simp

/-- A fixed list never changes. -/
theorem step_of_isFixed (h : d.IsDerived) (hfixed : d.policy.isFixed = true) (move : Move) :
    (d.step move).1 = .none := by
  have hnext : d.policy.announced (move.apply d.candidates) = d.announced := by
    rw [h]
    cases hp : d.policy with
    | fixed addresses => rfl
    | automatic =>
      rw [hp] at hfixed
      cases hfixed
  rw [step_eq_recompute h, recompute, hnext]
  exact Change.between_self d.announced

/-! ## Runs -/

theorem isDerived_run (h : d.IsDerived) (moves : List Move) : (d.run moves).IsDerived := by
  induction moves generalizing d with
  | nil => exact h
  | cons move moves ih => exact ih (isDerived_step h move)

theorem policy_run (h : d.IsDerived) (moves : List Move) : (d.run moves).policy = d.policy := by
  induction moves generalizing d with
  | nil => rfl
  | cons move moves ih => exact (ih (isDerived_step h move)).trans (policy_step h move)

/-- The candidates after one more move. -/
theorem candidates_run_snoc (h : d.IsDerived) (moves : List Move) (move : Move) :
    (d.run (moves ++ [move])).candidates = move.apply (d.run moves).candidates := by
  rw [run_append]
  exact candidates_step (isDerived_run h moves) move

theorem nodup_candidates_run (h : d.IsDerived) (hnodup : d.candidates.Nodup) (moves : List Move) :
    (d.run moves).candidates.Nodup := by
  induction moves using List.reverseRecOn with
  | nil => exact hnodup
  | append_singleton moves move ih =>
    rw [candidates_run_snoc h]
    cases move with
    | add a => exact nodup_pushNew ih a
    | remove a => exact ih.filter _

/-- An address was added, and not removed since. -/
def Stands (moves : List Move) (a : Address) : Prop :=
  ∃ before after, moves = before ++ .add a :: after ∧ .remove a ∉ after

theorem stands_snoc {move : Move} :
    Stands (moves ++ [move]) a ↔ move = .add a ∨ move ≠ .remove a ∧ Stands moves a :=
  since_snoc

/-- Without candidates at the start, the candidates are the addresses added and not removed
since. -/
theorem mem_candidates_run_iff (h : d.IsDerived) (hnil : d.candidates = []) (moves : List Move) :
    a ∈ (d.run moves).candidates ↔ Stands moves a := by
  induction moves using List.reverseRecOn with
  | nil =>
    show a ∈ d.candidates ↔ _
    simp [hnil, Stands]
  | append_singleton moves move ih =>
    rw [candidates_run_snoc h, stands_snoc, ← ih]
    cases move with
    | add b =>
      rw [Move.apply, mem_pushNew]
      by_cases hab : a = b
      · simp [hab]
      · simp [hab, Ne.symm hab]
    | remove b =>
      rw [Move.apply, List.mem_filter]
      by_cases hab : a = b
      · simp [hab]
      · simp [hab, Ne.symm hab]

/-- Of the candidates at the start those remain that are not removed, in their order, and whatever
is added stands behind them. -/
theorem exists_candidates_run (h : d.IsDerived) (moves : List Move) :
    ∃ later, (d.run moves).candidates =
      d.candidates.filter (fun a => .remove a ∉ moves) ++ later := by
  induction moves using List.reverseRecOn with
  | nil =>
    have hall : d.candidates.filter (fun a => .remove a ∉ ([] : List Move)) = d.candidates :=
      List.filter_eq_self.mpr fun a _ => by simp
    exact ⟨[], by rw [hall, List.append_nil]; rfl⟩
  | append_singleton moves move ih =>
    obtain ⟨later, hlater⟩ := ih
    rw [candidates_run_snoc h, hlater]
    cases move with
    | add b =>
      have hremain : d.candidates.filter (fun a => .remove a ∉ moves ++ [.add b]) =
          d.candidates.filter (fun a => .remove a ∉ moves) :=
        List.filter_congr fun a _ => by simp
      rw [hremain]
      show ∃ later', pushNew _ b = _
      unfold pushNew
      split
      · exact ⟨later, rfl⟩
      · exact ⟨later ++ [b], List.append_assoc ..⟩
    | remove b =>
      have hremain : d.candidates.filter (fun a => .remove a ∉ moves ++ [.remove b]) =
          (d.candidates.filter (fun a => .remove a ∉ moves)).filter (· ≠ b) := by
        rw [List.filter_filter]
        exact List.filter_congr fun a _ => by simp [and_comm]
      rw [hremain]
      exact ⟨later.filter (· ≠ b), List.filter_append ..⟩

/-- An address that was added while it was no candidate, and that is not removed any more, stands
right behind those candidates of that time that remain. -/
theorem exists_behind (h : d.IsDerived) {before after : List Move}
    (hnew : a ∉ (d.run before).candidates) (hafter : .remove a ∉ after) :
    ∃ later, (d.run (before ++ .add a :: after)).candidates =
      (d.run before).candidates.filter (fun b => .remove b ∉ after) ++ a :: later := by
  have hadded : (d.run (before ++ [.add a])).candidates = (d.run before).candidates ++ [a] := by
    rw [candidates_run_snoc h]
    exact if_neg hnew
  obtain ⟨later, hlater⟩ := exists_candidates_run (isDerived_run h (before ++ [.add a])) after
  rw [hadded, List.filter_append, List.filter_cons_of_pos (by simpa using hafter),
    List.filter_nil, List.append_assoc] at hlater
  refine ⟨later, ?_⟩
  rw [List.append_cons, run_append]
  exact hlater

/-! ## Configured lists -/

theorem candidates_ofPolicy (policy : Policy) : (ofPolicy policy).candidates = [] := rfl

/-- A configured list is announced without repetitions; otherwise the public candidates are. -/
theorem announced_ofAddresses (addresses : List Address) {candidates : List Address}
    (h : candidates.Nodup) :
    (Policy.ofAddresses addresses).announced candidates =
      if addresses = [] then candidates.filter Address.isPublic else distinct addresses := by
  cases addresses with
  | nil => exact distinct_eq_self (h.filter _)
  | cons a addresses => rfl

theorem nodup_announced (addresses candidates : List Address) :
    ((Policy.ofAddresses addresses).announced candidates).Nodup := by
  cases addresses with
  | nil => exact nodup_distinct _
  | cons a addresses => exact nodup_distinct _

theorem isFixed_ofAddresses {addresses : List Address} (h : addresses ≠ []) :
    (Policy.ofAddresses addresses).isFixed = true := by
  cases addresses with
  | nil => exact absurd rfl h
  | cons a addresses => rfl

/-! ## Replaying changes -/

/-- A list of addresses that follows a change. -/
def Change.replay (external : List Address) (c : Change) : List Address :=
  c.added.foldl pushNew (external.filter fun a => !c.removed.contains a)

theorem Change.mem_replay_iff {external : List Address} {c : Change} :
    a ∈ c.replay external ↔ a ∈ external ∧ a ∉ c.removed ∨ a ∈ c.added := by
  rw [replay, mem_foldl_pushNew, List.mem_filter]
  simp

theorem Change.nodup_replay {external : List Address} (h : external.Nodup) (c : Change) :
    (c.replay external).Nodup :=
  nodup_foldl_pushNew (h.filter _)

/-- A list without repetitions may be published as a whole. -/
theorem Change.replay_nil {l : List Address} (h : l.Nodup) : replay [] ⟨l, []⟩ = l :=
  distinct_eq_self h

/-- Whoever knew the announced addresses knows them after replaying a change. -/
theorem mem_replay_step_iff (h : d.IsDerived) {external : List Address}
    (hexternal : ∀ a, a ∈ external ↔ a ∈ d.announced) (move : Move) :
    a ∈ (d.step move).1.replay external ↔ a ∈ (d.step move).2.announced := by
  rw [Change.mem_replay_iff, added_step h, removed_step h, hexternal, List.mem_filter,
    List.mem_filter]
  by_cases hold : a ∈ d.announced
  · simp [hold]
  · simp [hold]

theorem mem_foldl_replay_iff (h : d.IsDerived) {external : List Address}
    (hexternal : ∀ a, a ∈ external ↔ a ∈ d.announced) (moves : List Move) :
    a ∈ (d.changes moves).foldl Change.replay external ↔ a ∈ (d.run moves).announced := by
  induction moves generalizing d external with
  | nil => exact hexternal a
  | cons move moves ih =>
    exact ih (isDerived_step h move) fun a => mem_replay_step_iff h hexternal move

theorem nodup_foldl_replay {external : List Address} (h : external.Nodup) (changes : List Change) :
    (changes.foldl Change.replay external).Nodup := by
  induction changes generalizing external with
  | nil => exact h
  | cons c changes ih => exact ih (c.nodup_replay h)

end Disclosure

end CircuitRelay
