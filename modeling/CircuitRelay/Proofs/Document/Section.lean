import CircuitRelay.Document.Section
import Mathlib.Data.List.Nodup
import Mathlib.Data.List.Pairwise
import Mathlib.Data.List.Perm.Basic
import Mathlib.Data.String.Basic

/-!
# Sections of whole objects

`faultOfFields?` goes through the fields of a section in order and remembers the settings that it
has met.  What it looks for does not depend on the order, and this file says so: an object is taken
by a schema when every member is read or passed over and no two members name one setting.  The
changes that a section makes are then a matter of which member names which setting.

* `fieldsOf`, `object`: an object with nothing wrong in its text.
* `Unambiguous`, `entry?_eq_some_iff`: no key names two settings.
* `Takes`, `faultOfFields?_eq_none_iff`: the objects in which a section finds no flaw.
* `value?_eq_some_iff`: the value of a setting, wherever it stands.
* `apply_turn`: two objects whose settings differ by one correspondence of sections.
* `unknownKeys_fieldsOf`: the keys that name nothing are listed once each.
-/

namespace CircuitRelay

namespace Document

/-- The members of an object. -/
abbrev Members := List (String × Document)

/-- The fields of an object with these members. -/
def fieldsOf (members : Members) : Fields := members.map fun m => (.known m.1, m.2)

/-- The object with these members. -/
def object (members : Members) : Document := .record (fieldsOf members) none

theorem fieldsOf_injective : Function.Injective fieldsOf := by
  refine List.map_injective_iff.mpr fun m m' h => ?_
  simp only [Prod.mk.injEq, Label.known.injEq] at h
  exact Prod.ext h.1 h.2

theorem object_inj {members members' : Members} :
    object members = object members' ↔ members = members' := by
  simp only [object, record.injEq, and_true]
  exact fieldsOf_injective.eq_iff

namespace Schema

variable {σ : Type} {schema : Schema σ} {e e' : Entry σ} {pass? : Document → Option Flaw}
  {levels : Nat} {members : Members}

/-! ## Keys -/

/-- The keys of a setting. -/
def keysOf (e : Entry σ) : List String := e.key :: e.otherKey.toList

theorem names_iff {key : String} : names e key = true ↔ key ∈ keysOf e := by
  simp only [names, keysOf, Bool.or_eq_true, decide_eq_true_eq, List.mem_cons, Option.mem_toList,
    eq_comm (a := key)]

/-- No key names two settings. -/
def Unambiguous (schema : Schema σ) : Prop :=
  ∀ e ∈ schema, ∀ e' ∈ schema, ∀ key, names e key = true → names e' key = true → e = e'

theorem unambiguous_of_nodup (h : (schema.flatMap keysOf).Nodup) : schema.Unambiguous := by
  have apart : schema.Pairwise fun e e' =>
      ∀ key, names e key = true → names e' key = true → e = e' := by
    refine (List.nodup_flatMap.mp h).2.imp fun disjoint key named named' => ?_
    exact absurd (names_iff.mp named') (disjoint (names_iff.mp named))
  have symm : Std.Symm fun e e' : Entry σ =>
      ∀ key, names e key = true → names e' key = true → e = e' :=
    ⟨fun _ _ same key named named' => (same key named' named).symm⟩
  intro e he e' he' key named named'
  exact apart.forall_of_forall (fun _ _ _ _ _ => rfl) he he' key named named'

theorem Unambiguous.eq_of_key (h : schema.Unambiguous) (he : e ∈ schema) (he' : e' ∈ schema)
    (same : e.key = e'.key) : e = e' :=
  h e he e' he' e.key (by simp [names]) (by simp [names, same])

theorem entry?_eq_some_iff (h : schema.Unambiguous) {key : String} :
    schema.entry? key = some e ↔ e ∈ schema ∧ names e key = true := by
  constructor
  · intro found
    exact ⟨List.mem_of_find?_eq_some found, List.find?_some (p := fun e => names e key) found⟩
  · rintro ⟨he, named⟩
    obtain ⟨e', found⟩ : ∃ e', schema.entry? key = some e' :=
      Option.isSome_iff_exists.mp (List.find?_isSome.mpr ⟨e, he, named⟩)
    rw [found, h e he e' (List.mem_of_find?_eq_some found) key named
      (List.find?_some (p := fun e => names e key) found)]

theorem entry?_eq_none_iff {key : String} :
    schema.entry? key = none ↔ ∀ e ∈ schema, ¬ names e key = true :=
  List.find?_eq_none

/-! ## Flaws -/

/-- An object that a schema takes, its members being read or passed over in any order. -/
structure Takes (schema : Schema σ) (pass? : Document → Option Flaw) (levels : Nat)
    (members : Members) : Prop where
  /-- What stands behind the key of a setting can be read. -/
  reads : ∀ m ∈ members, ∀ e, schema.entry? m.1 = some e →
    ∃ change, e.read levels m.2 = .ok change
  /-- What stands behind another key is sound. -/
  passes : ∀ m ∈ members, schema.entry? m.1 = none → pass? m.2 = none
  /-- No setting is given twice. -/
  once : members.Pairwise fun m m' => ∀ e e', schema.entry? m.1 = some e →
    schema.entry? m'.1 = some e' → e.key ≠ e'.key

theorem takes_nil : schema.Takes pass? levels [] := ⟨by simp, by simp, .nil⟩

theorem takes_cons_of_named {key : String} {d : Document} (found : schema.entry? key = some e) :
    schema.Takes pass? levels ((key, d) :: members) ↔
      (∃ change, e.read levels d = .ok change) ∧
      (∀ m ∈ members, ∀ e', schema.entry? m.1 = some e' → e'.key ≠ e.key) ∧
      schema.Takes pass? levels members := by
  constructor
  · rintro ⟨reads, passes, once⟩
    rw [List.pairwise_cons] at once
    refine ⟨reads _ List.mem_cons_self e found, ?_, ?_, ?_, once.2⟩
    · exact fun m hm e' found' => (once.1 m hm e e' found found').symm
    · exact fun m hm => reads m (List.mem_cons_of_mem _ hm)
    · exact fun m hm => passes m (List.mem_cons_of_mem _ hm)
  · rintro ⟨read, apart, reads, passes, once⟩
    refine ⟨List.forall_mem_cons.mpr ⟨?_, reads⟩, List.forall_mem_cons.mpr ⟨?_, passes⟩,
      List.pairwise_cons.mpr ⟨?_, once⟩⟩
    · rintro e' found'
      obtain rfl : e = e' := Option.some_inj.mp (found.symm.trans found')
      exact read
    · simp [found]
    · rintro m hm e₁ e₂ found₁ found₂
      obtain rfl : e = e₁ := Option.some_inj.mp (found.symm.trans found₁)
      exact (apart m hm e₂ found₂).symm

theorem takes_cons_of_unnamed {key : String} {d : Document} (found : schema.entry? key = none) :
    schema.Takes pass? levels ((key, d) :: members) ↔
      pass? d = none ∧ schema.Takes pass? levels members := by
  constructor
  · rintro ⟨reads, passes, once⟩
    refine ⟨passes _ List.mem_cons_self found, ?_, ?_, (List.pairwise_cons.mp once).2⟩
    · exact fun m hm => reads m (List.mem_cons_of_mem _ hm)
    · exact fun m hm => passes m (List.mem_cons_of_mem _ hm)
  · rintro ⟨pass, reads, passes, once⟩
    refine ⟨List.forall_mem_cons.mpr ⟨?_, reads⟩, List.forall_mem_cons.mpr ⟨fun _ => pass, passes⟩,
      List.pairwise_cons.mpr ⟨?_, once⟩⟩
    · simp [found]
    · simp [found]

/-- An object whose first field is given has its members behind a first key. -/
theorem exists_members_cons {label : Label} {d : Document} {rest : Fields} {P : Members → Prop} :
    (∃ members, (label, d) :: rest = fieldsOf members ∧ P members) ↔
      ∃ key members, label = .known key ∧ rest = fieldsOf members ∧ P ((key, d) :: members) := by
  constructor
  · rintro ⟨members, same, h⟩
    cases members with
    | nil => cases same
    | cons m members =>
      simp only [fieldsOf, List.map_cons, List.cons.injEq, Prod.mk.injEq] at same
      obtain ⟨⟨rfl, rfl⟩, rfl⟩ := same
      exact ⟨m.1, members, rfl, rfl, h⟩
  · rintro ⟨key, members, rfl, rfl, h⟩
    exact ⟨(key, d) :: members, rfl, h⟩

/-- The fields without a flaw, when some settings were given before: an object that the schema
takes and that gives none of them again. -/
theorem faultOfFields?_eq_none_iff {given : List String} {fields : Fields} :
    schema.faultOfFields? pass? levels given fields = none ↔
      ∃ members, fields = fieldsOf members ∧ schema.Takes pass? levels members ∧
        ∀ m ∈ members, ∀ e, schema.entry? m.1 = some e → e.key ∉ given := by
  induction fields generalizing given with
  | nil =>
    refine ⟨fun _ => ⟨[], rfl, takes_nil, by simp⟩, fun _ => rfl⟩
  | cons f rest ih =>
    obtain ⟨label, d⟩ := f
    rw [exists_members_cons]
    cases label with
    | unpaired => simp [faultOfFields?]
    | missing stop => simp [faultOfFields?]
    | known key =>
      cases found : schema.entry? key with
      | none =>
        simp only [faultOfFields?, found, Option.or_eq_none_iff, ih]
        constructor
        · rintro ⟨pass, members, rfl, takes, fresh⟩
          exact ⟨key, members, rfl, rfl, (takes_cons_of_unnamed found).mpr ⟨pass, takes⟩,
            List.forall_mem_cons.mpr ⟨by simp [found], fresh⟩⟩
        · rintro ⟨key', members, same, rfl, takes, fresh⟩
          cases same
          obtain ⟨pass, takes⟩ := (takes_cons_of_unnamed found).mp takes
          exact ⟨pass, members, rfl, takes, (List.forall_mem_cons.mp fresh).2⟩
      | some e =>
        simp only [faultOfFields?, found]
        constructor
        · intro none
          split_ifs at none with again
          split at none
          · cases none
          · rename_i change read
            obtain ⟨members, rfl, takes, fresh⟩ := ih.mp none
            refine ⟨key, members, rfl, rfl, (takes_cons_of_named found).mpr
              ⟨⟨change, read⟩, fun m hm e' found' same => ?_, takes⟩,
              List.forall_mem_cons.mpr ⟨?_, fun m hm e' found' old => ?_⟩⟩
            · exact fresh m hm e' found' (same ▸ List.mem_cons_self)
            · rintro e' found'
              obtain rfl : e = e' := Option.some_inj.mp (found.symm.trans found')
              exact again
            · exact fresh m hm e' found' (List.mem_cons_of_mem _ old)
        · rintro ⟨key', members, same, rfl, takes, fresh⟩
          cases same
          obtain ⟨⟨change, read⟩, apart, takes⟩ := (takes_cons_of_named found).mp takes
          obtain ⟨first, fresh⟩ := List.forall_mem_cons.mp fresh
          rw [if_neg (first e found), read]
          refine ih.mpr ⟨members, rfl, takes, fun m hm e' found' old => ?_⟩
          rcases List.mem_cons.mp old with same | old
          · exact apart m hm e' found' same
          · exact fresh m hm e' found' old

/-- A section is read from exactly the objects that its schema takes. -/
theorem readFields_eq_ok_iff {start s : σ} {fields : Fields} {ending : Option Flaw} :
    schema.readFields pass? start levels fields ending = .ok s ↔
      ending = none ∧ (∃ members, fields = fieldsOf members ∧ schema.Takes pass? levels members) ∧
        s = schema.apply levels fields start := by
  have taken : schema.faultOfFields? pass? levels [] fields = none ↔
      ∃ members, fields = fieldsOf members ∧ schema.Takes pass? levels members := by
    simp [faultOfFields?_eq_none_iff]
  unfold readFields
  split
  · rename_i flaw found
    constructor
    · rintro ⟨⟩
    · rintro ⟨rfl, takes, rfl⟩
      rw [Option.or_none, taken.mpr takes] at found
      cases found
  · rename_i sound
    rw [Option.or_eq_none_iff, taken] at sound
    simp [sound, eq_comm]

/-! ## Values -/

theorem value?_fieldsOf : value? e (fieldsOf members) =
    (members.find? fun m => names e m.1).map Prod.snd := by
  simp only [value?, fieldsOf, List.find?_map, Option.map_map]
  congr 1

/-- The value of a setting is what stands behind its only key. -/
theorem value?_eq_some_iff (h : schema.Unambiguous) (takes : schema.Takes pass? levels members)
    (he : e ∈ schema) {d : Document} :
    value? e (fieldsOf members) = some d ↔ ∃ key, (key, d) ∈ members ∧ names e key = true := by
  rw [value?_fieldsOf, Option.map_eq_some_iff]
  constructor
  · rintro ⟨⟨key, d⟩, found, rfl⟩
    exact ⟨key, List.mem_of_find?_eq_some found,
      List.find?_some (p := fun m : String × Document => names e m.1) found⟩
  · rintro ⟨key, hm, named⟩
    refine ⟨(key, d), ?_, rfl⟩
    obtain ⟨before, after, rfl⟩ := List.append_of_mem hm
    rw [List.find?_eq_some_iff_append]
    refine ⟨named, before, after, rfl, fun m hm' => ?_⟩
    have apart := (List.pairwise_append.mp takes.once).2.2 m hm' (key, d) List.mem_cons_self
    simp only [Bool.not_eq_true', Bool.eq_false_iff]
    intro named'
    exact apart e e ((entry?_eq_some_iff h).mpr ⟨he, named'⟩)
      ((entry?_eq_some_iff h).mpr ⟨he, named⟩) rfl

section Middle

variable {before after : Members} {key : String} {d : Document}

theorem value?_middle_self (h : schema.Unambiguous)
    (takes : schema.Takes pass? levels (before ++ (key, d) :: after))
    (found : schema.entry? key = some e) :
    value? e (fieldsOf (before ++ (key, d) :: after)) = some d := by
  obtain ⟨he, named⟩ := (entry?_eq_some_iff h).mp found
  exact (value?_eq_some_iff h takes he).mpr ⟨key, by simp, named⟩

/-- A member does not matter to a setting that it does not name. -/
theorem value?_middle (h : schema.Unambiguous) (he : e ∈ schema)
    (other : schema.entry? key ≠ some e) : value? e (fieldsOf (before ++ (key, d) :: after)) =
      value? e (fieldsOf (before ++ after)) := by
  have unnamed : ¬ names e key = true := fun named =>
    other ((entry?_eq_some_iff h).mpr ⟨he, named⟩)
  simp only [value?_fieldsOf, List.find?_append,
    List.find?_cons_of_neg (p := fun m => names e m.1) (a := (key, d)) unnamed]

/-- A setting with a member of its own has no other. -/
theorem value?_without (h : schema.Unambiguous)
    (takes : schema.Takes pass? levels (before ++ (key, d) :: after))
    (found : schema.entry? key = some e) : value? e (fieldsOf (before ++ after)) = none := by
  have he := ((entry?_eq_some_iff h).mp found).1
  rw [value?_fieldsOf, Option.map_eq_none_iff, List.find?_eq_none]
  intro m hm named
  have found' : schema.entry? m.1 = some e := (entry?_eq_some_iff h).mpr ⟨he, named⟩
  have once := takes.once
  rw [List.pairwise_append, List.pairwise_cons] at once
  rcases List.mem_append.mp hm with hm | hm
  · exact once.2.2 m hm (key, d) List.mem_cons_self e e found' found rfl
  · exact once.2.1.1 m hm e e found found' rfl

end Middle

/-! ## Changes -/

theorem applyEntry_of_none {fields : Fields} {s : σ} (h : value? e fields = none) :
    applyEntry levels fields s e = s := by
  simp only [applyEntry, h]

theorem applyEntry_of_some {fields : Fields} {s : σ} {d : Document} {change : σ → σ}
    (h : value? e fields = some d) (read : e.read levels d = .ok change) :
    applyEntry levels fields s e = change s := by
  simp only [applyEntry, h, read]

theorem applyEntry_congr {fields fields' : Fields} {s : σ} {d d' : Document}
    (h : value? e fields = some d) (h' : value? e fields' = some d')
    (same : e.read levels d' = e.read levels d) :
    applyEntry levels fields s e = applyEntry levels fields' s e := by
  simp only [applyEntry, h, h', same]

/-- A correspondence of sections that a change respects passes through a setting with one value in
both objects. -/
theorem turn_applyEntry {fields fields' : Fields} (turn : σ → σ) {s : σ}
    (h : ∀ d change, e.read levels d = .ok change → ∀ s, turn (change s) = change (turn s))
    (same : value? e fields = value? e fields') :
    turn (applyEntry levels fields s e) = applyEntry levels fields' (turn s) e := by
  unfold applyEntry
  rw [same]
  cases value? e fields' with
  | none => rfl
  | some d =>
    dsimp only
    cases read : e.read levels d with
    | error flaw => rfl
    | ok change => exact h d change read s

/-- When a correspondence of sections turns each change by one object into the change by another,
it turns what the one object gives into what the other gives. -/
theorem apply_turn {fields fields' : Fields} (turn : σ → σ) {start : σ}
    (h : ∀ e ∈ schema, ∀ s,
      turn (applyEntry levels fields s e) = applyEntry levels fields' (turn s) e) :
    turn (schema.apply levels fields start) = schema.apply levels fields' (turn start) := by
  unfold apply
  induction schema generalizing start with
  | nil => rfl
  | cons e rest ih =>
    rw [List.foldl_cons, List.foldl_cons,
      ih (fun e he => h e (List.mem_cons_of_mem _ he)), h e List.mem_cons_self]

/-! ## Keys that name nothing -/

theorem eraseRepsBy_loop (r : String → String → Bool) (a : String) (as acc : List String) :
    List.eraseRepsBy.loop r a as acc = acc.reverse ++ List.eraseRepsBy.loop r a as [] := by
  induction as generalizing a acc with
  | nil => simp [List.eraseRepsBy.loop]
  | cons b as ih =>
    simp only [List.eraseRepsBy.loop]
    cases r a b with
    | true => exact ih a acc
    | false =>
      dsimp only
      rw [ih b (a :: acc), ih b [a], List.reverse_cons, List.append_assoc, List.reverse_singleton]

/-- Without its repetitions a sorted list has the same members once each. -/
theorem eraseReps_of_sorted {l : List String} (sorted : l.Pairwise (· ≤ ·)) :
    l.eraseReps.Pairwise (· < ·) ∧ ∀ x, x ∈ l.eraseReps ↔ x ∈ l := by
  cases l with
  | nil => exact ⟨.nil, fun _ => Iff.rfl⟩
  | cons a as =>
    simp only [List.eraseReps, List.eraseRepsBy]
    induction as generalizing a with
    | nil => simp [List.eraseRepsBy.loop]
    | cons b as ih =>
      obtain ⟨first, rest⟩ := List.pairwise_cons.mp sorted
      simp only [List.eraseRepsBy.loop]
      by_cases same : a = b
      · subst same
        simp only [beq_self_eq_true]
        obtain ⟨increasing, members⟩ := ih a rest
        exact ⟨increasing, fun x => by rw [members]; simp⟩
      · rw [beq_false_of_ne same]
        dsimp only
        rw [eraseRepsBy_loop]
        obtain ⟨increasing, members⟩ := ih b rest
        refine ⟨List.pairwise_cons.mpr ⟨fun x hx => ?_, increasing⟩, fun x => ?_⟩
        · have below : a < b := lt_of_le_of_ne (first b List.mem_cons_self) same
          rcases List.mem_cons.mp ((members x).mp hx) with rfl | hx
          · exact below
          · exact below.trans_le ((List.pairwise_cons.mp rest).1 x hx)
        · simp only [List.reverse_singleton, List.singleton_append, List.mem_cons, members]

theorem sorted_mergeSort (keys : List String) :
    (keys.mergeSort fun a b => !(b < a)).Pairwise (· ≤ ·) := by
  have sorted : (keys.mergeSort fun a b => !(b < a)).Pairwise fun a b => (!(b < a)) = true := by
    refine List.pairwise_mergeSort (fun a b c hab hbc => ?_) (fun a b => ?_) keys
    · simp only [Bool.not_eq_true', decide_eq_false_iff_not, not_lt] at *
      exact hab.trans hbc
    · simp only [Bool.or_eq_true, Bool.not_eq_true', decide_eq_false_iff_not, not_lt]
      exact le_total a b
  refine sorted.imp fun h => ?_
  simpa only [Bool.not_eq_true', decide_eq_false_iff_not, not_lt] using h

/-- The keys that name nothing are listed once each. -/
theorem unknownKeys_fieldsOf (schema : Schema σ) (members : Members) :
    (schema.unknownKeys (fieldsOf members)).Nodup ∧ ∀ key,
      key ∈ schema.unknownKeys (fieldsOf members) ↔
        (∃ d, (key, d) ∈ members) ∧ schema.entry? key = none := by
  obtain ⟨increasing, listed⟩ := eraseReps_of_sorted (sorted_mergeSort
    (((fieldsOf members).filterMap fun f => f.1.name?).filter fun k => (schema.entry? k).isNone))
  refine ⟨increasing.imp ne_of_lt, fun key => (listed key).trans ?_⟩
  rw [(List.mergeSort_perm _ _).mem_iff]
  simp [fieldsOf, Label.name?, List.mem_filter]

end Schema

end Document

end CircuitRelay
