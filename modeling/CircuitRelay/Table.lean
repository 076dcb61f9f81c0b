/-!
# Finite tables

Every component of the relay keeps tables: connections by id, peers by name, scopes by peer or
protocol.  A `Table κ α` is a list of entries with pairwise distinct keys, in the order in which
the keys were first inserted, so that a sum over a table is a sum over a list and every pass over
a table has one order.

* `get?_empty`, `get?_insert`, `get?_erase`, `get?_filter`, `get?_mapValues`: what each operation
  does to a look-up.
* `get?_eq_some_iff`: a look-up finds exactly the entries.
* `get?_alter`: changing one key leaves the others alone.
* `mapValues_insert`, `mapValues_erase`: values may be changed before or after.
* `entries_perm_of_get?`, `entries_insert_perm`: up to order, an entry stands apart from the
  entries of the other keys, so that sums over a table follow what is inserted and erased.
* `countP_values_of_get?`, `countP_values_insert`: how many values pass a test, beside one key.
-/

namespace CircuitRelay

universe u v w

/-- A finite table from keys to values; `entries` lists it in order of first insertion. -/
structure Table (κ : Type u) (α : Type v) where
  /-- The entries, oldest key first. -/
  entries : List (κ × α)
  /-- No key has two entries. -/
  nodup : (entries.map Prod.fst).Nodup

namespace Table

variable {κ : Type u} {α : Type v} {β : Type w}

instance [DecidableEq κ] [DecidableEq α] : DecidableEq (Table κ α) := fun a b =>
  if h : a.entries = b.entries then
    .isTrue (by cases a; cases b; cases h; rfl)
  else
    .isFalse fun hab => h (congrArg entries hab)

/-- Two tables with the same entries are equal. -/
theorem ext_entries {a b : Table κ α} (h : a.entries = b.entries) : a = b := by
  cases a; cases b; cases h; rfl

/-- The table without entries. -/
def empty : Table κ α := ⟨[], List.nodup_nil⟩

instance : Inhabited (Table κ α) := ⟨empty⟩

/-- The keys, oldest first. -/
def keys (t : Table κ α) : List κ := t.entries.map Prod.fst

/-- The values, in the order of their keys. -/
def values (t : Table κ α) : List α := t.entries.map Prod.snd

/-- The number of entries. -/
def size (t : Table κ α) : Nat := t.entries.length

/-- The entries that pass a test. -/
def filter (p : κ → α → Bool) (t : Table κ α) : Table κ α :=
  ⟨t.entries.filter fun e => p e.1 e.2, t.nodup.sublist (List.filter_sublist.map _)⟩

/-- The same keys with changed values. -/
def mapValues (f : κ → α → β) (t : Table κ α) : Table κ β :=
  ⟨t.entries.map fun e => (e.1, f e.1 e.2), by
    have h : (t.entries.map fun e => (e.1, f e.1 e.2)).map Prod.fst = t.entries.map Prod.fst := by
      rw [List.map_map]; rfl
    rw [h]; exact t.nodup⟩

variable [DecidableEq κ]

/-- The first value stored under a key in a list of entries. -/
def lookup (k : κ) : List (κ × α) → Option α
  | [] => none
  | e :: l => if e.1 = k then some e.2 else lookup k l

/-- The value of a key, if it has one. -/
def get? (t : Table κ α) (k : κ) : Option α := lookup k t.entries

/-- Whether a key has a value. -/
def contains (t : Table κ α) (k : κ) : Bool := decide (k ∈ t.keys)

/-- Gives a key a value: in place when the key is present, at the end otherwise. -/
def insert (t : Table κ α) (k : κ) (v : α) : Table κ α :=
  if h : k ∈ t.keys then
    ⟨t.entries.map fun e => if e.1 = k then (e.1, v) else e, by
      have hmap : (t.entries.map fun e => if e.1 = k then (e.1, v) else e).map Prod.fst =
          t.entries.map Prod.fst := by
        rw [List.map_map]
        apply List.map_congr_left
        intro e _
        by_cases he : e.1 = k <;> simp [he]
      rw [hmap]; exact t.nodup⟩
  else
    ⟨t.entries ++ [(k, v)], by
      rw [List.map_append, List.nodup_append]
      refine ⟨t.nodup, by simp, ?_⟩
      intro a ha b hb hab
      simp only [List.map_cons, List.map_nil, List.mem_singleton] at hb
      exact h (hb ▸ hab ▸ ha)⟩

/-- Removes a key and its value. -/
def erase (t : Table κ α) (k : κ) : Table κ α := t.filter fun k' _ => decide (k' ≠ k)

/-- Replaces what a key holds, where `none` stands for no entry. -/
def alter (t : Table κ α) (k : κ) (f : Option α → Option α) : Table κ α :=
  match f (t.get? k) with
  | some v => t.insert k v
  | none => t.erase k

/-- The table of a list of entries, where a later entry replaces an earlier one. -/
def ofList (l : List (κ × α)) : Table κ α := l.foldl (fun t e => t.insert e.1 e.2) empty

/-! ## Look-ups -/

@[simp] theorem get?_empty (k : κ) : (empty : Table κ α).get? k = none := rfl

theorem lookup_eq_none_iff {k : κ} {l : List (κ × α)} :
    lookup k l = none ↔ k ∉ l.map Prod.fst := by
  induction l with
  | nil => simp [lookup]
  | cons e l ih =>
    by_cases h : e.1 = k
    · simp [lookup, h]
    · simp [lookup, h, ih, Ne.symm h]

theorem lookup_eq_some_iff {k : κ} {v : α} {l : List (κ × α)} (hl : (l.map Prod.fst).Nodup) :
    lookup k l = some v ↔ (k, v) ∈ l := by
  induction l with
  | nil => simp [lookup]
  | cons e l ih =>
    rw [List.map_cons, List.nodup_cons] at hl
    by_cases h : e.1 = k
    · constructor
      · intro hv
        simp only [lookup, h, if_true, Option.some.injEq] at hv
        exact List.mem_cons.mpr (.inl (by rw [← h, ← hv]))
      · intro hv
        rcases List.mem_cons.mp hv with hv | hv
        · simp [lookup, ← hv]
        · exact absurd (List.mem_map.mpr ⟨(k, v), hv, h.symm⟩) hl.1
    · simp only [lookup, h, if_false, ih hl.2, List.mem_cons]
      constructor
      · exact .inr
      · rintro (hv | hv)
        · exact absurd (congrArg Prod.fst hv).symm h
        · exact hv

/-- A look-up finds exactly the entries. -/
theorem get?_eq_some_iff {t : Table κ α} {k : κ} {v : α} :
    t.get? k = some v ↔ (k, v) ∈ t.entries :=
  lookup_eq_some_iff t.nodup

theorem get?_eq_none_iff {t : Table κ α} {k : κ} : t.get? k = none ↔ k ∉ t.keys :=
  lookup_eq_none_iff

theorem lookup_append (k : κ) (l l' : List (κ × α)) :
    lookup k (l ++ l') = (lookup k l).or (lookup k l') := by
  induction l with
  | nil => simp [lookup]
  | cons e l ih => by_cases h : e.1 = k <;> simp [lookup, h, ih]

theorem lookup_map_update (k k' : κ) (v : α) (l : List (κ × α)) :
    lookup k' (l.map fun e => if e.1 = k then (e.1, v) else e) =
      if k = k' then (lookup k' l).map fun _ => v else lookup k' l := by
  induction l with
  | nil => simp [lookup]
  | cons e l ih =>
    by_cases h : e.1 = k <;> by_cases hk : k = k' <;> by_cases he : e.1 = k' <;>
      simp_all [lookup]

/-- Inserting sets one key and leaves the others alone. -/
theorem get?_insert (t : Table κ α) (k k' : κ) (v : α) :
    (t.insert k v).get? k' = if k = k' then some v else t.get? k' := by
  unfold insert
  split
  · rename_i h
    simp only [get?, lookup_map_update]
    by_cases hk : k = k'
    · subst hk
      cases hg : lookup k t.entries with
      | none => exact absurd h (lookup_eq_none_iff.mp hg)
      | some _ => simp
    · simp [hk]
  · rename_i h
    simp only [get?, lookup_append]
    by_cases hk : k = k'
    · subst hk
      rw [lookup_eq_none_iff.mpr h]
      simp [lookup]
    · simp [lookup, hk]

/-- A table in which no look-up finds anything is empty. -/
theorem eq_empty_of_get? {t : Table κ α} (h : ∀ k, t.get? k = none) : t = empty := by
  apply ext_entries
  apply List.eq_nil_iff_forall_not_mem.mpr
  rintro ⟨k, v⟩ hmem
  have hget := get?_eq_some_iff.mpr hmem
  rw [h k] at hget
  cases hget

/-- Filtering keeps the entries that pass the test. -/
theorem get?_filter (t : Table κ α) (p : κ → α → Bool) (k : κ) :
    (t.filter p).get? k = (t.get? k).filter (p k) := by
  cases hg : t.get? k with
  | none =>
    rw [get?_eq_none_iff] at hg
    rw [Option.filter_none, get?_eq_none_iff]
    intro h
    obtain ⟨e, he, rfl⟩ := List.mem_map.mp h
    exact hg (List.mem_map.mpr ⟨e, (List.mem_filter.mp he).1, rfl⟩)
  | some v =>
    rw [Option.filter_some]
    by_cases hp : p k v = true
    · rw [if_pos hp]
      exact get?_eq_some_iff.mpr (List.mem_filter.mpr ⟨get?_eq_some_iff.mp hg, hp⟩)
    · rw [if_neg hp, get?_eq_none_iff]
      intro h
      obtain ⟨⟨k', v'⟩, he, hk⟩ := List.mem_map.mp h
      cases hk
      obtain ⟨hmem, hpv⟩ := List.mem_filter.mp he
      have hv := get?_eq_some_iff.mpr hmem
      rw [hg] at hv
      cases hv
      exact hp hpv

/-- Filtering by what the keys tell filters the keys. -/
theorem keys_filter {t : Table κ α} {p : κ → α → Bool} {q : κ → Bool}
    (h : ∀ k v, t.get? k = some v → p k v = q k) : (t.filter p).keys = t.keys.filter q := by
  have hentries : t.entries.filter (fun e => p e.1 e.2) = t.entries.filter fun e => q e.1 :=
    List.filter_congr fun e he => h e.1 e.2 (get?_eq_some_iff.mpr he)
  show (t.entries.filter fun e => p e.1 e.2).map Prod.fst = (t.entries.map Prod.fst).filter q
  rw [hentries, List.filter_map]
  rfl

theorem lookup_map_value (f : κ → α → β) (k : κ) (l : List (κ × α)) :
    lookup k (l.map fun e => (e.1, f e.1 e.2)) = (lookup k l).map (f k) := by
  induction l with
  | nil => rfl
  | cons e l ih =>
    rw [List.map_cons, lookup, lookup, ih]
    split
    · rename_i h
      rw [← h]
      rfl
    · rfl

/-- Changing all values changes each under its key. -/
theorem get?_mapValues (t : Table κ α) (f : κ → α → β) (k : κ) :
    (t.mapValues f).get? k = (t.get? k).map (f k) :=
  lookup_map_value f k t.entries

/-- Erasing removes one key and leaves the others alone. -/
theorem get?_erase (t : Table κ α) (k k' : κ) :
    (t.erase k).get? k' = if k = k' then none else t.get? k' := by
  rw [erase, get?_filter]
  by_cases h : k = k'
  · subst h; cases t.get? k <;> simp
  · cases t.get? k' <;> simp [h, Ne.symm h]

/-- Changing one key sets it to the result and leaves the others alone. -/
theorem get?_alter (t : Table κ α) (k k' : κ) (f : Option α → Option α) :
    (t.alter k f).get? k' = if k = k' then f (t.get? k) else t.get? k' := by
  unfold alter
  cases hf : f (t.get? k) with
  | none => simp [get?_erase]
  | some v => simp [get?_insert]

theorem contains_iff {t : Table κ α} {k : κ} : t.contains k = true ↔ (t.get? k).isSome := by
  rw [contains, decide_eq_true_iff]
  cases hg : t.get? k with
  | none => simpa using get?_eq_none_iff.mp hg
  | some v =>
    exact ⟨fun _ => rfl, fun _ => List.mem_map.mpr ⟨(k, v), get?_eq_some_iff.mp hg, rfl⟩⟩

/-! ## Entries up to order -/

/-- An entry of a list without repeated keys stands apart from the entries of other keys. -/
theorem perm_cons_filter {k : κ} {v : α} {l : List (κ × α)} (hl : (l.map Prod.fst).Nodup)
    (h : (k, v) ∈ l) : l.Perm ((k, v) :: l.filter fun e => decide (e.1 ≠ k)) := by
  induction l with
  | nil => simp at h
  | cons e l ih =>
    rw [List.map_cons, List.nodup_cons] at hl
    rcases List.mem_cons.mp h with rfl | hmem
    · have hrest : l.filter (fun e => decide (e.1 ≠ k)) = l := by
        rw [List.filter_eq_self]
        intro e he
        rw [decide_eq_true_eq]
        rintro rfl
        exact hl.1 (List.mem_map.mpr ⟨e, he, rfl⟩)
      rw [List.filter_cons_of_neg (by simp), hrest]
    · have hne : e.1 ≠ k := by
        rintro rfl
        exact hl.1 (List.mem_map.mpr ⟨_, hmem, rfl⟩)
      rw [List.filter_cons_of_pos (by simpa using hne)]
      exact ((ih hl.2 hmem).cons e).trans (.swap _ _ _)

omit [DecidableEq κ] in
theorem nodup_entries (t : Table κ α) : t.entries.Nodup :=
  List.Pairwise.of_map Prod.fst (fun _ _ hne heq => hne (congrArg Prod.fst heq)) t.nodup

theorem erase_eq_self {t : Table κ α} {k : κ} (h : t.get? k = none) : t.erase k = t := by
  apply ext_entries
  rw [get?_eq_none_iff] at h
  show t.entries.filter _ = t.entries
  rw [List.filter_eq_self]
  intro e he
  rw [decide_eq_true_eq]
  rintro rfl
  exact h (List.mem_map.mpr ⟨e, he, rfl⟩)

/-- Inserting what is there already changes nothing. -/
theorem insert_eq_self {t : Table κ α} {k : κ} {v : α} (h : t.get? k = some v) :
    t.insert k v = t := by
  have hkey : k ∈ t.keys := List.mem_map.mpr ⟨(k, v), get?_eq_some_iff.mp h, rfl⟩
  have hsame : ∀ e ∈ t.entries, (if e.1 = k then (e.1, v) else e) = id e := by
    intro e he
    split
    · rename_i hk
      have hsome : t.get? e.1 = some e.2 := get?_eq_some_iff.mpr he
      rw [hk, h] at hsome
      rw [Option.some.inj hsome]
      rfl
    · rfl
  apply ext_entries
  rw [insert, dif_pos hkey]
  show t.entries.map _ = t.entries
  rw [List.map_congr_left hsame, List.map_id]

/-- The entry of a key stands apart from the others. -/
theorem entries_perm_of_get? {t : Table κ α} {k : κ} {v : α} (h : t.get? k = some v) :
    t.entries.Perm ((k, v) :: (t.erase k).entries) :=
  perm_cons_filter t.nodup (get?_eq_some_iff.mp h)

theorem filter_map_update (k : κ) (v : α) (l : List (κ × α)) :
    (l.map fun e => if e.1 = k then (e.1, v) else e).filter (fun e => decide (e.1 ≠ k)) =
      l.filter fun e => decide (e.1 ≠ k) := by
  induction l with
  | nil => rfl
  | cons e l ih =>
    rw [List.map_cons]
    by_cases h : e.1 = k
    · rw [if_pos h, List.filter_cons_of_neg (by simpa using h), ih,
        List.filter_cons_of_neg (by simpa using h)]
    · rw [if_neg h, List.filter_cons_of_pos (by simpa using h), ih,
        List.filter_cons_of_pos (by simpa using h)]

theorem erase_insert (t : Table κ α) (k : κ) (v : α) : (t.insert k v).erase k = t.erase k := by
  apply ext_entries
  show (t.insert k v).entries.filter _ = t.entries.filter _
  unfold insert
  split
  · exact filter_map_update k v t.entries
  · show (t.entries ++ [(k, v)]).filter _ = _
    rw [List.filter_append, List.filter_cons_of_neg (by simp), List.filter_nil, List.append_nil]

omit [DecidableEq κ] in
theorem keys_mapValues (t : Table κ α) (f : κ → α → β) : (t.mapValues f).keys = t.keys := by
  show (t.entries.map _).map Prod.fst = t.entries.map Prod.fst
  rw [List.map_map]
  rfl

omit [DecidableEq κ] in
theorem values_mapValues (t : Table κ α) (f : α → β) :
    (t.mapValues fun _ => f).values = t.values.map f := by
  show (t.entries.map _).map Prod.snd = (t.entries.map Prod.snd).map f
  rw [List.map_map, List.map_map]
  rfl

/-- Values may be changed before they are inserted. -/
theorem mapValues_insert (t : Table κ α) (f : κ → α → β) (k : κ) (v : α) :
    (t.insert k v).mapValues f = (t.mapValues f).insert k (f k v) := by
  apply ext_entries
  by_cases h : k ∈ t.keys
  · have h' : k ∈ (t.mapValues f).keys := by rwa [keys_mapValues]
    rw [insert, insert, dif_pos h, dif_pos h']
    show (t.entries.map _).map _ = (t.entries.map _).map _
    rw [List.map_map, List.map_map]
    apply List.map_congr_left
    intro e _
    show (_, _) = ite _ _ _
    by_cases he : e.1 = k
    · simp [he]
    · simp [he]
  · have h' : k ∉ (t.mapValues f).keys := by rwa [keys_mapValues]
    rw [insert, insert, dif_neg h, dif_neg h']
    exact List.map_append

theorem mapValues_erase (t : Table κ α) (f : κ → α → β) (k : κ) :
    (t.erase k).mapValues f = (t.mapValues f).erase k := by
  apply ext_entries
  show (t.entries.filter _).map _ = (t.entries.map _).filter _
  rw [List.filter_map]
  rfl

/-- After an insertion the key has its new entry, and the others have theirs. -/
theorem entries_insert_perm (t : Table κ α) (k : κ) (v : α) :
    (t.insert k v).entries.Perm ((k, v) :: (t.erase k).entries) := by
  have hk : (t.insert k v).get? k = some v := by rw [get?_insert, if_pos rfl]
  rw [← erase_insert t k v]
  exact entries_perm_of_get? hk

theorem values_perm_of_get? {t : Table κ α} {k : κ} {v : α} (h : t.get? k = some v) :
    t.values.Perm (v :: (t.erase k).values) :=
  (entries_perm_of_get? h).map Prod.snd

theorem values_insert_perm (t : Table κ α) (k : κ) (v : α) :
    (t.insert k v).values.Perm (v :: (t.erase k).values) :=
  (entries_insert_perm t k v).map Prod.snd

/-- Tables with the same look-ups have the same entries, up to order. -/
theorem entries_perm_of_get?_eq {t t' : Table κ α} (h : ∀ k, t.get? k = t'.get? k) :
    t.entries.Perm t'.entries := by
  rw [List.perm_ext_iff_of_nodup t.nodup_entries t'.nodup_entries]
  rintro ⟨k, v⟩
  rw [← get?_eq_some_iff, ← get?_eq_some_iff, h]

theorem values_perm_of_get?_eq {t t' : Table κ α} (h : ∀ k, t.get? k = t'.get? k) :
    t.values.Perm t'.values :=
  (entries_perm_of_get?_eq h).map Prod.snd

theorem mem_values_of_get? {t : Table κ α} {k : κ} {v : α} (h : t.get? k = some v) :
    v ∈ t.values :=
  List.mem_map.mpr ⟨_, get?_eq_some_iff.mp h, rfl⟩

theorem mem_values_of_mem_erase {t : Table κ α} {k : κ} {v : α} (h : v ∈ (t.erase k).values) :
    v ∈ t.values :=
  (List.filter_sublist.map Prod.snd).subset h

theorem mem_values_insert {t : Table κ α} {k : κ} {v v' : α} (h : v' ∈ (t.insert k v).values) :
    v' = v ∨ v' ∈ t.values := by
  rcases List.mem_cons.mp ((values_insert_perm t k v).subset h) with hv | hv
  · exact .inl hv
  · exact .inr (mem_values_of_mem_erase hv)

theorem size_of_get? {t : Table κ α} {k : κ} {v : α} (h : t.get? k = some v) :
    t.size = (t.erase k).size + 1 :=
  (entries_perm_of_get? h).length_eq

theorem size_insert (t : Table κ α) (k : κ) (v : α) : (t.insert k v).size = (t.erase k).size + 1 :=
  (entries_insert_perm t k v).length_eq

theorem countP_values_of_get? {t : Table κ α} {k : κ} {v : α} (h : t.get? k = some v)
    (p : α → Bool) :
    t.values.countP p = (t.erase k).values.countP p + if p v then 1 else 0 := by
  rw [(values_perm_of_get? h).countP_eq, List.countP_cons]

theorem countP_values_insert (t : Table κ α) (k : κ) (v : α) (p : α → Bool) :
    (t.insert k v).values.countP p = (t.erase k).values.countP p + if p v then 1 else 0 := by
  rw [(values_insert_perm t k v).countP_eq, List.countP_cons]

end Table

end CircuitRelay
