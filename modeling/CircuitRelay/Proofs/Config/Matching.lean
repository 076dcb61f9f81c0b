import CircuitRelay.Proofs.Config.Format
import Mathlib.Data.List.Forall2

/-!
# Schemas that keep to the format

A schema changes a section by one setting after the other, and each change is made by whatever
stands behind the keys of its setting.  So a schema keeps to a table of settings when its entries do
so one by one, and when no setting meets another: `Describes` says the first of an entry, `Commutes`
the second of a setting and the entry of another.  A section follows its layout then, and the
entry that reads it keeps to the setting that it is in the section around it.

* `Follows`: a reader of the documents of a layout.
* `Describes`, `describes_plain`, `describes_nested`: an entry of a schema and its setting.
* `Matches`: a schema and its table.
* `Matches.applyEntry_edit`, `Matches.applyEntry_deletes`: one entry, on both sides of an edit and
  of a deletion.
* `Matches.follows`: a reader of the objects of a section follows the layout of the section.
* `Matches.describes_section`: the entry of a section in the schema around it.
-/

namespace CircuitRelay

namespace Config

open Document Layout

variable {σ τ : Type}

/-! ## Readers of a layout -/

/-- A reader that takes the proper documents of a layout, gives the same for all of them that
differ by edits, and the default for what was deleted. -/
structure Follows (layout : Layout) (restore : List String → τ → τ) (read : Reader τ) : Prop where
  /-- Proper documents are read. -/
  reads : ∀ {levels d}, Proper layout levels d → ∃ v, read levels d = .ok v
  /-- An edit changes nothing. -/
  same : ∀ {levels d d'}, Proper layout levels d → Edit layout levels d d' →
    read levels d' = read levels d
  /-- What was deleted has its default. -/
  fewer : ∀ {levels d d' path v}, Proper layout levels d → Deletes layout path d d' →
    read levels d = .ok v → read levels d' = .ok (restore path v)

/-- A schema's entry that treats a setting as the format says. -/
structure Describes (x : Setting σ) (e : Entry σ) : Prop extends SameKeys x e where
  /-- Proper values are read. -/
  reads : ∀ {levels d}, Proper x.layout levels d → ∃ change, e.read levels d = .ok change
  /-- An edit of the value makes the same change. -/
  same : ∀ {levels d d'}, Proper x.layout levels d → Edit x.layout levels d d' →
    e.read levels d' = e.read levels d
  /-- A value with less in it makes the change that leaves the default for what is not there. -/
  fewer : ∀ {levels d d' path change}, Proper x.layout levels d → Deletes x.layout path d d' →
    e.read levels d = .ok change → ∃ change', e.read levels d' = .ok change' ∧
      ∀ s, x.restore path (change s) = change' (x.restore path s)
  /-- The default of the whole setting undoes its change. -/
  gone : ∀ {levels d change}, e.read levels d = .ok change →
    ∀ s, x.restore [] (change s) = x.restore [] s

/-- The default of one setting and the change by another do not meet. -/
def Commutes (x : Setting σ) (e : Entry σ) : Prop :=
  ∀ levels d change, e.read levels d = .ok change →
    ∀ path s, x.restore path (change s) = change (x.restore path s)

theorem map_eq_ok_iff {ε α β : Type} {f : α → β} {r : Except ε α} {b : β} :
    r.map f = .ok b ↔ ∃ a, r = .ok a ∧ f a = b := by
  cases r <;> simp [Except.map]

section Entries

variable {key : String} {otherKey : Option String}

/-- An entry that reads a value and puts it into the section commutes when putting it in does. -/
theorem commutes_of_read {α : Type} {x : Setting σ} {e : Entry σ} {read : Reader α}
    {set : α → σ → σ} (reads : e.read = fun levels d => (read levels d).map set)
    (h : ∀ path v s, x.restore path (set v s) = set v (x.restore path s)) : Commutes x e := by
  intro levels d change done path s
  rw [reads] at done
  obtain ⟨v, -, rfl⟩ := map_eq_ok_iff.mp done
  exact h path v s

/-- Every setting has its own place when each entry is its own or commutes with it. -/
theorem commutes_of_forall {settings : List (Setting σ)} {schema : Schema σ}
    (h : settings.Forall fun x => schema.Forall fun e => e.key = x.names.key ∨ Commutes x e) :
    ∀ x ∈ settings, ∀ e ∈ schema, e.key ≠ x.names.key → Commutes x e := by
  intro x hx e he other
  have each := List.forall_iff_forall_mem.mp h x hx
  exact (List.forall_iff_forall_mem.mp each e he).resolve_left other

theorem describes_plain {α : Type} {kind : Kind} {read : Reader α} {set : α → σ → σ}
    {restore : σ → σ} (reads : ∀ {d} levels, kind.Accepts d → ∃ v, read levels d = .ok v)
    (gone : ∀ v s, restore (set v s) = restore s) :
    Describes (.plain key otherKey kind restore) (.value key otherKey read set) where
  key := rfl
  otherKey := rfl
  reads := by
    intro levels d proper
    obtain ⟨v, done⟩ := reads levels (proper_value_iff.mp proper)
    exact ⟨set v, map_eq_ok_iff.mpr ⟨v, done, rfl⟩⟩
  same := by rintro levels d d' - ⟨⟩
  fewer := by rintro levels d d' path change - ⟨⟩
  gone := by
    intro levels d change done s
    obtain ⟨v, -, rfl⟩ := map_eq_ok_iff.mp done
    exact gone v s

/-- A setting with its own section, put into the section around it: putting it in twice is putting
it in once, and what is taken out after it was put in has the same defaults. -/
theorem describes_nested {leftovers : Leftovers} {settings : List (Setting τ)} {start : τ}
    {get : σ → τ} {set : τ → σ → σ} {read : Reader τ}
    (follows : Follows (layoutOf leftovers settings) (restoreAt settings start) read)
    (absorbs : ∀ v w s, set v (set w s) = set v s)
    (back : ∀ path v s, set (restoreAt settings start path (get (set v s))) s =
      set (restoreAt settings start path v) s) :
    Describes (.nested key otherKey leftovers settings start get set)
      (.value key otherKey read set) where
  key := rfl
  otherKey := rfl
  reads := by
    intro levels d proper
    obtain ⟨v, done⟩ := follows.reads proper
    exact ⟨set v, map_eq_ok_iff.mpr ⟨v, done, rfl⟩⟩
  same := by
    intro levels d d' proper edit
    simp only [Entry.value, follows.same proper edit]
  fewer := by
    intro levels d d' path change proper deletes done
    obtain ⟨v, read, rfl⟩ := map_eq_ok_iff.mp done
    refine ⟨_, map_eq_ok_iff.mpr ⟨_, follows.fewer proper deletes read, rfl⟩, fun s => ?_⟩
    simp only [Setting.nested, absorbs, back]
  gone := by
    intro levels d change done s
    obtain ⟨v, -, rfl⟩ := map_eq_ok_iff.mp done
    simp only [Setting.nested, restoreAt, absorbs]

end Entries

/-! ## Sections -/

/-- A schema that treats every setting of a section as the format says. -/
structure Matches (settings : List (Setting σ)) (schema : Schema σ) (start : σ) : Prop where
  describes : List.Forall₂ Describes settings schema
  distinct : Distinct settings
  /-- Every setting has its own place. -/
  commutes : ∀ x ∈ settings, ∀ e ∈ schema, e.key ≠ x.names.key → Commutes x e
  /-- The section without settings has every default. -/
  neutral : ∀ x ∈ settings, ∀ path, x.restore path start = start

namespace Matches

variable {settings : List (Setting σ)} {schema : Schema σ} {start : σ} {leftovers : Leftovers}
  {levels : Nat} {members : Members}

theorem unambiguous (h : Matches settings schema start) : schema.Unambiguous :=
  unambiguous_of_distinct h.distinct (h.describes.imp fun _ _ describes => describes.toSameKeys)

theorem cases (h : Matches settings schema start) (key : String) :
    (setting? (rowsOf settings) key = none ∧
        schema.entry? key = none) ∨
      ∃ x ∈ settings, ∃ e ∈ schema, Describes x e ∧ schema.entry? key = some e ∧
        setting? (rowsOf settings) key = some (x.names, x.layout) :=
  setting?_cases (fun _ _ describes => describes.toSameKeys) h.describes key

/-- The entry of a key that the format knows. -/
theorem exists_entry (h : Matches settings schema start) {key : String} {row : Names × Layout}
    (named : setting? (rowsOf settings) key = some row) :
    ∃ x ∈ settings, ∃ e ∈ schema, Describes x e ∧ schema.entry? key = some e ∧
      row = (x.names, x.layout) := by
  rcases h.cases key with ⟨none, -⟩ | ⟨x, hx, e, he, describes, found, named'⟩
  · cases none.symm.trans named
  · exact ⟨x, hx, e, he, describes, found, Option.some_inj.mp (named.symm.trans named')⟩

theorem entry?_eq_none (h : Matches settings schema start) {key : String}
    (unnamed : setting? (rowsOf settings) key = none) :
    schema.entry? key = none := by
  rcases h.cases key with ⟨-, none⟩ | ⟨x, hx, e, he, describes, found, named⟩
  · exact none
  · cases unnamed.symm.trans named

/-- The schema takes every proper object. -/
theorem takes (h : Matches settings schema start)
    (proper : Proper (layoutOf leftovers settings) levels (object members)) :
    schema.Takes (leftovers.fault? (levels + 1)) (levels + 1) members := by
  obtain ⟨fits, once⟩ := proper_object_iff.mp proper
  refine ⟨fun m hm e found => ?_, fun m hm none => ?_, once.imp fun {m m'} apart e e' found found'
    same => ?_⟩
  · rcases h.cases m.1 with ⟨-, none⟩ | ⟨x, -, e', -, describes, found', named⟩
    · cases none.symm.trans found
    · obtain rfl := Option.some_inj.mp (found.symm.trans found')
      exact describes.reads ((fits m hm).proper _ named)
  · rcases h.cases m.1 with ⟨unnamed, -⟩ | ⟨x, -, e, -, -, found, -⟩
    · exact (fits m hm).sound unnamed
    · cases none.symm.trans found
  · rcases h.cases m.1 with ⟨-, none⟩ | ⟨x, hx, e₁, -, describes, found₁, named⟩
    · cases none.symm.trans found
    rcases h.cases m'.1 with ⟨-, none⟩ | ⟨x', hx', e₂, -, describes', found₂, named'⟩
    · cases none.symm.trans found'
    obtain rfl := Option.some_inj.mp (found.symm.trans found₁)
    obtain rfl := Option.some_inj.mp (found'.symm.trans found₂)
    have keys : x.names.key = x'.names.key :=
      describes.key.symm.trans (same.trans describes'.key)
    obtain rfl := h.distinct.eq_of_key hx hx' keys
    exact apart _ named named'

/-- Two keys of one setting have one entry. -/
theorem entry?_eq (h : Matches settings schema start) {key key' : String} {row : Names × Layout}
    (named : setting? (rowsOf settings) key = some row)
    (named' : setting? (rowsOf settings) key' = some row) :
    schema.entry? key' = schema.entry? key := by
  obtain ⟨x, -, e, he, describes, found, rfl⟩ := h.exists_entry named
  obtain ⟨x', -, e', he', describes', found', same⟩ := h.exists_entry named'
  have keys : e.key = e'.key := by
    rw [describes.key, describes'.key, (Prod.mk.inj same).1]
  rw [found, found', h.unambiguous.eq_of_key he he' keys]

/-- Every setting says the same after an edit. -/
theorem applyEntry_edit (h : Matches settings schema start) {d d' : Document}
    (proper : Proper (layoutOf leftovers settings) levels d)
    (edit : Edit (layoutOf leftovers settings) levels d d') :
    ∃ members members', d = object members ∧ d' = object members' ∧ ∀ e ∈ schema, ∀ s,
      Schema.applyEntry (levels + 1) (fieldsOf members) s e =
        Schema.applyEntry (levels + 1) (fieldsOf members') s e := by
  have proper' := edit.proper proper
  have unambiguous := h.unambiguous
  -- A setting whose value stays what it is says what it said.
  have elsewhere {members members' : Members} {e : Entry σ} {s : σ}
      (same : Schema.value? e (fieldsOf members) = Schema.value? e (fieldsOf members')) :
      Schema.applyEntry (levels + 1) (fieldsOf members) s e =
        Schema.applyEntry (levels + 1) (fieldsOf members') s e :=
    Schema.turn_applyEntry id (fun _ _ _ _ => rfl) same
  cases edit with
  | permute perm =>
    refine ⟨_, _, rfl, rfl, fun e he s => elsewhere (Option.ext fun v => ?_)⟩
    rw [Schema.value?_eq_some_iff unambiguous (h.takes proper) he,
      Schema.value?_eq_some_iff unambiguous (h.takes proper') he]
    simp only [perm.mem_iff]
  | @rename _ _ _ before after key key' v _ named named' =>
    refine ⟨_, _, rfl, rfl, fun e he s => elsewhere ?_⟩
    have keys := h.entry?_eq named named'
    by_cases found : schema.entry? key = some e
    · rw [Schema.value?_middle_self unambiguous (h.takes proper) found,
        Schema.value?_middle_self unambiguous (h.takes proper') (keys.trans found)]
    · rw [Schema.value?_middle unambiguous he found,
        Schema.value?_middle unambiguous he (keys ▸ found)]
  | add unnamed sound =>
    refine ⟨_, _, rfl, rfl, fun e he s => elsewhere ?_⟩
    rw [Schema.value?_middle unambiguous he (by simp [h.entry?_eq_none unnamed])]
  | remove unnamed =>
    refine ⟨_, _, rfl, rfl, fun e he s => elsewhere ?_⟩
    rw [Schema.value?_middle unambiguous he (by simp [h.entry?_eq_none unnamed])]
  | @inside _ _ _ before after key v v' row named edit =>
    refine ⟨_, _, rfl, rfl, fun e he s => ?_⟩
    by_cases found : schema.entry? key = some e
    · obtain ⟨x, -, e', -, describes, found', rfl⟩ := h.exists_entry named
      obtain rfl := Option.some_inj.mp (found.symm.trans found')
      have fits := (proper_object_middle.mp proper).1
      exact Schema.applyEntry_congr
        (Schema.value?_middle_self unambiguous (h.takes proper) found)
        (Schema.value?_middle_self unambiguous (h.takes proper') found)
        (describes.same (fits.proper _ named) edit)
    · refine elsewhere ?_
      rw [Schema.value?_middle unambiguous he found, Schema.value?_middle unambiguous he found]

/-- Every setting says the same after one was deleted, which has its default. -/
theorem applyEntry_deletes (h : Matches settings schema start) {d d' : Document}
    {path : List String} (proper : Proper (layoutOf leftovers settings) levels d)
    (deletes : Deletes (layoutOf leftovers settings) path d d') :
    ∃ members members', d = object members ∧ d' = object members' ∧ ∃ x ∈ settings, ∃ rest,
      path = x.names.key :: rest ∧ ∀ e ∈ schema, ∀ s,
        x.restore rest (Schema.applyEntry (levels + 1) (fieldsOf members) s e) =
          Schema.applyEntry (levels + 1) (fieldsOf members') (x.restore rest s) e := by
  have proper' := deletes.proper proper
  have unambiguous := h.unambiguous
  -- The default of a setting passes through another setting.
  have elsewhere {members members' : Members} {x : Setting σ} {key : String} {rest : List String}
      {e e' : Entry σ} {s : σ} (hx : x ∈ settings) (he : e ∈ schema) (he' : e' ∈ schema)
      (describes : Describes x e') (found : schema.entry? key = some e')
      (other : schema.entry? key ≠ some e)
      (same : Schema.value? e (fieldsOf members) = Schema.value? e (fieldsOf members')) :
      x.restore rest (Schema.applyEntry (levels + 1) (fieldsOf members) s e) =
        Schema.applyEntry (levels + 1) (fieldsOf members') (x.restore rest s) e := by
    have keys : e.key ≠ x.names.key := fun same =>
      other (by rw [found, unambiguous.eq_of_key he he' (same.trans describes.key.symm)])
    exact Schema.turn_applyEntry (x.restore rest)
      (fun d change read => h.commutes x hx e he keys _ d change read rest) same
  cases deletes with
  | @here _ _ before after key v row named =>
    obtain ⟨x, hx, e', he', describes, found', rfl⟩ := h.exists_entry named
    refine ⟨_, _, rfl, rfl, x, hx, [], rfl, fun e he s => ?_⟩
    by_cases found : schema.entry? key = some e
    · obtain rfl := Option.some_inj.mp (found.symm.trans found')
      have fits := (proper_object_middle.mp proper).1
      obtain ⟨change, read⟩ := describes.reads (fits.proper _ named)
      rw [Schema.applyEntry_of_some
          (Schema.value?_middle_self unambiguous (h.takes proper) found) read,
        Schema.applyEntry_of_none (Schema.value?_without unambiguous (h.takes proper) found)]
      exact describes.gone read s
    · exact elsewhere hx he he' describes found' found (Schema.value?_middle unambiguous he found)
  | @inside _ _ before after key v v' row rest named deletes =>
    obtain ⟨x, hx, e', he', describes, found', rfl⟩ := h.exists_entry named
    refine ⟨_, _, rfl, rfl, x, hx, rest, rfl, fun e he s => ?_⟩
    by_cases found : schema.entry? key = some e
    · obtain rfl := Option.some_inj.mp (found.symm.trans found')
      have fits := (proper_object_middle.mp proper).1
      obtain ⟨change, read⟩ := describes.reads (fits.proper _ named)
      obtain ⟨change', read', turn⟩ := describes.fewer (fits.proper _ named) deletes read
      rw [Schema.applyEntry_of_some
          (Schema.value?_middle_self unambiguous (h.takes proper) found) read,
        Schema.applyEntry_of_some
          (Schema.value?_middle_self unambiguous (h.takes proper') found) read']
      exact turn s
    · refine elsewhere hx he he' describes found' found ?_
      rw [Schema.value?_middle unambiguous he found, Schema.value?_middle unambiguous he found]

theorem restoreAt_cons (h : Matches settings schema start) {x : Setting σ} (hx : x ∈ settings)
    (rest : List String) (s : σ) :
    restoreAt settings start (x.names.key :: rest) s = x.restore rest s := by
  have found : settings.find? (fun y => y.names.key = x.names.key) = some x := by
    cases first : settings.find? (fun y => y.names.key = x.names.key) with
    | none => exact absurd (decide_eq_true rfl) (List.find?_eq_none.mp first x hx)
    | some y =>
      have same := List.find?_some (p := fun y : Setting σ => y.names.key = x.names.key) first
      rw [h.distinct.eq_of_key (List.mem_of_find?_eq_some first) hx (by simpa using same)]
  simp only [restoreAt, found]

/-- The section without settings has the default at every path. -/
theorem restoreAt_start (h : Matches settings schema start) (path : List String) :
    restoreAt settings start path start = start := by
  cases path with
  | nil => rfl
  | cons key rest =>
    simp only [restoreAt]
    split
    · rename_i x found
      exact h.neutral x (List.mem_of_find?_eq_some found) rest
    · rfl

/-- The section around a section has the default at every path into it. -/
theorem restore_nested {key : String} {otherKey : Option String} {get : τ → σ} {set : σ → τ → τ}
    {t : τ} (h : Matches settings schema start) (taken : get t = start) (put : set start t = t)
    (path : List String) :
    (Setting.nested key otherKey leftovers settings start get set).restore path t = t := by
  simp only [Setting.nested, taken, h.restoreAt_start, put]

/-- A reader that reads the objects of a section by its schema follows the layout of the section,
whatever else it reads. -/
theorem follows (h : Matches settings schema start) {read : Reader σ}
    (objects : ∀ levels members, read levels (object members) =
      schema.readFields (leftovers.fault? (levels + 1)) start (levels + 1) (fieldsOf members) none)
    (lists : ∀ levels items, Proper (layoutOf leftovers settings) levels (.list items none) →
      ∃ v, read levels (.list items none) = .ok v) :
    Follows (layoutOf leftovers settings) (restoreAt settings start) read := by
  have reading {levels : Nat} {members : Members}
      (proper : Proper (layoutOf leftovers settings) levels (object members)) :
      read levels (object members) =
        .ok (schema.apply (levels + 1) (fieldsOf members) start) := by
    rw [objects]
    exact Schema.readFields_eq_ok_iff.mpr ⟨rfl, ⟨members, rfl, h.takes proper⟩, rfl⟩
  refine ⟨fun {levels d} proper => ?_, fun {levels d d'} proper edit => ?_,
    fun {levels d d' path v} proper deletes done => ?_⟩
  · generalize same : layoutOf leftovers settings = layout at proper
    cases proper with
    | value => cases same
    | object fits sound once => exact ⟨_, reading (same ▸ .object fits sound once)⟩
    | list short items => exact lists levels _ (same ▸ .list short items)
  · obtain ⟨members, members', rfl, rfl, same⟩ := h.applyEntry_edit proper edit
    rw [reading proper, reading (edit.proper proper)]
    exact congrArg Except.ok (Schema.apply_turn id same).symm
  · obtain ⟨members, members', rfl, rfl, x, hx, rest, rfl, turn⟩ :=
      h.applyEntry_deletes proper deletes
    obtain rfl := Except.ok.inj ((reading proper).symm.trans done)
    rw [reading (deletes.proper proper), h.restoreAt_cons hx, Schema.apply_turn _ turn,
      h.neutral x hx]

/-- A section that is an object and nothing else is read by its schema. -/
theorem section_follows (h : Matches settings schema start) :
    Follows (layoutOf .kept settings) (restoreAt settings start) (schema.read start) := by
  refine h.follows (fun _ _ => rfl) fun levels items proper => ?_
  generalize same : Document.list items none = d at proper
  cases proper with
  | object => cases same

/-- The entry of such a section, put into the section around it. -/
theorem describes_section {key : String} {otherKey : Option String} {get : τ → σ}
    {set : σ → τ → τ} (h : Matches settings schema start)
    (absorbs : ∀ v w t, set v (set w t) = set v t)
    (back : ∀ path v t, set (restoreAt settings start path (get (set v t))) t =
      set (restoreAt settings start path v) t) :
    Describes (.nested key otherKey .kept settings start get set)
      (.section key otherKey schema start set) :=
  have value : Describes (.nested key otherKey .kept settings start get set)
      (.value key otherKey (schema.read start) set) :=
    describes_nested h.section_follows absorbs back
  ⟨⟨value.key, value.otherKey⟩, value.reads, value.same, value.fewer, value.gone⟩

end Matches

end Config

end CircuitRelay
