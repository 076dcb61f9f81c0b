import CircuitRelay.Config.Load
import CircuitRelay.Proofs.Config.Format
import Mathlib

/-!
# Keys that no setting takes

A section lists the keys that name nothing, its own before those of the sections in it.  What a
whole document lists is put together from the innermost sections outwards: an entry that reads a
section lists what is ignored there behind its own key, and one that reads a plain value has
nothing to list.  The ceilings of a scope are read as a value, although they are an object too, and
so the keys that they ignore are listed nowhere.

* `Lists`: texts that name the ignored keys of a document, each once.
* `Reports`, `Covers`: the same for an entry of a schema, and for a schema.
* `Covers.lists`: a section that can be read lists what it ignores.
* `config_covers`: the sections of the configuration.
* `unknown_of_loaded`: a loaded file lists what it ignores outside the ceilings of scopes.
* `unknown_misspelt`: a misspelt ceiling is ignored and not listed.
-/

namespace CircuitRelay

namespace Config

open Document Layout

variable {σ τ : Type}

/-! ## Sections -/

/-- The text of a location. -/
def locationText (location : List String) : String := ".".intercalate location

/-- Texts behind a path that name the ignored keys of a document, each once. -/
def Lists (layout : Layout) (d : Document) (path : String) (texts : List String) : Prop :=
  ∃ locations : List (List String), locations.Nodup ∧
    texts = locations.map (path ++ locationText ·) ∧
    ∀ location, location ∈ locations ↔ Ignored layout d .kept location

/-- An entry of a schema that lists what is ignored behind the key of a setting. -/
structure Reports (x : Setting σ) (e : Entry σ) : Prop extends SameKeys x e where
  lists : ∀ {levels d change}, e.read levels d = .ok change → ∀ path,
    ∃ locations : List (List String), locations.Nodup ∧
      e.unknown path d = locations.map (fun l => path ++ locationText (x.names.key :: l)) ∧
      ∀ location, location ∈ locations ↔ Ignored x.layout d .kept location

/-- An entry without anything to list. -/
theorem reports_nothing {x : Setting σ} {e : Entry σ} (keys : SameKeys x e)
    (unknown : ∀ path d, e.unknown path d = [])
    (none : ∀ d location, ¬ Ignored x.layout d .kept location) : Reports x e where
  toSameKeys := keys
  lists _ path := ⟨[], .nil, unknown path _, fun location => by simp [none]⟩

theorem reports_plain {α : Type} {key : String} {otherKey : Option String} {kind : Kind}
    {read : Reader α} {set : α → σ → σ} {restore : σ → σ} :
    Reports (.plain key otherKey kind restore) (.value key otherKey read set) :=
  reports_nothing ⟨rfl, rfl⟩ (fun _ _ => rfl) fun _ _ => by rintro ⟨⟩

/-- An entry that reads a section lists what is ignored in it. -/
theorem reports_section {key : String} {otherKey : Option String} {settings : List (Setting τ)}
    {schema : Schema τ} {start : τ} {get : σ → τ} {set : τ → σ → σ}
    (lists : ∀ {levels d v}, schema.read start levels d = .ok v → ∀ path,
      Lists (layoutOf .kept settings) d path (schema.unknown path d)) :
    Reports (.nested key otherKey .kept settings start get set)
      (.section key otherKey schema start set) where
  key := rfl
  otherKey := rfl
  lists {levels d change} done path := by
    obtain ⟨v, read⟩ : ∃ v, schema.read start levels d = .ok v := by
      cases read : schema.read start levels d with
      | error flaw => simp [Entry.section, read, Except.map] at done
      | ok v => exact ⟨v, rfl⟩
    obtain ⟨locations, nodup, texts, members⟩ := lists read (path ++ key ++ ".")
    refine ⟨locations, nodup, texts.trans (List.map_congr_left fun l hl => ?_), members⟩
    have inner : l ≠ [] := ((members l).mp hl).ne_nil
    simp only [Setting.nested, locationText, String.intercalate_cons_of_ne_nil inner,
      String.append_assoc]

/-- The value of a setting in some fields. -/
def valueOf (n : Names) (fields : Fields) : Option Document :=
  (fields.find? fun f => f.1.name?.any n.has).map Prod.snd

theorem SameKeys.value? {x : Setting σ} {e : Entry σ} (h : SameKeys x e) (fields : Fields) :
    Schema.value? e fields = valueOf x.names fields := by
  simp only [Schema.value?, valueOf, h.names]

/-- What an object of a section ignores: keys of its own that name nothing, and what the values of
its settings ignore. -/
theorem ignored_object_iff {settings : List (Setting σ)} {members : Members}
    {location : List String} : Ignored (layoutOf .kept settings) (object members) .kept location ↔
      (∃ key d, (key, d) ∈ members ∧ setting? (rowsOf settings) key = none ∧ location = [key]) ∨
      ∃ key d, (key, d) ∈ members ∧ ∃ row rest, setting? (rowsOf settings) key = some row ∧
        Ignored row.2 d .kept rest ∧ location = row.1.key :: rest := by
  have mem {key : String} {d : Document} :
      (Label.known key, d) ∈ fieldsOf members ↔ (key, d) ∈ members := by
    simp [fieldsOf]
  constructor
  · rintro (⟨hm, unnamed⟩ | ⟨hm, named, ignored⟩)
    · exact .inl ⟨_, _, mem.mp hm, unnamed, rfl⟩
    · exact .inr ⟨_, _, mem.mp hm, _, _, named, ignored, rfl⟩
  · rintro (⟨key, d, hm, unnamed, rfl⟩ | ⟨key, d, hm, row, rest, named, ignored, rfl⟩)
    · exact .here (mem.mpr hm) unnamed
    · exact .inside (mem.mpr hm) named ignored

/-- A schema that lists what is ignored in every setting of a section. -/
structure Covers (settings : List (Setting σ)) (schema : Schema σ) : Prop where
  reports : List.Forall₂ Reports settings schema
  distinct : Distinct settings

/-- What the entries of a schema list, when every value in the fields can be read. -/
theorem exists_locations_of_entries {settings : List (Setting σ)} {schema : Schema σ}
    (reports : List.Forall₂ Reports settings schema) (distinct : Distinct settings)
    {fields : Fields} {levels : Nat} (reads : ∀ e ∈ schema, ∀ d,
      Schema.value? e fields = some d → ∃ change, e.read levels d = .ok change) (path : String) :
    ∃ locations : List (List String), locations.Nodup ∧
      (schema.flatMap fun e => ((Schema.value? e fields).map (e.unknown path)).getD []) =
        locations.map (path ++ locationText ·) ∧
      ∀ location, location ∈ locations ↔ ∃ x ∈ settings, ∃ d rest,
        valueOf x.names fields = some d ∧ Ignored x.layout d .kept rest ∧
          location = x.names.key :: rest := by
  induction reports with
  | nil => exact ⟨[], .nil, rfl, by simp⟩
  | @cons x e settings schema report _ ih =>
    obtain ⟨-, distinct', apart⟩ := List.nodup_append.mp distinct
    have fresh : ∀ y ∈ settings, x.names.key ≠ y.names.key := fun y hy =>
      apart _ List.mem_cons_self _ (List.mem_flatMap.mpr ⟨y, hy, List.mem_cons_self⟩)
    obtain ⟨others, nodup, texts, members⟩ :=
      ih distinct' fun e he => reads e (List.mem_cons_of_mem _ he)
    obtain ⟨own, ownNodup, ownTexts, ownMembers⟩ : ∃ own : List (List String), own.Nodup ∧
        ((Schema.value? e fields).map (e.unknown path)).getD [] =
          own.map (fun l => path ++ locationText (x.names.key :: l)) ∧
        ∀ l, l ∈ own ↔ ∃ d, valueOf x.names fields = some d ∧ Ignored x.layout d .kept l := by
      rw [report.value?]
      cases value : valueOf x.names fields with
      | none => exact ⟨[], .nil, rfl, by simp⟩
      | some d =>
        obtain ⟨change, read⟩ := reads e List.mem_cons_self d (by rw [report.value?, value])
        obtain ⟨own, ownNodup, ownTexts, ownMembers⟩ := report.lists read path
        exact ⟨own, ownNodup, ownTexts, fun l => by simp [ownMembers]⟩
    refine ⟨own.map (x.names.key :: ·) ++ others, ?_, ?_, fun location => ?_⟩
    · rw [List.nodup_append]
      refine ⟨ownNodup.map (List.cons_injective), nodup, fun l hl l' hl' same => ?_⟩
      obtain ⟨rest, -, rfl⟩ := List.mem_map.mp hl
      obtain ⟨y, hy, d, rest', -, -, rfl⟩ := (members l').mp hl'
      exact fresh y hy (List.cons.inj same).1
    · simp only [List.flatMap_cons, ownTexts, texts, List.map_append, List.map_map]
      rfl
    · rw [List.mem_append, List.mem_map, members, List.exists_mem_cons_iff]
      refine or_congr_left ⟨?_, ?_⟩
      · rintro ⟨rest, hrest, rfl⟩
        obtain ⟨d, value, ignored⟩ := (ownMembers rest).mp hrest
        exact ⟨d, rest, value, ignored, rfl⟩
      · rintro ⟨d, rest, value, ignored, rfl⟩
        exact ⟨rest, (ownMembers rest).mpr ⟨d, value, ignored⟩, rfl⟩

namespace Covers

variable {settings : List (Setting σ)} {schema : Schema σ}

theorem unambiguous (h : Covers settings schema) : schema.Unambiguous :=
  unambiguous_of_distinct h.distinct (h.reports.imp fun _ _ report => report.toSameKeys)

theorem cases (h : Covers settings schema) (key : String) :
    (setting? (rowsOf settings) key = none ∧
        schema.entry? key = none) ∨
      ∃ x ∈ settings, ∃ e ∈ schema, Reports x e ∧ schema.entry? key = some e ∧
        setting? (rowsOf settings) key = some (x.names, x.layout) :=
  setting?_cases (fun _ _ report => report.toSameKeys) h.reports key

theorem entry?_eq_none_iff (h : Covers settings schema) {key : String} :
    schema.entry? key = none ↔ setting? (rowsOf settings) key = none := by
  rcases h.cases key with ⟨unnamed, none⟩ | ⟨x, -, e, -, -, found, named⟩
  · simp only [unnamed, none]
  · simp only [found, named, reduceCtorEq]

/-- A setting has the value that stands behind one of its keys. -/
theorem valueOf_eq_some_iff (h : Covers settings schema) {pass? : Document → Option Flaw}
    {levels : Nat} {members : Members} (takes : schema.Takes pass? levels members)
    {x : Setting σ} (hx : x ∈ settings) {d : Document} :
    valueOf x.names (fieldsOf members) = some d ↔
      ∃ key, (key, d) ∈ members ∧ setting? (rowsOf settings) key = some (x.names, x.layout) := by
  obtain ⟨e, he, report⟩ := exists_entry_of_mem h.reports hx
  rw [← report.value?, Schema.value?_eq_some_iff h.unambiguous takes he]
  refine exists_congr fun key => and_congr_right fun _ => ⟨fun named => ?_, fun named => ?_⟩
  · have found := (Schema.entry?_eq_some_iff h.unambiguous).mpr ⟨he, named⟩
    rcases h.cases key with ⟨-, none⟩ | ⟨y, hy, e', -, report', found', named'⟩
    · cases none.symm.trans found
    · obtain rfl := Option.some_inj.mp (found.symm.trans found')
      have keys : x.names.key = y.names.key := report.key.symm.trans report'.key
      rw [h.distinct.eq_of_key hx hy keys, named']
  · have has : x.names.has key = true :=
      List.find?_some (p := fun x : Names × Layout => x.1.has key) named
    rw [report.names, has]

/-- A section that can be read lists what it ignores, once each and nothing else. -/
theorem lists (h : Covers settings schema) {start v : σ} {levels : Nat} {d : Document}
    (read : schema.read start levels d = .ok v) (path : String) :
    Lists (layoutOf .kept settings) d path (schema.unknown path d) := by
  obtain ⟨members, rfl, takes⟩ : ∃ members, d = object members ∧
      schema.Takes (fault? (levels + 1)) (levels + 1) members := by
    cases d with
    | record fields ending =>
      obtain ⟨rfl, ⟨members, rfl, takes⟩, -⟩ := Schema.readFields_eq_ok_iff.mp read
      exact ⟨members, rfl, takes⟩
    | _ => cases read
  have reads (e) (he : e ∈ schema) (d) (value : Schema.value? e (fieldsOf members) = some d) :
      ∃ change, e.read (levels + 1) d = .ok change := by
    obtain ⟨key, hm, named⟩ := (Schema.value?_eq_some_iff h.unambiguous takes he).mp value
    exact takes.reads _ hm e ((Schema.entry?_eq_some_iff h.unambiguous).mpr ⟨he, named⟩)
  obtain ⟨inner, innerNodup, innerTexts, innerMembers⟩ :=
    exists_locations_of_entries h.reports h.distinct reads path
  obtain ⟨ownNodup, ownMembers⟩ := Schema.unknownKeys_fieldsOf schema members
  refine ⟨(schema.unknownKeys (fieldsOf members)).map ([·]) ++ inner, ?_, ?_, fun location => ?_⟩
  · refine List.nodup_append.mpr ⟨ownNodup.map fun _ _ same => List.head_eq_of_cons_eq same,
      innerNodup, fun l hl l' hl' same => ?_⟩
    obtain ⟨key, -, rfl⟩ := List.mem_map.mp hl
    obtain ⟨x, -, d, rest, -, ignored, rfl⟩ := (innerMembers l').mp hl'
    exact ignored.ne_nil (List.cons.inj same).2.symm
  · have own : (schema.unknownKeys (fieldsOf members)).map (path ++ ·) =
        ((schema.unknownKeys (fieldsOf members)).map ([·])).map (path ++ locationText ·) := by
      rw [List.map_map]
      exact List.map_congr_left fun key _ => by
        simp only [Function.comp_apply, locationText, String.intercalate_singleton]
    rw [List.map_append, ← own, ← innerTexts]
    rfl
  · rw [List.mem_append, innerMembers, ignored_object_iff]
    refine or_congr ?_ ⟨?_, ?_⟩
    · simp only [List.mem_map, ownMembers, h.entry?_eq_none_iff]
      constructor
      · rintro ⟨key, ⟨⟨d, hm⟩, unnamed⟩, rfl⟩
        exact ⟨key, d, hm, unnamed, rfl⟩
      · rintro ⟨key, d, hm, unnamed, rfl⟩
        exact ⟨key, ⟨⟨d, hm⟩, unnamed⟩, rfl⟩
    · rintro ⟨x, hx, d, rest, value, ignored, rfl⟩
      obtain ⟨key, hm, named⟩ := (h.valueOf_eq_some_iff takes hx).mp value
      exact ⟨key, d, hm, _, rest, named, ignored, rfl⟩
    · rintro ⟨key, d, hm, row, rest, named, ignored, rfl⟩
      rcases h.cases key with ⟨unnamed, -⟩ | ⟨x, hx, e, he, -, -, named'⟩
      · cases unnamed.symm.trans named
      · obtain rfl := Option.some_inj.mp (named.symm.trans named')
        exact ⟨x, hx, d, rest, (h.valueOf_eq_some_iff takes hx).mpr ⟨key, hm, named⟩, ignored, rfl⟩

end Covers

/-! ## The sections of the configuration -/

/-- The ceilings of a scope remember nothing, and there is no section in them. -/
theorem ignored_overrides {d : Document} {leftovers : Leftovers} {location : List String}
    (ignored : Ignored (layoutOf .dropped overridesTable) d leftovers location) :
    leftovers = .dropped ∧ ∃ key, location = [key] := by
  cases ignored with
  | here => exact ⟨rfl, _, rfl⟩
  | inside _ named ignored =>
    rw [overrides_rows _ (List.mem_of_find?_eq_some named)] at ignored
    cases ignored

theorem reports_scope {key : String} {get : PerScope Overrides → Overrides}
    {set : Overrides → PerScope Overrides → PerScope Overrides} :
    Reports (scopeSetting key get set) (overridesEntry .json key set) :=
  reports_nothing ⟨rfl, rfl⟩ (fun _ _ => rfl) fun _ _ ignored => by
    cases (ignored_overrides ignored).1

theorem network_covers : Covers networkTable networkSchema where
  reports := .cons reports_plain <| .cons reports_plain .nil
  distinct := by decide

theorem connections_covers : Covers connectionsTable connectionsSchema where
  reports := .cons reports_plain <| .cons reports_plain <| .cons reports_plain .nil
  distinct := by decide

theorem access_covers : Covers accessTable (accessSchema .json) where
  reports :=
    .cons reports_plain <| .cons reports_plain <| .cons reports_plain <| .cons reports_plain <|
    .cons reports_plain <| .cons reports_plain .nil
  distinct := by decide

theorem circuit_covers : Covers circuitTable circuitSchema where
  reports := .cons reports_plain <| .cons reports_plain .nil
  distinct := by decide

theorem bounds_covers : Covers boundsTable boundsSchema where
  reports :=
    .cons (reports_section circuit_covers.lists) <| .cons reports_plain <| .cons reports_plain <|
    .cons reports_plain <| .cons reports_plain <| .cons reports_plain <| .cons reports_plain .nil
  distinct := by decide

theorem relay_covers : Covers relayTable relaySchema where
  reports := .cons reports_plain <| .cons (reports_section bounds_covers.lists) .nil
  distinct := by decide

theorem resources_covers : Covers resourcesTable (resourcesSchema .json) where
  reports :=
    .cons reports_plain <| .cons reports_plain <| .cons reports_scope <| .cons reports_scope <|
    .cons reports_scope <| .cons reports_scope <| .cons reports_scope .nil
  distinct := by decide

theorem routing_covers : Covers routingTable routingSchema where
  reports :=
    .cons reports_plain <| .cons reports_plain <| .cons reports_plain <| .cons reports_plain .nil
  distinct := by decide

theorem security_covers : Covers securityTable (securitySchema .json) where
  reports := .cons reports_plain .nil
  distinct := by decide

theorem daemon_covers : Covers daemonTable daemonSchema where
  reports := .cons reports_plain .nil
  distinct := by decide

theorem config_covers : Covers configTable (schema .json) where
  reports :=
    .cons (reports_section network_covers.lists) <|
    .cons (reports_section connections_covers.lists) <|
    .cons (reports_section access_covers.lists) <|
    .cons (reports_section relay_covers.lists) <|
    .cons (reports_section resources_covers.lists) <|
    .cons (reports_section routing_covers.lists) <|
    .cons (reports_section security_covers.lists) <|
    .cons (reports_section daemon_covers.lists) .nil
  distinct := by decide

/-! ## Ignored keys of a configuration file -/

/-- A layout whose sections all remember what they ignore. -/
inductive Remembers : Layout → Prop where
  | value {kind : Kind} : Remembers (.value kind)
  | «section» {settings : List (Names × Layout)} : (∀ x ∈ settings, Remembers x.2) →
      Remembers (.section .kept settings)

theorem Remembers.eq_kept {layout : Layout} {d : Document} {leftovers : Leftovers}
    {location : List String} (h : Remembers layout)
    (ignored : Ignored layout d leftovers location) : leftovers = .kept := by
  induction ignored with
  | here => cases h; rfl
  | inside _ named _ ih =>
    cases h with
    | «section» rows => exact ih (rows _ (List.mem_of_find?_eq_some named))

/-- The kinds of scopes that have ceilings, as the configuration calls them. -/
def scopeKeys : List String := ["system", "transient", "peer", "protocol", "conn"]

/-- A key in the ceilings of a scope. -/
def InScope (location : List String) : Prop :=
  ∃ scope ∈ scopeKeys, ∃ key, location = ["resources", scope, key]

/-- A key of a configuration file that no setting takes. -/
def Unconsumed (d : Document) (location : List String) : Prop :=
  ∃ leftovers, Ignored layout d leftovers location

theorem resources_rows : ∀ x ∈ rowsOf resourcesTable, (∃ kind, x.2 = .value kind) ∨
    x.1.key ∈ scopeKeys ∧ x.2 = layoutOf .dropped overridesTable := by
  simp [rowsOf, resourcesTable, scopeSetting, Setting.plain, Setting.nested, scopeKeys]

theorem remembers_layoutOf {settings : List (Setting σ)} (h : ∀ x ∈ settings, Remembers x.layout) :
    Remembers (layoutOf .kept settings) := by
  refine .section fun row hrow => ?_
  obtain ⟨x, hx, rfl⟩ := List.mem_map.mp hrow
  exact h x hx

theorem remembers_relay : Remembers (layoutOf .kept relayTable) := by
  have circuit : Remembers (layoutOf .kept circuitTable) :=
    remembers_layoutOf (by simp [circuitTable, Setting.plain, Remembers.value])
  have bounds : Remembers (layoutOf .kept boundsTable) := remembers_layoutOf (by
    simp [boundsTable, Setting.plain, Setting.nested, Remembers.value, circuit])
  exact remembers_layoutOf (by
    simp [relayTable, Setting.plain, Setting.nested, Remembers.value, bounds])

theorem config_rows : ∀ x ∈ rowsOf configTable, x.1.key ≠ "resources" ∧ Remembers x.2 ∨
    x.1.key = "resources" ∧ x.2 = layoutOf .kept resourcesTable := by
  have network : Remembers (layoutOf .kept networkTable) :=
    remembers_layoutOf (by simp [networkTable, Setting.plain, Remembers.value])
  have connections : Remembers (layoutOf .kept connectionsTable) :=
    remembers_layoutOf (by simp [connectionsTable, Setting.plain, Remembers.value])
  have access : Remembers (layoutOf .kept accessTable) :=
    remembers_layoutOf (by simp [accessTable, Setting.plain, Remembers.value])
  have routing : Remembers (layoutOf .kept routingTable) :=
    remembers_layoutOf (by simp [routingTable, Setting.plain, Remembers.value])
  have security : Remembers (layoutOf .kept securityTable) :=
    remembers_layoutOf (by simp [securityTable, Setting.plain, Remembers.value])
  have daemon : Remembers (layoutOf .kept daemonTable) :=
    remembers_layoutOf (by simp [daemonTable, Setting.plain, Remembers.value])
  simp [rowsOf, configTable, Setting.nested, network, connections, access, remembers_relay,
    routing, security, daemon]

/-- What the resources ignore stands in them, or in the ceilings of a scope. -/
theorem ignored_resources {d : Document} {leftovers : Leftovers} {location : List String}
    (ignored : Ignored (layoutOf .kept resourcesTable) d leftovers location) :
    (leftovers = .kept ∧ ∃ key, location = [key]) ∨
      leftovers = .dropped ∧ ∃ scope ∈ scopeKeys, ∃ key, location = [scope, key] := by
  cases ignored with
  | here => exact .inl ⟨rfl, _, rfl⟩
  | inside _ named ignored =>
    rcases resources_rows _ (List.mem_of_find?_eq_some named) with ⟨kind, value⟩ | ⟨scope, ceilings⟩
    · rw [value] at ignored
      cases ignored
    · rw [ceilings] at ignored
      obtain ⟨rfl, key, rfl⟩ := ignored_overrides ignored
      exact .inr ⟨rfl, _, scope, key, rfl⟩

/-- Every section remembers what it ignores, but for the ceilings of a scope. -/
theorem ignored_cases {d : Document} {leftovers : Leftovers} {location : List String}
    (ignored : Ignored layout d leftovers location) :
    (leftovers = .kept ∧ ¬ InScope location) ∨ leftovers = .dropped ∧ InScope location := by
  cases ignored with
  | here =>
    refine .inl ⟨rfl, ?_⟩
    rintro ⟨_, _, _, ⟨⟩⟩
  | inside _ named ignored =>
    rcases config_rows _ (List.mem_of_find?_eq_some named) with
      ⟨other, remembers⟩ | ⟨same, resources⟩
    · refine .inl ⟨remembers.eq_kept ignored, ?_⟩
      rintro ⟨scope, _, key, same⟩
      exact other (List.cons.inj same).1
    · rw [resources] at ignored
      rcases ignored_resources ignored with ⟨rfl, key, rfl⟩ | ⟨rfl, scope, hscope, key, rfl⟩
      · refine .inl ⟨rfl, ?_⟩
        rintro ⟨_, _, _, short⟩
        simp at short
      · exact .inr ⟨rfl, scope, hscope, key, by rw [same]⟩

theorem ignored_kept_iff {d : Document} {location : List String} :
    Ignored layout d .kept location ↔ Unconsumed d location ∧ ¬ InScope location := by
  constructor
  · intro ignored
    rcases ignored_cases ignored with ⟨-, outside⟩ | ⟨⟨⟩, -⟩
    exact ⟨⟨.kept, ignored⟩, outside⟩
  · rintro ⟨⟨leftovers, ignored⟩, outside⟩
    rcases ignored_cases ignored with ⟨rfl, -⟩ | ⟨-, inside⟩
    · exact ignored
    · exact absurd inside outside

/-- A text that is loaded lists the keys that no setting takes, once each and nothing else, but for
those that the ceilings of a scope pass over. -/
theorem unknown_of_loaded {cs : List Char} {l : Loaded} (loaded : ofJson cs = .ok l) :
    ∃ locations : List (List String), locations.Nodup ∧
      l.unknown = locations.map locationText ∧
      ∀ location, location ∈ locations ↔
        Unconsumed (Json.read cs).1 location ∧ ¬ InScope location := by
  obtain ⟨-, read, texts⟩ := (ofJson_eq_ok_iff rfl).mp loaded
  obtain ⟨locations, nodup, listed, members⟩ := config_covers.lists read ""
  refine ⟨locations, nodup, ?_, fun location => (members location).trans ignored_kept_iff⟩
  rw [texts, unknownKeys, listed]
  simp only [String.empty_append]

/-- The text of a section under its second name with a key that no setting takes. -/
def stray : List Char := "\x7b\"Daemon\":\x7b\"x\":0\x7d\x7d".toList

/-- A key that no setting takes is listed behind the first name of its section. -/
theorem unknown_of_loaded_nested : ∃ l, ofJson stray = .ok l ∧ "daemon.x" ∈ l.unknown := by
  have text : Json.read stray = (object [("Daemon", object [("x", .integer 0)])], none) := by
    cbv
  have read : ofDocument .json (object [("Daemon", object [("x", .integer 0)])]) = .ok standard :=
    rfl
  have loaded : ofJson stray =
      .ok ⟨standard, unknownKeys .json (object [("Daemon", object [("x", .integer 0)])])⟩ :=
    (ofJson_eq_ok_iff text).mpr ⟨rfl, read, rfl⟩
  obtain ⟨locations, -, texts, members⟩ := unknown_of_loaded loaded
  have daemon : setting? (rowsOf configTable) "Daemon" =
      some (⟨"daemon", some "Daemon"⟩, layoutOf .kept daemonTable) := rfl
  have ignored : Ignored layout (Json.read stray).1 .kept ["daemon", "x"] := by
    rw [text]
    exact .inside List.mem_cons_self daemon (.here List.mem_cons_self rfl)
  have listed := (members ["daemon", "x"]).mpr (ignored_kept_iff.mp ignored)
  refine ⟨_, loaded, ?_⟩
  rw [texts]
  exact List.mem_map.mpr ⟨["daemon", "x"], listed, rfl⟩

/-- The text of a ceiling with a misspelt key. -/
def misspelt : List Char :=
  "\x7b\"resources\":\x7b\"system\":\x7b\"connInbound\":3\x7d\x7d\x7d".toList

/-- A ceiling with a misspelt key is loaded, ignored and not listed. -/
theorem unknown_misspelt : ∃ l, ofJson misspelt = .ok l ∧
    Unconsumed (Json.read misspelt).1 ["resources", "system", "connInbound"] ∧
    l.unknown = [] := by
  have text : Json.read misspelt = (object [("resources",
      object [("system", object [("connInbound", .integer 3)])])], none) := by
    cbv
  have resources : setting? (rowsOf configTable) "resources" =
      some (⟨"resources", none⟩, layoutOf .kept resourcesTable) := rfl
  have system : setting? (rowsOf resourcesTable) "system" =
      some (⟨"system", none⟩, layoutOf .dropped overridesTable) := rfl
  obtain ⟨c, read⟩ : ∃ c, ofDocument .json (object [("resources", object [("system",
      object [("connInbound", .integer 3)])])]) = .ok c := ⟨_, rfl⟩
  obtain ⟨locations, -, texts, members⟩ := config_covers.lists read ""
  refine ⟨⟨c, _⟩, (ofJson_eq_ok_iff text).mpr ⟨rfl, read, texts.symm⟩, ⟨.dropped, ?_⟩, ?_⟩
  · rw [text]
    exact .inside List.mem_cons_self resources (.inside List.mem_cons_self system
      (.here List.mem_cons_self rfl))
  · rw [List.map_eq_nil_iff, List.eq_nil_iff_forall_not_mem]
    intro location hl
    rcases ignored_object_iff.mp ((members location).mp hl) with
      ⟨key, d, hm, unnamed, rfl⟩ | ⟨key, d, hm, row, rest, named, ignored, rfl⟩
    · cases List.mem_singleton.mp hm
      cases resources.symm.trans unnamed
    cases List.mem_singleton.mp hm
    cases resources.symm.trans named
    rcases ignored_object_iff.mp ignored with
      ⟨key, d, hm, unnamed, rfl⟩ | ⟨key, d, hm, row, rest, named, ignored, rfl⟩
    · cases List.mem_singleton.mp hm
      cases system.symm.trans unnamed
    · cases List.mem_singleton.mp hm
      cases system.symm.trans named
      cases (ignored_overrides ignored).1

end Config

end CircuitRelay
