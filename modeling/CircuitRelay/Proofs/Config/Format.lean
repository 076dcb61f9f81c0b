import CircuitRelay.Config.Schema
import CircuitRelay.Proofs.Config.Layout
import Mathlib.Data.List.Forall2

/-!
# The format of the configuration

The settings that an operator may write, section by section: their keys, their types, and how each
is given its default.  The tables stand beside the schemas by which documents are read and share
nothing with them but the sections' values, so that the two can be held against each other.

* `Setting`, `restoreAt`: a setting, and the default of the setting at a path.
* `setting?_cases`, `unambiguous_of_distinct`: a schema whose entries have the keys of a table.
* `configTable`: the settings of the configuration.
* `layout`, `restore`: the layout of a configuration file, and the default of one of its settings.
-/

namespace CircuitRelay

namespace Config

open Document

/-- A setting of a section with values in `σ`. -/
structure Setting (σ : Type) where
  names : Names
  layout : Layout
  /-- Gives the setting its default, or the setting behind a path in it. -/
  restore : List String → σ → σ

section Settings

variable {σ τ : Type}

/-- The settings of a section without their defaults. -/
def rowsOf (settings : List (Setting σ)) : List (Names × Layout) :=
  settings.map fun x => (x.names, x.layout)

/-- The layout of a section. -/
def layoutOf (leftovers : Leftovers) (settings : List (Setting σ)) : Layout :=
  .section leftovers (rowsOf settings)

/-- Gives the setting at a path its default; the empty path is the whole section. -/
def restoreAt (settings : List (Setting σ)) (start : σ) : List String → σ → σ
  | [], _ => start
  | key :: path, s =>
    match settings.find? fun x => x.names.key = key with
    | some x => x.restore path s
    | none => s

/-- A plain setting. -/
def Setting.plain (key : String) (otherKey : Option String) (kind : Kind) (restore : σ → σ) :
    Setting σ :=
  ⟨⟨key, otherKey⟩, .value kind, fun _ => restore⟩

/-- A setting that is a section itself. -/
def Setting.nested (key : String) (otherKey : Option String) (leftovers : Leftovers)
    (settings : List (Setting τ)) (start : τ) (get : σ → τ) (set : τ → σ → σ) : Setting σ :=
  ⟨⟨key, otherKey⟩, layoutOf leftovers settings,
    fun path s => set (restoreAt settings start path (get s)) s⟩

/-! ## Tables and schemas -/

/-- A setting and the entry of a schema with the same keys. -/
structure SameKeys (x : Setting σ) (e : Entry σ) : Prop where
  key : e.key = x.names.key
  otherKey : e.otherKey = x.names.otherKey

theorem SameKeys.names {x : Setting σ} {e : Entry σ} (h : SameKeys x e) :
    Schema.names e = x.names.has := by
  funext key
  simp only [Schema.names, Names.has, h.key, h.otherKey]

/-- No key names two settings. -/
def Distinct (settings : List (Setting σ)) : Prop :=
  (settings.flatMap fun x => x.names.all).Nodup

instance (settings : List (Setting σ)) : Decidable (Distinct settings) :=
  inferInstanceAs (Decidable (List.Nodup _))

variable {settings : List (Setting σ)} {schema : Schema σ}

theorem unambiguous_of_distinct (distinct : Distinct settings)
    (h : List.Forall₂ SameKeys settings schema) : schema.Unambiguous := by
  have same : schema.flatMap Schema.keysOf = settings.flatMap fun x => x.names.all := by
    clear distinct
    induction h with
    | nil => rfl
    | cons keys rest ih =>
      simp only [List.flatMap_cons, ih, Schema.keysOf, Names.all, keys.key, keys.otherKey]
  exact Schema.unambiguous_of_nodup (same ▸ distinct)

/-- A setting is known by its first key. -/
theorem Distinct.eq_of_key (h : Distinct settings) {x y : Setting σ} (hx : x ∈ settings)
    (hy : y ∈ settings) (same : x.names.key = y.names.key) : x = y := by
  have symm : Std.Symm fun x y : Setting σ => x.names.key = y.names.key → x = y :=
    ⟨fun _ _ h same => (h same.symm).symm⟩
  have apart : settings.Pairwise fun x y => x.names.key = y.names.key → x = y := by
    refine (List.nodup_flatMap.mp h).2.imp fun {x y} disjoint same => ?_
    exact absurd List.mem_cons_self (disjoint (a := x.names.key) List.mem_cons_self <| same ▸ ·)
  exact apart.forall_of_forall (fun _ _ _ => rfl) hx hy same

theorem exists_entry_of_mem {R : Setting σ → Entry σ → Prop} (h : List.Forall₂ R settings schema)
    {x : Setting σ} (hx : x ∈ settings) : ∃ e ∈ schema, R x e := by
  induction h with
  | nil => cases hx
  | @cons y e settings schema related _ ih =>
    rcases List.mem_cons.mp hx with rfl | hx
    · exact ⟨e, List.mem_cons_self, related⟩
    · obtain ⟨e', he', related'⟩ := ih hx
      exact ⟨e', List.mem_cons_of_mem _ he', related'⟩

/-- The setting of a section that a key names, in the table and in the schema. -/
theorem setting?_cases {R : Setting σ → Entry σ → Prop} (keys : ∀ x e, R x e → SameKeys x e)
    (h : List.Forall₂ R settings schema) (key : String) :
    (Layout.setting? (rowsOf settings) key = none ∧
        schema.entry? key = none) ∨
      ∃ x ∈ settings, ∃ e ∈ schema, R x e ∧ schema.entry? key = some e ∧
        Layout.setting? (rowsOf settings) key =
          some (x.names, x.layout) := by
  induction h with
  | nil => exact .inl ⟨rfl, rfl⟩
  | @cons x e settings schema describes rest ih =>
    have same : Schema.names e key = x.names.has key := congrFun (keys x e describes).names key
    cases named : x.names.has key with
    | true =>
      refine .inr ⟨x, List.mem_cons_self, e, List.mem_cons_self, describes, ?_, ?_⟩
      · exact List.find?_cons_of_pos (same.trans named)
      · exact List.find?_cons_of_pos named
    | false =>
      have skip : Schema.entry? (e :: schema) key = Schema.entry? schema key :=
        List.find?_cons_of_neg (p := fun e => Schema.names e key) (by rw [same, named]; simp)
      have skip' : Layout.setting? (rowsOf (x :: settings)) key =
          Layout.setting? (rowsOf settings) key :=
        List.find?_cons_of_neg (p := fun x : Names × Layout => x.1.has key) (by rw [named]; simp)
      rw [skip, skip']
      rcases ih with none | ⟨y, hy, f, hf, found⟩
      · exact .inl none
      · exact .inr ⟨y, List.mem_cons_of_mem _ hy, f, List.mem_cons_of_mem _ hf, found⟩

end Settings

/-! ## The sections -/

/-- Where the node listens and what it announces. -/
def networkTable : List (Setting Network) := [
  .plain "listenAddrs" (some "ListenAddrs") .texts
    fun s => { s with listen := Network.standard.listen },
  .plain "announceAddrs" (some "AnnounceAddrs") .texts
    fun s => { s with announce := Network.standard.announce }]

/-- How many connections the node keeps. -/
def connectionsTable : List (Setting Connections) := [
  .plain "low" (some "ConnMgrLo") .word fun s => { s with low := Connections.standard.low },
  .plain "high" (some "ConnMgrHi") .word fun s => { s with high := Connections.standard.high },
  .plain "grace" (some "ConnMgrGrace") .duration
    fun s => { s with grace := Connections.standard.grace }]

/-- Who may use the relay. -/
def accessTable : List (Setting Access) := [
  .plain "allowPeers" (some "AllowPeers") .texts fun s => { s with allowPeers := [] },
  .plain "denyPeers" (some "DenyPeers") .texts fun s => { s with denyPeers := [] },
  .plain "allowSubnets" (some "AllowSubnets") .texts fun s => { s with allowSubnets := [] },
  .plain "default" none .verdict fun s => { s with default := none },
  .plain "maxConnsPerPeer" none .ceiling fun s => { s with maxConnections := none },
  .plain "audit" none .flag fun s => { s with audit := false }]

/-- The bounds of a circuit. -/
def circuitTable : List (Setting RelaySettings) := [
  .plain "duration" (some "Duration") .duration
    fun s => { s with circuitDuration := RelaySettings.standard.circuitDuration },
  .plain "data" (some "Data") .word
    fun s => { s with circuitData := RelaySettings.standard.circuitData }]

/-- The bounds of a circuit alone. -/
def circuitOf (s : RelaySettings) : RelaySettings := setCircuit s .standard

/-- The bounds of the relay. -/
def boundsTable : List (Setting RelaySettings) := [
  .nested "limit" (some "Limit") .kept circuitTable .standard circuitOf setCircuit,
  .plain "reservationTTL" (some "ReservationTTL") .duration
    fun s => { s with reservationTtl := RelaySettings.standard.reservationTtl },
  .plain "maxReservations" (some "MaxReservations") .word
    fun s => { s with maxReservations := RelaySettings.standard.maxReservations },
  .plain "maxCircuits" (some "MaxCircuits") .word
    fun s => { s with maxCircuits := RelaySettings.standard.maxCircuits },
  .plain "bufferSize" (some "BufferSize") .word
    fun s => { s with bufferSize := RelaySettings.standard.bufferSize },
  .plain "maxReservationsPerPeer" (some "MaxReservationsPerPeer") .word
    fun s => { s with maxReservationsPerPeer := RelaySettings.standard.maxReservationsPerPeer },
  .plain "maxReservationsPerIP" (some "MaxReservationsPerIP") .word
    fun s => { s with maxReservationsPerIp := RelaySettings.standard.maxReservationsPerIp }]

/-- Whether the relay runs, and within which bounds. -/
def relayTable : List (Setting RelaySwitch) := [
  .plain "enabled" (some "Enabled") .flag fun s => { s with enabled := true },
  .nested "resources" (some "Resources") .kept boundsTable .standard (·.settings)
    fun v s => { s with settings := v }]

/-- The ceilings of a scope. -/
def overridesTable : List (Setting Overrides) := [
  .plain "memory" none .ceiling fun o => { o with memory := none },
  .plain "fds" none .ceiling fun o => { o with fds := none },
  .plain "connsInbound" none .ceiling fun o => { o with connsInbound := none },
  .plain "connsOutbound" none .ceiling fun o => { o with connsOutbound := none },
  .plain "conns" none .ceiling fun o => { o with conns := none },
  .plain "streamsInbound" none .ceiling fun o => { o with streamsInbound := none },
  .plain "streamsOutbound" none .ceiling fun o => { o with streamsOutbound := none },
  .plain "streams" none .ceiling fun o => { o with streams := none }]

/-- Every setting of a scope is a ceiling. -/
theorem overrides_rows : ∀ x ∈ rowsOf overridesTable, x.2 = .value .ceiling := by
  simp [rowsOf, overridesTable, Setting.plain]

/-- The ceilings of a kind of scope. -/
def scopeSetting (key : String) (get : PerScope Overrides → Overrides)
    (set : Overrides → PerScope Overrides → PerScope Overrides) : Setting Resources :=
  .nested key none .dropped overridesTable .none (fun s => get s.overrides)
    fun o s => { s with overrides := set o s.overrides }

/-- What the node may use. -/
def resourcesTable : List (Setting Resources) := [
  .plain "maxMemory" none .ceiling fun s => { s with maxMemory := none },
  .plain "maxFileDescriptors" none .ceiling fun s => { s with maxFds := none },
  scopeSetting "system" (·.system) fun o p => { p with system := o },
  scopeSetting "transient" (·.transient) fun o p => { p with transient := o },
  scopeSetting "peer" (·.peer) fun o p => { p with peer := o },
  scopeSetting "protocol" (·.protocol) fun o p => { p with protocol := o },
  scopeSetting "conn" (·.connection) fun o p => { p with connection := o }]

/-- How the node joins the overlay. -/
def routingTable : List (Setting Routing) := [
  .plain "bootstrapPeers" none .texts fun s => { s with peers := Routing.standard.peers },
  .plain "bootstrapTimeout" none .duration fun s => { s with timeout := Routing.standard.timeout },
  .plain "minSeedResponses" none .word
    fun s => { s with minResponses := Routing.standard.minResponses },
  .plain "retryInterval" none .duration
    fun s => { s with retryInterval := Routing.standard.retryInterval }]

/-- What to do without the network secret. -/
def securityTable : List (Setting SecretPolicy) := [
  .plain "onSecretError" none .policy fun _ => .fatal]

/-- Where metrics are served. -/
def daemonTable : List (Setting Int) := [
  .plain "promPort" (some "PromPort") .port fun _ => 9090]

/-- The sections of the configuration. -/
def configTable : List (Setting Config) := [
  .nested "network" (some "Network") .kept networkTable .standard (·.network)
    fun v c => { c with network := v },
  .nested "connMgr" (some "ConnMgr") .kept connectionsTable .standard (·.connections)
    fun v c => { c with connections := v },
  .nested "acl" (some "ACL") .kept accessTable .standard (·.access)
    fun v c => { c with access := v },
  .nested "relayV2" (some "RelayV2") .kept relayTable .standard (·.relay)
    fun v c => { c with relay := v },
  .nested "resources" none .kept resourcesTable .standard (·.resources)
    fun v c => { c with resources := v },
  .nested "routing" none .kept routingTable .standard (·.routing)
    fun v c => { c with routing := v },
  .nested "security" none .kept securityTable .standard (·.onSecretError)
    fun v c => { c with onSecretError := v },
  .nested "daemon" (some "Daemon") .kept daemonTable standardPort (·.port)
    fun v c => { c with port := v }]

/-- The layout of a configuration file. -/
def layout : Layout := layoutOf .kept configTable

/-- Gives the setting at a path its default. -/
def restore : List String → Config → Config := restoreAt configTable standard

end Config

end CircuitRelay
