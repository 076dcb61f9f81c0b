import CircuitRelay.Duration.Text
import CircuitRelay.Proofs.Document.Section

/-!
# Layouts of documents

A layout says what an operator may write: which keys an object has, under which second names, and
what stands behind them.  It knows nothing of how a document is read, so what is said here about
documents is said in the operator's terms.

* `Kind.Accepts`: the values of plain settings.
* `Proper`: the documents that keep to a layout.
* `Edit`: what may be done to a document without touching a setting.
* `Deletes`: the removal of one setting.
* `Ignored`: where a document has keys that name nothing.
* `Edit.proper`, `Deletes.proper`: both lead from proper documents to proper documents.
-/

namespace CircuitRelay

namespace Config

open Document

/-! ## Plain values -/

/-- The types of plain settings. -/
inductive Kind where
  /-- A list of texts. -/
  | texts
  /-- A word of 64 bits. -/
  | word
  /-- A word, or nothing. -/
  | ceiling
  /-- A text with units, or a word of nanoseconds. -/
  | duration
  | flag
  /-- A verdict, or nothing. -/
  | verdict
  /-- What to do without the network secret. -/
  | policy
  /-- A port, or a number that is none. -/
  | port

/-- A word of 64 bits. -/
def IsWord (d : Document) : Prop := ∃ n : UInt64, d = .integer n.toNat

/-- One of several names, as a text or as the only key of an object with nothing behind it. -/
def IsChoice (names : List String) (d : Document) : Prop :=
  ∃ name ∈ names, d = .text name ∨ d = object [(name, .null)]

/-- The values of a type. -/
def Kind.Accepts : Kind → Document → Prop
  | .texts, d => ∃ ss : List String, d = .list (ss.map .text) none
  | .word, d => IsWord d
  | .ceiling, d => d = .null ∨ IsWord d
  | .duration, d => (∃ s t, d = .text s ∧ Duration.ofText s = .ok t) ∨ IsWord d
  | .flag, d => ∃ b, d = .flag b
  | .verdict, d => d = .null ∨ IsChoice ["allow", "deny"] d
  | .policy, d => IsChoice ["fatal", "public"] d
  | .port, d => ∃ n : Int32, d = .integer n.toInt

/-! ## Layouts -/

/-- What becomes of the values behind keys that name no setting. -/
inductive Leftovers where
  /-- They are read and remembered. -/
  | kept
  /-- They are passed over. -/
  | dropped
  deriving DecidableEq

/-- The first flaw of a value that no setting takes, inside so many levels. -/
def Leftovers.fault? : Leftovers → Nat → Document → Option Flaw
  | .kept => Document.fault?
  | .dropped => fun _ => skipFault?

/-- The keys of a setting. -/
structure Names where
  key : String
  otherKey : Option String

namespace Names

/-- Whether a key is one of those of the setting. -/
def has (n : Names) (key : String) : Bool := n.key = key || n.otherKey = some key

/-- The keys of the setting. -/
def all (n : Names) : List String := n.key :: n.otherKey.toList

end Names

/-- What may be written. -/
inductive Layout where
  /-- A plain value. -/
  | value (kind : Kind)
  /-- An object with settings. -/
  | «section» (leftovers : Leftovers) (settings : List (Names × Layout))

namespace Layout

variable {layout : Layout} {settings : List (Names × Layout)} {leftovers : Leftovers}
  {levels : Nat} {d d' : Document}

/-- The setting that a key names. -/
def setting? (settings : List (Names × Layout)) (key : String) : Option (Names × Layout) :=
  settings.find? fun x => x.1.has key

/-- The documents that keep to a layout: every recognised value is of its type, no setting is given
twice or beside its second name, and what no setting takes can be read.  A section whose leftovers
are dropped may also be a list of its first values. -/
inductive Proper : Layout → Nat → Document → Prop where
  | value {kind : Kind} {levels : Nat} {d : Document} : kind.Accepts d →
      Proper (.value kind) levels d
  | object {leftovers : Leftovers} {settings : List (Names × Layout)} {levels : Nat}
      {members : Members} :
      (∀ m ∈ members, ∀ x, setting? settings m.1 = some x → Proper x.2 (levels + 1) m.2) →
      (∀ m ∈ members, setting? settings m.1 = none → leftovers.fault? (levels + 1) m.2 = none) →
      (members.Pairwise fun m m' =>
        ∀ x, setting? settings m.1 = some x → setting? settings m'.1 ≠ some x) →
      Proper (.section leftovers settings) levels (object members)
  | list {settings : List (Names × Layout)} {levels : Nat} {items : List Document} :
      items.length ≤ settings.length →
      (∀ p ∈ items.zip settings, Proper p.2.2 (levels + 1) p.1) →
      Proper (.section .dropped settings) levels (.list items none)

/-- One change of a document, in one object of any depth, that touches no setting. -/
inductive Edit : Layout → Nat → Document → Document → Prop where
  /-- The members of an object change places. -/
  | permute {leftovers : Leftovers} {settings : List (Names × Layout)} {levels : Nat}
      {members members' : Members} : members.Perm members' →
      Edit (.section leftovers settings) levels (object members) (object members')
  /-- A setting goes by another of its keys. -/
  | rename {leftovers : Leftovers} {settings : List (Names × Layout)} {levels : Nat}
      {before after : Members} {key key' : String} {v : Document} {x : Names × Layout} :
      setting? settings key = some x → setting? settings key' = some x →
      Edit (.section leftovers settings) levels (object (before ++ (key, v) :: after))
        (object (before ++ (key', v) :: after))
  /-- A key that names nothing appears, with a value that can be read. -/
  | add {leftovers : Leftovers} {settings : List (Names × Layout)} {levels : Nat}
      {before after : Members} {key : String} {v : Document} :
      setting? settings key = none → leftovers.fault? (levels + 1) v = none →
      Edit (.section leftovers settings) levels (object (before ++ after))
        (object (before ++ (key, v) :: after))
  /-- A key that names nothing disappears. -/
  | remove {leftovers : Leftovers} {settings : List (Names × Layout)} {levels : Nat}
      {before after : Members} {key : String} {v : Document} :
      setting? settings key = none →
      Edit (.section leftovers settings) levels (object (before ++ (key, v) :: after))
        (object (before ++ after))
  /-- The change is made behind the key of a setting. -/
  | inside {leftovers : Leftovers} {settings : List (Names × Layout)} {levels : Nat}
      {before after : Members} {key : String} {v v' : Document} {x : Names × Layout} :
      setting? settings key = some x → Edit x.2 (levels + 1) v v' →
      Edit (.section leftovers settings) levels (object (before ++ (key, v) :: after))
        (object (before ++ (key, v') :: after))

/-- The removal of the setting at a path from a document. -/
inductive Deletes : Layout → List String → Document → Document → Prop where
  | here {leftovers : Leftovers} {settings : List (Names × Layout)} {before after : Members}
      {key : String} {v : Document} {x : Names × Layout} :
      setting? settings key = some x →
      Deletes (.section leftovers settings) [x.1.key] (object (before ++ (key, v) :: after))
        (object (before ++ after))
  | inside {leftovers : Leftovers} {settings : List (Names × Layout)} {before after : Members}
      {key : String} {v v' : Document} {x : Names × Layout} {path : List String} :
      setting? settings key = some x → Deletes x.2 path v v' →
      Deletes (.section leftovers settings) (x.1.key :: path)
        (object (before ++ (key, v) :: after)) (object (before ++ (key, v') :: after))

/-- Where a document has a key that no setting takes: the path ends in that key, and says the
sections before it by their first names.  The key is told apart by what becomes of its value. -/
inductive Ignored : Layout → Document → Leftovers → List String → Prop where
  | here {leftovers : Leftovers} {settings : List (Names × Layout)}
      {fields : Fields} {ending : Option Flaw} {key : String} {v : Document} :
      (.known key, v) ∈ fields → setting? settings key = none →
      Ignored (.section leftovers settings) (.record fields ending) leftovers [key]
  | inside {leftovers leftovers' : Leftovers} {settings : List (Names × Layout)}
      {fields : Fields} {ending : Option Flaw} {key : String} {v : Document} {x : Names × Layout}
      {path : List String} :
      (.known key, v) ∈ fields → setting? settings key = some x → Ignored x.2 v leftovers' path →
      Ignored (.section leftovers settings) (.record fields ending) leftovers' (x.1.key :: path)

/-! ## Proper objects -/

theorem proper_value_iff {kind : Kind} : Proper (.value kind) levels d ↔ kind.Accepts d :=
  ⟨fun h => by cases h; assumption, .value⟩

/-- A member that has its place in a section. -/
structure Fits (leftovers : Leftovers) (settings : List (Names × Layout)) (levels : Nat)
    (m : String × Document) : Prop where
  proper : ∀ x, setting? settings m.1 = some x → Proper x.2 (levels + 1) m.2
  sound : setting? settings m.1 = none → leftovers.fault? (levels + 1) m.2 = none

theorem Fits.of_named {m : String × Document} {x : Names × Layout}
    (named : setting? settings m.1 = some x) (proper : Proper x.2 (levels + 1) m.2) :
    Fits leftovers settings levels m where
  proper y named' := by
    obtain rfl := Option.some_inj.mp (named.symm.trans named')
    exact proper
  sound unnamed := by cases named.symm.trans unnamed

theorem Fits.of_unnamed {m : String × Document} (unnamed : setting? settings m.1 = none)
    (sound : leftovers.fault? (levels + 1) m.2 = none) : Fits leftovers settings levels m where
  proper y named := by cases unnamed.symm.trans named
  sound _ := sound

/-- Two members that name different settings. -/
def Apart (settings : List (Names × Layout)) (m m' : String × Document) : Prop :=
  ∀ x, setting? settings m.1 = some x → setting? settings m'.1 ≠ some x

theorem Apart.symm {m m' : String × Document} (h : Apart settings m m') : Apart settings m' m :=
  fun x named named' => h x named' named

theorem proper_object_iff {members : Members} :
    Proper (.section leftovers settings) levels (object members) ↔
      (∀ m ∈ members, Fits leftovers settings levels m) ∧ members.Pairwise (Apart settings) := by
  constructor
  · intro h
    generalize same : object members = d at h
    cases h with
    | object proper sound once =>
      cases object_inj.mp same
      exact ⟨fun m hm => ⟨proper m hm, sound m hm⟩, once⟩
    | list => cases same
  · rintro ⟨fits, once⟩
    exact .object (fun m hm => (fits m hm).proper) (fun m hm => (fits m hm).sound) once

theorem proper_object_middle {before after : Members} {m : String × Document} :
    Proper (.section leftovers settings) levels (object (before ++ m :: after)) ↔
      Fits leftovers settings levels m ∧ (∀ m' ∈ before ++ after, Apart settings m m') ∧
        Proper (.section leftovers settings) levels (object (before ++ after)) := by
  rw [proper_object_iff, proper_object_iff, List.perm_middle.pairwise_iff Apart.symm,
    List.pairwise_cons]
  constructor
  · rintro ⟨fits, apart, once⟩
    refine ⟨fits m (by simp), apart, fun m' hm' => fits m' ?_, once⟩
    exact List.perm_middle.mem_iff.mpr (List.mem_cons_of_mem _ hm')
  · rintro ⟨fit, apart, fits, once⟩
    refine ⟨fun m' hm' => ?_, apart, once⟩
    rcases List.mem_cons.mp (List.perm_middle.mem_iff.mp hm') with rfl | hm'
    · exact fit
    · exact fits m' hm'

/-- An edit of a proper document leaves a proper document. -/
theorem Edit.proper (h : Edit layout levels d d') (proper : Proper layout levels d) :
    Proper layout levels d' := by
  induction h with
  | permute perm =>
    rw [proper_object_iff] at proper ⊢
    exact ⟨fun m hm => proper.1 m (perm.mem_iff.mpr hm),
      (perm.pairwise_iff Apart.symm).mp proper.2⟩
  | rename named named' =>
    rw [proper_object_middle] at proper ⊢
    obtain ⟨fits, apart, rest⟩ := proper
    refine ⟨.of_named named' (fits.proper _ named), fun m hm y named'' => ?_, rest⟩
    exact apart m hm y (named.trans (named'.symm.trans named''))
  | add unnamed sound =>
    rw [proper_object_middle]
    refine ⟨.of_unnamed unnamed sound, fun m hm y named => ?_, proper⟩
    cases unnamed.symm.trans named
  | remove unnamed => exact (proper_object_middle.mp proper).2.2
  | inside named edit ih =>
    rw [proper_object_middle] at proper ⊢
    obtain ⟨fits, apart, rest⟩ := proper
    exact ⟨.of_named named (ih (fits.proper _ named)), apart, rest⟩

/-- Deleting a setting from a proper document leaves a proper document. -/
theorem Deletes.proper {path : List String} (h : Deletes layout path d d')
    (proper : Proper layout levels d) : Proper layout levels d' := by
  induction h generalizing levels with
  | here named => exact (proper_object_middle.mp proper).2.2
  | inside named deletes ih =>
    rw [proper_object_middle] at proper ⊢
    obtain ⟨fits, apart, rest⟩ := proper
    exact ⟨.of_named named (ih (fits.proper _ named)), apart, rest⟩

theorem Ignored.ne_nil {leftovers : Leftovers} {path : List String}
    (h : Ignored layout d leftovers path) : path ≠ [] := by
  cases h <;> exact List.cons_ne_nil _ _

end Layout

end Config

end CircuitRelay
