import CircuitRelay.Config.Load
import CircuitRelay.Proofs.Config.Sections
import Mathlib

/-!
# What an edit of a configuration file changes

A file that keeps to the format is loaded, and what is loaded does not depend on how the file is
written: not on the order of the keys in any object, not on which of its keys a setting goes by,
not on keys that name nothing, as long as the values behind them can be read.  When a setting is
deleted it has its default and every other setting stays what it is.

* `config_follows`: the configuration is read as the format says.
* `loads_of_edits_and_deletions`: files that differ by edits, or by the deletion of a setting.
* `unreadable_value_refused`: a value that cannot be read is refused even where nothing takes it.
-/

namespace CircuitRelay

namespace Config

open Document Layout

/-- A text is loaded as a configuration. -/
def Loads (cs : List Char) (c : Config) : Prop := ∃ unknown, ofJson cs = .ok ⟨c, unknown⟩

theorem config_follows : Follows layout restore ((schema .json).read standard) :=
  config_matches.section_follows

variable {cs : List Char} {d d' : Document} {c : Config}

theorem loads_iff (text : Json.read cs = (d, none)) : Loads cs c ↔ ofDocument .json d = .ok c := by
  simp only [Loads, ofJson_eq_ok_iff text, true_and, exists_and_left, exists_eq, and_true]

/-- Edits of a proper document lead to proper documents that are read alike. -/
theorem ofDocument_edits (proper : Proper layout 0 d)
    (edits : Relation.ReflTransGen (Edit layout 0) d d') :
    Proper layout 0 d' ∧ ofDocument .json d' = ofDocument .json d := by
  induction edits with
  | refl => exact ⟨proper, rfl⟩
  | tail _ edit ih => exact ⟨edit.proper ih.1, (config_follows.same ih.1 edit).trans ih.2⟩

/-- A text that keeps to the format is loaded; edits of it are loaded as the same configuration, and
a text without one of its settings as the configuration with the default of that setting. -/
theorem loads_of_edits_and_deletions (text : Json.read cs = (d, none))
    (proper : Proper layout 0 d) : ∃ c, Loads cs c ∧
      (∀ cs' d', Json.read cs' = (d', none) → Relation.ReflTransGen (Edit layout 0) d d' →
        Loads cs' c) ∧
      ∀ cs' d' path, Json.read cs' = (d', none) → Deletes layout path d d' →
        Loads cs' (restore path c) := by
  obtain ⟨c, read⟩ := config_follows.reads proper
  refine ⟨c, (loads_iff text).mpr read, fun cs' d' text' edits => ?_,
    fun cs' d' path text' deletes => ?_⟩
  · exact (loads_iff text').mpr ((ofDocument_edits proper edits).2.trans read)
  · exact (loads_iff text').mpr (config_follows.fewer proper deletes read)

/-- A setting in a section: the section goes by its second name and has a key that no setting takes,
and then the setting is left out. -/
theorem loads_daemon_edited :
    ∃ c, Loads "\x7b\"daemon\":\x7b\"promPort\":1\x7d\x7d".toList c ∧
      Loads "\x7b\"Daemon\":\x7b\"x\":0,\"promPort\":1\x7d\x7d".toList c ∧
      Loads "\x7b\"daemon\":\x7b\x7d\x7d".toList (restore ["daemon", "promPort"] c) := by
  have text : Json.read "\x7b\"daemon\":\x7b\"promPort\":1\x7d\x7d".toList =
      (object [("daemon", object [("promPort", .integer 1)])], none) := by cbv
  have edited : Json.read "\x7b\"Daemon\":\x7b\"x\":0,\"promPort\":1\x7d\x7d".toList =
      (object [("Daemon", object [("x", .integer 0), ("promPort", .integer 1)])], none) := by cbv
  have shortened : Json.read "\x7b\"daemon\":\x7b\x7d\x7d".toList =
      (object [("daemon", object [])], none) := by cbv
  have port : Proper (.value .port) 2 (.integer 1) := .value ⟨1, rfl⟩
  have daemon : Proper (layoutOf .kept daemonTable) 1 (object [("promPort", .integer 1)]) :=
    proper_object_iff.mpr ⟨by simpa using Fits.of_named rfl port, by simp⟩
  have proper : Proper layout 0 (object [("daemon", object [("promPort", .integer 1)])]) :=
    proper_object_iff.mpr ⟨by simpa using Fits.of_named rfl daemon, by simp⟩
  have renamed : Edit layout 0
      (object ([] ++ ("daemon", object [("promPort", .integer 1)]) :: []))
      (object ([] ++ ("Daemon", object [("promPort", .integer 1)]) :: [])) := .rename rfl rfl
  have added : Edit (layoutOf .kept daemonTable) 1 (object ([] ++ [("promPort", .integer 1)]))
      (object ([] ++ ("x", .integer 0) :: [("promPort", .integer 1)])) := .add rfl rfl
  have inside : Edit layout 0
      (object ([] ++ ("Daemon", object [("promPort", .integer 1)]) :: []))
      (object ([] ++ ("Daemon", object [("x", .integer 0), ("promPort", .integer 1)]) :: [])) :=
    .inside rfl added
  have deleted : Deletes (layoutOf .kept daemonTable) ["promPort"]
      (object ([] ++ ("promPort", .integer 1) :: [])) (object ([] ++ [])) :=
    .here (x := (⟨"promPort", some "PromPort"⟩, .value .port)) rfl
  have deletes : Deletes layout ["daemon", "promPort"]
      (object ([] ++ ("daemon", object [("promPort", .integer 1)]) :: []))
      (object ([] ++ ("daemon", object []) :: [])) :=
    .inside (x := (⟨"daemon", some "Daemon"⟩, layoutOf .kept daemonTable)) rfl deleted
  obtain ⟨c, loads, ofEdits, ofDeletion⟩ := loads_of_edits_and_deletions text proper
  exact ⟨c, loads, ofEdits _ _ edited (.tail (.single renamed) inside),
    ofDeletion _ _ _ shortened deletes⟩

/-- The text of an object with one member. -/
def memberText (key value : List Char) : List Char :=
  "\x7b\"".toList ++ key ++ "\":".toList ++ value ++ "\x7d".toList

set_option maxRecDepth 8000 in
/-- The empty object is loaded, but not with a key that names nothing and a number beyond the range
of floating point numbers, one half of a surrogate pair, or a list of too many levels. -/
theorem unreadable_value_refused :
    setting? (rowsOf configTable) "x" = none ∧ (∃ c, Loads "\x7b\x7d".toList c) ∧
    ∀ value ∈ ["1e400".toList, "\"\\ud800\"".toList,
        List.replicate 127 '[' ++ List.replicate 127 ']'],
      (∃ v, Json.read (memberText "x".toList value) = (object [("x", v)], none)) ∧
        ¬ ∃ c, Loads (memberText "x".toList value) c := by
  have empty : Json.read "\x7b\x7d".toList = (object [], none) := by cbv
  have proper : Proper layout 0 (object []) := proper_object_iff.mpr ⟨by simp, .nil⟩
  have refused {value : List Char} {v : Document}
      (text : Json.read (memberText "x".toList value) = (object [("x", v)], none))
      (read : ofDocument .json (object [("x", v)]) = .error .malformed) :
      (∃ v, Json.read (memberText "x".toList value) = (object [("x", v)], none)) ∧
        ¬ ∃ c, Loads (memberText "x".toList value) c := by
    refine ⟨⟨v, text⟩, ?_⟩
    rintro ⟨c, loads⟩
    cases read.symm.trans ((loads_iff text).mp loads)
  obtain ⟨c, read⟩ := config_follows.reads proper
  refine ⟨rfl, ⟨c, (loads_iff empty).mpr read⟩, ?_⟩
  rw [List.forall_mem_cons, List.forall_mem_cons, List.forall_mem_singleton]
  refine ⟨refused (v := .huge) (by cbv) rfl, refused (v := .unpaired) (by cbv) rfl,
    refused (v := (fun d => .list [d] none)^[126] (.list [] none)) (by cbv) rfl⟩

end Config

end CircuitRelay
