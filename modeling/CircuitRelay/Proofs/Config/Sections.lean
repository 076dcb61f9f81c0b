import CircuitRelay.Proofs.Config.Matching

/-!
# Every section is read as the format says

The tables of the format are held against the schemas, from the innermost section outwards: the
plain values first, then each section with the sections that it is made of.

* `reads_texts`, `reads_word`, `reads_ceiling`, `reads_duration`, `reads_flag`, `reads_choice`,
  `reads_port`: a value of its type is read.
* `overrides_follows`: the ceilings of a scope, as an object or as a list.
* `config_matches`: the sections of the configuration.
-/

namespace CircuitRelay

namespace Config

open Document Layout

/-! ## Plain values -/

section Kinds

variable {d : Document}

theorem items_map_text (levels : Nat) (ss : List String) :
    Reader.items Reader.text levels (ss.map .text) = .ok ss := by
  induction ss with
  | nil => rfl
  | cons s ss ih => simp only [List.map_cons, Reader.items, Reader.text, ih]; rfl

theorem reads_texts (levels : Nat) (h : Kind.texts.Accepts d) : ∃ v, texts levels d = .ok v := by
  obtain ⟨ss, rfl⟩ := h
  refine ⟨ss, ?_⟩
  simp only [texts, Reader.list, items_map_text]
  rfl

theorem reads_integer {low high n : Int} (levels : Nat) (hlow : low ≤ n) (hhigh : n ≤ high) :
    Reader.integer low high levels (.integer n) = .ok n :=
  if_pos ⟨hlow, hhigh⟩

theorem reads_word (levels : Nat) (h : IsWord d) : ∃ v, Reader.word levels d = .ok v := by
  obtain ⟨n, rfl⟩ := h
  have small : n.toNat < 2 ^ 64 := n.toNat_lt
  refine ⟨n.toNat, ?_⟩
  rw [Reader.word, reads_integer levels (by omega) (by omega)]
  rfl

theorem reads_port (levels : Nat) (h : Kind.port.Accepts d) :
    ∃ v, Reader.integer (-2 ^ 31) (2 ^ 31 - 1) levels d = .ok v := by
  obtain ⟨n, rfl⟩ := h
  exact ⟨n.toInt, reads_integer levels n.le_toInt (Int.le_sub_one_of_lt n.toInt_lt)⟩

/-- Something that is not null is read as what it is, unless it breaks off. -/
theorem reads_optional {α : Type} {read : Reader α} (levels : Nat)
    (whole : ∀ first stop, d ≠ .broken first stop) (h : ∃ v, read levels d = .ok v) :
    ∃ v, Reader.optional read levels d = .ok v := by
  obtain ⟨v, done⟩ := h
  unfold Reader.optional
  split
  · exact ⟨none, rfl⟩
  · exact absurd rfl (whole _ _)
  · exact ⟨some v, by rw [done]; rfl⟩

theorem reads_ceiling (levels : Nat) (h : Kind.ceiling.Accepts d) :
    ∃ v, Reader.optional Reader.word levels d = .ok v := by
  rcases h with rfl | word
  · exact ⟨none, rfl⟩
  · refine reads_optional levels ?_ (reads_word levels word)
    obtain ⟨n, rfl⟩ := word
    rintro _ _ ⟨⟩

theorem reads_duration (levels : Nat) (h : Kind.duration.Accepts d) :
    ∃ v, Duration.reader levels d = .ok v := by
  rcases h with ⟨s, t, rfl, read⟩ | ⟨n, rfl⟩
  · exact ⟨t, by simp [Duration.reader, Duration.ofDocument, fault?, read, Except.mapError]⟩
  · refine ⟨.ofWord (UInt64.ofNat n.toNat), ?_⟩
    simp [Duration.reader, Duration.ofDocument, fault?, Except.mapError]

theorem reads_flag (levels : Nat) (h : Kind.flag.Accepts d) :
    ∃ v, Reader.flag levels d = .ok v := by
  obtain ⟨b, rfl⟩ := h
  exact ⟨b, rfl⟩

theorem reads_choice {α : Type} {choices : List (String × α)} (levels : Nat)
    (h : IsChoice (choices.map Prod.fst) d) :
    ∃ v, Reader.choice .json choices levels d = .ok v := by
  obtain ⟨name, known, written⟩ := h
  obtain ⟨v, found⟩ : ∃ v, choices.lookup name = some v := by
    obtain ⟨choice, hchoice, rfl⟩ := List.mem_map.mp known
    exact Option.isSome_iff_exists.mp
      (List.lookup_isSome_iff.mpr ⟨choice, hchoice, beq_self_eq_true _⟩)
  have named : Reader.named choices name = .ok v := by simp only [Reader.named, found]
  rcases written with rfl | rfl
  · exact ⟨v, named⟩
  · refine ⟨v, ?_⟩
    simp only [object, fieldsOf, List.map_cons, List.map_nil, Reader.choice, named]
    rfl

theorem reads_policy (levels : Nat) (h : Kind.policy.Accepts d) :
    ∃ v, Reader.choice .json SecretPolicy.choices levels d = .ok v :=
  reads_choice levels h

theorem reads_verdict (levels : Nat) (h : Kind.verdict.Accepts d) :
    ∃ v, Reader.optional (Reader.choice .json verdicts) levels d = .ok v := by
  rcases h with rfl | choice
  · exact ⟨none, rfl⟩
  · refine reads_optional levels ?_ (reads_choice levels choice)
    obtain ⟨name, -, rfl | rfl⟩ := choice
    · rintro _ _ ⟨⟩
    · rintro _ _ ⟨⟩

end Kinds

/-! ## Sections of plain values

The settings of a section stand in different fields of it, so that they do not meet is a matter of
computation, pair by pair. -/

theorem network_matches : Matches networkTable networkSchema .standard where
  describes :=
    .cons (describes_plain reads_texts fun _ _ => rfl) <|
    .cons (describes_plain reads_texts fun _ _ => rfl) .nil
  distinct := by decide
  commutes := commutes_of_forall (by
    and_intros <;> first | exact .inl rfl | exact .inr (commutes_of_read rfl fun _ _ _ => rfl))
  neutral := List.forall_iff_forall_mem.mp (by and_intros <;> exact fun _ => rfl)

theorem connections_matches : Matches connectionsTable connectionsSchema .standard where
  describes :=
    .cons (describes_plain reads_word fun _ _ => rfl) <|
    .cons (describes_plain reads_word fun _ _ => rfl) <|
    .cons (describes_plain reads_duration fun _ _ => rfl) .nil
  distinct := by decide
  commutes := commutes_of_forall (by
    and_intros <;> first | exact .inl rfl | exact .inr (commutes_of_read rfl fun _ _ _ => rfl))
  neutral := List.forall_iff_forall_mem.mp (by and_intros <;> exact fun _ => rfl)

theorem access_matches : Matches accessTable (accessSchema .json) .standard where
  describes :=
    .cons (describes_plain reads_texts fun _ _ => rfl) <|
    .cons (describes_plain reads_texts fun _ _ => rfl) <|
    .cons (describes_plain reads_texts fun _ _ => rfl) <|
    .cons (describes_plain reads_verdict fun _ _ => rfl) <|
    .cons (describes_plain reads_ceiling fun _ _ => rfl) <|
    .cons (describes_plain reads_flag fun _ _ => rfl) .nil
  distinct := by decide
  commutes := commutes_of_forall (by
    and_intros <;> first | exact .inl rfl | exact .inr (commutes_of_read rfl fun _ _ _ => rfl))
  neutral := List.forall_iff_forall_mem.mp (by and_intros <;> exact fun _ => rfl)

theorem circuit_matches : Matches circuitTable circuitSchema .standard where
  describes :=
    .cons (describes_plain reads_duration fun _ _ => rfl) <|
    .cons (describes_plain reads_word fun _ _ => rfl) .nil
  distinct := by decide
  commutes := commutes_of_forall (by
    and_intros <;> first | exact .inl rfl | exact .inr (commutes_of_read rfl fun _ _ _ => rfl))
  neutral := List.forall_iff_forall_mem.mp (by and_intros <;> exact fun _ => rfl)

theorem routing_matches : Matches routingTable routingSchema .standard where
  describes :=
    .cons (describes_plain reads_texts fun _ _ => rfl) <|
    .cons (describes_plain reads_duration fun _ _ => rfl) <|
    .cons (describes_plain reads_word fun _ _ => rfl) <|
    .cons (describes_plain reads_duration fun _ _ => rfl) .nil
  distinct := by decide
  commutes := commutes_of_forall (by
    and_intros <;> first | exact .inl rfl | exact .inr (commutes_of_read rfl fun _ _ _ => rfl))
  neutral := List.forall_iff_forall_mem.mp (by and_intros <;> exact fun _ => rfl)

theorem security_matches : Matches securityTable (securitySchema .json) .standard where
  describes :=
    .cons (describes_plain reads_policy fun _ _ => rfl) .nil
  distinct := by decide
  commutes := commutes_of_forall (.inl rfl)
  neutral := List.forall_iff_forall_mem.mp fun _ => rfl

theorem daemon_matches : Matches daemonTable daemonSchema standardPort where
  describes :=
    .cons (describes_plain reads_port fun _ _ => rfl) .nil
  distinct := by decide
  commutes := commutes_of_forall (.inl rfl)
  neutral := List.forall_iff_forall_mem.mp fun _ => rfl

/-! ## The ceilings of a scope -/

theorem overrides_matches : Matches overridesTable overridesSchema .none where
  describes :=
    .cons (describes_plain reads_ceiling fun _ _ => rfl) <|
    .cons (describes_plain reads_ceiling fun _ _ => rfl) <|
    .cons (describes_plain reads_ceiling fun _ _ => rfl) <|
    .cons (describes_plain reads_ceiling fun _ _ => rfl) <|
    .cons (describes_plain reads_ceiling fun _ _ => rfl) <|
    .cons (describes_plain reads_ceiling fun _ _ => rfl) <|
    .cons (describes_plain reads_ceiling fun _ _ => rfl) <|
    .cons (describes_plain reads_ceiling fun _ _ => rfl) .nil
  distinct := by decide
  commutes := commutes_of_forall (by
    and_intros <;> first | exact .inl rfl | exact .inr (commutes_of_read rfl fun _ _ _ => rfl))
  neutral := List.forall_iff_forall_mem.mp (by and_intros <;> exact fun _ => rfl)

/-- Ceilings given in order are read when each of them is one. -/
theorem readCeilings_ok (levels : Nat) {resources : List Resource} {items : List Document}
    (h : ∀ d ∈ items, Kind.ceiling.Accepts d) (o : Overrides) :
    ∃ v, readCeilings levels resources items o = .ok v := by
  induction resources generalizing items o with
  | nil => exact ⟨o, by simp [readCeilings]⟩
  | cons r resources ih =>
    cases items with
    | nil => exact ⟨o, by simp [readCeilings]⟩
    | cons d items =>
      rw [List.forall_mem_cons] at h
      obtain ⟨v, read⟩ := reads_ceiling levels h.1
      obtain ⟨o', rest⟩ := ih h.2 (setOverride r v o)
      refine ⟨o', ?_⟩
      simp only [readCeilings, read]
      exact rest

/-- The items of a proper list are ceilings, and not too many. -/
theorem ceilings_of_proper {levels : Nat} {items : List Document}
    (proper : Proper (layoutOf .dropped overridesTable) levels (.list items none)) :
    items.length ≤ Resource.all.length ∧ ∀ d ∈ items, Kind.ceiling.Accepts d := by
  generalize same : Document.list items none = d at proper
  cases proper with
  | object => cases same
  | list short proper =>
    cases same
    refine ⟨short, fun d hd => ?_⟩
    rw [← List.map_fst_zip short, List.mem_map] at hd
    obtain ⟨p, hp, rfl⟩ := hd
    have value := proper p hp
    rw [overrides_rows p.2 (List.of_mem_zip hp).2] at value
    exact proper_value_iff.mp value

theorem overrides_list {levels : Nat} {items : List Document}
    (proper : Proper (layoutOf .dropped overridesTable) levels (.list items none)) :
    ∃ v, overrides .json levels (.list items none) = .ok v := by
  obtain ⟨short, ceilings⟩ := ceilings_of_proper proper
  obtain ⟨o, read⟩ := readCeilings_ok (levels + 1) ceilings .none
  refine ⟨o, ?_⟩
  rw [overrides, read]
  have fits : ¬ (Format.json = .json ∧ Resource.all.length < items.length) :=
    fun long => absurd long.2 (Nat.not_lt.mpr short)
  exact if_neg fits

theorem overrides_follows :
    Follows (layoutOf .dropped overridesTable) (restoreAt overridesTable .none)
      (overrides .json) :=
  overrides_matches.follows (fun _ _ => rfl) fun _ _ => overrides_list

/-! ## Sections of sections -/

/-- What a circuit takes over from other bounds does not go into its defaults. -/
theorem setCircuit_restoreAt (path : List String) (c s : RelaySettings) :
    setCircuit (restoreAt circuitTable .standard path (circuitOf (setCircuit c s))) s =
      setCircuit (restoreAt circuitTable .standard path c) s := by
  cases path with
  | nil => rfl
  | cons key path =>
    simp only [restoreAt, circuitTable, List.find?_cons]
    split
    · rename_i x found
      split at found
      · cases found; rfl
      · split at found
        · cases found; rfl
        · cases found
    · rfl

theorem bounds_matches : Matches boundsTable boundsSchema .standard where
  describes :=
    .cons (circuit_matches.describes_section (fun _ _ _ => rfl) setCircuit_restoreAt) <|
    .cons (describes_plain reads_duration fun _ _ => rfl) <|
    .cons (describes_plain reads_word fun _ _ => rfl) <|
    .cons (describes_plain reads_word fun _ _ => rfl) <|
    .cons (describes_plain reads_word fun _ _ => rfl) <|
    .cons (describes_plain reads_word fun _ _ => rfl) <|
    .cons (describes_plain reads_word fun _ _ => rfl) .nil
  distinct := by decide
  commutes := commutes_of_forall (by
    and_intros <;> first | exact .inl rfl | exact .inr (commutes_of_read rfl fun _ _ _ => rfl))
  neutral := List.forall_iff_forall_mem.mp
    ⟨circuit_matches.restore_nested rfl rfl, fun _ => rfl, fun _ => rfl, fun _ => rfl,
      fun _ => rfl, fun _ => rfl, fun _ => rfl⟩

theorem relay_matches : Matches relayTable relaySchema .standard where
  describes :=
    .cons (describes_plain reads_flag fun _ _ => rfl) <|
    .cons (bounds_matches.describes_section (fun _ _ _ => rfl) fun _ _ _ => rfl) .nil
  distinct := by decide
  commutes := commutes_of_forall (by
    and_intros <;> first | exact .inl rfl | exact .inr (commutes_of_read rfl fun _ _ _ => rfl))
  neutral := List.forall_iff_forall_mem.mp
    ⟨fun _ => rfl, bounds_matches.restore_nested rfl rfl⟩

theorem resources_matches : Matches resourcesTable (resourcesSchema .json) .standard where
  describes :=
    .cons (describes_plain reads_ceiling fun _ _ => rfl) <|
    .cons (describes_plain reads_ceiling fun _ _ => rfl) <|
    .cons (describes_nested overrides_follows (fun _ _ _ => rfl) fun _ _ _ => rfl) <|
    .cons (describes_nested overrides_follows (fun _ _ _ => rfl) fun _ _ _ => rfl) <|
    .cons (describes_nested overrides_follows (fun _ _ _ => rfl) fun _ _ _ => rfl) <|
    .cons (describes_nested overrides_follows (fun _ _ _ => rfl) fun _ _ _ => rfl) <|
    .cons (describes_nested overrides_follows (fun _ _ _ => rfl) fun _ _ _ => rfl) .nil
  distinct := by decide
  commutes := commutes_of_forall (by
    and_intros <;> first | exact .inl rfl | exact .inr (commutes_of_read rfl fun _ _ _ => rfl))
  neutral := List.forall_iff_forall_mem.mp
    ⟨fun _ => rfl, fun _ => rfl, overrides_matches.restore_nested rfl rfl,
      overrides_matches.restore_nested rfl rfl, overrides_matches.restore_nested rfl rfl,
      overrides_matches.restore_nested rfl rfl, overrides_matches.restore_nested rfl rfl⟩

/-- The sections of the configuration are read as the format says. -/
theorem config_matches : Matches configTable (schema .json) standard where
  describes :=
    .cons (network_matches.describes_section (fun _ _ _ => rfl) fun _ _ _ => rfl) <|
    .cons (connections_matches.describes_section (fun _ _ _ => rfl) fun _ _ _ => rfl) <|
    .cons (access_matches.describes_section (fun _ _ _ => rfl) fun _ _ _ => rfl) <|
    .cons (relay_matches.describes_section (fun _ _ _ => rfl) fun _ _ _ => rfl) <|
    .cons (resources_matches.describes_section (fun _ _ _ => rfl) fun _ _ _ => rfl) <|
    .cons (routing_matches.describes_section (fun _ _ _ => rfl) fun _ _ _ => rfl) <|
    .cons (security_matches.describes_section (fun _ _ _ => rfl) fun _ _ _ => rfl) <|
    .cons (daemon_matches.describes_section (fun _ _ _ => rfl) fun _ _ _ => rfl) .nil
  distinct := by decide
  commutes := commutes_of_forall (by
    and_intros <;> first | exact .inl rfl | exact .inr (commutes_of_read rfl fun _ _ _ => rfl))
  neutral := List.forall_iff_forall_mem.mp
    ⟨network_matches.restore_nested rfl rfl,
      connections_matches.restore_nested rfl rfl,
      access_matches.restore_nested rfl rfl,
      relay_matches.restore_nested rfl rfl,
      resources_matches.restore_nested rfl rfl,
      routing_matches.restore_nested rfl rfl,
      security_matches.restore_nested rfl rfl,
      daemon_matches.restore_nested rfl rfl⟩

end Config

end CircuitRelay
