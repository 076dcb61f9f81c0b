import CircuitRelay.Config.Printer
import Mathlib.Algebra.Ring.Nat
import Mathlib.Data.List.Chain

/-!
# Written durations are read back

A written duration is a list of parts, each so many times a unit.  The number of years is what the
whole seconds allow; every later number is below the ratio of its unit to the one before, which is
a thousand at most.  So all numbers and products fit, the parts add up to the duration, and the
reader, which adds them in the order in which they stand, never passes the length that it returns.

The reader's automaton is followed along the text: digits, then the letters of a name, then a blank.
Positions only matter to faults, so each stretch is read alike wherever it stands.

* `Scan.run_append`: reading one stretch after the other.
* `Scan.run_digits`, `Scan.run_letters`, `Scan.step_blank`: the stretches of a part.
* `addUnits_eq`: when so many units can be added.
* `hasName_of_mem_written`: the names that are written are read as their units.
* `parts`, `total_parts`, `number_lt_of_mem_parts`: the parts of a length.
* `shown`, `toText_eq`, `total_shown`, `addUp_shown`: the parts of a written duration.
* `run_parts`, `ofText_parts`: the reader adds up the parts.
* `ofDocument_written`: durations and words are read back from documents.
-/

namespace CircuitRelay

namespace Duration

/-! ## Stretches of text -/

theorem digitValue?_digitChar {d : Nat} (h : d < 10) :
    Text.digitValue? (Nat.digitChar d) = some d := by
  have all : ∀ d < 10, Text.digitValue? (Nat.digitChar d) = some d := by decide
  exact all d h

/-- The letters of names are no digits. -/
theorem digitValue?_of_isUnitLetter {c : Char} (h : isUnitLetter c = true) :
    Text.digitValue? c = none := by
  simp only [isUnitLetter, Bool.or_eq_true, Bool.and_eq_true, decide_eq_true_eq] at h
  rcases h with (⟨h, -⟩ | ⟨h, -⟩) | rfl
  · exact if_neg fun hc => absurd (Char.le_trans h hc.2) (by decide)
  · exact if_neg fun hc => absurd (Char.le_trans h hc.2) (by decide)
  · rfl

/-- The letters of names are no blanks. -/
theorem isBlank_of_isUnitLetter {c : Char} (h : isUnitLetter c = true) :
    Text.isBlank c = false := by
  simp only [isUnitLetter, Bool.or_eq_true, Bool.and_eq_true, decide_eq_true_eq] at h
  rcases h with (⟨hlo, hhi⟩ | ⟨hlo, hhi⟩) | rfl
  · have hlo : 97 ≤ c.toNat := hlo
    have hhi : c.toNat ≤ 122 := hhi
    simp [Text.isBlank]
    omega
  · have hlo : 65 ≤ c.toNat := hlo
    have hhi : c.toNat ≤ 90 := hhi
    simp [Text.isBlank]
    omega
  · rfl

namespace Scan

/-- The octets of characters. -/
def octets (cs : List Char) : Nat := (cs.map Char.utf8Size).sum

/-- Reading one stretch after the other. -/
theorem run_append (s : Scan) (i : Nat) (cs rest : List Char) :
    s.run i (cs ++ rest) = (s.run i cs).bind fun t => t.run (i + octets cs) rest := by
  induction cs generalizing s i with
  | nil => simp [run, octets, Except.bind]
  | cons c cs ih =>
    rw [List.cons_append]
    simp only [run, bind]
    cases s.step i c with
    | error f => rfl
    | ok t =>
      simp only [Except.bind]
      rw [ih]
      simp only [octets, List.map_cons, List.sum_cons, Nat.add_assoc]
      rfl

variable {sum : Nat} {b : Bool}

/-- The digits of a word are read as that word. -/
theorem run_digits {k : Nat} (h : k < 2 ^ 64) (p i : Nat) :
    (⟨sum, b, .start p⟩ : Scan).run i (Text.digits k) = .ok ⟨sum, b, .number k⟩ := by
  -- the last digit is taken off, so that the earlier ones have left their number behind
  induction k using Nat.strongRecOn generalizing i with
  | ind k ih =>
    unfold Text.digits
    rw [Nat.toDigits_eq_if (by omega)]
    split
    · rename_i hk
      simp only [run, step, digitValue?_digitChar hk, bind, Except.bind]
    · rename_i hk
      have hread := ih (k / 10) (by omega) (by omega) i
      unfold Text.digits at hread
      have hlast : k / 10 * 10 + k % 10 = k := by omega
      rw [run_append, hread]
      simp only [Except.bind, run, step, digitValue?_digitChar (Nat.mod_lt k (by omega : 10 > 0)),
        bind, word?, hlast, if_pos h, pure, Except.pure]

/-- Further letters of a name are gathered. -/
theorem run_unit {k : Nat} {name letters : List Char} (h : ∀ c ∈ letters, isUnitLetter c = true)
    (i : Nat) :
    (⟨sum, b, .unit k none name⟩ : Scan).run i letters
      = .ok ⟨sum, b, .unit k none (name ++ letters)⟩ := by
  induction letters generalizing name i with
  | nil => simp only [run, List.append_nil]
  | cons c cs ih =>
    have hc := h c (List.mem_cons_self ..)
    have hstep : (⟨sum, b, .unit k none name⟩ : Scan).step i c
        = .ok ⟨sum, b, .unit k none (name ++ [c])⟩ := by
      simp [step, digitValue?_of_isUnitLetter hc, isBlank_of_isUnitLetter hc, hc]
    simp only [run, hstep, bind, Except.bind]
    rw [ih fun c' hc' => h c' (List.mem_cons_of_mem _ hc'), List.append_assoc,
      List.singleton_append]

/-- The letters behind a number are read as the name of its unit. -/
theorem run_letters {k : Nat} {letters : List Char} (hne : letters ≠ [])
    (h : ∀ c ∈ letters, isUnitLetter c = true) (i : Nat) :
    (⟨sum, b, .number k⟩ : Scan).run i letters = .ok ⟨sum, b, .unit k none letters⟩ := by
  obtain ⟨c, cs, rfl⟩ := List.exists_cons_of_ne_nil hne
  have hc := h c (List.mem_cons_self ..)
  have hstep : (⟨sum, b, .number k⟩ : Scan).step i c = .ok ⟨sum, b, .unit k none [c]⟩ := by
    simp [step, digitValue?_of_isUnitLetter hc, isBlank_of_isUnitLetter hc, hc]
  simp only [run, hstep, bind, Except.bind]
  rw [run_unit fun c' hc' => h c' (List.mem_cons_of_mem _ hc'), List.singleton_append]

/-- A blank behind a unit finishes the term. -/
theorem step_blank {k sum' : Nat} {letters : List Char}
    (hterm : addTerm sum k none letters = .ok sum') (i : Nat) :
    (⟨sum, b, .unit k none letters⟩ : Scan).step i ' '
      = .ok ⟨sum', true, .start (i + ' '.utf8Size)⟩ := by
  have hdigit : Text.digitValue? ' ' = none := rfl
  have hblank : Text.isBlank ' ' = true := rfl
  simp only [step, hdigit, hblank, if_true, hterm, bind, Except.bind, pure, Except.pure]

end Scan

/-! ## Adding -/

/-- Units from the second on are whole seconds. -/
theorem nanos_eq_of_second_le {u : TimeUnit} (h : second ≤ u.nanos) :
    u.nanos / second * second = u.nanos := by
  cases u <;> simp_all [TimeUnit.nanos, second]

/-- So many units are added if the total fits, and, for the units below a second, if the
nanoseconds fit in a word. -/
theorem addUnits_eq {sum k : Nat} {u : TimeUnit} (hsum : sum + k * u.nanos < 2 ^ 64 * 10 ^ 9)
    (hsmall : u.nanos < second → sum % second + k * u.nanos < 2 ^ 64) :
    addUnits sum k u = .ok (sum + k * u.nanos) := by
  have hmod : sum % second < second := Nat.mod_lt _ (by decide)
  unfold addUnits
  split
  · rename_i hu
    have hword := hsmall hu
    simp only [word?, addTo, bind, Except.bind, if_pos hword, Nat.zero_mul, Nat.add_zero,
      if_pos hsum, if_pos (show k * u.nanos < 2 ^ 64 by omega)]
  · rename_i hu
    have hwhole : k * (u.nanos / second) * second = k * u.nanos := by
      rw [Nat.mul_assoc, nanos_eq_of_second_le (Nat.le_of_not_lt hu)]
    have hword : k * (u.nanos / second) < 2 ^ 64 := by
      unfold second at hwhole ⊢
      omega
    have hrest : sum % second < 2 ^ 64 := by
      unfold second at hmod ⊢
      omega
    simp only [word?, addTo, bind, Except.bind, if_pos hword, if_pos hrest, hwhole, Nat.add_zero,
      if_pos hsum]

/-! ## Parts -/

/-- The name of so many units. -/
def Naming.name : Naming → Nat → String
  | .plain name, _ => name
  | .counted name, n => name ++ if n = 1 then "" else "s"

/-- A name depends on whether there is one or more. -/
theorem Naming.name_eq_one_or_two (naming : Naming) (n : Nat) :
    naming.name n = naming.name 1 ∨ naming.name n = naming.name 2 := by
  cases naming with
  | plain name => exact .inl rfl
  | counted name =>
    by_cases hn : n = 1
    · exact .inl (by rw [hn])
    · exact .inr (by simp [Naming.name, hn])

theorem Naming.term_eq (naming : Naming) (n : Nat) :
    naming.term n =
      if n = 0 then none else some (String.ofList (Text.digits n) ++ naming.name n) := by
  cases naming <;> simp [term, name, String.append_assoc]

/-- A word of letters is read as a unit. -/
def TimeUnit.HasName (u : TimeUnit) (name : String) : Prop :=
  TimeUnit.ofName? name = some u ∧ name.toList ≠ [] ∧ name.toList.all isUnitLetter = true

instance (u : TimeUnit) (name : String) : Decidable (u.HasName name) :=
  inferInstanceAs (Decidable (_ ∧ _ ∧ _))

/-- The units are written under names that they are read by. -/
theorem hasName_of_mem_written :
    ∀ e ∈ written, e.1.HasName (e.2.name 1) ∧ e.1.HasName (e.2.name 2) := by decide

/-- One part of a written duration. -/
structure Part where
  number : Nat
  unit : TimeUnit
  naming : Naming

namespace Part

/-- The length of a part in nanoseconds. -/
def nanos (p : Part) : Nat := p.number * p.unit.nanos

/-- The name of the unit as it is written. -/
def name (p : Part) : String := p.naming.name p.number

/-- A part as it is written. -/
def text (p : Part) : String := String.ofList (Text.digits p.number) ++ p.name

/-- The part is written under a name of its unit. -/
def Named (p : Part) : Prop := p.unit.HasName p.name

end Part

/-- The length of parts in nanoseconds. -/
def total (ps : List Part) : Nat := (ps.map Part.nanos).sum

/-- Each part is added to the sum of those before it without overflow. -/
def AddUp : Nat → List Part → Prop
  | _, [] => True
  | sum, p :: ps => addUnits sum p.number p.unit = .ok (sum + p.nanos) ∧ AddUp (sum + p.nanos) ps

/-- The parts of so many nanoseconds in the given units. -/
def parts (n : Nat) : List (TimeUnit × Naming) → List Part
  | [] => []
  | (u, naming) :: rest =>
    if n / u.nanos = 0 then parts (n % u.nanos) rest
    else ⟨n / u.nanos, u, naming⟩ :: parts (n % u.nanos) rest

/-- The parts of a duration as it is written. -/
def shown (d : Duration) : List Part :=
  if d.nanos = 0 then [⟨0, .second, .plain "s"⟩] else parts d.nanos written

theorem terms_eq (n : Nat) (units : List (TimeUnit × Naming)) :
    terms n units = (parts n units).map Part.text := by
  induction units generalizing n with
  | nil => rfl
  | cons e rest ih =>
    obtain ⟨u, naming⟩ := e
    simp only [terms, parts, Naming.term_eq]
    split
    · simp only [Option.toList_none, List.nil_append, ih]
    · simp only [Option.toList_some, List.singleton_append, ih, List.map_cons]
      rfl

/-- The text of a duration is that of its parts. -/
theorem toText_eq (d : Duration) : d.toText = " ".intercalate (d.shown.map Part.text) := by
  unfold toText shown
  split
  · rfl
  · rw [terms_eq]

theorem total_cons (p : Part) (ps : List Part) : total (p :: ps) = p.nanos + total ps := by
  simp [total]

/-- Parts down to the nanosecond lose nothing. -/
theorem total_parts {units : List (TimeUnit × Naming)} {naming : Naming}
    (h : units.getLast? = some (.nanosecond, naming)) (n : Nat) : total (parts n units) = n := by
  induction units generalizing n with
  | nil => simp at h
  | cons e rest ih =>
    obtain ⟨u, nm⟩ := e
    -- behind the last unit nothing is left
    have hrest : total (parts (n % u.nanos) rest) = n % u.nanos := by
      cases rest with
      | nil =>
        obtain ⟨rfl, -⟩ : u = .nanosecond ∧ nm = naming := by simpa using h
        simp [parts, total, TimeUnit.nanos, Nat.mod_one]
      | cons e' rest => exact ih (by simpa using h) _
    have hdiv := Nat.div_add_mod' n u.nanos
    simp only [parts]
    split
    · rename_i hzero
      simp only [hzero, Nat.zero_mul, Nat.zero_add] at hdiv
      rw [hrest, hdiv]
    · rw [total_cons, hrest, Part.nanos, hdiv]

theorem TimeUnit.nanos_pos (u : TimeUnit) : 0 < u.nanos := by cases u <;> decide

theorem mem_parts_cons {n : Nat} {u : TimeUnit} {naming : Naming}
    {rest : List (TimeUnit × Naming)} {p : Part} (hp : p ∈ parts n ((u, naming) :: rest)) :
    p = ⟨n / u.nanos, u, naming⟩ ∨ p ∈ parts (n % u.nanos) rest := by
  simp only [parts] at hp
  split at hp
  · exact .inr hp
  · exact List.mem_cons.mp hp

/-- Each number is below the ratio of its unit to the one before. -/
theorem number_lt_of_mem_parts {r : Nat} {units : List (TimeUnit × Naming)}
    (hchain : units.IsChain fun e e' => e.1.nanos ≤ r * e'.1.nanos) {n : Nat}
    (hn : ∀ e ∈ units.head?, n < r * e.1.nanos) : ∀ p ∈ parts n units, p.number < r := by
  induction units generalizing n with
  | nil => simp [parts]
  | cons e rest ih =>
    obtain ⟨u, naming⟩ := e
    have hlt : n < r * u.nanos := hn (u, naming) (by simp)
    have hmod : n % u.nanos < u.nanos := Nat.mod_lt _ u.nanos_pos
    rw [List.isChain_cons] at hchain
    have hrest := ih hchain.2 fun e' he' => Nat.lt_of_lt_of_le hmod (hchain.1 e' he')
    intro p hp
    rcases mem_parts_cons hp with rfl | hp
    · exact Nat.div_lt_of_lt_mul (by rwa [Nat.mul_comm])
    · exact hrest p hp

/-- Parts are named as their unit is. -/
theorem mem_of_mem_parts {n : Nat} {units : List (TimeUnit × Naming)} {p : Part}
    (hp : p ∈ parts n units) : (p.unit, p.naming) ∈ units := by
  induction units generalizing n with
  | nil => simp [parts] at hp
  | cons e rest ih =>
    obtain ⟨u, naming⟩ := e
    rcases mem_parts_cons hp with rfl | hp
    · exact List.mem_cons_self ..
    · exact List.mem_cons_of_mem _ (ih hp)

/-- The first part takes the years, and no later number reaches a thousand. -/
theorem number_lt_of_mem_shown {d : Duration} {p : Part} (hp : p ∈ d.shown) :
    p.number < 2 ^ 64 ∧ (p.unit ≠ .year → p.number < 1000) := by
  have hbound := d.bounded
  unfold shown at hp
  split at hp
  · obtain rfl := List.mem_singleton.mp hp
    simp
  · constructor
    · refine number_lt_of_mem_parts ?_ ?_ p hp
      · simp [written, TimeUnit.nanos]
      · simp only [written, List.head?_cons, Option.mem_some_iff, forall_eq', TimeUnit.nanos]
        omega
    · intro hu
      have hp' : p ∈ parts (d.nanos % TimeUnit.year.nanos) written.tail := by
        rcases mem_parts_cons hp with rfl | hp
        · exact absurd rfl hu
        · exact hp
      refine number_lt_of_mem_parts ?_ ?_ p hp'
      · simp [written, TimeUnit.nanos]
      · simp only [written, List.tail_cons, List.head?_cons, Option.mem_some_iff, forall_eq',
          TimeUnit.nanos]
        omega

theorem total_shown (d : Duration) : total d.shown = d.nanos := by
  unfold shown
  split
  · rename_i hzero
    rw [hzero]
    rfl
  · exact total_parts rfl d.nanos

theorem shown_ne_nil (d : Duration) : d.shown ≠ [] := by
  have htotal := total_shown d
  intro hnil
  rw [hnil] at htotal
  have hzero : d.nanos = 0 := htotal.symm
  simp [shown, hzero] at hnil

theorem named_of_mem_written {u : TimeUnit} {naming : Naming} (h : (u, naming) ∈ written)
    (n : Nat) : (⟨n, u, naming⟩ : Part).Named := by
  obtain ⟨hone, htwo⟩ := hasName_of_mem_written _ h
  unfold Part.Named Part.name
  rcases naming.name_eq_one_or_two n with heq | heq
  · rwa [heq]
  · rwa [heq]

theorem named_of_mem_shown {d : Duration} {p : Part} (hp : p ∈ d.shown) : p.Named := by
  unfold shown at hp
  split at hp
  · obtain rfl := List.mem_singleton.mp hp
    exact named_of_mem_written (by simp [written]) 0
  · exact named_of_mem_written (mem_of_mem_parts hp) p.number

/-- Parts add up if their total fits and those of units below a second are below a second. -/
theorem addUp_of_total {sum : Nat} {ps : List Part} (htotal : sum + total ps < 2 ^ 64 * 10 ^ 9)
    (hsmall : ∀ p ∈ ps, p.unit.nanos < second → p.nanos < second) : AddUp sum ps := by
  induction ps generalizing sum with
  | nil => trivial
  | cons p ps ih =>
    rw [total_cons] at htotal
    have hmod : sum % second < second := Nat.mod_lt _ (by decide)
    constructor
    · apply addUnits_eq
      · unfold Part.nanos at htotal
        omega
      · intro hu
        have hp : p.number * p.unit.nanos < second := hsmall p (List.mem_cons_self ..) hu
        unfold second at hmod hp ⊢
        omega
    · exact ih (by omega) fun q hq => hsmall q (List.mem_cons_of_mem _ hq)

theorem addUp_shown (d : Duration) : AddUp 0 d.shown := by
  have hbound := d.bounded
  apply addUp_of_total
  · rw [total_shown]
    omega
  · intro p hp hu
    have hyear : p.unit ≠ .year := by
      rintro heq
      rw [heq] at hu
      exact absurd hu (by decide)
    have hnumber := (number_lt_of_mem_shown hp).2 hyear
    have hunit : p.unit.nanos ≤ 10 ^ 6 := by
      revert hu
      cases p.unit <;> decide
    calc p.nanos ≤ 999 * 10 ^ 6 := Nat.mul_le_mul (by omega) hunit
      _ < second := by decide

/-! ## Reading parts -/

theorem addTerm_eq {sum : Nat} {p : Part} (hnamed : p.Named)
    (hadd : addUnits sum p.number p.unit = .ok (sum + p.nanos)) :
    addTerm sum p.number none p.name.toList = .ok (sum + p.nanos) := by
  simp only [addTerm, String.ofList_toList, hnamed.1, hadd, bind, Except.bind, pure,
    Except.pure]

/-- A part is read up to its last letter. -/
theorem run_part {p : Part} (hnamed : p.Named) (hword : p.number < 2 ^ 64) (sum : Nat) (b : Bool)
    (i j : Nat) :
    (⟨sum, b, .start i⟩ : Scan).run j p.text.toList
      = .ok ⟨sum, b, .unit p.number none p.name.toList⟩ := by
  rw [Part.text, String.toList_append, String.toList_ofList, Scan.run_append,
    Scan.run_digits hword]
  exact Scan.run_letters hnamed.2.1 (List.all_eq_true.mp hnamed.2.2) _

/-- Parts that add up are read as their total. -/
theorem run_parts {ps : List Part} (hne : ps ≠ []) (hnamed : ∀ p ∈ ps, p.Named)
    (hword : ∀ p ∈ ps, p.number < 2 ^ 64) {sum : Nat} (hadd : AddUp sum ps) (b : Bool) (i j : Nat) :
    ((⟨sum, b, .start i⟩ : Scan).run j
        ([' '].intercalate (ps.map fun p => p.text.toList))).bind Scan.finish
      = .ok (sum + total ps) := by
  induction ps generalizing sum b i j with
  | nil => exact absurd rfl hne
  | cons p ps ih =>
    have hp := hnamed p (List.mem_cons_self ..)
    have hterm := addTerm_eq hp hadd.1
    have hread := run_part hp (hword p (List.mem_cons_self ..)) sum b i j
    rw [total_cons, ← Nat.add_assoc]
    cases ps with
    | nil =>
      rw [List.map_singleton, List.intercalate_singleton, hread]
      simpa [Except.bind, Scan.finish, total] using hterm
    | cons q qs =>
      have hrest := ih (List.cons_ne_nil _ _) (fun r hr => hnamed r (List.mem_cons_of_mem _ hr))
        (fun r hr => hword r (List.mem_cons_of_mem _ hr)) hadd.2
      rw [List.map_cons, List.intercalate_cons_of_ne_nil (by simp), List.append_assoc,
        Scan.run_append, hread, List.singleton_append]
      simp only [Except.bind, Scan.run, Scan.step_blank hterm, bind]
      exact hrest ..

/-- The reader adds up the parts. -/
theorem ofText_parts {ps : List Part} (hne : ps ≠ []) (hnamed : ∀ p ∈ ps, p.Named)
    (hword : ∀ p ∈ ps, p.number < 2 ^ 64) (hadd : AddUp 0 ps)
    (htotal : total ps < 2 ^ 64 * 10 ^ 9) :
    ofText (" ".intercalate (ps.map Part.text)) = .ok ⟨total ps, htotal⟩ := by
  have hchars : (" ".intercalate (ps.map Part.text)).toList
      = [' '].intercalate (ps.map fun p => p.text.toList) := by
    simp [Function.comp_def]
  have hread : (Scan.initial.run 0 (" ".intercalate (ps.map Part.text)).toList).bind Scan.finish
      = .ok (total ps) := by
    rw [hchars, ← Nat.zero_add (total ps)]
    exact run_parts hne hnamed hword hadd false 0 0
  unfold ofText
  split
  · -- read as parts, a lone `0` lacks its unit
    rename_i hlone
    have hlack : (Scan.initial.run 0 "0".toList).bind Scan.finish
        = .error (.unknownUnit "" 0) := rfl
    rw [hlone, hlack] at hread
    cases hread
  · cases hrun : Scan.initial.run 0 (" ".intercalate (ps.map Part.text)).toList with
    | error f =>
      rw [hrun] at hread
      cases hread
    | ok s =>
      rw [hrun] at hread
      have hfinish : s.finish = .ok (total ps) := hread
      simp only [bind, Except.bind, hfinish, ofNanos?, dif_pos htotal]

/-! ## Durations in documents -/

/-- A text is read at any level. -/
theorem ofDocument_text (levels : Nat) (s : String) :
    ofDocument levels (.text s) = (ofText s).mapError .text := rfl

/-- The text of a duration is read as that duration. -/
theorem ofText_toText (d : Duration) : ofText d.toText = .ok d := by
  have htotal : total d.shown < 2 ^ 64 * 10 ^ 9 := by
    rw [total_shown]
    exact d.bounded
  rw [toText_eq, ofText_parts (shown_ne_nil d) (fun _ hp => named_of_mem_shown hp)
    (fun _ hp => (number_lt_of_mem_shown hp).1) (addUp_shown d) htotal]
  simp only [total_shown]

/-- The digits of a word are read as nanoseconds before `ns`. -/
theorem ofText_nanoseconds (n : UInt64) :
    ofText (String.ofList (Text.digits n.toNat) ++ "ns") = .ok (ofWord n) := by
  have hn := n.toNat_lt
  have hnanos : total [⟨n.toNat, .nanosecond, .plain "ns"⟩] = n.toNat := by
    simp [total, Part.nanos, TimeUnit.nanos]
  have htotal : total [⟨n.toNat, .nanosecond, .plain "ns"⟩] < 2 ^ 64 * 10 ^ 9 := by
    rw [hnanos]
    omega
  have hadd : AddUp 0 [⟨n.toNat, .nanosecond, .plain "ns"⟩] := by
    refine ⟨addUnits_eq ?_ fun _ => ?_, trivial⟩
    · simp only [TimeUnit.nanos]
      omega
    · simp only [TimeUnit.nanos, Nat.zero_mod]
      omega
  have hread := ofText_parts (List.cons_ne_nil _ _)
    (by simpa using named_of_mem_written (by simp [written]) n.toNat)
    (by simpa using hn) hadd htotal
  rw [List.map_singleton, String.intercalate_singleton] at hread
  simp only [hnanos] at hread
  exact hread

/-- A duration is written as parts that add up to it, numbers other than that of the years stay
below a thousand, and its text is read as the same duration.  A word is read as so many nanoseconds,
like its digits with `ns` behind them.  The units are those of the last list, with the names of one
and of more. -/
theorem ofDocument_written (levels : Nat) :
    (∀ d : Duration,
      d.toText = " ".intercalate (d.shown.map Part.text) ∧
      total d.shown = d.nanos ∧
      AddUp 0 d.shown ∧
      (∀ p ∈ d.shown, p.number < 2 ^ 64 ∧ (p.unit ≠ .year → p.number < 1000)) ∧
      ofDocument levels (Config.durationDocument d) = .ok d) ∧
    (∀ n : UInt64,
      ofDocument levels (.integer n.toNat) = .ok (ofWord n) ∧
      ofDocument levels (.text (String.ofList (Text.digits n.toNat) ++ "ns")) = .ok (ofWord n)) ∧
    written.map (fun e => (e.1.nanos, e.2.name 1, e.2.name 2)) = [
      (31557600 * second, "year", "years"), (2630016 * second, "month", "months"),
      (86400 * second, "day", "days"), (3600 * second, "h", "h"), (60 * second, "m", "m"),
      (second, "s", "s"), (10 ^ 6, "ms", "ms"), (10 ^ 3, "us", "us"), (1, "ns", "ns")] := by
  refine ⟨?_, ?_, rfl⟩
  · intro d
    refine ⟨toText_eq d, total_shown d, addUp_shown d, fun p hp => number_lt_of_mem_shown hp, ?_⟩
    rw [Config.durationDocument, ofDocument_text, ofText_toText]
    rfl
  · intro n
    constructor
    · have hword : UInt64.ofNat n.toNat = n := UInt64.ofNat_toNat
      simp [ofDocument, Document.fault?, hword]
    · rw [ofDocument_text, ofText_nanoseconds]
      rfl

/-- The longest duration has a part of every unit; its months stay below a thousand. -/
theorem ofDocument_written_longest :
    (⟨7, .month, .counted "month"⟩ : Part) ∈ shown ⟨2 ^ 64 * 10 ^ 9 - 1, by decide⟩ ∧
    TimeUnit.month ≠ .year ∧ 7 < 1000 ∧
    ofDocument 0 (.text "584542046090years 7months 15days 17h 5m 3s 999ms 999us 999ns")
      = .ok ⟨2 ^ 64 * 10 ^ 9 - 1, by decide⟩ := by
  have hmem : (⟨7, .month, .counted "month"⟩ : Part) ∈ shown ⟨2 ^ 64 * 10 ^ 9 - 1, by decide⟩ :=
    .tail _ (.head _)
  obtain ⟨htext, -, -, hnumber, hread⟩ := (ofDocument_written 0).1 ⟨2 ^ 64 * 10 ^ 9 - 1, by decide⟩
  have hshown : " ".intercalate ((shown ⟨2 ^ 64 * 10 ^ 9 - 1, by decide⟩).map Part.text)
      = "584542046090years 7months 15days 17h 5m 3s 999ms 999us 999ns" := by decide
  rw [Config.durationDocument, htext, hshown] at hread
  exact ⟨hmem, by decide, (hnumber _ hmem).2 (by decide), hread⟩

end Duration

end CircuitRelay
