import Mathlib.Data.List.Count
import Mathlib.Data.List.Nodup
import Synopsis.Json.Fields
import Synopsis.Proofs.Json.RoundTrip

namespace Synopsis

/-!
# Records are read back

The fields of a record have a spelling, and each of them means what it was written for.

* `Json.isProper_ofText`, `Json.isProper_ofTexts`, `Json.isProper_ofNat`,
  `Json.isProper_ofFields` — they have a spelling;
* `Json.text?_ofText`, `Json.texts?_ofTexts`, `Json.word?_ofNat` — they mean what they stand for;
* `textMembers?_eq_some_iff` — the members of an object one by one, with their keys as text;
* `objectFields?_eq_some_iff` — what an object gives, and when it gives anything;
* `objectFields?_ofFields` — an object of named values gives these values to the names.
-/

/-- Members with keys of text, as they are written. -/
def rawMembers (members : List (Text × Json)) : List (JsonString × Json) :=
  members.map fun m => (.ofText m.1, m.2)

/-- An object of named values has the names for keys. -/
theorem Json.ofFields_eq (names : List Text) (values : List Json) :
    ofFields names values = .object (rawMembers (names.zip values)) := by
  rw [ofFields, List.zip_map_left]
  rfl

/-! ### Spelling -/

theorem JsonString.isProper_ofText (s : Text) : ∀ p ∈ ofText s, p.IsProper := by
  intro p hp
  obtain ⟨c, -, rfl⟩ := List.mem_map.1 hp
  exact trivial

theorem Json.isProper_ofText (s : Text) : (ofText s).IsProper := by
  intro t ht
  rw [List.mem_singleton.1 ht]
  exact JsonString.isProper_ofText s

theorem Json.isProper_ofTexts (ss : List Text) : (ofTexts ss).IsProper := by
  refine isProper_array fun v hv => ?_
  obtain ⟨s, -, rfl⟩ := List.mem_map.1 hv
  exact isProper_ofText s

theorem Json.isProper_null : Json.null.IsProper := by
  intro t ht
  rw [List.mem_singleton.1 ht]
  exact trivial

theorem Json.isProper_bool (b : Bool) : (Json.bool b).IsProper := by
  intro t ht
  rw [List.mem_singleton.1 ht]
  exact trivial

/-- The digits of a positive number do not begin with a zero. -/
theorem head?_decimal {n : Nat} (hn : 0 < n) : (decimal n).head? ≠ some '0' := by
  induction n using Nat.strong_induction_on with
  | h n ih =>
    rcases Nat.lt_or_ge n 10 with hlt | hge
    · have hdigit : ∀ d < 10, 0 < d → Nat.digitChar d ≠ '0' := by decide
      rw [decimal, Nat.toDigits_of_lt_base hlt]
      simpa using hdigit n hlt hn
    · have hfront := ih (n / 10) (by omega) (by omega)
      rw [decimal, Nat.toDigits_of_base_le (by decide) hge, List.head?_append_of_ne_nil]
      · exact hfront
      · exact Nat.toDigits_ne_nil

theorem Numeral.isProper_ofNat (n : Nat) : (ofNat n).IsProper := by
  refine ⟨?_, nofun, nofun⟩
  rcases Nat.eq_zero_or_pos n with rfl | hn
  · exact Or.inl rfl
  · exact Or.inr ⟨isDigits_decimal n, head?_decimal hn⟩

theorem Json.isProper_ofNat (n : Nat) : (ofNat n).IsProper := by
  intro t ht
  rw [List.mem_singleton.1 ht]
  exact Numeral.isProper_ofNat n

theorem Json.isProper_rawMembers {members : List (Text × Json)}
    (hproper : ∀ m ∈ members, m.2.IsProper) :
    (Json.object (rawMembers members)).IsProper := by
  refine isProper_object fun m hm => ?_
  obtain ⟨m', hm', rfl⟩ := List.mem_map.1 hm
  exact ⟨JsonString.isProper_ofText m'.1, hproper m' hm'⟩

theorem Json.isProper_ofFields {names : List Text} {values : List Json}
    (h : ∀ v ∈ values, v.IsProper) : (ofFields names values).IsProper := by
  rw [ofFields_eq]
  exact isProper_rawMembers fun m hm => h m.2 (List.of_mem_zip hm).2

/-! ### Meaning -/

theorem Json.text?_ofText (s : Text) : (ofText s).text? = some s := JsonString.text?_ofText s

theorem Json.texts?_ofTexts (ss : List Text) : (ofTexts ss).texts? = some ss := by
  have hread : text? ∘ ofText = fun s => pure s := funext text?_ofText
  show (ss.map ofText).mapM text? = _
  rw [List.mapM_map, hread, List.mapM_pure, List.map_id']
  rfl

theorem Json.word?_ofNat {n : Nat} (h : n < wordLimit) : (ofNat n).word? = some n :=
  Numeral.word?_ofNat h

/-- A number that a value is fits into 64 bits. -/
theorem Json.lt_of_word? {v : Json} {n : Nat} (h : v.word? = some n) : n < wordLimit := by
  cases v with
  | number m =>
    simp only [word?, Numeral.word?, Option.ite_none_left_eq_some, Option.filter_eq_some_iff] at h
    exact of_decide_eq_true h.2.2
  | _ => cases h

/-! ### Objects -/

/-- How many members have the name as their key. -/
def timesGiven (name : Text) (raw : List (JsonString × Json)) : Nat :=
  (raw.map fun m => m.1.text?).count (some name)

section

variable {names : List Text} {raw : List (JsonString × Json)} {members : List (Text × Json)}

/-- The members of an object have keys of text if each of them has, and the values are the same. -/
theorem textMembers?_eq_some_iff :
    textMembers? raw = some members ↔
      raw.map (fun m => (m.1.text?, m.2)) = members.map fun m => (some m.1, m.2) := by
  induction raw generalizing members with
  | nil =>
    show some [] = some members ↔ [] = members.map _
    rw [Option.some.injEq, eq_comm, @eq_comm _ [], List.map_eq_nil_iff]
  | cons m raw ih =>
    obtain ⟨key, value⟩ := m
    rw [textMembers?, List.mapM_cons, List.map_cons]
    show (key.text?.map (·, value)).bind (fun m => (textMembers? raw).bind fun ms =>
      some (m :: ms)) = some members ↔ _
    cases members with
    | nil => cases key.text? <;> cases textMembers? raw <;> simp
    | cons m' members =>
      rw [List.map_cons, List.cons.injEq, ← ih]
      cases key.text? with
      | none => simp
      | some text =>
        cases textMembers? raw with
        | none => simp
        | some rest =>
          simp only [Option.map_some, Option.bind_some, Option.some.injEq, List.cons.injEq,
            Prod.ext_iff]

theorem textMembers?_rawMembers (members : List (Text × Json)) :
    textMembers? (rawMembers members) = some members := by
  rw [textMembers?_eq_some_iff, rawMembers, List.map_map]
  exact List.map_congr_left fun m _ => by simp [JsonString.text?_ofText]

theorem timesGiven_eq_count (h : textMembers? raw = some members) (name : Text) :
    timesGiven name raw = (members.map Prod.fst).count name := by
  have hkeys : raw.map (fun m => m.1.text?) = (members.map Prod.fst).map some := by
    have hfst := congrArg (List.map Prod.fst) (textMembers?_eq_some_iff.1 h)
    rw [List.map_map, List.map_map] at hfst
    rw [List.map_map]
    exact hfst
  rw [timesGiven, hkeys, List.count_map_of_injective _ _ fun _ _ => Option.some.inj]

/-- No name is given more than once. -/
theorem areUnrepeated_iff (h : textMembers? raw = some members) :
    areUnrepeated names members = true ↔ ∀ name ∈ names, timesGiven name raw ≤ 1 := by
  have hcount : ∀ name, (members.filter (·.1 = name)).length = timesGiven name raw := by
    intro name
    rw [timesGiven_eq_count h, ← List.countP_eq_length_filter, List.count_eq_countP,
      List.countP_map]
    exact List.countP_congr fun m _ => by simp
  simp only [areUnrepeated, List.all_eq_true, decide_eq_true_eq, hcount]

/-- What an object gives to the names, and when it gives anything: its keys are text, and no name
    is given more than once. -/
theorem objectFields?_eq_some_iff {fields : List (Option Json)} :
    objectFields? names raw = some fields ↔
      ∃ members, textMembers? raw = some members ∧ (∀ name ∈ names, timesGiven name raw ≤ 1) ∧
        fields = names.map fun name => members.lookup name := by
  rw [objectFields?, Option.bind_eq_bind, Option.bind_eq_some_iff]
  refine exists_congr fun members => and_congr_right fun h => ?_
  rw [← areUnrepeated_iff h, Option.ite_none_right_eq_some, Option.some.injEq,
    eq_comm (b := fields)]

theorem objectFields?_of_unrepeated (h : textMembers? raw = some members)
    (honce : ∀ name ∈ names, timesGiven name raw ≤ 1) :
    objectFields? names raw = some (names.map fun name => members.lookup name) :=
  objectFields?_eq_some_iff.2 ⟨members, h, honce, rfl⟩

end

theorem lookup_zip {names : List Text} (hnames : names.Nodup) {values : List Json}
    (hlen : names.length = values.length) :
    names.map (fun name => (names.zip values).lookup name) = values.map some := by
  induction names generalizing values with
  | nil =>
    rw [List.length_nil, eq_comm, List.length_eq_zero_iff] at hlen
    rw [hlen]
    rfl
  | cons name names ih =>
    cases values with
    | nil => cases hlen
    | cons v values =>
      obtain ⟨hfresh, hnames⟩ := List.nodup_cons.1 hnames
      have hrest : names.map (fun other => ((name, v) :: names.zip values).lookup other)
          = names.map fun other => (names.zip values).lookup other := by
        apply List.map_congr_left
        intro other hother
        have hne : (other == name) = false := by
          rw [beq_eq_false_iff_ne]
          rintro rfl
          exact hfresh hother
        rw [List.lookup_cons, hne]
      rw [List.zip_cons_cons, List.map_cons, hrest, ih hnames (Nat.succ.inj hlen)]
      simp

/-- **The fields of a record are read back from an object.** -/
theorem objectFields?_ofFields {names : List Text} (hnames : names.Nodup) {values : List Json}
    (hlen : names.length = values.length) :
    objectFields? names (rawMembers (names.zip values)) = some (values.map some) := by
  have honce : ∀ name ∈ names, timesGiven name (rawMembers (names.zip values)) ≤ 1 := by
    intro name _
    rw [timesGiven_eq_count (textMembers?_rawMembers _), List.map_fst_zip hlen.le]
    exact List.nodup_iff_count_le_one.1 hnames name
  rw [objectFields?_of_unrepeated (textMembers?_rawMembers _) honce, lookup_zip hnames hlen]

end Synopsis
