import Synopsis.Proofs.Json.Records
import Synopsis.Settings.Format

namespace Synopsis

/-!
# Settings are read back

* `Settings.ofJson?_toJson` — settings are the settings of the value that is written for them;
* `Settings.maxFileBytes_lt_of_ofJson?` — a size limit that was read fits into 64 bits;
* `Settings.read_render` — so writing and reading gives the settings back unless they are at
  fault;
* `read_inverts_render` — and settings that were read can be written and read again.
-/

theorem Settings.isProper_fieldValues (s : Settings) : ∀ v ∈ s.fieldValues, v.IsProper := by
  intro v hv
  simp only [fieldValues, List.mem_cons, List.not_mem_nil, or_false] at hv
  rcases hv with rfl | rfl | rfl | rfl | rfl
  · exact Json.isProper_ofNat _
  · exact Json.isProper_ofTexts _
  · exact Json.isProper_ofTexts _
  · exact Json.isProper_ofTexts _
  · exact Json.isProper_bool _

theorem Settings.isProper_toJson (s : Settings) : s.toJson.IsProper :=
  Json.isProper_ofFields s.isProper_fieldValues

/-- Settings are those of their own value. -/
theorem Settings.ofJson?_toJson {s : Settings} (h : s.maxFileBytes < wordLimit) :
    ofJson? s.toJson = some s := by
  have hfields : objectFields? fieldNames (rawMembers (fieldNames.zip s.fieldValues))
      = some (s.fieldValues.map some) :=
    objectFields?_ofFields (by decide) rfl
  rw [toJson, Json.ofFields_eq, ofJson?, hfields]
  simp [fieldValues, ofFields?, withDefault, Json.word?_ofNat h, Json.texts?_ofTexts, Json.flag?]

/-- A limit that is given is a number of 64 bits, and so is the one that holds otherwise. -/
theorem Settings.maxFileBytes_lt_of_ofFields? {fields : List (Option Json)} {s : Settings}
    (h : ofFields? fields = some s) : s.maxFileBytes < wordLimit := by
  unfold ofFields? at h
  split at h
  · rename_i limit dirs files extensions parallel
    simp only [Option.bind_eq_bind, Option.bind_eq_some_iff, Option.pure_def,
      Option.some.injEq] at h
    obtain ⟨n, hn, -, -, -, -, -, -, -, -, rfl⟩ := h
    show n < wordLimit
    cases limit with
    | none =>
      cases hn
      decide
    | some v => exact Json.lt_of_word? hn
  · cases h

theorem Settings.maxFileBytes_lt_of_ofJson? {v : Json} {s : Settings} (h : ofJson? v = some s) :
    s.maxFileBytes < wordLimit := by
  unfold ofJson? at h
  split at h
  · obtain ⟨fields, -, hfields⟩ := Option.bind_eq_some_iff.1 h
    exact maxFileBytes_lt_of_ofFields? hfields
  · split at h
    · exact maxFileBytes_lt_of_ofFields? h
    · cases h
  · cases h

/-- What was written for settings is read as these settings, unless they are at fault. -/
theorem Settings.read_render {s : Settings} (h : s.maxFileBytes < wordLimit) :
    read s.render = match s.fault? with
      | none => .ok s
      | some fault => .error (.fault fault) := by
  rw [read, render, Json.parse?_render s.isProper_toJson, Option.bind_some, ofJson?_toJson h]
  simp only
  cases s.fault? <;> rfl

/-- Settings that were read are not at fault, and their limit fits into 64 bits. -/
theorem Settings.fault?_of_read {t : Text} {s : Settings} (h : read t = .ok s) :
    s.fault? = none ∧ s.maxFileBytes < wordLimit := by
  unfold read at h
  split at h
  · cases h
  · rename_i settings hs
    obtain ⟨v, -, hv⟩ := Option.bind_eq_some_iff.1 hs
    split at h
    · cases h
    · rename_i hfault
      cases h
      exact ⟨hfault, maxFileBytes_lt_of_ofJson? hv⟩

/-- **Reading inverts writing.**  Settings with a limit of 64 bits are read back as they are if
    nothing is wrong with them, and otherwise refused for exactly the fault that they have.  Any
    text that is read at all gives settings without fault, which can be written and read again. -/
theorem read_inverts_render :
    (∀ s : Settings, s.maxFileBytes < wordLimit →
      Settings.read s.render = match s.fault? with
        | none => .ok s
        | some fault => .error (.fault fault)) ∧
    ∀ (t : Text) (s : Settings), Settings.read t = .ok s →
      s.fault? = none ∧ Settings.read s.render = .ok s := by
  refine ⟨fun s h => Settings.read_render h, fun t s h => ?_⟩
  obtain ⟨hfault, hlimit⟩ := Settings.fault?_of_read h
  refine ⟨hfault, ?_⟩
  rw [Settings.read_render hlimit, hfault]

/-- Settings with the greatest limit, and with characters that must be escaped. -/
def Settings.escaped : Settings where
  maxFileBytes := 18446744073709551615
  ignoredDirs := ["a\"b\\c/".toList, "\x01\t\x7f".toList, []]
  ignoredFiles := ["😀\u2028".toList]
  ignoredExtensions := [".é".toList]
  parallel := false

theorem read_inverts_render_escaped :
    (Settings.escaped.maxFileBytes < wordLimit ∧
      Settings.read Settings.escaped.render = .ok .escaped) ∧
    Settings.read "[ 7, [\"\\ud83d\\ude00\"] ]".toList
      = .ok { Settings.default with maxFileBytes := 7, ignoredDirs := ["😀".toList] } ∧
    Settings.read { Settings.default with
        maxFileBytes := 7, ignoredDirs := ["😀".toList] }.render
      = .ok { Settings.default with maxFileBytes := 7, ignoredDirs := ["😀".toList] } := by
  have hlimit : Settings.escaped.maxFileBytes < wordLimit := by decide
  have hread : Settings.read "[ 7, [\"\\ud83d\\ude00\"] ]".toList
      = .ok { Settings.default with maxFileBytes := 7, ignoredDirs := ["😀".toList] } := by
    decide +kernel
  exact ⟨⟨hlimit, read_inverts_render.1 _ hlimit⟩, hread, (read_inverts_render.2 _ _ hread).2⟩

end Synopsis
