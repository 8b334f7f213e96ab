import CredentialSync.Config.Document
import CredentialSync.Proofs.Duration.Text
import CredentialSync.Proofs.Text.Utf8
import CredentialSync.Proofs.Toml.Document

/-!
# Configurations are read back

A valid configuration that can be written to a file at all is read back from the file as it was
(`ofFile_toText`). Its document has three tables with bare names (`writable_sections`), and each
setting is found again in the table of its group.
-/

namespace CredentialSync.Config

/-! ## 1. The document of a configuration -/

theorem writable_sections {c : Config}
    (h : (c.bridge.broadcastCapacity.toNat : Int) ≤ Int64.maxValue.toInt) :
    ∀ s ∈ c.sections, s.Writable := by
  have hlow : Int64.minValue.toInt ≤ (c.bridge.broadcastCapacity.toNat : Int) :=
    Int.le_trans (by decide) (Int.natCast_nonneg _)
  intro s hs
  simp only [sections, List.mem_cons, List.not_mem_nil, or_false] at hs
  rcases hs with rfl | rfl | rfl
  · refine Toml.Section.writable ["debug_secret_placeholder", "broadcast_capacity"] rfl
      (by decide) ?_
    simp only [List.forall_mem_cons, Toml.Scalar.InRange, List.not_mem_nil]
    exact ⟨trivial, ⟨hlow, h⟩, nofun⟩
  · refine Toml.Section.writable ["db_path", "enable_wal", "busy_timeout"] rfl (by decide) ?_
    simp [Toml.Scalar.InRange]
  · refine Toml.Section.writable ["level", "json_format", "with_timestamp", "with_target"] rfl
      (by decide) ?_
    simp [Toml.Scalar.InRange]

theorem distinct_sections (c : Config) : (c.sections.map Toml.Section.name).Nodup := by
  show ["bridge", "store", "logging"].Nodup
  decide

/-! ## 2. Settings -/

theorem bridgeOf?_entries (s : BridgeSettings) :
    bridgeOf? (.table [("debug_secret_placeholder", .string s.placeholder),
      ("broadcast_capacity", .integer s.broadcastCapacity.toNat)]) = some s := by
  have hcapacity : ¬ (s.broadcastCapacity.toNat : Int) < 0 := by omega
  rw [bridgeOf?]
  show (if (s.broadcastCapacity.toNat : Int) < 0 then none else _) = _
  rw [if_neg hcapacity, Int.toNat_natCast, UInt64.ofNat_toNat]

theorem storeOf?_entries (s : StoreSettings) :
    storeOf? (.table [("db_path", .string s.path), ("enable_wal", .boolean s.writeAhead),
      ("busy_timeout", .string s.busyTimeout.write)]) = some s := by
  rw [storeOf?]
  show ((Duration.read s.busyTimeout.write).toOption.map fun _ => _) = _
  rw [Duration.read_write]
  rfl

/-- Each setting is found in the table of its group. -/
theorem ofTable?_sections (c : Config) :
    ofTable? (c.sections.map fun s => (s.name, .table s.values)) = some c := by
  have hbridge : ((c.sections.map fun s => (s.name, Toml.Value.table s.values)).lookup "bridge").bind
      bridgeOf? = some c.bridge := bridgeOf?_entries c.bridge
  have hstore : ((c.sections.map fun s => (s.name, Toml.Value.table s.values)).lookup "store").bind
      storeOf? = some c.store := storeOf?_entries c.store
  have hlogging : ((c.sections.map fun s => (s.name, Toml.Value.table s.values)).lookup
      "logging").bind loggingOf? = some c.logging := rfl
  obtain ⟨b, hb, hbridge⟩ := Option.bind_eq_some_iff.1 hbridge
  obtain ⟨s, hs, hstore⟩ := Option.bind_eq_some_iff.1 hstore
  obtain ⟨l, hl, hlogging⟩ := Option.bind_eq_some_iff.1 hlogging
  simp only [ofTable?, hb, hs, hl, hbridge, hstore, hlogging, Option.bind_eq_bind, Option.bind_some,
    Option.pure_def]

/-! ## 3. Files -/

theorem ofText_toText {c : Config} (hvalid : c.validate = .ok ()) {text : String}
    (hwritten : c.toText = .ok text) : ofText text = .ok c := by
  rw [toText] at hwritten
  split at hwritten
  · next hcapacity =>
    cases hwritten
    rw [ofText, Toml.read?_write (writable_sections hcapacity) (distinct_sections c),
      Option.bind_some, ofTable?_sections]
    show c.validated = _
    rw [validated, hvalid]
    rfl
  · cases hwritten

/-- A file is written exactly if it can be written to and the configuration has a text. -/
theorem toFile_eq_ok {c : Config} {path : String} {place : Except FileFault Unit} {bytes : List UInt8} :
    c.toFile path place = .ok bytes ↔
      place = .ok () ∧ ∃ text, c.toText = .ok text ∧ bytes = Text.Utf8.encode text := by
  unfold toFile
  cases c.toText <;> cases place <;> simp [Except.bind, eq_comm]

/-- What is written to a file is read back from it. -/
theorem ofFile_toFile {c : Config} (hvalid : c.validate = .ok ()) {path : String}
    {place : Except FileFault Unit} {bytes : List UInt8} (hwritten : c.toFile path place = .ok bytes)
    (path' : String) : ofFile path' (.ok bytes) = .ok c := by
  obtain ⟨-, text, htext, rfl⟩ := toFile_eq_ok.1 hwritten
  rw [ofFile, Text.Utf8.decode_encode]
  exact ofText_toText hvalid htext

/-- **A valid configuration that was written to a file is read back from it unchanged.** -/
theorem ofFile_toText {c : Config} (hvalid : c.validate = .ok ()) {text : String}
    (hwritten : c.toText = .ok text) (path : String) :
    ofFile path (.ok (Text.Utf8.encode text)) = .ok c := by
  rw [ofFile, Text.Utf8.decode_encode]
  exact ofText_toText hvalid hwritten

/-- A placeholder with quotes of both kinds and a line end. -/
theorem ofFile_toText_quotes :
    let c : Config := {
      bridge := { placeholder := "\"\"\" or\n'''", broadcastCapacity := 1 }
      logging := { level := " Warning" } }
    c.validate = .ok () ∧ c.toText = .ok (Toml.write c.sections) ∧
      ofFile "syncbridge.toml" (.ok (Text.Utf8.encode (Toml.write c.sections))) = .ok c := by
  intro c
  have hlevel : LogLevel.ofWord?
      (String.ofList ((Text.Blank.trim " Warning").toList.map Char.toLower)) = some .warn := by
    decide +kernel
  have hvalid : c.validate = .ok () := by
    rw [validate, if_neg (by decide), if_neg (by decide), LogLevel.read, hlevel]
  have hwritten : c.toText = .ok (Toml.write c.sections) := if_pos (by decide)
  exact ⟨hvalid, hwritten, ofFile_toText hvalid hwritten _⟩

end CredentialSync.Config
