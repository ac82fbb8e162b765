import DocConsole.Proofs.Json.Rendering
import DocConsole.Settings.Basic

/-!
# Settings from a JSON text

Settings are usable when they name an address and a database and have pages of at least one
document.  Main statement: a JSON text either is refused with one of the faults of settings or
gives usable settings, and every rendering of usable settings is read as these settings.
-/

set_option autoImplicit false

namespace DocConsole

open Text

/-- The faults that refuse a text as settings. -/
inductive Fault.RefusesSettings : Fault → Prop where
  /-- It is no JSON text. -/
  | notJson : RefusesSettings .settingsNotJson
  /-- It is no record. -/
  | notRecord : RefusesSettings .settingsNotRecord
  /-- The address or the database is not given. -/
  | incomplete : RefusesSettings .settingsIncomplete
  /-- Some entries have the wrong form. -/
  | invalid (violations : List Violation) : RefusesSettings (.settingsInvalid violations)

/-! ## Entries that were read -/

namespace Intake

variable {α : Type} {fields : Fields} {name : String} {missing a : α} {read : Value → Intake α}

/-- An entry that is there is read by its rule. -/
theorem read_of_optional {value : Value} (hget : Fields.get? fields name = some value)
    (h : optional fields name missing read = .ok a) : read value = .ok a := by
  unfold optional at h
  rw [hget] at h
  dsimp only at h
  cases hread : read value with
  | ok b =>
      rw [hread] at h
      exact h
  | error violations =>
      rw [hread] at h
      cases h

theorem optional_of_read {value : Value} (hget : Fields.get? fields name = some value)
    (h : read value = .ok a) : optional fields name missing read = .ok a := by
  unfold optional
  rw [hget]
  dsimp only
  rw [h, within_ok]

/-- What holds of the value in place of a missing entry and of all that is read holds of an
entry. -/
theorem property_of_optional {p : α → Prop} (hmissing : p missing)
    (hread : ∀ value a, read value = .ok a → p a)
    (h : optional fields name missing read = .ok a) : p a := by
  cases hget : Fields.get? fields name with
  | some value => exact hread value a (read_of_optional hget h)
  | none =>
      unfold optional at h
      rw [hget] at h
      exact Except.ok.inj h ▸ hmissing

end Intake

theorem Lenient.pos_of_positive {value : Value} {n : Int} (h : positive value = .ok n) : 0 < n := by
  unfold positive at h
  split at h
  · split at h
    · rename_i hpos
      exact Except.ok.inj h ▸ hpos
    · cases h
  · cases h

namespace Settings

variable {s : Settings} {fields : Fields} {name : String} {value : Value} {text : String}

/-- Settings that name an address and a database and have pages of at least one document. -/
structure IsUsable (s : Settings) : Prop where
  address : ∃ address, s.address = some address ∧ address ≠ ""
  database : s.database ≠ ""
  pageSize : 0 < s.pageSize

/-! ## What is read is usable -/

/-- Settings are read from a record exactly when each entry is. -/
theorem ofFields_eq_ok_iff :
    ofFields fields = .ok s ↔
      Intake.optional fields "mongo_uri" none readAddress = .ok s.address ∧
      Intake.optional fields "database_name" defaultDatabase Intake.text = .ok s.database ∧
      Intake.optional fields "page_size" defaultPageSize Lenient.positive = .ok s.pageSize ∧
      Intake.optional fields "discard_stale_responses" false Lenient.truth =
        .ok s.discardStale := by
  rw [← Intake.both_eq_ok_iff, ← Intake.both_eq_ok_iff, ← Intake.both_eq_ok_iff]
  unfold ofFields
  dsimp only
  generalize Intake.both _ _ = entries
  cases entries with
  | error violations => exact iff_of_false nofun nofun
  | ok entries =>
      obtain ⟨address, database, pageSize, discardStale⟩ := entries
      obtain ⟨address', database', pageSize', discardStale'⟩ := s
      simp [Except.map]

theorem exists_of_gives (h : gives fields name = true) :
    ∃ value, Fields.get? fields name = some value ∧ isVacant value = false := by
  unfold gives at h
  split at h
  · rename_i value hget
    exact ⟨value, hget, by simpa using h⟩
  · cases h

theorem ne_empty_of_not_isVacant (h : isVacant (.str text) = false) : text ≠ "" := by
  rintro rfl
  cases h

theorem exists_of_readAddress {address : Option String} (hvacant : isVacant value = false)
    (h : readAddress value = .ok address) : ∃ text, address = some text ∧ text ≠ "" := by
  cases value with
  | null => cases hvacant
  | str text =>
      obtain rfl := Except.ok.inj h
      exact ⟨text, rfl, ne_empty_of_not_isVacant hvacant⟩
  | _ => cases h

theorem ne_empty_of_text (hvacant : isVacant value = false) (h : Intake.text value = .ok text) :
    text ≠ "" := by
  cases value with
  | str text =>
      obtain rfl := Except.ok.inj h
      exact ne_empty_of_not_isVacant hvacant
  | _ => cases h

theorem isUsable_of_ofFields (haddress : gives fields "mongo_uri" = true)
    (hdatabase : gives fields "database_name" = true) (h : ofFields fields = .ok s) :
    s.IsUsable := by
  obtain ⟨address, hgetAddress, hvacantAddress⟩ := exists_of_gives haddress
  obtain ⟨database, hgetDatabase, hvacantDatabase⟩ := exists_of_gives hdatabase
  obtain ⟨hreadAddress, hreadDatabase, hreadPageSize, -⟩ := ofFields_eq_ok_iff.mp h
  refine ⟨?_, ?_, ?_⟩
  · exact exists_of_readAddress hvacantAddress (Intake.read_of_optional hgetAddress hreadAddress)
  · exact ne_empty_of_text hvacantDatabase (Intake.read_of_optional hgetDatabase hreadDatabase)
  · exact Intake.property_of_optional (by decide) (fun _ _ => Lenient.pos_of_positive) hreadPageSize

theorem ofJson_refused_or_usable (text : String) :
    (∃ fault, ofJson text = .error fault ∧ fault.RefusesSettings) ∨
      ∃ s, ofJson text = .ok s ∧ s.IsUsable := by
  unfold ofJson
  split
  · exact .inl ⟨_, rfl, .notJson⟩
  · rename_i fields _
    split
    · rename_i hgives
      obtain ⟨haddress, hdatabase⟩ := (Bool.and_eq_true _ _).mp hgives
      cases hread : ofFields fields with
      | ok s => exact .inr ⟨s, rfl, isUsable_of_ofFields haddress hdatabase hread⟩
      | error violations => exact .inl ⟨_, rfl, .invalid violations⟩
    · exact .inl ⟨_, rfl, .incomplete⟩
  · exact .inl ⟨_, rfl, .notRecord⟩

/-- Settings of a text are usable. -/
theorem isUsable_of_ofJson {text : String} {s : Settings} (h : ofJson text = .ok s) :
    s.IsUsable := by
  rcases ofJson_refused_or_usable text with ⟨fault, hrefused, -⟩ | ⟨_, hread, husable⟩
  · rw [h] at hrefused
    cases hrefused
  · obtain rfl := Except.ok.inj (h.symm.trans hread)
    exact husable

/-! ## What is usable is read -/

/-- The entry of an address. -/
def addressValue : Option String → Value
  | none => .null
  | some address => .str address

/-- Settings as a record. -/
def record (s : Settings) : Fields :=
  [("mongo_uri", addressValue s.address), ("database_name", .str s.database),
    ("page_size", .int s.pageSize), ("discard_stale_responses", .bool s.discardStale)]

theorem get?_record_address :
    Fields.get? s.record "mongo_uri" = some (addressValue s.address) := rfl

theorem get?_record_database : Fields.get? s.record "database_name" = some (.str s.database) := rfl

theorem get?_record_pageSize : Fields.get? s.record "page_size" = some (.int s.pageSize) := rfl

theorem get?_record_discardStale :
    Fields.get? s.record "discard_stale_responses" = some (.bool s.discardStale) := rfl

theorem readAddress_addressValue (address : Option String) :
    readAddress (addressValue address) = .ok address := by
  cases address <;> rfl

theorem ofFields_record (hpageSize : 0 < s.pageSize) : ofFields s.record = .ok s := by
  refine ofFields_eq_ok_iff.mpr ⟨?_, ?_, ?_, ?_⟩
  · exact Intake.optional_of_read get?_record_address (readAddress_addressValue s.address)
  · exact Intake.optional_of_read get?_record_database rfl
  · exact Intake.optional_of_read get?_record_pageSize
      ((Lenient.positive_int_iff _ _).mpr ⟨rfl, hpageSize⟩)
  · exact Intake.optional_of_read get?_record_discardStale rfl

theorem gives_of_text (hget : Fields.get? fields name = some (.str text)) (hne : text ≠ "") :
    gives fields name = true := by
  unfold gives
  rw [hget]
  simpa [isVacant] using hne

/-- A text that is read as the record of usable settings gives these settings. -/
theorem ofJson_of_read (hs : s.IsUsable) (h : Json.read false text = .ok (.obj s.record)) :
    ofJson text = .ok s := by
  obtain ⟨address, haddress, hne⟩ := hs.address
  have hgetAddress : Fields.get? s.record "mongo_uri" = some (.str address) := by
    rw [get?_record_address, haddress]
    rfl
  unfold ofJson
  rw [h]
  dsimp only
  rw [gives_of_text hgetAddress hne, gives_of_text get?_record_database hs.database, Bool.and_self,
    if_pos rfl, ofFields_record hs.pageSize]

/-! ## Renderings -/

/-- The token of an address. -/
def addressToken : Option String → Json.Token
  | none => .null
  | some address => .text address

/-- The tokens of settings as a record. -/
def tokens (s : Settings) : List Json.Token :=
  [.openRecord,
    .text "mongo_uri", .colon, addressToken s.address, .comma,
    .text "database_name", .colon, .text s.database, .comma,
    .text "page_size", .colon, .number (.ofInt s.pageSize), .comma,
    .text "discard_stale_responses", .colon, .bool s.discardStale,
    .closeRecord]

/-- A JSON text of the record of the settings: any white space may stand around the tokens, and any
character of a string may be written as an escape. -/
def IsRendering (s : Settings) (text : String) : Prop :=
  Json.Renders s.tokens text.toList

section Run

variable {strict first : Bool} {done : List (String × Value)} {stack : List Json.Frame}
  {token : Json.Token} {place : List Char} (more : List Json.PlacedToken)

theorem run_openRecord :
    Json.run strict (.value stack) (⟨.openRecord, place⟩ :: more) =
      Json.run strict (.fieldName true [] stack) more := rfl

/-- A name, a colon and the token of a value are read as a field of an open record. -/
theorem run_field
    (h : ∀ stack, Json.stepValue strict stack ⟨token, place⟩ = .ok (.afterValue value stack)) :
    Json.run strict (.fieldName first done stack)
        (⟨.text name, place⟩ :: ⟨.colon, place⟩ :: ⟨token, place⟩ :: more) =
      Json.run strict (.nextField ((name, value) :: done) stack) more := by
  simp only [Json.run, Json.step, h]
  rfl

theorem run_comma :
    Json.run strict (.nextField done stack) (⟨.comma, place⟩ :: more) =
      Json.run strict (.fieldName false done stack) more := rfl

end Run

/-- Every rendering of settings is read as their record. -/
theorem IsRendering.read (h : s.IsRendering text)
    (hshort : (naturalText s.pageSize.natAbs).length ≤ maxIntegerDigits) :
    Json.read false text = .ok (.obj s.record) := by
  refine Json.read_eq_ok_iff.mpr (h.readChars_eq_ok ?_)
  have haddress (stack : List Json.Frame) : Json.stepValue false stack
      ⟨addressToken s.address, []⟩ = .ok (.afterValue (addressValue s.address) stack) := by
    cases s.address <;> rfl
  have hpageSize (stack : List Json.Frame) : Json.stepValue false stack
      ⟨.number (.ofInt s.pageSize), []⟩ = .ok (.afterValue (.int s.pageSize) stack) := by
    simp only [Json.stepValue, Json.numberValue_ofInt hshort]
  have hdatabase (stack : List Json.Frame) : Json.stepValue false stack
      ⟨.text s.database, []⟩ = .ok (.afterValue (.str s.database) stack) := rfl
  have hdiscardStale (stack : List Json.Frame) : Json.stepValue false stack
      ⟨.bool s.discardStale, []⟩ = .ok (.afterValue (.bool s.discardStale) stack) := rfl
  simp only [tokens, List.map_cons, List.map_nil]
  rw [run_openRecord, run_field _ haddress, run_comma, run_field _ hdatabase, run_comma,
    run_field _ hpageSize, run_comma, run_field _ hdiscardStale]
  rfl

variable {layout : Json.Layout} {depth : Nat}

theorem isWritten_addressToken (address : Option String) :
    (addressToken address).IsWritten (Json.writeAt layout depth (addressValue address)) := by
  cases address with
  | none => exact .null
  | some address => exact Json.isWritten_writeText address

theorem isWritten_database (database : String) :
    Json.Token.IsWritten (.text database) (Json.writeAt layout depth (.str database)) :=
  Json.isWritten_writeText database

theorem isWritten_pageSize (n : Int) :
    Json.Token.IsWritten (.number (.ofInt n)) (Json.writeAt layout depth (.int n)) := by
  show Json.Token.IsWritten _ (integerText n)
  rw [← DecimalLiteral.text_ofInt]
  exact .number (DecimalLiteral.isPlain_ofInt n)

theorem isWritten_discardStale (b : Bool) :
    Json.Token.IsWritten (.bool b) (Json.writeAt layout depth (.bool b)) := by
  cases b with
  | true => exact .yes
  | false => exact .no

/-- The text that is written for the record of settings is one of the renderings. -/
theorem isRendering_write (hlayout : layout.IsNeutral) (s : Settings) :
    s.IsRendering (Json.write layout (.obj s.record)) := by
  have hclose : Json.Renders [.closeRecord] (layout.newLine 0 ++ ['\x7d']) :=
    (Json.Renders.piece_append .closeRecord nofun (.nil rfl)).spaces_append (layout.all_newLine 0)
  have hend : StartsOutside Json.goesOnNumber (layout.newLine 0 ++ ['\x7d']) :=
    layout.startsOutside_newLine 0 (startsOutside_cons rfl)
  have hrecord : Json.Renders s.tokens (Json.writeAt layout 0 (.obj s.record) ++ []) := by
    refine .writeAt_obj hlayout (isWritten_addressToken s.address) ?_
    refine .writeFields_cons hlayout (isWritten_database s.database) ?_ hend
    refine .writeFields_cons hlayout (isWritten_pageSize s.pageSize) ?_ hend
    exact .writeFields_cons hlayout (isWritten_discardStale s.discardStale) hclose hend
  rw [List.append_nil] at hrecord
  rwa [IsRendering, Json.write, String.toList_ofList]

/-- A text is refused with a fault of settings or gives usable settings, and every rendering of
usable settings gives these. -/
theorem text_is_refused_or_gives_usable :
    (∀ text, (∃ fault, ofJson text = .error fault ∧ fault.RefusesSettings) ∨
      ∃ s, ofJson text = .ok s ∧ s.IsUsable) ∧
    ∀ (s : Settings) (text : String), s.IsUsable →
      (naturalText s.pageSize.natAbs).length ≤ maxIntegerDigits → s.IsRendering text →
      ofJson text = .ok s :=
  ⟨ofJson_refused_or_usable, fun _ _ hs hshort htext => ofJson_of_read hs (htext.read hshort)⟩

/-- An address with a quote and a letter outside ASCII, a database outside the first plane. -/
def foreignSettings : Settings :=
  ⟨some "db://ü\"", "𝄞", 7, true⟩

/-- A text of the settings. -/
def foreignText : String :=
  "\x7b\"mongo_uri\": \"db://\\u00fc\\\"\", \"database_name\": \"\\ud834\\udd1e\", " ++
    "\"page_size\": 7, \"discard_stale_responses\": true\x7d"

theorem foreign_settings_are_read :
    foreignSettings.IsUsable ∧
      (naturalText foreignSettings.pageSize.natAbs).length ≤ maxIntegerDigits ∧
      foreignSettings.IsRendering foreignText ∧ ofJson foreignText = .ok foreignSettings := by
  have hs : foreignSettings.IsUsable := ⟨⟨_, rfl, by decide⟩, by decide, by decide⟩
  have hshort : (naturalText foreignSettings.pageSize.natAbs).length ≤ maxIntegerDigits := by
    decide +kernel
  have htext : Json.write .spaced (.obj foreignSettings.record) = foreignText := by
    decide +kernel
  have hrendering := isRendering_write Json.isNeutral_spaced foreignSettings
  rw [htext] at hrendering
  exact ⟨hs, hshort, hrendering,
    text_is_refused_or_gives_usable.2 foreignSettings foreignText hs hshort hrendering⟩

end Settings

end DocConsole
