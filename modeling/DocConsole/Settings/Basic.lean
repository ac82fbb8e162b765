import DocConsole.Json.Reader
import DocConsole.Settings.Lenient

/-!
# Settings

What a session is set up with: the store it works on, the size of its pages, and whether stale
responses are dropped.  Settings come from a JSON record or from the variables of an environment.
Main statement: settings that were read have pages of at least one document.
-/

set_option autoImplicit false

namespace DocConsole

/-- What a session is set up with. -/
structure Settings where
  /-- The address of a database; without one the store is kept in memory. -/
  address : Option String
  /-- The name of the database. -/
  database : String
  /-- How many documents a page holds. -/
  pageSize : Int
  /-- Whether responses older than the latest applied one are dropped. -/
  discardStale : Bool
  deriving DecidableEq, Repr

/-- The store that a session works on. -/
inductive StoreChoice where
  /-- A store in memory. -/
  | memory
  /-- A database at an address. -/
  | database (address name : String)
  deriving DecidableEq, Repr

namespace Settings

/-! ## Defaults -/

/-- The name of the database when none is given. -/
def defaultDatabase : String := "docsql"

/-- How many documents a page holds when nothing else is said. -/
def defaultPageSize : Int := 50

/-- The store that the settings ask for: an empty address stands for none. -/
def storeChoice (s : Settings) : StoreChoice :=
  match s.address with
  | none => .memory
  | some address => if address = "" then .memory else .database address s.database

/-! ## From a record -/

/-- An address, or the empty value for none. -/
def readAddress : Value → Intake (Option String)
  | .null => .ok none
  | value => (Intake.text value).map some

/-- The settings that a record holds; other entries do not matter. -/
def ofFields (fields : Fields) : Intake Settings :=
  let address := Intake.optional fields "mongo_uri" none readAddress
  let database := Intake.optional fields "database_name" defaultDatabase Intake.text
  let pageSize := Intake.optional fields "page_size" defaultPageSize Lenient.positive
  let discardStale := Intake.optional fields "discard_stale_responses" false Lenient.truth
  (Intake.both address (Intake.both database (Intake.both pageSize discardStale))).map
    (fun (address, database, pageSize, discardStale) =>
      ⟨address, database, pageSize, discardStale⟩)

/-! ## From a JSON text -/

/-- Whether an entry that must be given is left empty: nothing, false, a zero, or an empty text,
list or record. -/
def isVacant : Value → Bool
  | .null => true
  | .bool b => !b
  | .int n => n == 0
  | .float x => x.extent? == some (.point 0)
  | .str s => s.isEmpty
  | .arr items => items.isEmpty
  | .obj fields => fields.isEmpty
  | _ => false

/-- Whether a record gives an entry that must be given. -/
def gives (fields : Fields) (name : String) : Bool :=
  match Fields.get? fields name with
  | some value => !isVacant value
  | none => false

/-- The settings of a JSON text, which must name an address and a database. -/
def ofJson (text : String) : Except Fault Settings :=
  match Json.read false text with
  | .error _ => .error .settingsNotJson
  | .ok (.obj fields) =>
      if gives fields "mongo_uri" && gives fields "database_name" then
        match ofFields fields with
        | .ok settings => .ok settings
        | .error violations => .error (.settingsInvalid violations)
      else .error .settingsIncomplete
  | .ok _ => .error .settingsNotRecord

/-! ## From an environment -/

/-- The words that switch the dropping of stale responses on in an environment. -/
def switchWords : List String :=
  ["1", "true", "yes"]

/-- The settings of an environment, given by its variables. -/
def ofEnvironment (environment : List (String × String)) : Except Fault Settings :=
  let address := (environment.lookup "MONGO_URI").filter (· ≠ "")
  let database := (environment.lookup "MONGO_DATABASE").getD defaultDatabase
  let switch := (environment.lookup "DOCSQL_DISCARD_STALE").getD ""
  let pageSize := match environment.lookup "DOCSQL_PAGE_SIZE" with
    | some text => Lenient.readWhole text
    | none => .ok defaultPageSize
  match pageSize with
  | .error fault => .error fault
  | .ok pageSize =>
      if 0 < pageSize then
        .ok ⟨address, database, pageSize,
          switchWords.contains (String.ofList (Text.lowered switch.toList))⟩
      else .error (.invalid [.at "page_size" .isGreater])

/-! ## What was read -/

theorem pageSize_pos_of_ofEnvironment {environment : List (String × String)} {s : Settings}
    (h : ofEnvironment environment = .ok s) : 0 < s.pageSize := by
  unfold ofEnvironment at h
  simp only at h
  split at h
  · simp at h
  · split at h
    · rename_i hpositive
      simp only [Except.ok.injEq] at h
      exact h ▸ hpositive
    · simp at h

end Settings

end DocConsole
