import DocConsole.Store.Basic

/-!
# Calls to a store

What the console asks of a store, as data, and what a store answers.  A backend is the connected
store together with the calls that are made to fail and the source of new document ids.  A call
that is made to fail does nothing else.  Main statements: a failing call leaves the store alone,
and reading calls never change it.
-/

set_option autoImplicit false

namespace DocConsole

open Text

/-! ## Calls and replies -/

/-- A call to a store. -/
inductive StoreCall where
  /-- A page of documents after a cursor. -/
  | list (collection : String) (filter : Option Filter) (cursor : Option Value) (limit : Int)
  /-- A new document. -/
  | create (collection : String) (fields : Fields)
  /-- Fields of a document set. -/
  | update (collection : String) (id : Option String) (fields : Fields)
  /-- A document removed. -/
  | delete (collection : String) (id : Option String)
  /-- A document read. -/
  | get (collection : String) (id : Option String)
  /-- A sign of life. -/
  | ping
  deriving DecidableEq

/-- The name of a call. -/
def StoreCall.name : StoreCall → String
  | .list _ _ _ _ => "list"
  | .create _ _ => "create"
  | .update _ _ _ => "update"
  | .delete _ _ => "delete"
  | .get _ _ => "get"
  | .ping => "ping"

/-- The answer to a call. -/
inductive Reply where
  /-- A page of documents. -/
  | page (p : Page)
  /-- The id of the new document. -/
  | created (id : String)
  /-- Done, with nothing to tell. -/
  | done
  /-- The document that was asked for, if it is there. -/
  | found (document : Option Document)
  deriving DecidableEq

/-- What comes back from a call. -/
abbrev Outcome := Except Fault Reply

/-! ## New ids -/

/-- The source of new document ids: first the texts in line, then numbered ones. -/
structure IdSupply where
  /-- The texts in line. -/
  queued : List String
  /-- How many numbered texts were drawn. -/
  numbered : Nat
  deriving DecidableEq, Repr

namespace IdSupply

/-- A source with nothing in line. -/
def fresh : IdSupply :=
  ⟨[], 0⟩

/-- The number of characters of a text that make a document id. -/
def idLength : Nat := 20

/-- The lower-case hexadecimal digits of a number, padded to the length of an id. -/
def numberedId (n : Nat) : String :=
  String.ofList (hexDigits idLength n)

/-- The next document id. -/
def draw (supply : IdSupply) : String × IdSupply :=
  match supply.queued with
  | text :: rest => (String.ofList (text.toList.take idLength), { supply with queued := rest })
  | [] => (numberedId (supply.numbered + 1), { supply with numbered := supply.numbered + 1 })

end IdSupply

/-! ## Backends -/

/-- The connected store, the calls made to fail with their messages, and the source of ids. -/
structure Backend where
  /-- The store, when one is connected. -/
  store : Option Store
  /-- The names of failing calls with the messages they fail with. -/
  failures : List (String × String)
  /-- The source of new ids. -/
  ids : IdSupply
  deriving DecidableEq

namespace Backend

/-- Whether there is an open store. -/
def connected (backend : Backend) : Bool :=
  match backend.store with
  | some store => store.isOpen
  | none => false

/-- A call to an open store. -/
def answer (store : Store) (ids : IdSupply) : StoreCall → Outcome × Store × IdSupply
  | .list collection filter cursor limit =>
      (.ok (.page (store.list collection filter (cursor.map Value.display) limit)), store, ids)
  | .create collection fields =>
      (.ok (.created ids.draw.1), store.put collection ids.draw.1 fields, ids.draw.2)
  | .update collection (some id) fields =>
      match store.update collection id fields with
      | .ok store' => (.ok .done, store', ids)
      | .error fault => (.error fault, store, ids)
  | .update collection none _ => (.error (.noDocument collection none), store, ids)
  | .delete collection (some id) => (.ok .done, store.remove collection id, ids)
  | .delete _ none => (.ok .done, store, ids)
  | .get collection (some id) => (.ok (.found (store.get? collection id)), store, ids)
  | .get _ none => (.ok (.found none), store, ids)
  | .ping => (.ok .done, store, ids)

/-- A call: it fails when it is made to, or when there is no open store. -/
def perform (backend : Backend) (call : StoreCall) : Outcome × Backend :=
  match backend.failures.lookup call.name with
  | some message => (.error (.storeFailure message), backend)
  | none =>
      match backend.store with
      | none => (.error .notConnected, backend)
      | some store =>
          if store.isOpen then
            let (outcome, store', ids) := answer store backend.ids call
            (outcome, { backend with store := some store', ids := ids })
          else (.error .notConnected, backend)

/-- The store closed. -/
def closeStore (backend : Backend) : Backend :=
  { backend with store := backend.store.map Store.close }

theorem perform_of_failure {backend : Backend} {call : StoreCall} {message : String}
    (h : backend.failures.lookup call.name = some message) :
    backend.perform call = (.error (.storeFailure message), backend) := by
  simp [perform, h]

/-- A listing never changes the backend. -/
theorem perform_list (backend : Backend) (collection : String) (filter : Option Filter)
    (cursor : Option Value) (limit : Int) :
    (backend.perform (.list collection filter cursor limit)).2 = backend := by
  unfold perform
  split
  · rfl
  · split
    · rfl
    · rename_i store hstore
      split
      · simp [answer, ← hstore]
      · rfl

end Backend

end DocConsole
