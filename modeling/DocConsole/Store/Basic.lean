import DocConsole.Fault
import DocConsole.Store.Condition
import DocConsole.Value.Display

/-!
# The document store

A store keeps the documents of each collection in the order in which their ids were first used.
Every id that was ever stored has a slot with a position; a removed document leaves its slot
behind, so that a page can still be continued after it, and an id that comes back takes its old
slot.  Main statement: what is put under an id is found there and nowhere else.
-/

set_option autoImplicit false

namespace DocConsole

/-! ## Slots -/

/-- The place of an id in a collection. -/
structure Slot where
  /-- The id. -/
  id : String
  /-- Its position in the order of first use. -/
  position : Nat
  /-- The fields of the document; none after it was removed. -/
  fields : Option Fields
  deriving DecidableEq

namespace Slot

/-- The document in a slot. -/
def document? (slot : Slot) : Option Document :=
  slot.fields.map (fun fields => ⟨slot.id, fields⟩)

end Slot

/-- The slots of one collection, in order of position. -/
abbrev Shelf := List Slot

namespace Shelf

/-- The slot of an id. -/
def slot? (shelf : Shelf) (id : String) : Option Slot :=
  shelf.find? (fun slot => slot.id == id)

/-- The fields of the document under an id. -/
def get? (shelf : Shelf) (id : String) : Option Fields :=
  (slot? shelf id).bind (·.fields)

/-- The documents in order. -/
def documents (shelf : Shelf) : List Document :=
  shelf.filterMap Slot.document?

/-- The slot of an id given new fields. -/
def replace (shelf : Shelf) (id : String) (fields : Option Fields) : Shelf :=
  shelf.map (fun slot => if slot.id == id then { slot with fields := fields } else slot)

/-- The documents after a cursor; a cursor that names no slot is before all of them. -/
def after (shelf : Shelf) : Option String → Shelf
  | none => shelf
  | some id =>
      match slot? shelf id with
      | some mark => shelf.filter (fun slot => mark.position < slot.position)
      | none => shelf

theorem get?_replace (shelf : Shelf) (id : String) (fields : Option Fields) (id' : String) :
    get? (replace shelf id fields) id' =
      if id' = id then (slot? shelf id).bind (fun _ => fields) else get? shelf id' := by
  induction shelf with
  | nil => simp [replace, get?, slot?]
  | cons slot rest ih =>
    simp only [get?, slot?, replace, List.map_cons] at ih ⊢
    by_cases hsame : slot.id = id
    · by_cases hwanted : id' = id
      · simp [List.find?, hsame, hwanted]
      · have hother : (id == id') = false := by simpa using fun e : id = id' => hwanted e.symm
        simpa [List.find?, hsame, hother, hwanted] using ih
    · have hkept : (slot.id == id) = false := by simpa using hsame
      by_cases hhere : slot.id = id'
      · have : ¬ id' = id := fun e => hsame (hhere.trans e)
        simp [List.find?, hhere, this]
      · have hother : (slot.id == id') = false := by simpa using hhere
        simpa [List.find?, hkept, hother, hsame] using ih

end Shelf

/-! ## The store -/

/-- A page of a listing. -/
structure Page where
  /-- The documents in order. -/
  documents : List Document
  /-- The id of the last of them. -/
  next : Option String
  deriving DecidableEq

/-- The page of the given documents. -/
def Page.of (documents : List Document) : Page :=
  ⟨documents, documents.getLast?.map (·.id)⟩

/-- A document store. -/
structure Store where
  /-- The collections that were ever written to. -/
  shelves : List (String × Shelf)
  /-- The next position. -/
  next : Nat
  /-- Whether calls are still answered. -/
  isOpen : Bool
  deriving DecidableEq

namespace Store

/-- An open store without documents. -/
def empty : Store :=
  ⟨[], 0, true⟩

/-- The slots of a collection. -/
def shelf (store : Store) (collection : String) : Shelf :=
  (store.shelves.lookup collection).getD []

/-- The documents of a collection in order. -/
def documents (store : Store) (collection : String) : List Document :=
  Shelf.documents (store.shelf collection)

/-- The document under an id. -/
def get? (store : Store) (collection id : String) : Option Document :=
  (Shelf.get? (store.shelf collection) id).map (fun fields => ⟨id, fields⟩)

/-- The slots of a collection exchanged. -/
def withShelf (store : Store) (collection : String) (shelf : Shelf) : Store :=
  { store with shelves := setShelf store.shelves collection shelf }
where
  /-- The slots of a collection exchanged in a list of collections. -/
  setShelf : List (String × Shelf) → String → Shelf → List (String × Shelf)
    | [], name, shelf => [(name, shelf)]
    | (name', shelf') :: rest, name, shelf =>
        if name' = name then (name, shelf) :: rest
        else (name', shelf') :: setShelf rest name shelf

/-- A document stored under an id: in the slot of the id, or in a new one at the end. -/
def put (store : Store) (collection id : String) (fields : Fields) : Store :=
  let shelf := store.shelf collection
  match Shelf.slot? shelf id with
  | some _ => store.withShelf collection (Shelf.replace shelf id (some fields))
  | none =>
      { store.withShelf collection (shelf ++ [⟨id, store.next, some fields⟩]) with
        next := store.next + 1 }

/-- A store that holds the given documents, stored in that order. -/
def ofData (data : List (String × List (String × Fields))) : Store :=
  data.foldl (fun store entry =>
    entry.2.foldl (fun store document => store.put entry.1 document.1 document.2) store) empty

/-- A page of a collection: the documents after the cursor that meet the condition, as many as
the limit says but at least one. -/
def list (store : Store) (collection : String) (filter : Option Filter) (cursor : Option String)
    (limit : Int) : Page :=
  let candidates := Shelf.documents (Shelf.after (store.shelf collection) cursor)
  .of ((candidates.filter (meets filter)).take (max 1 limit.toNat))

/-- The given fields of a document set. -/
def update (store : Store) (collection id : String) (changes : Fields) : Except Fault Store :=
  let shelf := store.shelf collection
  match Shelf.get? shelf id with
  | none => .error (.noDocument collection (some id))
  | some fields =>
      .ok (store.withShelf collection
        (Shelf.replace shelf id (some (Fields.merge fields changes))))

/-- A document removed, if it is there. -/
def remove (store : Store) (collection id : String) : Store :=
  store.withShelf collection (Shelf.replace (store.shelf collection) id none)

/-- A store that answers no more calls. -/
def close (store : Store) : Store :=
  { store with isOpen := false }

/-! ## What the operations do to a collection -/

theorem shelf_withShelf (store : Store) (collection : String) (shelf : Shelf)
    (collection' : String) :
    (store.withShelf collection shelf).shelf collection' =
      if collection' = collection then shelf else store.shelf collection' := by
  obtain ⟨shelves, next, isOpen⟩ := store
  unfold withShelf Store.shelf
  simp only
  induction shelves with
  | nil =>
    by_cases h : collection' = collection
    · simp [withShelf.setShelf, h]
    · have : (collection' == collection) = false := by simpa using h
      simp [withShelf.setShelf, List.lookup_cons, h, this]
  | cons entry rest ih =>
    obtain ⟨name, old⟩ := entry
    unfold withShelf.setShelf
    by_cases same : name = collection
    · subst same
      by_cases h : collection' = name
      · simp [h]
      · have : (collection' == name) = false := by simpa using h
        simp [List.lookup_cons, this, h]
    · rw [if_neg same]
      by_cases h : collection' = name
      · subst h
        simp [same]
      · have : (collection' == name) = false := by simpa using h
        simp only [List.lookup_cons, this]
        exact ih

/-- What is put under an id is found there; every other id keeps what it had. -/
theorem get?_put (store : Store) (collection id : String) (fields : Fields)
    (collection' id' : String) :
    (store.put collection id fields).get? collection' id' =
      if collection' = collection ∧ id' = id then some ⟨id, fields⟩
      else store.get? collection' id' := by
  unfold put
  simp only
  split
  · rename_i slot hfound
    simp only [get?, shelf_withShelf]
    by_cases hsame : collection' = collection
    · subst hsame
      rw [if_pos rfl, Shelf.get?_replace]
      by_cases hwanted : id' = id
      · subst hwanted
        simp [hfound]
      · simp [hwanted]
    · simp [hsame]
  · rename_i habsent
    have hshelf (s : Store) (n : Nat) : ({ s with next := n } : Store).shelf = s.shelf := rfl
    simp only [get?, hshelf, shelf_withShelf]
    by_cases hsame : collection' = collection
    · subst hsame
      simp only [if_true, true_and]
      by_cases hwanted : id' = id
      · subst hwanted
        have : List.find? (fun slot : Slot => slot.id == id') (store.shelf collection') = none :=
          habsent
        simp [Shelf.get?, Shelf.slot?, List.find?_append, this]
      · have : ¬ id = id' := fun e => hwanted e.symm
        simp [Shelf.get?, Shelf.slot?, List.find?_append, this, hwanted]
    · simp [hsame]

end Store

end DocConsole
