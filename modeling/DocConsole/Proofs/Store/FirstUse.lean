import DocConsole.Proofs.Execution
import DocConsole.Proofs.Store.Scan
import Mathlib.Data.List.Induction

/-!
# Positions in the order of first use

A store hands its positions out one after the other, each to an id that its collection has not used
before.  Ids are used by the documents of the seed and by those that calls create; no other call
and no closing takes part.  Main statement: at any time the position of an id is its place among the
first uses, whatever was updated, deleted and created again in between.
-/

set_option autoImplicit false

namespace DocConsole

/-! ## First uses -/

/-- The use of an id in a collection. -/
abbrev Use := String × String

/-- The known uses with one more, unless it is known. -/
def noteUse (known : List Use) (use : Use) : List Use :=
  if use ∈ known then known else known ++ [use]

/-- Every use once, in the order in which they came first. -/
def firstUses (uses : List Use) : List Use :=
  uses.foldl noteUse []

theorem noteUse_of_mem {known : List Use} {use : Use} (h : use ∈ known) :
    noteUse known use = known :=
  if_pos h

theorem noteUse_of_not_mem {known : List Use} {use : Use} (h : use ∉ known) :
    noteUse known use = known ++ [use] :=
  if_neg h

theorem firstUses_append (uses more : List Use) :
    firstUses (uses ++ more) = more.foldl noteUse (firstUses uses) :=
  List.foldl_append

theorem mem_noteUse {known : List Use} {use use' : Use} :
    use' ∈ noteUse known use ↔ use' ∈ known ∨ use' = use := by
  by_cases h : use ∈ known
  · rw [noteUse_of_mem h]
    exact ⟨Or.inl, fun hmem => hmem.elim id (fun hsame => hsame ▸ h)⟩
  · rw [noteUse_of_not_mem h, List.mem_append, List.mem_singleton]

theorem mem_firstUses {uses : List Use} {use : Use} : use ∈ firstUses uses ↔ use ∈ uses := by
  induction uses using List.reverseRecOn with
  | nil => exact Iff.rfl
  | append_singleton uses last ih =>
      rw [firstUses_append, List.foldl_cons, List.foldl_nil, mem_noteUse, ih, List.mem_append,
        List.mem_singleton]

theorem getElem?_concat_eq_some_iff {known : List Use} {use use' : Use} {place : Nat} :
    (known ++ [use])[place]? = some use' ↔
      known[place]? = some use' ∨ place = known.length ∧ use' = use := by
  rcases Nat.lt_trichotomy place known.length with hlt | rfl | hlt
  · rw [List.getElem?_append_left hlt]
    exact ⟨Or.inl, fun h => h.elim id (fun hlast => absurd hlast.1 (Nat.ne_of_lt hlt))⟩
  · simp [eq_comm]
  · have hlast : (known ++ [use]).length ≤ place := by
      rw [List.length_append, List.length_singleton]
      omega
    rw [List.getElem?_eq_none hlast, List.getElem?_eq_none (Nat.le_of_lt hlt)]
    simp [Nat.ne_of_gt hlt]

/-! ## Stores that number the uses -/

namespace Store

/-- The positions of a store number the known uses, from zero on. -/
structure Numbers (store : Store) (known : List Use) : Prop where
  /-- The next position is the number of uses. -/
  next : store.next = known.length
  /-- The position of an id is its place. -/
  place : ∀ collection id position, (store.shelf collection).position? id = some position ↔
    known[position]? = some (collection, id)

variable {store : Store} {known : List Use}

theorem numbers_empty : empty.Numbers [] :=
  ⟨rfl, fun _ _ _ => by simp [empty, shelf, Shelf.position?, Shelf.slot?]⟩

/-- An id has a position just when it was used. -/
theorem Numbers.exists_position?_iff (h : store.Numbers known) (collection id : String) :
    (∃ position, (store.shelf collection).position? id = some position) ↔
      (collection, id) ∈ known := by
  rw [List.mem_iff_getElem?]
  exact exists_congr (h.place collection id)

/-- Positions lie below the next one. -/
theorem Numbers.position_lt (h : store.Numbers known) {collection id : String} {position : Nat}
    (hposition : (store.shelf collection).position? id = some position) :
    position < store.next := by
  obtain ⟨hlt, -⟩ := List.getElem?_eq_some_iff.mp ((h.place collection id position).mp hposition)
  rw [h.next]
  exact hlt

/-- No two ids share a position, whatever their collections. -/
theorem Numbers.eq_of_position? (h : store.Numbers known) {collection collection' id id' : String}
    {position : Nat} (hposition : (store.shelf collection).position? id = some position)
    (hposition' : (store.shelf collection').position? id' = some position) :
    collection = collection' ∧ id = id' := by
  have hsame := (h.place collection id position).mp hposition
  rw [(h.place collection' id' position).mp hposition', Option.some.injEq, Prod.mk.injEq] at hsame
  exact ⟨hsame.1.symm, hsame.2.symm⟩

/-- A collection exchanged for one with the same positions. -/
theorem Numbers.withShelf (h : store.Numbers known) {collection : String} {shelf : Shelf}
    (hshelf : ∀ id, shelf.position? id = (store.shelf collection).position? id) :
    (store.withShelf collection shelf).Numbers known := by
  refine ⟨h.next, fun collection' id position => ?_⟩
  rw [shelf_withShelf]
  split
  · rename_i hsame
    rw [hshelf, ← hsame]
    exact h.place collection' id position
  · exact h.place collection' id position

theorem Numbers.replace (h : store.Numbers known) (collection id : String)
    (fields : Option Fields) :
    (store.withShelf collection ((store.shelf collection).replace id fields)).Numbers known :=
  h.withShelf fun id' => Shelf.position?_replace _ _ _ id'

/-- A new slot takes its position for its id alone. -/
theorem position?_concat {shelf : Shelf} {id : String} (hnew : shelf.slot? id = none)
    (position : Nat) (fields : Option Fields) (id' : String) :
    Shelf.position? (shelf ++ [⟨id, position, fields⟩]) id' =
      if id' = id then some position else shelf.position? id' := by
  rw [Shelf.position?, Shelf.slot?, List.find?_append, List.find?_singleton]
  by_cases hsame : id' = id
  · subst hsame
    rw [Shelf.slot?] at hnew
    simp [hnew]
  · have hother : (id == id') = false := beq_false_of_ne (Ne.symm hsame)
    rw [if_neg hsame, Shelf.position?, Shelf.slot?]
    simp [hother]

/-- A document that is put makes a use of its id. -/
theorem Numbers.put (h : store.Numbers known) (collection id : String) (fields : Fields) :
    (store.put collection id fields).Numbers (noteUse known (collection, id)) := by
  unfold Store.put
  simp only
  split
  · rename_i slot hslot
    have hused : (collection, id) ∈ known := by
      rw [← h.exists_position?_iff]
      exact ⟨slot.position, by rw [Shelf.position?, hslot, Option.map_some]⟩
    rw [noteUse_of_mem hused]
    exact h.replace collection id (some fields)
  · rename_i hnew
    have hunused : (collection, id) ∉ known := by
      rw [← h.exists_position?_iff]
      rintro ⟨position, hposition⟩
      rw [Shelf.position?, hnew] at hposition
      cases hposition
    rw [noteUse_of_not_mem hunused]
    refine ⟨by rw [List.length_append, ← h.next]; rfl, fun collection' id' position => ?_⟩
    show ((store.withShelf collection _).shelf collection').position? id' = some position ↔ _
    rw [shelf_withShelf, getElem?_concat_eq_some_iff, ← h.place, ← h.next, Prod.mk.injEq]
    by_cases hcollection : collection' = collection
    · subst hcollection
      rw [if_pos rfl, position?_concat hnew]
      by_cases hid : id' = id
      · subst hid
        rw [if_pos rfl, Shelf.position?, hnew]
        simp [eq_comm]
      · simp [hid]
    · simp [hcollection]

/-- A seed uses the ids of its documents. -/
def seedUses (data : List (String × List (String × Fields))) : List Use :=
  data.flatMap (fun entry => entry.2.map (fun document => (entry.1, document.1)))

theorem Numbers.putAll (h : store.Numbers known) (collection : String)
    (documents : List (String × Fields)) :
    (documents.foldl (fun store document => store.put collection document.1 document.2)
      store).Numbers ((documents.map (fun document => (collection, document.1))).foldl noteUse
        known) := by
  induction documents generalizing store known with
  | nil => exact h
  | cons document rest ih => exact ih (h.put collection document.1 document.2)

theorem numbers_ofData (data : List (String × List (String × Fields))) :
    (ofData data).Numbers (firstUses (seedUses data)) := by
  suffices hall : ∀ (store : Store) (known : List Use), store.Numbers known →
      (data.foldl (fun store entry =>
        entry.2.foldl (fun store document => store.put entry.1 document.1 document.2) store)
        store).Numbers ((seedUses data).foldl noteUse known) from hall _ _ numbers_empty
  induction data with
  | nil => exact fun store known h => h
  | cons entry rest ih =>
      intro store known h
      rw [seedUses, List.flatMap_cons, List.foldl_append]
      exact ih _ _ (h.putAll entry.1 entry.2)

end Store

/-! ## Calls -/

/-- What happens to a backend: it is called, or its store is closed. -/
inductive StoreEvent where
  /-- A call. -/
  | call (call : StoreCall)
  /-- The store is closed. -/
  | close

/-- The use that a call makes, going by its answer. -/
def StoreCall.uses : StoreCall → Outcome → List Use
  | .create collection _, .ok (.created id) => [(collection, id)]
  | _, _ => []

/-- A call that fails makes no use. -/
theorem StoreCall.uses_error (call : StoreCall) (fault : Fault) :
    call.uses (.error fault) = [] := by
  cases call <;> rfl

theorem Store.Numbers.answer {store : Store} {known : List Use} (h : store.Numbers known)
    (ids : IdSupply) (call : StoreCall) :
    (Backend.answer store ids call).2.1.Numbers
      ((call.uses (Backend.answer store ids call).1).foldl noteUse known) := by
  cases call with
  | list collection filter cursor limit => exact h
  | create collection fields => exact h.put collection ids.draw.1 fields
  | update collection id fields =>
      cases id with
      | none => exact h
      | some id =>
          cases hupdate : store.update collection id fields with
          | error fault =>
              rw [Backend.answer, hupdate]
              exact h
          | ok store' =>
              obtain ⟨old, -, rfl⟩ := Store.update_eq_ok hupdate
              rw [Backend.answer, hupdate]
              exact h.replace collection id _
  | delete collection id =>
      cases id with
      | none => exact h
      | some id => exact h.replace collection id none
  | get collection id => cases id <;> exact h
  | ping => exact h

namespace Backend

/-- A backend over a store with the given documents. -/
def seeded (data : List (String × List (String × Fields))) (failures : List (String × String))
    (ids : IdSupply) : Backend :=
  ⟨some (.ofData data), failures, ids⟩

/-- What an event does to a backend. -/
def undergo (backend : Backend) : StoreEvent → Backend
  | .call call => (backend.perform call).2
  | .close => backend.closeStore

/-- A backend after events. -/
def afterEvents (backend : Backend) (events : List StoreEvent) : Backend :=
  events.foldl undergo backend

/-- The uses that an event makes. -/
def uses (backend : Backend) : StoreEvent → List Use
  | .call call => call.uses (backend.perform call).1
  | .close => []

/-- The uses that events make, in their order. -/
def usesOf (backend : Backend) : List StoreEvent → List Use
  | [] => []
  | event :: rest => backend.uses event ++ (backend.undergo event).usesOf rest

/-- The backend holds an ordered store that numbers the known uses. -/
structure Keeps (backend : Backend) (store : Store) (known : List Use) : Prop where
  held : backend.store = some store
  ordered : store.Ordered
  numbers : store.Numbers known

variable {backend : Backend} {store : Store} {known : List Use}

theorem keeps_seeded (data : List (String × List (String × Fields)))
    (failures : List (String × String)) (ids : IdSupply) :
    (seeded data failures ids).Keeps (.ofData data) (firstUses (Store.seedUses data)) :=
  ⟨rfl, Store.ordered_ofData data, Store.numbers_ofData data⟩

/-- An event numbers the uses that it makes, and moves no id. -/
theorem Keeps.undergo (h : backend.Keeps store known) (event : StoreEvent) :
    ∃ store', (backend.undergo event).Keeps store' ((backend.uses event).foldl noteUse known) ∧
      store.Extends store' := by
  cases event with
  | close =>
      refine ⟨store.close, ⟨?_, h.ordered, h.numbers.next, h.numbers.place⟩, .refl store⟩
      rw [Backend.undergo, closeStore, h.held]
      rfl
  | call call =>
      rcases perform_cases h.held call with ⟨fault, hperform⟩ | ⟨-, hperform⟩
      · refine ⟨store, ?_, .refl store⟩
        rw [Backend.undergo, uses, hperform, call.uses_error]
        exact h
      · obtain ⟨hordered, hextends, -⟩ := answer_ordered h.ordered backend.ids call
        refine ⟨_, ⟨?_, hordered, ?_⟩, hextends⟩
        · rw [Backend.undergo, hperform]
        · rw [uses, hperform]
          exact h.numbers.answer backend.ids call

theorem Keeps.afterEvents (h : backend.Keeps store known) (events : List StoreEvent) :
    ∃ store', (backend.afterEvents events).Keeps store'
        ((backend.usesOf events).foldl noteUse known) ∧ store.Extends store' := by
  induction events generalizing backend store known with
  | nil => exact ⟨store, h, .refl store⟩
  | cons event rest ih =>
      obtain ⟨middle, hmiddle, hfirst⟩ := h.undergo event
      obtain ⟨last, hlast, hrest⟩ := ih hmiddle
      refine ⟨last, ?_, hfirst.trans hrest⟩
      rw [usesOf, List.foldl_append]
      exact hlast

end Backend

/-! ## The order of creation -/

/-- The positions of a store put the ids of its collections in the order of the known uses, which
is the order of every listing. -/
structure Store.InOrderOf (store : Store) (known : List Use) : Prop where
  /-- Every stored document has a position. -/
  placed : ∀ collection id document, store.get? collection id = some document →
    ∃ position, (store.shelf collection).position? id = some position
  /-- A listing goes up by position. -/
  listed : ∀ collection filter cursor limit,
    (store.list collection filter cursor limit).documents.Pairwise (fun a b =>
      ∃ position position', (store.shelf collection).position? a.id = some position ∧
        (store.shelf collection).position? b.id = some position' ∧ position < position')
  /-- Different ids have different positions. -/
  apart : ∀ collection id id' position, (store.shelf collection).position? id = some position →
    (store.shelf collection).position? id' = some position → id = id'
  /-- Positions lie below the next one. -/
  below : ∀ collection id position, (store.shelf collection).position? id = some position →
    position < store.next
  /-- The position of an id is its place among the uses. -/
  place : ∀ collection id position, (store.shelf collection).position? id = some position ↔
    known[position]? = some (collection, id)

theorem Backend.Keeps.inOrderOf {backend : Backend} {store : Store} {known : List Use}
    (h : backend.Keeps store known) : store.InOrderOf known where
  placed _ _ _ hget := Store.exists_position? hget
  listed collection filter cursor limit := by
    refine (h.ordered.pairwise_list cursor).imp_of_mem ?_
    intro first second hfirst hsecond hbefore
    obtain ⟨position, hposition, -⟩ := h.ordered.behind_of_mem_list hfirst
    obtain ⟨position', hposition', -⟩ := h.ordered.behind_of_mem_list hsecond
    exact ⟨position, position', hposition, hposition', hbefore _ _ hposition hposition'⟩
  apart _ _ _ _ hposition hposition' := (h.numbers.eq_of_position? hposition hposition').2
  below _ _ _ hposition := h.numbers.position_lt hposition
  place := h.numbers.place

/-- A document that is created under an id which its collection did not use stands behind all
others. -/
theorem Backend.Keeps.created {backend : Backend} {store : Store} {known : List Use}
    (h : backend.Keeps store known) {collection id : String} {fields : Fields}
    (hcreated : (backend.perform (.create collection fields)).1 = .ok (.created id))
    (hunused : (collection, id) ∉ known) :
    ∃ store' position, (backend.perform (.create collection fields)).2.store = some store' ∧
      store'.get? collection id = some ⟨id, fields⟩ ∧
      (store'.shelf collection).position? id = some position ∧
      ∀ collection' id' position',
        (store.shelf collection').position? id' = some position' → position' < position := by
  obtain ⟨hid, hafter⟩ := perform_create_of_ok h.held hcreated
  obtain rfl : id = backend.ids.draw.1 := Reply.created.inj hid
  refine ⟨_, known.length, by rw [hafter], ?_, ?_, ?_⟩
  · rw [Store.get?_put, if_pos ⟨rfl, rfl⟩]
  · rw [(h.numbers.put _ _ _).place, noteUse_of_not_mem hunused]
    exact List.getElem?_concat_length
  · intro collection' id' position' hposition'
    rw [← h.numbers.next]
    exact h.numbers.position_lt hposition'

/-- At any time in the life of a store its positions put the ids in the order of their first use, by
the seed and by the documents created since.  No position is changed or lost by anything that
happens later, and a new id is placed behind all others. -/
theorem positions_follow_first_use (data : List (String × List (String × Fields)))
    (failures : List (String × String)) (ids : IdSupply) (events more : List StoreEvent) :
    let start := Backend.seeded data failures ids
    let uses := Store.seedUses data ++ start.usesOf events
    ∃ store store', (start.afterEvents events).store = some store ∧
      (start.afterEvents (events ++ more)).store = some store' ∧
      store.InOrderOf (firstUses uses) ∧ store.Extends store' ∧
      ∀ collection id fields,
        ((start.afterEvents events).perform (.create collection fields)).1 = .ok (.created id) →
        (collection, id) ∉ uses →
        ∃ created position,
          ((start.afterEvents events).perform (.create collection fields)).2.store =
            some created ∧
          created.get? collection id = some ⟨id, fields⟩ ∧
          (created.shelf collection).position? id = some position ∧
          ∀ collection' id' position',
            (store.shelf collection').position? id' = some position' → position' < position := by
  intro start uses
  obtain ⟨store, hkeeps, -⟩ := (Backend.keeps_seeded data failures ids).afterEvents events
  obtain ⟨store', hlater, hextends⟩ := hkeeps.afterEvents more
  rw [← firstUses_append] at hkeeps
  refine ⟨store, store', hkeeps.held, ?_, hkeeps.inOrderOf, hextends, ?_⟩
  · rw [Backend.afterEvents, List.foldl_append]
    exact hlater.held
  · intro collection id fields hcreated hunused
    exact hkeeps.created hcreated (fun hknown => hunused (mem_firstUses.mp hknown))

/-- An id that is deleted and created again goes back to its place, ahead of one that came in
between. -/
example :
    (((Backend.seeded [("items", [("a", []), ("b", [])])] [] ⟨["c", "a"], 0⟩).afterEvents
      [.call (.delete "items" (some "a")), .call (.create "items" []),
        .call (.create "items" [])]).store.map (fun store =>
          (store.documents "items").map (·.id))) = some ["a", "b", "c"] := by
  decide

end DocConsole
