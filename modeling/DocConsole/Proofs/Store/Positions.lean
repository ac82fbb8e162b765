import DocConsole.Store.Call
import Mathlib.Data.List.Nodup

/-!
# Positions in a collection

Every id that a collection ever used has a slot, and the slot has a position.  A collection is
ordered when its slots ascend by position and no id has two of them.  Main statements: every store
that comes about is ordered, no call ever moves an id to another position, and the slots after a
cursor are those behind its slot.
-/

set_option autoImplicit false

namespace DocConsole

namespace Shelf

/-! ## Ordered shelves -/

/-- The position of an id, if it was ever used. -/
def position? (shelf : Shelf) (id : String) : Option Nat :=
  (slot? shelf id).map (·.position)

/-- The slots ascend by position, no id has two of them, and every position lies below the
bound. -/
structure Ordered (shelf : Shelf) (bound : Nat) : Prop where
  /-- The slots stand in the order of their positions. -/
  ascending : shelf.Pairwise (fun a b => a.position < b.position)
  /-- No id has two slots. -/
  distinct : (shelf.map (·.id)).Nodup
  /-- Positions are taken from below the bound. -/
  below : ∀ slot ∈ shelf, slot.position < bound

theorem ordered_nil (bound : Nat) : Ordered [] bound :=
  ⟨.nil, .nil, by simp⟩

theorem Ordered.mono {shelf : Shelf} {bound bound' : Nat} (h : Ordered shelf bound)
    (hle : bound ≤ bound') : Ordered shelf bound' :=
  ⟨h.ascending, h.distinct, fun slot hslot => Nat.lt_of_lt_of_le (h.below slot hslot) hle⟩

theorem slot?_eq_some {shelf : Shelf} {id : String} {slot : Slot}
    (h : slot? shelf id = some slot) : slot ∈ shelf ∧ slot.id = id := by
  refine ⟨List.mem_of_find?_eq_some h, ?_⟩
  simpa using List.find?_some h

/-- With distinct ids every slot is the slot of its id. -/
theorem Ordered.slot?_of_mem {shelf : Shelf} {bound : Nat} (h : Ordered shelf bound)
    {slot : Slot} (hslot : slot ∈ shelf) : slot? shelf slot.id = some slot := by
  cases hfound : slot? shelf slot.id with
  | none =>
      have := List.find?_eq_none.mp hfound slot hslot
      simp at this
  | some other =>
      obtain ⟨hother, hid⟩ := slot?_eq_some hfound
      rw [List.inj_on_of_nodup_map h.distinct hother hslot hid]

theorem Ordered.position?_of_mem {shelf : Shelf} {bound : Nat} (h : Ordered shelf bound)
    {slot : Slot} (hslot : slot ∈ shelf) : position? shelf slot.id = some slot.position := by
  rw [position?, h.slot?_of_mem hslot, Option.map_some]

/-! ## What is replaced keeps its place -/

theorem Ordered.replace {shelf : Shelf} {bound : Nat} (h : Ordered shelf bound) (id : String)
    (fields : Option Fields) : Ordered (shelf.replace id fields) bound := by
  have hid : ∀ slot : Slot,
      (if slot.id == id then { slot with fields := fields } else slot).id = slot.id := by
    intro slot; split <;> rfl
  have hposition : ∀ slot : Slot,
      (if slot.id == id then { slot with fields := fields } else slot).position =
        slot.position := by
    intro slot; split <;> rfl
  refine ⟨?_, ?_, ?_⟩
  · rw [Shelf.replace, List.pairwise_map]
    simpa only [hposition] using h.ascending
  · rw [Shelf.replace, List.map_map]
    simpa only [Function.comp_def, hid] using h.distinct
  · intro slot hslot
    obtain ⟨old, hold, rfl⟩ := List.mem_map.mp hslot
    rw [hposition]
    exact h.below old hold

theorem position?_replace (shelf : Shelf) (id : String) (fields : Option Fields)
    (id' : String) : position? (shelf.replace id fields) id' = position? shelf id' := by
  have hid : ∀ slot : Slot,
      ((if slot.id == id then { slot with fields := fields } else slot).id == id') =
        (slot.id == id') := by
    intro slot; split <;> rfl
  rw [position?, position?, slot?, slot?, Shelf.replace, List.find?_map]
  simp only [Function.comp_def, hid, Option.map_map]
  congr 1
  funext slot
  split <;> rfl

/-! ## What is added stands at the end -/

theorem Ordered.concat {shelf : Shelf} {bound : Nat} (h : Ordered shelf bound) {id : String}
    (hfresh : slot? shelf id = none) (fields : Option Fields) :
    Ordered (shelf ++ [⟨id, bound, fields⟩]) (bound + 1) := by
  have hother : ∀ slot ∈ shelf, slot.id ≠ id := by
    intro slot hslot
    simpa using List.find?_eq_none.mp hfresh slot hslot
  refine ⟨?_, ?_, ?_⟩
  · rw [List.pairwise_append]
    refine ⟨h.ascending, List.pairwise_singleton _ _, ?_⟩
    intro slot hslot last hlast
    rw [List.mem_singleton.mp hlast]
    exact h.below slot hslot
  · rw [List.map_append, List.nodup_append]
    refine ⟨h.distinct, by simp, ?_⟩
    intro name hname last hlast
    obtain ⟨slot, hslot, rfl⟩ := List.mem_map.mp hname
    have hlast' : last = id := by simpa using hlast
    rw [hlast']
    exact hother slot hslot
  · intro slot hslot
    rcases List.mem_append.mp hslot with hold | hnew
    · exact Nat.lt_succ_of_lt (h.below slot hold)
    · rw [List.mem_singleton.mp hnew]
      exact Nat.lt_succ_self bound

/-- An id that has a position keeps it when a slot is added. -/
theorem position?_append {shelf : Shelf} {id : String} {position : Nat}
    (h : position? shelf id = some position) (more : Shelf) :
    position? (shelf ++ more) id = some position := by
  obtain ⟨slot, hslot, hposition⟩ := Option.map_eq_some_iff.mp h
  have hfound : slot? (shelf ++ more) id = some slot := by
    rw [slot?] at hslot ⊢
    rw [List.find?_append, hslot, Option.some_or]
  rw [position?, hfound, Option.map_some, hposition]

/-! ## Behind a cursor -/

/-- The slots after a cursor are those behind the slot of its id. -/
theorem Ordered.after_append_cons {front back : Shelf} {mark : Slot} {bound : Nat}
    (h : Ordered (front ++ mark :: back) bound) :
    after (front ++ mark :: back) (some mark.id) = back := by
  have hfound : slot? (front ++ mark :: back) mark.id = some mark :=
    h.slot?_of_mem (by simp)
  obtain ⟨-, hcons, hfront⟩ := List.pairwise_append.mp h.ascending
  have hback := (List.pairwise_cons.mp hcons).1
  have hkept : front.filter (fun slot => mark.position < slot.position) = [] := by
    refine List.filter_eq_nil_iff.mpr fun slot hslot => ?_
    have := hfront slot hslot mark List.mem_cons_self
    simp only [decide_eq_true_eq]
    omega
  simp only [after, hfound, List.filter_append, List.filter_cons, hkept, Nat.lt_irrefl,
    decide_false, Bool.false_eq_true, if_false, List.nil_append]
  exact List.filter_eq_self.mpr fun slot hslot => by simpa using hback slot hslot

/-- The slots after a cursor are those with a greater position, all of them when the cursor has
no position. -/
theorem mem_after_iff {shelf : Shelf} {cursor : Option String} {slot : Slot} :
    slot ∈ after shelf cursor ↔
      slot ∈ shelf ∧ ∀ position, cursor.bind (position? shelf) = some position →
        position < slot.position := by
  cases cursor with
  | none => simp [after]
  | some id =>
      cases hmark : slot? shelf id with
      | none => simp [after, position?, hmark]
      | some mark => simp [after, position?, hmark]

theorem Ordered.pairwise_after {shelf : Shelf} {bound : Nat} (h : Ordered shelf bound)
    (cursor : Option String) :
    (after shelf cursor).Pairwise (fun a b => a.position < b.position) := by
  unfold after
  split
  · exact h.ascending
  · split
    · exact h.ascending.filter _
    · exact h.ascending

end Shelf

namespace Store

/-! ## Ordered stores -/

/-- Every collection is ordered, with positions handed out so far. -/
def Ordered (store : Store) : Prop :=
  ∀ collection, (store.shelf collection).Ordered store.next

/-- Every id that has a position in the first store has the same one in the second. -/
def Extends (store store' : Store) : Prop :=
  ∀ collection id position, (store.shelf collection).position? id = some position →
    (store'.shelf collection).position? id = some position

theorem Extends.refl (store : Store) : store.Extends store :=
  fun _ _ _ h => h

theorem Extends.trans {first second third : Store} (h : first.Extends second)
    (h' : second.Extends third) : first.Extends third :=
  fun collection id position hfirst => h' collection id position (h collection id position hfirst)

theorem ordered_empty : Ordered empty :=
  fun _ => Shelf.ordered_nil _

/-- A collection exchanged for an ordered one leaves the store ordered. -/
theorem Ordered.withShelf {store : Store} (h : store.Ordered) (collection : String)
    {shelf : Shelf} (hshelf : shelf.Ordered store.next) :
    (store.withShelf collection shelf).Ordered := by
  intro collection'
  rw [shelf_withShelf]
  split
  · exact hshelf
  · exact h collection'

theorem extends_withShelf {store : Store} {collection : String} {shelf : Shelf}
    (hshelf : ∀ id position, (store.shelf collection).position? id = some position →
      shelf.position? id = some position) :
    store.Extends (store.withShelf collection shelf) := by
  intro collection' id position h
  rw [shelf_withShelf]
  split
  · rename_i hsame
    subst hsame
    exact hshelf id position h
  · exact h

theorem Ordered.put {store : Store} (h : store.Ordered) (collection id : String)
    (fields : Fields) : (store.put collection id fields).Ordered := by
  unfold Store.put
  simp only
  split
  · exact h.withShelf collection ((h collection).replace id (some fields))
  · rename_i hfresh
    intro collection'
    show ((store.withShelf collection _).shelf collection').Ordered (store.next + 1)
    rw [shelf_withShelf]
    split
    · exact (h collection).concat hfresh (some fields)
    · exact (h collection').mono (Nat.le_succ _)

theorem extends_put (store : Store) (collection id : String) (fields : Fields) :
    store.Extends (store.put collection id fields) := by
  unfold Store.put
  simp only
  split
  · refine extends_withShelf fun id' position h => ?_
    rwa [Shelf.position?_replace]
  · have hadded : store.Extends (store.withShelf collection
        (store.shelf collection ++ [⟨id, store.next, some fields⟩])) :=
      extends_withShelf fun id' position h => Shelf.position?_append h _
    exact hadded

theorem Ordered.update {store store' : Store} (h : store.Ordered) {collection id : String}
    {changes : Fields} (hupdate : store.update collection id changes = .ok store') :
    store'.Ordered ∧ store.Extends store' := by
  unfold Store.update at hupdate
  simp only at hupdate
  split at hupdate
  · cases hupdate
  · obtain rfl := Except.ok.inj hupdate
    refine ⟨h.withShelf collection ((h collection).replace id _), ?_⟩
    refine extends_withShelf fun id' position hposition => ?_
    rwa [Shelf.position?_replace]

theorem Ordered.remove {store : Store} (h : store.Ordered) (collection id : String) :
    (store.remove collection id).Ordered :=
  h.withShelf collection ((h collection).replace id none)

theorem extends_remove (store : Store) (collection id : String) :
    store.Extends (store.remove collection id) := by
  refine extends_withShelf fun id' position h => ?_
  rwa [Shelf.position?_replace]

theorem ordered_ofData (data : List (String × List (String × Fields))) :
    (ofData data).Ordered := by
  have hdocuments : ∀ (collection : String) (documents : List (String × Fields)) (store : Store),
      store.Ordered →
      (documents.foldl (fun store document => store.put collection document.1 document.2)
        store).Ordered := by
    intro collection documents
    induction documents with
    | nil => exact fun store h => h
    | cons document rest ih => exact fun store h => ih _ (h.put _ _ _)
  suffices h : ∀ store : Store, store.Ordered →
      (data.foldl (fun store entry =>
        entry.2.foldl (fun store document => store.put entry.1 document.1 document.2) store)
        store).Ordered from h _ ordered_empty
  induction data with
  | nil => exact fun store h => h
  | cons entry rest ih => exact fun store h => ih _ (hdocuments entry.1 entry.2 store h)

end Store

/-! ## Calls -/

/-- A call keeps a store ordered, open, and every id at its position. -/
theorem Backend.answer_ordered {store : Store} (h : store.Ordered) (ids : IdSupply)
    (call : StoreCall) :
    (answer store ids call).2.1.Ordered ∧ store.Extends (answer store ids call).2.1 ∧
      (answer store ids call).2.1.isOpen = store.isOpen := by
  have hsame : store.Ordered ∧ store.Extends store ∧ store.isOpen = store.isOpen :=
    ⟨h, .refl store, rfl⟩
  cases call with
  | list collection filter cursor limit => exact hsame
  | create collection fields =>
      refine ⟨h.put _ _ _, store.extends_put _ _ _, ?_⟩
      simp only [answer, Store.put]
      split <;> rfl
  | update collection id fields =>
      cases id with
      | none => exact hsame
      | some id =>
          cases hupdate : store.update collection id fields with
          | error fault => simpa only [answer, hupdate] using hsame
          | ok store' =>
              have hopen : store'.isOpen = store.isOpen := by
                unfold Store.update at hupdate
                simp only at hupdate
                split at hupdate
                · cases hupdate
                · rw [← Except.ok.inj hupdate]; rfl
              obtain ⟨hordered, hextends⟩ := h.update hupdate
              simpa only [answer, hupdate] using ⟨hordered, hextends, hopen⟩
  | delete collection id =>
      cases id with
      | none => exact hsame
      | some id => exact ⟨h.remove _ _, store.extends_remove _ _, rfl⟩
  | get collection id => cases id <;> exact hsame
  | ping => exact hsame

/-- The stores that come about: seeded with documents, then called, and closed at any time. -/
inductive Store.Reachable : Store → Prop
  /-- A store seeded with documents. -/
  | seeded (data : List (String × List (String × Fields))) : Reachable (.ofData data)
  /-- A store after a call. -/
  | called {store : Store} (h : Reachable store) (ids : IdSupply) (call : StoreCall) :
      Reachable (Backend.answer store ids call).2.1
  /-- A store after it was closed. -/
  | closed {store : Store} (h : Reachable store) : Reachable store.close

/-- Every store that comes about is ordered. -/
theorem Store.Reachable.ordered {store : Store} (h : store.Reachable) : store.Ordered := by
  induction h with
  | seeded data => exact Store.ordered_ofData data
  | called _ ids call ih => exact (Backend.answer_ordered ih ids call).1
  | closed _ ih => exact ih

/-- The store behind a backend, if there is one, has come about. -/
def Backend.Reachable (backend : Backend) : Prop :=
  ∀ store, backend.store = some store → store.Reachable

theorem Backend.Reachable.perform {backend : Backend} (h : backend.Reachable) (call : StoreCall) :
    (backend.perform call).2.Reachable := by
  unfold Backend.perform
  split
  · exact h
  · split
    · exact h
    · rename_i store hstore
      split
      · intro store' hstore'
        obtain rfl := Option.some.inj hstore'
        exact (h store hstore).called backend.ids call
      · exact h

end DocConsole
