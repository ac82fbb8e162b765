import DocConsole.Proofs.Store.Listing

/-!
# What a write does to the documents

A write reaches one collection, and in it one document.  Main statements: a document put under an id
that was never used comes last, an update changes the fields of the one document that it names and
that is there, a removal takes out the document that it names, and every other collection keeps its
documents in their order.
-/

set_option autoImplicit false

namespace DocConsole

namespace Fields

/-- What setting a field does to a record: the field has the value, every other field has what it
had, and the names keep their order, with a new one at the end. -/
structure Assigned (name : String) (value : Value) (fields fields' : Fields) : Prop where
  holds : get? fields' name = some value
  others : ∀ name', name' ≠ name → get? fields' name' = get? fields name'
  names : names fields' = if name ∈ names fields then names fields else names fields ++ [name]

theorem assigned_set (fields : Fields) (name : String) (value : Value) :
    Assigned name value fields (set fields name value) where
  holds := (get?_set fields name value name).trans (if_pos rfl)
  others name' hother := (get?_set fields name value name').trans (if_neg hother)
  names := names_set fields name value

end Fields

namespace Shelf

variable {shelf : Shelf} {id : String} {fields : Fields} {bound : Nat}

/-- A slot emptied takes its document from the list. -/
theorem documents_replace_none (shelf : Shelf) (id : String) :
    documents (replace shelf id none) = (documents shelf).filter (fun d => d.id ≠ id) := by
  rw [documents, replace, List.filterMap_map, documents, List.filter_filterMap]
  refine List.filterMap_congr fun slot _ => ?_
  obtain ⟨name, position, held⟩ := slot
  by_cases hid : name = id
  · cases held <;> simp [Slot.document?, Option.filter, hid]
  · cases held <;> simp [Slot.document?, Option.filter, hid]

/-- A slot exchanged leaves the documents of all other ids in their order. -/
theorem documents_replace_others (shelf : Shelf) (id : String) (held : Option Fields) :
    (documents (replace shelf id held)).filter (fun d => d.id ≠ id) =
      (documents shelf).filter (fun d => d.id ≠ id) := by
  rw [documents, replace, List.filterMap_map, documents, List.filter_filterMap,
    List.filter_filterMap]
  refine List.filterMap_congr fun slot _ => ?_
  obtain ⟨name, position, held'⟩ := slot
  by_cases hid : name = id
  · cases held <;> cases held' <;> simp [Slot.document?, Option.filter, hid]
  · simp [hid]

/-- With distinct ids, fields exchanged in one slot change one document and its place not at all. -/
theorem Ordered.documents_replace_some (h : shelf.Ordered bound)
    (hget : shelf.get? id = some fields) (change : Fields → Fields) :
    documents (Shelf.replace shelf id (some (change fields))) =
      (documents shelf).map (fun d => if d.id = id then ⟨d.id, change d.fields⟩ else d) := by
  rw [documents, Shelf.replace, List.filterMap_map, documents, List.map_filterMap]
  refine List.filterMap_congr fun slot hslot => ?_
  obtain ⟨name, position, held⟩ := slot
  by_cases hid : name = id
  · subst hid
    have hheld : held = some fields := by
      have hfound := h.slot?_of_mem hslot
      rw [get?, hfound] at hget
      exact hget
    simp [Slot.document?, hheld]
  · cases held <;> simp [Slot.document?, hid]

/-- A document is found under its id, and nothing else is. -/
theorem get?_eq_some (hget : shelf.get? id = some fields) : ⟨id, fields⟩ ∈ documents shelf := by
  obtain ⟨slot, hslot, hfields⟩ := Option.bind_eq_some_iff.mp hget
  obtain ⟨hmem, rfl⟩ := slot?_eq_some hslot
  refine List.mem_filterMap.mpr ⟨slot, hmem, ?_⟩
  rw [Slot.document?, hfields]
  rfl

end Shelf

namespace Store

variable {store store' : Store} {collection id : String}

theorem documents_withShelf (store : Store) (collection : String) (shelf : Shelf)
    (collection' : String) :
    (store.withShelf collection shelf).documents collection' =
      if collection' = collection then Shelf.documents shelf else store.documents collection' := by
  rw [documents, shelf_withShelf]
  split <;> rfl

/-- What a write to one collection keeps: the documents of all others, every position, and whether
the store is open. -/
structure SameOutside (collection : String) (store store' : Store) : Prop where
  documents : ∀ collection', collection' ≠ collection →
    store'.documents collection' = store.documents collection'
  positions : store.Extends store'
  isOpen : store'.isOpen = store.isOpen

/-! ## Documents put -/

/-- A document under an id that was never used gets a new slot at the end. -/
theorem shelf_put (hfresh : (store.shelf collection).slot? id = none) (fields : Fields) :
    (store.put collection id fields).shelf collection =
        store.shelf collection ++ [⟨id, store.next, some fields⟩] ∧
      (store.put collection id fields).next = store.next + 1 := by
  have hput : store.put collection id fields =
      { store.withShelf collection
          (store.shelf collection ++ [⟨id, store.next, some fields⟩]) with
        next := store.next + 1 } := by
    unfold put
    simp only [hfresh]
  rw [hput]
  exact ⟨(shelf_withShelf store collection _ collection).trans (if_pos rfl), rfl⟩

/-- A document under an id that was never used comes after all others. -/
theorem documents_put (hfresh : (store.shelf collection).slot? id = none) (fields : Fields) :
    (store.put collection id fields).documents collection =
      store.documents collection ++ [⟨id, fields⟩] := by
  rw [documents, (shelf_put hfresh fields).1, Shelf.documents, List.filterMap_append]
  rfl

/-- A document put leaves the documents of all other ids in their order. -/
theorem documents_put_others (store : Store) (collection id : String) (fields : Fields) :
    ((store.put collection id fields).documents collection).filter (fun d => d.id ≠ id) =
      (store.documents collection).filter (fun d => d.id ≠ id) := by
  cases hslot : (store.shelf collection).slot? id with
  | none =>
      rw [documents_put hslot, List.filter_append]
      simp
  | some slot =>
      have hput : store.put collection id fields = store.withShelf collection
          ((store.shelf collection).replace id (some fields)) := by
        unfold put
        simp only [hslot]
      rw [hput, documents_withShelf, if_pos rfl]
      exact Shelf.documents_replace_others _ id (some fields)

theorem sameOutside_put (store : Store) (collection id : String) (fields : Fields) :
    store.SameOutside collection (store.put collection id fields) := by
  refine ⟨fun collection' hother => ?_, store.extends_put collection id fields, ?_⟩
  · unfold put
    simp only
    split
    · rw [documents_withShelf, if_neg hother]
    · exact (documents_withShelf store collection _ collection').trans (if_neg hother)
  · unfold put
    simp only
    split <;> rfl

/-! ## Documents updated -/

/-- An update goes through when the document is there, and gives its slot the merged fields. -/
theorem update_eq_ok {changes : Fields} (h : store.update collection id changes = .ok store') :
    ∃ fields, (store.shelf collection).get? id = some fields ∧
      store' = store.withShelf collection
        ((store.shelf collection).replace id (some (Fields.merge fields changes))) := by
  unfold Store.update at h
  simp only at h
  split at h
  · cases h
  · rename_i fields hget
    exact ⟨fields, hget, (Except.ok.inj h).symm⟩

/-- An update names a document that is there, and sets its fields. -/
theorem Ordered.documents_update (h : store.Ordered) {changes : Fields}
    (hupdate : store.update collection id changes = .ok store') :
    (∃ d ∈ store.documents collection, d.id = id) ∧
      store'.documents collection = (store.documents collection).map
        (fun d => if d.id = id then ⟨d.id, Fields.merge d.fields changes⟩ else d) := by
  obtain ⟨fields, hget, rfl⟩ := update_eq_ok hupdate
  refine ⟨⟨⟨id, fields⟩, Shelf.get?_eq_some hget, rfl⟩, ?_⟩
  rw [documents_withShelf, if_pos rfl]
  exact (h collection).documents_replace_some hget (fun fields => Fields.merge fields changes)

theorem Ordered.sameOutside_update (h : store.Ordered) {changes : Fields}
    (hupdate : store.update collection id changes = .ok store') :
    store.SameOutside collection store' := by
  have hextends := (h.update hupdate).2
  obtain ⟨fields, hget, rfl⟩ := update_eq_ok hupdate
  refine ⟨fun collection' hother => ?_, hextends, rfl⟩
  rw [documents_withShelf, if_neg hother]

/-- An update of a document that is there goes through, and the document has the merged fields. -/
theorem Ordered.exists_update (h : store.Ordered) {document : Document}
    (hthere : store.get? collection id = some document) (changes : Fields) :
    ∃ store', store.update collection id changes = .ok store' ∧
      ⟨id, Fields.merge document.fields changes⟩ ∈ store'.documents collection := by
  obtain ⟨fields, hget, rfl⟩ := Option.map_eq_some_iff.mp hthere
  have hupdate : store.update collection id changes = .ok (store.withShelf collection
      ((store.shelf collection).replace id (some (Fields.merge fields changes)))) := by
    simp only [Store.update, hget]
  refine ⟨_, hupdate, ?_⟩
  rw [(h.documents_update hupdate).2]
  refine List.mem_map.mpr ⟨⟨id, fields⟩, Shelf.get?_eq_some hget, ?_⟩
  rw [if_pos rfl]

/-- What an update of one field does to a store: the document is there and has the field set, and
all others keep what they have and where they stand. -/
structure FieldSet (collection id name : String) (value : Value) (store store' : Store) : Prop where
  there : ∃ fields fields', store.get? collection id = some ⟨id, fields⟩ ∧
    store'.get? collection id = some ⟨id, fields'⟩ ∧ Fields.Assigned name value fields fields'
  others : ∀ id', id' ≠ id → store'.get? collection id' = store.get? collection id'
  order : (store'.documents collection).map (·.id) = (store.documents collection).map (·.id)
  outside : store.SameOutside collection store'

theorem Ordered.fieldSet_update (h : store.Ordered) {name : String} {value : Value}
    (hupdate : store.update collection id [(name, value)] = .ok store') :
    store.FieldSet collection id name value store' := by
  have hdocuments := (h.documents_update hupdate).2
  have houtside := h.sameOutside_update hupdate
  obtain ⟨fields, hget, rfl⟩ := update_eq_ok hupdate
  refine ⟨⟨fields, Fields.set fields name value, ?_, ?_, Fields.assigned_set fields name value⟩,
    fun id' hother => ?_, ?_, houtside⟩
  · rw [get?, hget]
    rfl
  · obtain ⟨slot, hslot, -⟩ := Option.bind_eq_some_iff.mp hget
    rw [get?, shelf_withShelf, if_pos rfl, Shelf.get?_replace, if_pos rfl, hslot]
    rfl
  · rw [get?, shelf_withShelf, if_pos rfl, Shelf.get?_replace, if_neg hother]
    rfl
  · rw [hdocuments, List.map_map]
    refine List.map_congr_left fun d _ => ?_
    by_cases hid : d.id = id <;> simp [hid]

/-- What a new document does to a store: it is found under its id, behind all others when the id was
never used, and those keep what they have and where they stand. -/
structure DocumentAdded (collection id : String) (fields : Fields) (store store' : Store) :
    Prop where
  found : store'.get? collection id = some ⟨id, fields⟩
  others : ∀ id', id' ≠ id → store'.get? collection id' = store.get? collection id'
  order : (store'.documents collection).filter (fun d => d.id ≠ id) =
    (store.documents collection).filter (fun d => d.id ≠ id)
  last : (store.shelf collection).slot? id = none →
    store'.documents collection = store.documents collection ++ [⟨id, fields⟩]
  outside : store.SameOutside collection store'

theorem documentAdded_put (store : Store) (collection id : String) (fields : Fields) :
    store.DocumentAdded collection id fields (store.put collection id fields) where
  found := (store.get?_put collection id fields collection id).trans (if_pos ⟨rfl, rfl⟩)
  others id' hother :=
    (store.get?_put collection id fields collection id').trans (if_neg fun h => hother h.2)
  order := store.documents_put_others collection id fields
  last hunused := documents_put hunused fields
  outside := store.sameOutside_put collection id fields

/-! ## Documents removed -/

theorem documents_remove (store : Store) (collection id : String) :
    (store.remove collection id).documents collection =
      (store.documents collection).filter (fun d => d.id ≠ id) := by
  rw [remove, documents_withShelf, if_pos rfl]
  exact Shelf.documents_replace_none _ id

theorem sameOutside_remove (store : Store) (collection id : String) :
    store.SameOutside collection (store.remove collection id) := by
  refine ⟨fun collection' hother => ?_, store.extends_remove collection id, rfl⟩
  rw [remove, documents_withShelf, if_neg hother]

end Store

/-- A backend whose updates are not made to fail carries them out, and goes on serving. -/
theorem Backend.Serves.perform_update {backend : Backend} {store store' : Store}
    (h : backend.Serves store) (hupdating : backend.failures.lookup "update" = none)
    {collection id : String} {changes : Fields}
    (hupdate : store.update collection id changes = .ok store') :
    ∃ backend', backend.perform (.update collection (some id) changes) = (.ok .done, backend') ∧
      backend'.Serves store' := by
  have hperform : backend.perform (.update collection (some id) changes) =
      (.ok .done, { backend with store := some store' }) := by
    simp [Backend.perform, StoreCall.name, hupdating, h.held, h.isOpen, Backend.answer, hupdate]
  exact ⟨_, hperform, rfl, (h.ordered.sameOutside_update hupdate).isOpen.trans h.isOpen, h.listing,
    (h.ordered.update hupdate).1⟩

end DocConsole
