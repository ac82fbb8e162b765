import DocConsole.Proofs.Store.Positions

/-!
# Listing page after page

A page is asked for by the id of the last document before it.  Main statements: on an ordered
collection the documents after the first `n` matching ones are exactly the matching ones from `n`
on, so that asking by cursor is the same as counting, and the cursor that a page reports is the one
that asks for the page behind it.
-/

set_option autoImplicit false

namespace DocConsole

/-! ## Matching documents -/

theorem Slot.id_of_document? {slot : Slot} {document : Document}
    (h : slot.document? = some document) : slot.id = document.id := by
  obtain ⟨fields, -, rfl⟩ := Option.map_eq_some_iff.mp h
  rfl

namespace Shelf

/-- The documents that meet a condition, in order. -/
def matching (shelf : Shelf) (filter : Option Filter) : List Document :=
  (documents shelf).filter (meets filter)

theorem matching_eq_filterMap (shelf : Shelf) (filter : Option Filter) :
    shelf.matching filter =
      shelf.filterMap (fun slot => slot.document?.filter (meets filter)) := by
  rw [matching, documents, List.filter_filterMap]

/-- A document that a matching list ends on splits the shelf at its slot. -/
theorem exists_split_of_matching {shelf : Shelf} {filter : Option Filter}
    {before behind : List Document} {last : Document}
    (h : shelf.matching filter = before ++ last :: behind) :
    ∃ (front back : Shelf) (mark : Slot), shelf = front ++ mark :: back ∧ mark.id = last.id ∧
      matching back filter = behind := by
  rw [matching_eq_filterMap] at h
  obtain ⟨front, rest, hshelf, -, hrest⟩ := List.filterMap_eq_append_iff.mp h
  obtain ⟨skipped, mark, back, hsplit, -, hmark, hback⟩ := List.filterMap_eq_cons_iff.mp hrest
  obtain ⟨hdocument, -⟩ := Option.filter_eq_some_iff.mp hmark
  refine ⟨front ++ skipped, back, mark, ?_, Slot.id_of_document? hdocument, ?_⟩
  · rw [hshelf, hsplit, List.append_assoc]
  · rw [matching_eq_filterMap, hback]

/-- What matches after the last of the first `n` matching documents is what matches from `n` on. -/
theorem Ordered.matching_after_take {shelf : Shelf} {bound : Nat} (h : shelf.Ordered bound)
    (filter : Option Filter) (n : Nat) :
    matching (after shelf (((shelf.matching filter).take n).getLast?.map (·.id))) filter =
      (shelf.matching filter).drop n := by
  have hwhole := List.take_append_drop n (shelf.matching filter)
  cases hlast : ((shelf.matching filter).take n).getLast? with
  | none =>
      rw [List.getLast?_eq_none_iff.mp hlast, List.nil_append] at hwhole
      rw [hwhole, Option.map_none, after]
  | some last =>
      obtain ⟨before, htake⟩ := List.getLast?_eq_some_iff.mp hlast
      rw [htake, List.append_assoc, List.singleton_append] at hwhole
      obtain ⟨front, back, mark, hshelf, hid, hback⟩ := exists_split_of_matching hwhole.symm
      rw [hshelf] at h
      rw [Option.map_some, ← hid, ← hback, hshelf, h.after_append_cons]

end Shelf

namespace Store

/-- The documents of a collection that meet a condition, in the order in which their ids were first
used. -/
def matching (store : Store) (collection : String) (filter : Option Filter) : List Document :=
  (store.documents collection).filter (meets filter)

/-- No two documents of a collection have one id. -/
theorem Ordered.nodup_documents {store : Store} (h : store.Ordered) (collection : String) :
    ((store.documents collection).map (·.id)).Nodup := by
  have hslots : (store.shelf collection).Pairwise (fun a b => a.id ≠ b.id) :=
    List.pairwise_map.mp (h collection).distinct
  refine List.pairwise_map.mpr (hslots.filterMap Slot.document? ?_)
  intro slot slot' hne document hdocument document' hdocument'
  rwa [Slot.id_of_document? hdocument, Slot.id_of_document? hdocument'] at hne

/-- Documents with different ids include one with a given id only once. -/
theorem filter_id_eq_singleton {documents : List Document} {document : Document}
    (hnodup : (documents.map (·.id)).Nodup) (hmem : document ∈ documents) :
    documents.filter (fun d => d.id = document.id) = [document] := by
  induction documents with
  | nil => cases hmem
  | cons first rest ih =>
      rw [List.map_cons, List.nodup_cons] at hnodup
      rcases List.mem_cons.mp hmem with rfl | hrest
      · have hothers : rest.filter (fun d => d.id = document.id) = [] := by
          refine List.filter_eq_nil_iff.mpr fun d hd hsame => hnodup.1 ?_
          rw [← of_decide_eq_true hsame]
          exact List.mem_map_of_mem hd
        simp [hothers]
      · have hother : first.id ≠ document.id := by
          intro hsame
          exact hnodup.1 (hsame ▸ List.mem_map_of_mem hrest)
        rw [List.filter_cons_of_neg (by simpa using hother), ih hnodup.2 hrest]

/-- Documents that a condition pins to one id fit on any page. -/
theorem Ordered.list_of_pinned {store : Store} (h : store.Ordered) {collection id : String}
    {filter : Option Filter} (hpinned : ∀ d ∈ store.matching collection filter, d.id = id)
    (limit : Int) :
    store.list collection filter none limit = .of (store.matching collection filter) := by
  have hnodup : ((store.matching collection filter).map (·.id)).Nodup :=
    (h.nodup_documents collection).sublist (List.filter_sublist.map _)
  have hids : (store.matching collection filter).map (·.id) =
      List.replicate (store.matching collection filter).length id := by
    refine List.eq_replicate_iff.mpr ⟨List.length_map _, ?_⟩
    intro id' hid'
    obtain ⟨d, hd, rfl⟩ := List.mem_map.mp hid'
    exact hpinned d hd
  rw [hids, List.nodup_replicate] at hnodup
  exact congrArg Page.of (List.take_of_length_le (Nat.le_trans hnodup (Nat.le_max_left 1 _)))

end Store

/-! ## Pages by number -/

/-- The page of a number, counted from one, of documents cut into pages of a size. -/
def pageOf (documents : List Document) (size page : Int) : List Document :=
  (documents.drop ((page - 1) * size).toNat).take size.toNat

/-- The cursor that stands for the end of a list of documents; none for the empty list. -/
def endCursor (documents : List Document) : Option Value :=
  documents.getLast?.map (fun document => Value.str document.id)

/-- The cursor that asks for the page at an index counted from zero: the end of all pages before
it. -/
def cursorOf (documents : List Document) (size : Int) (index : Nat) : Option Value :=
  endCursor (documents.take (index * size.toNat))

theorem cursorOf_zero (documents : List Document) (size : Int) :
    cursorOf documents size 0 = none := by
  simp [cursorOf, endCursor]

/-- The end of a part that holds documents is the end of everything up to there. -/
theorem endCursor_take_add {documents : List Document} {n k : Nat} {cursor : Value}
    (h : endCursor ((documents.drop n).take k) = some cursor) :
    endCursor (documents.take (n + k)) = some cursor := by
  obtain ⟨last, hlast, hcursor⟩ := Option.map_eq_some_iff.mp h
  rw [endCursor, List.take_add, List.getLast?_append, hlast, Option.some_or, Option.map_some,
    hcursor]

/-- The end of a page that holds documents is the cursor of the page behind it. -/
theorem cursorOf_of_endCursor_pageOf {documents : List Document} {size page : Int}
    (hsize : 0 ≤ size) (hpage : 1 ≤ page) {cursor : Value}
    (h : endCursor (pageOf documents size page) = some cursor) :
    cursorOf documents size page.toNat = some cursor := by
  have hnext : page.toNat * size.toNat = (page - 1).toNat * size.toNat + size.toNat := by
    rw [← Nat.succ_mul]
    congr 1
    omega
  rw [pageOf, Int.toNat_mul (by omega) hsize] at h
  rw [cursorOf, hnext]
  exact endCursor_take_add h

/-! ## Listing calls -/

/-- The end of the first `n` matching documents gives those from `n` on, as many as fit on a
page. -/
theorem Store.Ordered.list_endCursor {store : Store} (h : store.Ordered) (collection : String)
    (filter : Option Filter) (n : Nat) (limit : Int) :
    store.list collection filter
        ((endCursor ((store.matching collection filter).take n)).map Value.display) limit =
      .of (((store.matching collection filter).drop n).take (max 1 limit.toNat)) := by
  have hcursor : (endCursor ((store.matching collection filter).take n)).map Value.display =
      (((store.shelf collection).matching filter).take n).getLast?.map (·.id) := by
    rw [endCursor, Option.map_map]
    rfl
  have hafter := (h collection).matching_after_take filter n
  rw [hcursor, Store.list]
  exact congrArg (fun documents => Page.of (documents.take (max 1 limit.toNat))) hafter

/-- The cursor of a page gives exactly the documents of that page. -/
theorem Store.Ordered.list_cursorOf {store : Store} (h : store.Ordered) (collection : String)
    (filter : Option Filter) {size page : Int} (hsize : 1 ≤ size) (hpage : 1 ≤ page) :
    store.list collection filter
        ((cursorOf (store.matching collection filter) size (page - 1).toNat).map Value.display)
        size =
      .of (pageOf (store.matching collection filter) size page) := by
  have hlimit : max 1 size.toNat = size.toNat := by omega
  rw [cursorOf, h.list_endCursor, hlimit, pageOf, Int.toNat_mul (by omega) (by omega)]

namespace Backend

/-- An open store stands behind the backend, ordered, and its listings are not made to fail. -/
structure Serves (backend : Backend) (store : Store) : Prop where
  held : backend.store = some store
  isOpen : store.isOpen = true
  listing : backend.failures.lookup "list" = none
  ordered : store.Ordered

theorem Serves.connected {backend : Backend} {store : Store} (h : backend.Serves store) :
    backend.connected = true := by
  rw [Backend.connected, h.held]
  exact h.isOpen

/-- A backend that serves answers a listing by a page, and stays as it is. -/
theorem Serves.perform_list {backend : Backend} {store : Store} (h : backend.Serves store)
    (collection : String) (filter : Option Filter) (cursor : Option Value) (limit : Int) :
    backend.perform (.list collection filter cursor limit) =
      (.ok (.page (store.list collection filter (cursor.map Value.display) limit)), backend) := by
  obtain ⟨hheld, hopen, hlisting, -⟩ := h
  obtain ⟨held, failures, ids⟩ := backend
  simp only at hheld hlisting
  subst hheld
  simp [perform, StoreCall.name, hlisting, hopen, answer]

/-- A listing that does not fail is answered by a page. -/
theorem exists_page_of_perform_list {backend : Backend} {collection : String}
    {filter : Option Filter} {cursor : Option Value} {limit : Int} {reply : Reply}
    (h : (backend.perform (.list collection filter cursor limit)).1 = .ok reply) :
    ∃ page, reply = .page page := by
  unfold perform at h
  split at h
  · cases h
  · split at h
    · cases h
    · split at h
      · exact ⟨_, (Except.ok.inj h).symm⟩
      · cases h

end Backend

end DocConsole
