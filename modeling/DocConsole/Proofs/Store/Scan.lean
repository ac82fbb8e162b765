import DocConsole.Proofs.Store.Listing

/-!
# Scanning a collection while it is written

A scan fetches page after page, each one by the cursor that the page before it reported, until a
page is empty; between two fetches any calls may be made.  The positions of ids never change and
outlive their documents, so each fetch goes on strictly behind everything fetched before.  Main
statement: a scan gives no id twice, and a complete one gives every document that is there all the
time.
-/

set_option autoImplicit false

namespace DocConsole

/-! ## Backends that answer -/

namespace Backend

/-- A backend after calls made one after the other. -/
def afterCalls (backend : Backend) (calls : List StoreCall) : Backend :=
  calls.foldl (fun backend call => (backend.perform call).2) backend

theorem afterCalls_append (backend : Backend) (calls more : List StoreCall) :
    backend.afterCalls (calls ++ more) = (backend.afterCalls calls).afterCalls more :=
  List.foldl_append

/-- Whatever is called, the backend goes on serving, and no id changes its position. -/
theorem Serves.perform {backend : Backend} {store : Store} (h : backend.Serves store)
    (call : StoreCall) :
    ∃ store', (backend.perform call).2.Serves store' ∧ store.Extends store' := by
  unfold Backend.perform
  split
  · exact ⟨store, h, .refl store⟩
  · obtain ⟨hordered, hextends, hopen⟩ := answer_ordered h.ordered backend.ids call
    simp only [h.held, h.isOpen, if_true]
    exact ⟨(answer store backend.ids call).2.1,
      ⟨rfl, hopen.trans h.isOpen, h.listing, hordered⟩, hextends⟩

theorem Serves.afterCalls {backend : Backend} {store : Store} (h : backend.Serves store)
    (calls : List StoreCall) :
    ∃ store', (backend.afterCalls calls).Serves store' ∧ store.Extends store' := by
  induction calls generalizing backend store with
  | nil => exact ⟨store, h, .refl store⟩
  | cons call rest ih =>
      obtain ⟨middle, hmiddle, hfirst⟩ := h.perform call
      obtain ⟨last, hlast, hrest⟩ := ih hmiddle
      exact ⟨last, hlast, hfirst.trans hrest⟩

end Backend

/-! ## Scans -/

/-- One fetch of a scan: the backend at that moment and what it answered. -/
structure Fetch where
  /-- The backend that was asked. -/
  backend : Backend
  /-- Its answer. -/
  outcome : Outcome

namespace Fetch

/-- The documents that were fetched. -/
def documents (fetch : Fetch) : List Document :=
  match fetch.outcome with
  | .ok (.page page) => page.documents
  | _ => []

@[simp] theorem documents_page (backend : Backend) (page : Page) :
    documents ⟨backend, .ok (.page page)⟩ = page.documents := rfl

/-- The ids of the documents that were fetched. -/
def ids (fetch : Fetch) : List String :=
  fetch.documents.map (·.id)

/-- At the moment of the fetch the collection holds a document of the id that meets the
condition. -/
def Present (fetch : Fetch) (collection : String) (filter : Option Filter) (id : String) : Prop :=
  ∃ document ∈ fetch.backend.store.bind (fun store => store.get? collection id),
    meets filter document = true

instance (fetch : Fetch) (collection : String) (filter : Option Filter) (id : String) :
    Decidable (fetch.Present collection filter id) :=
  inferInstanceAs (Decidable (∃ document ∈ _, _))

theorem Present.exists_get? {fetch : Fetch} {collection : String} {filter : Option Filter}
    {id : String} (h : fetch.Present collection filter id) {store : Store}
    (hstore : fetch.backend.store = some store) :
    ∃ document, store.get? collection id = some document ∧ meets filter document = true := by
  obtain ⟨document, hmem, hmeets⟩ := h
  rw [hstore] at hmem
  exact ⟨document, hmem, hmeets⟩

end Fetch

section Scan

variable (collection : String) (filter : Option Filter) (limit : Int)

/-- The fetches of a scan from a cursor on, with the calls made between them: it ends with an
empty page, or when there are no more calls to follow. -/
def scan (backend : Backend) (cursor : Option Value) : List (List StoreCall) → List Fetch
  | [] => [⟨backend, (backend.perform (.list collection filter cursor limit)).1⟩]
  | calls :: rest =>
      let answered := backend.perform (.list collection filter cursor limit)
      ⟨backend, answered.1⟩ ::
        match answered.1 with
        | .ok (.page ⟨_ :: _, next⟩) =>
            scan (answered.2.afterCalls calls) (next.map Value.str) rest
        | _ => []

/-! ## One page -/

theorem Page.of_documents_list (store : Store) (collection : String) (filter : Option Filter)
    (cursor : Option String) (limit : Int) :
    Page.of (store.list collection filter cursor limit).documents =
      store.list collection filter cursor limit := rfl

/-- The first id lies before the second one. -/
def Shelf.Before (shelf : Shelf) (id id' : String) : Prop :=
  ∀ position position', shelf.position? id = some position → shelf.position? id' = some position' →
    position < position'

/-- The id lies behind a cursor: its position is greater than that of the cursor, if the cursor
has one. -/
def Shelf.Behind (shelf : Shelf) (cursor : Option String) (id : String) : Prop :=
  ∃ position, shelf.position? id = some position ∧
    ∀ mark, cursor.bind shelf.position? = some mark → mark < position

variable {collection filter limit}

theorem Shelf.mem_matching_iff {shelf : Shelf} {document : Document} :
    document ∈ shelf.matching filter ↔
      ∃ slot ∈ shelf, slot.document? = some document ∧ meets filter document = true := by
  rw [matching, List.mem_filter, documents, List.mem_filterMap]
  constructor
  · rintro ⟨⟨slot, hslot, hdocument⟩, hmeets⟩
    exact ⟨slot, hslot, hdocument, hmeets⟩
  · rintro ⟨slot, hslot, hdocument, hmeets⟩
    exact ⟨⟨slot, hslot, hdocument⟩, hmeets⟩

theorem Shelf.Ordered.behind_of_mem {shelf : Shelf} {bound : Nat} (h : shelf.Ordered bound)
    {cursor : Option String} {document : Document}
    (hdocument : document ∈ matching (after shelf cursor) filter) :
    shelf.Behind cursor document.id := by
  obtain ⟨slot, hslot, hdocument, -⟩ := mem_matching_iff.mp hdocument
  obtain ⟨hmem, hmark⟩ := mem_after_iff.mp hslot
  rw [← Slot.id_of_document? hdocument]
  exact ⟨slot.position, h.position?_of_mem hmem, hmark⟩

/-- What matches behind a cursor stands in the order of positions. -/
theorem Shelf.Ordered.pairwise_matching_after {shelf : Shelf} {bound : Nat}
    (h : shelf.Ordered bound) (cursor : Option String) :
    (matching (after shelf cursor) filter).Pairwise (fun a b => shelf.Before a.id b.id) := by
  refine (List.Pairwise.filterMap _ ?_
    ((h.pairwise_after cursor).imp_of_mem (S := fun a b =>
      a ∈ shelf ∧ b ∈ shelf ∧ a.position < b.position) ?_)).filter _
  · rintro slot slot' ⟨hslot, hslot', hlt⟩ document hdocument document' hdocument' p p' hp hp'
    rw [← Slot.id_of_document? hdocument, h.position?_of_mem hslot] at hp
    rw [← Slot.id_of_document? hdocument', h.position?_of_mem hslot'] at hp'
    rwa [← Option.some.inj hp, ← Option.some.inj hp']
  · intro slot slot' hslot hslot' hlt
    exact ⟨(mem_after_iff.mp hslot).1, (mem_after_iff.mp hslot').1, hlt⟩

/-- The documents of a page stand in the order of positions. -/
theorem Store.Ordered.pairwise_list {store : Store} (h : store.Ordered)
    (cursor : Option String) :
    (store.list collection filter cursor limit).documents.Pairwise
      (fun a b => (store.shelf collection).Before a.id b.id) :=
  ((h collection).pairwise_matching_after cursor).sublist (List.take_sublist _ _)

/-- Every document of a page lies behind the cursor of the page. -/
theorem Store.Ordered.behind_of_mem_list {store : Store} (h : store.Ordered)
    {cursor : Option String} {document : Document}
    (hdocument : document ∈ (store.list collection filter cursor limit).documents) :
    (store.shelf collection).Behind cursor document.id :=
  (h collection).behind_of_mem (List.mem_of_mem_take hdocument)

/-- No document of a page lies behind the last one. -/
theorem Store.Ordered.not_before_last {store : Store} (h : store.Ordered)
    {cursor : Option String} {document last : Document}
    (hdocument : document ∈ (store.list collection filter cursor limit).documents)
    (hlast : (store.list collection filter cursor limit).documents.getLast? = some last) :
    document = last ∨ (store.shelf collection).Before document.id last.id := by
  obtain ⟨front, hfront⟩ := List.getLast?_eq_some_iff.mp hlast
  have hpairwise : (store.list collection filter cursor limit).documents.Pairwise
      (fun a b => (store.shelf collection).Before a.id b.id) := h.pairwise_list cursor
  rw [hfront] at hpairwise hdocument
  rcases List.mem_append.mp hdocument with hmem | hmem
  · exact Or.inr ((List.pairwise_append.mp hpairwise).2.2 document hmem last (by simp))
  · exact Or.inl (List.mem_singleton.mp hmem)

/-- A document that is there and lies behind a cursor is among what matches after the cursor. -/
theorem Store.Ordered.mem_matching_after {store : Store} (h : store.Ordered)
    {cursor : Option String} {id : String} {document : Document}
    (hget : store.get? collection id = some document) (hmeets : meets filter document = true)
    (hbehind : (store.shelf collection).Behind cursor id) :
    document.id = id ∧
      document ∈ ((store.shelf collection).after cursor).matching filter := by
  obtain ⟨fields, hfields, rfl⟩ := Option.map_eq_some_iff.mp hget
  obtain ⟨slot, hslot, hheld⟩ := Option.bind_eq_some_iff.mp hfields
  obtain ⟨hmem, hid⟩ := Shelf.slot?_eq_some hslot
  obtain ⟨position, hposition, hmark⟩ := hbehind
  have hplace : slot.position = position := by
    rw [← hid, (h collection).position?_of_mem hmem] at hposition
    exact Option.some.inj hposition
  refine ⟨rfl, Shelf.mem_matching_iff.mpr ⟨slot, ?_, ?_, hmeets⟩⟩
  · exact Shelf.mem_after_iff.mpr ⟨hmem, hplace ▸ hmark⟩
  · rw [Slot.document?, hheld, Option.map_some, hid]

/-- A document that is there and lies behind the cursor is on the page, or behind its last one. -/
theorem Store.Ordered.mem_list_or_behind {store : Store} (h : store.Ordered)
    {cursor : Option String} {id : String} {document : Document}
    (hget : store.get? collection id = some document) (hmeets : meets filter document = true)
    (hbehind : (store.shelf collection).Behind cursor id) :
    id ∈ (store.list collection filter cursor limit).documents.map (·.id) ∨
      ∃ last, (store.list collection filter cursor limit).documents.getLast? = some last ∧
        (store.shelf collection).Before last.id id := by
  obtain ⟨rfl, hmem⟩ := h.mem_matching_after hget hmeets hbehind
  have hpairwise : (((store.shelf collection).after cursor).matching filter).Pairwise
      (fun a b => (store.shelf collection).Before a.id b.id) :=
    (h collection).pairwise_matching_after cursor
  have hcut := List.take_append_drop (max 1 limit.toNat)
    (((store.shelf collection).after cursor).matching filter)
  rw [← hcut] at hmem hpairwise
  rcases List.mem_append.mp hmem with hpage | hrest
  · exact Or.inl (List.mem_map_of_mem hpage)
  · -- Something was cut off, so the page is full, and it holds at least one document.
    have hfull : (((store.shelf collection).after cursor).matching filter).take
        (max 1 limit.toNat) ≠ [] := by
      have := List.length_pos_of_mem hrest
      rw [List.length_drop] at this
      rw [← List.length_pos_iff, List.length_take]
      omega
    refine Or.inr ⟨_, List.getLast?_eq_some_getLast hfull, ?_⟩
    exact (List.pairwise_append.mp hpairwise).2.2 _ (List.getLast_mem hfull) document hrest

/-! ## Whole scans -/

theorem scan_cons_of_nil {backend : Backend} {store : Store} (h : backend.Serves store)
    {cursor : Option Value} (calls : List StoreCall) (rest : List (List StoreCall))
    (hnil : (store.list collection filter (cursor.map Value.display) limit).documents = []) :
    scan collection filter limit backend cursor (calls :: rest) =
      [⟨backend, .ok (.page (store.list collection filter (cursor.map Value.display) limit))⟩] := by
  rw [scan, h.perform_list]
  generalize store.list collection filter (cursor.map Value.display) limit = page at hnil ⊢
  obtain ⟨documents, next⟩ := page
  obtain rfl : documents = [] := hnil
  rfl

/-- A scan goes on behind the last document of a page. -/
theorem scan_cons_of_last {backend : Backend} {store : Store} (h : backend.Serves store)
    {cursor : Option Value} (calls : List StoreCall) (rest : List (List StoreCall))
    {last : Document}
    (hlast : (store.list collection filter (cursor.map Value.display)
      limit).documents.getLast? = some last) :
    scan collection filter limit backend cursor (calls :: rest) =
      ⟨backend, .ok (.page (store.list collection filter (cursor.map Value.display) limit))⟩ ::
        scan collection filter limit (backend.afterCalls calls) (some (.str last.id)) rest := by
  have hnext : (store.list collection filter (cursor.map Value.display) limit).next =
      some last.id := by
    rw [← Page.of_documents_list, Page.of, hlast, Option.map_some]
  rw [scan, h.perform_list]
  generalize store.list collection filter (cursor.map Value.display) limit = page at hlast hnext ⊢
  obtain ⟨documents, next⟩ := page
  obtain rfl : next = some last.id := hnext
  cases documents with
  | nil => cases hlast
  | cons first more => rfl

/-- What a scan keeps: it fetches one page from a serving backend, and if it goes on, it goes on
behind the last document of that page, on a store that has kept all positions. -/
theorem scan_induction {motive : Store → Option String → List Fetch → Prop}
    (single : ∀ (backend : Backend) (store : Store) (cursor : Option String),
      backend.Serves store →
        motive store cursor [⟨backend, .ok (.page (store.list collection filter cursor limit))⟩])
    (step : ∀ (backend : Backend) (store store' : Store) (cursor : Option String)
      (last : Document) (later : List Fetch), backend.Serves store →
        (store.list collection filter cursor limit).documents.getLast? = some last →
        store.Extends store' → motive store' (some last.id) later →
        motive store cursor
          (⟨backend, .ok (.page (store.list collection filter cursor limit))⟩ :: later))
    {backend : Backend} {store : Store} (h : backend.Serves store) (cursor : Option Value)
    (between : List (List StoreCall)) :
    motive store (cursor.map Value.display)
      (scan collection filter limit backend cursor between) := by
  induction between generalizing backend store cursor with
  | nil =>
      rw [scan, h.perform_list]
      exact single backend store _ h
  | cons calls rest ih =>
      cases hlast : (store.list collection filter (cursor.map Value.display)
          limit).documents.getLast? with
      | none =>
          rw [scan_cons_of_nil h calls rest (List.getLast?_eq_none_iff.mp hlast)]
          exact single backend store _ h
      | some last =>
          obtain ⟨store', hserves, hextends⟩ := h.afterCalls calls
          rw [scan_cons_of_last h calls rest hlast]
          exact step backend store store' _ last _ h hlast hextends
            (ih hserves (some (.str last.id)))

/-- Every fetch of a scan is answered by a page. -/
theorem page_of_mem_scan {backend : Backend} {store : Store} (h : backend.Serves store)
    (cursor : Option Value) (between : List (List StoreCall)) :
    ∀ fetch ∈ scan collection filter limit backend cursor between,
      ∃ page, fetch.outcome = .ok (.page page) := by
  refine scan_induction (motive := fun _ _ fetches =>
    ∀ fetch ∈ fetches, ∃ page, fetch.outcome = .ok (.page page)) ?_ ?_ h cursor between
  · intro backend store cursor hserves fetch hfetch
    exact ⟨_, by rw [List.mem_singleton.mp hfetch]⟩
  · intro backend store store' cursor last later hserves hlast hextends ih fetch hfetch
    rcases List.mem_cons.mp hfetch with rfl | hlater
    · exact ⟨_, rfl⟩
    · exact ih fetch hlater

/-- Everything that is fetched lies behind the cursor that the scan starts from, at a position that
later stores keep. -/
def FetchedBehind (collection : String) (store : Store) (cursor : Option String)
    (fetches : List Fetch) : Prop :=
  ∀ fetch ∈ fetches, ∀ id ∈ fetch.ids, ∃ store' position, store.Extends store' ∧
    (store'.shelf collection).position? id = some position ∧
    ∀ mark, cursor.bind (store.shelf collection).position? = some mark → mark < position

theorem fetchedBehind_page {store : Store} (h : store.Ordered) (backend : Backend)
    (cursor : Option String) :
    FetchedBehind collection store cursor
      [⟨backend, .ok (.page (store.list collection filter cursor limit))⟩] := by
  intro fetch hfetch id hid
  rw [List.mem_singleton.mp hfetch] at hid
  obtain ⟨document, hdocument, rfl⟩ := List.mem_map.mp hid
  obtain ⟨position, hposition, hmark⟩ := h.behind_of_mem_list hdocument
  exact ⟨store, position, .refl store, hposition, hmark⟩

/-- The last document of a page has a position behind the cursor, in every later store. -/
theorem position?_last {store store' : Store} (h : store.Ordered) (hextends : store.Extends store')
    {cursor : Option String} {last : Document}
    (hlast : (store.list collection filter cursor limit).documents.getLast? = some last) :
    ∃ position, (store.shelf collection).position? last.id = some position ∧
      (store'.shelf collection).position? last.id = some position ∧
      ∀ mark, cursor.bind (store.shelf collection).position? = some mark → mark < position := by
  obtain ⟨position, hposition, hmark⟩ := h.behind_of_mem_list (List.mem_of_getLast? hlast)
  exact ⟨position, hposition, hextends _ _ _ hposition, hmark⟩

theorem FetchedBehind.cons {store store' : Store} (h : store.Ordered) (backend : Backend)
    {cursor : Option String} {last : Document} {later : List Fetch}
    (hlast : (store.list collection filter cursor limit).documents.getLast? = some last)
    (hextends : store.Extends store')
    (hlater : FetchedBehind collection store' (some last.id) later) :
    FetchedBehind collection store cursor
      (⟨backend, .ok (.page (store.list collection filter cursor limit))⟩ :: later) := by
  intro fetch hfetch id hid
  rcases List.mem_cons.mp hfetch with rfl | hmem
  · exact fetchedBehind_page h backend cursor _ (List.mem_singleton_self _) id hid
  · obtain ⟨place, -, hplace, hbefore⟩ := position?_last h hextends hlast
    obtain ⟨store'', position, hextends', hposition, hmark⟩ := hlater fetch hmem id hid
    refine ⟨store'', position, hextends.trans hextends', hposition, fun mark hcursor => ?_⟩
    exact Nat.lt_trans (hbefore mark hcursor) (hmark place hplace)

/-- A page holds no id twice. -/
theorem Store.Ordered.nodup_list {store : Store} (h : store.Ordered) (cursor : Option String) :
    ((store.list collection filter cursor limit).documents.map (·.id)).Nodup := by
  have hpairwise : (store.list collection filter cursor limit).documents.Pairwise
      (fun a b => (store.shelf collection).Before a.id b.id) := h.pairwise_list cursor
  refine List.pairwise_map.mpr (hpairwise.imp_of_mem fun hmem _ hbefore hsame => ?_)
  obtain ⟨position, hposition, -⟩ := h.behind_of_mem_list hmem
  have hposition' := hposition
  rw [hsame] at hposition'
  exact Nat.lt_irrefl position (hbefore position position hposition hposition')

/-- Nothing that is fetched later was on the page already. -/
theorem not_mem_later {store store' : Store} (h : store.Ordered) {cursor : Option String}
    {last : Document} {later : List Fetch}
    (hlast : (store.list collection filter cursor limit).documents.getLast? = some last)
    (hextends : store.Extends store')
    (hlater : FetchedBehind collection store' (some last.id) later) {id : String}
    (hid : id ∈ (store.list collection filter cursor limit).documents.map (·.id)) :
    id ∉ later.flatMap Fetch.ids := by
  intro hagain
  obtain ⟨document, hdocument, rfl⟩ := List.mem_map.mp hid
  obtain ⟨fetch, hfetch, hfetched⟩ := List.mem_flatMap.mp hagain
  obtain ⟨store'', position, hextends', hposition, hmark⟩ := hlater fetch hfetch _ hfetched
  obtain ⟨place, hplace, hplace', -⟩ := position?_last h hextends hlast
  obtain ⟨old, hold, -⟩ := h.behind_of_mem_list hdocument
  -- The id still has its old position, which is at most that of the last document of the page.
  have hkept := hextends' _ _ _ (hextends _ _ _ hold)
  have hsame : old = position := Option.some.inj (hkept.symm.trans hposition)
  have hlt : place < position := hmark place hplace'
  rcases h.not_before_last hdocument hlast with rfl | hbefore
  · rw [hold] at hplace
    have := Option.some.inj hplace
    omega
  · have := hbefore old place hold hplace
    omega

/-- A scan fetches strictly behind its cursor, and no id twice. -/
theorem nodup_scan {backend : Backend} {store : Store} (h : backend.Serves store)
    (cursor : Option Value) (between : List (List StoreCall)) :
    FetchedBehind collection store (cursor.map Value.display)
        (scan collection filter limit backend cursor between) ∧
      ((scan collection filter limit backend cursor between).flatMap Fetch.ids).Nodup := by
  refine scan_induction (motive := fun store cursor fetches =>
    FetchedBehind collection store cursor fetches ∧ (fetches.flatMap Fetch.ids).Nodup)
    ?_ ?_ h cursor between
  · intro backend store cursor hserves
    refine ⟨fetchedBehind_page hserves.ordered backend cursor, ?_⟩
    rw [List.flatMap_singleton]
    exact hserves.ordered.nodup_list cursor
  · intro backend store store' cursor last later hserves hlast hextends ⟨hlater, hnodup⟩
    refine ⟨hlater.cons hserves.ordered backend hlast hextends, ?_⟩
    rw [List.flatMap_cons, List.nodup_append]
    refine ⟨hserves.ordered.nodup_list cursor, hnodup, ?_⟩
    rintro id hid _ hagain rfl
    exact not_mem_later hserves.ordered hlast hextends hlater hid hagain

/-- A scan that came to an empty page has fetched every id behind its cursor that was there at each
of its fetches. -/
theorem mem_scan_of_present {backend : Backend} {store : Store} (h : backend.Serves store)
    (cursor : Option Value) (between : List (List StoreCall)) :
    (∃ fetch ∈ scan collection filter limit backend cursor between, fetch.documents = []) →
      ∀ id, (store.shelf collection).Behind (cursor.map Value.display) id →
        (∀ fetch ∈ scan collection filter limit backend cursor between,
          fetch.Present collection filter id) →
        id ∈ (scan collection filter limit backend cursor between).flatMap Fetch.ids := by
  refine scan_induction (motive := fun store cursor fetches =>
    (∃ fetch ∈ fetches, fetch.documents = []) →
      ∀ id, (store.shelf collection).Behind cursor id →
        (∀ fetch ∈ fetches, fetch.Present collection filter id) →
        id ∈ fetches.flatMap Fetch.ids) ?_ ?_ h cursor between
  · intro backend store cursor hserves hempty id hbehind hpresent
    obtain ⟨fetch, hfetch, hnone⟩ := hempty
    obtain ⟨document, hget, hmeets⟩ :=
      (hpresent _ (List.mem_singleton_self _)).exists_get? hserves.held
    rw [List.flatMap_singleton]
    rcases hserves.ordered.mem_list_or_behind hget hmeets hbehind with hmem | ⟨last, hlast, -⟩
    · exact hmem
    · rw [List.mem_singleton.mp hfetch, Fetch.documents_page] at hnone
      rw [hnone] at hlast
      cases hlast
  · intro backend store store' cursor last later hserves hlast hextends ih hempty id hbehind
      hpresent
    obtain ⟨document, hget, hmeets⟩ :=
      (hpresent _ List.mem_cons_self).exists_get? hserves.held
    rw [List.flatMap_cons, List.mem_append]
    rcases hserves.ordered.mem_list_or_behind hget hmeets hbehind with hmem | ⟨end_, hend, hbefore⟩
    · exact Or.inl hmem
    · obtain rfl := Option.some.inj (hlast.symm.trans hend)
      obtain ⟨position, hposition, -⟩ := hbehind
      obtain ⟨place, hplace, hplace', -⟩ := position?_last hserves.ordered hextends hlast
      refine Or.inr (ih ?_ id ⟨position, hextends _ _ _ hposition, ?_⟩ ?_)
      · obtain ⟨fetch, hfetch, hnone⟩ := hempty
        rcases List.mem_cons.mp hfetch with rfl | hlater
        · rw [Fetch.documents_page] at hnone
          rw [hnone] at hlast
          cases hlast
        · exact ⟨fetch, hlater, hnone⟩
      · intro mark hmark
        obtain rfl := Option.some.inj (hplace'.symm.trans hmark)
        exact hbefore place position hplace hposition
      · exact fun fetch hlater => hpresent fetch (List.mem_cons_of_mem _ hlater)

/-- A document that is there has a position. -/
theorem Store.exists_position? {store : Store} {id : String} {document : Document}
    (hget : store.get? collection id = some document) :
    ∃ position, (store.shelf collection).position? id = some position := by
  obtain ⟨fields, hfields, -⟩ := Option.map_eq_some_iff.mp hget
  obtain ⟨slot, hslot, -⟩ := Option.bind_eq_some_iff.mp hfields
  exact ⟨slot.position, by rw [Shelf.position?, hslot, Option.map_some]⟩

/-- A scan starts at the backend that is asked first. -/
theorem head_mem_scan (backend : Backend) (cursor : Option Value)
    (between : List (List StoreCall)) :
    ∃ fetch ∈ scan collection filter limit backend cursor between, fetch.backend = backend := by
  cases between <;> exact ⟨_, List.mem_cons_self, rfl⟩

end Scan

/-- A scan from the start, with any calls between its fetches, is answered by a page each time and
gives no id twice; once it has come to an empty page it has given every document that was there and
met the condition at each fetch, and given it once. -/
theorem scan_returns_once {backend : Backend} {store : Store}
    (hstore : backend.store = some store) (hreachable : store.Reachable)
    (hopen : store.isOpen = true) (hlisting : backend.failures.lookup "list" = none)
    (collection : String) (filter : Option Filter) (limit : Int)
    (between : List (List StoreCall)) :
    (∀ fetch ∈ scan collection filter limit backend none between,
      ∃ page, fetch.outcome = .ok (.page page)) ∧
    ((scan collection filter limit backend none between).flatMap Fetch.ids).Nodup ∧
    ((∃ fetch ∈ scan collection filter limit backend none between, fetch.documents = []) →
      ∀ id, (∀ fetch ∈ scan collection filter limit backend none between,
          fetch.Present collection filter id) →
        ((scan collection filter limit backend none between).flatMap Fetch.ids).count id = 1) := by
  have hserves : backend.Serves store := ⟨hstore, hopen, hlisting, hreachable.ordered⟩
  have hnodup : ((scan collection filter limit backend none between).flatMap Fetch.ids).Nodup :=
    (nodup_scan hserves none between).2
  refine ⟨page_of_mem_scan hserves none between, hnodup, fun hempty id hpresent => ?_⟩
  refine List.count_eq_one_of_mem hnodup (mem_scan_of_present hserves none between hempty id ?_
    hpresent)
  obtain ⟨first, hfirst, hbackend⟩ := head_mem_scan backend none between
  obtain ⟨document, hget, -⟩ := (hpresent first hfirst).exists_get? (hbackend ▸ hstore)
  obtain ⟨position, hposition⟩ := Store.exists_position? hget
  exact ⟨position, hposition, fun mark hmark => by cases hmark⟩

/-- The document under a cursor is deleted and its id used again, then the next one is deleted too:
the document that stays is given once. -/
theorem scan_returns_once_after_deletions :
    ((scan "items" none 1
      ⟨some (.ofData [("items", [("a", []), ("b", []), ("c", [])])]), [], ⟨["a"], 0⟩⟩ none
      [[.delete "items" (some "a"), .create "items" []], [.delete "items" (some "b")],
        [.update "items" (some "c") [("n", .int 1)]], []]).flatMap Fetch.ids).count "c" = 1 :=
  (scan_returns_once rfl (.seeded [("items", [("a", []), ("b", []), ("c", [])])]) rfl rfl
    "items" none 1
    [[.delete "items" (some "a"), .create "items" []], [.delete "items" (some "b")],
      [.update "items" (some "c") [("n", .int 1)]], []]).2.2 (by decide) "c" (by decide)

end DocConsole
