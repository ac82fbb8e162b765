import DocConsole.Proofs.Edit.Changes

/-!
# The table beside the store

The rows of a listing are a copy of documents, and changes are made to both: to the rows by one
function, to the store by another.  The copy is right when each row reads as its document would be
shown, and no two rows are of one document.  Main statement: a listing that was just executed is
such a copy, and stays one through any row of successful changes.
-/

set_option autoImplicit false

namespace DocConsole

/-! ## Rows that mirror documents -/

/-- A row reads, name by name, as the row of the document that is stored under its id. -/
def Store.MirroredBy (store : Store) (collection : String) (row : Fields) : Prop :=
  ∃ id document, Fields.get? row "id" = some (.str id) ∧
    store.get? collection id = some document ∧
    ∀ name, Fields.get? row name = Fields.get? document.row name

/-- Rows mirror a collection: each of them reads as a stored document, no two as the same one. -/
structure Mirrors (store : Store) (collection : String) (rows : List Fields) : Prop where
  stored : ∀ row ∈ rows, store.MirroredBy collection row
  distinct : (rows.map (fun row => Fields.get? row "id")).Nodup

namespace Store

variable {store store' : Store} {collection id : String}

/-- A document of a collection is the one that is found under its id. -/
theorem Ordered.get?_of_mem (h : store.Ordered) {document : Document}
    (hmem : document ∈ store.documents collection) :
    store.get? collection document.id = some document := by
  obtain ⟨slot, hslot, hdocument⟩ := List.mem_filterMap.mp hmem
  obtain ⟨fields, hfields, rfl⟩ := Option.map_eq_some_iff.mp hdocument
  rw [get?, Shelf.get?, (h collection).slot?_of_mem hslot, Option.bind_some, hfields]
  rfl

/-- A page holds documents of the collection, in their order. -/
theorem documents_list_sublist (store : Store) (collection : String) (filter : Option Filter)
    (cursor : Option String) (limit : Int) :
    (store.list collection filter cursor limit).documents.Sublist (store.documents collection) := by
  have hafter : (Shelf.after (store.shelf collection) cursor).Sublist (store.shelf collection) := by
    unfold Shelf.after
    split
    · exact .refl _
    · split
      · exact List.filter_sublist
      · exact .refl _
  exact (List.take_sublist _ _).trans (List.filter_sublist.trans (hafter.filterMap _))

/-- The rows of documents in the order of their collection mirror it. -/
theorem Ordered.mirrors (h : store.Ordered) {documents : List Document}
    (hsublist : documents.Sublist (store.documents collection)) :
    Mirrors store collection (documents.map Document.row) where
  stored row hrow := by
    obtain ⟨document, hmem, rfl⟩ := List.mem_map.mp hrow
    exact ⟨document.id, document, get?_row document, h.get?_of_mem (hsublist.subset hmem),
      fun _ => rfl⟩
  distinct := by
    have hids : (documents.map Document.row).map (fun row => Fields.get? row "id") =
        (documents.map (·.id)).map (fun id => some (Value.str id)) := by
      rw [List.map_map, List.map_map]
      exact List.map_congr_left fun document _ => get?_row document
    rw [hids]
    refine ((h.nodup_documents collection).sublist (hsublist.map _)).map fun id id' hid => ?_
    exact Value.str.inj (Option.some.inj hid)

end Store

/-! ## Rows and documents changed alike -/

theorem Fields.Assigned.get?_eq {name : String} {value : Value} {fields fields' : Fields}
    (h : Fields.Assigned name value fields fields') (name' : String) :
    Fields.get? fields' name' = if name' = name then some value else Fields.get? fields name' := by
  by_cases hname : name' = name
  · rw [if_pos hname, hname, h.holds]
  · rw [if_neg hname, h.others name' hname]

/-- A row takes a field other than the id as its document does. -/
theorem Document.get?_row_of_assigned {id name : String} {value : Value} {fields fields' : Fields}
    (h : Fields.Assigned name value fields fields') (hname : name ≠ "id") (name' : String) :
    Fields.get? (Document.row ⟨id, fields'⟩) name' =
      if name' = name then some value else Fields.get? (Document.row ⟨id, fields⟩) name' := by
  rw [row, row, Fields.get?_set, Fields.get?_set, h.get?_eq]
  by_cases hid : name' = "id"
  · subst hid
    rw [if_pos rfl, if_neg hname.symm, if_pos rfl]
  · rw [if_neg hid, if_neg hid]

section Change

variable {store store' : Store} {collection id field : String} {value : Value}
variable {row row' : Fields} {rows rows' : List Fields}

/-- An edited row keeps its id. -/
theorem RowEdited.get?_id (h : RowEdited id field value row row') (hfield : field ≠ "id") :
    Fields.get? row' "id" = Fields.get? row "id" := by
  by_cases hid : Fields.get? row "id" = some (.str id)
  · exact (h.edited hid).others "id" hfield.symm
  · rw [h.kept hid]

/-- A row that is edited along with the document of the id still reads as its document. -/
theorem Store.MirroredBy.edited (h : store.MirroredBy collection row) (hfield : field ≠ "id")
    (hset : store.FieldSet collection id field value store')
    (hrow : RowEdited id field value row row') : store'.MirroredBy collection row' := by
  obtain ⟨id', document, hid', hget, hreads⟩ := h
  refine ⟨id', ?_⟩
  rw [hrow.get?_id hfield]
  -- The row of the id changes exactly where its document does; no other row and document change.
  by_cases hsame : id' = id
  · subst hsame
    obtain ⟨fields, fields', hbefore, hafter, hassigned⟩ := hset.there
    obtain rfl := Option.some.inj (hget.symm.trans hbefore)
    refine ⟨⟨id', fields'⟩, hid', hafter, fun name => ?_⟩
    rw [(hrow.edited hid').get?_eq, hreads, Document.get?_row_of_assigned hassigned hfield]
  · have hother : Fields.get? row "id" ≠ some (.str id) := by
      rw [hid']
      exact fun h => hsame (Value.str.inj (Option.some.inj h))
    rw [hrow.kept hother]
    exact ⟨document, hid', (hset.others id' hsame).trans hget, hreads⟩

/-- An edit made to the rows and to the document keeps the mirror. -/
theorem Mirrors.edited (h : Mirrors store collection rows) (hfield : field ≠ "id")
    (hset : store.FieldSet collection id field value store')
    (hrows : List.Forall₂ (RowEdited id field value) rows rows') :
    Mirrors store' collection rows' where
  stored := by
    have hstored := h.stored
    -- The ids being distinct is no hypothesis of this induction: it says nothing of a tail.
    clear h
    induction hrows with
    | nil => exact fun row hrow => by cases hrow
    | cons hrow _ ih =>
        obtain ⟨hfirst, hrest⟩ := List.forall_mem_cons.mp hstored
        exact List.forall_mem_cons.mpr ⟨hfirst.edited hfield hset hrow, ih hrest⟩
  distinct := by
    have hids : rows'.map (fun row => Fields.get? row "id") =
        rows.map (fun row => Fields.get? row "id") := by
      clear h
      induction hrows with
      | nil => rfl
      | cons hrow _ ih => rw [List.map_cons, List.map_cons, hrow.get?_id hfield, ih]
    rw [hids]
    exact h.distinct

/-- A new document with its row in front keeps the mirror, whatever id its fields may bring. -/
theorem Mirrors.inserted {fields : Fields} (h : Mirrors store collection rows)
    (hfresh : store.get? collection id = none)
    (hadded : store.DocumentAdded collection id fields store')
    (hrow : Fields.Assigned "id" (.str id) fields row) :
    Mirrors store' collection (row :: rows) where
  stored := by
    refine List.forall_mem_cons.mpr ⟨⟨id, ⟨id, fields⟩, hrow.holds, hadded.found, ?_⟩, ?_⟩
    · intro name
      rw [hrow.get?_eq, Document.row, Fields.get?_set]
    · intro row' hrow'
      obtain ⟨id', document, hid', hget, hreads⟩ := h.stored row' hrow'
      have hother : id' ≠ id := by
        rintro rfl
        cases hget.symm.trans hfresh
      exact ⟨id', document, hid', (hadded.others id' hother).trans hget, hreads⟩
  distinct := by
    rw [List.map_cons, List.nodup_cons]
    refine ⟨fun hmem => ?_, h.distinct⟩
    obtain ⟨row', hrow', hid⟩ := List.mem_map.mp hmem
    obtain ⟨id', document, hid', hget, -⟩ := h.stored row' hrow'
    obtain rfl := Value.str.inj (Option.some.inj (hid'.symm.trans (hid.trans hrow.holds)))
    cases hget.symm.trans hfresh

end Change

/-! ## Listings just executed -/

/-- A listing that was executed without a failure mirrors the store. -/
theorem Command.mirrors_of_execute {backend : Backend} (hreachable : backend.Reachable)
    {collection : String} {filter : Option Filter} {cursor : Option Value} {pageSize : Int}
    (hread : ((Command.select collection filter).execute cursor pageSize backend).1.type = .read) :
    ∃ store, backend.store = some store ∧
      ((Command.select collection filter).execute cursor pageSize backend).1.collection =
        some collection ∧
      Mirrors store collection
        ((Command.select collection filter).execute cursor pageSize backend).1.rows := by
  cases hconnected : backend.connected with
  | false =>
      simp only [execute, hconnected] at hread
      cases hread
  | true =>
      obtain ⟨store, hstore⟩ := Backend.exists_store_of_connected hconnected
      rcases Backend.perform_cases hstore (.list collection filter cursor pageSize) with
        ⟨fault, hperform⟩ | ⟨-, hperform⟩
      · simp only [execute, hconnected, if_true, firstCall, hperform, resume] at hread
        cases hread
      · simp only [execute, hconnected, if_true, firstCall, hperform, resume]
        exact ⟨store, hstore, rfl,
          (hreachable store hstore).ordered.mirrors (store.documents_list_sublist _ _ _ _)⟩

/-! ## Rows of changes -/

/-- The next id names no document of a collection. -/
def Backend.DrawsFresh (backend : Backend) (collection : String) : Prop :=
  ∀ store, backend.store = some store → store.get? collection backend.ids.draw.1 = none

/-- Edits and insertions that succeed, one after the other; a new document comes under an id that no
document of the collection has. -/
inductive Console.Changes (collection : String) : Console → Console → Prop
  /-- Nothing was changed yet. -/
  | refl (c : Console) : Changes collection c c
  /-- One more change succeeds. -/
  | step {c c' : Console} {action : Action} {kind : Change} {answer : Answer}
      (h : Changes collection c c') (hkind : action.change? = some kind)
      (hfresh : kind = .insert → c'.backend.DrawsFresh collection)
      (hanswer : (c'.act action).2.finished = [(c'.actions, .ok answer)]) :
      Changes collection c (c'.act action).1

/-- A result is on display, perhaps with other rows, and these mirror the store. -/
structure Console.InStep (c : Console) (shown : Display) (collection : String) : Prop where
  about : shown.result.collection = some collection
  gateless : c.holding = false
  reachable : c.backend.Reachable
  mirrored : ∃ rows store,
    c.session.displayed = some { shown with result := { shown.result with rows := rows } } ∧
      c.backend.store = some store ∧ Mirrors store collection rows

namespace Console

theorem reachable_carryOn (c : Console) (action : Nat) (reaction : Reaction)
    (h : c.backend.Reachable) : (c.carryOn action reaction).1.backend.Reachable := by
  fun_induction carryOn c action reaction with
  | case1 c answer => exact h
  | case2 c call job answered c' hheld => exact h.perform call
  | case3 c call job answered c' hheld next rest ih => exact ih (h.perform call)

variable {c c' : Console} {shown : Display} {collection : String}

/-- A change that is done keeps rows and store in step. -/
theorem InStep.leaves (h : c.InStep shown collection) {action : Action} {effect : ChangeEffect}
    (hends : ChangeEnds c.session c.backend (.ok action) .done effect)
    (hfresh : action.change? = some .insert → c.backend.DrawsFresh collection) :
    ∃ rows store,
      effect.session.displayed = some { shown with result := { shown.result with rows := rows } } ∧
        effect.backend.store = some store ∧ Mirrors store collection rows := by
  obtain ⟨rows, store, hdisplayed, hstore, hmirrors⟩ := h.mirrored
  cases hends with
  | editDone hshown hfield _ hstore' hset hrows =>
      obtain rfl := Option.some.inj (hshown.displayed.symm.trans hdisplayed)
      obtain rfl := Option.some.inj (hshown.about.symm.trans h.about)
      obtain rfl := Option.some.inj (hstore'.symm.trans hstore)
      exact ⟨_, _, hshown.displayed_changed _ _ _, rfl, hmirrors.edited hfield hset hrows⟩
  | insertDone hshown _ hstore' hadded hrow =>
      obtain rfl := Option.some.inj (hshown.displayed.symm.trans hdisplayed)
      obtain rfl := Option.some.inj (hshown.about.symm.trans h.about)
      obtain rfl := Option.some.inj (hstore'.symm.trans hstore)
      exact ⟨_, _, hshown.displayed_changed _ _ _, rfl,
        hmirrors.inserted (hfresh rfl _ hstore) hadded hrow⟩

/-- One successful change keeps rows and store in step. -/
theorem InStep.act (h : c.InStep shown collection) {action : Action} {kind : Change}
    {answer : Answer} (hkind : action.change? = some kind)
    (hfresh : kind = .insert → c.backend.DrawsFresh collection)
    (hanswer : (c.act action).2.finished = [(c.actions, .ok answer)]) :
    (c.act action).1.InStep shown collection := by
  obtain ⟨ending, effect, hends, hact⟩ := exists_changeEnds h.gateless h.reachable hkind
  have hdone : effect.answer = .ok answer := by
    rw [hact, Console.leaves] at hanswer
    exact congrArg Prod.snd (List.cons.inj hanswer).1
  have hending : ending = .done := by rw [hends.ending_eq, hdone, ChangeEnd.ofAnswer]
  subst hending
  have hreachable : (c.act action).1.backend.Reachable := reachable_carryOn _ _ _ h.reachable
  rw [hact] at hreachable ⊢
  refine ⟨h.about, h.gateless, hreachable, h.leaves hends fun hinsert => hfresh ?_⟩
  exact Option.some.inj (hkind.symm.trans hinsert)

/-- An edit that succeeds gives nothing back. -/
theorem Changes.edit (h : Changes collection c c') {id field : String} {value : Value}
    (hanswer : (c'.act (.edit id field value)).2.finished = [(c'.actions, .ok .nothing)]) :
    Changes collection c (c'.act (.edit id field value)).1 :=
  h.step rfl (fun hinsert => nomatch hinsert) hanswer

/-- An insertion that succeeds gives back the new row. -/
theorem Changes.insert (h : Changes collection c c') {fields : Fields} (row : Fields)
    (hfresh : c'.backend.DrawsFresh collection)
    (hanswer : (c'.act (.insert fields)).2.finished = [(c'.actions, .ok (.row row))]) :
    Changes collection c (c'.act (.insert fields)).1 :=
  h.step rfl (fun _ => hfresh) hanswer

/-- Successful changes, as many as there are, keep rows and store in step. -/
theorem Changes.inStep (h : Changes collection c c') (hinStep : c.InStep shown collection) :
    c'.InStep shown collection := by
  induction h with
  | refl => exact hinStep
  | step _ hkind hfresh hanswer ih => exact ih.act hkind hfresh hanswer

end Console

/-- The table equals what reading it anew would show.  After a listing was executed and put on
display, and after any number of successful edits and insertions, of documents that are shown or
not, each row still reads as the document now stored under its id, no two rows have one id, and
nothing but the rows of the result has changed, so that it has the columns it had. -/
theorem table_mirrors_store {c c' : Console} {shown : Display} {collection : String}
    {filter : Option Filter} {cursor : Option Value} {pageSize : Int} (hopen : c.holding = false)
    (hreachable : c.backend.Reachable) (hdisplayed : c.session.displayed = some shown)
    (hexecuted : shown.result =
      ((Command.select collection filter).execute cursor pageSize c.backend).1)
    (hread : shown.result.type = .read) (hchanges : Console.Changes collection c c') :
    ∃ rows store,
      c'.session.displayed = some { shown with result := { shown.result with rows := rows } } ∧
        c'.backend.store = some store ∧ Mirrors store collection rows := by
  rw [hexecuted] at hread
  obtain ⟨store, hstore, habout, hmirrors⟩ := Command.mirrors_of_execute hreachable hread
  rw [← hexecuted] at habout hmirrors
  have hinStep : c.InStep shown collection :=
    ⟨habout, hopen, hreachable, _, store, hdisplayed, hstore, hmirrors⟩
  exact (hchanges.inStep hinStep).mirrored

/-- A store with two items, and ids in line for new ones. -/
def twoItems : Backend :=
  ⟨some (.ofData [("items", [("a", [("n", .int 1)]), ("b", [])])]), [], ⟨["c"], 0⟩⟩

/-- The first page of the items, one item long. -/
def firstItem : Display :=
  ⟨0, ((Command.select "items" none).execute none 1 twoItems).1⟩

/-- A console that shows this page. -/
def itemConsole : Console :=
  .initial { Session.initial 1 true with displayed := some firstItem, nextTicket := 1 } twoItems

/-- The console after a row of actions. -/
def Console.acts (c : Console) (actions : List Action) : Console :=
  actions.foldl (fun c action => (c.act action).1) c

/-- A new item whose fields bring another id, an edit of the item that is not shown, and edits of
the two that are. -/
def itemChanges : List Action :=
  [.insert [("id", .str "b"), ("n", .int 3)], .edit "b" "n" (.int 2), .edit "a" "m" .null,
    .edit "c" "n" (.str "")]

/-- After these changes the table still mirrors the store. -/
theorem changed_items_mirror_store :
    (∃ rows store,
      (itemConsole.acts itemChanges).session.displayed =
          some { firstItem with result := { firstItem.result with rows := rows } } ∧
        (itemConsole.acts itemChanges).backend.store = some store ∧
          Mirrors store "items" rows) ∧
      (itemConsole.acts itemChanges).session.result.map (·.rows) =
        some [[("id", .str "c"), ("n", .str "")],
          [("n", .int 1), ("id", .str "a"), ("m", .null)]] := by
  have hreachable : itemConsole.backend.Reachable := by
    intro store hstore
    obtain rfl := Option.some.inj hstore
    exact .seeded _
  have hfresh : itemConsole.backend.DrawsFresh "items" := by
    intro store hstore
    obtain rfl := Option.some.inj hstore
    decide +kernel
  have hchanges : Console.Changes "items" itemConsole (itemConsole.acts itemChanges) := by
    have hinserted : Console.Changes "items" itemConsole (itemConsole.acts (itemChanges.take 1)) :=
      .insert (.refl itemConsole) [("id", .str "c"), ("n", .int 3)] hfresh (by decide +kernel)
    exact ((hinserted.edit (by decide +kernel)).edit (by decide +kernel)).edit (by decide +kernel)
  refine ⟨table_mirrors_store rfl hreachable rfl rfl ?_ hchanges, ?_⟩
  · decide +kernel
  · decide +kernel

end DocConsole
