import DocConsole.Database.Snapshot
import Mathlib.Data.List.Forall2
import Mathlib.Data.List.Nodup

/-!
# Addressing documents by the ids they are listed with

A listing gives out every id as a text, and every look-up takes a text for the id of a document: as
an object id where the library of the database takes it for one, and as itself otherwise.  Main
statement: whatever texts that library takes for object ids, a document that was listed is found
again under its id by every call, and a listing goes on behind it, if it is kept under an object id
or under a text that is not taken for one.  Under any other id it is looked up as what its text
stands for.
-/

set_option autoImplicit false

namespace DocConsole

open Text

/-! ## Object ids -/

namespace ObjectId

variable {text hex : String}

/-- An object id as a database writes it: 24 hexadecimal digits in lower case. -/
def IsWritten (hex : String) : Prop :=
  hex.toList.length = textLength ∧ hex.toList.all ("0123456789abcdef".toList.contains ·) = true

instance (hex : String) : Decidable (IsWritten hex) :=
  inferInstanceAs (Decidable (_ ∧ _))

/-- An object id as it is written names itself. -/
theorem IsWritten.read?_eq (h : IsWritten hex) (reading : Reading) :
    reading.read? hex = some hex := by
  have hall : "0123456789abcdef".toList.all (fun c => isHexDigit c && lowerAscii c == c) =
      true := by decide
  have hdigit : ∀ c ∈ hex.toList, isHexDigit c = true ∧ lowerAscii c = c := by
    intro c hc
    have hmem := List.contains_iff_mem.mp (List.all_eq_true.mp h.2 c hc)
    have hc' := List.all_eq_true.mp hall c hmem
    rwa [Bool.and_eq_true, beq_iff_eq] at hc'
  have hlower : lowerDigits hex = hex := by
    rw [lowerDigits, List.map_congr_left fun c hc => (hdigit c hc).2, List.map_id',
      String.ofList_toList]
  rw [reading.read?_of_isDigits ⟨h.1, List.all_eq_true.mpr fun c hc => (hdigit c hc).1⟩, hlower]

/-- A text of another length names no object id. -/
theorem Reading.read?_eq_none (reading : Reading) (h : text.toList.length ≠ textLength) :
    reading.read? text = none := by
  rw [Option.eq_none_iff_forall_ne_some]
  intro hex hread
  exact h (reading.names_of_read? hread).1

end ObjectId

/-! ## Ids as they are looked up -/

section

variable {reading : ObjectId.Reading}

theorem Value.asStoredId_of_read? {text hex : String} (h : reading.read? text = some hex) :
    (Value.str text).asStoredId reading = .objectId hex := by
  rw [asStoredId, h]

theorem Value.asStoredId_of_read?_eq_none {text : String} (h : reading.read? text = none) :
    (Value.str text).asStoredId reading = .str text := by
  rw [asStoredId, h]

/-- What an id is looked up as: a text that is taken for an object id as that object id, any other
text as it stands. -/
inductive IsKeyOf (reading : ObjectId.Reading) (id : String) : Value → Prop where
  | objectId {hex : String} (hread : reading.read? id = some hex) (h : ObjectId.Names id hex) :
      IsKeyOf reading id (.objectId hex)
  | text (h : reading.read? id = none) : IsKeyOf reading id (.str id)

theorem isKeyOf_asStoredId (reading : ObjectId.Reading) (id : String) :
    IsKeyOf reading id ((Value.str id).asStoredId reading) := by
  cases hread : reading.read? id with
  | none =>
      rw [Value.asStoredId_of_read?_eq_none hread]
      exact .text hread
  | some hex =>
      rw [Value.asStoredId_of_read? hread]
      exact .objectId hread (reading.names_of_read? hread)

/-- The ids that stay what they are when they are given out as texts and looked up again, as the
values that are looked up. -/
inductive Bson.StaysKey (reading : ObjectId.Reading) : Bson → Value → Prop where
  | objectId (hex : String) (h : ObjectId.IsWritten hex) :
      StaysKey reading (.objectId hex) (.objectId hex)
  | text (s : String) (h : reading.read? s = none) : StaysKey reading (.str s) (.str s)

end

namespace Bson.StaysKey

variable {reading : ObjectId.Reading} {id : Bson} {key : Value}

theorem asStoredId_eq (h : id.StaysKey reading key) :
    (Value.str id.display).asStoredId reading = key := by
  cases h with
  | objectId hex hwritten => exact Value.asStoredId_of_read? (hwritten.read?_eq reading)
  | text s hother => exact Value.asStoredId_of_read?_eq_none hother

/-- Only the documents kept under such an id are looked up with it. -/
theorem hasId_iff (h : id.StaysKey reading key) (r : StoredDocument) :
    r.hasId key = true ↔ r.id? = some id := by
  cases h with
  | objectId hex _ =>
      unfold StoredDocument.hasId
      split
      · rename_i hkey _
        cases hkey
      · rename_i hkey hid
        cases hkey
        rw [hid, beq_iff_eq, Option.some.injEq, Bson.objectId.injEq, eq_comm]
      · rename_i hother
        exact ⟨fun heq => (by cases heq), fun hid => absurd hid (hother _ _ rfl)⟩
  | text s _ =>
      unfold StoredDocument.hasId
      split
      · rename_i hkey hid
        cases hkey
        rw [hid, beq_iff_eq, Option.some.injEq, Bson.str.injEq, eq_comm]
      · rename_i hkey _
        cases hkey
      · rename_i hother _
        exact ⟨fun heq => (by cases heq), fun hid => absurd hid (hother _ _ rfl)⟩

end Bson.StaysKey

/-! ## Listings -/

theorem StoredDocument.forall₂_of_toDocuments {rs : List StoredDocument} {ds : List Document}
    (h : toDocuments rs = .ok ds) : List.Forall₂ (fun r d => r.toDocument = .ok d) rs ds := by
  induction rs generalizing ds with
  | nil =>
      cases h
      exact .nil
  | cons r rs ih =>
      rw [toDocuments] at h
      split at h
      · cases h
      · cases h
      · rename_i hdocument hdocuments
        cases h
        exact .cons hdocument (ih hdocuments)

theorem StoredDocument.exists_id_of_toDocument {r : StoredDocument} {d : Document}
    (h : r.toDocument = .ok d) : ∃ id, r.id? = some id ∧ d.id = id.display := by
  unfold toDocument at h
  split at h
  · cases h
  · rename_i id hid
    dsimp only at h
    split at h
    · cases h
      exact ⟨id, hid, rfl⟩
    · cases h

namespace Snapshot

variable {s : Snapshot} {collection : String}

/-- Every document is kept under an id of its own. -/
def IsKeyed (s : Snapshot) : Prop :=
  (s.documents.map StoredDocument.id?).Nodup

/-- Every call that names a document by the id looks up the key, and a listing with the id as its
cursor asks for what comes after the key. -/
structure LooksUp (s : Snapshot) (collection id : String) (key : Value) : Prop where
  get : (s.perform (.get collection (some id))).calls =
    [.openNamed collection, .findOne [("_id", key)] none]
  update : ∀ fields, (s.perform (.update collection (some id) fields)).calls =
    [.openNamed collection,
      if fields.isEmpty then .findOne [("_id", key)] (some [("_id", .int 1)])
      else .updateOne [("_id", key)] [("$set", .obj fields)]]
  delete : (s.perform (.delete collection (some id))).calls =
    [.openNamed collection, .deleteOne [("_id", key)]]
  list : ∀ filter limit, (s.perform (.list collection filter (some (.str id)) limit)).calls =
    [.openNamed collection,
      .find (conjunction
        ((filter.map (Filter.clause s.reading)).toList ++ [[("_id", .obj [("$gt", key)])]])),
      .sort "_id", .limit limit, .take limit]

/-- The document is the one that is found under its id, to be read and to be changed. -/
structure Finds (s : Snapshot) (collection : String) (d : Document) : Prop where
  get : (s.perform (.get collection (some d.id))).outcome = .ok (.found (some d))
  update : ∀ fields, (s.perform (.update collection (some d.id) fields)).outcome = .ok .done
  delete : (s.perform (.delete collection (some d.id))).outcome = .ok .done

theorem looksUp_asStoredId (hopen : s.isOpen = true) (collection id : String) :
    s.LooksUp collection id ((Value.str id).asStoredId s.reading) := by
  constructor <;> intros <;> rw [perform, if_pos hopen] <;> rfl

theorem mem_of_mem_firstDocuments {limit : Int} {r : StoredDocument}
    (h : r ∈ s.firstDocuments limit) : r ∈ s.documents := by
  unfold firstDocuments at h
  split at h
  · exact List.mem_of_mem_take h
  · exact List.mem_of_mem_take h

/-- A document is found under its own id, if that stays what it is. -/
theorem IsKeyed.find?_eq (h : s.IsKeyed) {r : StoredDocument} {id : Bson} {key : Value}
    (hr : r ∈ s.documents) (hid : r.id? = some id)
    (hkey : id.StaysKey s.reading key) : s.find? id.display = some r := by
  rw [Snapshot.find?, hkey.asStoredId_eq]
  cases hfind : s.documents.find? (StoredDocument.hasId key) with
  | none => exact absurd ((hkey.hasId_iff r).mpr hid) (List.find?_eq_none.mp hfind r hr)
  | some found =>
      have hfound : found.id? = some id := (hkey.hasId_iff found).mp (List.find?_some hfind)
      exact congrArg some (List.inj_on_of_nodup_map h (List.mem_of_find?_eq_some hfind) hr
        (hfound.trans hid.symm))

theorem IsKeyed.finds (h : s.IsKeyed) (hopen : s.isOpen = true) {r : StoredDocument}
    {d : Document} {id : Bson} {key : Value} (hr : r ∈ s.documents) (hd : r.toDocument = .ok d)
    (hid : r.id? = some id) (hkey : id.StaysKey s.reading key) : s.Finds collection d := by
  obtain ⟨id', hid', hdisplay⟩ := StoredDocument.exists_id_of_toDocument hd
  obtain rfl : id = id' := Option.some.inj (hid.symm.trans hid')
  have hfind : s.find? d.id = some r := hdisplay ▸ h.find?_eq hr hid hkey
  refine ⟨?_, fun fields => ?_, ?_⟩
  · rw [perform, if_pos hopen]
    show (s.get collection d.id).outcome = _
    simp only [Snapshot.get, hfind, hd, Except.map]
  · rw [perform, if_pos hopen]
    show s.changed collection d.id = _
    rw [changed, hfind]
    rfl
  · rw [perform, if_pos hopen]
    rfl

/-- The documents of a page are those of the database in order.  Each of them is looked up, under
the id it was listed with, by one key, by every call that names a document and as a cursor: by an
object id if the id it was listed with is taken for one, and by that text otherwise.  If it is kept
under an object id or under a text that is not taken for one, the key is the id it is kept under,
and it is the document that is found. -/
theorem listed_documents_are_addressed (hopen : s.isOpen = true) (hkeyed : s.IsKeyed)
    {filter : Option Filter} {cursor : Option Value} {limit : Int} {page : Page}
    (hlist : (s.perform (.list collection filter cursor limit)).outcome = .ok (.page page)) :
    List.Forall₂ (fun r d =>
        r.toDocument = .ok d ∧
        (∃ key, IsKeyOf s.reading d.id key ∧ s.LooksUp collection d.id key) ∧
        ∀ id key, r.id? = some id → id.StaysKey s.reading key →
          s.LooksUp collection d.id key ∧ s.Finds collection d)
      (s.firstDocuments limit) page.documents := by
  have hpage : ∃ ds, StoredDocument.toDocuments (s.firstDocuments limit) = .ok ds ∧
      page.documents = ds := by
    rw [perform, if_pos hopen] at hlist
    change (StoredDocument.toDocuments (s.firstDocuments limit)).map _ = _ at hlist
    cases hdocuments : StoredDocument.toDocuments (s.firstDocuments limit) with
    | error fault =>
        rw [hdocuments] at hlist
        cases hlist
    | ok ds =>
        rw [hdocuments] at hlist
        cases hlist
        exact ⟨ds, rfl, rfl⟩
  obtain ⟨ds, hdocuments, rfl⟩ := hpage
  have hlisted : List.Forall₂ (fun r d => r ∈ s.documents ∧ r.toDocument = .ok d)
      (s.firstDocuments limit) page.documents :=
    (List.forall₂_and_left _ _).mpr
      ⟨fun _ => mem_of_mem_firstDocuments, StoredDocument.forall₂_of_toDocuments hdocuments⟩
  refine hlisted.imp fun r d hmem => ?_
  obtain ⟨hr, hd⟩ := hmem
  refine ⟨hd, ?_, fun id key hid hkey => ?_⟩
  · exact ⟨_, isKeyOf_asStoredId s.reading d.id, looksUp_asStoredId hopen collection d.id⟩
  · obtain ⟨id', hid', hdisplay⟩ := StoredDocument.exists_id_of_toDocument hd
    obtain rfl : id = id' := Option.some.inj (hid.symm.trans hid')
    have hlooks := looksUp_asStoredId hopen collection d.id
    rw [hdisplay, hkey.asStoredId_eq, ← hdisplay] at hlooks
    exact ⟨hlooks, hkeyed.finds hopen hr hd hid hkey⟩

/-- One document under an object id and one under a text, in a database that takes every text of
bytes for an object id. -/
def twoOrders : Snapshot :=
  .ofDocuments .loose [[("_id", .objectId "64b7f0c2a1b2c3d4e5f60718"), ("total", .int 5)],
    [("_id", .str "64b7f0c2-a1b2c3d4-e5f607"), ("total", .int 7)]]

theorem listed_documents_are_addressed_of_twoOrders :
    twoOrders.isOpen = true ∧ twoOrders.IsKeyed ∧
    (twoOrders.perform (.list "orders" none none 10)).outcome =
      .ok (.page (.of [⟨"64b7f0c2a1b2c3d4e5f60718", [("total", .int 5)]⟩,
        ⟨"64b7f0c2-a1b2c3d4-e5f607", [("total", .int 7)]⟩])) ∧
    twoOrders.Finds "orders" ⟨"64b7f0c2a1b2c3d4e5f60718", [("total", .int 5)]⟩ ∧
    twoOrders.Finds "orders" ⟨"64b7f0c2-a1b2c3d4-e5f607", [("total", .int 7)]⟩ := by
  have hkeyed : twoOrders.IsKeyed :=
    List.nodup_cons.mpr ⟨by simp [StoredDocument.id?, storedIdField], List.nodup_singleton _⟩
  have hlist : (twoOrders.perform (.list "orders" none none 10)).outcome =
      .ok (.page (.of [⟨"64b7f0c2a1b2c3d4e5f60718", [("total", .int 5)]⟩,
        ⟨"64b7f0c2-a1b2c3d4-e5f607", [("total", .int 7)]⟩])) := rfl
  have haddressed := listed_documents_are_addressed rfl hkeyed hlist
  cases haddressed with
  | cons hfirst hrest =>
      cases hrest with
      | cons hsecond _ =>
          have hobject := hfirst.2.2 _ _ rfl (.objectId "64b7f0c2a1b2c3d4e5f60718" (by decide))
          have htext := hsecond.2.2 _ _ rfl (.text "64b7f0c2-a1b2c3d4-e5f607" (by decide +kernel))
          exact ⟨rfl, hkeyed, hlist, hobject.2, htext.2⟩

/-- A document under a text that names an object id, and one under a number. -/
def unaddressed (reading : ObjectId.Reading) : Snapshot :=
  .ofDocuments reading [[("_id", .str "64b7f0c2a1b2c3d4e5f60718"), ("total", .int 5)],
    [("_id", .int 5), ("total", .int 7)]]

/-- Whatever else is taken for an object id, both documents are listed, and neither of them is found
under the id it was listed with. -/
theorem listed_documents_are_not_found :
    (unaddressed .strict).IsKeyed ∧ ∀ reading : ObjectId.Reading,
    ((unaddressed reading).perform (.list "orders" none none 10)).outcome =
      .ok (.page (.of [⟨"64b7f0c2a1b2c3d4e5f60718", [("total", .int 5)]⟩,
        ⟨"5", [("total", .int 7)]⟩])) ∧
    ((unaddressed reading).perform (.get "orders" (some "64b7f0c2a1b2c3d4e5f60718"))).outcome =
      .ok (.found none) ∧
    ((unaddressed reading).perform (.delete "orders" (some "64b7f0c2a1b2c3d4e5f60718"))).calls =
      [.openNamed "orders", .deleteOne [("_id", .objectId "64b7f0c2a1b2c3d4e5f60718")]] ∧
    ((unaddressed reading).perform (.get "orders" (some "5"))).outcome = .ok (.found none) ∧
    ((unaddressed reading).perform (.delete "orders" (some "5"))).calls =
      [.openNamed "orders", .deleteOne [("_id", .str "5")]] := by
  have hkeyed : (unaddressed .strict).IsKeyed :=
    List.nodup_cons.mpr ⟨by simp [StoredDocument.id?, storedIdField], List.nodup_singleton _⟩
  refine ⟨hkeyed, fun reading => ?_⟩
  have hdigits : (Value.str "64b7f0c2a1b2c3d4e5f60718").asStoredId reading =
      .objectId "64b7f0c2a1b2c3d4e5f60718" :=
    Value.asStoredId_of_read? (ObjectId.IsWritten.read?_eq (by decide) reading)
  have hnumber : (Value.str "5").asStoredId reading = .str "5" :=
    Value.asStoredId_of_read?_eq_none (reading.read?_eq_none (by decide))
  refine ⟨by with_unfolding_all rfl, ?_, ?_, ?_, ?_⟩
  · show ((unaddressed reading).get "orders" "64b7f0c2a1b2c3d4e5f60718").outcome = _
    rw [Snapshot.get, Snapshot.find?, unaddressed, ofDocuments, hdigits]
    rfl
  · show [DatabaseCall.openNamed "orders", .deleteOne (idQuery reading _)] = _
    rw [shownId, idQuery, hdigits]
    rfl
  · show ((unaddressed reading).get "orders" "5").outcome = _
    rw [Snapshot.get, Snapshot.find?, unaddressed, ofDocuments, hnumber]
    rfl
  · show [DatabaseCall.openNamed "orders", .deleteOne (idQuery reading _)] = _
    rw [shownId, idQuery, hnumber]
    rfl

end Snapshot

end DocConsole
