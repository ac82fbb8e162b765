import DocConsole.Edit.Cell
import Mathlib.Data.List.Induction
import Mathlib.Tactic.ByContra

/-!
# The cell that a save returns

The editor takes over the cell before it makes the text to be edited.  A list or record with a
moment, a day or an object id in it has no such text, so the start fails, and the editor is left on
the new cell with the text and type that were pending for another one.  Main statement: no other
failing action changes anything, and a save returns the cell of the last start that was not on the
id column, which is the last one that succeeded unless its value had no text.
-/

set_option autoImplicit false

namespace DocConsole

/-! ## Values without a text -/

/-- A value in another one, at any depth, or that value itself. -/
inductive Value.Within (inner : Value) : Value → Prop where
  /-- The value itself. -/
  | itself : Within inner inner
  /-- In an item of a list. -/
  | item {item : Value} {items : List Value} (hmem : item ∈ items) (h : Within inner item) :
      Within inner (.arr items)
  /-- In the value of a field. -/
  | field {field : String × Value} {fields : Fields} (hmem : field ∈ fields)
      (h : Within inner field.2) : Within inner (.obj fields)

/-- A moment, a day or an object id. -/
def Value.IsForeign (value : Value) : Prop :=
  Json.foreignScalar? value ≠ none

/-- A value that has no text to be edited: it is not itself a moment, a day or an object id but
holds one, at some depth. -/
def Value.HidesForeign (value : Value) : Prop :=
  ∃ inner, inner.Within value ∧ inner.IsForeign ∧ inner ≠ value

namespace Json

variable {value inner : Value}

theorem foreignItems?_eq_none_iff {items : List Value} :
    foreignItems? items = none ↔ ∀ item ∈ items, foreign? item = none := by
  induction items with
  | nil => simp [foreignItems?]
  | cons item items ih =>
      rw [foreignItems?, List.forall_mem_cons, ← ih]
      cases foreign? item <;> simp

theorem foreignFields?_eq_none_iff {fields : Fields} :
    foreignFields? fields = none ↔ ∀ field ∈ fields, foreign? field.2 = none := by
  induction fields with
  | nil => simp [foreignFields?]
  | cons field fields ih =>
      rw [foreignFields?, List.forall_mem_cons, ← ih]
      cases foreign? field.2 <;> simp

/-- A moment, a day or an object id is found at any depth. -/
theorem foreign?_ne_none (h : inner.Within value) (hinner : inner.IsForeign) :
    foreign? value ≠ none := by
  induction h with
  | itself =>
      unfold Value.IsForeign at hinner
      cases inner with
      | arr items => exact absurd rfl hinner
      | obj fields => exact absurd rfl hinner
      | _ => exact hinner
  | item hmem _ ih => exact fun hnone => ih (foreignItems?_eq_none_iff.mp hnone _ hmem)
  | field hmem _ ih => exact fun hnone => ih (foreignFields?_eq_none_iff.mp hnone _ hmem)

mutual

/-- What was found stands somewhere in the value. -/
theorem exists_within_of_foreign? : ∀ value : Value, foreign? value ≠ none →
    ∃ inner : Value, inner.Within value ∧ inner.IsForeign
  | .arr items, h =>
      let ⟨_, hmem, inner, hwithin, hinner⟩ := exists_within_of_foreignItems? items h
      ⟨inner, .item hmem hwithin, hinner⟩
  | .obj fields, h =>
      let ⟨_, hmem, inner, hwithin, hinner⟩ := exists_within_of_foreignFields? fields h
      ⟨inner, .field hmem hwithin, hinner⟩
  | .moment m, h => ⟨.moment m, .itself, h⟩
  | .day d, h => ⟨.day d, .itself, h⟩
  | .objectId hex, h => ⟨.objectId hex, .itself, h⟩
  | .null, h | .bool _, h | .int _, h | .float _, h | .str _, h => absurd rfl h

theorem exists_within_of_foreignItems? : ∀ items : List Value, foreignItems? items ≠ none →
    ∃ item ∈ items, ∃ inner : Value, inner.Within item ∧ inner.IsForeign
  | [], h => absurd rfl h
  | item :: items, h => by
      cases hitem : foreign? item with
      | some name =>
          exact ⟨item, List.mem_cons_self, exists_within_of_foreign? item (by simp [hitem])⟩
      | none =>
          rw [foreignItems?, hitem] at h
          obtain ⟨item', hmem, hinner⟩ := exists_within_of_foreignItems? items h
          exact ⟨item', List.mem_cons_of_mem _ hmem, hinner⟩

theorem exists_within_of_foreignFields? : ∀ fields : List (String × Value),
    foreignFields? fields ≠ none →
    ∃ field ∈ fields, ∃ inner : Value, inner.Within field.2 ∧ inner.IsForeign
  | [], h => absurd rfl h
  | (name, value) :: fields, h => by
      cases hvalue : foreign? value with
      | some typeName =>
          exact ⟨(name, value), List.mem_cons_self,
            exists_within_of_foreign? value (by simp [hvalue])⟩
      | none =>
          rw [foreignFields?, hvalue] at h
          obtain ⟨field', hmem, hinner⟩ := exists_within_of_foreignFields? fields h
          exact ⟨field', List.mem_cons_of_mem _ hmem, hinner⟩

end

end Json

section EditText

variable {value : Value}

theorem nested_eq_ok_iff :
    (∃ shown, editTextOf.nested value = .ok shown) ↔ Json.foreign? value = none := by
  unfold editTextOf.nested
  split <;> simp_all

/-- A list or record has a text exactly when it hides nothing. -/
theorem nested_eq_ok_iff_not_hidesForeign (hvalue : ¬ value.IsForeign) :
    (∃ shown, editTextOf.nested value = .ok shown) ↔ ¬ value.HidesForeign := by
  rw [nested_eq_ok_iff]
  constructor
  · rintro hnone ⟨inner, hwithin, hinner, -⟩
    exact Json.foreign?_ne_none hwithin hinner hnone
  · intro hhidden
    by_contra hfound
    obtain ⟨inner, hwithin, hinner⟩ := Json.exists_within_of_foreign? value hfound
    refine hhidden ⟨inner, hwithin, hinner, ?_⟩
    rintro rfl
    exact hvalue hinner

/-- A value has a text to be edited exactly when it hides no moment, day or object id. -/
theorem editTextOf_eq_ok_iff : (∃ shown, editTextOf value = .ok shown) ↔ ¬ value.HidesForeign := by
  have hscalar {shown : EditType × String} (hshown : editTextOf value = .ok shown)
      (hwithin : ∀ inner : Value, inner.Within value → inner = value) :
      (∃ shown, editTextOf value = .ok shown) ↔ ¬ value.HidesForeign :=
    ⟨fun _ ⟨inner, hinner, _, hne⟩ => hne (hwithin inner hinner), fun _ => ⟨shown, hshown⟩⟩
  cases value with
  | arr items => exact nested_eq_ok_iff_not_hidesForeign (fun h => h rfl)
  | obj fields => exact nested_eq_ok_iff_not_hidesForeign (fun h => h rfl)
  | _ => exact hscalar rfl (fun _ h => by cases h; rfl)

end EditText

/-! ## Actions -/

namespace CellEditor

/-- What is done with the editor. -/
inductive Action where
  /-- It is opened on a cell. -/
  | start (document field : String) (current : Value)
  /-- The pending text is exchanged. -/
  | setText (text : String)
  /-- The pending type is exchanged. -/
  | setType (type : EditType)
  /-- The pending edit is saved. -/
  | save
  /-- The editor is closed. -/
  | cancel

/-- One action: what it returns or why it fails, and the editor afterwards. -/
def act (editor : CellEditor) : Action → Except Fault (Option CellEdit) × CellEditor
  | .start document field current =>
      ((editor.start (some document) field current).1.map fun _ => none,
        (editor.start (some document) field current).2)
  | .setText text => (.ok none, editor.withText text)
  | .setType type => (.ok none, editor.withType type)
  | .save => (editor.save.1.map some, editor.save.2)
  | .cancel => (.ok none, closed)

/-- The editor after some actions. -/
def after (actions : List Action) : CellEditor :=
  actions.foldl (fun editor action => (editor.act action).2) closed

/-- The action opens the editor on a cell that can be edited. -/
def Action.TakesCell : Action → Prop
  | .start _ field _ => field ≠ "id"
  | _ => False

/-- The action opens the editor on a cell that can be edited and shown. -/
def Action.Opens : Action → Prop
  | .start _ field current => field ≠ "id" ∧ ¬ current.HidesForeign
  | _ => False

/-- An action is the last of a kind. -/
def IsLast (kind : Action → Prop) (actions : List Action) (action : Action) : Prop :=
  ∃ before later, actions = before ++ action :: later ∧ kind action ∧
    ∀ action' ∈ later, ¬ kind action'

section Act

variable {editor : CellEditor} {action : Action} {actions : List Action} {fault : Fault}
  {document field : String} {current : Value}

theorem start_id : editor.start (some document) "id" current = (.error .idNotEditable, editor) :=
  rfl

theorem start_of_shown {shown : EditType × String} (hfield : field ≠ "id")
    (h : editTextOf current = .ok shown) :
    editor.start (some document) field current =
      (.ok (), ⟨some document, some field, shown.1, shown.2⟩) := by
  rw [start, if_neg hfield, h]

theorem start_of_not_shown (hfield : field ≠ "id") (h : editTextOf current = .error fault) :
    editor.start (some document) field current =
      (.error fault, { editor with document := some document, field := some field }) := by
  rw [start, if_neg hfield, h]

/-- A start succeeds exactly when it is on a cell that can be edited and shown. -/
theorem start_eq_ok_iff :
    (editor.start (some document) field current).1 = .ok () ↔
      (Action.start document field current).Opens := by
  by_cases hfield : field = "id"
  · subst hfield
    simp [start_id, Action.Opens]
  · rw [Action.Opens, ← editTextOf_eq_ok_iff]
    cases hshown : editTextOf current with
    | ok shown => simp [start_of_shown hfield hshown, hfield]
    | error fault => simp [start_of_not_shown hfield hshown]

/-- The editor is on a cell that was taken, whether its value was shown or not. -/
theorem cell_of_start (editor : CellEditor) (document : String) (current : Value)
    (hfield : field ≠ "id") :
    (editor.start (some document) field current).2.document = some document ∧
      (editor.start (some document) field current).2.field = some field := by
  cases hshown : editTextOf current with
  | ok shown => rw [start_of_shown hfield hshown]; exact ⟨rfl, rfl⟩
  | error fault => rw [start_of_not_shown hfield hshown]; exact ⟨rfl, rfl⟩

/-- A save that succeeds returns the cell with the value of the text and closes the editor. -/
theorem save_eq_ok_iff {edit : CellEdit} :
    editor.save.1 = .ok edit ↔
      editor.document = some edit.document ∧ editor.field = edit.field ∧
        readEdited editor.text editor.type = .ok edit.value := by
  obtain ⟨document', field', value⟩ := edit
  unfold save
  split
  · rename_i hdocument
    simp [hdocument]
  · rename_i document hdocument
    split
    · rename_i hread
      simp [hdocument, hread]
    · rename_i hread
      simp [hread]

theorem save_of_ok {edit : CellEdit} (h : editor.save.1 = .ok edit) :
    editor.save.2 = closed := by
  unfold save at h ⊢
  split
  · rename_i hdocument
    simp [hdocument] at h
  · rename_i hdocument
    simp only [hdocument] at h
    split
    · rfl
    · rename_i hread
      simp [hread] at h

/-- A save succeeds exactly when the editor is open and its text is a value of its type. -/
theorem exists_save_iff :
    (∃ edit, editor.save.1 = .ok edit) ↔
      editor.isOpen = true ∧ ∃ value, readEdited editor.text editor.type = .ok value := by
  simp only [save_eq_ok_iff, isOpen, Option.isSome_iff_exists]
  constructor
  · rintro ⟨edit, hdocument, -, hread⟩
    exact ⟨⟨edit.document, hdocument⟩, edit.value, hread⟩
  · rintro ⟨⟨document, hdocument⟩, value, hread⟩
    exact ⟨⟨document, editor.field, value⟩, hdocument, rfl, hread⟩

/-- A failing action changes nothing, but a start on a value without a text takes the cell. -/
theorem act_of_error (h : (editor.act action).1 = .error fault) :
    (editor.act action).2 = editor ∨
      ∃ document field current, action = .start document field current ∧ field ≠ "id" ∧
        current.HidesForeign ∧
        (editor.act action).2 = { editor with document := some document, field := some field } := by
  cases action with
  | start document field current =>
      by_cases hfield : field = "id"
      · subst hfield
        exact .inl rfl
      · cases hshown : editTextOf current with
        | ok shown =>
            rw [act, start_of_shown hfield hshown] at h
            cases h
        | error fault' =>
            have hhidden : current.HidesForeign := by
              by_contra hnone
              obtain ⟨shown, hok⟩ := editTextOf_eq_ok_iff.mpr hnone
              cases hshown.symm.trans hok
            refine .inr ⟨document, field, current, rfl, hfield, hhidden, ?_⟩
            rw [act, start_of_not_shown hfield hshown]
  | setText text => cases h
  | setType type => cases h
  | save =>
      left
      cases hsave : editor.save.1 with
      | ok edit =>
          rw [act, hsave] at h
          cases h
      | error fault' => exact save_of_error hsave
  | cancel => cases h

/-! ## The cell after some actions -/

theorem after_append (actions : List Action) (action : Action) :
    after (actions ++ [action]) = ((after actions).act action).2 := by
  rw [after, List.foldl_append]
  rfl

/-- An action that takes no cell leaves the editor on the one it was on, or closed. -/
theorem cell_of_not_takesCell (editor : CellEditor) (h : ¬ action.TakesCell) :
    (editor.act action).2 = closed ∨
      (editor.act action).2.document = editor.document ∧
        (editor.act action).2.field = editor.field := by
  cases action with
  | start document field current =>
      obtain rfl : field = "id" := not_not.mp h
      exact .inr ⟨rfl, rfl⟩
  | setText text => exact .inr ⟨rfl, rfl⟩
  | setType type => exact .inr ⟨rfl, rfl⟩
  | save =>
      cases hsave : editor.save.1 with
      | ok edit => exact .inl (save_of_ok hsave)
      | error fault =>
          refine .inr ?_
          rw [act, save_of_error hsave]
          exact ⟨rfl, rfl⟩
  | cancel => exact .inl rfl

theorem IsLast.append {kind : Action → Prop} {action' : Action} (h : IsLast kind actions action)
    (hkind : ¬ kind action') : IsLast kind (actions ++ [action']) action := by
  obtain ⟨before, later, rfl, haction, hlater⟩ := h
  refine ⟨before, later ++ [action'], by simp, haction, fun action'' hmem => ?_⟩
  rcases List.mem_append.mp hmem with hlate | hlast
  · exact hlater action'' hlate
  · rwa [List.mem_singleton.mp hlast]

/-- An open editor is on the cell of the last action that took one. -/
theorem exists_isLast (hopen : (after actions).document = some document) :
    ∃ field current, (after actions).field = some field ∧
      IsLast Action.TakesCell actions (.start document field current) := by
  -- from the first action to the last: each one takes a cell, keeps it or closes the editor
  induction actions using List.reverseRecOn generalizing document with
  | nil => cases hopen
  | append_singleton actions action ih =>
      rw [after_append] at hopen ⊢
      by_cases htakes : action.TakesCell
      · cases action with
        | start document' field current =>
            obtain ⟨hdocument, hcell⟩ := cell_of_start (after actions) document' current htakes
            obtain rfl : document' = document := Option.some.inj (hdocument.symm.trans hopen)
            exact ⟨field, current, hcell, actions, [], rfl, htakes, nofun⟩
        | _ => exact htakes.elim
      · rcases cell_of_not_takesCell (after actions) htakes with hclosed | ⟨hkept, hcell⟩
        · rw [hclosed] at hopen
          cases hopen
        · obtain ⟨field, current, hfield, hlast⟩ := ih (hkept.symm.trans hopen)
          exact ⟨field, current, hcell.trans hfield, hlast.append htakes⟩

theorem Action.Opens.takesCell (h : action.Opens) : action.TakesCell := by
  cases action with
  | start document field current => exact h.1
  | _ => exact h

theorem IsLast.opens (h : IsLast Action.TakesCell actions (.start document field current))
    (hshown : ¬ current.HidesForeign) :
    IsLast Action.Opens actions (.start document field current) := by
  obtain ⟨before, later, hactions, hfield, hlater⟩ := h
  exact ⟨before, later, hactions, ⟨hfield, hshown⟩,
    fun action' hmem hopens => hlater action' hmem hopens.takesCell⟩

end Act

/-- What the editor does after any actions.  A start fails on the id column, and on a value without
a text; no failing action changes anything, except that the latter takes the cell and keeps the type
and text that were pending.  A save succeeds exactly when the editor is open and its text is a value
of its type.  Then the editor is closed, and the save returns this value and the cell of the last
start that was not on the id column, which is the last start that succeeded unless its value had no
text. -/
theorem failures_keep_pending_edit (actions : List Action) :
    (∀ document field current,
      ((after actions).start (some document) field current).1 = .ok () ↔
        (Action.start document field current).Opens) ∧
    (∀ action fault, ((after actions).act action).1 = .error fault →
      ((after actions).act action).2 = after actions ∨
        ∃ document field current, action = .start document field current ∧ field ≠ "id" ∧
          current.HidesForeign ∧
          ((after actions).act action).2 =
            { after actions with document := some document, field := some field }) ∧
    ((∃ edit, (after actions).save.1 = .ok edit) ↔
      (after actions).isOpen = true ∧
        ∃ value, readEdited (after actions).text (after actions).type = .ok value) ∧
    ∀ edit, (after actions).save.1 = .ok edit →
      (after actions).save.2 = closed ∧
        readEdited (after actions).text (after actions).type = .ok edit.value ∧
        ∃ field current, edit.field = some field ∧
          IsLast Action.TakesCell actions (.start edit.document field current) ∧
          (¬ current.HidesForeign →
            IsLast Action.Opens actions (.start edit.document field current)) := by
  refine ⟨fun _ _ _ => start_eq_ok_iff, fun _ _ h => act_of_error h, exists_save_iff,
    fun edit hsave => ?_⟩
  obtain ⟨hdocument, hfield, hread⟩ := save_eq_ok_iff.mp hsave
  obtain ⟨field, current, hcell, hlast⟩ := exists_isLast hdocument
  exact ⟨save_of_ok hsave, hread, field, current, hfield.symm.trans hcell, hlast, hlast.opens⟩

/-- A cell is opened, its number is exchanged, and the id of another document is tried. -/
def steadyActions : List Action :=
  [.start "a" "n" (.int 1), .cancel, .start "a" "ns" (.arr [.str "x"]), .setText "[2]",
    .start "b" "id" (.str "b")]

/-- The id stays closed to editing, and the cell that was opened is saved. -/
theorem refused_start_keeps_cell :
    ((after steadyActions).start (some "b") "id" (.str "b")).1 = .error .idNotEditable ∧
      ((after steadyActions).act (.start "b" "id" (.str "b"))).2 = after steadyActions ∧
      (after steadyActions).save = (.ok ⟨"a", some "ns", .arr [.int 2]⟩, closed) ∧
      IsLast Action.Opens steadyActions (.start "a" "ns" (.arr [.str "x"])) := by
  obtain ⟨-, hfailing, -, hsaves⟩ := failures_keep_pending_edit steadyActions
  have hsave : (after steadyActions).save.1 = .ok ⟨"a", some "ns", .arr [.int 2]⟩ := by
    decide +kernel
  refine ⟨rfl, ?_, ?_, ?_⟩
  · rcases hfailing (.start "b" "id" (.str "b")) .idNotEditable rfl with
      hkept | ⟨_, _, _, haction, hfield, -⟩
    · exact hkept
    · cases haction
      exact absurd rfl hfield
  · exact Prod.ext hsave (hsaves _ hsave).1
  · obtain ⟨-, -, field, current, hfield, hlast, hopens⟩ := hsaves _ hsave
    cases hfield
    have hmem : Action.start "a" "ns" current ∈ steadyActions := by
      obtain ⟨before, later, hactions, -⟩ := hlast
      rw [hactions]
      exact List.mem_append_right _ List.mem_cons_self
    obtain rfl : current = .arr [.str "x"] := by simpa [steadyActions] using hmem
    have hshown : ¬ (Value.arr [.str "x"]).HidesForeign :=
      (nested_eq_ok_iff_not_hidesForeign (fun h => h rfl)).mp (nested_eq_ok_iff.mpr rfl)
    exact hopens hshown

/-- A record with a moment in it. -/
def datedRecord : Value :=
  .obj [("t", .moment ⟨⟨2024, 5, 1⟩, 43200, 0, none⟩)]

/-- A start that failed leaves the editor on its own cell, with the number that was pending for the
other one, and a save returns that. -/
theorem failed_start_moves_cell :
    ((after [.start "a" "n" (.int 1)]).act (.start "b" "at" datedRecord)).1 =
        .error (.notWritable "datetime") ∧
      ((after [.start "a" "n" (.int 1)]).act (.start "b" "at" datedRecord)).2 ≠
        after [.start "a" "n" (.int 1)] ∧
      (after [.start "a" "n" (.int 1), .start "b" "at" datedRecord]).save =
        (.ok ⟨"b", some "at", .int 1⟩, closed) := by
  refine ⟨by decide +kernel, fun hsame => ?_, by decide +kernel⟩
  have hdocument : (some "b" : Option String) = some "a" := congrArg CellEditor.document hsame
  exact absurd hdocument (by decide)

end CellEditor

end DocConsole
