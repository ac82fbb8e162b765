import DocConsole.Proofs.Text.Layout
import DocConsole.Statement.Command
import DocConsole.Statement.Shape

/-!
# What the shapes make of a statement

A statement put together from words, blanks, a name and a value is taken apart again.  Main
statement: the three statements that name a document by its id have the shape one expects, but for
the body of an update, which may reach into what follows it.
-/

set_option autoImplicit false

namespace DocConsole

open Text

/-- The word before a condition, in capitals. -/
def whereInCapitals : Cased "where" := ⟨"WHERE".toList, by decide⟩

namespace Shape

variable {collection line value : List Char}

/-! ## Clauses -/

theorem isBlank_of_isCollectionLetter {c : Char} (h : isCollectionLetter c = true) :
    isBlank c = false := by
  rw [Bool.eq_false_iff]
  intro hblank
  rw [isCollectionLetter, isWord_of_isBlank hblank] at h
  simp only [Bool.false_or, Bool.or_eq_true, beq_iff_eq] at h
  rcases h with rfl | rfl <;> revert hblank <;> decide

theorem isBlank_of_isFieldLetter {c : Char} (h : isFieldLetter c = true) : isBlank c = false := by
  rw [Bool.eq_false_iff]
  intro hblank
  rw [isFieldLetter, isWord_of_isBlank hblank] at h
  obtain rfl : c = '.' := by simpa using h
  revert hblank
  decide

/-- The name of a collection, as it stands in a statement. -/
structure IsCollection (cs : List Char) : Prop where
  nonempty : cs ≠ []
  letters : cs.all isCollectionLetter = true

theorem IsCollection.leadsOutside (h : IsCollection collection) :
    LeadsOutside isBlank collection := by
  obtain ⟨c, cs, rfl⟩ := List.exists_cons_of_ne_nil h.nonempty
  have hc := List.all_eq_true.mp h.letters c List.mem_cons_self
  simp [LeadsOutside, isBlank_of_isCollectionLetter hc]

theorem someBlanks_refuses {β : Type} (next : List Char → Option β) :
    Refuses (someBlanks next) isCollectionLetter := by
  intro c cs hc
  exact someBlanks_of_startsOutside (startsOutside_cons (isBlank_of_isCollectionLetter hc))

/-- A name before something that no name can run into. -/
theorem IsCollection.someBlanks_longestRun {β : Type} {next : List Char → Option β}
    (h : IsCollection collection) (hnext : Refuses next isCollectionLetter) (word line : List Char)
    (hword : LeadsOutside isCollectionLetter word) :
    someBlanks (longestRun isCollectionLetter next) (' ' :: (collection ++ (word ++ line))) =
      (next (word ++ line)).map (fun b => (collection, b)) := by
  rw [someBlanks_space (h.leadsOutside.append _)]
  exact longestRun_append hnext h.nonempty h.letters (hword.append line)

/-- A name between white space on both sides. -/
theorem IsCollection.someBlanks_append {β : Type} {next : List Char → Option β} {b : β}
    {rest : List Char} (h : IsCollection collection) (before after : Gap isBlank)
    (hnext : next (after.chars ++ rest) = some b) :
    someBlanks (longestRun isCollectionLetter next)
      (before.chars ++ (collection ++ (after.chars ++ rest))) = some (collection, b) := by
  have hblank : ∀ c, isBlank c = true → isCollectionLetter c = false := by
    intro c hc
    rw [Bool.eq_false_iff]
    intro hletter
    rw [isBlank_of_isCollectionLetter hletter] at hc
    cases hc
  exact before.someBlanks_longestRun (fun _ hc => isBlank_of_isCollectionLetter hc)
    h.nonempty h.letters (after.longestRun_eq_none hblank rest) hnext

/-- The clause that names a document by its id. -/
theorem idClause?_append (line : List Char) :
    idClause? (" WHERE id =".toList ++ line) = anyBlanks restOfLine line := by
  show someBlanks _ (' ' :: ("WHERE".toList ++ ' ' :: ("id".toList ++ ' ' :: '=' :: line))) = _
  rw [someBlanks_keyword (by decide), someBlanks_keyword (by decide),
    anyBlanks_space (startsOutside_cons (by decide)) rfl]
  rfl

/-- An equals sign before a blank is read as that operator and no longer one. -/
theorem spelledOperator_equals {β : Type} {next : List Char → Option β} {b : β}
    (h : next (' ' :: line) = some b) :
    spelledOperator next operatorSpellings ('=' :: ' ' :: line) = some ("=".toList, b) := by
  have hnone {word : List Char} {others : List (List Char)}
      (hword : keyword word next ('=' :: ' ' :: line) = none) :
      spelledOperator next (word :: others) ('=' :: ' ' :: line) =
        spelledOperator next others ('=' :: ' ' :: line) := by
    rw [spelledOperator, hword]
  have hequals : keyword "=".toList next ('=' :: ' ' :: line) = some b := h
  rw [operatorSpellings, hnone rfl, hnone rfl, hnone rfl, hnone rfl, hnone rfl, spelledOperator,
    hequals]
  rfl

/-- A condition on the id. -/
theorem condition?_append (h : anyBlanks restOfLine (' ' :: line) = some value) :
    condition? (" WHERE id =".toList ++ ' ' :: line) = some ⟨"id".toList, "=".toList, value⟩ := by
  have hoperator : anyBlanks (spelledOperator (anyBlanks restOfLine) operatorSpellings)
      (' ' :: '=' :: ' ' :: line) = some ("=".toList, value) := by
    rw [anyBlanks_space (startsOutside_cons (by decide)) rfl]
    exact spelledOperator_equals h
  have hfield : longestRun isFieldLetter _ ("id".toList ++ ' ' :: '=' :: ' ' :: line) =
      some ("id".toList, "=".toList, value) :=
    longestRun_append_of_some (by decide) (by decide) (startsOutside_cons (by decide)) hoperator
  show (someBlanks _ (' ' :: ("WHERE".toList ++
    ' ' :: ("id".toList ++ ' ' :: '=' :: ' ' :: line)))).map _ = _
  rw [someBlanks_keyword (by decide),
    someBlanks_space (LeadsOutside.append (by decide) _), hfield]
  rfl

/-! ## Statements -/

theorem selectTail?_refuses : Refuses selectTail? isCollectionLetter := by
  intro c cs hc
  rw [selectTail?, condition?, someBlanks_refuses _ c cs hc]
  rfl

theorem select?_append (h : IsCollection collection) (word line : List Char)
    (hword : LeadsOutside isCollectionLetter word) :
    select? ("SELECT * FROM ".toList ++ (collection ++ (word ++ line))) =
      (selectTail? (word ++ line)).map (Shape.select collection) := by
  show select? ("SELECT".toList ++ ' ' :: ("*".toList ++ ' ' :: ("FROM".toList ++
    ' ' :: (collection ++ (word ++ line))))) = _
  rw [select?, keyword_append (by decide), someBlanks_keyword (by decide),
    someBlanks_keyword (by decide), h.someBlanks_longestRun selectTail?_refuses word line hword,
    Option.map_map]
  rfl

/-- A listing with a condition on the id. -/
theorem ofChars?_select (h : IsCollection collection)
    (hvalue : anyBlanks restOfLine (' ' :: line) = some value) :
    ofChars? ("SELECT * FROM ".toList ++ (collection ++ (" WHERE id =".toList ++ ' ' :: line))) =
      some (.select collection (some ⟨"id".toList, "=".toList, value⟩)) := by
  rw [ofChars?, select?_append h _ _ (by decide), selectTail?, condition?_append hvalue]
  rfl

/-- A listing whose condition lacks its value is not recognised. -/
theorem ofChars?_select_nil (h : IsCollection collection) :
    ofChars? ("SELECT * FROM ".toList ++ (collection ++ " WHERE id =".toList)) = none := by
  have hselect := select?_append h " WHERE id =".toList [] (by decide)
  rw [List.append_nil] at hselect
  rw [ofChars?, hselect]
  rfl

/-- A deletion; there is none when no value follows. -/
theorem ofChars?_delete (h : IsCollection collection) (line : List Char) :
    ofChars? ("DELETE FROM ".toList ++ (collection ++ (" WHERE id =".toList ++ line))) =
      (anyBlanks restOfLine line).map (Shape.delete collection) := by
  have hrefuses : Refuses idClause? isCollectionLetter := someBlanks_refuses _
  have hclause := h.someBlanks_longestRun hrefuses " WHERE id =".toList line (by decide)
  show delete? ("DELETE".toList ++ ' ' :: ("FROM".toList ++
    ' ' :: (collection ++ (" WHERE id =".toList ++ line)))) = _
  rw [delete?, keyword_append (by decide), someBlanks_keyword (by decide), hclause,
    idClause?_append, Option.map_map]
  rfl

/-- An update by an empty record.  Where its body ends depends on what follows. -/
theorem ofChars?_update (h : IsCollection collection) (line : List Char) :
    ofChars? ("UPDATE ".toList ++
        (collection ++ (" SET JSON \x7b\x7d WHERE id =".toList ++ line))) =
      (longestRun (fun c => c ≠ '\n') idClause? ("\x7b\x7d WHERE id =".toList ++ line)).map
        (fun (body, target) => .update collection body target) := by
  have htail : someBlanks (keyword "set".toList (someBlanks (keyword "json".toList (someBlanks
      (longestRun (fun c => c ≠ '\n') idClause?)))))
        (" SET JSON \x7b\x7d WHERE id =".toList ++ line) =
      longestRun (fun c => c ≠ '\n') idClause? ("\x7b\x7d WHERE id =".toList ++ line) := by
    show someBlanks _ (' ' :: ("SET".toList ++ ' ' :: ("JSON".toList ++
      ' ' :: ("\x7b\x7d WHERE id =".toList ++ line)))) = _
    rw [someBlanks_keyword (by decide), someBlanks_keyword (by decide),
      someBlanks_space (LeadsOutside.append (by decide) line)]
  have hupdate : update? ("UPDATE".toList ++
      ' ' :: (collection ++ (" SET JSON \x7b\x7d WHERE id =".toList ++ line))) =
      (longestRun (fun c => c ≠ '\n') idClause? ("\x7b\x7d WHERE id =".toList ++ line)).map
        (fun (body, target) => .update collection body target) := by
    rw [update?, keyword_append (by decide),
      h.someBlanks_longestRun (someBlanks_refuses _) _ _ (by decide), htail, Option.map_map]
    rfl
  have hothers : select? ("UPDATE".toList ++ ' ' :: (collection ++
        (" SET JSON \x7b\x7d WHERE id =".toList ++ line))) = none ∧
      insert? ("UPDATE".toList ++ ' ' :: (collection ++
        (" SET JSON \x7b\x7d WHERE id =".toList ++ line))) = none ∧
      delete? ("UPDATE".toList ++ ' ' :: (collection ++
        (" SET JSON \x7b\x7d WHERE id =".toList ++ line))) = none := ⟨rfl, rfl, rfl⟩
  show ofChars? ("UPDATE".toList ++
      ' ' :: (collection ++ (" SET JSON \x7b\x7d WHERE id =".toList ++ line))) = _
  rw [ofChars?, hothers.1, hothers.2.1, hupdate, hothers.2.2]
  cases longestRun (fun c => c ≠ '\n') idClause? ("\x7b\x7d WHERE id =".toList ++ line) <;> rfl

end Shape

/-- A proper name is read as a name. -/
theorem isCollection_of_isCollectionName {c : String} (h : isCollectionName c = true) :
    Shape.IsCollection c.toList := by
  simp only [isCollectionName, Bool.and_eq_true, Bool.not_eq_true', List.isEmpty_eq_false_iff] at h
  refine ⟨h.1, List.all_eq_true.mpr fun x hx => ?_⟩
  have hchar := List.all_eq_true.mp h.2 x hx
  simp only [isCollectionChar, Shape.isCollectionLetter, Bool.or_eq_true] at hchar ⊢
  exact hchar.imp_left (Or.imp_left Text.isWord_of_isWordAscii)

end DocConsole
