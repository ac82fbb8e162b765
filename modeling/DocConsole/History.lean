import DocConsole.Fault

/-!
# History

The statements that were executed, in order, each with whether it succeeded.  Recorded entries never
change.
-/

set_option autoImplicit false

namespace DocConsole

/-- One executed statement. -/
structure HistoryEntry where
  /-- The text of the statement. -/
  query : String
  /-- Whether it succeeded. -/
  succeeded : Bool
  deriving DecidableEq, Repr

/-- The executed statements, oldest first. -/
abbrev History := List HistoryEntry

namespace History

/-- A statement added as the latest one. -/
def record (history : History) (query : String) (succeeded : Bool) : History :=
  history ++ [⟨query, succeeded⟩]

/-- The latest entry. -/
def last? (history : History) : Option HistoryEntry :=
  history.getLast?

/-- The entry at an index; an index below zero counts from the end. -/
def entryAt (history : History) (index : Int) : Except Fault HistoryEntry :=
  let position := if index < 0 then index + history.length else index
  if position < 0 then .error .indexOutOfRange
  else
    match history[position.toNat]? with
    | some entry => .ok entry
    | none => .error .indexOutOfRange

/-- Why the statement of the entry at an index cannot be changed: it is fixed, if it is there. -/
def refuseChange (history : History) (index : Int) : Fault :=
  match history.entryAt index with
  | .ok _ => .invalid [.at "query" .isFixed]
  | .error fault => fault

/-- The entries, latest first. -/
def newestFirst (history : History) : List HistoryEntry :=
  history.reverse

end History

end DocConsole
