/-!
# Joining texts

Texts in a row with a separator between neighbours.
-/

set_option autoImplicit false

namespace DocConsole.Text

/-- Pieces of text with a separator between neighbours. -/
def joined (separator : String) : List String → String
  | [] => ""
  | [piece] => piece
  | piece :: rest => piece ++ separator ++ joined separator rest

@[simp] theorem joined_singleton (separator piece : String) : joined separator [piece] = piece :=
  rfl

end DocConsole.Text
