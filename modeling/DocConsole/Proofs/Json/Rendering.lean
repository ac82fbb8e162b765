import DocConsole.Proofs.Json.Breaks

/-!
# Renderings

The same tokens make many JSON texts: white space stands freely around them, and a character of a
string stands for itself or behind a backslash.  Main statements: a rendering of some tokens is cut
into these tokens, so every rendering of a value is read as that value.
-/

set_option autoImplicit false

namespace DocConsole.Json

open Text

variable {strict : Bool} {state : State} {ts ts' : List PlacedToken} {token : Token}
  {wanted : List Token} {cs piece rest : List Char} {value : Value}

/-- A token as it is written. -/
inductive Token.IsWritten : Token → List Char → Prop where
  /-- An opening square bracket. -/
  | openList : IsWritten .openList ['[']
  /-- A closing square bracket. -/
  | closeList : IsWritten .closeList [']']
  /-- An opening curly bracket. -/
  | openRecord : IsWritten .openRecord ['\x7b']
  /-- A closing curly bracket. -/
  | closeRecord : IsWritten .closeRecord ['\x7d']
  /-- A comma. -/
  | comma : IsWritten .comma [',']
  /-- A colon. -/
  | colon : IsWritten .colon [':']
  /-- A string in quotes. -/
  | text {body : List Char} {units : List Nat} (hbody : WritesUnits body units []) :
      IsWritten (.text (String.ofList (joinUnits units))) ('"' :: body)
  /-- A number. -/
  | number {l : DecimalLiteral} (hl : l.IsPlain) : IsWritten (.number l) l.text
  /-- The word null. -/
  | null : IsWritten .null ['n', 'u', 'l', 'l']
  /-- The word true. -/
  | yes : IsWritten (.bool true) ['t', 'r', 'u', 'e']
  /-- The word false. -/
  | no : IsWritten (.bool false) ['f', 'a', 'l', 's', 'e']

/-- Tokens in a row with white space around them; a number must end where it ends. -/
inductive Renders : List Token → List Char → Prop where
  /-- No token. -/
  | nil {spaces : List Char} (hspaces : spaces.all isSpace = true) : Renders [] spaces
  /-- A token and those behind it. -/
  | cons {token : Token} {more : List Token} {spaces piece rest : List Char}
      (hspaces : spaces.all isSpace = true) (hpiece : token.IsWritten piece)
      (hend : ∀ l, token = .number l → StartsOutside goesOnNumber rest)
      (hmore : Renders more rest) : Renders (token :: more) (spaces ++ (piece ++ rest))

theorem Token.IsWritten.tokens_append (h : token.IsWritten piece)
    (hend : ∀ l, token = .number l → StartsOutside goesOnNumber rest) :
    tokens (piece ++ rest) = ⟨token, piece ++ rest⟩ :: tokens rest := by
  cases h with
  | @text body units hbody =>
      have hread := (hbody.append rest).readUnits ('"' :: (body ++ rest))
      have htoken : readToken '"' (body ++ rest) =
          (.text (String.ofList (joinUnits units)), rest) := by
        rw [readToken, hread]
        rfl
      rw [List.cons_append, tokens_cons rfl, htoken]
  | number hl => exact tokens_text hl (hend _ rfl)
  | _ => exact tokens_cons rfl _

/-- A rendering is cut into the tokens that it renders. -/
theorem Renders.map_token_tokens (h : Renders wanted cs) :
    (tokens cs).map PlacedToken.token = wanted := by
  induction h with
  | nil hspaces => rw [tokens_of_all hspaces, List.map_nil]
  | cons hspaces hpiece hend _ ih =>
      rw [tokens_append_spaces hspaces, hpiece.tokens_append hend, List.map_cons, ih]

/-- What is read depends on the tokens alone, not on where they stand. -/
theorem run_eq_ok_congr (h : ts.map PlacedToken.token = ts'.map PlacedToken.token)
    (hrun : run strict state ts = .ok value) : run strict state ts' = .ok value := by
  induction ts generalizing state ts' with
  | nil =>
      obtain rfl := List.map_eq_nil_iff.mp h.symm
      exact hrun
  | cons t ts ih =>
      obtain ⟨t', more, rfl, htoken, hmore⟩ := List.map_eq_cons_iff.mp h.symm
      have hstep : (step strict state t).toOption = (step strict state t').toOption :=
        toOption_step_congr htoken.symm
      rw [run] at hrun ⊢
      cases hfirst : step strict state t with
      | error stop =>
          rw [hfirst] at hrun
          cases hrun
      | ok next =>
          rw [hfirst] at hrun hstep
          cases hsecond : step strict state t' with
          | error stop =>
              rw [hsecond] at hstep
              cases hstep
          | ok next' =>
              rw [hsecond] at hstep
              obtain rfl := Option.some.inj hstep
              exact ih hmore.symm hrun

/-- Every rendering of some tokens is read as what the tokens are read as. -/
theorem Renders.readChars_eq_ok (h : Renders wanted cs)
    (hrun : run strict (.value []) (wanted.map fun token => ⟨token, []⟩) = .ok value) :
    readChars strict cs = .ok value := by
  refine readChars_of_run (run_eq_ok_congr ?_ hrun)
  rw [List.map_map, h.map_token_tokens]
  exact List.map_id wanted

/-! ## What is written -/

section Writing

variable {more : List Token} {layout : Layout} {depth : Nat} {fields : List (String × Value)}

theorem Renders.spaces_append {spaces : List Char} (hspaces : spaces.all isSpace = true)
    (h : Renders wanted cs) : Renders wanted (spaces ++ cs) := by
  cases h with
  | nil hall => exact .nil (by rw [List.all_append, hspaces, hall, Bool.and_self])
  | cons hall hpiece hend hmore =>
      rw [← List.append_assoc]
      exact .cons (by rw [List.all_append, hspaces, hall, Bool.and_self]) hpiece hend hmore

/-- A token that is no number, right at the front. -/
theorem Renders.piece_append (hpiece : token.IsWritten piece) (hnumber : ∀ l, token ≠ .number l)
    (h : Renders more rest) : Renders (token :: more) (piece ++ rest) := by
  have hend : ∀ l, token = .number l → StartsOutside goesOnNumber rest :=
    fun l hl => absurd hl (hnumber l)
  show Renders (token :: more) ([] ++ (piece ++ rest))
  exact .cons rfl hpiece hend h

theorem isWritten_writeText (s : String) : Token.IsWritten (.text s) (writeText s) := by
  have hread : readUnits [] (s.toList.flatMap escapeChar ++ ['"']) =
      .ok (s.toList.flatMap unitsOf, []) := readUnits_flatMap s.toList []
  have htext := Token.IsWritten.text (readUnits_eq_ok_iff.mp hread)
  rwa [joinUnits_flatMap, String.ofList_toList] at htext

/-- A name, a colon and the token of a value, as they are laid out. -/
theorem Renders.field_append (hlayout : layout.IsNeutral) (name : String)
    (hpiece : token.IsWritten piece)
    (hend : ∀ l, token = .number l → StartsOutside goesOnNumber rest) (h : Renders more rest) :
    Renders (.text name :: .colon :: token :: more)
      (writeText name ++ (layout.nameSeparator.toList ++ (piece ++ rest))) := by
  obtain ⟨spaces, hname, hspaces⟩ := hlayout.name
  rw [hname]
  show Renders _ (writeText name ++ ([':'] ++ (spaces ++ (piece ++ rest))))
  exact .piece_append (isWritten_writeText name) nofun
    (.piece_append .colon nofun (.cons hspaces hpiece hend h))

/-- The first field of a record whose value is one token. -/
theorem Renders.writeAt_obj (hlayout : layout.IsNeutral) {name : String}
    (hpiece : token.IsWritten (writeAt layout (depth + 1) value))
    (h : Renders more
      (writeFields layout (depth + 1) fields ++ (layout.newLine depth ++ '\x7d' :: rest))) :
    Renders (.openRecord :: .text name :: .colon :: token :: more)
      (writeAt layout depth (.obj ((name, value) :: fields)) ++ rest) := by
  have hend : StartsOutside goesOnNumber
      (writeFields layout (depth + 1) fields ++ (layout.newLine depth ++ '\x7d' :: rest)) :=
    startsOutside_writeFields hlayout fields
      (layout.startsOutside_newLine depth (startsOutside_cons rfl))
  have hfield := (h.field_append hlayout name hpiece fun _ _ => hend).spaces_append
    (layout.all_newLine (depth + 1))
  have hopen := Renders.piece_append .openRecord nofun hfield
  rw [writeAt]
  simpa only [List.append_assoc, List.cons_append, List.nil_append] using hopen

/-- A further field whose value is one token. -/
theorem Renders.writeFields_cons (hlayout : layout.IsNeutral) {name : String}
    (hpiece : token.IsWritten (writeAt layout depth value))
    (h : Renders more (writeFields layout depth fields ++ rest))
    (hrest : StartsOutside goesOnNumber rest) :
    Renders (.comma :: .text name :: .colon :: token :: more)
      (writeFields layout depth ((name, value) :: fields) ++ rest) := by
  obtain ⟨spaces, hitem, hspaces⟩ := hlayout.item
  have hend : StartsOutside goesOnNumber (writeFields layout depth fields ++ rest) :=
    startsOutside_writeFields hlayout fields hrest
  have hfield := (h.field_append hlayout name hpiece fun _ _ => hend).spaces_append
    (layout.all_newLine depth)
  have hcomma := Renders.piece_append .comma nofun (hfield.spaces_append hspaces)
  rw [writeFields, hitem]
  simpa only [List.append_assoc, List.cons_append, List.nil_append] using hcomma

end Writing

end DocConsole.Json
