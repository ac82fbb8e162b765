import DocConsole.Text.Blank
import DocConsole.Text.Joined
import DocConsole.Text.Quoted

/-!
# Regular expressions

A regular expression as a database keeps it: its pattern and the switches it is used with.  A
pattern can set switches itself, in groups at its front such as `(?i)`; comments may stand there
too, and blanks where the pattern is verbose.  A pattern matches over all characters unless it
asks for ASCII.
-/

set_option autoImplicit false

namespace DocConsole

open Text

/-! ## Switches -/

/-- A switch of a regular expression. -/
inductive Switch where
  /-- The pattern is a template; nothing comes of it. -/
  | template
  /-- Letters match without regard to case. -/
  | ignoreCase
  /-- Anchors match at every line. -/
  | multiline
  /-- A point matches a line feed too. -/
  | dotAll
  /-- Classes hold the characters of all scripts. -/
  | unicode
  /-- Blanks and comments in the pattern do not count. -/
  | verbose
  /-- Classes hold ASCII characters alone. -/
  | ascii
  deriving DecidableEq, Repr

namespace Switch

/-- All switches, in the order in which they are told. -/
def all : List Switch :=
  [.template, .ignoreCase, .multiline, .dotAll, .unicode, .verbose, .ascii]

/-- The letter of a switch. -/
def letter : Switch → Char
  | .template => 't'
  | .ignoreCase => 'i'
  | .multiline => 'm'
  | .dotAll => 's'
  | .unicode => 'u'
  | .verbose => 'x'
  | .ascii => 'a'

/-- The switch of a letter. -/
def ofLetter? (c : Char) : Option Switch :=
  all.find? (fun switch => switch.letter == c)

/-- Whether extended JSON tells a switch. -/
def isOption : Switch → Bool
  | .template | .ascii => false
  | _ => true

/-- The name of a switch where it is shown; matching over all characters goes without saying. -/
def shownName? : Switch → Option String
  | .template => some "re.TEMPLATE"
  | .ignoreCase => some "re.IGNORECASE"
  | .multiline => some "re.MULTILINE"
  | .dotAll => some "re.DOTALL"
  | .unicode => none
  | .verbose => some "re.VERBOSE"
  | .ascii => some "re.ASCII"

end Switch

/-! ## The front of a pattern -/

/-- Where a reader of the front of a pattern stands. -/
inductive FrontState where
  /-- Between two groups. -/
  | item
  /-- After an opening parenthesis. -/
  | opened
  /-- After an opening parenthesis and a question mark. -/
  | asked
  /-- After the letters of some switches of a group. -/
  | switches (pending : List Switch)
  /-- In a comment that ends with a parenthesis. -/
  | comment
  /-- After a backslash in such a comment. -/
  | commentEscape
  /-- In a comment that ends with its line. -/
  | lineComment
  /-- After a backslash in such a comment. -/
  | lineEscape

/-- The switches that a pattern sets at its front, added to those that are set already. -/
def frontSwitches (set : List Switch) : FrontState → List Char → List Switch
  | _, [] => set
  | .item, c :: cs =>
      if c = '(' then frontSwitches set .opened cs
      else if set.contains .verbose && isAsciiBlank c then frontSwitches set .item cs
      else if set.contains .verbose && c = '#' then frontSwitches set .lineComment cs
      else set
  | .opened, c :: cs => if c = '?' then frontSwitches set .asked cs else set
  | .asked, c :: cs =>
      if c = '#' then frontSwitches set .comment cs
      else
        match Switch.ofLetter? c with
        | some switch => frontSwitches set (.switches [switch]) cs
        | none => set
  | .switches pending, c :: cs =>
      if c = ')' then frontSwitches (set ++ pending) .item cs
      else
        match Switch.ofLetter? c with
        | some switch => frontSwitches set (.switches (pending ++ [switch])) cs
        | none => set
  | .comment, c :: cs =>
      frontSwitches set
        (if c = ')' then .item else if c = '\\' then .commentEscape else .comment) cs
  | .commentEscape, _ :: cs => frontSwitches set .comment cs
  | .lineComment, c :: cs =>
      frontSwitches set
        (if c = '\n' then .item else if c = '\\' then .lineEscape else .lineComment) cs
  | .lineEscape, _ :: cs => frontSwitches set .lineComment cs

/-! ## Regular expressions -/

/-- A pattern with the switches that are set. -/
structure Regex where
  /-- The pattern. -/
  pattern : String
  /-- The switches. -/
  switches : List Switch
  deriving DecidableEq, Repr

namespace Regex

/-- A pattern used with the given switches and those that it sets itself. -/
def ofPattern (pattern : String) (given : List Switch) : Regex :=
  let set := frontSwitches given .item pattern.toList
  ⟨pattern, if set.contains .ascii then set else .unicode :: set⟩

/-- The switches that are set, each once and in order. -/
def inOrder (r : Regex) : List Switch :=
  Switch.all.filter (fun switch => r.switches.contains switch)

/-- The letters of the switches in extended JSON. -/
def options (r : Regex) : String :=
  String.ofList ((r.inOrder.filter Switch.isOption).map Switch.letter)

/-- How many characters of a pattern are shown. -/
def shownLength : Nat := 200

/-- A regular expression as it is shown. -/
def shown (r : Regex) : String :=
  let names := r.inOrder.filterMap Switch.shownName?
  let pattern := String.ofList ((quoted r.pattern).toList.take shownLength)
  "re.compile(" ++ pattern ++ (if names.isEmpty then "" else ", " ++ joined "|" names) ++ ")"

end Regex

end DocConsole
