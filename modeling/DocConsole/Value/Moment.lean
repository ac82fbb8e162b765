import DocConsole.Text.DecimalDigit

/-!
# Days and moments

Calendar days and points in time as documents hold them.  A moment may carry its offset from
universal time; two moments with offsets are the same when they name the same instant, two without
when their calendars agree, and one of each kind are never the same.
-/

set_option autoImplicit false

namespace DocConsole

open Text

/-- A number in decimal, padded with zeros in front to the given width. -/
def paddedText (width n : Nat) : List Char :=
  let digits := naturalText n
  List.replicate (width - digits.length) '0' ++ digits

/-! ## Days -/

/-- A day of the calendar. -/
structure Day where
  /-- The year. -/
  year : Nat
  /-- The month, one to twelve. -/
  month : Nat
  /-- The day of the month, from one. -/
  day : Nat
  deriving DecidableEq, Repr

/-- Year, month and day, joined by hyphens. -/
def Day.text (d : Day) : String :=
  String.ofList
    (paddedText 4 d.year ++ '-' :: paddedText 2 d.month ++ '-' :: paddedText 2 d.day)

/-- The number of days since the first of March of the year zero. -/
def Day.ordinal (d : Day) : Int :=
  let year : Int := if d.month ≤ 2 then d.year - 1 else d.year
  let month := if d.month ≤ 2 then d.month + 9 else d.month - 3
  365 * year + year / 4 - year / 100 + year / 400 + ((153 * month + 2) / 5 : Nat) + d.day - 1

/-! ## Moments -/

/-- A point in time: a day, the time of day, and the offset from universal time when known. -/
structure Moment where
  /-- The day. -/
  day : Day
  /-- Seconds since midnight. -/
  second : Nat
  /-- Microseconds within the second. -/
  micro : Nat
  /-- Microseconds by which the local time is ahead of universal time. -/
  offset : Option Int
  deriving DecidableEq, Repr

namespace Moment

/-- Hours, minutes and seconds, joined by colons. -/
def clockText (second : Nat) : List Char :=
  paddedText 2 (second / 3600) ++ ':' :: paddedText 2 (second / 60 % 60) ++ ':' ::
    paddedText 2 (second % 60)

/-- The number of microseconds in a second. -/
def microsPerSecond : Nat := 1000000

/-- An offset: sign, hours, minutes, and what there is of seconds and their parts. -/
def offsetText (offset : Int) : List Char :=
  let n := offset.natAbs / microsPerSecond
  let micros := offset.natAbs % microsPerSecond
  (if offset < 0 then '-' else '+') :: paddedText 2 (n / 3600) ++ ':' ::
    paddedText 2 (n / 60 % 60) ++
    (if n % 60 = 0 && micros = 0 then [] else ':' :: paddedText 2 (n % 60)) ++
    (if micros = 0 then [] else '.' :: paddedText 6 micros)

/-- The text of a moment, with the given character between day and time; microseconds are written
with six digits when there are any. -/
def text (separator : Char) (m : Moment) : String :=
  m.day.text ++ String.ofList
    (separator :: clockText m.second ++
      (if m.micro = 0 then [] else '.' :: paddedText 6 m.micro) ++
      (match m.offset with | none => [] | some offset => offsetText offset))

/-- Microseconds on the local clock. -/
def localMicros (m : Moment) : Int :=
  (m.day.ordinal * 86400 + m.second) * microsPerSecond + m.micro

/-- Whether two moments are the same point in time. -/
def same (a b : Moment) : Bool :=
  match a.offset, b.offset with
  | none, none => a.localMicros == b.localMicros
  | some x, some y => a.localMicros - x == b.localMicros - y
  | _, _ => false

/-! ## Reading -/

/-- A number of exactly `width` digits at the front, and what follows it. -/
def readPadded? (width : Nat) (cs : List Char) : Option (Nat × List Char) :=
  let digits := cs.take width
  if digits.length = width && digits.all isDigit then some (digitsValue digits, cs.drop width)
  else none

/-- A given character at the front, and what follows it. -/
def readMark? (mark : Char) : List Char → Option (List Char)
  | c :: cs => if c = mark then some cs else none
  | [] => none

/-- Three padded numbers of two digits, the first of the given width, with a mark in between. -/
def readTriple? (width : Nat) (mark : Char) (cs : List Char) :
    Option ((Nat × Nat × Nat) × List Char) := do
  let (a, cs) ← readPadded? width cs
  let cs ← readMark? mark cs
  let (b, cs) ← readPadded? 2 cs
  let cs ← readMark? mark cs
  let (c, cs) ← readPadded? 2 cs
  pure ((a, b, c), cs)

/-- What follows the minutes of an offset: nothing, or seconds with or without six digits of their
parts.  Gives microseconds. -/
def readOffsetEnd? : List Char → Option Nat
  | [] => some 0
  | mark :: cs =>
      if mark = ':' then
        match readPadded? 2 cs with
        | some (seconds, []) => some (seconds * microsPerSecond)
        | some (seconds, '.' :: rest) =>
            match readPadded? 6 rest with
            | some (micros, []) => some (seconds * microsPerSecond + micros)
            | _ => none
        | _ => none
      else none

/-- An offset that fills the whole text. -/
def readOffset? : List Char → Option (Option Int)
  | [] => some none
  | sign :: cs =>
      if sign = '+' || sign = '-' then do
        let (hours, cs) ← readPadded? 2 cs
        let cs ← readMark? ':' cs
        let (minutes, cs) ← readPadded? 2 cs
        let micros ← readOffsetEnd? cs
        let n : Int := ((hours * 3600 + minutes * 60) * microsPerSecond + micros : Nat)
        pure (some (if sign = '-' then -n else n))
      else none

end Moment

/-- The day that a text names. -/
def Day.ofText? (s : String) : Option Day :=
  match Moment.readTriple? 4 '-' s.toList with
  | some ((year, month, day), []) => some ⟨year, month, day⟩
  | _ => none

/-- The moment that a text names, whatever character stands between day and time. -/
def Moment.ofText? (s : String) : Option Moment := do
  let ((year, month, day), cs) ← Moment.readTriple? 4 '-' s.toList
  let cs := cs.drop 1
  let ((hours, minutes, seconds), cs) ← Moment.readTriple? 2 ':' cs
  let (micro, cs) ← match cs with
    | '.' :: cs => Moment.readPadded? 6 cs
    | cs => some (0, cs)
  let offset ← Moment.readOffset? cs
  pure ⟨⟨year, month, day⟩, hours * 3600 + minutes * 60 + seconds, micro, offset⟩

end DocConsole
