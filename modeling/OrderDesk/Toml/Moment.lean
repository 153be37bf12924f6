import OrderDesk.Instant

/-!
Dates and times of a TOML document: a date, a time, or both, and then perhaps a time zone. They are
written as they were read, but for capital letters, the kind of sign between date and time, and
zeros at the end of a fraction. `read?` reads one at the start of a text, and `ofText?` one that a
string holds, with wider bounds for the hour and the zone.
-/
namespace OrderDesk.Toml
open Instant

/-- A day of the calendar. -/
structure Day where
  year : Nat
  month : Nat
  day : Nat
  deriving DecidableEq, Repr

/-- A time of the day. -/
structure Clock where
  hour : Nat
  minute : Nat
  second : Nat
  nano : Nat
  deriving DecidableEq, Repr

/-- Universal time, or the minutes by which a zone is ahead of it. -/
inductive Zone where
  | universal
  | ahead (minutes : Int)
  deriving DecidableEq, Repr

/-- A date, a time, or both. -/
inductive Moment where
  | date (day : Day)
  | time (clock : Clock)
  | both (day : Day) (clock : Clock) (zone : Option Zone)
  deriving DecidableEq, Repr

namespace Moment

/-- A date, and what follows it. -/
def readDay? (s : List Char) : Option (Day × List Char) := do
  let (year, s) ← digits? 4 s
  let s ← sign? ['-'] s
  let (month, s) ← digits? 2 s
  let s ← sign? ['-'] s
  let (day, s) ← digits? 2 s
  if 1 ≤ month ∧ month ≤ 12 ∧ 1 ≤ day ∧ day ≤ daysInMonth year month then
    some (⟨year, month, day⟩, s)
  else none

/-- The bounds of a time: its last hour, and which hours and minutes a zone may be ahead. -/
structure Bounds where
  lastHour : Nat
  isAhead : Nat → Nat → Bool

/-- The bounds of a time that stands by itself. -/
def narrow : Bounds := ⟨23, fun hours minutes => hours < 24 && minutes < 60⟩

/-- The bounds of a time within a string. -/
def wide : Bounds := ⟨24, fun hours minutes => 60 * hours + minutes ≤ 24 * 60⟩

/-- A time, and what follows it. -/
def readClock? (bounds : Bounds) (s : List Char) : Option (Clock × List Char) := do
  let (hour, s) ← digits? 2 s
  let s ← sign? [':'] s
  let (minute, s) ← digits? 2 s
  let s ← sign? [':'] s
  let (second, s) ← digits? 2 s
  let (nano, s) ← fraction? s
  if hour ≤ bounds.lastHour ∧ minute < 60 ∧ second ≤ 60 then
    some (⟨hour, minute, second, nano⟩, s)
  else none

/-- The time zone, if one is written, and what follows it. -/
def readZone? (bounds : Bounds) : List Char → Option (Option Zone × List Char)
  | 'Z' :: rest => some (some .universal, rest)
  | 'z' :: rest => some (some .universal, rest)
  | '+' :: rest => (readAhead? 1 rest).map fun (z, rest) => (some z, rest)
  | '-' :: rest => (readAhead? (-1) rest).map fun (z, rest) => (some z, rest)
  | s => some (none, s)
where
  /-- The hours and minutes of a zone. -/
  readAhead? (sign : Int) (s : List Char) : Option (Zone × List Char) := do
    let (hours, s) ← digits? 2 s
    let s ← sign? [':'] s
    let (minutes, s) ← digits? 2 s
    if bounds.isAhead hours minutes then
      some (.ahead (sign * (60 * hours + minutes : Nat)), s)
    else none

/-- A time after a date and the sign between them, with its zone. -/
def readRest? (bounds : Bounds) (day : Day) (s : List Char) : Option (Moment × List Char) := do
  let s ← sign? ['T', 't', ' '] s
  let (clock, s) ← readClock? bounds s
  let (zone, s) ← readZone? bounds s
  some (both day clock zone, s)

/-- A date, a time, or both, and what follows. -/
def read? (s : List Char) : Option (Moment × List Char) :=
  match readDay? s with
  | some (day, s) => some ((readRest? narrow day s).getD (date day, s))
  | none => (readClock? narrow s).map fun (clock, s) => (time clock, s)

/-- The date or time that a text writes as a whole. -/
def ofText? (s : List Char) : Option Moment := do
  let (m, rest) ←
    match readDay? s with
    | some (day, []) => some (date day, [])
    | some (day, rest) => readRest? wide day rest
    | none => (readClock? wide s).map fun (clock, rest) => (time clock, rest)
  if rest.isEmpty then some m else none

/-- The text of a date. -/
def dayText (d : Day) : String :=
  padded 4 d.year ++ "-" ++ padded 2 d.month ++ "-" ++ padded 2 d.day

/-- The digits of a fraction without zeros at their end. -/
def nanoText (nano : Nat) : String :=
  if nano = 0 then ""
  else
    "." ++ String.ofList ((padded 9 nano).toList.reverse.dropWhile (· == '0')).reverse

/-- The text of a time. -/
def clockText (c : Clock) : String :=
  padded 2 c.hour ++ ":" ++ padded 2 c.minute ++ ":" ++ padded 2 c.second ++ nanoText c.nano

/-- The text of a time zone. -/
def zoneText : Zone → String
  | .universal => "Z"
  | .ahead minutes =>
    let size := minutes.natAbs
    (if minutes < 0 then "-" else "+") ++ padded 2 (size / 60) ++ ":" ++ padded 2 (size % 60)

/-- The text of a date or time. -/
def text : Moment → String
  | date day => dayText day
  | time clock => clockText clock
  | both day clock zone =>
    dayText day ++ "T" ++ clockText clock ++ (zone.map zoneText).getD ""

end Moment
end OrderDesk.Toml
