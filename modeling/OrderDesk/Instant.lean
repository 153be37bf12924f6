/-!
Points in time, read from and written as RFC 3339 texts. A text may stand in any time zone, and
an instant is always written in universal time. A second numbered 60 is kept as such.
-/
namespace OrderDesk

/-- A point in time: the day since the first of January 1970, the second of that day, and the
nanosecond of that second, which reaches past one second in a second numbered 60. -/
structure Instant where
  day : Int
  second : Nat
  nano : Nat
  deriving DecidableEq, Repr, Inhabited

namespace Instant

/-- Whether a year has 366 days. -/
def isLeapYear (year : Int) : Bool :=
  year % 4 == 0 && (year % 100 != 0 || year % 400 == 0)

/-- The number of days of a month. -/
def daysInMonth (year : Int) (month : Nat) : Nat :=
  if month = 2 then (if isLeapYear year then 29 else 28)
  else if month = 4 ∨ month = 6 ∨ month = 9 ∨ month = 11 then 30
  else 31

/-- The days from the first of March of year zero to the first of January 1970. -/
def epoch : Int := 719468

/-- The number of a day of the calendar. Years are counted from March, so that the day that leap
years add comes last. -/
def dayOfDate (year : Int) (month day : Nat) : Int :=
  let y := if month ≤ 2 then year - 1 else year
  let m : Nat := if month ≤ 2 then month + 9 else month - 3
  365 * y + y / 4 - y / 100 + y / 400 + ((153 * m + 2) / 5 : Nat) + (day - 1 : Nat) - epoch

/-- The year, month and day of a day's number. -/
def dateOfDay (day : Int) : Int × Nat × Nat :=
  let z := day + epoch
  let era := z / 146097
  let doe : Nat := (z % 146097).toNat
  let yoe := (doe - doe / 1460 + doe / 36524 - doe / 146096) / 365
  let doy := doe - (365 * yoe + yoe / 4 - yoe / 100)
  let m := (5 * doy + 2) / 153
  let d := doy - (153 * m + 2) / 5 + 1
  let month := if m < 10 then m + 3 else m - 9
  ((yoe : Int) + era * 400 + (if month ≤ 2 then 1 else 0), month, d)

/-- The value of a row of digits. -/
def number (ds : List Char) : Nat :=
  ds.foldl (fun n d => 10 * n + (d.toNat - '0'.toNat)) 0

/-- The number that the first `n` characters write, all of them digits. -/
def digits? (n : Nat) (s : List Char) : Option (Nat × List Char) :=
  let ds := s.take n
  if ds.length = n ∧ ds.all Char.isDigit then some (number ds, s.drop n) else none

/-- What follows one character out of `cs`. -/
def sign? (cs : List Char) : List Char → Option (List Char)
  | [] => none
  | c :: rest => if c ∈ cs then some rest else none

/-- The nanoseconds after the point, of which the first nine digits count. -/
def fraction? : List Char → Option (Nat × List Char)
  | '.' :: rest =>
    match rest.takeWhile Char.isDigit with
    | [] => none
    | ds => some (number ((ds ++ List.replicate 9 '0').take 9), rest.dropWhile Char.isDigit)
  | s => some (0, s)

/-- The minutes by which a time zone is ahead of universal time. -/
def zone? : List Char → Option (Int × List Char)
  | [] => none
  | c :: rest =>
    if c = 'Z' ∨ c = 'z' then some (0, rest)
    else if c = '+' ∨ c = '-' ∨ c = '−' then do
      let (hours, s) ← digits? 2 rest
      let s ← sign? [':'] s
      let (minutes, s) ← digits? 2 s
      if hours < 24 ∧ minutes < 60 then
        let ahead : Int := (60 * hours + minutes : Nat)
        some (if c = '+' then ahead else -ahead, s)
      else none
    else none

/-- The instant that a text writes. -/
def parse? (raw : String) : Option Instant := do
  let (year, s) ← digits? 4 raw.toList
  let s ← sign? ['-'] s
  let (month, s) ← digits? 2 s
  let s ← sign? ['-'] s
  let (day, s) ← digits? 2 s
  let s ← sign? ['T', 't', ' '] s
  let (hour, s) ← digits? 2 s
  let s ← sign? [':'] s
  let (minute, s) ← digits? 2 s
  let s ← sign? [':'] s
  let (second, s) ← digits? 2 s
  let (nano, s) ← fraction? s
  let (ahead, s) ← zone? s
  if s.isEmpty ∧ 1 ≤ month ∧ month ≤ 12 ∧ 1 ≤ day ∧ day ≤ daysInMonth year month ∧
      hour < 24 ∧ minute < 60 ∧ second ≤ 60 then
    let inDay : Int := (3600 * hour + 60 * minute + min second 59 : Nat) - 60 * ahead
    some {
      day := dayOfDate year month day + inDay / 86400
      second := (inDay % 86400).toNat
      nano := if second = 60 then nano + 1000000000 else nano }
  else none

/-- A number with at least `width` digits. -/
def padded (width n : Nat) : String :=
  let ds := Nat.toDigits 10 n
  String.ofList (List.replicate (width - ds.length) '0' ++ ds)

/-- A year, which has a sign outside the range of four digits. -/
def yearText (year : Int) : String :=
  if 0 ≤ year ∧ year ≤ 9999 then padded 4 year.toNat
  else if year < 0 then "-" ++ padded 4 (-year).toNat
  else "+" ++ padded 4 year.toNat

/-- The digits after the second: none, three, six or nine of them. -/
def nanoText (nano : Nat) : String :=
  if nano = 0 then ""
  else if nano % 1000000 = 0 then "." ++ padded 3 (nano / 1000000)
  else if nano % 1000 = 0 then "." ++ padded 6 (nano / 1000)
  else "." ++ padded 9 nano

/-- The text of an instant in universal time. -/
def text (t : Instant) : String :=
  let (year, month, day) := dateOfDay t.day
  let leap := 1000000000 ≤ t.nano
  let second := t.second % 60 + if leap then 1 else 0
  let nano := if leap then t.nano - 1000000000 else t.nano
  yearText year ++ "-" ++ padded 2 month ++ "-" ++ padded 2 day ++ "T" ++
    padded 2 (t.second / 3600) ++ ":" ++ padded 2 (t.second / 60 % 60) ++ ":" ++
    padded 2 second ++ nanoText nano ++ "+00:00"

end Instant
end OrderDesk
