import WorkloadTrace.Value

/-!
# Dates and times of YAML

A date has a year of four digits, a month and a day. It can be followed by a time of day with
seconds, a fraction of a second, and a distance from universal time; the month, the day and the
hour may then have a single digit. The form does not make a date: there may be no such day.
-/

namespace WorkloadTrace.Yaml

/-- A time of day. -/
structure TimeOfDay where
  /-- The hour. -/
  hour : Nat
  /-- The minute. -/
  minute : Nat
  /-- The second. -/
  second : Nat
  /-- The millionth parts of the second. -/
  fraction : Nat
  /-- The distance from universal time in minutes, if one is written. -/
  offset : Option Int
deriving DecidableEq, Repr

/-- A date, possibly with a time of day. -/
structure Moment where
  /-- The year. -/
  year : Nat
  /-- The month. -/
  month : Nat
  /-- The day. -/
  day : Nat
  /-- The time of day. -/
  time : Option TimeOfDay
deriving DecidableEq, Repr

namespace Moment

/-- The number that the longest run of digits in front of a text denotes, if the run has a length
between two bounds, and what follows the run. -/
def number? (least most : Nat) (s : Text) : Option (Nat × Text) :=
  let ds := s.takeWhile Decimal.isDigit
  if least ≤ ds.length ∧ ds.length ≤ most then
    some (Decimal.value ds, s.dropWhile Decimal.isDigit)
  else none

/-- The number after a mark, as in `number?`. -/
def numberAfter? (mark : CodePoint) (least most : Nat) : Text → Option (Nat × Text)
  | c :: rest => if c = mark then number? least most rest else none
  | [] => none

/-- A space or a tab. -/
def isGap (c : CodePoint) : Bool := c = char ' ' || c = char '\t'

/-- The distance from universal time that the end of a time names: none at all, the letter for
universal time itself, which is no distance, or a sign with hours and possibly minutes. -/
def zone? (s : Text) : Option (Option Int) :=
  match s.dropWhile isGap with
  | [] => if s.isEmpty then some none else none
  | char 'Z' :: rest => if rest.isEmpty then some (some 0) else none
  | sign :: rest => do
    if sign ≠ char '+' ∧ sign ≠ char '-' then none
    let (hours, rest) ← number? 1 2 rest
    let (minutes, rest) ← if rest.isEmpty then some (0, []) else numberAfter? (char ':') 2 2 rest
    if !rest.isEmpty then none
    let distance : Int := hours * 60 + minutes
    return some (if sign = char '-' then -distance else distance)

/-- The millionth parts that the digits of a fraction denote; further digits do not count. -/
def millionths (ds : Text) : Nat :=
  let kept := ds.take 6
  Decimal.value (kept ++ List.replicate (6 - kept.length) (char '0'))

/-- A fraction of a second, which need not be there, and what follows it. -/
def splitFraction : Text → Nat × Text
  | char '.' :: rest =>
    (millionths (rest.takeWhile Decimal.isDigit), rest.dropWhile Decimal.isDigit)
  | s => (0, s)

/-- The time of day that a text is. -/
def time? (s : Text) : Option TimeOfDay := do
  let (hour, rest) ← number? 1 2 s
  let (minute, rest) ← numberAfter? (char ':') 2 2 rest
  let (second, rest) ← numberAfter? (char ':') 2 2 rest
  let (fraction, rest) := splitFraction rest
  return ⟨hour, minute, second, fraction, ← zone? rest⟩

/-- What follows the mark between a date and a time: one letter or a run of blanks. -/
def afterMark? : Text → Option Text
  | char 'T' :: rest => some rest
  | char 't' :: rest => some rest
  | c :: rest => if isGap c then some (rest.dropWhile isGap) else none
  | [] => none

/-- The date alone that a text is, with two digits for the month and for the day. -/
def date? (s : Text) : Option Moment := do
  let (year, rest) ← number? 4 4 s
  let (month, rest) ← numberAfter? (char '-') 2 2 rest
  let (day, rest) ← numberAfter? (char '-') 2 2 rest
  if rest.isEmpty then return ⟨year, month, day, none⟩ else none

/-- The date with a time of day that a text is. -/
def dateTime? (s : Text) : Option Moment := do
  let (year, rest) ← number? 4 4 s
  let (month, rest) ← numberAfter? (char '-') 1 2 rest
  let (day, rest) ← numberAfter? (char '-') 1 2 rest
  let time ← time? (← afterMark? rest)
  return ⟨year, month, day, some time⟩

/-- The date, possibly with a time of day, that a text is. -/
def parse? (s : Text) : Option Moment := (date? s).or (dateTime? s)

/-- Whether a year is a leap year. -/
def isLeap (year : Nat) : Bool := year % 4 == 0 && (year % 100 != 0 || year % 400 == 0)

/-- The number of days of a month. -/
def daysIn (year month : Nat) : Nat :=
  if month = 2 then (if isLeap year then 29 else 28)
  else if month = 4 ∨ month = 6 ∨ month = 9 ∨ month = 11 then 30
  else 31

/-- The minutes of a day. -/
def dayMinutes : Int := 1440

/-- A distance in minutes as whole days and the seconds beyond them. -/
def spanText (distance : Int) : Text :=
  let days := distance.fdiv dayMinutes
  let seconds := distance.fmod dayMinutes * 60
  let part (name : String) (n : Int) : List Text :=
    if n = 0 then [] else [name.toText ++ char '=' :: Decimal.ofInt n]
  "datetime.timedelta(".toText ++
    Text.joinWith ", ".toText (part "days" days ++ part "seconds" seconds) ++ [char ')']

/-- Why a distance from universal time is none: it is a day or more. -/
def offsetFault? (distance : Int) : Option Text :=
  if -dayMinutes < distance ∧ distance < dayMinutes then none
  else
    some ("offset must be a timedelta strictly between -timedelta(hours=24) and ".toText ++
      "timedelta(hours=24), not ".toText ++ spanText distance ++ [char '.'])

/-- Why a time of day is none. -/
def timeFault? (t : TimeOfDay) : Option Text :=
  if 23 < t.hour then some "hour must be in 0..23".toText
  else if 59 < t.minute then some "minute must be in 0..59".toText
  else if 59 < t.second then some "second must be in 0..59".toText
  else none

/-- Why a date is none. -/
def dateFault? (m : Moment) : Option Text :=
  if m.year = 0 then some "year 0 is out of range".toText
  else if m.month = 0 ∨ 12 < m.month then some "month must be in 1..12".toText
  else if m.day = 0 ∨ daysIn m.year m.month < m.day then
    some "day is out of range for month".toText
  else none

/-- The name of the kind of a moment. -/
def kind (m : Moment) : Text :=
  if m.time.isSome then "datetime.datetime".toText else "datetime.date".toText

/-- The literal form of a distance from universal time. -/
def zoneText (distance : Int) : Text :=
  if distance = 0 then "datetime.timezone.utc".toText
  else "datetime.timezone(".toText ++ spanText distance ++ [char ')']

/-- The literal form of a moment: seconds that are zero are left out together with what is
smaller. -/
def literal (m : Moment) : Text :=
  let date := [m.year, m.month, m.day]
  let (numbers, zone) := match m.time with
    | none => (date, none)
    | some t =>
      let seconds :=
        if t.fraction ≠ 0 then [t.second, t.fraction] else if t.second ≠ 0 then [t.second] else []
      (date ++ [t.hour, t.minute] ++ seconds, t.offset)
  let parts := numbers.map Decimal.ofNat ++
    (zone.map fun d => "tzinfo=".toText ++ zoneText d).toList
  m.kind ++ char '(' :: Text.joinWith ", ".toText parts ++ [char ')']

/-- The days from the beginning of the calendar to the first day of a year. -/
def daysBefore (year : Nat) : Nat :=
  let y := year - 1
  365 * y + y / 4 - y / 100 + y / 400

/-- The number of a day. -/
def dayNumber (m : Moment) : Nat :=
  (List.range m.month).foldl (fun n month => n + daysIn m.year month) (daysBefore m.year) + m.day

/-- The point in time, in millionth parts of a second, that a moment with a distance from universal
time is. -/
def instant? (m : Moment) : Option Int := do
  let t ← m.time
  let distance ← t.offset
  let minutes : Int := (m.dayNumber * 24 + t.hour) * 60 + t.minute - distance
  return (minutes * 60 + t.second) * 1000000 + t.fraction

/-- Whether two moments are one: points in time however they are written, others when nothing
differs. -/
def same (a b : Moment) : Bool :=
  match a.instant?, b.instant? with
  | some x, some y => x == y
  | _, _ => a == b

/-- Why a moment is none: the distance counts first, then the date, then the time of day. -/
def fault? (m : Moment) : Option Text :=
  ((m.time.bind TimeOfDay.offset).bind offsetFault?).or
    (m.dateFault?.or (m.time.bind timeFault?))

end Moment

end WorkloadTrace.Yaml
