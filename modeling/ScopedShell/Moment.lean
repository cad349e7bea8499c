import ScopedShell.Text

/-!
# Moments

Dates, with or without a time of day, and how they are written in messages. A time of day may say
how far its clock is ahead of universal time; two such moments are the same when they name the same
instant. Days are counted from the first day of the year one.
-/

namespace ScopedShell

structure Clock where
  hour : Nat
  minute : Nat
  second : Nat
  microsecond : Nat
  /-- Minutes ahead of universal time, where that is known. -/
  offset : Option Int
deriving DecidableEq, Repr

structure Moment where
  year : Nat
  month : Nat
  day : Nat
  clock : Option Clock
deriving DecidableEq, Repr

namespace Moment

def isLeap (year : Nat) : Bool :=
  year % 4 == 0 && (year % 100 != 0 || year % 400 == 0)

def daysIn (year month : Nat) : Nat :=
  if month = 2 then (if isLeap year then 29 else 28)
  else if month ∈ [4, 6, 9, 11] then 30
  else 31

/-- The number of a day, counted from the first day of the year one. -/
def dayNumber (m : Moment) : Nat :=
  let before := m.year - 1
  365 * before + before / 4 - before / 100 + before / 400 +
    (List.range (m.month - 1)).foldl (fun days n => days + daysIn m.year (n + 1)) 0 + m.day

/-- The microseconds up to a time of day that is taken for universal time. -/
def instant (day : Nat) (c : Clock) (offset : Int) : Int :=
  let minutes := Int.ofNat ((day * 24 + c.hour) * 60 + c.minute) - offset
  (minutes * 60 + Int.ofNat c.second) * 1000000 + Int.ofNat c.microsecond

def same (m n : Moment) : Bool :=
  match m.clock, n.clock with
  | some c, some d =>
    match c.offset, d.offset with
    | some a, some b => instant m.dayNumber c a == instant n.dayNumber d b
    | none, none => m == n
    | _, _ => false
  | none, none => m == n
  | _, _ => false

def writtenCall (name : Text) (arguments : List Text) : Text :=
  name ++ '(' :: [',', ' '].intercalate arguments ++ [')']

/-- A length of time of some minutes: whole days, and the seconds that remain. -/
def writtenDuration (minutes : Int) : Text :=
  let days := minutes.fdiv 1440
  let seconds := minutes.fmod 1440 * 60
  writtenCall "datetime.timedelta"
    ((if days = 0 then [] else [("days=" : Text) ++ Text.ofInt days]) ++
      (if seconds = 0 then [] else [("seconds=" : Text) ++ Text.ofInt seconds]))

def writtenOffset (minutes : Int) : Text :=
  if minutes = 0 then "datetime.timezone.utc"
  else writtenCall "datetime.timezone" [writtenDuration minutes]

/-- The seconds and microseconds of a time of day, as far as they say anything. -/
def writtenSeconds (c : Clock) : List Text :=
  if c.microsecond ≠ 0 then [Text.ofNat c.second, Text.ofNat c.microsecond]
  else if c.second ≠ 0 then [Text.ofNat c.second]
  else []

def text (m : Moment) : Text :=
  let date := [Text.ofNat m.year, Text.ofNat m.month, Text.ofNat m.day]
  match m.clock with
  | none => writtenCall "datetime.date" date
  | some c =>
    writtenCall "datetime.datetime"
      (date ++ [Text.ofNat c.hour, Text.ofNat c.minute] ++ writtenSeconds c ++
        (match c.offset with
          | some minutes => [("tzinfo=" : Text) ++ writtenOffset minutes]
          | none => []))

end Moment

end ScopedShell
