import RetrySafe.Decimal.Digits
import RetrySafe.Time.Date

/-!
# TOML dates and times

A moment is a date, a time of day, or both with or without an offset from universal time. It is read
into one written form: a `T` between date and time, the fraction of the second to nine digits
without zeros at its end, and a `Z` or an offset of hours and minutes.

## Main definitions

* `moment` — the written form of a date, a time or both.
-/

namespace RetrySafe.Toml

open RetrySafe.Decimal (padded)

/-- Two digits, and the number they stand for, which is at most `high`. -/
def pair (high : Nat) (cs : List Char) : Option (Nat × List Char) :=
  let (digits, rest) := Decimal.takeDigits 2 cs
  let n := Decimal.value digits
  if digits.length = 2 ∧ n ≤ high then some (n, rest) else none

/-- What follows a character. -/
def expect (c : Char) : List Char → Option (List Char)
  | d :: cs => if d = c then some cs else none
  | [] => none

/-- A date of the calendar. -/
def date (cs : List Char) : Option (Time.Date × List Char) := do
  let (year, cs) := Decimal.takeDigits 4 cs
  if year.length ≠ 4 then none
  let (month, cs) ← pair 12 (← expect '-' cs)
  let (day, cs) ← pair 31 (← expect '-' cs)
  let date : Time.Date := ⟨Decimal.value year, month, day⟩
  if date.IsValid then some (date, cs) else none

/-- The digits after the point of a second, without zeros at their end; those after the ninth do
not count. -/
def subsecond (cs : List Char) : List Char × List Char :=
  match cs with
  | '.' :: cs' =>
    match Decimal.spanDigits cs' with
    | ([], _) => ([], cs)
    | (digits, rest) =>
      match ((digits.take 9).reverse.dropWhile (· = '0')).reverse with
      | [] => ([], rest)
      | digits => ('.' :: digits, rest)
  | cs => ([], cs)

/-- A time of day. -/
def time (cs : List Char) : Option (List Char × List Char) := do
  let (hour, cs) ← pair 23 cs
  let (minute, cs) ← pair 59 (← expect ':' cs)
  let (second, cs) ← pair 60 (← expect ':' cs)
  let (fraction, cs) := subsecond cs
  return (padded 2 hour ++ ':' :: (padded 2 minute ++ ':' :: (padded 2 second ++ fraction)), cs)

/-- An offset of hours and minutes, after its sign. An offset of zero has a plus. -/
def hoursAndMinutes (sign : Char) (cs : List Char) : Option (List Char × List Char) := do
  let (hours, cs) ← pair 23 cs
  let (minutes, cs) ← pair 59 (← expect ':' cs)
  let sign := if hours = 0 ∧ minutes = 0 then '+' else sign
  return (sign :: (padded 2 hours ++ ':' :: padded 2 minutes), cs)

/-- An offset, if there is one. -/
def offset (cs : List Char) : List Char × List Char :=
  match cs with
  | 'Z' :: rest | 'z' :: rest => (['Z'], rest)
  | '+' :: rest => (hoursAndMinutes '+' rest).getD ([], cs)
  | '-' :: rest => (hoursAndMinutes '-' rest).getD ([], cs)
  | cs => ([], cs)

/-- The time of day after a date, with its offset, if there is one. -/
def timeAfterDate (cs : List Char) : List Char × List Char :=
  let found :=
    match cs with
    | 'T' :: rest | 't' :: rest | ' ' :: rest => time rest
    | _ => none
  match found with
  | none => ([], cs)
  | some (time, rest) =>
    let (offset, rest) := offset rest
    ('T' :: (time ++ offset), rest)

/-- The written form of a date. -/
def dateText (d : Time.Date) : List Char :=
  padded 4 d.year.toNat ++ '-' :: (padded 2 d.month ++ '-' :: padded 2 d.day)

/-- The written form of a date, a time or both. -/
def moment (cs : List Char) : Option (List Char × List Char) :=
  match date cs with
  | some (d, rest) =>
    let (time, rest) := timeAfterDate rest
    some (dateText d ++ time, rest)
  | none => time cs

end RetrySafe.Toml
