import RetrySafe.Decimal.Digits
import RetrySafe.Text.Blank
import RetrySafe.Time.Instant

/-!
# RFC 3339 texts

Instants as text and back. Written texts end in `Z`; a year of one to four digits has four, any
other a sign and at least four, and a leap second shows as second 60. Two readers are given: a
strict one with every field at its place, and a relaxed one that lets blanks stand between fields,
fields be short and minutes of an offset be missing.

## Main definitions

* `Instant.text` — with the fewest of 0, 3, 6 and 9 digits that are exact.
* `Instant.micros` — with six digits, what is below a microsecond cut off.
* `Instant.display` — the form used in sentences.
* `readStrict`, `readRelaxed` — the readers.
* `Fault` — why a text is no instant.
-/

namespace RetrySafe.Time

open RetrySafe.Decimal (padded ofNat)

/-! ## Writing -/

/-- A year: four digits, or a sign and at least four. -/
def yearText (year : Int) : List Char :=
  if 0 ≤ year ∧ year ≤ 9999 then padded 4 year.toNat
  else (if year < 0 then '-' else '+') :: padded 4 year.natAbs

namespace Date

/-- Year, month and day between hyphens. -/
def text (date : Date) : List Char :=
  yearText date.year ++ '-' :: (padded 2 date.month ++ '-' :: padded 2 date.day)

end Date

namespace Instant

/-- Hour, minute and second between colons; a leap second is second 60. -/
def clockText (t : Instant) : List Char :=
  let second := t.secondOfDay % 60 + t.nanos / 1000000000
  padded 2 (t.secondOfDay / 3600) ++ ':' :: (padded 2 (t.secondOfDay / 60 % 60) ++
    ':' :: padded 2 second)

/-- The fraction of the second with the fewest of 0, 3, 6 and 9 digits that are exact. -/
def fractionText (t : Instant) : List Char :=
  let nanos := t.nanos % 1000000000
  if nanos = 0 then []
  else if nanos % 1000000 = 0 then '.' :: padded 3 (nanos / 1000000)
  else if nanos % 1000 = 0 then '.' :: padded 6 (nanos / 1000)
  else '.' :: padded 9 nanos

/-- The instant with the digits it needs. -/
def text (t : Instant) : String :=
  String.ofList (t.date.text ++ 'T' :: (t.clockText ++ t.fractionText ++ ['Z']))

/-- The instant with six digits after the point, the rest cut off. -/
def micros (t : Instant) : String :=
  String.ofList (t.date.text ++ 'T' :: (t.clockText ++
    '.' :: (padded 6 (t.nanos % 1000000000 / 1000) ++ ['Z'])))

/-- The instant as it stands in a sentence. -/
def display (t : Instant) : String :=
  String.ofList (t.date.text ++ ' ' :: (t.clockText ++ t.fractionText)) ++ " UTC"

end Instant

/-! ## Reading -/

/-- Why a text is no instant. -/
inductive Fault
  /-- The text ends too early. -/
  | tooShort
  /-- A character does not belong where it stands. -/
  | invalid
  /-- A field has a value that does not exist. -/
  | outOfRange
  /-- Something follows the instant. -/
  | tooLong
  /-- The offset leads out of the calendar. -/
  | impossible
  deriving DecidableEq, Repr

/-- The sentence for a fault. -/
def Fault.message : Fault → String
  | .tooShort => "premature end of input"
  | .invalid => "input contains invalid characters"
  | .outOfRange => "input is out of range"
  | .tooLong => "trailing input"
  | .impossible => "no possible date and time matching input"

/-- Reads the start of a text and leaves the rest. -/
abbrev Reader := StateT (List Char) (Except Fault)

/-- A refusal unless a condition holds. -/
def require (condition : Bool) (fault : Fault) : Except Fault Unit :=
  if condition then .ok () else .error fault

/-- A refusal at a place: with nothing left the text is too short, otherwise it is invalid. -/
def refuse (rest : List Char) : Fault := if rest.isEmpty then .tooShort else .invalid

/-- Exactly `count` digits. -/
def exactDigits (count : Nat) : Reader Nat := fun cs =>
  let (digits, rest) := Decimal.takeDigits count cs
  if digits.length = count then .ok (Decimal.value digits, rest) else .error (refuse rest)

/-- One of the given characters. -/
def oneOf (choices : List Char) : Reader Unit := fun cs =>
  match cs with
  | [] => .error .tooShort
  | c :: cs => if choices.contains c then .ok ((), cs) else .error .invalid

/-- Blanks, if there are any. -/
def skipBlanks : Reader Unit := modify Text.trimStart

/-- The nanoseconds after a point: at least one digit, those after the ninth skipped. -/
def fraction : Reader Nat := fun cs =>
  match cs with
  | '.' :: cs =>
    let (digits, rest) := Decimal.takeDigits 9 cs
    if digits.isEmpty then .error (refuse rest)
    else .ok (Decimal.value digits * Nat.pow 10 (9 - digits.length), rest.dropWhile Char.isDigit)
  | cs => .ok (0, cs)

/-- The sign of an offset: a plus, a hyphen or the minus sign. -/
def offsetSign : Reader Int := fun cs =>
  match cs with
  | [] => .error .tooShort
  | c :: cs =>
    if c = '+' then .ok (1, cs)
    else if c = '-' ∨ c = '\u2212' then .ok (-1, cs)
    else .error .invalid

/-- Two digits that start a text of at least two bytes. -/
def twoDigits : Reader Nat := fun cs =>
  if (String.ofList cs).utf8ByteSize < 2 then .error .tooShort
  else
    match cs with
    | a :: b :: rest =>
      if a.isDigit ∧ b.isDigit then .ok (Decimal.value [a, b], rest) else .error .invalid
    | _ => .error .invalid

/-- The minutes of an offset. -/
def offsetMinutes : Reader Nat := do
  let minutes ← twoDigits
  require (minutes < 60) .outOfRange
  return minutes

/-- The letter of an offset of zero, if it stands here. -/
def zulu : Reader Bool := fun cs =>
  match cs with
  | 'Z' :: rest | 'z' :: rest => .ok (true, rest)
  | cs => .ok (false, cs)

/-- An offset of hours and minutes in seconds, the two parted by a colon. -/
def strictOffset : Reader Int := do
  if ← zulu then return 0
  let sign ← offsetSign
  let hours ← twoDigits
  oneOf [':']
  let minutes ← offsetMinutes
  return sign * (hours * 3600 + minutes * 60 : Nat)

/-- An offset whose colon may be blanks or missing. -/
def relaxedOffset : Reader Int := do
  if ← zulu then return 0
  let sign ← offsetSign
  let hours ← twoDigits
  modify (·.dropWhile fun c => c = ':' || Text.isBlank c)
  let minutes ← offsetMinutes
  return sign * (hours * 3600 + minutes * 60 : Nat)

/-- The instant of a local date, time and offset in seconds. Second 60 is a leap second. -/
def assemble (date : Date) (hour minute second nanos : Nat) (offset : Int) :
    Except Fault Instant := do
  require (-86400 < offset ∧ offset < 86400) .outOfRange
  let seconds := date.toDays * 86400 + (hour * 3600 + minute * 60 + min second 59 : Nat) - offset
  let nanos := if second = 60 then 1000000000 + nanos else nanos
  let some t := Instant.of? seconds nanos | throw .outOfRange
  require t.InCalendar .impossible
  return t

/-- The offset of local time is less than a day. -/
def checkOffset (offset : Int) : Except Fault Unit :=
  require (-86400 < offset ∧ offset < 86400) .outOfRange

/-- An instant whose fields all stand at their places: ten characters of date, a `T` or a space,
eight of time, a fraction or none, and an offset. The date is checked as soon as it is read, and the
time after its fraction. -/
def strict : Reader Instant := do
  let year ← exactDigits 4
  oneOf ['-']
  let month ← exactDigits 2
  oneOf ['-']
  let day ← exactDigits 2
  let date : Date := ⟨year, month, day⟩
  require (decide date.IsValid) .outOfRange
  oneOf ['T', 't', ' ']
  let hour ← exactDigits 2
  oneOf [':']
  let minute ← exactDigits 2
  oneOf [':']
  let second ← exactDigits 2
  let nanos ← fraction
  require (hour ≤ 23 ∧ minute ≤ 59 ∧ second ≤ 60) .outOfRange
  let offset ← strictOffset
  checkOffset offset
  require (← get).isEmpty .tooLong
  assemble date hour minute second nanos offset

/-- Read an instant whose fields all stand at their places. -/
def readStrict (text : String) : Except Fault Instant := do
  require (19 ≤ text.utf8ByteSize) .tooShort
  strict.run' text.toList

/-- A number of at most `limit` digits after blanks, in a closed range. -/
def shortField (limit low high : Nat) : Reader Nat := do
  skipBlanks
  let (digits, rest) := Decimal.takeDigits limit (← get)
  if digits.isEmpty then throw (refuse rest)
  let n := Decimal.value digits
  require (low ≤ n ∧ n ≤ high) .outOfRange
  set rest
  return n

/-- A year after blanks: up to four digits, or a sign and any number of digits. -/
def yearField : Reader Int := do
  skipBlanks
  match ← get with
  | [] => throw .tooShort
  | c :: cs =>
    if c = '-' ∨ c = '+' then
      let (digits, rest) := Decimal.spanDigits cs
      if digits.isEmpty then throw (refuse rest)
      let year : Int := if c = '-' then -Decimal.value digits else Decimal.value digits
      require (-2147483648 ≤ year ∧ year < 2147483648) .outOfRange
      set rest
      return year
    else return ← shortField 4 0 9999

/-- A separator after blanks. -/
def mark (c : Char) : Reader Unit := do
  skipBlanks
  oneOf [c]

/-- The three letters of an offset of zero, in either case, or an offset. -/
def namedOffset : Reader Int := do
  if ((← get).take 3).map Char.toUpper = ['U', 'T', 'C'] then
    modify (·.drop 3)
    return 0
  else relaxedOffset

/-- An instant with blanks between its fields, and fields that may be short. The date is checked as
a whole only after all fields are read. -/
def relaxed : Reader Instant := do
  let year ← yearField
  mark '-'
  let month ← shortField 2 1 12
  mark '-'
  let day ← shortField 2 1 31
  oneOf ['T', 't', ' ']
  let hour ← shortField 2 0 23
  mark ':'
  let minute ← shortField 2 0 59
  mark ':'
  let second ← shortField 2 0 60
  let nanos ← fraction
  skipBlanks
  let offset ← namedOffset
  require (Text.trimStart (← get)).isEmpty .tooLong
  let date : Date := ⟨year, month, day⟩
  require (decide date.IsValid && decide (-262143 ≤ year ∧ year ≤ 262142)) .outOfRange
  assemble date hour minute second nanos offset

/-- Read an instant with blanks between its fields, and fields that may be short. -/
def readRelaxed (text : String) : Except Fault Instant := relaxed.run' text.toList

end RetrySafe.Time
