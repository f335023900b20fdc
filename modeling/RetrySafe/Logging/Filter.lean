import RetrySafe.Decimal.Digits
import RetrySafe.Logging.Pattern
import RetrySafe.Text.Blank
import RetrySafe.Text.Separated

/-!
# Which messages are shown

A filter is a list of directives between commas. A directive is a level for all messages, the name
of a target whose messages are all shown, or a target with its level. Between brackets after the
target it may name a span, and between braces in them fields, each with or without a value. Spans
can be told by the values of their fields only when they are open, so a filter that asks for a value
looks at everything. An empty filter shows nothing.

## Main definitions

* `Level`, `Level.parse?` — the levels and their names.
* `Directive.read` — the directive of a text.
* `Filter.maxLevel` — the most verbose level of a filter.
* `consoleLevel` — that of the filter in use: one from the environment wins if it can be read.
-/

namespace RetrySafe.Logging

/-- How much is shown, the least first. -/
inductive Level
  | off
  | error
  | warn
  | info
  | debug
  | trace
  deriving DecidableEq, Repr

namespace Level

/-- The levels in order. -/
def all : List Level := [off, error, warn, info, debug, trace]

/-- The place of a level in the order. -/
def rank : Level → Nat
  | off => 0
  | error => 1
  | warn => 2
  | info => 3
  | debug => 4
  | trace => 5

/-- The name of a level. -/
def name : Level → String
  | off => "off"
  | error => "error"
  | warn => "warn"
  | info => "info"
  | debug => "debug"
  | trace => "trace"

/-- The more verbose of two levels. -/
def max (a b : Level) : Level := if a.rank < b.rank then b else a

/-- The level of a number, which may have a plus in front. -/
def ofNumber? (cs : List Char) : Option Level :=
  let digits := match cs with
    | '+' :: digits => digits
    | digits => digits
  if digits ≠ [] ∧ digits.all Char.isDigit then all[Decimal.value digits]? else none

/-- The level of a word, in any case, or of a number. -/
def parse? (cs : List Char) : Option Level :=
  match ofNumber? cs with
  | some level => some level
  | none =>
    if cs = [] then some error
    else all.find? fun level => level.name.toList = cs.map Char.toLower

end Level

/-- Why a filter cannot be read. -/
inductive Fault
  /-- The text is no directive. -/
  | directive
  /-- A target has no such level. -/
  | level
  /-- A field has a value that is no pattern. -/
  | pattern (flaw : Pattern.Flaw)
  /-- A part of the directive would start or end inside a character. -/
  | torn
  deriving DecidableEq, Repr

/-- The phrase for a pattern that cannot be used. -/
def Pattern.Flaw.message : Pattern.Flaw → String
  | malformed => "error building NFA"
  | wordEdge => "unsupported regex feature for DFAs: cannot build DFAs for regexes with Unicode " ++
    "word boundaries; switch to ASCII word boundaries, or heuristically enable Unicode word " ++
    "boundaries or use a different regex engine"

/-- The sentence for a fault. -/
def Fault.message : Fault → String
  | directive => "invalid filter directive"
  | level => "error parsing level filter: expected one of \"off\", \"error\", \"warn\", " ++
    "\"info\", \"debug\", \"trace\", or a number 0-5"
  | pattern flaw => "invalid field filter: " ++ flaw.message
  | torn => "a part of the directive splits a character"

/-- The level of a directive, and whether it asks for the value of a field. -/
structure Directive where
  level : Level
  asksValue : Bool := false
  deriving DecidableEq, Repr

namespace Directive

/-- A directive may start with a letter, a number, a hyphen, a colon or an underscore. -/
def isStart (c : Char) : Bool := Text.isAlphanumeric c || c = '-' || c = ':' || c = '_'

/-! ## Values of fields -/

/-- The digits that follow an optional sign. -/
def unsigned (cs : List Char) : List Char :=
  match cs with
  | '+' :: rest | '-' :: rest => rest
  | cs => cs

/-- The exponent of a number with a point, if there is one, ends the text. -/
def endsInExponent : List Char → Bool
  | [] => true
  | e :: cs => (e = 'e' || e = 'E') && unsigned cs ≠ [] && (unsigned cs).all Char.isDigit

/-- Whether a text is a number with an optional point and exponent, or a name of one that is not
finite. -/
def isNumber (cs : List Char) : Bool :=
  let body := unsigned cs
  let (whole, rest) := Decimal.spanDigits body
  if ["inf", "infinity", "nan"].contains (String.ofList (body.map Char.toLower)) then true
  else
    match rest with
    | '.' :: rest =>
      let (part, rest) := Decimal.spanDigits rest
      (whole ≠ [] || part ≠ []) && endsInExponent rest
    | rest => whole ≠ [] && endsInExponent rest

/-- Whether a field asks for a value: a number, or a pattern for other texts. What follows a second
equals sign does not count. -/
def fieldAsksValue (field : List Char) : Except Fault Bool :=
  match Text.split '=' field with
  | _ :: value :: _ =>
    if isNumber value then .ok true
    else
      match Pattern.check value with
      | .ok () => .ok true
      | .error flaw => .error (.pattern flaw)
  | _ => .ok false

/-! ## Parts -/

/-- A text without so many bytes at its start. -/
def dropBytes : Nat → List Char → Option (List Char)
  | 0, cs => some cs
  | _, [] => none
  | n, c :: cs => if n < c.utf8Size then none else dropBytes (n - c.utf8Size) cs
  termination_by _ cs => cs.length

/-- So many bytes of a text. -/
def takeBytes : Nat → List Char → Option (List Char)
  | 0, _ => some []
  | _, [] => none
  | n, c :: cs =>
    if n < c.utf8Size then none else (takeBytes (n - c.utf8Size) cs).map (c :: ·)
  termination_by _ cs => cs.length

/-- The part of a text from one byte to another. -/
def part (whole : List Char) (since upTo : Nat) : Except Fault (List Char) :=
  match (dropBytes since whole).bind (takeBytes (upTo - since)) with
  | some cs => .ok cs
  | none => .error .torn

/-! ## Reading -/

/-- Where a reader stands in a directive, with the bytes before the part that it reads. -/
inductive Place
  | start
  | name
  | span (since : Nat)
  | field (since : Nat)
  | fields
  | behind
  | level (since : Nat)

/-- Read a character with so many bytes before it. A directive is read without the blanks around it,
but its parts are cut from the whole text at the same bytes. -/
def Place.next (whole : List Char) (bytes : Nat) (c : Char) :
    Place → Except Fault (Place × Bool)
  | start =>
    if c = '[' then .ok (span (bytes + 1), false)
    else if isStart c then .ok (name, false)
    else .error .directive
  | name =>
    if c = '=' then do
      let _ ← part whole 0 bytes
      return (level (bytes + 1), false)
    else if c = '[' then do
      let _ ← part whole 0 bytes
      return (span (bytes + 1), false)
    else .ok (name, false)
  | span since =>
    if c = ']' then do
      let _ ← part whole since bytes
      return (behind, false)
    else if c = '\x7b' then do
      let _ ← part whole since bytes
      return (field (bytes + 1), false)
    else .ok (span since, false)
  | field since =>
    if c = '\x7d' then do
      match ← part whole since bytes with
      | [] => throw .directive
      | cs => return (fields, ← fieldAsksValue cs)
    else .ok (field since, false)
  | fields => if c = ']' then .ok (behind, false) else .error .directive
  | behind => if c = '=' then .ok (level (bytes + 1), false) else .error .directive
  | level since => .ok (level since, false)

/-- The level that a directive has where its text ends. A name that is none of a level is that of a
target, and stands for the most verbose level, as does a missing level. -/
def Place.finish (whole : List Char) : Place → Except Fault Level
  | name => .ok ((Level.parse? whole).getD .trace)
  | behind => .ok .trace
  | level since =>
    match dropBytes since whole with
    | none => .error .torn
    | some [] => .ok .trace
    | some word => (Level.parse? word).elim (.error .level) .ok
  | _ => .error .directive

/-- Read on from a place. -/
def readFrom (whole : List Char) (place : Place) (bytes : Nat) (asks : Bool) :
    List Char → Except Fault Directive
  | [] => do return ⟨← place.finish whole, asks⟩
  | c :: cs => do
    let (place, asksHere) ← place.next whole bytes c
    readFrom whole place (bytes + c.utf8Size) (asks || asksHere) cs

/-- The directive of a text. -/
def read (cs : List Char) : Except Fault Directive := readFrom cs .start 0 false (Text.trim cs)

end Directive

/-- The most verbose level of a filter. -/
def maxLevel (filter : String) : Except Fault Level := do
  let directives ← ((Text.split ',' filter.toList).filter (· ≠ [])).mapM Directive.read
  if directives.any (·.asksValue) then return .trace
  else return (directives.map (·.level)).foldl Level.max .off

/-- The most verbose level of the filter in use. -/
def consoleLevel (configured : String) (environment : Option String) : Except Fault Level :=
  match environment.map maxLevel with
  | some (.ok level) => .ok level
  | some (.error .torn) => .error .torn
  | _ => maxLevel configured

/-- The sentence for a configured filter that cannot be read. -/
def refusal (configured : String) (fault : Fault) : String :=
  "Logging setup failed: invalid log level '" ++ configured ++ "': " ++ fault.message

end RetrySafe.Logging
