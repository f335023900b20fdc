import RetrySafe.Json.Reader
import RetrySafe.Text.Quoted
import RetrySafe.Time.Rfc3339

/-!
# Reading values of a type

A record is read from an object by the names of its fields or from an array by their order. Members
are looked at in the order in which they stand, so the first member of a wrong shape is the one
reported; a field that is missing is reported only after that, the first one in the order of the
fields.

## Main definitions

* `Json.Mismatch` — why a value is not of a type.
* `Json.integer`, `Json.string?`, … — readers of scalars.
* `Json.record` — the members of a record, checked field by field.
* `Members.required`, `Members.optional`, `Members.withDefault` — a field of a checked record.
* `Json.readTable` — the members of the object that a text is.
-/

namespace RetrySafe

namespace Json

/-- Why a value is not of a type. -/
inductive Mismatch
  /-- A value of another kind. -/
  | invalidType (found : Json) (expected : String)
  /-- An integer outside the range of its type. -/
  | invalidValue (found : Int) (expected : String)
  /-- No such member. -/
  | missingField (name : String)
  /-- An array of a wrong number of items. -/
  | invalidLength (length : Nat) (expected : String)
  /-- A text that does not stand for a value. -/
  | custom (message : String)

/-- How a value is named in a message. -/
def described : Json → String
  | null => "null"
  | bool b => "boolean `" ++ (if b then "true" else "false") ++ "`"
  | number (.int n) => "integer `" ++ String.ofList (Decimal.ofInt n) ++ "`"
  | number (.float x) => "floating point `" ++ String.ofList x.text ++ "`"
  | str text => "string " ++ Text.quoted text
  | arr _ => "sequence"
  | obj _ => "map"

/-- The sentence for a mismatch. -/
def Mismatch.message : Mismatch → String
  | invalidType found expected => "invalid type: " ++ found.described ++ ", expected " ++ expected
  | invalidValue found expected =>
    "invalid value: integer `" ++ String.ofList (Decimal.ofInt found) ++ "`, expected " ++ expected
  | missingField name => "missing field `" ++ name ++ "`"
  | invalidLength length expected =>
    "invalid length " ++ String.ofList (Decimal.ofNat length) ++ ", expected " ++ expected
  | custom message => message

/-- A reader of values of a type. -/
abbrev Typed (α : Type) := Json → Except Mismatch α

/-! ## Scalars -/

/-- An integer type: its name and its range. -/
structure IntegerType where
  name : String
  low : Int
  high : Int

namespace IntegerType

def u8 : IntegerType := ⟨"u8", 0, 255⟩
def u32 : IntegerType := ⟨"u32", 0, 4294967295⟩
def u64 : IntegerType := ⟨"u64", 0, 18446744073709551615⟩
def usize : IntegerType := ⟨"usize", 0, 18446744073709551615⟩
def i32 : IntegerType := ⟨"i32", -2147483648, 2147483647⟩
def i64 : IntegerType := ⟨"i64", -9223372036854775808, 9223372036854775807⟩

end IntegerType

/-- An integer of a type. -/
def integer (type : IntegerType) : Typed Int
  | number (.int n) =>
    if type.low ≤ n ∧ n ≤ type.high then .ok n else .error (.invalidValue n type.name)
  | v => .error (.invalidType v type.name)

/-- A natural number of an unsigned type. -/
def natural (type : IntegerType) : Typed Nat := fun v => do return (← integer type v).toNat

/-- A float; integers count as floats. -/
def double : Typed Decimal.Double
  | number (.int n) => .ok (.ofInt n)
  | number (.float x) => .ok x
  | v => .error (.invalidType v "f64")

/-- A truth value. -/
def boolean : Typed Bool
  | bool b => .ok b
  | v => .error (.invalidType v "a boolean")

/-- A text, named in messages by `expected`. -/
def textAs (expected : String) : Typed String
  | str text => .ok text
  | v => .error (.invalidType v expected)

/-- A text. -/
def string? : Typed String := textAs "a string"

/-- An instant. -/
def instant : Typed Time.Instant
  | str text =>
    match Time.readRelaxed text with
    | .ok t => .ok t
    | .error fault => .error (.custom fault.message)
  | v => .error (.invalidType v "an RFC 3339 formatted date and time string")

/-- The members of an object. -/
def table : Typed Members
  | obj members => .ok members
  | v => .error (.invalidType v "a map")

/-- A list, its items read in order. -/
def list {α : Type} (item : Typed α) : Typed (List α)
  | arr items => items.mapM item
  | v => .error (.invalidType v "a sequence")

/-- A value or null. -/
def optional {α : Type} (some? : Typed α) : Typed (Option α)
  | null => .ok none
  | v => do return some (← some? v)

/-! ## Records -/

/-- A field of a record: its name, and the check of its value. -/
structure Field where
  name : String
  check : Json → Except Mismatch Unit

/-- The field whose values a reader accepts. -/
def Field.of {α : Type} (name : String) (reader : Typed α) : Field :=
  ⟨name, fun v => do let _ ← reader v⟩

/-- A record: its name and its fields in order. `defaulted` says that every field may be missing. -/
structure RecordType where
  name : String
  fields : List Field
  defaulted : Bool := false

/-- The check of the field with a name; other members are not looked at. -/
def RecordType.check (type : RecordType) (member : String × Json) : Except Mismatch Unit :=
  match type.fields.find? (·.name = member.1) with
  | some field => field.check member.2
  | none => .ok ()

/-- The phrase for a record that stands as an array. -/
def RecordType.elements (type : RecordType) : String :=
  let n := type.fields.length
  "struct " ++ type.name ++ " with " ++ String.ofList (Decimal.ofNat n) ++
    (if n = 1 then " element" else " elements")

/-- The members of a record, each one checked. -/
def record (type : RecordType) : Typed Members
  | obj members => do
    members.forM type.check
    return members
  | arr items => do
    let members := (type.fields.map Field.name).zip items
    members.forM type.check
    if items.length < type.fields.length ∧ !type.defaulted then
      throw (.invalidLength items.length type.elements)
    if type.fields.length < items.length then
      throw (.invalidLength items.length "fewer elements in array")
    return members
  | v => .error (.invalidType v ("struct " ++ type.name))

end Json

/-! ## Texts -/

/-- Why a text does not hold a value of a type. -/
inductive Unreadable
  /-- The text is no JSON. -/
  | text (fault : Json.Fault)
  /-- The value is not of the type. -/
  | shape (mismatch : Json.Mismatch)

/-- The sentence for an unreadable text. -/
def Unreadable.message : Unreadable → String
  | text fault => fault.message
  | shape mismatch => mismatch.message

namespace Json

/-- Turn the fault of a text into the reason why it is unreadable. -/
def orUnreadable {α : Type} : Except Fault α → Except Unreadable α
  | .ok a => .ok a
  | .error fault => .error (.text fault)

/-- The members of the object that a text is. An array is refused at its opening bracket, a scalar
once it is read. -/
def readTable (text : String) : Except Unreadable Members :=
  match skipSpace text.toList with
  | '\x7b' :: cs => do
    let (ms, cs) ← orUnreadable (object (value (depthLimit - 1)) cs)
    orUnreadable (finish cs)
    return ms
  | '[' :: _ => .error (.shape (.invalidType (arr []) "a map"))
  | cs => do
    let (v, _) ← orUnreadable (value depthLimit cs)
    throw (.shape (.invalidType v "a map"))

end Json

namespace Members

/-- A field that has to be there. -/
def required {α : Type} (members : Members) (name : String) (reader : Json.Typed α) :
    Except Json.Mismatch α :=
  match members.get? name with
  | some v => reader v
  | none => .error (.missingField name)

/-- A field that may be missing or null. -/
def optional {α : Type} (members : Members) (name : String) (reader : Json.Typed α) :
    Except Json.Mismatch (Option α) :=
  match members.get? name with
  | some v => Json.optional reader v
  | none => .ok none

/-- A field that has a default. -/
def withDefault {α : Type} (members : Members) (name : String) (reader : Json.Typed α)
    (default : α) : Except Json.Mismatch α :=
  match members.get? name with
  | some v => reader v
  | none => .ok default

end Members

end RetrySafe
