import RetrySafe.Json.Reader
import RetrySafe.Session.Error
import RetrySafe.Text.Separated

/-!
# Where a store lies

The text that names a store is the path of its file, unless it stands for memory or starts with
`file:`. Then a path follows, and after a question mark options between ampersands. In the path, in
the names of the options and in their values a percent sign and two hexadecimal digits stand for a
byte, and a zero byte ends the part it stands in.

## Main definitions

* `Session.Location` — a path, and how the file is opened.
* `Location.decode` — a part without its percent signs.
* `Location.read` — the location that a text names.
-/

namespace RetrySafe.Session

/-- What may be done with the file of a store. -/
inductive Access
  | readOnly
  | readWrite
  /-- Reading, writing and making the file. -/
  | create
  deriving DecidableEq, Repr

/-- How much an access allows. -/
def Access.rank : Access → Nat
  | readOnly => 0
  | readWrite => 1
  | create => 2

/-- Where a store lies, and how its file is opened. The empty path stands for a file without a name
that is deleted in the end. -/
structure Location where
  path : String
  access : Access := .create
  inMemory : Bool := false
  /-- The file is said not to change. -/
  isFixed : Bool := false
  deriving DecidableEq, Repr

namespace Location

/-- The path that stands for memory. -/
def memoryPath : String := ":memory:"

/-- The bytes of a part: a percent sign and two hexadecimal digits are one byte, and a zero byte
ends the part. -/
def decode (cs : List Char) : List UInt8 :=
  match cs with
  | [] => []
  | '%' :: a :: b :: rest =>
    match Json.hexDigit? a, Json.hexDigit? b with
    | some high, some low =>
      if high = 0 ∧ low = 0 then [] else UInt8.ofNat (high * 16 + low) :: decode rest
    | _, _ => String.utf8EncodeChar '%' ++ decode (a :: b :: rest)
  | c :: rest => String.utf8EncodeChar c ++ decode rest
termination_by cs.length

/-- The text of some bytes; where they are no text, each byte beyond ASCII is a replacement
character. -/
def ofBytes (bytes : List UInt8) : String :=
  (String.fromUTF8? ⟨bytes.toArray⟩).getD
    (String.ofList (bytes.map fun b => if b < 0x80 then Char.ofNat b.toNat else '\uFFFD'))

/-- A part as text. -/
def decoded (cs : List Char) : String := ofBytes (decode cs)

/-- What follows the authority, which has to be empty or the machine itself. -/
def afterAuthority (cs : List Char) : Except OpeningFault (List Char) :=
  match cs with
  | '/' :: '/' :: rest =>
    let (host, path) := rest.span (· ≠ '/')
    if host = [] ∨ host = "localhost".toList then .ok path
    else .error (.authority (String.ofList host))
  | cs => .ok cs

/-- An option and its value. -/
def option (cs : List Char) : String × String :=
  let (name, value) := cs.span (· ≠ '=')
  (decoded name, decoded (value.drop 1))

/-- The options of a query; those without a name do not count. -/
def options (cs : List Char) : List (String × String) :=
  ((Text.split '&' cs).map option).filter (·.1 ≠ "")

/-- The location with another access. One that is in memory may be opened in any way, and none may
be opened in a way that allows more than before. -/
def withAccess (location : Location) (access : Access) (word : String) :
    Except OpeningFault Location :=
  if !location.inMemory ∧ location.access.rank < access.rank then
    .error (.accessNotAllowed word)
  else .ok { location with access, inMemory := false }

/-- The location with a mode of access. -/
def withMode (location : Location) (word : String) : Except OpeningFault Location :=
  match word with
  | "ro" => location.withAccess .readOnly word
  | "rw" => location.withAccess .readWrite word
  | "rwc" => location.withAccess .create word
  | "memory" => .ok { location with inMemory := true }
  | _ => .error (.noSuchMode "access" word)

/-- The words for yes. -/
def isYes (word : String) : Bool :=
  ["1", "on", "yes", "true"].contains (word.map Char.toLower)

/-- The location with an option. Options that are not known do not count. -/
def withOption (location : Location) (entry : String × String) : Except OpeningFault Location :=
  match entry.1 with
  | "mode" => location.withMode entry.2
  | "cache" =>
    if entry.2 = "shared" ∨ entry.2 = "private" then .ok location
    else .error (.noSuchMode "cache" entry.2)
  | "immutable" => .ok { location with isFixed := isYes entry.2 }
  | _ => .ok location

/-- The file systems there are. -/
def systems : List String := ["unix", "unix-none", "unix-dotfile", "unix-excl", "memdb"]

/-- The file system that the options name, the last one if there are several. -/
def system (entries : List (String × String)) : String :=
  ((entries.filter (·.1 = "vfs")).getLast?.map Prod.snd).getD "unix"

/-- The location of a text after `file:`. -/
def ofUri (cs : List Char) : Except OpeningFault Location := do
  let cs ← afterAuthority cs
  let (path, query) := (cs.takeWhile (· ≠ '#')).span (· ≠ '?')
  let entries := options (query.drop 1)
  let location ← entries.foldlM withOption { path := decoded path }
  let system := system entries
  if !systems.contains system then throw (.noSuchSystem system)
  return { location with
           inMemory := location.inMemory || system = "memdb" || location.path = memoryPath }

/-- The location that a text names. -/
def read (text : String) : Except OpeningFault Location :=
  match text.toList with
  | 'f' :: 'i' :: 'l' :: 'e' :: ':' :: rest => ofUri rest
  | _ => .ok { path := text, inMemory := text = memoryPath }

end Location

end RetrySafe.Session
