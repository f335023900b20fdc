import RetrySafe.Secret.Key

/-!
# Errors of secret access

## Main definitions

* `GrantFlaw` — why a grant document is refused.
* `Error` — why a secret is not handed out.
* `Error.isRefusal` — access was refused, as opposed to failed.
-/

namespace RetrySafe.Secret

/-- Why a member of a grant document is refused. -/
inductive GrantFlaw
  /-- The document is neither an object nor null. -/
  | rootKind (kind : String)
  /-- A member's name is not a segment. -/
  | name
  /-- A member's value has a kind that grants do not have. -/
  | valueKind (kind : String)
  /-- A remount target is not a key. -/
  | target (text : String) (flaw : Flaw)
  deriving DecidableEq, Repr

/-- The sentence for a text that is not a key or not a selector. -/
def illegalMessage (text : String) (flaw : Flaw) : String :=
  "Illegal key: '" ++ text ++ "': " ++ flaw.reason

/-- The phrase for a flaw of a grant document. -/
def GrantFlaw.reason : GrantFlaw → String
  | rootKind kind => "expected an object, got " ++ kind
  | name => "grant keys must be single key segments"
  | valueKind kind => "expected a boolean, string or object, got " ++ kind
  | target text flaw => "invalid remount target: " ++ illegalMessage text flaw

/-- Why a secret is not handed out. -/
inductive Error
  /-- A text is not a key or not a selector. -/
  | illegal (text : String) (flaw : Flaw)
  /-- The key is outside the declared selectors. -/
  | filtered (key : Key)
  /-- Neither a grant nor the policy allows the key. -/
  | denied (key : Key)
  /-- The key may be read, but no scope holds a value. -/
  | notFound (key : String)
  /-- The grant document is refused at a path. -/
  | invalidGrant (path : List String) (flaw : GrantFlaw)
  /-- The store failed. -/
  | store (message : String)
  deriving DecidableEq

namespace Error

/-- The sentence for an error. -/
def message : Error → String
  | illegal text flaw => illegalMessage text flaw
  | filtered key => "Unexpected access to a secret key: '" ++ key.text ++ "'"
  | denied key => "Access not granted for secret key: '" ++ key.text ++ "'"
  | notFound key => "Secret not found: '" ++ key ++ "'"
  | invalidGrant path flaw =>
    "Invalid secret grant at '" ++ String.intercalate "." path ++ "': " ++ flaw.reason
  | store message => "Secret store error: " ++ message

/-- Access was refused. -/
def isRefusal : Error → Bool
  | filtered _ | denied _ => true
  | _ => false

end Error

/-- Read a key, or say that the text is illegal. -/
def Key.read (text : String) : Except Error Key :=
  match Key.parse text with
  | .ok key => .ok key
  | .error flaw => .error (.illegal text flaw)

end RetrySafe.Secret
