/-!
# Identifiers

A plain identifier can stand in a statement as the name of a table: letters, digits and underscores
of ASCII, with no digit at the start.

## Main definitions

* `IsPlainIdentifier` — the texts that are plain identifiers.
-/

namespace RetrySafe.Text

/-- A character that an identifier may start with. -/
def isIdentifierStart (c : Char) : Bool := c.isAlpha || c = '_'

/-- A character that an identifier may go on with. -/
def isIdentifierRest (c : Char) : Bool := c.isAlphanum || c = '_'

/-- A plain identifier. -/
def IsPlainIdentifier (name : String) : Prop :=
  match name.toList with
  | [] => False
  | c :: cs => isIdentifierStart c ∧ cs.all isIdentifierRest

instance (name : String) : Decidable (IsPlainIdentifier name) := by
  unfold IsPlainIdentifier; split <;> infer_instance

end RetrySafe.Text
