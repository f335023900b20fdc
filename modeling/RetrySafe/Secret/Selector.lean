import RetrySafe.Secret.Error

/-!
# Selectors

A selector is a list of patterns between dots. An asterisk stands for any one segment, and at the
end for one or more of them. A filter is a list of selectors and admits what one of them matches.

## Main definitions

* `Selector`, `Selector.parse`, `Selector.covers` — selectors and what they match.
* `Filter` — a list of selectors; `Filter.all` admits every key and `Filter.none` admits no key.
-/

namespace RetrySafe.Secret

/-- A pattern for one segment. -/
inductive Pattern
  | any
  | exactly (segment : Segment)
  deriving DecidableEq

namespace Pattern

/-- The written form. -/
def chars : Pattern → List Char
  | any => ['*']
  | exactly segment => segment.chars

/-- Read a pattern from a part that is not empty and holds no dot. -/
def of? (part : List Char) : Option Pattern :=
  if part = ['*'] then some any else (Segment.of? part).map exactly

/-- Whether a pattern stands for a segment. -/
def covers (pattern : Pattern) (segment : Segment) : Bool :=
  match pattern with
  | any => true
  | exactly s => s = segment

end Pattern

/-- A selector: one or more patterns. -/
structure Selector where
  first : Pattern
  rest : List Pattern
  deriving DecidableEq

namespace Selector

/-- The patterns from the first on. -/
def patterns (selector : Selector) : List Pattern := selector.first :: selector.rest

/-- The written form. -/
def text (selector : Selector) : String :=
  String.ofList (Text.join '.' (selector.patterns.map Pattern.chars))

/-- Read a selector. An empty segment is refused before an asterisk inside a segment. -/
def parse (text : String) : Except Error Selector :=
  let parts := Text.split '.' text.toList
  if [] ∈ parts then .error (.illegal text .emptySegmentInSelector)
  else
    match parts.mapM Pattern.of? with
    | some (first :: rest) => .ok ⟨first, rest⟩
    | _ => .error (.illegal text .partialWildcard)

/-- Whether patterns match segments one by one, an asterisk at the end all that are left. -/
def coverAll : List Pattern → List Segment → Bool
  | [], segments => segments.isEmpty
  | _ :: _, [] => false
  | [.any], _ :: _ => true
  | p :: patterns, s :: segments => p.covers s && coverAll patterns segments

/-- Whether a key falls under a selector. -/
def covers (selector : Selector) (key : Key) : Bool :=
  coverAll selector.patterns key.segments

end Selector

/-- A list of selectors. -/
structure Filter where
  selectors : List Selector
  deriving DecidableEq

namespace Filter

/-- The filter of some written selectors; the first that is no selector is reported. -/
def parse (texts : List String) : Except Error Filter := do
  return ⟨← texts.mapM Selector.parse⟩

/-- The filter that admits no key. -/
def none : Filter := ⟨[]⟩

/-- The filter that admits every key. -/
def all : Filter := ⟨[⟨.any, []⟩]⟩

/-- Whether one of the selectors matches a key. -/
def admits (filter : Filter) (key : Key) : Bool := filter.selectors.any (·.covers key)

end Filter

end RetrySafe.Secret
