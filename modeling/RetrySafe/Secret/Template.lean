import RetrySafe.Secret.Resolver
import RetrySafe.Text.Blank

/-!
# Templates

A template is a text with references `${secret:key}`. A reference starts at the leftmost opening
that has a closing brace after it and ends at the first such brace; scanning goes on behind it. The
key is what stands between, without the blanks around it.

## Main definitions

* `Piece`, `pieces` — a template as characters and references.
* `hasReferences` — whether there is a reference.
* `render` — the template with every reference replaced by its value.

## Main results

* `source_pieces` — the pieces written one after the other are the template.
-/

namespace RetrySafe.Secret

/-- A piece of a template. -/
inductive Piece
  /-- A character that stands for itself. -/
  | char (c : Char)
  /-- What stands between an opening and its closing brace. -/
  | reference (content : List Char)
  deriving DecidableEq

/-- What opens a reference. -/
def opening : List Char := ['$', '\x7b', 's', 'e', 'c', 'r', 'e', 't', ':']

/-- What follows the opening of a reference, if the text starts with one. -/
def afterOpening? (cs : List Char) : Option (List Char) :=
  if opening.isPrefixOf cs then some (cs.drop opening.length) else none

/-- The content of the reference that a text starts with, and what follows its closing brace. -/
def reference? (cs : List Char) : Option (List Char × List Char) :=
  match afterOpening? cs with
  | none => none
  | some inner =>
    match inner.dropWhile (· != '\x7d') with
    | [] => none
    | _ :: rest => some (inner.takeWhile (· != '\x7d'), rest)

namespace Piece

/-- A piece as it stands in the template. -/
def source : Piece → List Char
  | char c => [c]
  | reference content => opening ++ content ++ ['\x7d']

end Piece

theorem reference?_eq {cs content rest : List Char} (h : reference? cs = some (content, rest)) :
    cs = (Piece.reference content).source ++ rest := by
  unfold reference? afterOpening? at h
  split at h
  · cases h
  · next inner hi =>
    split at hi
    · next hp =>
      simp only [Option.some.injEq] at hi
      obtain ⟨t, ht⟩ := List.isPrefixOf_iff_prefix.1 hp
      have hin : inner = t := by rw [← hi, ← ht]; simp
      subst hin
      split at h
      · cases h
      · next c r hd =>
        simp only [Option.some.injEq, Prod.mk.injEq] at h
        obtain ⟨rfl, rfl⟩ := h
        have hc : c = '\x7d' := by
          have := List.head?_dropWhile_not (· != '\x7d') inner
          rw [hd] at this
          simpa using this
        have := List.takeWhile_append_dropWhile (p := (· != '\x7d')) (l := inner)
        rw [hd, hc] at this
        rw [← ht]
        simp only [Piece.source, List.append_assoc, List.singleton_append,
          List.append_cancel_left_eq]
        exact this.symm
    · cases hi

theorem length_of_reference? {cs content rest : List Char}
    (h : reference? cs = some (content, rest)) : rest.length < cs.length := by
  rw [reference?_eq h]
  simp [Piece.source]
  omega

/-- The pieces of a template. -/
def pieces : List Char → List Piece
  | [] => []
  | c :: cs =>
    match _h : reference? (c :: cs) with
    | some (content, rest) => .reference content :: pieces rest
    | none => .char c :: pieces cs
  termination_by cs => cs.length
  decreasing_by
    · exact length_of_reference? ‹_›
    · exact Nat.lt_succ_self _

/-- The pieces written one after the other are the template. -/
theorem source_pieces (cs : List Char) : (pieces cs).flatMap Piece.source = cs := by
  fun_induction pieces cs with
  | case1 => rfl
  | case2 c cs content rest h ih =>
    rw [List.flatMap_cons, ih, ← reference?_eq h]
  | case3 c cs h ih => rw [List.flatMap_cons, ih]; rfl

/-- Whether a template has a reference. -/
def hasReferences (template : String) : Bool :=
  (pieces template.toList).any fun
    | .reference _ => true
    | .char _ => false

variable {m : Type → Type} [Monad m]

/-- What a piece is replaced by. -/
def Piece.render (provider : Provider m) : Piece → ExceptT Error m (List Char)
  | char c => return [c]
  | reference content => do
    let value ← provider.require (String.ofList (Text.trim content))
    return value.toList

/-- The template with every reference replaced by its value; the first lookup that fails ends it. -/
def render (provider : Provider m) (template : String) : ExceptT Error m String := do
  let parts ← (pieces template.toList).mapM (Piece.render provider)
  return String.ofList parts.flatten

end RetrySafe.Secret
