import RetrySafe.Json.Typed
import RetrySafe.Proofs.Json.Numbers
import RetrySafe.Proofs.Json.Strings

/-!
# Reading values back

A value that is written is read back wherever it is not nested too deep, and it is the same value if
its numbers are whole; a double may come back as another one. A value that is nested too deep is
refused for that, whatever else stands in it.

## Main definitions

* `Json.IsProper` — the values that there are: numbers in range, keys different.
* `Json.IsIntegral` — all numbers are whole.
* `Json.ReadsBack` — what a reader makes of a written value.

## Main results

* `Json.readsBack_value` — values.
* `Json.readTable_text` — objects as texts of their own.
-/

namespace RetrySafe

/-! ## Values -/

/-- A number that a value can have: an integer of 64 bits, or a double that is finite. -/
def Number.IsProper : Number → Prop
  | .int n => -2 ^ 63 ≤ n ∧ n < 2 ^ 64
  | .float x => x.magnitude < Decimal.infinityBits

namespace Json

/-- A value that there can be: its numbers are in range, and an object has a key once only. -/
inductive IsProper : Json → Prop
  | null : IsProper null
  | bool (b : Bool) : IsProper (bool b)
  | number {n : Number} (h : n.IsProper) : IsProper (number n)
  | str (text : String) : IsProper (str text)
  | arr {items : List Json} (h : ∀ v ∈ items, IsProper v) : IsProper (arr items)
  | obj {members : Members} (hkeys : (members.map Prod.fst).Nodup)
      (h : ∀ m ∈ members, IsProper m.2) : IsProper (obj members)

/-- A value all of whose numbers are whole. -/
inductive IsIntegral : Json → Prop
  | null : IsIntegral null
  | bool (b : Bool) : IsIntegral (bool b)
  | int (n : Int) : IsIntegral (number (.int n))
  | str (text : String) : IsIntegral (str text)
  | arr {items : List Json} (h : ∀ v ∈ items, IsIntegral v) : IsIntegral (arr items)
  | obj {members : Members} (h : ∀ m ∈ members, IsIntegral m.2) : IsIntegral (obj members)

/-- Induction over values, through the items of arrays and the members of objects. -/
theorem induction {motive : Json → Prop} (null : motive null) (bool : ∀ b, motive (bool b))
    (number : ∀ n, motive (number n)) (str : ∀ text, motive (str text))
    (arr : ∀ items, (∀ v ∈ items, motive v) → motive (arr items))
    (obj : ∀ members : Members, (∀ m ∈ members, motive m.2) → motive (obj members)) :
    ∀ v, motive v
  | .null => null
  | .bool b => bool b
  | .number n => number n
  | .str text => str text
  | .arr items => arr items fun v _ => induction null bool number str arr obj v
  | .obj members => obj members fun m hm => by
    have hlt := List.sizeOf_lt_of_mem hm
    have hvalue : sizeOf m.2 < sizeOf m := by
      obtain ⟨key, v⟩ := m
      simp
    exact induction null bool number str arr obj m.2

/-- What a reader of values of some depth makes of a written value. -/
structure ReadsBack (item : ValueReader) (depth : Nat) (v : Json) : Prop where
  /-- The value comes back where it is not nested too deep. -/
  shallow : v.depth ≤ depth → ∀ rest, EndsValue rest →
    ∃ w, item (v.write ++ rest) = .ok (w, rest) ∧ (v.IsIntegral → w = v)
  /-- Nested too deep it is refused. -/
  deep : depth < v.depth → ∀ rest, EndsValue rest → item (v.write ++ rest) = .error .tooDeep

theorem skipSpace_cons {c : Char} (h : isSpace c = false) (cs : List Char) :
    skipSpace (c :: cs) = c :: cs := by
  rw [skipSpace, List.dropWhile_cons_of_neg (by rw [h]; exact Bool.false_ne_true)]

/-! ## Numbers -/

theorem isSpace_of_isDigit {c : Char} (h : c.isDigit = true) : isSpace c = false := by
  unfold isSpace
  simp only [Bool.or_eq_false_iff, decide_eq_false_iff_not]
  refine ⟨⟨⟨?_, ?_⟩, ?_⟩, ?_⟩ <;>
  · rintro rfl
    exact absurd h (by decide)

/-- What is read as a number begins with a digit. -/
theorem exists_isDigit_of_unsignedNumber {negative : Bool} {cs : List Char}
    {result : Number × List Char} (h : unsignedNumber negative cs = .ok result) :
    ∃ c tail, cs = c :: tail ∧ c.isDigit = true := by
  cases cs with
  | nil => cases h
  | cons c cs =>
    refine ⟨c, cs, rfl, ?_⟩
    by_contra hother
    have hspan : Decimal.spanDigits (c :: cs) = ([], c :: cs) := by
      simp [Decimal.spanDigits, hother]
    unfold unsignedNumber at h
    rw [hspan] at h
    cases h

theorem value_of_unsignedNumber {depth : Nat} {cs rest : List Char} {n : Number}
    (h : unsignedNumber false cs = .ok (n, rest)) : value depth cs = .ok (number n, rest) := by
  obtain ⟨c, cs, rfl, hc⟩ := exists_isDigit_of_unsignedNumber h
  unfold value
  rw [skipSpace_cons (isSpace_of_isDigit hc)]
  -- A digit is none of the characters that other values begin with.
  split <;> rename_i heq
  · cases heq
  all_goals
    obtain ⟨rfl, rfl⟩ := List.cons.inj heq
    first
    | exact absurd hc (by decide)
    | rw [if_pos hc, h]
      rfl

theorem value_minus {depth : Nat} {cs rest : List Char} {n : Number}
    (h : unsignedNumber true cs = .ok (n, rest)) :
    value depth ('-' :: cs) = .ok (number n, rest) := by
  have hminus : value depth ('-' :: cs) =
      (unsignedNumber true cs).bind fun read => .ok (number read.1, read.2) := by
    unfold value
    rw [skipSpace_cons (by decide)]
    rfl
  rw [hminus, h]
  rfl

theorem text_eq (x : Decimal.Double) :
    x.text = (if x.isNegative then ['-'] else []) ++ magnitudeText x.magnitude := by
  unfold Decimal.Double.text magnitudeText
  split <;> split <;> rfl

/-- A number in front of what may follow a value. -/
theorem exists_value_number {depth : Nat} {n : Number} (hn : n.IsProper) {rest : List Char}
    (hrest : EndsValue rest) :
    ∃ n', value depth (writeNumber n ++ rest) = .ok (number n', rest) ∧
      ((number n).IsIntegral → n' = n) := by
  cases n with
  | int i =>
    obtain ⟨hlow, hhigh⟩ := hn
    refine ⟨.int i, ?_, fun _ => rfl⟩
    have hword : i.natAbs < 2 ^ 64 := by omega
    rw [writeNumber, Decimal.ofInt]
    split
    · rename_i hnegative
      have hwhole : wholeNumber true i.natAbs = .int i := by
        rw [wholeNumber, Bool.not_true, if_neg Bool.false_ne_true, if_pos (by omega)]
        congr 1
        omega
      exact value_minus (hwhole ▸ unsignedNumber_ofNat hword hrest)
    · rename_i hpositive
      have hwhole : wholeNumber false i.natAbs = .int i := by
        rw [wholeNumber, Bool.not_false, if_pos rfl]
        congr 1
        omega
      exact value_of_unsignedNumber (hwhole ▸ unsignedNumber_ofNat hword hrest)
  | float x =>
    rw [writeNumber, text_eq]
    split
    · obtain ⟨y, hy⟩ : ∃ y, unsignedNumber true (magnitudeText x.magnitude ++ rest) =
          .ok (.float y, rest) := exists_unsignedNumber_magnitude hn hrest
      exact ⟨.float y, value_minus hy, nofun⟩
    · obtain ⟨y, hy⟩ : ∃ y, unsignedNumber false (magnitudeText x.magnitude ++ rest) =
          .ok (.float y, rest) := exists_unsignedNumber_magnitude hn hrest
      exact ⟨.float y, value_of_unsignedNumber hy, nofun⟩

/-! ## Scalars -/

/-- The first character of a written value. -/
theorem exists_write_cons {v : Json} (hv : v.IsProper) :
    ∃ c cs, v.write = c :: cs ∧ isSpace c = false ∧ c ≠ ']' := by
  have hdigit {negative : Bool} {cs rest : List Char} {n : Number}
      (h : unsignedNumber negative cs = .ok (n, rest)) :
      ∃ c tail, cs = c :: tail ∧ isSpace c = false ∧ c ≠ ']' := by
    obtain ⟨c, tail, hcs, hc⟩ := exists_isDigit_of_unsignedNumber h
    refine ⟨c, tail, hcs, isSpace_of_isDigit hc, ?_⟩
    rintro rfl
    exact absurd hc (by decide)
  have hend : EndsValue [] := nofun
  cases hv with
  | null => exact ⟨_, _, rfl, by decide, by decide⟩
  | bool b => cases b <;> exact ⟨_, _, rfl, by decide, by decide⟩
  | @number n hn =>
    cases n with
    | int i =>
      rw [write, writeNumber, Decimal.ofInt]
      split
      · exact ⟨_, _, rfl, by decide, by decide⟩
      · obtain ⟨hlow, hhigh⟩ := hn
        have hread : unsignedNumber false (Decimal.ofNat i.natAbs ++ []) =
            .ok (wholeNumber false i.natAbs, []) := unsignedNumber_ofNat (by omega) hend
        rw [List.append_nil] at hread
        exact hdigit hread
    | float x =>
      rw [write, writeNumber, text_eq]
      split
      · exact ⟨_, _, rfl, by decide, by decide⟩
      · obtain ⟨y, hy⟩ : ∃ y, unsignedNumber false (magnitudeText x.magnitude ++ []) =
            .ok (.float y, []) := exists_unsignedNumber_magnitude hn hend
        rw [List.append_nil] at hy
        exact hdigit hy
  | str text => exact ⟨_, _, rfl, by decide, by decide⟩
  | @arr items h => cases items <;> exact ⟨_, _, rfl, by decide, by decide⟩
  | @obj members hkeys h => cases members <;> exact ⟨_, _, rfl, by decide, by decide⟩

/-- A value without items or members is not nested. -/
theorem readsBack_scalar {depth : Nat} {v : Json} (hdepth : v.depth = 0)
    (h : ∀ rest, EndsValue rest →
      ∃ w, value depth (v.write ++ rest) = .ok (w, rest) ∧ (v.IsIntegral → w = v)) :
    ReadsBack (value depth) depth v where
  shallow := fun _ => h
  deep := fun hdeep => absurd hdeep (by omega)

theorem value_writeString (depth : Nat) (text : String) (rest : List Char) :
    value depth (writeString text ++ rest) = .ok (str text, rest) := by
  have hquote : value depth (writeString text ++ rest) =
      (string (text.toList.flatMap escape ++ '"' :: rest)).bind fun read =>
        .ok (str read.1, read.2) := by
    rw [writeString, List.cons_append, List.append_assoc, List.singleton_append]
    unfold value
    rw [skipSpace_cons (by decide)]
    rfl
  rw [hquote, string_escape]
  rfl

/-! ## Arrays -/

theorem endsValue_writeItems (vs : List Json) (rest : List Char) :
    EndsValue (writeItems vs ++ rest) := by
  intro c hc
  cases vs with
  | nil =>
    cases hc
    exact .inr (.inl rfl)
  | cons v vs =>
    cases hc
    exact .inl rfl

theorem length_le_writeItems (vs : List Json) : vs.length ≤ (writeItems vs).length := by
  induction vs with
  | nil => exact Nat.zero_le _
  | cons v vs ih =>
    rw [writeItems, List.length_cons, List.length_cons, List.length_append]
    omega

section Arrays

variable {item : ValueReader} {depth : Nat}

theorem items_error {fuel : Nat} {soFar : List Json} {cs : List Char} {fault : Fault}
    (h : item cs = .error fault) : items item (fuel + 1) soFar cs = .error fault := by
  rw [items, h]
  rfl

/-- The last item. -/
theorem items_last {fuel : Nat} {soFar : List Json} {cs rest : List Char} {w : Json}
    (h : item cs = .ok (w, ']' :: rest)) :
    items item (fuel + 1) soFar cs = .ok (soFar.reverse ++ [w], rest) := by
  rw [items, h, ← List.reverse_cons]
  rfl

/-- An item that another one follows. -/
theorem items_next {fuel : Nat} {soFar : List Json} {cs tail : List Char} {c : Char} {w : Json}
    (h : item cs = .ok (w, ',' :: c :: tail)) (hspace : isSpace c = false) (hc : c ≠ ']') :
    items item (fuel + 1) soFar cs = items item fuel (w :: soFar) (c :: tail) := by
  rw [items, h]
  simp [bind, Except.bind, skipSpace_cons (show isSpace ',' = false by decide), skipSpace_cons hspace,
    hc]

/-- Items are read from the first one on. -/
theorem items_write {v : Json} {vs : List Json} (hproper : ∀ u ∈ v :: vs, u.IsProper)
    (hitems : ∀ u ∈ v :: vs, ReadsBack item depth u) {fuel : Nat} (hfuel : vs.length < fuel)
    (soFar : List Json) (rest : List Char) :
    (depthItems (v :: vs) ≤ depth →
      ∃ ws, items item fuel soFar (v.write ++ (writeItems vs ++ rest)) =
        .ok (soFar.reverse ++ ws, rest) ∧ ((∀ u ∈ v :: vs, u.IsIntegral) → ws = v :: vs)) ∧
      (depth < depthItems (v :: vs) →
        items item fuel soFar (v.write ++ (writeItems vs ++ rest)) = .error .tooDeep) := by
  induction vs generalizing v fuel soFar with
  | nil =>
    obtain ⟨fuel, rfl⟩ : ∃ more, fuel = more + 1 := ⟨fuel - 1, by omega⟩
    have hv := hitems v List.mem_cons_self
    have hend := endsValue_writeItems [] rest
    rw [depthItems, depthItems, Nat.max_zero]
    constructor
    · intro hdepth
      obtain ⟨w, hw, hsame⟩ := hv.shallow hdepth _ hend
      refine ⟨[w], items_last hw, fun hall => ?_⟩
      rw [hsame (hall v List.mem_cons_self)]
    · intro hdeep
      exact items_error (hv.deep hdeep _ hend)
  | cons u us ih =>
    obtain ⟨fuel, rfl⟩ : ∃ more, fuel = more + 1 := ⟨fuel - 1, by omega⟩
    have hv := hitems v List.mem_cons_self
    have hend := endsValue_writeItems (u :: us) rest
    obtain ⟨c, tail, hc, hspace, hbracket⟩ :=
      exists_write_cons (hproper u (List.mem_cons_of_mem _ List.mem_cons_self))
    have hcomma : writeItems (u :: us) ++ rest = ',' :: c :: (tail ++ (writeItems us ++ rest)) := by
      rw [writeItems, List.cons_append, List.append_assoc, hc, List.cons_append]
    -- After the first item and a comma the others are read.
    have hothers := fun w => ih (fun x hx => hproper x (List.mem_cons_of_mem _ hx))
      (fun x hx => hitems x (List.mem_cons_of_mem _ hx)) (Nat.lt_of_succ_lt_succ hfuel) (w :: soFar)
    rw [depthItems]
    constructor
    · intro hdepth
      obtain ⟨w, hw, hsame⟩ := hv.shallow (by omega) _ hend
      obtain ⟨ws, hws, hsame'⟩ := (hothers w).1 (by omega)
      refine ⟨w :: ws, ?_, fun hall => ?_⟩
      · rw [hcomma] at hw ⊢
        rw [items_next hw hspace hbracket, ← List.cons_append, ← hc, hws]
        simp
      · rw [hsame (hall v List.mem_cons_self),
          hsame' fun x hx => hall x (List.mem_cons_of_mem _ hx)]
    · intro hdeep
      by_cases hfirst : v.depth ≤ depth
      · obtain ⟨w, hw, -⟩ := hv.shallow hfirst _ hend
        rw [hcomma] at hw ⊢
        rw [items_next hw hspace hbracket, ← List.cons_append, ← hc]
        exact (hothers w).2 (by omega)
      · exact items_error (hv.deep (by omega) _ hend)

theorem value_bracket (cs : List Char) : value 0 ('[' :: cs) = .error .tooDeep := by
  unfold value
  rw [skipSpace_cons (by decide)]
  rfl

theorem value_bracket_succ (depth : Nat) (cs : List Char) :
    value (depth + 1) ('[' :: cs) = array (value depth) cs := by
  rw [value, skipSpace_cons (by decide)]
  rfl

theorem array_nil (rest : List Char) : array item (']' :: rest) = .ok (arr [], rest) := by
  rw [array, skipSpace_cons (by decide)]
  rfl

theorem array_cons {c : Char} {cs : List Char} (hspace : isSpace c = false) (hc : c ≠ ']') :
    array item (c :: cs) = (items item ((c :: cs).length + 1) [] (c :: cs)).map fun (vs, cs) =>
      (arr vs, cs) := by
  rw [array, skipSpace_cons hspace]
  split
  · rename_i heq
    cases heq
  · rename_i heq
    exact absurd (List.cons.inj heq).1 hc
  · cases items item ((c :: cs).length + 1) [] (c :: cs) <;> rfl

/-- An array. -/
theorem readsBack_arr {vs : List Json} (hproper : ∀ v ∈ vs, v.IsProper)
    (hitems : ∀ depth, ∀ v ∈ vs, ReadsBack (value depth) depth v) (depth : Nat) :
    ReadsBack (value depth) depth (arr vs) := by
  cases depth with
  | zero =>
    refine ⟨fun hshallow => absurd hshallow (by rw [Json.depth]; omega), fun _ rest _ => ?_⟩
    cases vs <;> exact value_bracket _
  | succ depth =>
    cases vs with
    | nil =>
      refine ⟨fun _ rest _ => ⟨arr [], ?_, fun _ => rfl⟩, fun hdeep => ?_⟩
      · exact (value_bracket_succ depth _).trans (array_nil rest)
      · rw [Json.depth, depthItems] at hdeep
        omega
    | cons v vs =>
      obtain ⟨c, tail, hc, hspace, hbracket⟩ := exists_write_cons (hproper v List.mem_cons_self)
      have hwrite (rest : List Char) : value (depth + 1) ((arr (v :: vs)).write ++ rest) =
          (items (value depth) ((v.write ++ (writeItems vs ++ rest)).length + 1) []
            (v.write ++ (writeItems vs ++ rest))).map fun (vs, cs) => (arr vs, cs) := by
        rw [write, List.cons_append, value_bracket_succ, List.append_assoc, hc, List.cons_append,
          array_cons hspace hbracket]
      have hlength (rest : List Char) :
          vs.length < (v.write ++ (writeItems vs ++ rest)).length + 1 := by
        have hitems := length_le_writeItems vs
        rw [List.length_append, List.length_append]
        omega
      have hread := fun rest => items_write hproper (hitems depth) (hlength rest) [] rest
      have hdepth : (arr (v :: vs)).depth = depthItems (v :: vs) + 1 := by rw [Json.depth]
      refine ⟨fun hshallow rest _ => ?_, fun hdeep rest _ => ?_⟩
      · obtain ⟨ws, hws, hsame⟩ := (hread rest).1 (by omega)
        refine ⟨arr ws, ?_, fun hintegral => ?_⟩
        · rw [hwrite, hws]
          rfl
        · cases hintegral with
          | arr hall => rw [hsame hall]
      · rw [hwrite, (hread rest).2 (by omega)]
        rfl

end Arrays

/-! ## Objects -/

theorem endsValue_writeMembers (ms : Members) (rest : List Char) :
    EndsValue (writeMembers ms ++ rest) := by
  intro c hc
  cases ms with
  | nil =>
    cases hc
    exact .inr (.inr rfl)
  | cons m ms =>
    cases hc
    exact .inl rfl

theorem length_le_writeMembers (ms : Members) : ms.length ≤ (writeMembers ms).length := by
  induction ms with
  | nil => exact Nat.zero_le _
  | cons m ms ih =>
    rw [writeMembers]
    simp only [List.length_cons, List.length_append]
    omega

/-- A member that is new comes last. -/
theorem set_of_not_mem {ms : Members} {key : String} (h : key ∉ ms.map Prod.fst) (v : Json) :
    ms.set key v = ms ++ [(key, v)] := by
  induction ms with
  | nil => rfl
  | cons m ms ih =>
    obtain ⟨k, u⟩ := m
    simp only [List.map_cons, List.mem_cons, not_or] at h
    rw [Members.set, if_neg (Ne.symm h.1), ih h.2]
    rfl

theorem set_of_nodup {soFar ms : Members} {key : String} {v : Json}
    (hkeys : ((soFar ++ (key, v) :: ms).map Prod.fst).Nodup) (w : Json) :
    soFar.set key w = soFar ++ [(key, w)] := by
  refine set_of_not_mem ?_ w
  rw [List.map_append, List.map_cons, List.nodup_append] at hkeys
  exact fun hmem => hkeys.2.2 key hmem key List.mem_cons_self rfl

section Objects

variable {item : ValueReader} {depth : Nat}

/-- A member from behind the opening quote of its key. -/
def memberText (key : String) (v : Json) (rest : List Char) : List Char :=
  key.toList.flatMap escape ++ '"' :: ':' :: (v.write ++ rest)

theorem members_error {fuel : Nat} {soFar : Members} {key : String} {v : Json} {rest : List Char}
    {fault : Fault} (h : item (v.write ++ rest) = .error fault) :
    members item (fuel + 1) soFar (memberText key v rest) = .error fault := by
  rw [members, memberText, string_escape]
  simp [bind, Except.bind, skipSpace_cons (show isSpace ':' = false by decide), h]

/-- The last member. -/
theorem members_last {fuel : Nat} {soFar : Members} {key : String} {v w : Json} {rest tail : List Char}
    (h : item (v.write ++ rest) = .ok (w, '\x7d' :: tail)) :
    members item (fuel + 1) soFar (memberText key v rest) = .ok (soFar.set key w, tail) := by
  rw [members, memberText, string_escape]
  simp [bind, Except.bind, skipSpace_cons (show isSpace ':' = false by decide), h,
    skipSpace_cons (show isSpace '\x7d' = false by decide), pure, Except.pure]

/-- A member that another one follows. -/
theorem members_next {fuel : Nat} {soFar : Members} {key : String} {v w : Json}
    {rest tail : List Char} (h : item (v.write ++ rest) = .ok (w, ',' :: '"' :: tail)) :
    members item (fuel + 1) soFar (memberText key v rest) =
      members item fuel (soFar.set key w) tail := by
  rw [members, memberText, string_escape]
  simp [bind, Except.bind, skipSpace_cons (show isSpace ':' = false by decide), h,
    skipSpace_cons (show isSpace ',' = false by decide),
    skipSpace_cons (show isSpace '"' = false by decide)]

theorem writeMembers_cons (key : String) (v : Json) (ms : Members) (rest : List Char) :
    writeMembers ((key, v) :: ms) ++ rest =
      ',' :: '"' :: memberText key v (writeMembers ms ++ rest) := by
  simp [writeMembers, writeString, memberText]

/-- Members are read from the first one on. -/
theorem members_write {key : String} {v : Json} {ms soFar : Members}
    (hkeys : ((soFar ++ (key, v) :: ms).map Prod.fst).Nodup)
    (hitems : ∀ m ∈ (key, v) :: ms, ReadsBack item depth m.2) {fuel : Nat}
    (hfuel : ms.length < fuel) (rest : List Char) :
    (depthMembers ((key, v) :: ms) ≤ depth →
      ∃ ws, members item fuel soFar (memberText key v (writeMembers ms ++ rest)) =
        .ok (soFar ++ ws, rest) ∧
          ((∀ m ∈ (key, v) :: ms, m.2.IsIntegral) → ws = (key, v) :: ms)) ∧
      (depth < depthMembers ((key, v) :: ms) →
        members item fuel soFar (memberText key v (writeMembers ms ++ rest)) = .error .tooDeep) := by
  induction ms generalizing key v fuel soFar with
  | nil =>
    have hnew := set_of_nodup hkeys
    obtain ⟨fuel, rfl⟩ : ∃ more, fuel = more + 1 := ⟨fuel - 1, by omega⟩
    have hv := hitems (key, v) List.mem_cons_self
    have hend := endsValue_writeMembers [] rest
    rw [depthMembers, depthMembers, Nat.max_zero]
    constructor
    · intro hdepth
      obtain ⟨w, hw, hsame⟩ := hv.shallow hdepth _ hend
      refine ⟨[(key, w)], ?_, fun hall => ?_⟩
      · rw [members_last hw, hnew]
        rfl
      · rw [hsame (hall (key, v) List.mem_cons_self)]
    · intro hdeep
      exact members_error (hv.deep hdeep _ hend)
  | cons m ms ih =>
    obtain ⟨fuel, rfl⟩ : ∃ more, fuel = more + 1 := ⟨fuel - 1, by omega⟩
    obtain ⟨key', v'⟩ := m
    have hv := hitems (key, v) List.mem_cons_self
    have hend := endsValue_writeMembers ((key', v') :: ms) rest
    have hcomma := writeMembers_cons key' v' ms rest
    -- After the first member and a comma the others are read.
    have hrest (w : Json) : ((soFar.set key w ++ (key', v') :: ms).map Prod.fst).Nodup := by
      rw [set_of_nodup hkeys]
      simpa using hkeys
    have hothers := fun w => ih (hrest w) (fun x hx => hitems x (List.mem_cons_of_mem _ hx))
      (Nat.lt_of_succ_lt_succ hfuel)
    rw [depthMembers]
    constructor
    · intro hdepth
      obtain ⟨w, hw, hsame⟩ := hv.shallow (by dsimp only; omega) _ hend
      obtain ⟨ws, hws, hsame'⟩ := (hothers w).1 (by omega)
      refine ⟨(key, w) :: ws, ?_, fun hall => ?_⟩
      · rw [hcomma] at hw ⊢
        rw [members_next hw, hws, set_of_nodup hkeys]
        simp
      · rw [hsame (hall (key, v) List.mem_cons_self),
          hsame' fun x hx => hall x (List.mem_cons_of_mem _ hx)]
    · intro hdeep
      by_cases hfirst : v.depth ≤ depth
      · obtain ⟨w, hw, -⟩ := hv.shallow hfirst _ hend
        rw [hcomma] at hw ⊢
        rw [members_next hw]
        exact (hothers w).2 (by omega)
      · exact members_error (hv.deep (Nat.lt_of_not_le hfirst) _ hend)

/-- An object behind its opening brace, and its members as they are read. -/
theorem object_write {ms : Members} (hkeys : (ms.map Prod.fst).Nodup)
    (hitems : ∀ m ∈ ms, ReadsBack item depth m.2) (rest : List Char) :
    ∃ cs, (obj ms).write ++ rest = '\x7b' :: cs ∧
      (depthMembers ms ≤ depth →
        ∃ ws, object item cs = .ok (ws, rest) ∧ ((∀ m ∈ ms, m.2.IsIntegral) → ws = ms)) ∧
      (depth < depthMembers ms → object item cs = .error .tooDeep) := by
  cases ms with
  | nil =>
    refine ⟨'\x7d' :: rest, rfl, fun _ => ⟨[], ?_, fun _ => rfl⟩, fun hdeep => ?_⟩
    · rw [object, skipSpace_cons (by decide)]
      rfl
    · rw [depthMembers] at hdeep
      omega
  | cons m ms =>
    obtain ⟨key, v⟩ := m
    refine ⟨'"' :: memberText key v (writeMembers ms ++ rest), ?_, ?_⟩
    · simp [write, writeString, memberText]
    · have hobject : object item ('"' :: memberText key v (writeMembers ms ++ rest)) =
          members item ((memberText key v (writeMembers ms ++ rest)).length + 1) []
            (memberText key v (writeMembers ms ++ rest)) := by
        rw [object, skipSpace_cons (by decide)]
        rfl
      have hlength := length_le_writeMembers ms
      have hfuel : ms.length < (memberText key v (writeMembers ms ++ rest)).length + 1 := by
        simp only [memberText, List.length_append, List.length_cons]
        omega
      rw [hobject]
      exact members_write hkeys hitems hfuel rest

theorem value_brace (cs : List Char) : value 0 ('\x7b' :: cs) = .error .tooDeep := by
  unfold value
  rw [skipSpace_cons (by decide)]
  rfl

theorem value_brace_succ (depth : Nat) (cs : List Char) :
    value (depth + 1) ('\x7b' :: cs) = (object (value depth) cs).map fun (ms, cs) => (obj ms, cs) := by
  rw [value, skipSpace_cons (by decide)]
  rfl

/-- An object. -/
theorem readsBack_obj {ms : Members} (hkeys : (ms.map Prod.fst).Nodup)
    (hitems : ∀ depth, ∀ m ∈ ms, ReadsBack (value depth) depth m.2) (depth : Nat) :
    ReadsBack (value depth) depth (obj ms) := by
  have hdepth : (obj ms).depth = depthMembers ms + 1 := by rw [Json.depth]
  cases depth with
  | zero =>
    refine ⟨fun hshallow => absurd hshallow (by omega), fun _ rest _ => ?_⟩
    obtain ⟨cs, hcs, -⟩ := object_write hkeys (hitems 0) rest
    rw [hcs, value_brace]
  | succ depth =>
    refine ⟨fun hshallow rest _ => ?_, fun hdeep rest _ => ?_⟩
    · obtain ⟨cs, hcs, hread, -⟩ := object_write hkeys (hitems depth) rest
      obtain ⟨ws, hws, hsame⟩ := hread (by omega)
      refine ⟨obj ws, ?_, fun hintegral => ?_⟩
      · rw [hcs, value_brace_succ, hws]
        rfl
      · cases hintegral with
        | obj hall => rw [hsame hall]
    · obtain ⟨cs, hcs, -, hread⟩ := object_write hkeys (hitems depth) rest
      rw [hcs, value_brace_succ, hread (by omega)]
      rfl

end Objects

/-! ## Values and texts -/

/-- Every value there can be. -/
theorem readsBack_value {v : Json} (hv : v.IsProper) (depth : Nat) :
    ReadsBack (value depth) depth v := by
  induction v using Json.induction generalizing depth with
  | null =>
    refine readsBack_scalar rfl fun rest _ => ⟨null, ?_, fun _ => rfl⟩
    unfold value
    rfl
  | bool b =>
    refine readsBack_scalar rfl fun rest _ => ⟨bool b, ?_, fun _ => rfl⟩
    cases b <;>
    · unfold value
      rfl
  | number n =>
    cases hv with
    | number hn =>
      refine readsBack_scalar rfl fun rest hrest => ?_
      obtain ⟨n', hn', hsame⟩ := exists_value_number hn hrest
      exact ⟨number n', hn', fun hintegral => congrArg number (hsame hintegral)⟩
  | str text =>
    exact readsBack_scalar rfl fun rest _ => ⟨str text, value_writeString depth text rest, fun _ => rfl⟩
  | arr items ih =>
    cases hv with
    | arr h => exact readsBack_arr h (fun depth v hv => ih v hv (h v hv) depth) depth
  | obj members ih =>
    cases hv with
    | obj hkeys h => exact readsBack_obj hkeys (fun depth m hm => ih m hm (h m hm) depth) depth

/-- An object as a text of its own. -/
theorem readTable_text {ms : Members} (h : (obj ms).IsProper) :
    ((obj ms).depth ≤ depthLimit →
        ∃ ws, readTable (obj ms).text = .ok ws ∧ ((obj ms).IsIntegral → ws = ms)) ∧
      (depthLimit < (obj ms).depth → readTable (obj ms).text = .error (.text .tooDeep)) := by
  cases h with
  | obj hkeys hvalues =>
    obtain ⟨cs, hcs, hshallow, hdeep⟩ := object_write hkeys
      (fun m hm => readsBack_value (hvalues m hm) (depthLimit - 1)) []
    have hread : readTable (obj ms).text = (do
        let (ms, cs) ← orUnreadable (object (value (depthLimit - 1)) cs)
        orUnreadable (finish cs)
        return ms) := by
      rw [List.append_nil] at hcs
      rw [readTable, text, String.toList_ofList, hcs, skipSpace_cons (by decide)]
      rfl
    have hdepth : (obj ms).depth = depthMembers ms + 1 := by rw [Json.depth]
    have hlimit : depthLimit = 127 := rfl
    constructor
    · intro hle
      obtain ⟨ws, hws, hsame⟩ := hshallow (by omega)
      refine ⟨ws, ?_, fun hintegral => ?_⟩
      · rw [hread, hws]
        rfl
      · cases hintegral with
        | obj hall => exact hsame hall
    · intro hlt
      rw [hread, hdeep (by omega)]
      rfl

end Json

end RetrySafe
