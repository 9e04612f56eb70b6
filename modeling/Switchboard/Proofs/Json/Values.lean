import Switchboard.Proofs.Json.Scalars
import Switchboard.Proofs.Json.Shape
import Switchboard.Proofs.Task.Success
/-!
# Reading what was written: parts of values

How a value is read from its parts. Scalars are read from their texts (`Json.readValue_string`,
`Json.readValue_number`), items and fields one after another (`Json.readItems_step`,
`Json.readFields_step`), and what stands between brackets with one level less to go down
(`Json.readValue_array`, `Json.readValue_object`). Blanks between any of these make no difference
(`Json.AllBlank`).
-/

namespace Switchboard

namespace Json

open Source (ofChars)

variable {v : Json} {items : List Json} {fields acc : Fields} {fuel depth : Nat}
variable {rest s : Source} {c : Char} {name : String} {bs : List Char}

/-! ## What stands where -/

/-- A value can start here. -/
def StartsValue : Source → Prop
  | some c :: _ => isBlank c = false ∧ c ≠ ']' ∧ c ≠ ','
  | none :: _ => False
  | [] => False

/-- The characters other than digits that values start with. -/
def openers : List Char := ['n', 't', 'f', '"', '[', '{', '-']

/-- A number is written with one digit at least. -/
theorem exists_isDigit_toDigits (n : Nat) :
    ∃ d ds, Nat.toDigits 10 n = d :: ds ∧ d.isDigit = true := by
  cases hds : Nat.toDigits 10 n with
  | nil => exact absurd hds Nat.toDigits_ne_nil
  | cons d ds =>
    have hd : d ∈ Nat.toDigits 10 n := hds ▸ List.mem_cons_self
    exact ⟨d, ds, rfl, Nat.isDigit_of_mem_toDigits (by decide) (by decide) hd⟩

/-- The sign of an integer stands in front of its digits, if it has one. -/
theorem toList_text (i : Int) (fits : FitsWord i) : (Number.whole i fits).text.toList =
    if i < 0 then '-' :: Nat.toDigits 10 i.natAbs else Nat.toDigits 10 i.natAbs := by
  rw [Number.text]
  split
  · rw [String.toList_append, Nat.toString_eq_repr, Nat.toList_repr]
    rfl
  · rw [Nat.toString_eq_repr, Nat.toList_repr]

/-- The first character of what is written of a value. -/
theorem exists_render (h : v.Whole) :
    ∃ c cs, render v = c :: cs ∧ (c ∈ openers ∨ c.isDigit = true) := by
  cases h with
  | null => exact ⟨_, _, rfl, .inl (by decide)⟩
  | bool b => cases b <;> exact ⟨_, _, rfl, .inl (by decide)⟩
  | number i fits =>
    rw [render, toList_text]
    by_cases hi : i < 0
    · rw [if_pos hi]
      exact ⟨_, _, rfl, .inl (by decide)⟩
    · rw [if_neg hi]
      obtain ⟨d, ds, hds, hd⟩ := exists_isDigit_toDigits i.natAbs
      exact ⟨d, ds, hds, .inr hd⟩
  | string s => exact ⟨_, _, rfl, .inl (by decide)⟩
  | array _ => exact ⟨_, _, rfl, .inl (by decide)⟩
  | object _ => exact ⟨_, _, rfl, .inl (by decide)⟩

/-- A digit is none of the characters that mean something else. -/
theorem ne_of_isDigit (h : c.isDigit = true) {d : Char} (hd : d.isDigit = false) : c ≠ d := by
  rintro rfl
  exact Bool.false_ne_true (hd.symm.trans h)

/-- A digit starts a value, -/
theorem startsValue_of_isDigit (h : c.isDigit = true) (s : Source) : StartsValue (some c :: s) := by
  have hne {d : Char} (hd : d.isDigit = false) : c ≠ d := ne_of_isDigit h hd
  refine ⟨?_, hne rfl, hne rfl⟩
  simp only [isBlank, hne (d := ' ') rfl, hne (d := '\n') rfl, hne (d := '\t') rfl,
    hne (d := '\r') rfl, decide_false, Bool.or_self]

/-- and so do the other characters that a written value begins with. -/
theorem startsValue_cons (hc : c ∈ openers ∨ c.isDigit = true) (s : Source) :
    StartsValue (some c :: s) := by
  rcases hc with hc | hc
  · simp only [openers, List.mem_cons, List.not_mem_nil, or_false] at hc
    rcases hc with rfl | rfl | rfl | rfl | rfl | rfl | rfl <;>
      exact ⟨rfl, by decide, by decide⟩
  · exact startsValue_of_isDigit hc s

/-- The items of an array after the first one, as they are written. -/
def renderMoreItems : List Json → List Char
  | [] => []
  | v :: rest => ',' :: (render v ++ renderMoreItems rest)

/-- The fields of an object after the first one, as they are written. -/
def renderMoreFields : Fields → List Char
  | [] => []
  | (n, v) :: rest => ',' :: (quote n ++ ':' :: (render v ++ renderMoreFields rest))

/-- Items are written with a comma in front of each but the first, -/
theorem renderItems_cons (v : Json) (items : List Json) :
    renderItems (v :: items) = render v ++ renderMoreItems items := by
  induction items generalizing v with
  | nil => rw [renderItems, renderMoreItems, List.append_nil]
  | cons w items ih => rw [renderItems, ih, renderMoreItems]

/-- and fields likewise. -/
theorem renderFields_cons (n : String) (v : Json) (fields : Fields) :
    renderFields ((n, v) :: fields) = quote n ++ ':' :: (render v ++ renderMoreFields fields) := by
  induction fields generalizing n v with
  | nil => rw [renderFields, renderMoreFields, List.append_nil]
  | cons f fields ih =>
    obtain ⟨m, w⟩ := f
    rw [renderFields, ih, renderMoreFields]

/-- Behind an item there is a comma or a bracket, and a number is over there. -/
theorem endsNumber_moreItems (items : List Json) (rest : Source) :
    EndsNumber (ofChars (renderMoreItems items) ++ some ']' :: rest) := by
  cases items with
  | nil => exact ⟨rfl, by decide, by decide, by decide⟩
  | cons v items => exact ⟨rfl, by decide, by decide, by decide⟩

theorem endsNumber_moreFields (fields : Fields) (rest : Source) :
    EndsNumber (ofChars (renderMoreFields fields) ++ some '}' :: rest) := by
  cases fields with
  | nil => exact ⟨rfl, by decide, by decide, by decide⟩
  | cons f fields =>
    obtain ⟨n, v⟩ := f
    exact ⟨rfl, by decide, by decide, by decide⟩

/-! ## Where parts start -/

/-- Nothing is skipped in front of what is no blank. -/
theorem skipBlanks_cons (h : isBlank c = false) (s : Source) :
    skipBlanks (some c :: s) = some c :: s := by
  rw [skipBlanks, List.dropWhile_cons_of_neg]
  rw [Option.any_some, h]
  exact Bool.false_ne_true

theorem skipBlanks_of_startsValue (h : StartsValue s) : skipBlanks s = s := by
  cases s with
  | nil => rfl
  | cons x s =>
    cases x with
    | none => rfl
    | some c => exact skipBlanks_cons h.1 s

/-- The first item of an array stands right behind the bracket. -/
theorem nextItem_first (h : StartsValue s) : nextItem true s = .ok (some s) := by
  rw [nextItem, skipBlanks_of_startsValue h]
  split
  · exact h.elim
  · exact absurd rfl h.2.1
  · exact absurd rfl h.2.2
  · rfl

/-! ## Blanks between tokens -/

/-- Nothing but blanks. -/
def AllBlank (bs : List Char) : Prop := ∀ c ∈ bs, isBlank c = true

theorem allBlank_nil : AllBlank [] := by
  intro c hc
  cases hc

/-- **Blanks are skipped wherever a token may start,** so readers do not see them. -/
theorem AllBlank.skipBlanks (h : AllBlank bs) (s : Source) :
    skipBlanks (ofChars bs ++ s) = Json.skipBlanks s := by
  refine List.dropWhile_append_of_pos fun x hx => ?_
  obtain ⟨c, hc, rfl⟩ := List.mem_map.1 hx
  exact h c hc

theorem AllBlank.readValue (h : AllBlank bs) (hfuel : 0 < fuel) (depth : Nat) (s : Source) :
    readValue fuel depth (ofChars bs ++ s) = Json.readValue fuel depth s := by
  obtain ⟨fuel, rfl⟩ := Nat.exists_eq_succ_of_ne_zero (Nat.ne_of_gt hfuel)
  rw [Json.readValue, h.skipBlanks, Json.readValue]

/-- This takes some fuel, since without any nothing is read at all. -/
theorem AllBlank.readItems (h : AllBlank bs) (hfuel : 0 < fuel) (depth : Nat) (first : Bool)
    (s : Source) :
    readItems fuel depth first (ofChars bs ++ s) = Json.readItems fuel depth first s := by
  obtain ⟨fuel, rfl⟩ := Nat.exists_eq_succ_of_ne_zero (Nat.ne_of_gt hfuel)
  have hnext : nextItem first (ofChars bs ++ s) = nextItem first s := by
    rw [nextItem, h.skipBlanks, nextItem]
  rw [Json.readItems, hnext, h.skipBlanks, Json.readItems]

theorem AllBlank.readFields (h : AllBlank bs) (hfuel : 0 < fuel) (depth : Nat) (first : Bool)
    (acc : Fields) (s : Source) :
    readFields fuel depth first acc (ofChars bs ++ s) = Json.readFields fuel depth first acc s := by
  obtain ⟨fuel, rfl⟩ := Nat.exists_eq_succ_of_ne_zero (Nat.ne_of_gt hfuel)
  have hnext : nextField first (ofChars bs ++ s) = nextField first s := by
    rw [nextField, h.skipBlanks, nextField]
  rw [Json.readFields, hnext, h.skipBlanks, Json.readFields]

/-- Behind a comma there may be blanks in front of an item, -/
theorem AllBlank.nextItem (h : AllBlank bs) (hs : StartsValue s) :
    nextItem false (some ',' :: (ofChars bs ++ s)) = .ok (some s) := by
  rw [Json.nextItem, skipBlanks_cons (c := ',') rfl]
  simp only [Bool.false_eq_true, reduceIte, h.skipBlanks, skipBlanks_of_startsValue hs]
  split
  · exact hs.elim
  · exact absurd rfl hs.2.1
  · rfl

/-- and in front of the name of a field. -/
theorem AllBlank.nextField (h : AllBlank bs) (s : Source) :
    nextField false (some ',' :: (ofChars bs ++ some '"' :: s)) = .ok (some s) := by
  have hquote : Json.skipBlanks (ofChars bs ++ some '"' :: s) = some '"' :: s := by
    rw [h.skipBlanks, skipBlanks_cons (c := '"') rfl]
  rw [Json.nextField, skipBlanks_cons (c := ',') rfl]
  change (if false = true then _ else _) = _
  rw [if_neg Bool.false_ne_true]
  split
  · next heq =>
    rw [← (List.cons.inj heq).2, hquote]
    rfl
  · next hne => exact absurd rfl (hne _)

/-- A blank ends a number as well as a comma does. -/
theorem AllBlank.endsNumber (h : AllBlank bs) (hs : EndsNumber s) :
    EndsNumber (ofChars bs ++ s) := by
  cases bs with
  | nil => exact hs
  | cons c bs =>
    have hc : isBlank c = true := h c List.mem_cons_self
    simp only [isBlank, Bool.or_eq_true, decide_eq_true_eq] at hc
    rcases hc with ((rfl | rfl) | rfl) | rfl <;> exact ⟨rfl, by decide, by decide, by decide⟩

theorem nextItem_comma (h : StartsValue s) : nextItem false (some ',' :: s) = .ok (some s) :=
  allBlank_nil.nextItem h

theorem nextField_comma (s : Source) :
    nextField false (some ',' :: some '"' :: s) = .ok (some s) :=
  allBlank_nil.nextField s

/-! ## Scalars -/

/-- A text is read from its quotes. -/
theorem readValue_string (s : String) (fuel depth : Nat) (rest : Source) :
    readValue (fuel + 1) depth (ofChars (quote s) ++ rest) = .ok (.string s, rest) := by
  rw [quote, ofChars_cons, List.cons_append, readValue, skipBlanks_cons (c := '"') rfl]
  simp only [readStringBody_escape]
  rfl

/-- What starts with a digit is read as a number. -/
theorem readValue_digit (h : c.isDigit = true) (fuel depth : Nat) {n : Number}
    (hread : readNumber false (some c :: s) = .ok (n, rest)) :
    readValue (fuel + 1) depth (some c :: s) = .ok (.number n, rest) := by
  have hne {d : Char} (hd : d.isDigit = false) : c ≠ d := ne_of_isDigit h hd
  rw [readValue, skipBlanks_cons (startsValue_of_isDigit h s).1]
  -- Nothing else that a value starts with is a digit.
  split
  · next heq => cases heq
  · next heq => exact absurd (Option.some.inj (List.cons.inj heq).1) (hne rfl)
  · next heq => exact absurd (Option.some.inj (List.cons.inj heq).1) (hne rfl)
  · next heq => exact absurd (Option.some.inj (List.cons.inj heq).1) (hne rfl)
  · next heq => exact absurd (Option.some.inj (List.cons.inj heq).1) (hne rfl)
  · next heq => exact absurd (Option.some.inj (List.cons.inj heq).1) (hne rfl)
  · next heq => exact absurd (Option.some.inj (List.cons.inj heq).1) (hne rfl)
  · next heq => exact absurd (Option.some.inj (List.cons.inj heq).1) (hne rfl)
  · rw [digit?, if_pos h, Option.isSome_some, if_pos rfl, hread]
    rfl

/-- **An integer is read from its digits,** if what follows does not go on with the number. -/
theorem readValue_number {i : Int} (fits : FitsWord i) (fuel depth : Nat)
    (hrest : EndsNumber rest) :
    readValue (fuel + 1) depth (ofChars (Number.whole i fits).text.toList ++ rest) =
      .ok (.number (.whole i fits), rest) := by
  have hread := readNumber_text fits hrest
  rw [toList_text]
  by_cases hi : i < 0
  · rw [decide_eq_true hi] at hread
    rw [if_pos hi, ofChars_cons, List.cons_append, readValue, skipBlanks_cons (c := '-') rfl]
    simp only [hread]
    rfl
  · rw [decide_eq_false hi] at hread
    rw [if_neg hi]
    obtain ⟨d, ds, hds, hd⟩ := exists_isDigit_toDigits i.natAbs
    rw [hds, ofChars_cons, List.cons_append] at hread ⊢
    exact readValue_digit hd fuel depth hread

/-- The zero below zero is the one number with a fraction that is read back here. -/
theorem render_minusZero : render (.number (.float (.zero true))) = ['-', '0', '.', '0'] := by
  decide +kernel

theorem readValue_minusZero (fuel depth : Nat) (hrest : EndsNumber rest) :
    readValue (fuel + 1) depth (ofChars (render (.number (.float (.zero true)))) ++ rest) =
      .ok (.number (.float (.zero true)), rest) := by
  rw [render_minusZero, ofChars_cons, List.cons_append, readValue, skipBlanks_cons (c := '-') rfl]
  simp only [readNumber_minusZero hrest]
  rfl

/-! ## One part after another -/

theorem nextItem_close (first : Bool) (rest : Source) :
    nextItem first (some ']' :: rest) = .ok none := rfl

theorem nextField_close (first : Bool) (rest : Source) :
    nextField first (some '}' :: rest) = .ok none := rfl

theorem nextField_first (s : Source) : nextField true (some '"' :: s) = .ok (some s) := rfl

/-- A closing bracket ends the items, also where none has been read. -/
theorem readItems_close (fuel depth : Nat) (first : Bool) (rest : Source) :
    readItems (fuel + 1) depth first (some ']' :: rest) = .ok ([], rest) := by
  rw [readItems, nextItem_close]
  rfl

/-- One item after another. -/
theorem readItems_step {first : Bool} {s' : Source} (hnext : nextItem first s = .ok (some s'))
    {C D : Prop} (hitem : YieldsIf C (readValue fuel depth s') (v, rest)) {rest' : Source}
    (hitems : YieldsIf D (readItems fuel depth false rest) (items, rest')) :
    YieldsIf (C ∧ D) (readItems (fuel + 1) depth first s) (v :: items, rest') := by
  rw [readItems, hnext]
  exact hitem.bind (hitems.bind_ok rfl)

/-- A closing brace ends the fields. Those that were read stand in the order of their names by then.
-/
theorem readFields_close (fuel depth : Nat) (first : Bool) (acc : Fields) (rest : Source) :
    readFields (fuel + 1) depth first acc (some '}' :: rest) = .ok (acc, rest) := by
  rw [readFields, nextField_close]
  rfl

/-- One field after another, with blanks behind the colon. -/
theorem readFields_step {first : Bool} {s' : Source} (hcolon : AllBlank bs)
    (hnext : nextField first s =
      .ok (some (ofChars (escape name ++ ['"']) ++ some ':' :: (ofChars bs ++ s'))))
    (hfuel : 0 < fuel) {C D : Prop} (hvalue : YieldsIf C (readValue fuel depth s') (v, rest))
    {rest' : Source} (hfields : YieldsIf D
      (readFields fuel depth false (insertField name v acc) rest) (fields, rest')) :
    YieldsIf (C ∧ D) (readFields (fuel + 1) depth first acc s) (fields, rest') := by
  have hread : readColon (some ':' :: (ofChars bs ++ s')) = .ok (ofChars bs ++ s') := rfl
  rw [← hcolon.readValue hfuel] at hvalue
  rw [readFields, hnext]
  simp only [bind, Except.bind, readStringBody_escape, hread]
  exact hvalue.bind hfields

/-! ### Opening -/

/-- An array takes one of the levels, and its items are read with those that are left. -/
theorem readValue_array {k : Nat} (hitems : 1 < depth →
    YieldsIf (k < depth - 1) (readItems fuel (depth - 1) true s) (items, rest)) :
    YieldsIf (1 + k < depth) (readValue (fuel + 1) depth (some '[' :: s)) (.array items, rest) := by
  rw [readValue, skipBlanks_cons (c := '[') rfl]
  simp only []
  by_cases hlevels : depth ≤ 1
  · rw [if_pos hlevels]
    exact .error (by omega) _ _
  · rw [if_neg hlevels]
    refine YieldsIf.congr ((hitems (by omega)).bind_ok rfl) ?_
    omega

/-- And so does an object. -/
theorem readValue_object {k : Nat} (hfields : 1 < depth →
    YieldsIf (k < depth - 1) (readFields fuel (depth - 1) true [] s) (fields, rest)) :
    YieldsIf (1 + k < depth) (readValue (fuel + 1) depth (some '{' :: s))
      (.object fields, rest) := by
  rw [readValue, skipBlanks_cons (c := '{') rfl]
  simp only []
  by_cases hlevels : depth ≤ 1
  · rw [if_pos hlevels]
    exact .error (by omega) _ _
  · rw [if_neg hlevels]
    refine YieldsIf.congr ((hfields (by omega)).bind_ok rfl) ?_
    omega

end Json

end Switchboard
