import Switchboard.Json.Record
import Switchboard.Proofs.Json.Layout
/-!
# Reading what was written: typed documents

A typed reader reads a value as something (`Json.Reads`) if it makes that of the value's text,
wherever it stands, on the one condition that there are levels enough for it. This is handed up from
the parts to the whole: from items to lists, and from fields to records. For a record, the fields
that are written must fill it (`Json.Fills`): each is one of the record's own, none comes twice, and
none that is required is left out.
-/

namespace Switchboard

namespace Json

open Source (ofChars)

variable {α β : Type} {read : Reader α} {v : Json} {x y : α} {depth fuel : Nat} {rest s : Source}

/-- **The reader reads the value as this.** -/
def Reads (read : Reader α) (v : Json) (x : α) : Prop := ∀ depth rest, 0 < depth →
  EndsNumber rest →
    YieldsIf (v.nesting < depth) (read depth (ofChars (render v) ++ rest)) (x, rest)

/-! ## Simple readers -/

theorem reads_anyValue (hordered : v.Ordered) (hwhole : v.Whole) : Reads anyValue v v := by
  intro depth rest hdepth hrest
  refine readValue_render hordered hwhole ?_ hdepth hrest
  rw [enoughFuel, List.length_append, length_ofChars]
  omega

theorem reads_aString (t : String) : Reads aString (.string t) t := by
  intro depth rest hdepth hrest
  rw [render, quote, ofChars_cons, List.cons_append, aString, skipBlanks_cons (c := '"') rfl]
  simp only [readStringBody_escape]
  exact .ok hdepth _

theorem reads_aBoolean (b : Bool) : Reads aBoolean (.bool b) b := by
  intro depth rest hdepth hrest
  cases b <;> exact .ok hdepth _

/-- What is written of an object is not null, so it is read as something. -/
theorem Reads.optional {fields : Fields} (h : Reads read (.object fields) x) :
    Reads (optional read) (.object fields) (some x) := by
  intro depth rest hdepth hrest
  have hread := h depth rest hdepth hrest
  rw [render, ofChars_cons, List.cons_append] at hread ⊢
  rw [Json.optional, skipBlanks_cons (c := '{') rfl]
  simp only []
  exact hread.bind_ok rfl

/-! ## Lists -/

theorem startsValue_object (fields : Fields) (rest : Source) :
    StartsValue (ofChars (render (.object fields)) ++ rest) := by
  rw [render]
  exact ⟨rfl, by decide, by decide⟩

theorem readListItems_close (read : Reader α) (depth fuel : Nat) (first : Bool) (rest : Source) :
    readListItems read depth (fuel + 1) first (some ']' :: rest) = .ok ([], rest) := by
  rw [readListItems, nextItem_close]
  rfl

theorem readListItems_step {first : Bool} {s' : Source} (hnext : nextItem first s = .ok (some s'))
    {C D : Prop} (hitem : YieldsIf C (read depth s') (x, rest)) {xs : List α} {rest' : Source}
    (hitems : YieldsIf D (readListItems read depth fuel false rest) (xs, rest')) :
    YieldsIf (C ∧ D) (readListItems read depth (fuel + 1) first s) (x :: xs, rest') := by
  rw [readListItems, hnext]
  exact hitem.bind (hitems.bind_ok rfl)

section Lists

variable {f : α → Json} {xs : List α}

/-- Each item can start, and is read. -/
def ReadsItems (read : Reader α) (f : α → Json) (xs : List α) : Prop :=
  ∀ x ∈ xs, (∀ rest, StartsValue (ofChars (render (f x)) ++ rest)) ∧ Reads read (f x) x

theorem readListItems_renderMoreItems (h : ReadsItems read f xs) (hdepth : 0 < depth)
    (hfuel : (renderMoreItems (xs.map f)).length + 1 ≤ fuel) (rest : Source) :
    YieldsIf (nestingOfItems (xs.map f) < depth)
      (readListItems read depth fuel false
        (ofChars (renderMoreItems (xs.map f)) ++ some ']' :: rest))
      (xs, rest) := by
  induction xs generalizing fuel with
  | nil =>
    obtain _ | fuel := fuel
    · omega
    rw [List.map_nil, renderMoreItems, ofChars_nil, List.nil_append, readListItems_close]
    exact .ok hdepth _
  | cons x xs ih =>
    obtain _ | fuel := fuel
    · omega
    obtain ⟨hstarts, hreads⟩ := h x List.mem_cons_self
    rw [List.map_cons, renderMoreItems, List.length_cons, List.length_append] at hfuel
    rw [List.map_cons, renderMoreItems, ofChars_cons, ofChars_append, List.cons_append,
      List.append_assoc]
    refine YieldsIf.congr (readListItems_step (nextItem_comma (hstarts _))
      (hreads depth _ hdepth (endsNumber_moreItems (xs.map f) rest))
      (ih (fun y hy => h y (List.mem_cons_of_mem _ hy)) (by omega))) ?_
    rw [nestingOfItems, Nat.max_lt]

/-- **A list is read** whose items are. -/
theorem Reads.listOf (h : ReadsItems read f xs) : Reads (listOf read) (.array (xs.map f)) xs := by
  intro depth rest hdepth hrest
  rw [render, ofChars_cons, ofChars_append, List.cons_append, List.append_assoc, Json.listOf,
    skipBlanks_cons (c := '[') rfl, nesting]
  simp only []
  by_cases hlevels : depth ≤ 1
  · rw [if_pos hlevels]
    exact .error (by omega) _ _
  rw [if_neg hlevels]
  cases xs with
  | nil =>
    rw [List.map_nil, renderItems, nestingOfItems]
    exact .ok (by omega) _
  | cons x xs =>
    obtain ⟨hstarts, hreads⟩ := h x List.mem_cons_self
    rw [List.map_cons, renderItems_cons, ofChars_append, List.append_assoc]
    have hfirst := hreads (depth - 1) _ (by omega) (endsNumber_moreItems (xs.map f) rest)
    refine YieldsIf.congr (readListItems_step (nextItem_first (hstarts _)) hfirst
      (readListItems_renderMoreItems (fun y hy => h y (List.mem_cons_of_mem _ hy)) (by omega) ?_
        rest)) ?_
    · simp only [List.length_append, length_ofChars, List.length_cons]
      omega
    · rw [nestingOfItems]
      omega

end Lists

/-! ## Records -/

/-- A field is read by the reader for its value, and stored. -/
theorem Reads.field {read : Reader β} {z : β} (h : Reads read v z) {name : String}
    {required : Bool} {set : β → α → α} {others : List String} :
    Reads (fieldReader name required read set others).read v (set z) := by
  intro depth rest hdepth hrest
  exact (h depth rest hdepth hrest).bind_ok rfl

/-- **Written fields fill a record,** of which some fields have been seen, and make it another one:
each is one of its fields that has not been seen, and in the end all that are required have been. -/
inductive Fills (fields : List (FieldReader α)) : List String → α → Fields → α → Prop where
  | done {seen : List String} {x : α}
      (complete : (fields.find? fun f => f.required && !seen.contains f.name) = none) :
      Fills fields seen x [] x
  | field {seen : List String} {x y : α} {name : String} {v : Json} {rest : Fields}
      {f : FieldReader α} {set : α → α} (found : fields.find? (·.answersTo name) = some f)
      (fresh : seen.contains f.name = false) (reads : Reads f.read v set)
      (more : Fills fields (f.name :: seen) (set x) rest y) :
      Fills fields seen x ((name, v) :: rest) y

section Records

variable {fields : List (FieldReader α)} {seen : List String} {written : Fields} {first : Bool}

theorem ofChars_field (n : String) (v : Json) (more : List Char) (rest : Source) :
    ofChars (quote n ++ ':' :: (render v ++ more)) ++ rest =
      some '"' :: (ofChars (escape n ++ ['"']) ++ some ':' ::
        (ofChars (render v) ++ (ofChars more ++ rest))) := by
  rw [quote, List.cons_append, ofChars_cons, List.cons_append, ofChars_append (escape n ++ ['"']),
    ofChars_cons, ofChars_append (render v), List.append_assoc, List.cons_append, List.append_assoc]

theorem length_field (n : String) (v : Json) (more : List Char) :
    (quote n ++ ':' :: (render v ++ more)).length =
      (quote n).length + (render v).length + more.length + 1 := by
  rw [List.length_append, List.length_cons, List.length_append]
  omega

theorem readNamed_close
    (complete : (fields.find? fun f => f.required && !seen.contains f.name) = none)
    (depth fuel : Nat) (first : Bool) (x : α) (rest : Source) :
    readNamed fields depth (fuel + 1) first seen x (some '}' :: rest) =
      .ok (x, some '}' :: rest) := by
  rw [readNamed, nextField_close]
  simp only [mapError_ok, bind, Except.bind, complete]
  rfl

theorem readNamed_step {s' : Source} {name : String} {f : FieldReader α} {set : α → α}
    (hnext : nextField first s = .ok (some (ofChars (escape name ++ ['"']) ++ some ':' :: s')))
    (found : fields.find? (·.answersTo name) = some f) (fresh : seen.contains f.name = false)
    {C D : Prop} (hvalue : YieldsIf C (f.read depth s') (set, rest)) {rest' : Source}
    (hmore : YieldsIf D (readNamed fields depth fuel false (f.name :: seen) (set x) rest)
      (y, rest')) :
    YieldsIf (C ∧ D) (readNamed fields depth (fuel + 1) first seen x s) (y, rest') := by
  have hcolon : readColon (some ':' :: s') = .ok s' := rfl
  -- The name is read, there is a field for it, and this is its first time.
  rw [readNamed, hnext]
  simp only [mapError_ok, bind, Except.bind, readStringBody_escape, found, fresh,
    Bool.false_eq_true, reduceIte, hcolon]
  exact (hvalue.mapError Refusal.placed).bind hmore

theorem Fills.readNamed_renderMoreFields (h : Fills fields seen x written y) (hdepth : 0 < depth)
    (hfuel : (renderMoreFields written).length + 1 ≤ fuel) (rest : Source) :
    YieldsIf (nestingOfFields written < depth)
      (readNamed fields depth fuel false seen x
        (ofChars (renderMoreFields written) ++ some '}' :: rest))
      (y, some '}' :: rest) := by
  induction h generalizing fuel with
  | done complete =>
    obtain _ | fuel := fuel
    · omega
    rw [renderMoreFields, ofChars_nil, List.nil_append, readNamed_close complete]
    exact .ok hdepth _
  | field found fresh reads more ih =>
    obtain _ | fuel := fuel
    · omega
    rw [renderMoreFields, List.length_cons, length_field] at hfuel
    rw [renderMoreFields, ofChars_cons, List.cons_append, ofChars_field]
    refine YieldsIf.congr (readNamed_step (nextField_comma _) found fresh
      (reads depth _ hdepth (endsNumber_moreFields _ rest)) (ih ?_)) ?_
    · omega
    · rw [nestingOfFields, Nat.max_lt]

theorem yieldsIf_finishRecord {C : Prop} {result : Except Refusal (α × Source)}
    (h : YieldsIf C result (x, some '}' :: rest)) :
    YieldsIf C (finishRecord closeBrace result) (x, rest) := by
  by_cases hC : C
  · rw [h.eq_ok hC]
    exact .ok hC _
  · cases result with
    | ok p => exact absurd ((h p).1 rfl).1 hC
    | error e =>
      -- An error stays one, though it may get another place.
      cases e with
      | placed f => exact .error hC _ _
      | unplaced cause s =>
        rw [finishRecord]
        split
        · exact .error hC _ _
        · exact .error hC _ _

/-- **A record is read** that is filled by what is written. -/
theorem Fills.reads {title : String} (h : Fills fields [] x written y) :
    Reads (readRecord title fields x) (.object written) y := by
  intro depth rest hdepth hrest
  rw [render, ofChars_cons, ofChars_append, List.cons_append, List.append_assoc, readRecord,
    skipBlanks_cons (c := '{') rfl, nesting]
  simp only []
  by_cases hlevels : depth ≤ 1
  · rw [if_pos hlevels]
    exact .error (by omega) _ _
  rw [if_neg hlevels, ofChars_cons '}', ofChars_nil, List.cons_append, List.nil_append]
  refine yieldsIf_finishRecord ?_
  cases h with
  | done complete =>
    rw [renderFields, ofChars_nil, List.nil_append, readNamed_close complete, nestingOfFields]
    exact .ok (by omega) _
  | field found fresh reads more =>
    rw [renderFields_cons, ofChars_field]
    refine YieldsIf.congr (readNamed_step (nextField_first _) found fresh
      (reads (depth - 1) _ (by omega) (endsNumber_moreFields _ rest))
      (more.readNamed_renderMoreFields (by omega) ?_ rest)) ?_
    · simp only [List.length_cons, List.length_append, length_ofChars]
      omega
    · rw [nestingOfFields]
      omega

end Records

/-! ## Documents -/

theorem ofString_text (v : Json) : Source.ofString v.text = ofChars (render v) := by
  rw [Source.ofString, text, String.toList_ofList]
  rfl

/-- **A value is read from its text,** if it nests less deep than readers go. -/
theorem Reads.readDocument (h : Reads read v x) :
    YieldsIf (v.nesting < nestingLimit) (readDocument read v.text) x := by
  have hread := h nestingLimit [] (by decide) trivial
  rw [List.append_nil, ← ofString_text] at hread
  unfold Json.readDocument parseWith
  exact YieldsIf.mapError _ (hread.bind_ok rfl)

end Json

end Switchboard
