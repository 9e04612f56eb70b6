import Switchboard.Proofs.Json.Parsed
import Switchboard.Proofs.Json.Values
/-!
# Reading what was written: documents

A document is read as what was written there, however it is spaced (`Json.readValue_write`), for
blanks between tokens make no difference to a reader. Without any it is compact, and with lines and
two blanks for each level it is laid out; both are read in the same way. A written object may have
several fields of one name, and the last of them is the one that counts (`Json.resolved`). Where the
fields are in order already, what a document stands for is itself (`Json.resolved_of_ordered`).

There are two conditions. Its numbers are integers of 64 bits (`Json.Exact`); and as many levels as
it nests must be left to the reader, and one more, which decides whether it is read at all
(`Json.parse_spacedText`).
-/

namespace Switchboard

namespace Json

open Source (ofChars)

variable {v w : Json} {items : List Json} {fields acc : Fields} {bs : List Char}
variable {fuel depth : Nat} {rest s : Source} {first : Bool} {name : String}

/-! ## What a document stands for -/

mutual

/-- **The value that a written one stands for:** of several fields of one name the last counts. -/
def resolved : Json → Json
  | .null => .null
  | .bool b => .bool b
  | .number n => .number n
  | .string s => .string s
  | .array items => .array (resolvedItems items)
  | .object fields => .object (Fields.ofList (resolvedFields fields))

/-- The values that the items of an array stand for. -/
def resolvedItems : List Json → List Json
  | [] => []
  | v :: rest => resolved v :: resolvedItems rest

/-- The fields of an object, with the values that theirs stand for. -/
def resolvedFields : List (String × Json) → List (String × Json)
  | [] => []
  | (n, v) :: rest => (n, resolved v) :: resolvedFields rest

end

theorem resolvedItems_eq_map (items : List Json) : resolvedItems items = items.map resolved := by
  induction items with
  | nil => rfl
  | cons v rest ih => rw [resolvedItems, ih, List.map_cons]

theorem resolvedFields_eq_map (fields : Fields) :
    resolvedFields fields = fields.map fun f => (f.1, f.2.resolved) := by
  induction fields with
  | nil => rfl
  | cons f rest ih => rw [resolvedFields, ih, List.map_cons]

/-- **Under each name stands what was written last** under it. -/
theorem lookup_resolvedFields (fields : Fields) (name : String) :
    (Fields.ofList (resolvedFields fields)).lookup name =
      (fields.reverse.lookup name).map resolved := by
  have hmap : ∀ fs : Fields, (fs.map fun f => (f.1, f.2.resolved)).lookup name =
      (fs.lookup name).map resolved := by
    intro fs
    induction fs with
    | nil => rfl
    | cons f rest ih =>
      rw [List.map_cons, List.lookup_cons, List.lookup_cons, ih]
      cases name == f.1 with
      | true => rfl
      | false => rfl
  rw [lookup_ofList, resolvedFields_eq_map, ← List.map_reverse, hmap]

-- Twice the same name: the first field is as if it had not been written.
example : (object [("a", .bool false), ("b", .null), ("a", .array [])]).resolved =
    object [("a", .array []), ("b", .null)] := rfl

/-- A value that is in order stands for itself. -/
theorem resolved_of_ordered (h : v.Ordered) : v.resolved = v := by
  induction h with
  | null => rfl
  | bool b => rfl
  | number n => rfl
  | string s => rfl
  | array _ ih => rw [resolved, resolvedItems_eq_map, List.map_congr_left (g := id) ih, List.map_id]
  | @object fields increasing _ ih =>
    have hsame : ∀ f, f ∈ fields → (f.1, f.2.resolved) = id f :=
      fun f hf => congrArg (f.1, ·) (ih f hf)
    rw [resolved, resolvedFields_eq_map, List.map_congr_left hsame, List.map_id,
      ofList_of_increasing increasing]

/-! ## Integers -/

/-- **All numbers are integers of 64 bits,** signed or not. The text `-0` is that of one, too. It
is read as the zero of binary64 that has a sign. -/
inductive Exact : Json → Prop where
  | null : Exact .null
  | bool (b : Bool) : Exact (.bool b)
  | whole (i : Int) (fits : FitsWord i) : Exact (.number (.whole i fits))
  | minusZero : Exact (.number (.float (.zero true)))
  | string (s : String) : Exact (.string s)
  | array {items : List Json} (items_exact : ∀ v ∈ items, Exact v) : Exact (.array items)
  | object {fields : Fields} (fields_exact : ∀ f ∈ fields, Exact f.2) : Exact (.object fields)

/-- What stands for such a value has such numbers, too. -/
theorem Exact.resolved (h : v.Exact) : v.resolved.Exact := by
  induction h with
  | null => exact .null
  | bool b => exact .bool b
  | whole i fits => exact .whole i fits
  | minusZero => exact .minusZero
  | string s => exact .string s
  | array _ ih =>
    refine .array fun w hw => ?_
    rw [resolvedItems_eq_map] at hw
    obtain ⟨v, hv, rfl⟩ := List.mem_map.1 hw
    exact ih v hv
  | object _ ih =>
    refine .object fun g hg => ?_
    have hlisted := mem_of_mem_ofList hg
    rw [resolvedFields_eq_map] at hlisted
    obtain ⟨f, hf, rfl⟩ := List.mem_map.1 hlisted
    exact ih f hf

/-! ## Documents with blanks -/

/-- **Where there are blanks in a document:** in front of every part of an array or object and of
what closes it, by how deep these stand, and behind the colons. -/
structure Spacing where
  line : Nat → List Char
  colon : List Char
  line_blank : ∀ depth, AllBlank (line depth)
  colon_blank : AllBlank colon

mutual

/-- The form of a value that stands at the given depth, with such blanks. -/
def write (sp : Spacing) (depth : Nat) : Json → List Char
  | .null => render .null
  | .bool b => render (.bool b)
  | .number n => render (.number n)
  | .string s => render (.string s)
  | .array [] => ['[', ']']
  | .array (v :: rest) =>
    '[' :: (sp.line (depth + 1) ++ write sp (depth + 1) v ++ writeItems sp (depth + 1) rest
      ++ sp.line depth ++ [']'])
  | .object [] => ['{', '}']
  | .object ((n, v) :: rest) =>
    '{' :: (sp.line (depth + 1) ++ quote n ++ ':' :: (sp.colon ++ write sp (depth + 1) v)
      ++ writeFields sp (depth + 1) rest ++ sp.line depth ++ ['}'])

/-- The items after the first one. -/
def writeItems (sp : Spacing) (depth : Nat) : List Json → List Char
  | [] => []
  | v :: rest => ',' :: (sp.line depth ++ write sp depth v ++ writeItems sp depth rest)

/-- The fields after the first one. -/
def writeFields (sp : Spacing) (depth : Nat) : List (String × Json) → List Char
  | [] => []
  | (n, v) :: rest =>
    ',' :: (sp.line depth ++ quote n ++ ':' :: (sp.colon ++ write sp depth v)
      ++ writeFields sp depth rest)

end

variable {sp : Spacing}

/-- The first character of what is written. -/
theorem exists_write (h : v.Exact) (sp : Spacing) (d : Nat) :
    ∃ c cs, write sp d v = c :: cs ∧ (c ∈ openers ∨ c.isDigit = true) := by
  cases h with
  | null => exact exists_render .null
  | bool b => exact exists_render (.bool b)
  | whole i fits => exact exists_render (.number i fits)
  | minusZero => exact ⟨_, _, render_minusZero, .inl (by decide)⟩
  | string s => exact exists_render (.string s)
  | @array items _ =>
    cases items with
    | nil => exact ⟨_, _, rfl, .inl (by decide)⟩
    | cons v items => exact ⟨_, _, rfl, .inl (by decide)⟩
  | @object fields _ =>
    cases fields with
    | nil => exact ⟨_, _, rfl, .inl (by decide)⟩
    | cons f fields => exact ⟨_, _, rfl, .inl (by decide)⟩

theorem startsValue_write (h : v.Exact) (sp : Spacing) (d : Nat) (rest : Source) :
    StartsValue (ofChars (write sp d v) ++ rest) := by
  obtain ⟨c, cs, hv, hc⟩ := exists_write h sp d
  rw [hv]
  exact startsValue_cons hc _

theorem length_write_pos (h : v.Exact) (sp : Spacing) (d : Nat) : 0 < (write sp d v).length := by
  obtain ⟨c, cs, hv, -⟩ := exists_write h sp d
  rw [hv]
  exact Nat.succ_pos _

/-! ## Reading them -/

/-- **However it is written on, what a value stands for is read** where there is fuel for it, if
the levels that are left are more than it nests. -/
def ReadsBack (sp : Spacing) (v : Json) : Prop := ∀ d fuel depth rest,
  2 * (write sp d v).length ≤ fuel → 0 < depth → EndsNumber rest → YieldsIf (v.nesting < depth)
    (readValue fuel depth (ofChars (write sp d v) ++ rest)) (v.resolved, rest)

/-! ### Scalars -/

/-- A scalar is read from its text, which takes up some fuel. -/
theorem readsBack_scalar (hexact : v.Exact) (hnesting : v.nesting = 0)
    (hwrite : ∀ d, write sp d v = render v) (hread : ∀ fuel depth rest, EndsNumber rest →
      readValue (fuel + 1) depth (ofChars (render v) ++ rest) = .ok (v.resolved, rest)) :
    ReadsBack sp v := by
  intro d fuel depth rest hfuel hdepth hrest
  have hpos := length_write_pos hexact sp d
  obtain _ | fuel := fuel
  · omega
  rw [hwrite, hread fuel depth rest hrest, hnesting]
  exact .ok hdepth _

/-! ### Items -/

theorem endsNumber_writeItems (items : List Json) (sp : Spacing) (d e : Nat) (rest : Source) :
    EndsNumber (ofChars (writeItems sp d items) ++ (ofChars (sp.line e) ++ some ']' :: rest)) := by
  cases items with
  | nil => exact (sp.line_blank e).endsNumber ⟨rfl, by decide, by decide, by decide⟩
  | cons v items => exact ⟨rfl, by decide, by decide, by decide⟩

theorem ofChars_writeItems_cons (v : Json) (items : List Json) (sp : Spacing) (d : Nat)
    (s : Source) :
    ofChars (writeItems sp d (v :: items)) ++ s =
      some ',' :: (ofChars (sp.line d) ++ (ofChars (write sp d v) ++
        (ofChars (writeItems sp d items) ++ s))) := by
  simp only [writeItems, ofChars_cons, ofChars_append, List.cons_append, List.append_assoc]

theorem ofChars_write_array (v : Json) (items : List Json) (sp : Spacing) (d : Nat) (s : Source) :
    ofChars (write sp d (.array (v :: items))) ++ s =
      some '[' :: (ofChars (sp.line (d + 1)) ++ (ofChars (write sp (d + 1) v) ++
        (ofChars (writeItems sp (d + 1) items) ++ (ofChars (sp.line d) ++ some ']' :: s)))) := by
  simp only [write, ofChars_cons, ofChars_append, ofChars_nil, List.cons_append, List.nil_append,
    List.append_assoc]

theorem readItems_writeItems (hitems : ∀ v ∈ items, v.Exact ∧ ReadsBack sp v) (hdepth : 0 < depth)
    (d e : Nat) (hfuel : 2 * (writeItems sp d items).length + 1 ≤ fuel) (rest : Source) :
    YieldsIf (nestingOfItems items < depth)
      (readItems fuel depth false
        (ofChars (writeItems sp d items) ++ (ofChars (sp.line e) ++ some ']' :: rest)))
      (resolvedItems items, rest) := by
  induction items generalizing fuel with
  | nil =>
    obtain _ | fuel := fuel
    · omega
    rw [writeItems, ofChars_nil, List.nil_append,
      (sp.line_blank e).readItems (Nat.succ_pos fuel), readItems_close]
    exact .ok hdepth _
  | cons v items ih =>
    obtain _ | fuel := fuel
    · omega
    obtain ⟨hexact, hreads⟩ := hitems v List.mem_cons_self
    rw [writeItems, List.length_cons, List.length_append, List.length_append] at hfuel
    rw [ofChars_writeItems_cons]
    have hnext := (sp.line_blank d).nextItem (startsValue_write hexact sp d
      (ofChars (writeItems sp d items) ++ (ofChars (sp.line e) ++ some ']' :: rest)))
    have hvalue := hreads d fuel depth _ (by omega) hdepth
      (endsNumber_writeItems items sp d e rest)
    have hmore : YieldsIf _ (readItems fuel depth false _) _ :=
      ih (fun v hv => hitems v (List.mem_cons_of_mem _ hv)) (by omega)
    refine (readItems_step hnext hvalue hmore).congr ?_
    rw [nestingOfItems, Nat.max_lt]

theorem readsBack_array (hitems : ∀ v ∈ items, v.Exact ∧ ReadsBack sp v) :
    ReadsBack sp (.array items) := by
  intro d fuel depth rest hfuel hdepth hrest
  cases items with
  | nil =>
    obtain ⟨fuel, rfl⟩ : ∃ k, fuel = k + 1 + 1 := by
      simp only [write, List.length_cons] at hfuel
      exact ⟨fuel - 2, by omega⟩
    have hclose := readItems_close fuel (depth - 1) true rest
    exact readValue_array fun hlevels => hclose ▸ .ok (Nat.sub_pos_of_lt hlevels) _
  | cons v items =>
    obtain ⟨hexact, hreads⟩ := hitems v List.mem_cons_self
    have hpos := length_write_pos hexact sp (d + 1)
    simp only [write, List.length_cons, List.length_append] at hfuel
    obtain ⟨fuel, rfl⟩ : ∃ k, fuel = k + 1 + 1 := ⟨fuel - 2, by omega⟩
    rw [ofChars_write_array, nesting]
    refine readValue_array fun hlevels => ?_
    have hfirst := nextItem_first (startsValue_write hexact sp (d + 1)
      (ofChars (writeItems sp (d + 1) items) ++ (ofChars (sp.line d) ++ some ']' :: rest)))
    have hvalue := hreads (d + 1) fuel (depth - 1) _ (by omega) (by omega)
      (endsNumber_writeItems items sp (d + 1) d rest)
    have hmore : YieldsIf _ (readItems fuel (depth - 1) false _) _ :=
      readItems_writeItems (fun v hv => hitems v (List.mem_cons_of_mem _ hv)) (by omega)
        (d + 1) d (by omega) rest
    rw [(sp.line_blank (d + 1)).readItems (Nat.succ_pos fuel), nestingOfItems]
    exact (readItems_step hfirst hvalue hmore).congr Nat.max_lt.symm

/-! ### Fields -/

theorem endsNumber_writeFields (fields : Fields) (sp : Spacing) (d e : Nat) (rest : Source) :
    EndsNumber (ofChars (writeFields sp d fields) ++ (ofChars (sp.line e) ++ some '}' :: rest)) := by
  cases fields with
  | nil => exact (sp.line_blank e).endsNumber ⟨rfl, by decide, by decide, by decide⟩
  | cons f fields =>
    obtain ⟨n, v⟩ := f
    exact ⟨rfl, by decide, by decide, by decide⟩

theorem ofChars_writeFields_cons (n : String) (v : Json) (fields : Fields) (sp : Spacing) (d : Nat)
    (s : Source) :
    ofChars (writeFields sp d ((n, v) :: fields)) ++ s =
      some ',' :: (ofChars (sp.line d) ++ some '"' :: (ofChars (escape n ++ ['"']) ++
        some ':' :: (ofChars sp.colon ++ (ofChars (write sp d v) ++
          (ofChars (writeFields sp d fields) ++ s))))) := by
  simp only [writeFields, quote, ofChars_cons, ofChars_append, List.cons_append,
    List.append_assoc]

theorem ofChars_write_object (n : String) (v : Json) (fields : Fields) (sp : Spacing) (d : Nat)
    (s : Source) :
    ofChars (write sp d (.object ((n, v) :: fields))) ++ s =
      some '{' :: (ofChars (sp.line (d + 1)) ++ some '"' :: (ofChars (escape n ++ ['"']) ++
        some ':' :: (ofChars sp.colon ++ (ofChars (write sp (d + 1) v) ++
          (ofChars (writeFields sp (d + 1) fields) ++
            (ofChars (sp.line d) ++ some '}' :: s)))))) := by
  simp only [write, quote, ofChars_cons, ofChars_append, ofChars_nil, List.cons_append,
    List.nil_append, List.append_assoc]

theorem readFields_writeFields (hfields : ∀ f ∈ fields, f.2.Exact ∧ ReadsBack sp f.2)
    (hdepth : 0 < depth) (d e : Nat) (hfuel : 2 * (writeFields sp d fields).length + 1 ≤ fuel)
    (acc : Fields) (rest : Source) :
    YieldsIf (nestingOfFields fields < depth)
      (readFields fuel depth false acc
        (ofChars (writeFields sp d fields) ++ (ofChars (sp.line e) ++ some '}' :: rest)))
      ((resolvedFields fields).foldl (fun fields f => insertField f.1 f.2 fields) acc, rest) := by
  induction fields generalizing fuel acc with
  | nil =>
    obtain _ | fuel := fuel
    · omega
    rw [writeFields, ofChars_nil, List.nil_append,
      (sp.line_blank e).readFields (Nat.succ_pos fuel), readFields_close]
    exact .ok hdepth _
  | cons f fields ih =>
    obtain ⟨n, v⟩ := f
    obtain _ | fuel := fuel
    · omega
    obtain ⟨hexact, hreads⟩ : v.Exact ∧ ReadsBack sp v := hfields (n, v) List.mem_cons_self
    have hpos := length_write_pos hexact sp d
    simp only [writeFields, List.length_cons, List.length_append] at hfuel
    rw [ofChars_writeFields_cons]
    have hnext := (sp.line_blank d).nextField (ofChars (escape n ++ ['"']) ++ some ':' ::
      (ofChars sp.colon ++ (ofChars (write sp d v) ++ (ofChars (writeFields sp d fields) ++
        (ofChars (sp.line e) ++ some '}' :: rest)))))
    have hvalue := hreads d fuel depth _ (by omega) hdepth
      (endsNumber_writeFields fields sp d e rest)
    have hmore : YieldsIf _ (readFields fuel depth false (insertField n v.resolved acc) _) _ :=
      ih (fun f hf => hfields f (List.mem_cons_of_mem _ hf)) (by omega) _
    refine (readFields_step sp.colon_blank hnext (by omega) hvalue hmore).congr ?_
    rw [nestingOfFields, Nat.max_lt]

theorem readsBack_object (hfields : ∀ f ∈ fields, f.2.Exact ∧ ReadsBack sp f.2) :
    ReadsBack sp (.object fields) := by
  intro d fuel depth rest hfuel hdepth hrest
  cases fields with
  | nil =>
    obtain ⟨fuel, rfl⟩ : ∃ k, fuel = k + 1 + 1 := by
      simp only [write, List.length_cons] at hfuel
      exact ⟨fuel - 2, by omega⟩
    have hclose := readFields_close fuel (depth - 1) true [] rest
    exact readValue_object fun hlevels => hclose ▸ .ok (Nat.sub_pos_of_lt hlevels) _
  | cons f fields =>
    obtain ⟨n, v⟩ := f
    obtain ⟨hexact, hreads⟩ : v.Exact ∧ ReadsBack sp v := hfields (n, v) List.mem_cons_self
    have hpos := length_write_pos hexact sp (d + 1)
    simp only [write, List.length_cons, List.length_append] at hfuel
    obtain ⟨fuel, rfl⟩ : ∃ k, fuel = k + 1 + 1 := ⟨fuel - 2, by omega⟩
    rw [ofChars_write_object, nesting]
    refine readValue_object fun hlevels => ?_
    have hvalue := hreads (d + 1) fuel (depth - 1) _ (by omega) (by omega)
      (endsNumber_writeFields fields sp (d + 1) d rest)
    have hmore : YieldsIf _
        (readFields fuel (depth - 1) false (insertField n v.resolved []) _) _ :=
      readFields_writeFields (fun f hf => hfields f (List.mem_cons_of_mem _ hf)) (by omega)
        (d + 1) d (by omega) _ rest
    rw [(sp.line_blank (d + 1)).readFields (Nat.succ_pos fuel), nestingOfFields]
    exact (readFields_step sp.colon_blank (nextField_first _) (by omega) hvalue hmore).congr
      Nat.max_lt.symm

/-! ### Whole values -/

/-- **A document is read as what it stands for,** whatever blanks there are. -/
theorem readValue_write (h : v.Exact) (sp : Spacing) : ReadsBack sp v := by
  induction h with
  | null => exact readsBack_scalar .null rfl (fun _ => rfl) fun _ _ _ _ => rfl
  | bool b =>
    refine readsBack_scalar (.bool b) rfl (fun _ => rfl) fun _ _ _ _ => ?_
    cases b with
    | true => rfl
    | false => rfl
  | whole i fits =>
    exact readsBack_scalar (.whole i fits) rfl (fun _ => rfl) fun fuel depth _ hrest =>
      readValue_number fits fuel depth hrest
  | minusZero =>
    exact readsBack_scalar .minusZero rfl (fun _ => rfl) fun fuel depth _ hrest =>
      readValue_minusZero fuel depth hrest
  | string s =>
    exact readsBack_scalar (.string s) rfl (fun _ => rfl) fun fuel depth rest _ =>
      readValue_string s fuel depth rest
  | array items_exact ih => exact readsBack_array fun v hv => ⟨items_exact v hv, ih v hv⟩
  | object fields_exact ih => exact readsBack_object fun f hf => ⟨fields_exact f hf, ih f hf⟩

/-- The text of a document with such blanks. -/
def spacedText (sp : Spacing) (v : Json) : String := String.ofList (write sp 0 v)

/-- **The text of a document is read as the value that it stands for,** if it does not nest too
deep. -/
theorem parse_spacedText (h : v.Exact) (sp : Spacing) :
    YieldsIf (v.nesting < nestingLimit) (parse (spacedText sp v)) v.resolved := by
  have hsource : Source.ofString (spacedText sp v) = ofChars (write sp 0 v) ++ [] := by
    rw [Source.ofString, spacedText, String.toList_ofList, List.append_nil]
    rfl
  rw [parse, parseSource, hsource]
  refine YieldsIf.mapError _ ?_
  rw [parseWith]
  refine (readValue_write h sp 0 _ nestingLimit [] ?_ (by decide) trivial).bind_ok rfl
  rw [enoughFuel, List.append_nil, length_ofChars]
  omega

/-! ## Compact documents -/

/-- No blanks at all. -/
def Spacing.compact : Spacing where
  line _ := []
  colon := []
  line_blank _ := allBlank_nil
  colon_blank := allBlank_nil

mutual

theorem write_compact (d : Nat) : ∀ v, write .compact d v = render v
  | .null => rfl
  | .bool _ => rfl
  | .number _ => rfl
  | .string _ => rfl
  | .array [] => rfl
  | .array (v :: rest) => by
    rw [write, render, renderItems_cons, write_compact (d + 1) v, writeItems_compact (d + 1) rest]
    simp [Spacing.compact]
  | .object [] => rfl
  | .object ((n, v) :: rest) => by
    rw [write, render, renderFields_cons, write_compact (d + 1) v,
      writeFields_compact (d + 1) rest]
    simp [Spacing.compact]

theorem writeItems_compact (d : Nat) : ∀ items, writeItems .compact d items = renderMoreItems items
  | [] => rfl
  | v :: rest => by
    rw [writeItems, renderMoreItems, write_compact d v, writeItems_compact d rest]
    rfl

theorem writeFields_compact (d : Nat) :
    ∀ fields, writeFields .compact d fields = renderMoreFields fields
  | [] => rfl
  | (n, v) :: rest => by
    rw [writeFields, renderMoreFields, write_compact d v, writeFields_compact d rest]
    simp [Spacing.compact]

end

theorem Whole.exact (h : v.Whole) : v.Exact := by
  induction h with
  | null => exact .null
  | bool b => exact .bool b
  | number i fits => exact .whole i fits
  | string s => exact .string s
  | array _ ih => exact .array ih
  | object _ ih => exact .object ih

/-- **A value that is in order, with whole numbers only, is read back** as itself from its compact
form. -/
theorem readValue_render (hordered : v.Ordered) (hwhole : v.Whole)
    (hfuel : 2 * (render v).length ≤ fuel) (hdepth : 0 < depth) (hrest : EndsNumber rest) :
    YieldsIf (v.nesting < depth) (readValue fuel depth (ofChars (render v) ++ rest)) (v, rest) := by
  have hread := readValue_write hwhole.exact .compact 0 fuel depth rest
  rw [write_compact, resolved_of_ordered hordered] at hread
  exact hread hfuel hdepth hrest

theorem spacedText_compact (v : Json) : spacedText .compact v = v.text :=
  congrArg String.ofList (write_compact 0 v)

/-- The same of a whole text: it is read as the value if that nests less deep than readers go, and
refused if it nests deeper. -/
theorem parse_text (hordered : v.Ordered) (hwhole : v.Whole) :
    YieldsIf (v.nesting < nestingLimit) (parse v.text) v := by
  have hread := parse_spacedText hwhole.exact .compact
  rwa [spacedText_compact, resolved_of_ordered hordered] at hread

/-! ## Documents over lines -/

theorem allBlank_newLine (depth : Nat) : AllBlank (newLine depth) := by
  intro c hc
  rcases List.mem_cons.1 hc with rfl | hc
  · rfl
  · rw [List.eq_of_mem_replicate hc]
    rfl

theorem allBlank_space : AllBlank [' '] := by
  intro c hc
  rw [List.mem_singleton.1 hc]
  rfl

/-- A line for each part, two blanks in front for each level, and a blank behind each colon. -/
def Spacing.lines : Spacing where
  line := newLine
  colon := [' ']
  line_blank := allBlank_newLine
  colon_blank := allBlank_space

mutual

theorem write_lines (d : Nat) : ∀ v, write .lines d v = layOut d v
  | .null => rfl
  | .bool _ => rfl
  | .number _ => rfl
  | .string _ => rfl
  | .array [] => rfl
  | .array (v :: rest) => by
    rw [write, layOut, write_lines (d + 1) v, writeItems_lines (d + 1) rest]
    rfl
  | .object [] => rfl
  | .object ((n, v) :: rest) => by
    rw [write, layOut, write_lines (d + 1) v, writeFields_lines (d + 1) rest]
    rfl

theorem writeItems_lines (d : Nat) : ∀ items, writeItems .lines d items = layOutItems d items
  | [] => rfl
  | v :: rest => by
    rw [writeItems, layOutItems, write_lines d v, writeItems_lines d rest]
    rfl

theorem writeFields_lines (d : Nat) : ∀ fields, writeFields .lines d fields = layOutFields d fields
  | [] => rfl
  | (n, v) :: rest => by
    rw [writeFields, layOutFields, write_lines d v, writeFields_lines d rest]
    rfl

end

theorem spacedText_lines (v : Json) : spacedText .lines v = v.prettyText :=
  congrArg String.ofList (write_lines 0 v)

/-- **What was read and is laid out is read as the same again,** whatever the text was. -/
theorem parse_prettyText_of_parse {text : String} (h : parse text = .ok v) (hexact : v.Exact) :
    parse v.prettyText = .ok v := by
  have hsound := sound_of_parse h
  have hread := (parse_spacedText hexact .lines).eq_ok hsound.nesting
  rwa [resolved_of_ordered hsound.ordered, spacedText_lines] at hread

end Json

end Switchboard
