import Switchboard.Json.Path
/-!
# Paths into contexts that grow

The segments of a path are the only list of texts without points that gives the path when it is
joined by points (`Json.segments_eq_iff`). So two paths joined by a point lead where the second
leads from where the first does (`Json.lookup?_append`). A step along a segment goes to a field or
to an item (`Json.Leads`).

In a context that has grown by a result, only the first segment of a path matters for which of the
two is looked into: the result stands under its name, and all else is as it was before
(`Json.named?_withResult`). Points in the name itself make it one that no path starts with.
`Json.pathLaws` says all of this of every context and every path.
-/

namespace Switchboard

namespace Json

variable {v w context result : Json} {path p q name head : String} {segs rest : List String}
variable {cs : List Char}

/-! ## Segments -/

theorem splitPoints_ne_nil (cs : List Char) : splitPoints cs ≠ [] := by
  cases cs with
  | nil => exact List.cons_ne_nil _ _
  | cons c rest =>
    rw [splitPoints]
    split
    · exact List.cons_ne_nil _ _
    · split <;> exact List.cons_ne_nil _ _

theorem splitPoints_of_not_mem (h : '.' ∉ cs) : splitPoints cs = [cs] := by
  induction cs with
  | nil => rfl
  | cons c rest ih =>
    rw [List.mem_cons, not_or] at h
    obtain ⟨hc, hrest⟩ := h
    rw [splitPoints, if_neg (Ne.symm hc), ih hrest]

/-- A text of one segment is that segment. -/
theorem eq_of_splitPoints_eq {s : List Char} (h : splitPoints cs = [s]) : cs = s := by
  induction cs generalizing s with
  | nil => exact List.singleton_inj.1 h
  | cons c rest ih =>
    rw [splitPoints] at h
    split at h
    · exact absurd (List.cons.inj h).2 (splitPoints_ne_nil rest)
    · split at h
      · next hrest => exact absurd hrest (splitPoints_ne_nil rest)
      · next s' more hrest =>
        obtain ⟨rfl, rfl⟩ := List.cons.inj h
        rw [ih hrest]

/-- A point ends a segment, wherever it stands. -/
theorem splitPoints_append (cs ds : List Char) :
    splitPoints (cs ++ '.' :: ds) = splitPoints cs ++ splitPoints ds := by
  induction cs with
  | nil => rfl
  | cons c rest ih =>
    obtain ⟨s, more, hrest⟩ := List.exists_cons_of_ne_nil (splitPoints_ne_nil rest)
    rw [List.cons_append, splitPoints, splitPoints, ih, hrest]
    by_cases hc : c = '.'
    · rw [if_pos hc, if_pos hc]
      rfl
    · rw [if_neg hc, if_neg hc]
      rfl

theorem segments_ne_nil (path : String) : segments path ≠ [] := by
  intro h
  exact splitPoints_ne_nil _ (List.map_eq_nil_iff.1 h)

theorem segments_of_not_mem (h : '.' ∉ path.toList) : segments path = [path] := by
  rw [segments, splitPoints_of_not_mem h, List.map_singleton, String.ofList_toList]

/-- **The segments of two paths** joined by a point are those of both. -/
theorem segments_append (p q : String) : segments (p ++ "." ++ q) = segments p ++ segments q := by
  have hchars : (p ++ "." ++ q).toList = p.toList ++ '.' :: q.toList := by simp
  rw [segments, hchars, splitPoints_append, List.map_append, segments, segments]

/-- A segment has no points. -/
theorem not_mem_of_mem_splitPoints {s : List Char} (h : s ∈ splitPoints cs) : '.' ∉ s := by
  induction cs generalizing s with
  | nil =>
    obtain rfl := List.mem_singleton.1 h
    exact List.not_mem_nil
  | cons c rest ih =>
    obtain ⟨t, more, hrest⟩ := List.exists_cons_of_ne_nil (splitPoints_ne_nil rest)
    rw [hrest] at ih
    rw [splitPoints, hrest] at h
    by_cases hc : c = '.'
    · rw [if_pos hc] at h
      rcases List.mem_cons.1 h with rfl | h
      · exact List.not_mem_nil
      · exact ih h
    · rw [if_neg hc] at h
      rcases List.mem_cons.1 h with rfl | h
      · have hfirst : '.' ∉ t := ih List.mem_cons_self
        rw [List.mem_cons, not_or]
        exact ⟨Ne.symm hc, hfirst⟩
      · exact ih (List.mem_cons_of_mem _ h)

/-- Joined by points, the segments are the text again. -/
theorem intercalate_splitPoints (cs : List Char) : ['.'].intercalate (splitPoints cs) = cs := by
  induction cs with
  | nil => rfl
  | cons c rest ih =>
    obtain ⟨s, more, hrest⟩ := List.exists_cons_of_ne_nil (splitPoints_ne_nil rest)
    rw [hrest] at ih
    rw [splitPoints, hrest]
    by_cases hc : c = '.'
    · rw [if_pos hc, List.intercalate_cons_cons, ih, hc]
      rfl
    · rw [if_neg hc, ← ih]
      cases more with
      | nil => rfl
      | cons t more => rfl

/-- **What the segments of a path are:** texts without points that give the path when they are
joined by points. There is no other list of such texts. -/
theorem segments_eq_iff : segments path = segs ↔
    segs ≠ [] ∧ (∀ s ∈ segs, '.' ∉ s.toList) ∧ ".".intercalate segs = path := by
  constructor
  · rintro rfl
    refine ⟨segments_ne_nil path, ?_, ?_⟩
    · intro s hs
      obtain ⟨t, ht, rfl⟩ := List.mem_map.1 hs
      rw [String.toList_ofList]
      exact not_mem_of_mem_splitPoints ht
    · refine String.toList_injective ?_
      have htexts : (segments path).map String.toList = splitPoints path.toList := by
        simp [segments, Function.comp_def]
      rw [String.toList_intercalate, htexts]
      exact intercalate_splitPoints path.toList
  · rintro ⟨hne, hpoints, rfl⟩
    induction segs with
    | nil => exact absurd rfl hne
    | cons s more ih =>
      rw [List.forall_mem_cons] at hpoints
      cases more with
      | nil => rw [String.intercalate_singleton, segments_of_not_mem hpoints.1]
      | cons t more =>
        have hmore := ih (List.cons_ne_nil _ _) hpoints.2
        rw [String.intercalate_cons_cons, segments_append, segments_of_not_mem hpoints.1, hmore]
        rfl

/-! ## Following segments -/

/-- **Where segments lead:** each names a field of an object or counts an item of an array, and
leads on from there. -/
inductive Leads : Json → List String → Json → Prop
  /-- Without segments one stays. -/
  | here (v : Json) : Leads v [] v
  /-- A name leads to the field of an object. -/
  | field {fields : Fields} {name : String} {part w : Json} {rest : List String}
      (found : fields.lookup name = some part) (below : Leads part rest w) :
      Leads (.object fields) (name :: rest) w
  /-- A count leads to the item of an array. -/
  | item {items : List Json} {segment : String} {i : Nat} {part w : Json} {rest : List String}
      (counts : index? segment = some i) (found : items[i]? = some part)
      (below : Leads part rest w) : Leads (.array items) (segment :: rest) w

theorem at?_eq_some_iff : v.at? head = some w ↔
    (∃ fields, v = .object fields ∧ fields.lookup head = some w) ∨
    ∃ items i, v = .array items ∧ index? head = some i ∧ items[i]? = some w := by
  cases v with
  | object fields => simp [at?]
  | array items => simp [at?, Option.bind_eq_some_iff]
  | null => simp [at?]
  | bool b => simp [at?]
  | number n => simp [at?]
  | string s => simp [at?]

/-- **Following segments ends where they lead,** and nowhere if they lead nowhere. -/
theorem follow?_eq_some_iff : v.follow? segs = some w ↔ Leads v segs w := by
  induction segs generalizing v with
  | nil =>
    constructor
    · intro h
      obtain rfl := Option.some.inj h
      exact .here v
    · intro h
      cases h with
      | here => rfl
  | cons segment rest ih =>
    rw [follow?, Option.bind_eq_some_iff]
    constructor
    · rintro ⟨part, hpart, hrest⟩
      rcases at?_eq_some_iff.1 hpart with ⟨fields, rfl, hfound⟩ | ⟨items, i, rfl, hcounts, hfound⟩
      · exact .field hfound (ih.1 hrest)
      · exact .item hcounts hfound (ih.1 hrest)
    · intro h
      cases h with
      | field found below => exact ⟨_, found, ih.2 below⟩
      | item counts found below =>
        exact ⟨_, at?_eq_some_iff.2 (.inr ⟨_, _, rfl, counts, found⟩), ih.2 below⟩

theorem follow?_append (v : Json) (segs more : List String) :
    v.follow? (segs ++ more) = (v.follow? segs).bind fun w => w.follow? more := by
  induction segs generalizing v with
  | nil => rfl
  | cons segment rest ih =>
    rw [List.cons_append, follow?, follow?, Option.bind_assoc]
    exact congrArg _ (funext fun part => ih part)

/-! ## Following paths -/

theorem lookup?_of_ne (v : Json) (hpath : path ≠ "") : v.lookup? path = v.follow? (segments path) :=
  if_neg hpath

theorem lookup?_of_segments (v : Json) (hpath : path ≠ "") (hsegs : segments path = head :: rest) :
    v.lookup? path = (v.at? head).bind fun part => part.follow? rest := by
  rw [lookup?_of_ne v hpath, hsegs, follow?]

/-- **A path that goes on leads on** from where its first part leads. -/
theorem lookup?_append (v : Json) (hp : p ≠ "") (hq : q ≠ "") :
    v.lookup? (p ++ "." ++ q) = (v.lookup? p).bind fun w => w.lookup? q := by
  have hjoined : p ++ "." ++ q ≠ "" := by simp
  have hsecond : (fun w : Json => w.lookup? q) = fun w => w.follow? (segments q) :=
    funext fun w => lookup?_of_ne w hq
  rw [lookup?_of_ne v hjoined, segments_append, follow?_append, lookup?_of_ne v hp, hsecond]

/-! ## What a context holds -/

/-- What a context holds under a name. One that is no object holds itself, under `source`. -/
def named? (context : Json) (name : String) : Option Json :=
  match context with
  | .object fields => fields.lookup name
  | other => if name = sourceName then some other else none

/-- **Growth by a result** replaces what there was under its name, and leaves the rest. -/
theorem named?_withResult (context : Json) (name : String) (result : Json) (other : String) :
    (context.withResult name result).named? other =
      if other = name then some result else context.named? other := by
  have hwrapped : ∀ v : Json, (insertField name result [(sourceName, v)]).lookup other =
      if other = name then some result else if other = sourceName then some v else none := by
    intro v
    rw [lookup_insertField]
    exact congrArg _ (lookup_insertField sourceName other v [])
  cases context with
  | object fields => exact lookup_insertField name other result fields
  | null => exact hwrapped _
  | bool b => exact hwrapped _
  | number n => exact hwrapped _
  | string s => exact hwrapped _
  | array items => exact hwrapped _

theorem isObject_withResult (context : Json) (name : String) (result : Json) :
    (context.withResult name result).isObject = true := rfl

theorem at?_of_isObject (h : v.isObject = true) (name : String) : v.at? name = v.named? name := by
  cases v with
  | object fields => rfl
  | null => cases h
  | bool b => cases h
  | number n => cases h
  | string s => cases h
  | array items => cases h

theorem named?_of_not_isObject (h : v.isObject = false) (name : String) :
    v.named? name = if name = sourceName then some v else none := by
  cases v with
  | object fields => cases h
  | null => rfl
  | bool b => rfl
  | number n => rfl
  | string s => rfl
  | array items => rfl

/-- A path without points leads to the field that it names. -/
theorem lookup?_of_segment (hobject : v.isObject = true) (hne : path ≠ "")
    (hpoint : '.' ∉ path.toList) : v.lookup? path = v.named? path := by
  rw [lookup?_of_segments v hne (segments_of_not_mem hpoint), at?_of_isObject hobject]
  exact Option.bind_fun_some _

/-- **Looking into a grown context:** at the result under its name, and at what the context held
otherwise. -/
theorem lookup?_withResult (context : Json) (name : String) (result : Json) (hpath : path ≠ "")
    (hsegs : segments path = head :: rest) : (context.withResult name result).lookup? path =
      (if head = name then some result else context.named? head).bind
        fun part => part.follow? rest := by
  rw [lookup?_of_segments _ hpath hsegs, at?_of_isObject (isObject_withResult context name result),
    named?_withResult]

/-! ## The laws -/

/-- **What paths lead to.** -/
structure PathLaws : Prop where
  /-- The segments of a path are what stands between its points. -/
  segments_iff : ∀ path segs, segments path = segs ↔
    segs ≠ [] ∧ (∀ s ∈ segs, '.' ∉ s.toList) ∧ ".".intercalate segs = path
  /-- Following them is going from part to part. -/
  follow_iff : ∀ (v : Json) segs w, v.follow? segs = some w ↔ Leads v segs w
  /-- In a context that has grown, a path that starts with the name leads into the result. -/
  result : ∀ (context result : Json) name path head rest, path ≠ "" →
    segments path = head :: rest → head = name →
      (context.withResult name result).lookup? path = result.follow? rest
  /-- Any other path leads where it did, if the context is an object, -/
  object : ∀ (context result : Json) name path head rest, path ≠ "" →
    segments path = head :: rest → head ≠ name → context.isObject = true →
      (context.withResult name result).lookup? path = context.lookup? path
  /-- and if it is none, into it from the name that it is kept under -/
  source : ∀ (context result : Json) name path head rest, path ≠ "" →
    segments path = head :: rest → head ≠ name → context.isObject = false → head = sourceName →
      (context.withResult name result).lookup? path = context.follow? rest
  /-- and from any other name nowhere. -/
  absent : ∀ (context result : Json) name path head rest, path ≠ "" →
    segments path = head :: rest → head ≠ name → context.isObject = false → head ≠ sourceName →
      (context.withResult name result).lookup? path = none
  /-- A path joined to another leads where that one leads to from there. -/
  joined : ∀ (v : Json) p q, p ≠ "" → q ≠ "" →
    v.lookup? (p ++ "." ++ q) = (v.lookup? p).bind fun w => w.lookup? q

/-- **Every path into every context** leads where it should. -/
theorem pathLaws : PathLaws where
  segments_iff path segs := segments_eq_iff
  follow_iff v segs w := follow?_eq_some_iff
  result context result name path head rest hpath hsegs hname := by
    rw [lookup?_withResult context name result hpath hsegs, if_pos hname, Option.bind_some]
  object context result name path head rest hpath hsegs hname hobject := by
    rw [lookup?_withResult context name result hpath hsegs, if_neg hname,
      lookup?_of_segments context hpath hsegs, at?_of_isObject hobject]
  source context result name path head rest hpath hsegs hname hobject hsource := by
    rw [lookup?_withResult context name result hpath hsegs, if_neg hname,
      named?_of_not_isObject hobject, if_pos hsource, Option.bind_some]
  absent context result name path head rest hpath hsegs hname hobject hsource := by
    rw [lookup?_withResult context name result hpath hsegs, if_neg hname,
      named?_of_not_isObject hobject, if_neg hsource, Option.bind_none]
  joined v p q hp hq := lookup?_append v hp hq

-- The reserved name gives way to a result of that name, and a name with a point is out of reach.
example : ((Json.bool true).withResult "source" .null).lookup? "source" = some .null ∧
    ((Json.bool true).withResult "a.b" .null).lookup? "a.b" = none := ⟨rfl, rfl⟩

end Json

end Switchboard
