import Switchboard.Proofs.Operation.Drafts
import Switchboard.Registry.Dispatch
/-!
# Payloads

What a payload gives to each parameter of an operation (`Arguments.gives`), and what binding comes
to: a payload that does not fit is refused before anything else, then the first required parameter
that is given nothing, and otherwise each parameter has what it is given. Where names are distinct,
an object can be written in other ways that give the same (`Arguments.Alike`), and then everything
about the call is the same (`Operation.bindingLaws`).
-/

namespace Switchboard

open Json (given)

namespace Arguments

variable {ps : List Parameter} {names : List String} {fields : Json.Fields} {payload : Json}
variable {operation : String} {g : Nat → Json} {p : Parameter} {args : Arguments}

/-! ## What is given -/

/-- A payload that can be distributed to so many parameters. -/
def Fits (n : Nat) : Json → Prop
  | .null => True
  | .object _ => True
  | .array items => items.length ≤ n
  | .bool _ => False
  | .number _ => False
  | .string _ => False

/-- What is said of one that cannot. -/
def complaint (n : Nat) (payload : Json) : String :=
  match payload.items? with
  | some items =>
    "expected at most " ++ toString n ++ " arguments, got " ++ toString items.length
  | none => "params must be an object or an array, got " ++ payload.text

theorem complaint_of_scalar {n : Nat} (h : payload.items? = none) :
    complaint n payload = "params must be an object or an array, got " ++ payload.text := by
  rw [complaint, h]

/-- **What a payload gives to the parameter at a position:** what an object has under its name,
unless a parameter before it took that; what an array has in its place; and otherwise null. -/
def gives (names : List String) (payload : Json) (i : Nat) : Json :=
  match payload with
  | .object fields =>
    (names[i]?.map fun name => if name ∈ names.take i then .null else given fields name).getD .null
  | .array items => items[i]?.getD .null
  | _ => .null

theorem gives_object (names : List String) (fields : Json.Fields) (i : Nat) :
    gives names (.object fields) i =
      (names[i]?.map fun name => if name ∈ names.take i then .null else given fields name).getD
        .null := rfl

theorem gives_array (names : List String) (items : List Json) (i : Nat) :
    gives names (.array items) i = items[i]?.getD .null := rfl

theorem given_filter_self (name : String) (fields : Json.Fields) :
    given (fields.filter (·.1 ≠ name)) name = .null := by
  have hnone : (fields.filter (·.1 ≠ name)).lookup name = none := by
    rw [List.lookup_eq_none_iff]
    intro f hf
    have hne := of_decide_eq_true (List.mem_filter.1 hf).2
    exact bne_iff_ne.2 hne.symm
  rw [given, hnone, Option.getD_none]

theorem given_filter_ne {name other : String} (h : name ≠ other) (fields : Json.Fields) :
    given (fields.filter (·.1 ≠ other)) name = given fields name := by
  rw [given, lookup_filter_ne h, given]

/-- A name that is declared again is given nothing: its value has been taken. -/
theorem getElem?_takeNamed (names : List String) (fields : Json.Fields) (i : Nat) :
    (takeNamed names fields)[i]? =
      names[i]?.map fun name => if name ∈ names.take i then .null else given fields name := by
  induction names generalizing fields i with
  | nil => rfl
  | cons first rest ih =>
    rw [takeNamed]
    cases i with
    | zero => rfl
    | succ i =>
      rw [List.getElem?_cons_succ, List.getElem?_cons_succ, ih, List.take_succ_cons]
      refine Option.map_congr fun name hname => ?_
      by_cases hfirst : name = first
      · rw [hfirst, given_filter_self, ite_self, if_pos List.mem_cons_self]
      · rw [given_filter_ne hfirst]
        simp only [List.mem_cons, hfirst, false_or]

/-- One value for each position. -/
theorem eq_map_range {values : List Json} {n : Nat} (hlength : values.length = n)
    (hvalues : ∀ i < n, values[i]? = some (g i)) : values = (List.range n).map g := by
  refine List.ext_getElem? fun i => ?_
  rw [List.getElem?_map]
  rcases Nat.lt_or_ge i n with hi | hi
  · rw [hvalues i hi, List.getElem?_range hi, Option.map_some]
  · rw [List.getElem?_eq_none (hlength ▸ hi), List.getElem?_eq_none (List.length_range ▸ hi),
      Option.map_none]

theorem takeNamed_eq (names : List String) (fields : Json.Fields) :
    takeNamed names fields = (List.range names.length).map (gives names (.object fields)) := by
  refine eq_map_range (length_takeNamed names fields) fun i hi => ?_
  rw [getElem?_takeNamed, gives_object, List.getElem?_eq_getElem hi]
  rfl

/-- **A payload that fits is distributed as it is given,** -/
theorem distribute_of_fits (operation : String) (h : Fits names.length payload) :
    distribute operation names payload =
      .ok ((List.range names.length).map (gives names payload)) := by
  cases payload with
  | null =>
    refine congrArg Except.ok (eq_map_range (List.length_map _) fun i hi => ?_)
    rw [List.getElem?_map, List.getElem?_eq_getElem hi]
    rfl
  | object fields => exact congrArg Except.ok (takeNamed_eq names fields)
  | array items =>
    have hfew : items.length ≤ names.length := h
    rw [distribute, if_neg (Nat.not_lt.2 hfew)]
    refine congrArg Except.ok (eq_map_range ?_ fun i hi => ?_)
    · rw [List.length_append, List.length_replicate]
      omega
    · rw [List.getElem?_append, List.getElem?_replicate, gives_array]
      split
      · next hitem => rw [List.getElem?_eq_getElem hitem, Option.getD_some]
      · next hitem =>
        rw [if_pos (by omega), List.getElem?_eq_none (by omega), Option.getD_none]
  | bool b => exact h.elim
  | number n => exact h.elim
  | string s => exact h.elim

/-- and one that does not is refused. -/
theorem distribute_of_not_fits (operation : String) (h : ¬ Fits names.length payload) :
    distribute operation names payload =
      .error (.invalidParams operation (complaint names.length payload)) := by
  cases payload with
  | null => exact absurd trivial h
  | object fields => exact absurd trivial h
  | array items =>
    have hmany : names.length < items.length := Nat.lt_of_not_le h
    rw [distribute, if_pos hmany, complaint]
    rfl
  | bool b => rw [distribute.eq_def, complaint_of_scalar rfl]
  | number n => rw [distribute.eq_def, complaint_of_scalar rfl]
  | string s => rw [distribute.eq_def, complaint_of_scalar rfl]

/-! ## What is missing -/

/-- A required parameter to which nothing is given. -/
def Unmet (ps : List Parameter) (g : Nat → Json) (i : Nat) (p : Parameter) : Prop :=
  ps[i]? = some p ∧ p.required = true ∧ (g i).isNull = true

theorem firstMissing?_map_range (ps : List Parameter) (g : Nat → Json) :
    firstMissing? ps ((List.range ps.length).map g) =
      (ps.zipIdx.find? fun x => x.1.required && (g x.2).isNull).map (·.1) := by
  rw [firstMissing?, List.zip_map_right, List.range_eq_range', ← List.zipIdx_eq_zip_range',
    List.find?_map, Option.map_map]
  rfl

/-- **None is missing** exactly if none is unmet, -/
theorem firstMissing?_eq_none_iff :
    firstMissing? ps ((List.range ps.length).map g) = none ↔ ∀ i p, ¬ Unmet ps g i p := by
  rw [firstMissing?_map_range, Option.map_eq_none_iff, List.find?_eq_none]
  simp only [Bool.and_eq_true]
  constructor
  · intro hall i p hunmet
    obtain ⟨hp, hrequired, hnull⟩ := hunmet
    have hmem : (p, i) ∈ ps.zipIdx := List.mk_mem_zipIdx_iff_getElem?.2 hp
    exact hall (p, i) hmem ⟨hrequired, hnull⟩
  · intro hnone x hmem hx
    exact hnone x.2 x.1 ⟨List.mem_zipIdx_iff_getElem?.1 hmem, hx.1, hx.2⟩

/-- and missing is the first that is unmet. -/
theorem firstMissing?_eq_some_iff :
    firstMissing? ps ((List.range ps.length).map g) = some p ↔
      ∃ i, Unmet ps g i p ∧ ∀ j < i, ∀ q, ¬ Unmet ps g j q := by
  rw [firstMissing?_map_range, Option.map_eq_some_iff]
  simp only [List.find?_eq_some_iff_getElem, Bool.and_eq_true, List.getElem_zipIdx, Nat.zero_add,
    List.length_zipIdx]
  constructor
  · rintro ⟨x, ⟨⟨hrequired, hnull⟩, i, hi, rfl, hbefore⟩, rfl⟩
    refine ⟨i, ⟨List.getElem?_eq_getElem hi, hrequired, hnull⟩, ?_⟩
    intro j hj q hunmet
    obtain ⟨hq, hrequired, hnull⟩ := hunmet
    obtain ⟨hlt, rfl⟩ := List.getElem?_eq_some_iff.1 hq
    have hmet := hbefore j hj
    rw [hrequired, hnull] at hmet
    cases hmet
  · rintro ⟨i, ⟨hp, hrequired, hnull⟩, hbefore⟩
    obtain ⟨hi, rfl⟩ := List.getElem?_eq_some_iff.1 hp
    refine ⟨(ps[i], i), ⟨⟨hrequired, hnull⟩, i, hi, rfl, ?_⟩, rfl⟩
    intro j hj
    have hlt : j < ps.length := Nat.lt_trans hj hi
    cases hmet : ps[j].required && (g j).isNull with
    | false => rfl
    | true =>
      have hunmet : Unmet ps g j ps[j] :=
        ⟨List.getElem?_eq_getElem hlt, Bool.and_eq_true_iff.1 hmet⟩
      exact absurd hunmet (hbefore j hj ps[j])

/-! ## What binding comes to -/

theorem bind_of_not_fits (operation : String) (h : ¬ Fits ps.length payload) :
    bind operation ps payload =
      .error (.invalidParams operation (complaint ps.length payload)) := by
  have hnames : (ps.map Parameter.name).length = ps.length := List.length_map _
  have hnot : ¬ Fits (ps.map Parameter.name).length payload := hnames ▸ h
  rw [bind, distribute_of_not_fits operation hnot, hnames]
  rfl

theorem bind_of_fits (operation : String) (h : Fits ps.length payload) :
    bind operation ps payload =
      (firstMissing? ps ((List.range ps.length).map (gives (ps.map Parameter.name) payload))).elim
        (.ok ⟨operation, ps.map Parameter.name,
          (List.range ps.length).map (gives (ps.map Parameter.name) payload)⟩)
        (fun p => .error (.missingParameter operation p.name)) := by
  have hnames : (ps.map Parameter.name).length = ps.length := List.length_map _
  have hfits : Fits (ps.map Parameter.name).length payload := hnames ▸ h
  rw [bind, distribute_of_fits operation hfits, hnames]
  dsimp only [Bind.bind, Except.bind]
  cases firstMissing? ps _ with
  | none => rfl
  | some p => rfl

/-- **A payload is bound** exactly if it fits and leaves nothing unmet, -/
theorem bind_eq_ok_iff : bind operation ps payload = .ok args ↔ Fits ps.length payload ∧
    (∀ i p, ¬ Unmet ps (gives (ps.map Parameter.name) payload) i p) ∧
    args = ⟨operation, ps.map Parameter.name,
      (List.range ps.length).map (gives (ps.map Parameter.name) payload)⟩ := by
  by_cases hfits : Fits ps.length payload
  · rw [bind_of_fits operation hfits, ← firstMissing?_eq_none_iff]
    cases firstMissing? ps _ with
    | some p => simp only [Option.elim_some, reduceCtorEq, false_and, and_false]
    | none => simp only [Option.elim_none, Except.ok.injEq, hfits, true_and, eq_comm]
  · rw [bind_of_not_fits operation hfits]
    simp only [reduceCtorEq, hfits, false_and]

/-- and what fits is refused exactly for the first that it leaves unmet. -/
theorem bind_eq_error_iff {e : CallError} (h : Fits ps.length payload) :
    bind operation ps payload = .error e ↔
      ∃ i p, Unmet ps (gives (ps.map Parameter.name) payload) i p ∧
        (∀ j < i, ∀ q, ¬ Unmet ps (gives (ps.map Parameter.name) payload) j q) ∧
        e = .missingParameter operation p.name := by
  rw [bind_of_fits operation h]
  constructor
  · intro he
    cases hmissing : firstMissing? ps _ with
    | none =>
      rw [hmissing] at he
      cases he
    | some p =>
      rw [hmissing] at he
      cases he
      obtain ⟨i, hunmet, hbefore⟩ := firstMissing?_eq_some_iff.1 hmissing
      exact ⟨i, p, hunmet, hbefore, rfl⟩
  · rintro ⟨i, p, hunmet, hbefore, rfl⟩
    rw [firstMissing?_eq_some_iff.2 ⟨i, hunmet, hbefore⟩, Option.elim_some]

/-! ## One payload for another -/

/-- **A payload that gives the names what an object gives them.** -/
inductive Alike (names : List String) (fields : Json.Fields) : Json → Prop
  /-- What the object has under each name, in order; nulls at the end may be left out. -/
  | inOrder {items : List Json} {nulls : Nat}
      (same : items ++ List.replicate nulls .null = names.map (given fields)) :
      Alike names fields (.array items)
  /-- The object with more fields, of other names. -/
  | withMore {more : Json.Fields} (others : ∀ f ∈ more, f.1 ∉ names) :
      Alike names fields
        (.object (more.foldl (fun fields f => Json.insertField f.1 f.2 fields) fields))

theorem given_insertField_ne {name other : String} (h : name ≠ other) (v : Json)
    (fields : Json.Fields) : given (Json.insertField other v fields) name = given fields name := by
  rw [given, Json.lookup_insertField, if_neg h, given]

theorem given_foldl_insertField {more : Json.Fields} {name : String} (h : ∀ f ∈ more, f.1 ≠ name)
    (fields : Json.Fields) :
    given (more.foldl (fun fields f => Json.insertField f.1 f.2 fields) fields) name =
      given fields name := by
  induction more generalizing fields with
  | nil => rfl
  | cons f rest ih =>
    rw [List.forall_mem_cons] at h
    rw [List.foldl_cons, ih h.2, given_insertField_ne h.1.symm]

/-- **Such a payload is distributed as the object is.** -/
theorem Alike.distribute_eq (h : Alike names fields payload) (hnames : names.Nodup)
    (operation : String) :
    distribute operation names payload = distribute operation names (.object fields) := by
  cases h with
  | @inOrder items nulls same =>
    have hlength := congrArg List.length same
    rw [List.length_append, List.length_replicate, List.length_map] at hlength
    have hfew : ¬ names.length < items.length := by omega
    have hnulls : names.length - items.length = nulls := by omega
    rw [distribute, distribute, takeNamed_of_nodup hnames, if_neg hfew, hnulls, same]
  | @withMore more others =>
    rw [distribute, distribute, takeNamed_of_nodup hnames, takeNamed_of_nodup hnames]
    refine congrArg Except.ok (List.map_congr_left fun name hname => ?_)
    exact given_foldl_insertField (fun f hf heq => others f hf (heq ▸ hname)) fields

theorem Alike.bind_eq (h : Alike (ps.map Parameter.name) fields payload)
    (hnames : (ps.map Parameter.name).Nodup) (operation : String) :
    bind operation ps payload = bind operation ps (.object fields) := by
  rw [bind, bind, h.distribute_eq hnames]

/-- With distinct names each is given what the object has under it. -/
theorem gives_object_of_nodup (hnames : names.Nodup) {i : Nat} {name : String}
    (hname : names[i]? = some name) : gives names (.object fields) i = given fields name := by
  obtain ⟨hi, rfl⟩ := List.getElem?_eq_some_iff.1 hname
  have htaken := (takeNamed_eq names fields).symm.trans (takeNamed_of_nodup hnames fields)
  have hall := congrArg (·[i]?) htaken
  simp only [List.getElem?_map, List.getElem?_range hi, List.getElem?_eq_getElem hi,
    Option.map_some] at hall
  exact Option.some.inj hall

end Arguments

namespace Operation

open Arguments (Fits Alike complaint)

/-- What the parameter at a position receives from a payload. -/
def receives (op : Operation) (payload : Json) : Nat → Json :=
  Arguments.gives (op.parameters.map Parameter.name) payload

/-- A required parameter that receives nothing. -/
def Lacks (op : Operation) (payload : Json) : Nat → Parameter → Prop :=
  Arguments.Unmet op.parameters (op.receives payload)

/-- An invocation sees of a payload what is bound, and nothing else. -/
theorem invoke_congr {op : Operation} {payload payload' : Json}
    (h : op.bind payload = op.bind payload') (live lost : Host Moment) :
    op.invoke live lost payload = op.invoke live lost payload' := by
  rw [invoke, invoke, h]

/-- **What binding does** for an operation that has been put together. -/
structure BindingLaws (d : Draft) (op : Operation) : Prop where
  /-- A parameter's argument is looked for at the parameter's place in the order of declaration. -/
  positions : d.Ordered
  /-- **There always is one:** binding by positions is never a fault, and is binding in order. -/
  safe : ∀ payload, d.bind payload = some (op.bind payload)
  /-- **A payload is bound exactly if** it fits and every required parameter receives something.
  Each parameter then has what it receives, -/
  bound : ∀ payload args, op.bind payload = .ok args ↔
    Fits op.parameters.length payload ∧ (∀ i p, ¬ op.Lacks payload i p) ∧
      args = ⟨op.name, op.parameters.map Parameter.name,
        (List.range op.parameters.length).map (op.receives payload)⟩
  /-- so that there are as many values as parameters. -/
  length : ∀ payload args, op.bind payload = .ok args →
    args.values.length = op.parameters.length
  /-- A payload that does not fit is refused, whatever it lacks. -/
  unfit : ∀ payload, ¬ Fits op.parameters.length payload →
    op.bind payload = .error (.invalidParams op.name (complaint op.parameters.length payload))
  /-- One that fits is refused for the first required parameter that receives nothing. -/
  missing : ∀ payload e, Fits op.parameters.length payload →
    (op.bind payload = .error e ↔ ∃ i p, op.Lacks payload i p ∧
      (∀ j < i, ∀ q, ¬ op.Lacks payload j q) ∧ e = .missingParameter op.name p.name)
  /-- With distinct names each parameter receives what an object has under its name, -/
  byName : (op.parameters.map Parameter.name).Nodup → ∀ fields i p, op.parameters[i]? = some p →
    op.receives (.object fields) i = given fields p.name
  /-- **and everything is the same** for the object, for an array of these values with or without
  nulls at its end, and for the object with more fields. -/
  alike : (op.parameters.map Parameter.name).Nodup → ∀ fields payload,
    Alike (op.parameters.map Parameter.name) fields payload →
      op.bind payload = op.bind (.object fields) ∧
        ∀ live lost, op.invoke live lost payload = op.invoke live lost (.object fields)

/-- **Put together in any way,** an operation binds by these laws. -/
theorem bindingLaws (name : String) (words : List Draft.Word) (handler : Handler) :
    BindingLaws (.ofWords name words) ((Draft.ofWords name words).finish handler) where
  positions := Draft.positions_ofWords name words
  safe := Draft.bind_ofWords name words handler
  bound _ _ := Arguments.bind_eq_ok_iff
  length payload args h := by
    rw [(Arguments.bind_eq_ok_iff.1 h).2.2, List.length_map, List.length_range]
  unfit _ h := Arguments.bind_of_not_fits _ h
  missing _ _ h := Arguments.bind_eq_error_iff h
  byName hnames fields i p hp := by
    refine Arguments.gives_object_of_nodup hnames ?_
    rw [List.getElem?_map, hp, Option.map_some]
  alike hnames fields payload h := by
    have hbind := h.bind_eq hnames (Draft.ofWords name words).name
    exact ⟨hbind, invoke_congr hbind⟩

end Operation

end Switchboard
