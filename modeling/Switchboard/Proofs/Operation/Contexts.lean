import Switchboard.Proofs.Json.Shape
import Switchboard.Proofs.Number.Rounding
import Switchboard.Proofs.Operation.Outcomes
import Switchboard.Proofs.Operation.Payloads
/-!
# What an expression sees of the arguments

An operation's expression is evaluated against the arguments as their parameters declare them
(`Operation.Sees`). A parameter for a number is the only one that can refuse what it gets: what is
neither a number nor the text of one (`Json.Numeric`). The first that does is what the invocation
fails for, and the expression has no part in it. Where none does, the expression sees one field for
each parameter that gets something, under its name, and nothing else (`Operation.LaidOut`).
`contextLaws` says both of every invocation.
-/

namespace Switchboard

/-- A number, or a text that is read as a finite one. -/
inductive Json.Numeric : Json → Prop where
  | number (n : Number) : Numeric (.number n)
  | numeral {s : String} {x : Binary64.Finite}
      (read : Binary64.ofText? (Text.trimChars s.toList) = some (.finite x)) :
      Numeric (.string s)

namespace Operation

open Json (Numeric)

variable {op : Operation} {payload : Json} {args : Arguments} {ps : List Parameter}
variable {p : Parameter} {type : ParameterType} {v w : Json} {i j : Nat}

/-! ## One argument -/

/-- **How an argument is seen,** by the type that its parameter declares. -/
inductive Sees : ParameterType → Json → Json → Prop where
  /-- A string as it is, -/
  | string (s : String) : Sees .string (.string s) (.string s)
  /-- and anything else as its text. -/
  | text {v : Json} (other : v.string? = none) : Sees .string v (.string v.text)
  /-- A number in binary64, -/
  | number {n : Number} {x : Binary64.Finite} (value : n.toBinary64 = .finite x) :
      Sees .number (.number n) (.number (.float x))
  /-- and a text as the number that it is read as. -/
  | numeral {s : String} {x : Binary64.Finite}
      (read : Binary64.ofText? (Text.trimChars s.toList) = some (.finite x)) :
      Sees .number (.string s) (.number (.float x))
  /-- What is true as true, -/
  | true : Sees .boolean (.bool true) (.bool true)
  /-- and anything else as false. -/
  | false {v : Json} (other : v ≠ .bool true) : Sees .boolean v (.bool false)

/-- A value of a declared type. Numbers are those of binary64. -/
inductive OfType : ParameterType → Json → Prop where
  | string (s : String) : OfType .string (.string s)
  | number (x : Binary64.Finite) : OfType .number (.number (.float x))
  | boolean (b : Bool) : OfType .boolean (.bool b)

/-- What is seen is of the declared type, -/
theorem Sees.ofType (h : Sees type v w) : OfType type w := by
  cases h with
  | string s => exact .string s
  | text other => exact .string _
  | number value => exact .number _
  | numeral read => exact .number _
  | true => exact .boolean _
  | false other => exact .boolean _

/-- and there is one thing only that it can be. -/
theorem Sees.unique {w' : Json} (h : Sees type v w) (h' : Sees type v w') : w = w' := by
  cases h with
  | string s =>
    cases h' with
    | string => rfl
    | text other => cases other
  | text other =>
    cases h' with
    | string s => cases other
    | text => rfl
  | number value =>
    cases h' with
    | number value' =>
      have hsame := value.symm.trans value'
      cases hsame
      rfl
  | numeral read =>
    cases h' with
    | numeral read' =>
      have hsame := read.symm.trans read'
      cases hsame
      rfl
  | true =>
    cases h' with
    | true => rfl
    | false other => exact absurd rfl other
  | false other =>
    cases h' with
    | true => exact absurd rfl other
    | false => rfl

/-- Everything but a number can be made of anything, and a number of what is numeric. -/
theorem exists_sees_iff : (∃ w, Sees type v w) ↔ (type = .number → v.Numeric) := by
  constructor
  · rintro ⟨w, h⟩ rfl
    cases h with
    | number value => exact .number _
    | numeral read => exact .numeral read
  · intro h
    cases type with
    | string =>
      cases hs : v.string? with
      | none => exact ⟨_, .text hs⟩
      | some s =>
        cases v with
        | string s => exact ⟨_, .string s⟩
        | _ => cases hs
    | number =>
      cases h rfl with
      | number n =>
        obtain ⟨x, hx⟩ := n.exists_toBinary64_eq_finite
        exact ⟨_, .number hx⟩
      | numeral read => exact ⟨_, .numeral read⟩
    | boolean =>
      by_cases hv : v = .bool true
      · subst hv
        exact ⟨_, .true⟩
      · exact ⟨_, .false hv⟩

theorem coerceNumber?_eq_some_iff : coerceNumber? v = some w ↔ Sees .number v w := by
  constructor
  · intro h
    cases v with
    | number n =>
      obtain ⟨x, hx⟩ := n.exists_toBinary64_eq_finite
      rw [coerceNumber?, hx] at h
      cases h
      exact .number hx
    | string s =>
      rw [coerceNumber?] at h
      cases hread : Binary64.ofText? (Text.trimChars s.toList) with
      | none =>
        rw [hread] at h
        cases h
      | some x =>
        rw [hread] at h
        cases x with
        | finite x =>
          cases h
          exact .numeral hread
        | infinite negative => cases h
        | undefined => cases h
    | null => cases h
    | bool b => cases h
    | array items => cases h
    | object fields => cases h
  · intro h
    cases h with
    | number value => rw [coerceNumber?, value]
    | numeral read => rw [coerceNumber?, read]

theorem isSome_coerceNumber?_iff : (coerceNumber? v).isSome ↔ v.Numeric := by
  have hsees : (∃ w, Sees .number v w) ↔ v.Numeric :=
    exists_sees_iff.trans ⟨fun h => h rfl, fun h _ => h⟩
  rw [Option.isSome_iff_exists, ← hsees]
  exact exists_congr fun w => coerceNumber?_eq_some_iff

instance (v : Json) : Decidable v.Numeric := decidable_of_iff _ isSome_coerceNumber?_iff

-- Blanks around a text do not count, and the name of an infinity is the text of no number.
example : (Json.string " 1e2 ").Numeric ∧ ¬ (Json.string "inf").Numeric := by decide +kernel

/-- **An argument becomes what is seen of it,** -/
theorem coerce_of_sees (h : Sees type v w) (args : Arguments) (i : Nat) :
    coerce args i type v = .ok w := by
  cases h with
  | string s => rfl
  | text other =>
    cases v with
    | string s => cases other
    | _ => rfl
  | number value => rw [coerce, coerceNumber?_eq_some_iff.2 (.number value)]
  | numeral read => rw [coerce, coerceNumber?_eq_some_iff.2 (.numeral read)]
  | true => rfl
  | false other =>
    cases v with
    | bool b =>
      cases b with
      | true => exact absurd rfl other
      | false => rfl
    | _ => rfl

/-- and is refused for a number that it is not. -/
theorem coerce_of_not_numeric (h : ¬ v.Numeric) (args : Arguments) (i : Nat) :
    coerce args i .number v = .error (args.invalid i ("expected a number, got " ++ v.text)) := by
  have hnone : coerceNumber? v = none :=
    Option.not_isSome_iff_eq_none.1 fun hsome => h (isSome_coerceNumber?_iff.1 hsome)
  rw [coerce, hnone]

/-! ## One argument after the other -/

/-- The parameter at the `j`-th place has the argument; arguments count from the `i`-th on. -/
def Holds (args : Arguments) (i : Nat) (ps : List Parameter) (j : Nat) (p : Parameter)
    (v : Json) : Prop :=
  ps[j]? = some p ∧ args.value? (i + j) = some v

/-- The parameter at the `j`-th place is for a number and has an argument that is none. -/
def Refuses (args : Arguments) (i : Nat) (ps : List Parameter) (j : Nat) (p : Parameter)
    (v : Json) : Prop :=
  Holds args i ps j p v ∧ p.type = .number ∧ ¬ v.Numeric

/-- One entry for each parameter that has an argument, and no other. -/
def Lists (args : Arguments) (i : Nat) (ps : List Parameter) (entries : Json.Fields) : Prop :=
  ∀ f, f ∈ entries ↔ ∃ j p v, Holds args i ps j p v ∧ p.name = f.1 ∧ Sees p.type v f.2

theorem holds_cons_zero {q : Parameter} :
    Holds args i (p :: ps) 0 q v ↔ p = q ∧ args.value? i = some v := by
  rw [Holds, List.getElem?_cons_zero, Option.some_inj, Nat.add_zero]

theorem holds_cons_succ {q : Parameter} :
    Holds args i (p :: ps) (j + 1) q v ↔ Holds args (i + 1) ps j q v := by
  have hplace : i + (j + 1) = i + 1 + j := by omega
  rw [Holds, Holds, List.getElem?_cons_succ, hplace]

/-- The first that is refused is still the first behind one that is not. -/
theorem refuses_cons_of_first {q : Parameter}
    (hfirst : ∀ q' v', ¬ Refuses args i (p :: ps) 0 q' v')
    (hrefuses : Refuses args (i + 1) ps j q v)
    (hbefore : ∀ k < j, ∀ q' v', ¬ Refuses args (i + 1) ps k q' v') :
    Refuses args i (p :: ps) (j + 1) q v ∧
      ∀ k < j + 1, ∀ q' v', ¬ Refuses args i (p :: ps) k q' v' := by
  refine ⟨⟨holds_cons_succ.2 hrefuses.1, hrefuses.2⟩, ?_⟩
  intro k hk q' v' h
  cases k with
  | zero => exact hfirst q' v' h
  | succ k => exact hbefore k (by omega) q' v' ⟨holds_cons_succ.1 h.1, h.2⟩

theorem not_refuses_cons (hfirst : ∀ q' v', ¬ Refuses args i (p :: ps) 0 q' v')
    (hrest : ∀ k q' v', ¬ Refuses args (i + 1) ps k q' v') :
    ∀ k q' v', ¬ Refuses args i (p :: ps) k q' v' := by
  intro k q' v' h
  cases k with
  | zero => exact hfirst q' v' h
  | succ k => exact hrest k q' v' ⟨holds_cons_succ.1 h.1, h.2⟩

theorem lists_cons_of_absent {entries : Json.Fields} (hnone : args.value? i = none)
    (h : Lists args (i + 1) ps entries) : Lists args i (p :: ps) entries := by
  intro f
  rw [h f]
  constructor
  · rintro ⟨j, q, v, hholds, hsees⟩
    exact ⟨j + 1, q, v, holds_cons_succ.2 hholds, hsees⟩
  · rintro ⟨j, q, v, hholds, hsees⟩
    cases j with
    | zero =>
      have hthere := (holds_cons_zero.1 hholds).2
      rw [hnone] at hthere
      cases hthere
    | succ j => exact ⟨j, q, v, holds_cons_succ.1 hholds, hsees⟩

theorem lists_cons_of_sees {entries : Json.Fields} (hv : args.value? i = some v)
    (hw : Sees p.type v w) (h : Lists args (i + 1) ps entries) :
    Lists args i (p :: ps) ((p.name, w) :: entries) := by
  intro f
  rw [List.mem_cons, h f]
  constructor
  · rintro (rfl | ⟨j, q, v, hholds, hsees⟩)
    · exact ⟨0, p, v, holds_cons_zero.2 ⟨rfl, hv⟩, rfl, hw⟩
    · exact ⟨j + 1, q, v, holds_cons_succ.2 hholds, hsees⟩
  · rintro ⟨j, q, v', hholds, hname, hsees⟩
    cases j with
    | zero =>
      obtain ⟨rfl, hv'⟩ := holds_cons_zero.1 hholds
      obtain rfl := Option.some.inj (hv.symm.trans hv')
      exact .inl (Prod.ext hname.symm (hsees.unique hw))
    | succ j => exact .inr ⟨j, q, v', holds_cons_succ.1 hholds, hname, hsees⟩

/-- **The first argument is refused,** -/
theorem contextFields_cons_of_refuses {q : Parameter} (h : Refuses args i (p :: ps) 0 q v) :
    contextFields args i (p :: ps) =
      .error (args.invalid i ("expected a number, got " ++ v.text)) := by
  obtain ⟨hholds, htype, hnot⟩ := h
  obtain ⟨rfl, hv⟩ := holds_cons_zero.1 hholds
  rw [contextFields, hv]
  dsimp only
  rw [htype, coerce_of_not_numeric hnot]
  rfl

/-- or it adds its entry to what the others come to, if it is there. -/
theorem contextFields_cons_of_first (hfirst : ∀ q v, ¬ Refuses args i (p :: ps) 0 q v) :
    ∃ add : Json.Fields → Json.Fields,
      contextFields args i (p :: ps) = (contextFields args (i + 1) ps).map add ∧
        ∀ entries, Lists args (i + 1) ps entries → Lists args i (p :: ps) (add entries) := by
  rw [contextFields]
  cases hv : args.value? i with
  | none =>
    refine ⟨id, ?_, fun entries => lists_cons_of_absent hv⟩
    cases contextFields args (i + 1) ps with
    | error e => rfl
    | ok entries => rfl
  | some v =>
    have hnumeric : p.type = .number → v.Numeric := fun htype =>
      Decidable.byContradiction fun hnot =>
        hfirst p v ⟨holds_cons_zero.2 ⟨rfl, hv⟩, htype, hnot⟩
    obtain ⟨w, hw⟩ := exists_sees_iff.2 hnumeric
    refine ⟨((p.name, w) :: ·), ?_, fun entries => lists_cons_of_sees hv hw⟩
    dsimp only
    rw [coerce_of_sees hw]
    cases contextFields args (i + 1) ps with
    | error e => rfl
    | ok entries => rfl

/-- **The two things that laying out can come to:** a refusal of the first argument that has to be
a number and is none, or, where there is no such, entries for all arguments. -/
theorem contextFields_cases (args : Arguments) (i : Nat) (ps : List Parameter) :
    (∃ j p v, Refuses args i ps j p v ∧ (∀ k < j, ∀ q w, ¬ Refuses args i ps k q w) ∧
      contextFields args i ps =
        .error (args.invalid (i + j) ("expected a number, got " ++ v.text))) ∨
    ((∀ j p v, ¬ Refuses args i ps j p v) ∧
      ∃ entries, Lists args i ps entries ∧ contextFields args i ps = .ok entries) := by
  induction ps generalizing i with
  | nil =>
    refine .inr ⟨?_, [], fun f => iff_of_false List.not_mem_nil ?_, rfl⟩
    · intro j p v h
      cases h.1.1
    · rintro ⟨j, p, v, hholds, -⟩
      cases hholds.1
  | cons p rest ih =>
    by_cases hrefused : ∃ q v, Refuses args i (p :: rest) 0 q v
    · obtain ⟨q, v, hrefuses⟩ := hrefused
      have hnone : ∀ k < 0, ∀ q w, ¬ Refuses args i (p :: rest) k q w :=
        fun k hk => absurd hk (Nat.not_lt_zero k)
      exact .inl ⟨0, q, v, hrefuses, hnone, contextFields_cons_of_refuses hrefuses⟩
    · have hfirst : ∀ q v, ¬ Refuses args i (p :: rest) 0 q v :=
        fun q v h => hrefused ⟨q, v, h⟩
      obtain ⟨add, hstep, hadd⟩ := contextFields_cons_of_first hfirst
      rw [hstep]
      rcases ih (i + 1) with ⟨j, q, v, hrefuses, hbefore, herror⟩ | ⟨hrest, entries, hlists, hok⟩
      · have hplace : i + 1 + j = i + (j + 1) := by omega
        obtain ⟨hlater, hall⟩ := refuses_cons_of_first hfirst hrefuses hbefore
        rw [herror, hplace]
        exact .inl ⟨j + 1, q, v, hlater, hall, rfl⟩
      · rw [hok]
        exact .inr ⟨not_refuses_cons hfirst hrest, add entries, hadd entries hlists, rfl⟩

/-! ## From the payload -/

/-- The parameter at a position gets an argument from the payload. -/
def Gets (op : Operation) (payload : Json) (i : Nat) (p : Parameter) (v : Json) : Prop :=
  op.parameters[i]? = some p ∧ op.receives payload i = v ∧ v.isNull = false

/-- It is for a number, and what it gets is none. -/
def Rejects (op : Operation) (payload : Json) (i : Nat) (p : Parameter) (v : Json) : Prop :=
  op.Gets payload i p v ∧ p.type = .number ∧ ¬ v.Numeric

/-- **What an expression sees:** an object with a field for each parameter that gets an argument,
under its name, and with no other. -/
structure LaidOut (op : Operation) (payload : Json) (fields : Json.Fields) : Prop where
  /-- No name comes twice. -/
  increasing : fields.Pairwise fun f g => f.1 < g.1
  /-- The names are those of the parameters that get something. -/
  names : ∀ name, (∃ w, fields.lookup name = some w) ↔
    ∃ i p v, op.Gets payload i p v ∧ p.name = name
  /-- Under each stands what is seen of it. -/
  seen : ∀ i p v, op.Gets payload i p v → ∃ w, fields.lookup p.name = some w ∧ Sees p.type v w
  /-- So everything there is of a declared type. -/
  typed : ∀ f ∈ fields, ∃ p ∈ op.parameters, p.name = f.1 ∧ OfType p.type f.2

/-- What is bound to a parameter is what it gets from the payload. -/
theorem holds_iff_gets (h : op.bind payload = .ok args) :
    Holds args 0 op.parameters i p v ↔ op.Gets payload i p v := by
  obtain ⟨-, -, rfl⟩ := Arguments.bind_eq_ok_iff.1 h
  rw [Holds, Gets, Nat.zero_add, Arguments.value?, List.getElem?_map]
  refine and_congr_right fun hp => ?_
  obtain ⟨hi, -⟩ := List.getElem?_eq_some_iff.1 hp
  rw [List.getElem?_range hi, Option.map_some, Option.filter_eq_some_iff, Option.some_inj,
    Bool.not_eq_true']
  rfl

theorem refuses_iff_rejects (h : op.bind payload = .ok args) :
    Refuses args 0 op.parameters i p v ↔ op.Rejects payload i p v :=
  and_congr_left' (holds_iff_gets h)

/-- A refusal names the operation and the parameter. -/
theorem invalid_of_bind (h : op.bind payload = .ok args) (hp : op.parameters[i]? = some p)
    (reason : String) : args.invalid i reason = .invalidParameter op.name p.name reason := by
  obtain ⟨-, -, rfl⟩ := Arguments.bind_eq_ok_iff.1 h
  rw [Arguments.invalid, Arguments.nameAt, List.getElem?_map, hp, Option.map_some,
    Option.getD_some]

/-! ## What an invocation comes to -/

/-- Distinct names are those of one place each. -/
theorem gets_unique (hnames : (op.parameters.map Parameter.name).Nodup) {q : Parameter}
    (hp : op.Gets payload i p v) (hq : op.Gets payload j q w) (hname : p.name = q.name) :
    p = q ∧ v = w := by
  have hpn : (op.parameters.map Parameter.name)[i]? = some p.name := by
    rw [List.getElem?_map, hp.1, Option.map_some]
  have hqn : (op.parameters.map Parameter.name)[j]? = some p.name := by
    rw [List.getElem?_map, hq.1, Option.map_some, hname]
  obtain ⟨hi, -⟩ := List.getElem?_eq_some_iff.1 hpn
  have hij : i = j := (List.getElem?_inj hi hnames).1 (hpn.trans hqn.symm)
  subst hij
  exact ⟨Option.some.inj (hp.1.symm.trans hq.1), hp.2.1.symm.trans hq.2.1⟩

/-- **Entries for all arguments, under distinct names, are laid out as they should be.** -/
theorem laidOut_of_lists (hnames : (op.parameters.map Parameter.name).Nodup)
    (hbound : op.bind payload = .ok args) (hnone : ∀ i p v, ¬ op.Rejects payload i p v)
    {entries : Json.Fields} (hlists : Lists args 0 op.parameters entries) :
    op.LaidOut payload (Json.Fields.ofList entries) := by
  have h : ∀ f, f ∈ entries ↔
      ∃ i p v, op.Gets payload i p v ∧ p.name = f.1 ∧ Sees p.type v f.2 := by
    intro f
    rw [hlists f]
    simp only [holds_iff_gets hbound]
  have hlisted : ∀ {name w}, (Json.Fields.ofList entries).lookup name = some w →
      ∃ i p v, op.Gets payload i p v ∧ p.name = name ∧ Sees p.type v w :=
    fun hw => (h _).1 (Json.mem_of_mem_ofList (Json.mem_of_lookup hw))
  have hseen : ∀ i p v, op.Gets payload i p v →
      ∃ w, (Json.Fields.ofList entries).lookup p.name = some w ∧ Sees p.type v w := by
    intro i p v hgets
    have hnumeric : p.type = .number → v.Numeric := fun htype =>
      Decidable.byContradiction fun hnot => hnone i p v ⟨hgets, htype, hnot⟩
    obtain ⟨w, hw⟩ := exists_sees_iff.2 hnumeric
    obtain ⟨w', hw'⟩ := Json.exists_lookup_ofList ((h (p.name, w)).2 ⟨i, p, v, hgets, rfl, hw⟩)
    obtain ⟨j, q, v', hgets', hname, hsees⟩ := hlisted hw'
    obtain ⟨rfl, rfl⟩ := gets_unique hnames hgets hgets' hname.symm
    exact ⟨w', hw', hsees⟩
  refine ⟨Json.increasing_ofList entries, fun name => ⟨?_, ?_⟩, hseen, ?_⟩
  · rintro ⟨w, hw⟩
    obtain ⟨i, p, v, hgets, hname, -⟩ := hlisted hw
    exact ⟨i, p, v, hgets, hname⟩
  · rintro ⟨i, p, v, hgets, rfl⟩
    obtain ⟨w, hw, -⟩ := hseen i p v hgets
    exact ⟨w, hw⟩
  · intro f hf
    obtain ⟨i, p, v, hgets, hname, hsees⟩ := (h f).1 (Json.mem_of_mem_ofList hf)
    exact ⟨p, List.mem_of_getElem? hgets.1, hname, hsees.ofType⟩

/-- **What the expression of an operation is evaluated against.** -/
structure ContextLaws (op : Operation) (logic : Json) (reach : Reach) : Prop where
  /-- Where nothing is rejected, the expression is evaluated against what is laid out, whatever
  hosts there are; and that is the invocation. -/
  evaluated : (op.parameters.map Parameter.name).Nodup → ∀ payload args,
    op.bind payload = .ok args → (∀ i p v, ¬ op.Rejects payload i p v) →
      ∃ fields, op.LaidOut payload fields ∧ ∀ live lost, op.invoke live lost payload =
        ((Expr.ofJson logic).eval (hostFor live lost reach) (.object fields)).run >>=
          fun r => .done (r.mapError .evaluation)
  /-- **Where something is, the invocation fails for the first that is,** at once and whatever
  hosts there are: the expression is not evaluated. -/
  rejected : ∀ payload args, op.bind payload = .ok args → (∃ i p v, op.Rejects payload i p v) →
    ∃ i p v, op.Rejects payload i p v ∧ (∀ j < i, ∀ q w, ¬ op.Rejects payload j q w) ∧
      ∀ live lost, op.invoke live lost payload = .done (.error
        (.invalidParameter op.name p.name ("expected a number, got " ++ v.text)))

/-- **No expression is evaluated against anything else,** whatever operation it belongs to and
whatever it can reach. -/
theorem contextLaws (op : Operation) (logic : Json) (reach : Reach) :
    ContextLaws { op with handler := .expression logic reach } logic reach where
  evaluated hnames payload args hbound hnone := by
    rcases contextFields_cases args 0 op.parameters with
      ⟨j, p, v, hrefuses, -, -⟩ | ⟨-, entries, hlists, hok⟩
    · exact absurd ((refuses_iff_rejects hbound).1 hrefuses) (hnone j p v)
    · have hlaidOut := laidOut_of_lists hnames hbound hnone hlists
      refine ⟨_, hlaidOut, invoke_of_expression rfl hbound ?_⟩
      rw [context, hok]
      rfl
  rejected payload args hbound hsome := by
    obtain ⟨i, p, v, hrejects⟩ := hsome
    rcases contextFields_cases args 0 op.parameters with
      ⟨j, q, w, hrefuses, hbefore, herror⟩ | ⟨hnone, -, -, -⟩
    · refine ⟨j, q, w, (refuses_iff_rejects hbound).1 hrefuses, ?_, ?_⟩
      · intro k hk q' w' hrejects'
        exact hbefore k hk q' w' ((refuses_iff_rejects hbound).2 hrejects')
      · refine invoke_of_uncoerced rfl hbound ?_
        rw [Nat.zero_add, invalid_of_bind hbound hrefuses.1.1] at herror
        rw [context, herror]
        rfl
    · exact absurd ((refuses_iff_rejects hbound).2 hrejects) (hnone i p v)

end Operation

end Switchboard
