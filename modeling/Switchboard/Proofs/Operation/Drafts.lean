import Switchboard.Proofs.Operation.Binding
/-!
# Operations put together

An operation may be put together word by word: its documentation, its parameters and its tags, in
any order, and its handler at the end (`Draft`). There a parameter has a position of its own, at
which its argument is looked for, and it is the draft that gives it (`Draft.tell`). Looking for an
argument at a position where there is none would be a fault. It never happens, since the positions
are the places in the order of declaration (`positions_ofWords`); so binding by positions is
binding in order (`bind_ofWords`).
-/

namespace Switchboard

/-- A parameter with the position at which its argument is looked for. -/
structure Placed where
  parameter : Parameter
  position : Nat := 0

/-- An operation that is being put together. -/
structure Draft where
  name : String
  documentation : String := ""
  parameters : List Placed := []
  tags : List Tag := []

namespace Draft

/-- What may be said of an operation. -/
inductive Word where
  | documentation (text : String)
  | parameter (p : Placed)
  | tag (t : Tag)
  | menu (root command : String)

/-- The draft after one more word. A new parameter gets the position behind all others, whatever
its own was. -/
def tell (d : Draft) : Word → Draft
  | .documentation text => { d with documentation := text }
  | .parameter p =>
    { d with parameters := d.parameters ++ [{ p with position := d.parameters.length }] }
  | .tag t => { d with tags := d.tags ++ [t] }
  | .menu root command => { d with tags := d.tags ++ Tag.menu root command }

/-- The draft of an operation of which this has been said. -/
def ofWords (name : String) (words : List Word) : Draft := words.foldl tell { name := name }

/-- The operation that is carried out by the handler. -/
def finish (d : Draft) (handler : Handler) : Operation where
  name := d.name
  documentation := d.documentation
  parameters := d.parameters.map (·.parameter)
  tags := d.tags
  handler := handler

/-! ## Binding by positions -/

/-- The first required parameter whose value is null; a fault (`none`) if a value is looked for
where there is none. -/
def firstMissing? (values : List Json) : List Placed → Option (Option Parameter)
  | [] => some none
  | p :: rest =>
    if p.parameter.required then
      match values[p.position]? with
      | none => none
      | some v => if v.isNull then some (some p.parameter) else firstMissing? values rest
    else firstMissing? values rest

/-- Binding with each value looked for at its parameter's position, unless that is a fault. -/
def bind (d : Draft) (payload : Json) : Option (Except CallError Arguments) :=
  let names := d.parameters.map (·.parameter.name)
  match Arguments.distribute d.name names payload with
  | .error e => some (.error e)
  | .ok values =>
    match firstMissing? values d.parameters with
    | none => none
    | some (some p) => some (.error (.missingParameter d.name p.name))
    | some none => some (.ok ⟨d.name, names, values⟩)

variable {d : Draft} {values : List Json} {placed : List Placed}

/-- The positions of a draft's parameters are their places, one after the other. -/
def Ordered (d : Draft) : Prop :=
  d.parameters.map (·.position) = List.range d.parameters.length

theorem Ordered.tell (hd : d.Ordered) (word : Word) : (d.tell word).Ordered := by
  cases word with
  | parameter p =>
    change (d.parameters ++ [_]).map Placed.position = List.range (d.parameters ++ [_]).length
    rw [List.map_append, hd, List.length_append, List.map_singleton, List.length_singleton,
      List.range_succ]
  | documentation text => exact hd
  | tag t => exact hd
  | menu root command => exact hd

/-- **Whatever is said in whatever order,** positions are places. -/
theorem positions_ofWords (name : String) (words : List Word) : (ofWords name words).Ordered := by
  have hall : ∀ d : Draft, d.Ordered → (words.foldl Draft.tell d).Ordered := by
    induction words with
    | nil => exact fun _ hd => hd
    | cons word rest ih => exact fun d hd => ih (d.tell word) (hd.tell word)
  exact hall _ rfl

/-- Parameters that are told one after the other come in behind those that are there. -/
theorem finish_foldl_parameters (d : Draft) (ps : List Parameter) (handler : Handler) :
    ((ps.map fun p => Word.parameter ⟨p, 0⟩).foldl tell d).finish handler =
      { d.finish handler with parameters := (d.finish handler).parameters ++ ps } := by
  induction ps generalizing d with
  | nil =>
    rw [List.append_nil]
    rfl
  | cons p rest ih =>
    rw [List.map_cons, List.foldl_cons, ih]
    simp [finish, tell]

/-- Where positions are places, and there are values enough, none is looked for in vain. -/
theorem firstMissing?_eq_some {i : Nat}
    (hplaces : placed.map (·.position) = List.range' i placed.length)
    (hvalues : i + placed.length ≤ values.length) :
    firstMissing? values placed =
      some (Arguments.firstMissing? (placed.map (·.parameter)) (values.drop i)) := by
  induction placed generalizing i with
  | nil => rfl
  | cons p rest ih =>
    rw [List.length_cons] at hvalues
    rw [List.map_cons, List.length_cons, List.range'_succ, List.cons.injEq] at hplaces
    obtain ⟨hposition, hrest⟩ := hplaces
    have hi : i < values.length := by omega
    have ihrest := ih hrest (by omega)
    rw [firstMissing?, hposition, List.getElem?_eq_getElem hi, ihrest, List.map_cons,
      List.drop_eq_getElem_cons hi, Arguments.firstMissing?, Arguments.firstMissing?,
      List.zip_cons_cons, List.find?_cons]
    dsimp only
    cases p.parameter.required with
    | false => rfl
    | true =>
      cases values[i].isNull with
      | true => rfl
      | false => rfl

/-- **No value is looked for in vain,** and binding by positions is binding in order. -/
theorem bind_ofWords (name : String) (words : List Word) (handler : Handler) (payload : Json) :
    (ofWords name words).bind payload =
      some (((ofWords name words).finish handler).bind payload) := by
  have hordered := positions_ofWords name words
  generalize ofWords name words = d at hordered ⊢
  have hnames : (d.parameters.map (·.parameter)).map Parameter.name =
      d.parameters.map (·.parameter.name) := List.map_map
  rw [Draft.bind, Operation.bind, Arguments.bind, finish]
  dsimp only
  rw [hnames]
  cases hvalues : Arguments.distribute d.name (d.parameters.map (·.parameter.name)) payload with
  | error e => rfl
  | ok values =>
    have hlength := Arguments.length_of_distribute hvalues
    rw [List.length_map] at hlength
    rw [Ordered, List.range_eq_range'] at hordered
    dsimp only [Bind.bind, Except.bind]
    rw [firstMissing?_eq_some hordered (by omega), List.drop_zero]
    cases Arguments.firstMissing? (d.parameters.map (·.parameter)) values with
    | none => rfl
    | some p => rfl

end Draft

end Switchboard
