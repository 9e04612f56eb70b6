import Switchboard.Pattern.Meaning
import Switchboard.Pattern.Reader
/-!
# What spans are for

Spans show where a part of a pattern stands. They are told with a fault and decide nothing: parts
that differ in spans only (`Node.unplaced`) mean the same, are nested as deep, and can be repeated
or not alike.
-/

namespace Switchboard

namespace Pattern

/-! ## Parts without their spans -/

/-- The span of what has none. -/
def Span.none : Span := .point .start

/-- The character without its span. -/
def Literal.unplaced (l : Literal) : Literal := ⟨.none, l.char, l.asByte⟩

mutual

/-- The item without its spans. -/
def ClassItem.unplaced : ClassItem → ClassItem
  | .nothing _ => .nothing .none
  | .literal l => .literal l.unplaced
  | .range _ first last => .range .none first.unplaced last.unplaced
  | .ascii _ negated kind => .ascii .none negated kind
  | .property _ negated query => .property .none negated query
  | .shorthand _ negated kind => .shorthand .none negated kind
  | .bracketed _ negated items => .bracketed .none negated items.unplaced
  | .union _ items => .union .none (ClassItem.allUnplaced items)
  | .combined _ operation left right => .combined .none operation left.unplaced right.unplaced

/-- The items without their spans. -/
def ClassItem.allUnplaced : List ClassItem → List ClassItem
  | [] => []
  | item :: rest => item.unplaced :: ClassItem.allUnplaced rest

end

mutual

/-- The part without its spans. -/
def Node.unplaced : Node → Node
  | .nothing _ => .nothing .none
  | .flags _ change => .flags .none change
  | .literal l => .literal l.unplaced
  | .dot _ => .dot .none
  | .anchor _ kind => .anchor .none kind
  | .property _ negated query => .property .none negated query
  | .shorthand _ negated kind => .shorthand .none negated kind
  | .bracketed _ negated items => .bracketed .none negated items.unplaced
  | .repetition _ body min max greedy => .repetition .none body.unplaced min max greedy
  | .group _ kind body => .group .none kind body.unplaced
  | .choice _ branches => .choice .none (Node.allUnplaced branches)
  | .sequence _ parts => .sequence .none (Node.allUnplaced parts)

/-- The parts without their spans. -/
def Node.allUnplaced : List Node → List Node
  | [] => []
  | part :: rest => part.unplaced :: Node.allUnplaced rest

end

/-- The lists are taken item by item, as recursion over trees has it. -/
theorem ClassItem.allUnplaced_eq_map (items : List ClassItem) :
    allUnplaced items = items.map unplaced := by
  induction items with
  | nil => rfl
  | cons item rest ih => rw [allUnplaced, ih, List.map_cons]

theorem Node.allUnplaced_eq_map (parts : List Node) : allUnplaced parts = parts.map unplaced := by
  induction parts with
  | nil => rfl
  | cons part rest ih => rw [allUnplaced, ih, List.map_cons]

/-- What can be repeated is seen by the kind of a part. -/
theorem Node.isRepeatable_unplaced (n : Node) : n.unplaced.isRepeatable = n.isRepeatable := by
  cases n <;> rfl

/-! ## Results but for what went wrong -/

section Results

variable {ε α β : Type} {x y : Except ε α} {f g : α → Except ε β}

/-- Both results are values, the same, or neither is. -/
def SameValue (x y : Except ε α) : Prop := x.toOption = y.toOption

theorem SameValue.refl (x : Except ε α) : SameValue x x := rfl

theorem SameValue.symm (h : SameValue x y) : SameValue y x := Eq.symm h

theorem SameValue.trans {z : Except ε α} (h : SameValue x y) (h' : SameValue y z) :
    SameValue x z :=
  Eq.trans h h'

/-- **Results go through sequencing** if what follows has the same value for every value. -/
theorem SameValue.bind (hx : SameValue x y) (hf : ∀ a, SameValue (f a) (g a)) :
    SameValue (x >>= f) (y >>= g) := by
  cases x with
  | error e =>
    cases y with
    | error e' => rfl
    | ok b => cases hx
  | ok a =>
    cases y with
    | error e' => cases hx
    | ok b =>
      obtain rfl := Option.some.inj hx
      exact hf a

/-- Two failures are alike, whatever the faults say. -/
theorem sameValue_error (e e' : ε) : SameValue (.error e : Except ε α) (.error e') := rfl

theorem SameValue.ite {x' y' : Except ε α} {c : Prop} [Decidable c] (h : SameValue x y)
    (h' : SameValue x' y') : SameValue (if c then x else x') (if c then y else y') := by
  split
  · exact h
  · exact h'

/-- A value on one side is a value on the other, -/
theorem SameValue.ok_of_ok {a : α} (h : SameValue x y) (hx : x = .ok a) : y = .ok a := by
  subst hx
  cases y with
  | error e => cases h
  | ok b => rw [Option.some.inj h]

/-- and so is a failure. -/
theorem SameValue.error_of_error {e : ε} (h : SameValue x y) (hx : x = .error e) :
    ∃ e, y = .error e := by
  subst hx
  cases y with
  | error e => exact ⟨e, rfl⟩
  | ok a => cases h

end Results

/-! ## Meanings -/

namespace Mode

variable (mode : Mode) (l : Literal) (s t : Span) (negated : Bool)

/-- A mode refuses or allows a set whatever span it tells. -/
theorem sameValue_negate (set : CharSet) :
    SameValue (mode.negate s negated set) (mode.negate t negated set) :=
  .ite (sameValue_error _ _) (.refl _)

/-- Whether a character can be a byte is seen by how it is written, -/
theorem sameValue_checkByte : SameValue (mode.checkByte l.unplaced) (mode.checkByte l) :=
  .ite (sameValue_error _ _) (.refl _)

/-- and so is the number that it stands for. -/
theorem sameValue_codePoint : SameValue (mode.codePoint l.unplaced) (mode.codePoint l) :=
  (mode.sameValue_checkByte l).bind fun _ =>
    .ite (sameValue_error _ _) (.refl _)

/-- Classes by property or by letter are looked up, and the span is told with a fault only. -/
theorem sameValue_property (query : Query) :
    SameValue (mode.property s negated query) (mode.property t negated query) := by
  unfold property
  refine .ite (sameValue_error _ _) ?_
  dsimp only [pure, Except.pure, bind, Except.bind]
  split
  · exact mode.sameValue_negate _ _ _ _
  · exact sameValue_error _ _
  · exact sameValue_error _ _

theorem sameValue_shorthand (kind : Shorthand) :
    SameValue (mode.shorthand s negated kind) (mode.shorthand t negated kind) :=
  mode.sameValue_negate _ _ _ _

end Mode

/-- The ranges of several items are put together one after the other, -/
theorem ClassItem.ranges_cons (mode : Mode) (others : List CharRange) (item : ClassItem)
    (rest : List ClassItem) :
    ClassItem.ranges mode others (item :: rest) =
      item.set mode >>= fun set => ClassItem.ranges mode (set.ranges ++ others) rest := by
  rw [ranges]
  cases item.set mode <;> rfl

/-- and so are the meanings of several parts, each in the mode that the one before has left. -/
theorem Node.cores_cons (mode : Mode) (before : List Core) (part : Node) (rest : List Node) :
    Node.cores mode before (part :: rest) =
      part.core mode >>= fun r => Node.cores r.2 (r.1 :: before) rest := by
  rw [cores]
  cases part.core mode <;> rfl

mutual

/-- Where its parts stand does not matter for the set of an item, -/
theorem ClassItem.sameValue_set (mode : Mode) (item : ClassItem) :
    SameValue (item.unplaced.set mode) (item.set mode) := by
  cases item with
  | nothing s => exact .refl _
  | literal l => exact (mode.sameValue_codePoint l).bind fun _ => .refl _
  | range s first last =>
    exact (mode.sameValue_codePoint first).bind fun _ =>
      (mode.sameValue_codePoint last).bind fun _ => .refl _
  | ascii s negated kind => exact mode.sameValue_negate _ _ _ _
  | property s negated query => exact mode.sameValue_property _ _ _ _
  | shorthand s negated kind => exact mode.sameValue_shorthand _ _ _ _
  | bracketed s negated items =>
    exact (items.sameValue_set mode).bind fun _ => mode.sameValue_negate _ _ _ _
  | union s items => exact (ClassItem.sameValue_ranges mode [] items).bind fun _ => .refl _
  | combined s operation left right =>
    exact (left.sameValue_set mode).bind fun _ => (right.sameValue_set mode).bind fun _ => .refl _

theorem ClassItem.sameValue_ranges (mode : Mode) (others : List CharRange)
    (items : List ClassItem) :
    SameValue (ClassItem.ranges mode others (ClassItem.allUnplaced items))
      (ClassItem.ranges mode others items) := by
  cases items with
  | nil => exact .refl _
  | cons item rest =>
    rw [allUnplaced, ranges_cons, ranges_cons]
    exact (item.sameValue_set mode).bind fun set =>
      ClassItem.sameValue_ranges mode (set.ranges ++ others) rest

end

/-- nor for what a character means by itself, -/
theorem Literal.sameValue_core (mode : Mode) (l : Literal) :
    SameValue (l.unplaced.core mode) (l.core mode) :=
  (mode.sameValue_checkByte l).bind fun _ => .refl _

theorem sameValue_dotCore (mode : Mode) (s t : Span) :
    SameValue (dotCore mode s) (dotCore mode t) :=
  .ite (sameValue_error _ _) (.refl _)

mutual

/-- nor for the meaning of a part. -/
theorem Node.sameValue_core (mode : Mode) (n : Node) :
    SameValue (n.unplaced.core mode) (n.core mode) := by
  cases n with
  | nothing s => exact .refl _
  | flags s change => exact .refl _
  | literal l => exact (l.sameValue_core mode).bind fun _ => .refl _
  | dot s => exact (sameValue_dotCore mode _ _).bind fun _ => .refl _
  | anchor s kind => exact .refl _
  | property s negated query => exact (mode.sameValue_property _ _ _ _).bind fun _ => .refl _
  | shorthand s negated kind => exact (mode.sameValue_shorthand _ _ _ _).bind fun _ => .refl _
  | bracketed s negated items =>
    exact (items.sameValue_set mode).bind fun _ =>
      (mode.sameValue_negate _ _ _ _).bind fun _ => .refl _
  | repetition s body min max greedy => exact (body.sameValue_core mode).bind fun _ => .refl _
  | group s kind body =>
    cases kind with
    | capturing index => exact (body.sameValue_core mode).bind fun _ => .refl _
    | plain change => exact (body.sameValue_core (mode.apply change)).bind fun _ => .refl _
  | choice s branches => exact (Node.sameValue_cores mode [] branches).bind fun _ => .refl _
  | sequence s parts => exact (Node.sameValue_cores mode [] parts).bind fun _ => .refl _

theorem Node.sameValue_cores (mode : Mode) (before : List Core) (parts : List Node) :
    SameValue (Node.cores mode before (Node.allUnplaced parts)) (Node.cores mode before parts) := by
  cases parts with
  | nil => exact .refl _
  | cons part rest =>
    rw [allUnplaced, cores_cons, cores_cons]
    exact (part.sameValue_core mode).bind fun r =>
      Node.sameValue_cores r.2 (r.1 :: before) rest

end

/-! ## Nesting -/

/-- Depth is counted and compared, and the span is told if it is too much. -/
theorem sameValue_checkDepth (depth : Nat) (s t : Span) :
    SameValue (checkDepth depth s) (checkDepth depth t) :=
  .ite (sameValue_error _ _) (.refl _)

/-- Items are checked one after the other, and so are parts. -/
theorem ClassItem.checkAllNesting_cons (depth : Nat) (item : ClassItem) (rest : List ClassItem) :
    ClassItem.checkAllNesting depth (item :: rest) =
      item.checkNesting depth >>= fun _ => ClassItem.checkAllNesting depth rest := by
  rw [checkAllNesting]
  cases item.checkNesting depth <;> rfl

theorem Node.checkAllNesting_cons (depth : Nat) (part : Node) (rest : List Node) :
    Node.checkAllNesting depth (part :: rest) =
      part.checkNesting depth >>= fun _ => Node.checkAllNesting depth rest := by
  rw [checkAllNesting]
  cases part.checkNesting depth <;> rfl

mutual

/-- Nor does it matter for how deep an item is nested. -/
theorem ClassItem.sameValue_checkNesting (depth : Nat) (item : ClassItem) :
    SameValue (item.unplaced.checkNesting depth) (item.checkNesting depth) := by
  cases item with
  | bracketed s negated items =>
    exact (sameValue_checkDepth _ _ _).bind fun _ => items.sameValue_checkNesting (depth + 1)
  | union s items =>
    exact (sameValue_checkDepth _ _ _).bind fun _ =>
      ClassItem.sameValue_checkAllNesting (depth + 1) items
  | combined s operation left right =>
    exact (sameValue_checkDepth _ _ _).bind fun _ =>
      (left.sameValue_checkNesting (depth + 1)).bind fun _ =>
        right.sameValue_checkNesting (depth + 1)
  | _ => exact .refl _

theorem ClassItem.sameValue_checkAllNesting (depth : Nat) (items : List ClassItem) :
    SameValue (ClassItem.checkAllNesting depth (ClassItem.allUnplaced items))
      (ClassItem.checkAllNesting depth items) := by
  cases items with
  | nil => exact .refl _
  | cons item rest =>
    rw [allUnplaced, checkAllNesting_cons, checkAllNesting_cons]
    exact (item.sameValue_checkNesting depth).bind fun _ =>
      ClassItem.sameValue_checkAllNesting depth rest

end

mutual

/-- Where its parts stand does not matter for how deep a part is nested. -/
theorem Node.sameValue_checkNesting (depth : Nat) (n : Node) :
    SameValue (n.unplaced.checkNesting depth) (n.checkNesting depth) := by
  cases n with
  | bracketed s negated items =>
    exact (sameValue_checkDepth _ _ _).bind fun _ => items.sameValue_checkNesting (depth + 1)
  | repetition s body min max greedy =>
    exact (sameValue_checkDepth _ _ _).bind fun _ => body.sameValue_checkNesting (depth + 1)
  | group s kind body =>
    exact (sameValue_checkDepth _ _ _).bind fun _ => body.sameValue_checkNesting (depth + 1)
  | choice s branches =>
    exact (sameValue_checkDepth _ _ _).bind fun _ =>
      Node.sameValue_checkAllNesting (depth + 1) branches
  | sequence s parts =>
    exact (sameValue_checkDepth _ _ _).bind fun _ =>
      Node.sameValue_checkAllNesting (depth + 1) parts
  | _ => exact .refl _

theorem Node.sameValue_checkAllNesting (depth : Nat) (parts : List Node) :
    SameValue (Node.checkAllNesting depth (Node.allUnplaced parts))
      (Node.checkAllNesting depth parts) := by
  cases parts with
  | nil => exact .refl _
  | cons part rest =>
    rw [allUnplaced, checkAllNesting_cons, checkAllNesting_cons]
    exact (part.sameValue_checkNesting depth).bind fun _ =>
      Node.sameValue_checkAllNesting depth rest

end

end Pattern

end Switchboard
