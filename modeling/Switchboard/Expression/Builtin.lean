import Switchboard.Error
import Switchboard.Expression.Coercion
import Switchboard.Json.Path
/-!
# Built-in operators on values

The operators whose operands are all evaluated first. Each is a function of the
operands' values and of the data the expression is evaluated against
(`Builtin.apply`). An operand that is not given counts as null. Arithmetic is
binary64 arithmetic, folded from the left, and its result is narrowed back to a
number of a document.
-/

namespace Switchboard

/-- An operator on values. -/
inductive Builtin where
  | var
  | missing
  | missingSome
  | looseEq
  | looseNe
  | strictEq
  | strictNe
  | not
  | truthy
  | less
  | lessEq
  | greater
  | greaterEq
  | add
  | subtract
  | multiply
  | divide
  | remainder
  | min
  | max
  | cat
  | substr
  | elem
  | merge
  | log
  deriving DecidableEq

namespace Builtin

/-- The name an operator is called by. -/
def name : Builtin → String
  | .var => "var"
  | .missing => "missing"
  | .missingSome => "missing_some"
  | .looseEq => "=="
  | .looseNe => "!="
  | .strictEq => "==="
  | .strictNe => "!=="
  | .not => "!"
  | .truthy => "!!"
  | .less => "<"
  | .lessEq => "<="
  | .greater => ">"
  | .greaterEq => ">="
  | .add => "+"
  | .subtract => "-"
  | .multiply => "*"
  | .divide => "/"
  | .remainder => "%"
  | .min => "min"
  | .max => "max"
  | .cat => "cat"
  | .substr => "substr"
  | .elem => "in"
  | .merge => "merge"
  | .log => "log"

/-- Every operator. -/
def all : List Builtin :=
  [.var, .missing, .missingSome, .looseEq, .looseNe, .strictEq, .strictNe, .not, .truthy,
   .less, .lessEq, .greater, .greaterEq, .add, .subtract, .multiply, .divide, .remainder,
   .min, .max, .cat, .substr, .elem, .merge, .log]

/-- The operator of a name. -/
def ofName? (name : String) : Option Builtin := all.find? fun b => b.name = name

/-- The operand at a place, null when there is none. -/
def operand (args : List Json) (i : Nat) : Json := args[i]?.getD .null

/-! ## Looking into the data -/

/-- What `var` finds, a null counting as nothing. -/
def found? (v : Option Json) : Option Json := v.filter (!·.isNull)

/-- `var`: the part of the data at a path, or the second operand. -/
def lookUp (args : List Json) (data : Json) : Except EvalError Json :=
  let default := operand args 1
  match operand args 0 with
  | .null => .ok ((found? (some data)).getD default)
  | .string path => .ok ((found? (data.lookup? path)).getD default)
  | .number n => .ok ((found? (data.lookup? n.text)).getD default)
  | other => .error (.malformed "var" ("path must be a string or number, got " ++ other.text))

/-- Whether the data has nothing at a key, a null or an empty string counting
as nothing. -/
def isMissing (data key : Json) : Bool :=
  match data.lookup? key.toText with
  | none => true
  | some .null => true
  | some (.string s) => s = ""
  | some _ => false

/-- `missing`: the keys, given as operands or as one array, at which the data has
nothing. -/
def missingKeys (args : List Json) (data : Json) : Json :=
  let keys := match args with
    | .array keys :: _ => keys
    | args => args
  .array (keys.filter (isMissing data))

/-- `missing_some`: nothing if the data has at least so many of the keys, and
otherwise those it has not. -/
def missingUnless (args : List Json) (data : Json) : Except EvalError Json :=
  match (operand args 0).toNumber? with
  | none => .error (.malformed "missing_some" "minimum must be a number")
  | some least =>
    match operand args 1 with
    | .array keys =>
      let missing := keys.filter (isMissing data)
      let present := keys.length - missing.length
      .ok (.array (if (Binary64.ofInt present).ge least then [] else missing))
    | _ => .error (.malformed "missing_some" "keys must be an array")

/-! ## Comparison -/

/-- Whether two operands stand in an order that is accepted. -/
def holds (accept : Ordering → Bool) (a b : Json) : Bool := (a.order b).any accept

/-- The comparison of two operands, or of each neighbouring two of three. -/
def ascending (accept : Ordering → Bool) (args : List Json) : Bool :=
  holds accept (operand args 0) (operand args 1)
    && (args.length < 3 || holds accept (operand args 1) (operand args 2))

/-! ## Arithmetic -/

/-- The operands as numbers. -/
def numbers (operator : String) (args : List Json) : Except EvalError (List Binary64) :=
  args.mapM fun v => match v.toNumber? with
    | some x => .ok x
    | none => .error (.malformed operator ("non-numeric operand " ++ v.text))

/-- The sum from the left. -/
def sum (xs : List Binary64) : Binary64 := xs.foldl Binary64.add (.ofInt 0)

/-- The product from the left. -/
def product (xs : List Binary64) : Binary64 := xs.foldl Binary64.mul (.ofInt 1)

/-- The first number joined with each later one in turn, null when there is
none. -/
def reduceNumbers (join : Binary64 → Binary64 → Binary64) : List Binary64 → Json
  | [] => .null
  | x :: xs => .ofBinary64 (xs.foldl join x)

/-- `-`: the difference of two operands, or the negative of one. -/
def difference : List Binary64 → Except EvalError Json
  | [x] => .ok (.ofBinary64 x.neg)
  | x :: y :: _ => .ok (.ofBinary64 (x.sub y))
  | [] => .error (.malformed "-" "expected one or two operands")

/-- An operator on the first two operands. -/
def ofTwo (operator : String) (join : Binary64 → Binary64 → Binary64) :
    List Binary64 → Except EvalError Json
  | x :: y :: _ => .ok (.ofBinary64 (join x y))
  | _ => .error (.malformed operator "expected two operands")

/-! ## Texts -/

/-- A place in a text of the given length, held within its ends. -/
def clamp (length : Nat) (i : Int) : Nat := Nat.min i.toNat length

/-- The places between which `substr` cuts a text of the given length, from the
operands behind it: a start, which counts from the end when negative, and a
length, which when negative counts from the end as well. -/
def cut (length : Nat) (start : Json) (extent : Option Json) : Nat × Nat :=
  let start := ((start.toNumber?).getD (.ofInt 0)).toInt64
  let first := clamp length (if start < 0 then length + start else start)
  let last := match extent.bind Json.toNumber? with
    | none => length
    | some n =>
      if n.lt (.ofInt 0) then clamp length (length + n.toInt64)
      else clamp length (first + n.toInt64)
  (first, Nat.max last first)

/-- `substr`: the part of a text between two places. -/
def substring (args : List Json) : Json :=
  let cs := (operand args 0).toText.toList
  let (first, last) := cut cs.length (operand args 1) args[2]?
  .string (String.ofList ((cs.take last).drop first))

/-- `in`: whether a text occurs in another, or an array has an item equal to a
value. -/
def isIn (needle : Json) : Json → Bool
  | .string s => Text.occursIn needle.toText.toList s.toList
  | .array items => items.any fun item => item.strictEq needle
  | _ => false

/-- `merge`: the operands as one array, the items of an array operand in its
place. -/
def flatten (args : List Json) : Json :=
  .array (args.flatMap fun v => match v with
    | .array items => items
    | v => [v])

/-! ## The operators -/

/-- **The value of an operator** on its operands' values. -/
def apply (op : Builtin) (args : List Json) (data : Json) : Except EvalError Json :=
  let first := operand args 0
  let second := operand args 1
  match op with
  | .var => lookUp args data
  | .missing => .ok (missingKeys args data)
  | .missingSome => missingUnless args data
  | .looseEq => .ok (.bool (first.looseEq second))
  | .looseNe => .ok (.bool (!first.looseEq second))
  | .strictEq => .ok (.bool (first.strictEq second))
  | .strictNe => .ok (.bool (!first.strictEq second))
  | .not => .ok (.bool (!first.truthy))
  | .truthy => .ok (.bool first.truthy)
  | .less => .ok (.bool (ascending (· == .lt) args))
  | .lessEq => .ok (.bool (ascending (· != .gt) args))
  | .greater => .ok (.bool (holds (· == .gt) first second))
  | .greaterEq => .ok (.bool (holds (· != .lt) first second))
  | .add => do return .ofBinary64 (sum (← numbers op.name args))
  | .subtract => do difference (← numbers op.name args)
  | .multiply => do return .ofBinary64 (product (← numbers op.name args))
  | .divide => do ofTwo op.name .div (← numbers op.name args)
  | .remainder => do ofTwo op.name .rem (← numbers op.name args)
  | .min => do return reduceNumbers .min (← numbers op.name args)
  | .max => do return reduceNumbers .max (← numbers op.name args)
  | .cat => .ok (.string (String.join (args.map Json.toText)))
  | .substr => .ok (substring args)
  | .elem => .ok (.bool (isIn first second))
  | .merge => .ok (flatten args)
  | .log => .ok first

end Builtin

end Switchboard
