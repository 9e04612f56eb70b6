import Switchboard.Json.Basic
/-!
# Paths into a value, and growing a context

A path is a list of segments, written with points between them
(`user.address.city`, `items.0`). A segment names a field of an object or counts
an item of an array (`Json.at?`); the empty path stands for the whole value.

A context is a value that grows by named results (`Json.withResult`); one that
is no object is kept under the name `source`.
-/

namespace Switchboard

namespace Json

/-- The segments of a text, from point to point. -/
def splitPoints : List Char → List (List Char)
  | [] => [[]]
  | c :: cs =>
    if c = '.' then [] :: splitPoints cs
    else match splitPoints cs with
      | [] => [[c]]
      | s :: rest => (c :: s) :: rest

/-- The segments of a path. -/
def segments (path : String) : List String := (splitPoints path.toList).map String.ofList

/-- The count that a segment stands for: digits, behind an optional plus. -/
def index? (segment : String) : Option Nat :=
  let digits := match segment.toList with
    | '+' :: ds => ds
    | ds => ds
  if digits ≠ [] ∧ digits.all Char.isDigit then
    some (digits.foldl (fun n d => n * 10 + (d.toNat - '0'.toNat)) 0)
  else none

/-- The part of a value that one segment leads to. -/
def at? (v : Json) (segment : String) : Option Json :=
  match v with
  | .object fields => fields.lookup segment
  | .array items => (index? segment).bind fun i => items[i]?
  | _ => none

/-- The part of a value that a list of segments leads to. -/
def follow? (v : Json) : List String → Option Json
  | [] => some v
  | segment :: rest => (v.at? segment).bind fun part => follow? part rest

/-- **Lookup.** The part of a value that a path leads to; the empty path leads
to the value itself. -/
def lookup? (v : Json) (path : String) : Option Json :=
  if path = "" then some v else v.follow? (segments path)

/-- The name that keeps a context which is no object. -/
def sourceName : String := "source"

/-- **Growth.** The context with a result under a name, in place of an older one
of that name. -/
def withResult (context : Json) (name : String) (result : Json) : Json :=
  let fields := match context with
    | .object fields => fields
    | other => [(sourceName, other)]
  .object (insertField name result fields)

end Json

end Switchboard
