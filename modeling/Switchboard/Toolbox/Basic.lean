import Switchboard.Operation.Basic
/-!
# Making built-in operations

Built-in operations are code that finishes at once (`Operation.immediate`). Each
belongs to a menu group and shares a name prefix with the rest of its group.
-/

namespace Switchboard

namespace Toolbox

/-- The hint for a form field of several lines. -/
def textarea : String := "textarea"

/-- A required text parameter. -/
def requiredText (name documentation : String) : Parameter where
  name := name
  required := true
  documentation := documentation

/-- A required text parameter of several lines. -/
def requiredLines (name documentation : String) : Parameter where
  name := name
  required := true
  documentation := documentation
  uiHint := some textarea

/-- A handler that finishes at once. -/
def immediate (f : Arguments → Except CallError Json) : Handler :=
  .native fun args => .done (f args)

end Toolbox

end Switchboard
