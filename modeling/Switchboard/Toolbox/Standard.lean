import Switchboard.Registry.Basic
import Switchboard.Toolbox.Encoding
import Switchboard.Toolbox.Formatter
import Switchboard.Toolbox.Generator
import Switchboard.Toolbox.Security
import Switchboard.Toolbox.Text
/-!
# The standard operations

What every server offers from the start: the built-in operations, group by
group, and behind them the one that publishes the catalog.
-/

namespace Switchboard

namespace Toolbox

/-- The built-in operations. -/
def operations : List Operation :=
  encodingOperations ++ textOperations ++ formatterOperations ++ generatorOperations
    ++ securityOperations

/-- The operation that publishes the catalog. -/
def catalogOperation (info : CatalogInfo) : Operation where
  name := "openrpc"
  documentation := "Describes every operation this server can dispatch."
  handler := .publish info

/-- The registry that a server starts with. -/
def registry (info : CatalogInfo) : Registry :=
  .ofOperations (operations ++ [catalogOperation info])

end Toolbox

end Switchboard
