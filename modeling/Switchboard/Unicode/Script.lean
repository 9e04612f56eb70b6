import Switchboard.Unicode.ScriptTable
import Switchboard.Unicode.Table
/-!
# Scripts

Every code point belongs to one script, which may be a common one; some are used in
several scripts.
-/

namespace Switchboard

namespace Unicode

/-- The runs of code points of one script. -/
def scriptRuns : List (CharRange × List Char) := runs scriptTable

/-- The code points of the script with a code. -/
def script (code : String) : CharSet :=
  .ofRanges ((scriptRuns.filter fun (_, tag) => tag = code.toList).map (·.1))

/-- The codes of four letters that make up a tag. -/
def codesOf : List Char → List (List Char)
  | a :: b :: c :: d :: rest => [a, b, c, d] :: codesOf rest
  | _ => []

/-- The runs that are used in other scripts than their own, with those scripts. -/
def scriptExtensionRuns : List (CharRange × List (List Char)) :=
  (spacedRuns 0 (words scriptExtensionTable)).map fun (r, tag) => (r, codesOf tag)

/-- The code points that are used in the script with a code. -/
def scriptUse (code : String) : CharSet :=
  let others := CharSet.ofRanges (scriptExtensionRuns.map (·.1))
  let here := CharSet.ofRanges
    ((scriptExtensionRuns.filter fun (_, codes) => codes.contains code.toList).map (·.1))
  script code \ others ∪ here

/-- The code of the script of a name. -/
def scriptCode? (name : String) : Option String :=
  (scriptNames.find? fun (_, names) => names.contains name).map (·.1)

end Unicode

end Switchboard
