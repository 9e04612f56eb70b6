import Switchboard.Unicode.AgeTable
import Switchboard.Unicode.Table
/-!
# Ages

Each version of the standard gave a meaning to more code points. The class of a version
holds all the code points that have had a meaning since then or before.
-/

namespace Switchboard

namespace Unicode

/-- The versions of the standard that added code points, the oldest first. -/
def versions : List String :=
  ["1.1", "2.0", "2.1", "3.0", "3.1", "3.2", "4.0", "4.1", "5.0", "5.1", "5.2", "6.0", "6.1",
   "6.2", "6.3", "7.0", "8.0", "9.0", "10.0", "11.0", "12.0", "12.1", "13.0", "14.0", "15.0",
   "15.1", "16.0"]

/-- The tag that code points of a version have in the table. -/
def versionTag (version : String) : List Char := 'V' :: version.toList

/-- The names of a version: its number, and a letter with the digits of the number. -/
def versionNames (version : String) : List String :=
  [version, String.ofList ('v' :: version.toList.filter (· ≠ '.'))]

/-- The versions up to the one of a name. -/
def versionsUpTo (name : String) : List String → List String
  | [] => []
  | v :: rest => if (versionNames v).contains name then [v] else v :: versionsUpTo name rest

/-- The runs of code points of one age. -/
def ageRuns : List (CharRange × List Char) := runs ageTable

/-- The code points that have a meaning in the version of a name. -/
def age? (name : String) : Option CharSet :=
  if versions.any fun v => (versionNames v).contains name then
    let tags := (versionsUpTo name versions).map versionTag
    some (.ofRanges ((ageRuns.filter fun (_, tag) => tags.contains tag).map (·.1)))
  else none

end Unicode

end Switchboard
