import Switchboard.Unicode.CategoryTable
import Switchboard.Unicode.Table
/-!
# General categories

Every code point has one of thirty categories, and categories are joined to classes
such as the letters. Each goes by several names.
-/

namespace Switchboard

namespace Unicode

/-- The runs of code points of one category. -/
def categoryRuns : List (CharRange × List Char) := runs categoryTable

/-- The code points of some categories. -/
def categories (codes : List String) : CharSet :=
  let tags := codes.map String.toList
  .ofRanges ((categoryRuns.filter fun (_, tag) => tags.contains tag).map (·.1))

/-- The categories and classes of categories by name. Of those without a code there
are no characters. -/
def categoryNames : List (List String × List String) :=
  [(["cc", "control", "cntrl"], ["Cc"]),
   (["cf", "format"], ["Cf"]),
   (["cn", "unassigned"], ["Cn"]),
   (["co", "privateuse"], ["Co"]),
   (["cs", "surrogate"], []),
   (["ll", "lowercaseletter"], ["Ll"]),
   (["lm", "modifierletter"], ["Lm"]),
   (["lo", "otherletter"], ["Lo"]),
   (["lt", "titlecaseletter"], ["Lt"]),
   (["lu", "uppercaseletter"], ["Lu"]),
   (["mc", "spacingmark"], ["Mc"]),
   (["me", "enclosingmark"], ["Me"]),
   (["mn", "nonspacingmark"], ["Mn"]),
   (["nd", "decimalnumber", "digit"], ["Nd"]),
   (["nl", "letternumber"], ["Nl"]),
   (["no", "othernumber"], ["No"]),
   (["pc", "connectorpunctuation"], ["Pc"]),
   (["pd", "dashpunctuation"], ["Pd"]),
   (["pe", "closepunctuation"], ["Pe"]),
   (["pf", "finalpunctuation"], ["Pf"]),
   (["pi", "initialpunctuation"], ["Pi"]),
   (["po", "otherpunctuation"], ["Po"]),
   (["ps", "openpunctuation"], ["Ps"]),
   (["sc", "currencysymbol"], ["Sc"]),
   (["sk", "modifiersymbol"], ["Sk"]),
   (["sm", "mathsymbol"], ["Sm"]),
   (["so", "othersymbol"], ["So"]),
   (["zl", "lineseparator"], ["Zl"]),
   (["zp", "paragraphseparator"], ["Zp"]),
   (["zs", "spaceseparator"], ["Zs"]),
   (["c", "other"], ["Cc", "Cf", "Cn", "Co"]),
   (["l", "letter"], ["Ll", "Lm", "Lo", "Lt", "Lu"]),
   (["lc", "casedletter"], ["Ll", "Lt", "Lu"]),
   (["m", "mark", "combiningmark"], ["Mc", "Me", "Mn"]),
   (["n", "number"], ["Nd", "Nl", "No"]),
   (["p", "punctuation", "punct"], ["Pc", "Pd", "Pe", "Pf", "Pi", "Po", "Ps"]),
   (["s", "symbol"], ["Sc", "Sk", "Sm", "So"]),
   (["z", "separator"], ["Zl", "Zp", "Zs"])]

/-- The letters of every kind. -/
def letters : CharSet := categories ["Ll", "Lm", "Lo", "Lt", "Lu"]

/-- The decimal digits. -/
def decimalDigits : CharSet := categories ["Nd"]

/-- The characters that stand for numbers. -/
def numbers : CharSet := categories ["Nd", "Nl", "No"]

end Unicode

end Switchboard
