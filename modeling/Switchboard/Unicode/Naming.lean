import Switchboard.Unicode.Age
import Switchboard.Unicode.Segmentation
/-!
# Classes of characters by name

A class goes by the name of a binary property, of a category or of a script, or by a
property and its value. Names are compared loosely: case, spaces, underscores, hyphens
and a leading "is" do not matter.
-/

namespace Switchboard

namespace Unicode

/-- What is unknown about a class that is asked for. -/
inductive NameError where
  | property
  | value

/-- Whether a name starts with "is", in small or capital letters. -/
def startsWithIs : List Char → Bool
  | a :: b :: _ => (a = 'i' || a = 'I') && (b = 's' || b = 'S')
  | _ => false

/-- The form in which names are compared. What is left of "isc" would name another
class, so it is kept whole. -/
def looseName (name : List Char) : String :=
  let short := if startsWithIs name then name.drop 2 else name
  let kept := (short.filter fun c =>
    c.toNat < 0x80 && c ≠ ' ' && c ≠ '_' && c ≠ '-').map Char.toLower
  if startsWithIs name ∧ kept = ['c'] then "isc" else String.ofList kept

/-- The names of properties that are not binary, or that nobody can ask for. -/
def otherPropertyNames : List String :=
  ["age", "bc", "bidiclass", "bidimirroringglyph", "bidipairedbracket", "bidipairedbrackettype",
   "blk", "block", "bmg", "bpb", "bpt", "canonicalcombiningclass", "casefolding", "ccc", "ce",
   "cf", "changeswhennfkccasefolded", "cjkaccountingnumeric", "cjkcompatibilityvariant",
   "cjkiicore", "cjkirggsource", "cjkirghsource", "cjkirgjsource", "cjkirgkpsource",
   "cjkirgksource", "cjkirgmsource", "cjkirgssource", "cjkirgtsource", "cjkirguksource",
   "cjkirgusource", "cjkirgvsource", "cjkothernumeric", "cjkprimarynumeric", "cjkrsunicode",
   "compex", "compositionexclusion", "cwkcf", "decompositionmapping", "decompositiontype", "dm",
   "dt", "ea", "eastasianwidth", "equideo", "equivalentunifiedideograph", "expandsonnfc",
   "expandsonnfd", "expandsonnfkc", "expandsonnfkd", "fcnfkc", "fcnfkcclosure",
   "fullcompositionexclusion", "gc", "gcb", "generalcategory", "graphemeclusterbreak",
   "hangulsyllabletype", "hst", "incb", "indicconjunctbreak", "indicpositionalcategory",
   "indicsyllabiccategory", "inpc", "insc", "isc", "jamoshortname", "jg", "joininggroup",
   "joiningtype", "jsn", "jt", "kaccountingnumeric", "kcompatibilityvariant", "kehcat",
   "kehdesc", "kehhg", "kehifao", "kehjsesh", "kehnomirror", "kehnorotate", "kiicore",
   "kirggsource", "kirghsource", "kirgjsource", "kirgkpsource", "kirgksource", "kirgmsource",
   "kirgssource", "kirgtsource", "kirguksource", "kirgusource", "kirgvsource", "kothernumeric",
   "kprimarynumeric", "krsunicode", "lb", "lc", "linebreak", "lowercasemapping", "na", "na1",
   "name", "namealias", "nfcqc", "nfcquickcheck", "nfdqc", "nfdquickcheck", "nfkccasefold",
   "nfkccf", "nfkcqc", "nfkcquickcheck", "nfkcscf", "nfkcsimplecasefold", "nfkdqc",
   "nfkdquickcheck", "nt", "numerictype", "numericvalue", "nv", "ocomment", "sb", "sc", "scf",
   "script", "scriptextensions", "scx", "sentencebreak", "sfc", "simplecasefolding",
   "simplelowercasemapping", "simpletitlecasemapping", "simpleuppercasemapping", "slc", "stc",
   "suc", "tc", "titlecasemapping", "uc", "unicode1name", "unicoderadicalstroke",
   "uppercasemapping", "urs", "verticalorientation", "vo", "wb", "wordbreak", "xonfc", "xonfd",
   "xonfkc", "xonfkd"]

/-- The names of categories that are also names of other properties, and mean the
categories. -/
def categoryFirst : List String := ["cf", "sc", "lc"]

/-- The class of a category, or of code points that have one. For the surrogates there
is none. -/
def categoryNamed? (name : String) : Option (Except NameError CharSet) :=
  if name = "any" then some (.ok CharSet.empty.complement)
  else if name = "ascii" then some (.ok (.ofRange 0 0x7f))
  else if name = "assigned" then some (.ok (categories ["Cn"]).complement)
  else (categoryNames.find? fun (names, _) => names.contains name).map fun (_, codes) =>
    if codes.isEmpty then .error .value else .ok (categories codes)

/-- The class of a script; for the scripts of no characters there is none. -/
def scriptNamed? (name : String) (characters : String → CharSet) :
    Option (Except NameError CharSet) :=
  (scriptCode? name).map fun code =>
    if code = "Zzzz" ∨ code = "Hrkt" then .error .value else .ok (characters code)

/-- The class of a name among others. -/
def named? (classes : List (List String × (Unit → CharSet))) (name : String) : Option CharSet :=
  (classes.find? fun (names, _) => names.contains name).map fun (_, set) => set ()

/-- Whether a property goes by a name. -/
def isPropertyName (name : String) : Bool :=
  otherPropertyNames.contains name || properties.any fun (names, _) => names.contains name

/-- **A class by its name.** A binary property, a category or a script. -/
def classNamed (written : List Char) : Except NameError CharSet :=
  let name := looseName written
  if !categoryFirst.contains name ∧ isPropertyName name then
    match named? properties name with
    | some set => .ok set
    | none => .error .property
  else (categoryNamed? name <|> scriptNamed? name script).getD (.error .property)

/-- The class of a value, or that there is none. -/
def valueOr (set : Option CharSet) : Except NameError CharSet :=
  match set with
  | some set => .ok set
  | none => .error .value

/-- **A class by a property and its value.** The properties are the category, the script,
the scripts that use a character, the age, and the classes of segmentation. -/
def classValued (writtenProperty writtenValue : List Char) : Except NameError CharSet :=
  let property := looseName writtenProperty
  let value := looseName writtenValue
  if property = "gc" ∨ property = "generalcategory" then
    (categoryNamed? value).getD (.error .value)
  else if property = "sc" ∨ property = "script" then
    (scriptNamed? value script).getD (.error .value)
  else if property = "scx" ∨ property = "scriptextensions" then
    (scriptNamed? value scriptUse).getD (.error .value)
  else if property = "age" then valueOr (age? value)
  else if property = "gcb" ∨ property = "graphemeclusterbreak" then
    valueOr (named? graphemeBreaks value)
  else if property = "wb" ∨ property = "wordbreak" then valueOr (named? wordBreaks value)
  else if property = "sb" ∨ property = "sentencebreak" then valueOr (named? sentenceBreaks value)
  else if isPropertyName property then .error .value
  else .error .property

end Unicode

end Switchboard
