import Switchboard.Json.Record
import Switchboard.Operation.Basic
/-!
# The catalog

A machine-readable description of the operations of a registry: one method for
each, in their order (`Catalog.describe`). A method's tags carry a label as name
and its category as summary; the schema of a parameter gives its type and, if it
is restricted, the texts it may be.

The catalog is written as a value (`Catalog.toJson`) and read from text
(`Catalog.ofText`); descriptions, tags and hints that are empty are left out.
-/

namespace Switchboard

/-! ## Structure -/

/-- A published tag: its label, and its category as summary. -/
structure CatalogTag where
  name : String
  summary : String
  deriving DecidableEq

/-- A published parameter. -/
structure CatalogParam where
  name : String
  description : String := ""
  required : Bool
  schema : Json
  widget : Option String := none

/-- What a published method results in. -/
structure CatalogResult where
  name : String
  schema : Json

/-- A published operation. -/
structure CatalogMethod where
  name : String
  description : String := ""
  tags : List CatalogTag := []
  params : List CatalogParam
  result : CatalogResult

/-- A whole catalog, with the version of the form it is written in. -/
structure Catalog where
  form : String
  info : CatalogInfo
  methods : List CatalogMethod

namespace Catalog

/-! ## Description -/

/-- The version of the form that catalogs are published in. -/
def currentForm : String := "1.2.6"

/-- The schema of a parameter. -/
def schemaOf (p : Parameter) : Json :=
  let type := ("type", Json.string p.type.schemaName)
  if p.allowed.isEmpty then .object [type]
  else .object [("enum", .array (p.allowed.map .string)), type]

/-- The published form of a parameter. -/
def describeParameter (p : Parameter) : CatalogParam where
  name := p.name
  description := p.documentation
  required := p.required
  schema := schemaOf p
  widget := p.uiHint

/-- The published form of an operation. -/
def describeOperation (op : Operation) : CatalogMethod where
  name := op.name
  description := op.documentation
  tags := op.tags.map fun t => ⟨t.label, t.category⟩
  params := op.parameters.map describeParameter
  result := ⟨"result", .object []⟩

/-- The catalog of some operations. -/
def describe (info : CatalogInfo) (operations : List Operation) : Catalog :=
  ⟨currentForm, info, operations.map describeOperation⟩

end Catalog

/-! ## Writing -/

/-- A field that is left out when its text is empty. -/
def optionalText (name text : String) : List (String × Json) :=
  if text = "" then [] else [(name, .string text)]

/-- The value that publishes a tag. -/
def CatalogTag.toJson (t : CatalogTag) : Json :=
  .ofFields [("name", .string t.name), ("summary", .string t.summary)]

/-- The value that publishes a parameter. -/
def CatalogParam.toJson (p : CatalogParam) : Json :=
  .ofFields ([("name", .string p.name)] ++ optionalText "description" p.description
    ++ [("required", .bool p.required), ("schema", p.schema)]
    ++ match p.widget with
      | some w => [("ui", .object [("widget", .string w)])]
      | none => [])

/-- The value that publishes a method. -/
def CatalogMethod.toJson (m : CatalogMethod) : Json :=
  .ofFields ([("name", .string m.name)] ++ optionalText "description" m.description
    ++ (if m.tags.isEmpty then [] else [("tags", .array (m.tags.map CatalogTag.toJson))])
    ++ [("params", .array (m.params.map CatalogParam.toJson)),
        ("result", .ofFields [("name", .string m.result.name), ("schema", m.result.schema)])])

/-- The value that publishes a catalog. -/
def Catalog.toJson (c : Catalog) : Json :=
  .ofFields [("openrpc", .string c.form),
    ("info", .ofFields [("title", .string c.info.title), ("version", .string c.info.version)]),
    ("methods", .array (c.methods.map CatalogMethod.toJson))]

/-! ## Reading -/

namespace Catalog

open Json

/-- Reads a tag. -/
def readTag : Reader CatalogTag :=
  readRecord "struct CatalogTag"
    [fieldReader "name" true aString (fun x t => { t with name := x }) [],
     fieldReader "summary" true aString (fun x t => { t with summary := x }) []]
    ⟨"", ""⟩

/-- Reads the hint for a form, which names a widget. -/
def readWidget : Reader String :=
  readRecord "struct UiHint" [fieldReader "widget" true aString (fun x _ => x) []] ""

/-- Reads a parameter. -/
def readParam : Reader CatalogParam :=
  readRecord "struct CatalogParam"
    [fieldReader "name" true aString (fun x p => { p with name := x }) [],
     fieldReader "description" false aString (fun x p => { p with description := x }) [],
     fieldReader "required" true aBoolean (fun x p => { p with required := x }) [],
     fieldReader "schema" true anyValue (fun x p => { p with schema := x }) [],
     fieldReader "ui" false (optional readWidget) (fun x p => { p with widget := x }) []]
    ⟨"", "", false, .null, none⟩

/-- Reads a result. -/
def readResult : Reader CatalogResult :=
  readRecord "struct CatalogResult"
    [fieldReader "name" true aString (fun x r => { r with name := x }) [],
     fieldReader "schema" true anyValue (fun x r => { r with schema := x }) []]
    ⟨"", .null⟩

/-- Reads a method. -/
def readMethod : Reader CatalogMethod :=
  readRecord "struct CatalogMethod"
    [fieldReader "name" true aString (fun x m => { m with name := x }) [],
     fieldReader "description" false aString (fun x m => { m with description := x }) [],
     fieldReader "tags" false (listOf readTag) (fun x m => { m with tags := x }) [],
     fieldReader "params" true (listOf readParam) (fun x m => { m with params := x }) [],
     fieldReader "result" true readResult (fun x m => { m with result := x }) []]
    ⟨"", "", [], [], ⟨"", .null⟩⟩

/-- Reads the title and version. -/
def readInfo : Reader CatalogInfo :=
  readRecord "struct CatalogInfo"
    [fieldReader "title" true aString (fun x i => { i with title := x }) [],
     fieldReader "version" true aString (fun x i => { i with version := x }) []]
    ⟨"", ""⟩

/-- Reads a catalog. -/
def read : Reader Catalog :=
  readRecord "struct CatalogDocument"
    [fieldReader "openrpc" true aString (fun x c => { c with form := x }) [],
     fieldReader "info" true readInfo (fun x c => { c with info := x }) [],
     fieldReader "methods" true (listOf readMethod) (fun x c => { c with methods := x }) []]
    ⟨"", ⟨"", ""⟩, []⟩

/-- The catalog that a whole text holds, or why it holds none. -/
def ofText (text : String) : Except String Catalog := readDocument read text

end Catalog

end Switchboard
