import Switchboard.Json.Path
import Switchboard.Json.Reader
import Switchboard.Text.Base64
import Switchboard.Toolbox.Basic
/-!
# Security operations

An operation that shows what a web token says. The token's first two segments
are JSON objects in base64; the rest, its signature, is not looked at. A token
that cannot be read gives a result that says why, together with what a page
should show for it.
-/

namespace Switchboard

namespace Toolbox

/-- The object in a segment of a token, or why there is none. -/
def segmentObject (name segment : String) : Except String Json :=
  match Base64.decode .urlSafe false (Text.bytes segment) with
  | .error e => .error ("invalid " ++ name ++ " encoding: " ++ e.message)
  | .ok bs =>
    match Json.parseSource (Json.Source.ofBytes bs) with
    | .error reason => .error ("invalid " ++ name ++ " JSON: " ++ reason)
    | .ok v => if v.isObject then .ok v else .error (name ++ " is not a JSON object")

/-- The header and the payload of a token, or why it cannot be read. -/
def readToken (token : String) : Except String (Json × Json) :=
  match Json.segments (Text.trim token) with
  | header :: payload :: _ => do
    return (← segmentObject "header" header, ← segmentObject "payload" payload)
  | _ => .error "token has no payload segment"

/-! ## What to show -/

/-- An element of a page. -/
def element (kind className : String) (children : List Json) : Json :=
  .ofFields [("type", .string kind), ("props", .ofFields [("className", .string className)]),
    ("children", .array children)]

/-- A part of a page that shows a field of the data under a title. -/
def pageSection (className title field : String) : Json :=
  element "div" className
    [.ofFields [("type", .string "h2"), ("children", .array [.string title])],
     .ofFields [("$eval", .string field)]]

/-- What shows a token that was read. -/
def tokenPage : Json :=
  element "div" "jwt-read-result"
    [pageSection "jwt-read-result-header" "Header" "header",
     pageSection "jwt-read-result-payload" "Payload" "payload"]

/-- What shows why a token cannot be read. -/
def tokenErrorPage : Json :=
  element "div" "jwt-read-result"
    [.ofFields [("type", .string "alert"),
      ("props", .ofFields [("type", .string "error"),
        ("message", .ofFields [("$eval", .string "error")])])]]

/-- The result of reading a token. -/
def tokenResult (token : String) : Json :=
  let result (page error header payload : Json) : Json :=
    .ofFields [("ui", page),
      ("data", .ofFields [("error", error), ("header", header), ("payload", payload)])]
  match readToken token with
  | .ok (header, payload) => result tokenPage .null header payload
  | .error reason => result tokenErrorPage (.string reason) .null .null

/-- Reads the first argument, a token. -/
def readJwt (args : Arguments) : Except CallError Json := do
  return tokenResult (← args.requireString 0)

/-- The security operations. -/
def securityOperations : List Operation :=
  [{ name := "jwt-read"
     documentation := "Reads a JWT in clear text."
     tags := Tag.menu "Security" "jwt-"
     parameters := [requiredText "value" "Token to read."]
     handler := immediate readJwt }]

end Toolbox

end Switchboard
