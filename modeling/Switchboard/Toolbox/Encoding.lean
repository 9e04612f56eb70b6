import Switchboard.Text.Base64
import Switchboard.Text.Hex
import Switchboard.Toolbox.Basic
/-!
# Encoding operations

Operations that write a text's bytes in base64 or hexadecimal, and read them
back. Base64 comes in modes: for mail, with lines of 76 symbols; for addresses,
with another alphabet; and either with or without padding.
-/

namespace Switchboard

namespace Toolbox

/-- The menu group. -/
def encodingGroup : String := "Encoding"

/-- The modes of writing base64. -/
inductive EncodeMode where
  | standard
  | url
  | urlUnpadded
  | mime
  | mimeUnpadded

/-- The modes of writing base64, by name. -/
def EncodeMode.named : List (String × EncodeMode) :=
  [("DEFAULT", .standard), ("URL", .url), ("URL_NO_PADDING", .urlUnpadded), ("MIME", .mime),
   ("MIME_NO_PADDING", .mimeUnpadded)]

/-- The modes of reading base64. -/
inductive DecodeMode where
  | standard
  | url
  | mime

/-- The modes of reading base64, by name. -/
def DecodeMode.named : List (String × DecodeMode) :=
  [("DEFAULT", .standard), ("URL", .url), ("MIME", .mime)]

/-- The mode that the first argument names, `DEFAULT` when it is absent. -/
def modeOf {α : Type} (named : List (String × α)) (args : Arguments) : Except CallError α := do
  let name := (← args.string? 0).getD "DEFAULT"
  match named.lookup name with
  | some mode => return mode
  | none => throw (args.invalid 0 ("unknown mode `" ++ name ++ "`"))

/-- Base64 of a text. -/
def encodeText (mode : EncodeMode) (text : String) : String :=
  let bs := Text.bytes text
  String.ofList (match mode with
    | .standard => Base64.encode .standard true bs
    | .url => Base64.encode .urlSafe true bs
    | .urlUnpadded => Base64.encode .urlSafe false bs
    | .mime => Base64.wrap (Base64.encode .standard true bs)
    | .mimeUnpadded => Base64.wrap (Base64.encode .standard false bs))

/-- The blanks that mail may put between symbols. -/
def isMailBlank (b : UInt8) : Bool := b == 9 || b == 10 || b == 12 || b == 13 || b == 32

/-- The bytes that base64 text stands for. -/
def decodeBytes (mode : DecodeMode) (text : String) : Except Base64.DecodeError (List UInt8) :=
  let bs := Text.bytes text
  match mode with
  | .standard => Base64.decode .standard true bs
  | .url => Base64.decode .urlSafe false bs
  | .mime => Base64.decode .standard false (bs.filter (!isMailBlank ·))

/-- The text of bytes that were read for the argument at a position. -/
def textOf (args : Arguments) (i : Nat) (bs : List UInt8) : Except CallError Json :=
  match Text.ofBytes? bs with
  | some s => .ok (.string s)
  | none => .error (args.invalid i "decoded bytes are not valid UTF-8")

/-- Writes the second argument in base64. -/
def encodeBase64 (args : Arguments) : Except CallError Json := do
  let value ← args.requireString 1
  return .string (encodeText (← modeOf EncodeMode.named args) value)

/-- Reads the second argument as base64. -/
def decodeBase64 (args : Arguments) : Except CallError Json := do
  let value ← args.requireString 1
  match decodeBytes (← modeOf DecodeMode.named args) value with
  | .ok bs => textOf args 1 bs
  | .error e => throw (args.invalid 1 e.message)

/-- Writes the first argument in hexadecimal. -/
def encodeHex (args : Arguments) : Except CallError Json := do
  return .string (String.ofList (Hex.encode (Text.bytes (← args.requireString 0))))

/-- Reads the first argument, without the blanks around it, as hexadecimal. -/
def decodeHex (args : Arguments) : Except CallError Json := do
  match Hex.decode (Text.bytes (Text.trim (← args.requireString 0))) with
  | .ok bs => textOf args 0 bs
  | .error e => throw (args.invalid 0 e.message)

/-- The parameter that names a mode. -/
def modeParameter (documentation : String) (names : List String) : Parameter where
  name := "mode"
  documentation := documentation
  allowed := names

/-- The encoding operations. -/
def encodingOperations : List Operation :=
  [{ name := "base64-encode"
     documentation := "Encodes a string in base64."
     tags := Tag.menu encodingGroup "base64-"
     parameters :=
       [modeParameter "Base64 mode (DEFAULT, URL, URL_NO_PADDING, MIME, MIME_NO_PADDING)."
          (EncodeMode.named.map (·.1)),
        requiredText "value" "Value to encode."]
     handler := immediate encodeBase64 },
   { name := "base64-decode"
     documentation := "Decodes a base64 string."
     tags := Tag.menu encodingGroup "base64-"
     parameters :=
       [modeParameter "Base64 mode (DEFAULT, URL, MIME)." (DecodeMode.named.map (·.1)),
        requiredText "value" "Value to decode."]
     handler := immediate decodeBase64 },
   { name := "hex-encode"
     documentation := "Encodes a string in hexadecimal."
     tags := Tag.menu encodingGroup "hex-"
     parameters := [requiredText "value" "Value to encode."]
     handler := immediate encodeHex },
   { name := "hex-decode"
     documentation := "Decodes a hexadecimal string."
     tags := Tag.menu encodingGroup "hex-"
     parameters := [requiredText "value" "Value to decode."]
     handler := immediate decodeHex }]

end Toolbox

end Switchboard
