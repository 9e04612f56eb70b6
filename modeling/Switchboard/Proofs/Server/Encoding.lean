import Switchboard.Proofs.Operation.Binding
import Switchboard.Proofs.Toolbox.Calls
import Switchboard.Proofs.Toolbox.Codecs
/-!
# Encoding and decoding on a server

What calls of the encoding operations come to, at every moment of a server's life. A text that is
encoded is decoded again, in every mode that goes with the one it was encoded in
(`roundTripLaws`). The other way round, a text that can be decoded is the encoded form of the
result, but for what its mode is lenient about, and any other text is refused for what it is
(`decodingLaws`).
-/

namespace Switchboard

namespace Toolbox

open Json (given)
open Text (bytes)

variable {text t x : String} {mode : Option String}
variable {payload : Json}

/-! ## Arguments -/

/-- The payload gives a text to be encoded or decoded, and a mode if there is one, by name or by
position. -/
inductive GivesModeAndText (mode : Option String) (text : String) : Json → Prop where
  | byName {fields : Json.Fields} (hmode : given fields "mode" = .ofString? mode)
      (hvalue : given fields "value" = .string text) : GivesModeAndText mode text (.object fields)
  | byPosition : GivesModeAndText mode text (.array [.ofString? mode, .string text])

/-- The payload gives just a text. -/
inductive GivesText (text : String) : Json → Prop where
  | byName {fields : Json.Fields} (hvalue : given fields "value" = .string text) :
      GivesText text (.object fields)
  | byPosition : GivesText text (.array [.string text])

/-- What a base64 operation gets to see of such a payload. -/
def base64Arguments (operation : String) (mode : Option String) (text : String) : Arguments :=
  ⟨operation, ["mode", "value"], [.ofString? mode, .string text]⟩

/-- The parameters of a base64 operation, whose modes go by these names. -/
def base64Parameters (documentation : String) (names : List String) (value : String) :
    List Parameter :=
  [modeParameter documentation names, requiredText "value" value]

/-- What a hexadecimal operation gets to see. -/
def hexArguments (operation text : String) : Arguments := ⟨operation, ["value"], [.string text]⟩

theorem bind_base64 (h : GivesModeAndText mode text payload) (operation : String)
    (documentation : String) (names : List String) (value : String) :
    Arguments.bind operation (base64Parameters documentation names value) payload =
      .ok (base64Arguments operation mode text) := by
  cases h with
  | byName hmode hvalue =>
    -- The values as they were given, by names that differ, and none missing that is required.
    rw [Arguments.bind_object_of_given]
    · change Except.ok (Arguments.mk operation ["mode", "value"] [given _ "mode", given _ "value"])
        = _
      rw [hmode, hvalue]
      rfl
    · change ["mode", "value"].Nodup
      decide
    · rw [Arguments.missing?, List.find?_eq_none]
      intro p hp
      simp only [base64Parameters, List.mem_cons, List.not_mem_nil, or_false] at hp
      rcases hp with rfl | rfl
      · exact Bool.false_ne_true
      · change ¬(given _ "value").isNull = true
        rw [hvalue]
        exact Bool.false_ne_true
  | byPosition => rfl

theorem GivesText.givesTexts (h : GivesText text payload) :
    Arguments.GivesTexts ["value"] [text] payload := by
  cases h with
  | byName hvalue => exact .byName (congrArg (fun v => [v]) hvalue)
  | byPosition => exact .byPosition rfl

/-! ## The code of the operations -/

theorem modeOf_of_known {α : Type} {named : List (String × α)} {m : α}
    (h : named.lookup (mode.getD "DEFAULT") = some m) (operation text : String) :
    modeOf named (base64Arguments operation mode text) = .ok m := by
  have hname : (base64Arguments operation mode text).string? 0 = .ok mode := by
    cases mode <;> rfl
  rw [modeOf, hname]
  dsimp only [bind, Except.bind]
  rw [h]
  rfl

/-- A mode that there is not is refused. -/
theorem modeOf_of_unknown {α : Type} {named : List (String × α)}
    (h : named.lookup (mode.getD "DEFAULT") = none) (operation text : String) :
    modeOf named (base64Arguments operation mode text) =
      .error (.invalidParameter operation "mode"
        ("unknown mode `" ++ mode.getD "DEFAULT" ++ "`")) := by
  have hname : (base64Arguments operation mode text).string? 0 = .ok mode := by
    cases mode <;> rfl
  rw [modeOf, hname]
  dsimp only [bind, Except.bind]
  rw [h]
  rfl

theorem requireString_base64 (operation : String) (mode : Option String) (text : String) :
    (base64Arguments operation mode text).requireString 1 = .ok text := by
  cases mode <;> rfl

theorem encodeBase64_of_known {m : EncodeMode}
    (h : EncodeMode.named.lookup (mode.getD "DEFAULT") = some m) (operation text : String) :
    encodeBase64 (base64Arguments operation mode text) = .ok (.string (encodeText m text)) := by
  rw [encodeBase64, requireString_base64]
  dsimp only [bind, Except.bind]
  rw [modeOf_of_known h]
  rfl

theorem encodeBase64_of_unknown (h : EncodeMode.named.lookup (mode.getD "DEFAULT") = none)
    (operation text : String) :
    encodeBase64 (base64Arguments operation mode text) =
      .error (.invalidParameter operation "mode"
        ("unknown mode `" ++ mode.getD "DEFAULT" ++ "`")) := by
  rw [encodeBase64, requireString_base64]
  dsimp only [bind, Except.bind]
  rw [modeOf_of_unknown h]

theorem decodeBase64_of_unknown (h : DecodeMode.named.lookup (mode.getD "DEFAULT") = none)
    (operation text : String) :
    decodeBase64 (base64Arguments operation mode text) =
      .error (.invalidParameter operation "mode"
        ("unknown mode `" ++ mode.getD "DEFAULT" ++ "`")) := by
  rw [decodeBase64, requireString_base64]
  dsimp only [bind, Except.bind]
  rw [modeOf_of_unknown h]

theorem textOf_bytes (args : Arguments) (i : Nat) (t : String) :
    textOf args i (bytes t) = .ok (.string t) := by
  rw [textOf, Text.ofBytes?_bytes]

/-- Bytes are those of a text, or they are refused. -/
theorem textOf_cases (args : Arguments) (i : Nat) (bs : List UInt8) :
    (∃ t, bs = bytes t) ∨ ∃ reason, textOf args i bs = .error (args.invalid i reason) := by
  rw [textOf]
  cases ht : Text.ofBytes? bs with
  | none => exact .inr ⟨_, rfl⟩
  | some t => exact .inl ⟨t, Text.ofBytes?_eq_some_iff.1 ht⟩

theorem decodeBase64_of_bytes {m : DecodeMode}
    (h : DecodeMode.named.lookup (mode.getD "DEFAULT") = some m)
    (hbytes : decodeBytes m x = .ok (bytes t)) (operation : String) :
    decodeBase64 (base64Arguments operation mode x) = .ok (.string t) := by
  rw [decodeBase64, requireString_base64]
  dsimp only [bind, Except.bind]
  rw [modeOf_of_known h]
  dsimp only
  rw [hbytes]
  exact textOf_bytes _ _ t

/-- What cannot be decoded is refused for the value. -/
theorem decodeBase64_cases {m : DecodeMode}
    (h : DecodeMode.named.lookup (mode.getD "DEFAULT") = some m) (operation x : String) :
    (∃ t, decodeBytes m x = .ok (bytes t)) ∨ ∃ reason,
      decodeBase64 (base64Arguments operation mode x) =
        .error (.invalidParameter operation "value" reason) := by
  rw [decodeBase64, requireString_base64]
  dsimp only [bind, Except.bind]
  rw [modeOf_of_known h]
  dsimp only
  cases hbytes : decodeBytes m x with
  | error e => exact .inr ⟨_, rfl⟩
  | ok bs =>
    obtain ⟨t, rfl⟩ | ⟨reason, hrefusal⟩ :=
      textOf_cases (base64Arguments operation mode x) 1 bs
    · exact .inl ⟨t, rfl⟩
    · exact .inr ⟨reason, hrefusal⟩

theorem decodeHex_of_bytes (h : Hex.decode (bytes (Text.trim x)) = .ok (bytes t))
    (operation : String) : decodeHex (hexArguments operation x) = .ok (.string t) := by
  have hvalue : (hexArguments operation x).requireString 0 = .ok x := rfl
  rw [decodeHex, hvalue]
  dsimp only [bind, Except.bind]
  rw [h]
  exact textOf_bytes _ _ t

theorem decodeHex_cases (operation x : String) :
    (∃ t, Hex.decode (bytes (Text.trim x)) = .ok (bytes t)) ∨ ∃ reason,
      decodeHex (hexArguments operation x) =
        .error (.invalidParameter operation "value" reason) := by
  have hvalue : (hexArguments operation x).requireString 0 = .ok x := rfl
  rw [decodeHex, hvalue]
  dsimp only [bind, Except.bind]
  cases hbytes : Hex.decode (bytes (Text.trim x)) with
  | error e => exact .inr ⟨_, rfl⟩
  | ok bs =>
    obtain ⟨t, rfl⟩ | ⟨reason, hrefusal⟩ := textOf_cases (hexArguments operation x) 0 bs
    · exact .inl ⟨t, rfl⟩
    · exact .inr ⟨reason, hrefusal⟩

end Toolbox

/-! ## Calls -/

open Toolbox
open Text (bytes)

/-- Whenever the registry is asked for the operation in this way, this is the answer. -/
def Registry.Answers (r : Registry) (name : String) (asked : Json → Prop)
    (answer : Except CallError Json) : Prop :=
  ∀ (bits : Nat → Nat) (c : Task.Clock) (payload : Json), asked payload →
    r.outcome bits c name payload = answer

/-- Calls of the name are carried out by code whose only parameter is `value`. -/
def Registry.TakesText (r : Registry) (name : String) (f : Arguments → Except CallError Json) :
    Prop :=
  ∃ ps : List Parameter, ps.map Parameter.name = ["value"] ∧ r.CarriesOut name ps f

/-- The registry encodes and decodes. -/
structure Registry.Encodes (r : Registry) : Prop where
  base64_encode : ∃ documentation value, r.CarriesOut "base64-encode"
    (base64Parameters documentation (EncodeMode.named.map (·.1)) value) encodeBase64
  base64_decode : ∃ documentation value, r.CarriesOut "base64-decode"
    (base64Parameters documentation (DecodeMode.named.map (·.1)) value) decodeBase64
  hex_encode : ∃ value, r.CarriesOut "hex-encode" [requiredText "value" value] encodeHex
  hex_decode : ∃ value, r.CarriesOut "hex-decode" [requiredText "value" value] decodeHex

namespace Registry

variable {r : Registry} {name text t x : String} {mode : Option String}
variable {answer : Except CallError Json} {f : Arguments → Except CallError Json}

theorem Answers.of_base64 {documentation value : String} {names : List String}
    (h : r.CarriesOut name (base64Parameters documentation names value) f)
    (hf : f (base64Arguments name mode text) = answer) :
    r.Answers name (GivesModeAndText mode text) answer := by
  intro bits c payload hpayload
  rw [h.outcome_eq, bind_base64 hpayload]
  exact hf

/-- An operation whose only parameter is `value` sees the text that is given. -/
theorem TakesText.answers (h : r.TakesText name f) (hf : f (hexArguments name text) = answer) :
    r.Answers name (GivesText text) answer := by
  intro bits c payload hpayload
  obtain ⟨ps, hnames, hcarries⟩ := h
  have hgives : Arguments.GivesTexts (ps.map Parameter.name) [text] payload :=
    hnames ▸ hpayload.givesTexts
  have hnodup : (ps.map Parameter.name).Nodup := hnames ▸ List.nodup_singleton _
  rw [hcarries.outcome_eq, Arguments.bind_of_givesTexts hnodup hgives, hnames]
  exact hf

theorem Answers.of_hex {value : String} (h : r.CarriesOut name [requiredText "value" value] f)
    (hf : f (hexArguments name text) = answer) : r.Answers name (GivesText text) answer :=
  TakesText.answers ⟨_, rfl, h⟩ hf

namespace Encodes

theorem encode (h : r.Encodes) {m : EncodeMode}
    (hmode : EncodeMode.named.lookup (mode.getD "DEFAULT") = some m) (s : String) :
    r.Answers "base64-encode" (GivesModeAndText mode s) (.ok (.string (encodeText m s))) := by
  obtain ⟨documentation, value, hcode⟩ := h.base64_encode
  exact .of_base64 hcode (encodeBase64_of_known hmode _ s)

theorem decode (h : r.Encodes) {m : DecodeMode}
    (hmode : DecodeMode.named.lookup (mode.getD "DEFAULT") = some m)
    (hbytes : decodeBytes m x = .ok (bytes t)) :
    r.Answers "base64-decode" (GivesModeAndText mode x) (.ok (.string t)) := by
  obtain ⟨documentation, value, hcode⟩ := h.base64_decode
  exact .of_base64 hcode (decodeBase64_of_bytes hmode hbytes _)

theorem decode_cases (h : r.Encodes) {m : DecodeMode}
    (hmode : DecodeMode.named.lookup (mode.getD "DEFAULT") = some m) (x : String) :
    (∃ t, decodeBytes m x = .ok (bytes t) ∧
      r.Answers "base64-decode" (GivesModeAndText mode x) (.ok (.string t))) ∨
    ∃ reason, r.Answers "base64-decode" (GivesModeAndText mode x)
      (.error (.invalidParameter "base64-decode" "value" reason)) := by
  obtain ⟨documentation, value, hcode⟩ := h.base64_decode
  obtain ⟨t, hbytes⟩ | ⟨reason, hrefusal⟩ := decodeBase64_cases hmode "base64-decode" x
  · exact .inl ⟨t, hbytes, h.decode hmode hbytes⟩
  · exact .inr ⟨reason, .of_base64 hcode hrefusal⟩

theorem encode_of_unknown (h : r.Encodes)
    (hmode : EncodeMode.named.lookup (mode.getD "DEFAULT") = none) (s : String) :
    ∃ reason, r.Answers "base64-encode" (GivesModeAndText mode s)
      (.error (.invalidParameter "base64-encode" "mode" reason)) := by
  obtain ⟨documentation, value, hcode⟩ := h.base64_encode
  exact ⟨_, .of_base64 hcode (encodeBase64_of_unknown hmode _ s)⟩

theorem decode_of_unknown (h : r.Encodes)
    (hmode : DecodeMode.named.lookup (mode.getD "DEFAULT") = none) (x : String) :
    ∃ reason, r.Answers "base64-decode" (GivesModeAndText mode x)
      (.error (.invalidParameter "base64-decode" "mode" reason)) := by
  obtain ⟨documentation, value, hcode⟩ := h.base64_decode
  exact ⟨_, .of_base64 hcode (decodeBase64_of_unknown hmode _ x)⟩

theorem encodeHex_answers (h : r.Encodes) (s : String) : r.Answers "hex-encode" (GivesText s)
    (.ok (.string (String.ofList (Hex.encode (bytes s))))) := by
  obtain ⟨value, hcode⟩ := h.hex_encode
  exact .of_hex hcode rfl

theorem decodeHex_answers (h : r.Encodes)
    (hbytes : Hex.decode (bytes (Text.trim x)) = .ok (bytes t)) :
    r.Answers "hex-decode" (GivesText x) (.ok (.string t)) := by
  obtain ⟨value, hcode⟩ := h.hex_decode
  exact .of_hex hcode (decodeHex_of_bytes hbytes _)

theorem decodeHex_answers_cases (h : r.Encodes) (x : String) :
    (∃ t, Hex.decode (bytes (Text.trim x)) = .ok (bytes t) ∧
      r.Answers "hex-decode" (GivesText x) (.ok (.string t))) ∨
    ∃ reason, r.Answers "hex-decode" (GivesText x)
      (.error (.invalidParameter "hex-decode" "value" reason)) := by
  obtain ⟨value, hcode⟩ := h.hex_decode
  obtain ⟨t, hbytes⟩ | ⟨reason, hrefusal⟩ := decodeHex_cases "hex-decode" x
  · exact .inl ⟨t, hbytes, h.decodeHex_answers hbytes⟩
  · exact .inr ⟨reason, .of_hex hcode hrefusal⟩

end Encodes

end Registry

/-! ## There and back -/

/-- The modes of writing base64, each with the mode that reads it. -/
def Toolbox.compatibleModes : List (String × String) :=
  [("DEFAULT", "DEFAULT"), ("URL", "URL"), ("URL_NO_PADDING", "URL"), ("MIME", "MIME"),
   ("MIME_NO_PADDING", "MIME")]

theorem Toolbox.exists_of_mem_compatibleModes {w d : String} (h : (w, d) ∈ compatibleModes) :
    ∃ m, EncodeMode.named.lookup w = some m ∧ DecodeMode.named.lookup d = some m.readBy := by
  simp only [compatibleModes, List.mem_cons, Prod.mk.injEq, List.not_mem_nil, or_false] at h
  obtain ⟨rfl, rfl⟩ | ⟨rfl, rfl⟩ | ⟨rfl, rfl⟩ | ⟨rfl, rfl⟩ | ⟨rfl, rfl⟩ := h
  · exact ⟨.standard, rfl, rfl⟩
  · exact ⟨.url, rfl, rfl⟩
  · exact ⟨.urlUnpadded, rfl, rfl⟩
  · exact ⟨.mime, rfl, rfl⟩
  · exact ⟨.mimeUnpadded, rfl, rfl⟩

/-- What one registry encodes, another decodes. -/
structure RoundTripLaws (r r' : Registry) : Prop where
  /-- In base64, if the modes go together. No mode at all is the default. -/
  base64 : ∀ s written read, (written.getD "DEFAULT", read.getD "DEFAULT") ∈ compatibleModes →
    ∃ e, r.Answers "base64-encode" (GivesModeAndText written s) (.ok (.string e)) ∧
      r'.Answers "base64-decode" (GivesModeAndText read e) (.ok (.string s))
  /-- In hexadecimal. -/
  hex : ∀ s, ∃ e, r.Answers "hex-encode" (GivesText s) (.ok (.string e)) ∧
    r'.Answers "hex-decode" (GivesText e) (.ok (.string s))

/-- What one registry makes of texts that another may or may not have encoded. -/
structure DecodingLaws (r r' : Registry) : Prop where
  /-- In the default mode only what would be encoded in this way is decoded. -/
  standard : ∀ x mode, mode.getD "DEFAULT" = "DEFAULT" →
    (∃ t, r.Answers "base64-decode" (GivesModeAndText mode x) (.ok (.string t)) ∧
      r'.Answers "base64-encode" (GivesModeAndText mode t) (.ok (.string x))) ∨
    ∃ reason, r.Answers "base64-decode" (GivesModeAndText mode x)
      (.error (.invalidParameter "base64-decode" "value" reason))
  /-- For addresses, what would be but for padding. -/
  url : ∀ x,
    (∃ t, r.Answers "base64-decode" (GivesModeAndText (some "URL") x) (.ok (.string t)) ∧
      r'.Answers "base64-encode" (GivesModeAndText (some "URL_NO_PADDING") t)
        (.ok (.string (withoutPadding x)))) ∨
    ∃ reason, r.Answers "base64-decode" (GivesModeAndText (some "URL") x)
      (.error (.invalidParameter "base64-decode" "value" reason))
  /-- For mail, what would be but for blanks and then padding. -/
  mime : ∀ x,
    (∃ t, r.Answers "base64-decode" (GivesModeAndText (some "MIME") x) (.ok (.string t)) ∧
      ∃ e, r'.Answers "base64-encode" (GivesModeAndText (some "MIME_NO_PADDING") t)
        (.ok (.string e)) ∧ withoutLineBreaks e = withoutPadding (withoutBlanks x)) ∨
    ∃ reason, r.Answers "base64-decode" (GivesModeAndText (some "MIME") x)
      (.error (.invalidParameter "base64-decode" "value" reason))
  /-- In hexadecimal, what would be but for case and the blanks around it. -/
  hex : ∀ x,
    (∃ t, r.Answers "hex-decode" (GivesText x) (.ok (.string t)) ∧
      r'.Answers "hex-encode" (GivesText t) (.ok (.string (inLowerCase (Text.trim x))))) ∨
    ∃ reason, r.Answers "hex-decode" (GivesText x)
      (.error (.invalidParameter "hex-decode" "value" reason))

namespace Registry

variable {r r' : Registry}

/-- **What is encoded is decoded again.** -/
theorem Encodes.roundTrip (h : r.Encodes) (h' : r'.Encodes) : RoundTripLaws r r' where
  base64 s written read hmodes := by
    obtain ⟨m, hwritten, hread⟩ := exists_of_mem_compatibleModes hmodes
    exact ⟨encodeText m s, h.encode hwritten s, h'.decode hread (decodeBytes_encodeText m s)⟩
  hex s := ⟨_, h.encodeHex_answers s, h'.decodeHex_answers (hexDecode_encode (bytes s))⟩

/-- **What is decoded had been encoded, in the way that the mode reads.** -/
theorem Encodes.decoding (h : r.Encodes) (h' : r'.Encodes) : DecodingLaws r r' where
  standard x mode hmode := by
    have hread : DecodeMode.named.lookup (mode.getD "DEFAULT") = some .standard := by
      rw [hmode]
      rfl
    have hwritten : EncodeMode.named.lookup (mode.getD "DEFAULT") = some .standard := by
      rw [hmode]
      rfl
    refine (h.decode_cases hread x).imp_left ?_
    rintro ⟨t, hbytes, hanswer⟩
    refine ⟨t, hanswer, ?_⟩
    rw [← encodeText_of_standard hbytes]
    exact h'.encode hwritten t
  url x := by
    refine (h.decode_cases rfl x).imp_left ?_
    rintro ⟨t, hbytes, hanswer⟩
    refine ⟨t, hanswer, ?_⟩
    rw [← encodeText_of_url hbytes]
    exact h'.encode rfl t
  mime x := by
    refine (h.decode_cases rfl x).imp_left ?_
    rintro ⟨t, hbytes, hanswer⟩
    exact ⟨t, hanswer, _, h'.encode rfl t, encodeText_of_mime hbytes⟩
  hex x := by
    refine (h.decodeHex_answers_cases x).imp_left ?_
    rintro ⟨t, hbytes, hanswer⟩
    refine ⟨t, hanswer, ?_⟩
    rw [← hexEncode_of_decode hbytes]
    exact h'.encodeHex_answers t

end Registry

namespace Deployment

variable (settings settings' : Settings) (randomBits randomBits' : Nat → Nat)
variable (calls calls' : List Call)

/-- A built-in operation whose only parameter is `value` takes texts on any server. -/
theorem takesText_of_mem {op : Operation} {f : Arguments → Except CallError Json}
    (hop : op ∈ Toolbox.operations) (hhandler : op.handler = immediate f)
    (hnames : op.parameters.map Parameter.name = ["value"]) :
    ((new settings randomBits).run calls).registry.TakesText op.name f :=
  ⟨_, hnames, carriesOut_of_mem hop hhandler settings randomBits calls⟩

/-- A server always encodes and decodes. -/
theorem encodes : ((new settings randomBits).run calls).registry.Encodes := by
  have hmem {op : Operation} (hop : op ∈ encodingOperations) : op ∈ operations := by
    simp only [operations, List.mem_append, hop, true_or]
  exact
    { base64_encode := ⟨_, _, carriesOut_of_mem (hmem (.head _)) rfl settings randomBits calls⟩
      base64_decode :=
        ⟨_, _, carriesOut_of_mem (hmem (.tail _ (.head _))) rfl settings randomBits calls⟩
      hex_encode :=
        ⟨_, carriesOut_of_mem (hmem (.tail _ (.tail _ (.head _)))) rfl settings randomBits calls⟩
      hex_decode :=
        ⟨_, carriesOut_of_mem (hmem (.tail _ (.tail _ (.tail _ (.head _))))) rfl settings randomBits
          calls⟩ }

/-- **Whatever any server encodes, any server decodes.** -/
theorem roundTripLaws : RoundTripLaws ((new settings randomBits).run calls).registry
    ((new settings' randomBits').run calls').registry :=
  (encodes settings randomBits calls).roundTrip (encodes settings' randomBits' calls')

/-- **Whatever any server decodes, any server encodes in the way that the mode reads.** -/
theorem decodingLaws : DecodingLaws ((new settings randomBits).run calls).registry
    ((new settings' randomBits').run calls').registry :=
  (encodes settings randomBits calls).decoding (encodes settings' randomBits' calls')

end Deployment

end Switchboard
