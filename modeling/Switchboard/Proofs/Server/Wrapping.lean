import Switchboard.Proofs.Server.Encoding
import Switchboard.Proofs.Text.Lines
/-!
# Base64 for mail

In the modes for mail a text is written in the symbols of standard base64, with or without padding,
and these are broken into lines of 76 with nothing lost or added (`WrappingLaws`). The default mode
writes the same symbols in one line.
-/

namespace Switchboard

open Toolbox
open Text (bytes splitLines)

/-- The modes of writing base64 for mail, and whether there is padding. -/
def Toolbox.mailModes : List (String × Bool) := [("MIME", true), ("MIME_NO_PADDING", false)]

/-- How a registry writes base64 for mail. -/
structure WrappingLaws (r : Registry) : Prop where
  /-- Some text is written in lines, and together they are its symbols. -/
  lines : ∀ mode padded s, (mode, padded) ∈ mailModes → s ≠ "" → ∃ t,
    r.Answers "base64-encode" (GivesModeAndText (some mode) s) (.ok (.string t)) ∧
      Base64.BrokenInto 76 (splitLines t.toList) (Base64.encode .standard padded (bytes s))
  /-- Those symbols are what the default mode writes, but for its padding. -/
  symbols : ∀ mode s, mode.getD "DEFAULT" = "DEFAULT" → ∃ t,
    r.Answers "base64-encode" (GivesModeAndText mode s) (.ok (.string t)) ∧
      t = String.ofList (Base64.encode .standard true (bytes s)) ∧
      withoutPadding t = String.ofList (Base64.encode .standard false (bytes s))
  /-- The empty text stays empty, without a line break. -/
  empty : ∀ mode padded, (mode, padded) ∈ mailModes →
    r.Answers "base64-encode" (GivesModeAndText (some mode) "") (.ok (.string ""))

namespace Toolbox

variable {mode : String} {padded : Bool}

/-- What is written for mail is what is written otherwise, in lines. -/
theorem exists_of_mem_mailModes (h : (mode, padded) ∈ mailModes) :
    ∃ m, EncodeMode.named.lookup ((some mode).getD "DEFAULT") = some m ∧ ∀ s, encodeText m s =
      String.ofList (Base64.wrap (Base64.encode .standard padded (bytes s))) := by
  simp only [mailModes, List.mem_cons, Prod.mk.injEq, List.not_mem_nil, or_false] at h
  obtain ⟨rfl, rfl⟩ | ⟨rfl, rfl⟩ := h
  · exact ⟨.mime, rfl, fun s => rfl⟩
  · exact ⟨.mimeUnpadded, rfl, fun s => rfl⟩

theorem withoutPadding_encode (bs : List UInt8) :
    withoutPadding (String.ofList (Base64.encode .standard true bs)) =
      String.ofList (Base64.encode .standard false bs) := by
  rw [Base64.encode_padded, withoutPadding_append fun c hc => Base64.ne_padding_of_mem_encode hc]

end Toolbox

theorem Text.bytes_ne_nil {s : String} (h : s ≠ "") : bytes s ≠ [] := by
  intro hnil
  have hempty : bytes "" = [] := rfl
  exact h (bytes_inj.1 (hnil.trans hempty.symm))

/-- **What is written for mail is in lines.** -/
theorem Registry.Encodes.wrapping {r : Registry} (h : r.Encodes) : WrappingLaws r where
  lines mode padded s hmode hs := by
    obtain ⟨m, hnamed, htext⟩ := exists_of_mem_mailModes hmode
    refine ⟨encodeText m s, h.encode hnamed s, ?_⟩
    rw [htext, String.toList_ofList]
    exact Base64.brokenInto_wrap (Base64.encode_ne_nil (Text.bytes_ne_nil hs))
      Base64.not_mem_encode
  symbols mode s hmode := by
    have hnamed : EncodeMode.named.lookup (mode.getD "DEFAULT") = some .standard := by
      rw [hmode]
      rfl
    exact ⟨_, h.encode hnamed s, rfl, withoutPadding_encode (bytes s)⟩
  empty mode padded hmode := by
    obtain ⟨m, hnamed, htext⟩ := exists_of_mem_mailModes hmode
    have hempty : encodeText m "" = "" := by
      rw [htext]
      exact congrArg String.ofList Base64.wrap_nil
    have hanswer := h.encode hnamed ""
    rwa [hempty] at hanswer

/-- **What any server writes for mail is in lines.** -/
theorem Deployment.wrappingLaws (settings : Settings) (randomBits : Nat → Nat)
    (calls : List Call) : WrappingLaws ((new settings randomBits).run calls).registry :=
  (encodes settings randomBits calls).wrapping

end Switchboard
