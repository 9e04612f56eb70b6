import Switchboard.Proofs.Text.Base64
import Switchboard.Proofs.Text.Hex
import Switchboard.Toolbox.Encoding
/-!
# What encodings make of texts

Which texts are read as some bytes is said exactly, for each mode of base64
(`decodeBytes_standard_iff`, `decodeBytes_url_iff`, `decodeBytes_mime_iff`). All that a mode is
lenient about is there: padding, and for mail what is blank. That what was written is read back
(`decodeBytes_encodeText`) follows, as it does in hexadecimal (`hexDecode_encode`).
-/

namespace Switchboard

namespace Text

variable {cs before : List Char}

/-! ## Blanks at the ends -/

theorem dropWhile_isBlank (h : ∀ c ∈ cs, isBlank c = false) : cs.dropWhile isBlank = cs := by
  cases cs with
  | nil => rfl
  | cons c rest =>
    have hc : isBlank c = false := h c List.mem_cons_self
    rw [List.dropWhile_cons_of_neg (hc ▸ Bool.false_ne_true)]

/-- What is not blank stands where it does, whatever is taken away behind it. -/
theorem trimRight_append (h : ∀ c ∈ cs, isBlank c = false) (behind : List Char) :
    trimRight (cs ++ behind) = cs ++ trimRight behind := by
  have hreverse : cs.reverse.dropWhile isBlank = cs.reverse :=
    dropWhile_isBlank fun c hc => h c (List.mem_reverse.1 hc)
  rw [trimRight, trimRight, List.reverse_append, List.dropWhile_append, hreverse]
  cases behind.reverse.dropWhile isBlank with
  | nil => simp
  | cons c rest => simp

theorem trimRight_of_isBlank (h : ∀ c ∈ cs, isBlank c = true) : trimRight cs = [] := by
  have hdrop : (cs.reverse ++ []).dropWhile isBlank = [].dropWhile isBlank :=
    List.dropWhile_append_of_pos fun c hc => h c (List.mem_reverse.1 hc)
  rw [List.append_nil] at hdrop
  rw [trimRight, hdrop]
  rfl

/-- All blanks in front are taken away, and blanks behind only. -/
theorem trimChars_around (hbefore : ∀ c ∈ before, isBlank c = true)
    (h : ∀ c ∈ cs, isBlank c = false) (hne : cs ≠ []) (behind : List Char) :
    trimChars (before ++ (cs ++ behind)) = cs ++ trimRight behind := by
  obtain ⟨c, rest, rfl⟩ := List.exists_cons_of_ne_nil hne
  have hc : isBlank c = false := h c List.mem_cons_self
  have hleft : trimLeft (before ++ (c :: rest ++ behind)) = c :: rest ++ behind := by
    rw [trimLeft, List.dropWhile_append_of_pos hbefore, List.cons_append,
      List.dropWhile_cons_of_neg (hc ▸ Bool.false_ne_true)]
  rw [trimChars, hleft, trimRight_append h]

end Text

namespace Toolbox

open Text (bytes byteOf)

variable {s t : String} {out : List UInt8} {cs : List Char}

/-! ## What readers leave out -/

/-- The blanks that have seven bits. -/
def isAsciiBlank (c : Char) : Bool :=
  c = '\t' || c = '\n' || c = '\x0c' || c = '\r' || c = ' '

/-- The text without blanks of seven bits, wherever they are. -/
def withoutBlanks (s : String) : String := String.ofList (s.toList.filter (!isAsciiBlank ·))

/-- The text without what ends lines. -/
def withoutLineBreaks (s : String) : String :=
  String.ofList (s.toList.filter fun c => c ≠ '\r' && c ≠ '\n')

/-- The text without the padding at its end. -/
def withoutPadding (s : String) : String :=
  String.ofList (s.toList.reverse.dropWhile (· = '=')).reverse

/-- The text with the letters of seven bits in lower case. -/
def inLowerCase (s : String) : String := String.ofList (s.toList.map Char.toLower)

theorem withoutPadding_append (h : ∀ c ∈ cs, c ≠ '=') (k : Nat) :
    withoutPadding (String.ofList (cs ++ List.replicate k '=')) = String.ofList cs := by
  -- Seen from the end, the last symbol stops what drops the padding.
  have hlast : cs.reverse.dropWhile (· = '=') = cs.reverse := by
    cases hcs : cs.reverse with
    | nil => rfl
    | cons c rest =>
      have hc : c ∈ cs := List.mem_reverse.1 (hcs ▸ List.mem_cons_self)
      rw [List.dropWhile_cons_of_neg (by simpa using h c hc)]
  have hpadding : ∀ c ∈ List.replicate k '=', (decide (c = '=')) = true :=
    fun c hc => decide_eq_true (List.eq_of_mem_replicate hc)
  rw [withoutPadding, String.toList_ofList, List.reverse_append, List.reverse_replicate,
    List.dropWhile_append_of_pos hpadding, hlast, List.reverse_reverse]

theorem isAsciiBlank_byteOf_ofNat : ∀ m < 128,
    (!isMailBlank (byteOf (Char.ofNat m))) = !isAsciiBlank (Char.ofNat m) := by
  decide

/-- Mail leaves out the bytes of blanks. -/
theorem bytes_withoutBlanks (s : String) :
    bytes (withoutBlanks s) = (bytes s).filter (!isMailBlank ·) := by
  have hfilter := Text.bytes_filter (!isAsciiBlank ·) (!isMailBlank ·)
    (fun c hc => Char.ofNat_toNat c ▸ isAsciiBlank_byteOf_ofNat c.toNat hc)
    (fun c hc => ?_) (fun b hb => ?_) s.toList
  · rwa [String.ofList_toList] at hfilter
  -- A longer character is no such blank, and none of its bytes is that of one.
  · have hne {d : Char} (hd : d.toNat < 128) : c ≠ d := by
      rintro rfl
      omega
    simp [isAsciiBlank, hne]
  · have hne {d : UInt8} (hd : d.toNat < 128) : b ≠ d := by
      rintro rfl
      omega
    simp [isMailBlank, hne]

theorem ne_of_isBlank {c d : Char} (h : Text.isBlank c = false) (hd : Text.isBlank d = true) :
    c ≠ d := by
  rintro rfl
  exact Bool.false_ne_true (h.symm.trans hd)

theorem not_isAsciiBlank_of_not_isBlank {c : Char} (h : Text.isBlank c = false) :
    isAsciiBlank c = false := by
  simp [isAsciiBlank, ne_of_isBlank (d := '\t') h rfl, ne_of_isBlank (d := '\n') h rfl,
    ne_of_isBlank (d := '\x0c') h rfl, ne_of_isBlank (d := '\r') h rfl,
    ne_of_isBlank (d := ' ') h rfl]

/-! ## Base64 -/

/-- Only with all its padding is a text read in the standard way, -/
theorem decodeBytes_standard_iff : decodeBytes .standard s = .ok out ↔
    s = String.ofList (Base64.encode .standard true out) := by
  rw [decodeBytes, Base64.decode_eq_ok_iff, Base64.spells_bytes_iff, Base64.encode_padded]
  constructor
  · rintro ⟨k, -, rfl, hk⟩
    rw [hk rfl]
  · exact fun h => ⟨_, Nat.le_refl _, h, fun _ => rfl⟩

/-- in addresses with as much of it as there may be, -/
theorem decodeBytes_url_iff : decodeBytes .url s = .ok out ↔ ∃ k ≤ Base64.padding out.length,
    s = String.ofList (Base64.encode .urlSafe false out ++ List.replicate k '=') := by
  rw [decodeBytes, Base64.decode_eq_ok_iff, Base64.spells_bytes_iff]
  simp only [Bool.false_eq_true, false_implies, and_true]

/-- and in mail so, and with blanks anywhere. -/
theorem decodeBytes_mime_iff : decodeBytes .mime s = .ok out ↔ ∃ k ≤ Base64.padding out.length,
    withoutBlanks s =
      String.ofList (Base64.encode .standard false out ++ List.replicate k '=') := by
  rw [decodeBytes, ← bytes_withoutBlanks, Base64.decode_eq_ok_iff, Base64.spells_bytes_iff]
  simp only [Bool.false_eq_true, false_implies, and_true]

/-- **The mode that reads what is written in a mode.** -/
def EncodeMode.readBy : EncodeMode → DecodeMode
  | .standard => .standard
  | .url => .url
  | .urlUnpadded => .url
  | .mime => .mime
  | .mimeUnpadded => .mime

/-- Lines make no difference in mail. -/
theorem withoutBlanks_wrap (h : ∀ c ∈ cs, Text.isBlank c = false) :
    withoutBlanks (String.ofList (Base64.wrap cs)) = String.ofList cs := by
  rw [withoutBlanks, String.toList_ofList, Base64.filter_wrap _ rfl rfl]
  intro c hc
  rw [not_isAsciiBlank_of_not_isBlank (h c hc)]
  rfl

theorem withoutLineBreaks_wrap (h : ∀ c ∈ cs, Text.isBlank c = false) :
    withoutLineBreaks (String.ofList (Base64.wrap cs)) = String.ofList cs := by
  rw [withoutLineBreaks, String.toList_ofList, Base64.filter_wrap _ rfl rfl]
  intro c hc
  simp [ne_of_isBlank (d := '\r') (h c hc) rfl, ne_of_isBlank (d := '\n') (h c hc) rfl]

/-- **What was written in base64 is read back** in the mode for it. -/
theorem decodeBytes_encodeText (mode : EncodeMode) (s : String) :
    decodeBytes mode.readBy (encodeText mode s) = .ok (bytes s) := by
  have hplain {padded : Bool} (c : Char) (hc : c ∈ Base64.encode .standard padded (bytes s)) :
      Text.isBlank c = false := (Base64.plain_of_mem_encode hc).2
  cases mode with
  | standard => exact decodeBytes_standard_iff.2 rfl
  | url => exact decodeBytes_url_iff.2 ⟨_, Nat.le_refl _, by rw [encodeText, Base64.encode_padded]⟩
  | urlUnpadded =>
    refine decodeBytes_url_iff.2 ⟨0, Nat.zero_le _, ?_⟩
    rw [encodeText, List.replicate_zero, List.append_nil]
  | mime =>
    refine decodeBytes_mime_iff.2 ⟨_, Nat.le_refl _, ?_⟩
    rw [encodeText, ← Base64.encode_padded]
    exact withoutBlanks_wrap hplain
  | mimeUnpadded =>
    refine decodeBytes_mime_iff.2 ⟨0, Nat.zero_le _, ?_⟩
    rw [encodeText, List.replicate_zero, List.append_nil]
    exact withoutBlanks_wrap hplain

/-! And a text that is read is the one that would be written, but for what its mode is lenient
about. -/

theorem encodeText_of_standard (h : decodeBytes .standard s = .ok (bytes t)) :
    encodeText .standard t = s :=
  (decodeBytes_standard_iff.1 h).symm

theorem encodeText_of_url (h : decodeBytes .url s = .ok (bytes t)) :
    encodeText .urlUnpadded t = withoutPadding s := by
  obtain ⟨k, -, rfl⟩ := decodeBytes_url_iff.1 h
  rw [withoutPadding_append fun c hc => Base64.ne_padding_of_mem_encode hc, encodeText]

theorem encodeText_of_mime (h : decodeBytes .mime s = .ok (bytes t)) :
    withoutLineBreaks (encodeText .mimeUnpadded t) = withoutPadding (withoutBlanks s) := by
  obtain ⟨k, -, hs⟩ := decodeBytes_mime_iff.1 h
  rw [hs, withoutPadding_append fun c hc => Base64.ne_padding_of_mem_encode hc, encodeText]
  exact withoutLineBreaks_wrap fun c hc => (Base64.plain_of_mem_encode hc).2

/-! ## Hexadecimal -/

theorem trim_of_not_isBlank (h : ∀ c ∈ cs, Text.isBlank c = false) :
    Text.trim (String.ofList cs) = String.ofList cs := by
  have hright := Text.trimRight_append h []
  rw [List.append_nil] at hright
  rw [Text.trim, String.toList_ofList, Text.trimChars, Text.trimLeft, Text.dropWhile_isBlank h,
    hright]
  exact congrArg String.ofList (List.append_nil cs)

/-- **What was written in hexadecimal is read back.** -/
theorem hexDecode_encode (out : List UInt8) :
    Hex.decode (bytes (Text.trim (String.ofList (Hex.encode out)))) = .ok out := by
  rw [trim_of_not_isBlank fun c hc => (Hex.plain_of_mem_encode hc).2,
    Text.bytes_ofList_of_lt fun c hc => (Hex.plain_of_mem_encode hc).1, Hex.decode_encode]

theorem hexEncode_of_decode (h : Hex.decode (bytes (Text.trim s)) = .ok out) :
    String.ofList (Hex.encode out) = inLowerCase (Text.trim s) := by
  obtain ⟨cs, hcs, hbytes, hlower⟩ := Hex.eq_encode_of_decode h
  rw [Text.eq_ofList_of_bytes hcs hbytes, inLowerCase, String.toList_ofList, hlower]

end Toolbox

end Switchboard
