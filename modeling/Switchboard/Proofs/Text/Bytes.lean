import Switchboard.Text.Utf8
/-!
# Texts and their bytes

A text is determined by its bytes (`Text.bytes_inj`), and bytes are those of a text exactly when
they can be read as one (`Text.ofBytes?_eq_some_iff`). A character of seven bits is its own byte,
and all bytes of any other character have the eighth bit set. So leaving out characters of seven
bits is leaving out their bytes (`Text.bytes_filter`).
-/

namespace Switchboard

namespace Text

variable {s t : String} {bs : List UInt8} {cs : List Char} {c : Char}

theorem bytes_ofList (cs : List Char) :
    bytes (String.ofList cs) = cs.flatMap String.utf8EncodeChar := by
  simp [bytes, List.utf8Encode]

/-! ## There and back -/

theorem ofBytes?_bytes (s : String) : ofBytes? (bytes s) = some s := by
  have hbytes : (⟨(bytes s).toArray⟩ : ByteArray) = s.toByteArray := by
    rw [bytes, Array.toArray_toList]
    rfl
  rw [ofBytes?, hbytes, String.fromUTF8?, dif_pos s.isValidUTF8]
  rfl

theorem bytes_of_ofBytes? (h : ofBytes? bs = some s) : bytes s = bs := by
  rw [ofBytes?, String.fromUTF8?] at h
  split at h
  · obtain rfl := Option.some.inj h
    simp [bytes, String.fromUTF8]
  · cases h

/-- **Bytes that can be read as a text are its bytes.** -/
theorem ofBytes?_eq_some_iff : ofBytes? bs = some s ↔ bs = bytes s :=
  ⟨fun h => (bytes_of_ofBytes? h).symm, fun h => h ▸ ofBytes?_bytes s⟩

theorem bytes_inj : bytes s = bytes t ↔ s = t := by
  refine ⟨fun h => ?_, congrArg bytes⟩
  have hread := ofBytes?_bytes s
  rw [h, ofBytes?_bytes, Option.some_inj] at hread
  exact hread.symm

/-! ## Characters of seven bits -/

/-- The byte of a character of seven bits. -/
def byteOf (c : Char) : UInt8 := UInt8.ofNat c.toNat

theorem toNat_byteOf (h : c.toNat < 128) : (byteOf c).toNat = c.toNat := by
  rw [byteOf, UInt8.toNat_ofNat', Nat.mod_eq_of_lt (by omega)]

theorem ofNat_toNat_byteOf (h : c.toNat < 128) : Char.ofNat (byteOf c).toNat = c := by
  rw [toNat_byteOf h, Char.ofNat_toNat]

theorem byteOf_ofNat (b : UInt8) : byteOf (Char.ofNat b.toNat) = b := by
  have hvalid : b.toNat.isValidChar := .inl (Nat.lt_trans b.toNat_lt (by decide))
  have hcode : (Char.ofNat b.toNat).toNat = b.toNat := by
    rw [Char.ofNat, dif_pos hvalid]
    rfl
  rw [byteOf, hcode, UInt8.ofNat_toNat]

theorem utf8EncodeChar_of_lt (h : c.toNat < 128) : String.utf8EncodeChar c = [byteOf c] := by
  rw [String.utf8EncodeChar]
  exact if_pos (Nat.le_of_lt_succ h)

/-- All bytes of a character of more than seven bits have the eighth bit set. -/
theorem le_of_mem_utf8EncodeChar {b : UInt8} (h : 128 ≤ c.toNat)
    (hb : b ∈ String.utf8EncodeChar c) : 128 ≤ b.toNat := by
  have hlong : ¬ c.val.toNat ≤ 0x7f := Nat.not_le.2 h
  -- two, three or four bytes
  rw [String.utf8EncodeChar] at hb
  simp only [hlong, ↓reduceIte] at hb
  split at hb
  · simp only [List.mem_cons, List.not_mem_nil, or_false] at hb
    rcases hb with rfl | rfl <;> simp only [UInt8.toNat_ofNat'] <;> omega
  · split at hb
    · simp only [List.mem_cons, List.not_mem_nil, or_false] at hb
      rcases hb with rfl | rfl | rfl <;> simp only [UInt8.toNat_ofNat'] <;> omega
    · simp only [List.mem_cons, List.not_mem_nil, or_false] at hb
      rcases hb with rfl | rfl | rfl | rfl <;> simp only [UInt8.toNat_ofNat'] <;> omega

/-- The bytes of characters of seven bits are those of each. -/
theorem bytes_ofList_of_lt (h : ∀ c ∈ cs, c.toNat < 128) :
    bytes (String.ofList cs) = cs.map byteOf := by
  rw [bytes_ofList]
  induction cs with
  | nil => rfl
  | cons c rest ih =>
    rw [List.forall_mem_cons] at h
    rw [List.flatMap_cons, utf8EncodeChar_of_lt h.1, ih h.2]
    rfl

/-- **A text is read off its bytes** where they are those of characters of seven bits. -/
theorem eq_ofList_of_bytes (h : ∀ c ∈ cs, c.toNat < 128) (hs : bytes s = cs.map byteOf) :
    s = String.ofList cs :=
  bytes_inj.1 (hs.trans (bytes_ofList_of_lt h).symm)

/-- **To leave out characters of seven bits is to leave out their bytes.** -/
theorem bytes_filter (keep : Char → Bool) (keepByte : UInt8 → Bool)
    (hseven : ∀ c, c.toNat < 128 → keepByte (byteOf c) = keep c)
    (hmore : ∀ c, 128 ≤ c.toNat → keep c = true)
    (hmoreByte : ∀ b : UInt8, 128 ≤ b.toNat → keepByte b = true) (cs : List Char) :
    bytes (String.ofList (cs.filter keep)) = (bytes (String.ofList cs)).filter keepByte := by
  induction cs with
  | nil => rfl
  | cons c rest ih =>
    rw [bytes_ofList, bytes_ofList] at ih ⊢
    rw [List.flatMap_cons, List.filter_append, ← ih]
    rcases Nat.lt_or_ge c.toNat 128 with hc | hc
    · rw [utf8EncodeChar_of_lt hc]
      cases hkeep : keep c with
      | true => simp [hkeep, hseven c hc, utf8EncodeChar_of_lt hc]
      | false => simp [hkeep, hseven c hc]
    · -- A longer character is kept, and so are all of its bytes.
      have hall : (String.utf8EncodeChar c).filter keepByte = String.utf8EncodeChar c :=
        List.filter_eq_self.2 fun b hb => hmoreByte b (le_of_mem_utf8EncodeChar hc hb)
      rw [hall, List.filter_cons_of_pos (hmore c hc), List.flatMap_cons]

end Text

end Switchboard
