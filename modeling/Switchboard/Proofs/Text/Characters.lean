import Switchboard.Json.Fault
import Switchboard.Proofs.Text.Bytes
/-!
# Characters from their bytes

The bytes of a text are read as its characters (`Json.Source.ofBytes_bytes`). What tells a reader
how many bytes belong to a character is the first of them, and of a first byte that stands for
several lengths or for none there are only those that no character starts with
(`Text.characterAt?_encode`).
-/

namespace Switchboard

namespace Text

variable {a b c d : UInt8} {rest : List UInt8} {n : Nat}

/-! ## Bytes that continue a character -/

theorem toNat_tail (n : Nat) : (UInt8.ofNat (n % 64 + 128)).toNat = n % 64 + 128 := by
  rw [UInt8.toNat_ofNat']
  omega

theorem isTail_tail (n : Nat) : isTail (UInt8.ofNat (n % 64 + 128)) = true := by
  simp only [isTail, Bool.and_eq_true, decide_eq_true_eq, UInt8.le_iff_toNat_le, toNat_tail,
    UInt8.reduceToNat]
  omega

theorem tailBits_tail (n : Nat) : tailBits (UInt8.ofNat (n % 64 + 128)) = n % 64 := by
  rw [tailBits, toNat_tail]
  omega

/-! ## The first byte -/

/-- A first byte for two bytes or three: one more is looked at, if there is one. -/
theorem characterAt?_short (hlow : 128 ≤ a.toNat) (hhigh : a.toNat < 240) (b : UInt8)
    (rest : List UInt8) : characterAt? a (b :: rest) = characterAt?.short a b rest.head? := by
  have hone : ¬ a < 0x80 := by
    simp only [UInt8.lt_iff_toNat_lt, UInt8.reduceToNat]
    omega
  have hfour : decide (0xf0 ≤ a) = false := by
    simp only [decide_eq_false_iff_not, UInt8.le_iff_toNat_le, UInt8.reduceToNat]
    omega
  rw [characterAt?.eq_def, if_neg hone]
  rcases rest with _ | ⟨c, _ | ⟨d, rest⟩⟩
  · rfl
  · rfl
  · dsimp only
    rw [hfour]
    rfl

theorem characterAt?_byteOf {c : Char} (h : c.toNat < 128) (rest : List UInt8) :
    characterAt? (byteOf c) rest = some (c, 0) := by
  have hone : byteOf c < 0x80 := by
    simp only [UInt8.lt_iff_toNat_lt, toNat_byteOf h, UInt8.reduceToNat]
    exact h
  rw [characterAt?.eq_def, if_pos hone, ofNat_toNat_byteOf h]

theorem characterAt?_two (hlow : 194 ≤ a.toNat) (hhigh : a.toNat ≤ 223) (hb : isTail b = true)
    (rest : List UInt8) :
    characterAt? a (b :: rest) = some (Char.ofNat (a.toNat % 32 * 64 + tailBits b), 1) := by
  have hrange : (decide (0xc2 ≤ a) && decide (a ≤ 0xdf) && isTail b) = true := by
    simp only [Bool.and_eq_true, decide_eq_true_eq, UInt8.le_iff_toNat_le, UInt8.reduceToNat]
    exact ⟨⟨hlow, hhigh⟩, hb⟩
  rw [characterAt?_short (by omega) (by omega), characterAt?.short.eq_def, if_pos hrange]

theorem characterAt?_three (hlow : 224 ≤ a.toNat) (hhigh : a.toNat ≤ 239) (hb : isTail b = true)
    (hc : isTail c = true) (hlong : a.toNat = 224 → 160 ≤ b.toNat)
    (hplane : a.toNat = 237 → b.toNat ≤ 159) (rest : List UInt8) :
    characterAt? a (b :: c :: rest) =
      some (Char.ofNat (a.toNat % 16 * 4096 + tailBits b * 64 + tailBits c), 2) := by
  have htwo : ¬(decide (0xc2 ≤ a) && decide (a ≤ 0xdf) && isTail b) = true := by
    simp only [Bool.and_eq_true, decide_eq_true_eq, UInt8.le_iff_toNat_le, UInt8.reduceToNat]
    omega
  have hrange : (decide (0xe0 ≤ a) && decide (a ≤ 0xef) && isTail b && isTail c
      && (a != 0xe0 || decide (0xa0 ≤ b)) && (a != 0xed || decide (b ≤ 0x9f))) = true := by
    simp only [Bool.and_eq_true, Bool.or_eq_true, decide_eq_true_eq, UInt8.le_iff_toNat_le,
      bne_iff_ne, ne_eq, ← UInt8.toNat_inj, UInt8.reduceToNat, hb, hc, and_true]
    omega
  rw [characterAt?_short (by omega) (by omega), characterAt?.short.eq_def, if_neg htwo,
    List.head?_cons]
  dsimp only
  rw [if_pos hrange]

theorem characterAt?_four (hlow : 240 ≤ a.toNat) (hhigh : a.toNat ≤ 244) (hb : isTail b = true)
    (hc : isTail c = true) (hd : isTail d = true) (hlong : a.toNat = 240 → 144 ≤ b.toNat)
    (hlast : a.toNat = 244 → b.toNat ≤ 143) (rest : List UInt8) :
    characterAt? a (b :: c :: d :: rest) =
      some (Char.ofNat (a.toNat % 8 * 262144 + tailBits b * 4096 + tailBits c * 64 + tailBits d),
        3) := by
  have hone : ¬ a < 0x80 := by
    simp only [UInt8.lt_iff_toNat_lt, UInt8.reduceToNat]
    omega
  have hrange : (decide (0xf0 ≤ a) && decide (a ≤ 0xf4) && isTail b && isTail c && isTail d
      && (a != 0xf0 || decide (0x90 ≤ b)) && (a != 0xf4 || decide (b ≤ 0x8f))) = true := by
    simp only [Bool.and_eq_true, Bool.or_eq_true, decide_eq_true_eq, UInt8.le_iff_toNat_le,
      bne_iff_ne, ne_eq, ← UInt8.toNat_inj, UInt8.reduceToNat, hb, hc, hd, and_true]
    omega
  rw [characterAt?.eq_def, if_neg hone]
  dsimp only
  rw [if_pos hrange]

/-! ## Whole characters -/

/-- **A character is read from its bytes,** and all of them are taken. -/
theorem characterAt?_encode (c : Char) : ∃ a behind, String.utf8EncodeChar c = a :: behind ∧
    ∀ rest, characterAt? a (behind ++ rest) = some (c, behind.length) := by
  have hvalid : c.toNat < 0xd800 ∨ 0xdfff < c.toNat ∧ c.toNat < 0x110000 := c.valid
  have hval : c.val.toNat = c.toNat := rfl
  by_cases hone : c.toNat < 128
  · exact ⟨byteOf c, [], utf8EncodeChar_of_lt hone, characterAt?_byteOf hone⟩
  rw [String.utf8EncodeChar]
  simp only [hval]
  rw [if_neg (by omega)]
  split
  · next htwo =>
    refine ⟨_, _, rfl, fun rest => ?_⟩
    have ha : (UInt8.ofNat (c.toNat / 64 % 32 + 192)).toNat = c.toNat / 64 + 192 := by
      rw [UInt8.toNat_ofNat']
      omega
    have hcode : (c.toNat / 64 + 192) % 32 * 64 + c.toNat % 64 = c.toNat := by omega
    refine (characterAt?_two (by omega) (by omega) (isTail_tail _) rest).trans ?_
    rw [ha, tailBits_tail, hcode, Char.ofNat_toNat]
    rfl
  split
  · next htwo hthree =>
    refine ⟨_, _, rfl, fun rest => ?_⟩
    have ha : (UInt8.ofNat (c.toNat / 4096 % 16 + 224)).toNat = c.toNat / 4096 + 224 := by
      rw [UInt8.toNat_ofNat']
      omega
    have hcode : (c.toNat / 4096 + 224) % 16 * 4096 + c.toNat / 64 % 64 * 64 + c.toNat % 64 =
      c.toNat := by omega
    have hb := toNat_tail (c.toNat / 64)
    refine (characterAt?_three (by omega) (by omega) (isTail_tail _) (isTail_tail _) (by omega)
      (by omega) rest).trans ?_
    rw [ha, tailBits_tail, tailBits_tail, hcode, Char.ofNat_toNat]
    rfl
  · next htwo hthree =>
    refine ⟨_, _, rfl, fun rest => ?_⟩
    have ha : (UInt8.ofNat (c.toNat / 262144 % 8 + 240)).toNat = c.toNat / 262144 + 240 := by
      rw [UInt8.toNat_ofNat']
      omega
    have hcode : (c.toNat / 262144 + 240) % 8 * 262144 + c.toNat / 4096 % 64 * 4096
      + c.toNat / 64 % 64 * 64 + c.toNat % 64 = c.toNat := by omega
    have hb := toNat_tail (c.toNat / 4096)
    refine (characterAt?_four (by omega) (by omega) (isTail_tail _) (isTail_tail _)
      (isTail_tail _) (by omega) (by omega) rest).trans ?_
    rw [ha, tailBits_tail, tailBits_tail, tailBits_tail, hcode, Char.ofNat_toNat]
    rfl

end Text

open Text

/-- **The bytes of a text are read as its characters.** -/
theorem Json.Source.ofBytes_bytes (s : String) : ofBytes (bytes s) = ofString s := by
  have hlist : ∀ cs : List Char, ofBytes (cs.flatMap String.utf8EncodeChar) = cs.map some := by
    intro cs
    induction cs with
    | nil => rw [List.flatMap_nil, ofBytes, List.map_nil]
    | cons c cs ih =>
      obtain ⟨a, behind, hencode, hread⟩ := characterAt?_encode c
      rw [List.flatMap_cons, hencode, List.cons_append, ofBytes, hread]
      dsimp only
      rw [List.drop_left, ih, List.map_cons]
  have hs := hlist s.toList
  rwa [← bytes_ofList, String.ofList_toList] at hs

end Switchboard
