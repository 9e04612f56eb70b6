import Switchboard.Proofs.Task.Success
import Switchboard.Proofs.Text.Bytes
import Switchboard.Text.Blank
import Switchboard.Text.Hex
/-!
# What hexadecimal text spells

What was written in hexadecimal is read back (`Hex.decode_encode`), and whatever is read is in lower
case what would be written (`Hex.eq_encode_of_decode`).
-/

namespace Switchboard

namespace Text

/-- Written digits are characters of seven bits, and not blank. -/
theorem hexDigit_plain : ∀ n < 16, (hexDigit n).toNat < 128 ∧ isBlank (hexDigit n) = false := by
  decide

theorem lt_of_hexValue? {c : Char} {n : Nat} (h : hexValue? c = some n) : c.toNat < 128 := by
  have hbound {d : Char} (hd : d.toNat < 128) (hc : c ≤ d) : c.toNat < 128 :=
    Nat.lt_of_le_of_lt hc hd
  rw [hexValue?] at h
  split at h
  · next hc => exact hbound (by decide) hc.2
  split at h
  · next hc => exact hbound (by decide) hc.2
  split at h
  · next hc => exact hbound (by decide) hc.2
  · cases h

theorem hexDigit_of_hexValue?_ofNat : ∀ m < 128, ∀ n ∈ hexValue? (Char.ofNat m),
    n < 16 ∧ hexDigit n = (Char.ofNat m).toLower := by
  decide +kernel

/-- A digit that has been read is in lower case the one that is written. -/
theorem hexDigit_of_hexValue? {c : Char} {n : Nat} (h : hexValue? c = some n) :
    n < 16 ∧ hexDigit n = c.toLower := by
  have hc := lt_of_hexValue? h
  rw [← Char.ofNat_toNat c] at h ⊢
  exact hexDigit_of_hexValue?_ofNat c.toNat hc n h

end Text

namespace Hex

open Text (byteOf hexDigit hexValue? hexDigit_plain)

variable {b : UInt8} {n place : Nat} {bs out : List UInt8}

theorem encode_cons (b : UInt8) (rest : List UInt8) :
    encode (b :: rest) = encode [b] ++ encode rest := rfl

/-- Digits are characters of seven bits, and not blank. -/
theorem plain_of_mem_encode {c : Char} (h : c ∈ encode out) :
    c.toNat < 128 ∧ Text.isBlank c = false := by
  obtain ⟨b, -, hc⟩ := List.mem_flatMap.1 h
  have hb := b.toNat_lt
  simp only [List.mem_cons, List.not_mem_nil, or_false] at hc
  rcases hc with rfl | rfl
  · exact hexDigit_plain _ (by omega)
  · exact hexDigit_plain _ (by omega)

theorem valueAt_hexDigit (place : Nat) (hn : n < 16) :
    valueAt place (byteOf (hexDigit n)) = .ok n := by
  rw [valueAt, Text.ofNat_toNat_byteOf (hexDigit_plain n hn).1, Text.hexValue?_hexDigit n hn]

theorem valueAt_eq_ok (h : valueAt place b = .ok n) :
    ∃ c, c.toNat < 128 ∧ b = byteOf c ∧ n < 16 ∧ hexDigit n = c.toLower := by
  rw [valueAt] at h
  cases hvalue : hexValue? (Char.ofNat b.toNat) with
  | none =>
    rw [hvalue] at h
    cases h
  | some m =>
    rw [hvalue] at h
    cases h
    exact ⟨_, Text.lt_of_hexValue? hvalue, (Text.byteOf_ofNat b).symm,
      Text.hexDigit_of_hexValue? hvalue⟩

theorem byte_of_digits (b : UInt8) :
    UInt8.ofNat (b.toNat / 16 * 16 + b.toNat % 16) = b := by
  rw [Nat.mul_comm, Nat.div_add_mod, UInt8.ofNat_toNat]

theorem digits_of_byte {p q : Nat} (hp : p < 16) (hq : q < 16) :
    encode [UInt8.ofNat (p * 16 + q)] = [hexDigit p, hexDigit q] := by
  have hbyte : (UInt8.ofNat (p * 16 + q)).toNat = p * 16 + q := by
    rw [UInt8.toNat_ofNat', Nat.mod_eq_of_lt (by omega)]
  have hfirst : (p * 16 + q) / 16 = p := by omega
  have hsecond : (p * 16 + q) % 16 = q := by omega
  rw [encode, List.flatMap_cons, hbyte, hfirst, hsecond]
  rfl

theorem length_encode (out : List UInt8) : (encode out).length = 2 * out.length := by
  induction out with
  | nil => rfl
  | cons b rest ih =>
    rw [encode_cons, List.length_append, ih, List.length_cons, Nat.mul_succ, Nat.add_comm]
    rfl

theorem decodeFrom_encode (place : Nat) (out : List UInt8) :
    decodeFrom place ((encode out).map byteOf) = .ok out := by
  induction out generalizing place with
  | nil => rfl
  | cons b rest ih =>
    have hb := b.toNat_lt
    rw [encode_cons]
    change decodeFrom place (byteOf (hexDigit (b.toNat / 16)) :: byteOf (hexDigit (b.toNat % 16)) ::
      (encode rest).map byteOf) = _
    rw [decodeFrom, valueAt_hexDigit place (by omega), valueAt_hexDigit (place + 1) (by omega), ih]
    change Except.ok (UInt8.ofNat (b.toNat / 16 * 16 + b.toNat % 16) :: rest) = _
    rw [byte_of_digits]

/-- **What was written is read back.** -/
theorem decode_encode (out : List UInt8) : decode ((encode out).map byteOf) = .ok out := by
  rw [decode, if_neg, decodeFrom_encode]
  rw [List.length_map, length_encode]
  omega

theorem eq_encode_of_decodeFrom (heven : bs.length % 2 = 0) (h : decodeFrom place bs = .ok out) :
    ∃ cs : List Char, (∀ c ∈ cs, c.toNat < 128) ∧ bs = cs.map byteOf ∧
      cs.map Char.toLower = encode out := by
  fun_induction decodeFrom place bs generalizing out with
  | case1 place p q rest ih =>
    simp only [bind_eq_ok_iff] at h
    obtain ⟨m, hm, n, hn, out', hrest, hout⟩ := h
    obtain rfl := Except.ok.inj hout
    rw [List.length_cons, List.length_cons] at heven
    obtain ⟨c, hc, rfl, hm, hcm⟩ := valueAt_eq_ok hm
    obtain ⟨d, hd, rfl, hn, hdn⟩ := valueAt_eq_ok hn
    obtain ⟨cs, hcs, rfl, hlower⟩ := ih (by omega) hrest
    refine ⟨c :: d :: cs, ?_, rfl, ?_⟩
    · rw [List.forall_mem_cons, List.forall_mem_cons]
      exact ⟨hc, hd, hcs⟩
    · rw [encode_cons, digits_of_byte hm hn, List.map_cons, List.map_cons, hlower, hcm, hdn]
      rfl
  | case2 bs place hshort =>
    cases h
    -- A single byte is ruled out, as there is an even number of them.
    match bs, heven, hshort with
    | [], _, _ => exact ⟨[], List.forall_mem_nil _, rfl, rfl⟩
    | p :: q :: rest, _, hshort => exact absurd rfl (hshort p q rest)

/-- **What is read is in lower case what would be written.** -/
theorem eq_encode_of_decode (h : decode bs = .ok out) :
    ∃ cs : List Char, (∀ c ∈ cs, c.toNat < 128) ∧ bs = cs.map byteOf ∧
      cs.map Char.toLower = encode out := by
  rw [decode] at h
  split at h
  · cases h
  · next heven => exact eq_encode_of_decodeFrom (by omega) h

end Hex

end Switchboard
