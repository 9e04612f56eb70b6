import Switchboard.Proofs.Task.Success
import Switchboard.Proofs.Text.Bytes
import Switchboard.Text.Base64
import Switchboard.Text.Blank
/-!
# What base64 text spells

Bytes are written as the symbols of certain numbers (`Base64.numbers`), and behind them padding.
Reading is the exact inverse: it comes to some bytes if and only if the symbols spell them
(`Base64.decode_eq_ok_iff`), which leaves nothing but the padding open, and that only where it is
not required. So no two texts are read as the same bytes but for their padding, and every text that
was written is read.

Lines make no difference to a reader that leaves out what is between them (`Base64.filter_wrap`).
-/

namespace Switchboard

namespace Base64

open Text (byteOf)

variable {a : Alphabet} {b : UInt8} {n start i j k m : Nat} {required : Bool}
variable {bs out : List UInt8} {ns values : List Nat}

/-! ## Symbols -/

theorem value?_pad (a : Alphabet) : a.value? pad = none := by
  cases a <;> decide

theorem symbol_of_value?_ofNat (a : Alphabet) : ∀ m < 256, ∀ n ∈ a.value? (UInt8.ofNat m),
    n < 64 ∧ UInt8.ofNat m = byteOf (a.symbol n) := by
  cases a <;> decide +kernel

/-- **A byte stands for a number exactly if it is its symbol.** -/
theorem value?_eq_some_iff : a.value? b = some n ↔ n < 64 ∧ b = byteOf (a.symbol n) := by
  constructor
  · intro h
    rw [← UInt8.ofNat_toNat (x := b)] at h ⊢
    exact symbol_of_value?_ofNat a b.toNat b.toNat_lt n h
  · rintro ⟨hn, rfl⟩
    exact a.value?_symbol n hn

/-- Symbols are characters of seven bits, and none is a padding symbol or blank. -/
theorem symbol_plain (a : Alphabet) : ∀ n < 64, (a.symbol n).toNat < 128 ∧ a.symbol n ≠ '=' ∧
    Text.isBlank (a.symbol n) = false := by
  cases a <;> decide

theorem byteOf_symbol_ne_pad (hn : n < 64) : byteOf (a.symbol n) ≠ pad := by
  intro h
  have hvalue := a.value?_symbol n hn
  rw [← byteOf, h, value?_pad] at hvalue
  cases hvalue

theorem valueAt_eq_ok_iff {place : Nat} :
    valueAt a place b = .ok n ↔ n < 64 ∧ b = byteOf (a.symbol n) := by
  rw [valueAt, ← value?_eq_some_iff]
  cases a.value? b with
  | some v => exact ⟨fun h => congrArg some (Except.ok.inj h), fun h => h ▸ rfl⟩
  | none => exact ⟨fun h => (by cases h), fun h => (by cases h)⟩

/-! ## What bytes are written as -/

/-- The numbers of the symbols that bytes are written as. -/
def numbers : List UInt8 → List Nat
  | [] => []
  | [x] => [x.toNat / 4, x.toNat % 4 * 16]
  | [x, y] => [x.toNat / 4, x.toNat % 4 * 16 + y.toNat / 16, y.toNat % 16 * 4]
  | x :: y :: z :: rest =>
    x.toNat / 4 :: (x.toNat % 4 * 16 + y.toNat / 16) :: (y.toNat % 16 * 4 + z.toNat / 64)
      :: z.toNat % 64 :: numbers rest

theorem numbers_lt (bs : List UInt8) : ∀ n ∈ numbers bs, n < 64 := by
  fun_induction numbers bs with
  | case1 => exact List.forall_mem_nil _
  | case2 x =>
    have hx := x.toNat_lt
    simp only [List.forall_mem_cons]
    exact ⟨by omega, by omega, List.forall_mem_nil _⟩
  | case3 x y =>
    have hx := x.toNat_lt
    have hy := y.toNat_lt
    simp only [List.forall_mem_cons]
    exact ⟨by omega, by omega, by omega, List.forall_mem_nil _⟩
  | case4 x y z rest ih =>
    have hx := x.toNat_lt
    have hy := y.toNat_lt
    have hz := z.toNat_lt
    simp only [List.forall_mem_cons]
    exact ⟨by omega, by omega, by omega, by omega, ih⟩

/-- There are more symbols than bytes. -/
theorem lt_length_numbers (h : bs ≠ []) : bs.length < (numbers bs).length := by
  fun_induction numbers bs with
  | case1 => exact absurd rfl h
  | case2 x => exact Nat.lt_succ_self 1
  | case3 x y => exact Nat.lt_succ_self 2
  | case4 x y z rest ih =>
    have hrest : rest.length ≤ (numbers rest).length := by
      cases rest with
      | nil => exact Nat.zero_le _
      | cons w rest => exact Nat.le_of_lt (ih (List.cons_ne_nil _ _))
    simp only [List.length_cons]
    omega

/-- Of up to three bytes there is one symbol more than bytes. -/
theorem length_numbers (h : bs.length ≤ 3) (hne : bs ≠ []) :
    (numbers bs).length = bs.length + 1 := by
  match bs, h, hne with
  | [x], _, _ => rfl
  | [x, y], _, _ => rfl
  | [x, y, z], _, _ => rfl

/-- How much padding fills the last group up, where so many bytes are written. -/
def padding (n : Nat) : Nat := (3 - n % 3) % 3

/-- **The symbols of bytes,** and behind them their padding. -/
theorem encode_eq (a : Alphabet) (padded : Bool) (bs : List UInt8) :
    encode a padded bs = (numbers bs).map a.symbol ++
      if padded then List.replicate (padding bs.length) '=' else [] := by
  fun_induction numbers bs with
  | case1 => cases padded <;> rfl
  | case2 x => cases padded <;> rfl
  | case3 x y => cases padded <;> rfl
  | case4 x y z rest ih =>
    have hpadding : padding (x :: y :: z :: rest).length = padding rest.length := by
      rw [padding, padding, List.length_cons, List.length_cons, List.length_cons]
      omega
    rw [encode, ih, hpadding]
    rfl

/-- The symbols of bytes, without padding, as bytes. -/
def written (a : Alphabet) (bs : List UInt8) : List UInt8 :=
  (numbers bs).map fun n => byteOf (a.symbol n)

/-- **What symbols spell:** they are those of the bytes, with at most as much padding as the last
group has room for, and all of it where it is required. -/
def Spells (a : Alphabet) (required : Bool) (bs out : List UInt8) : Prop :=
  ∃ k ≤ padding out.length, bs = written a out ++ List.replicate k pad ∧
    (required = true → k = padding out.length)

/-! ## The last group -/

/-- Padding that follows two symbols at least goes on up to the end. -/
theorem lastGroup_padding (hi : 2 ≤ i) :
    lastGroup a start i values j (List.replicate m pad) = .ok (values, j + m) := by
  induction m generalizing i j with
  | zero => rfl
  | succ m ih =>
    rw [List.replicate_succ, lastGroup, if_pos rfl, if_neg (Nat.not_lt.2 hi), ih (by omega)]
    rw [Nat.add_assoc, Nat.add_comm 1 m]

theorem lastGroup_symbols (hns : ∀ n ∈ ns, n < 64) (hm : 0 < m → 2 ≤ i + ns.length) :
    lastGroup a start i values 0
        (ns.map (fun n => byteOf (a.symbol n)) ++ List.replicate m pad) =
      .ok (values ++ ns, m) := by
  induction ns generalizing i values with
  | nil =>
    rw [List.map_nil, List.nil_append, List.append_nil]
    cases m with
    | zero => rfl
    | succ m =>
      have hi : 2 ≤ i := hm (Nat.succ_pos m)
      rw [lastGroup_padding hi, Nat.zero_add]
  | cons n rest ih =>
    rw [List.forall_mem_cons] at hns
    rw [List.map_cons, List.cons_append, lastGroup, if_neg (byteOf_symbol_ne_pad hns.1),
      if_neg (Nat.lt_irrefl 0), valueAt_eq_ok_iff.2 ⟨hns.1, rfl⟩]
    change lastGroup a start (i + 1) (values ++ [n]) 0 _ = _
    rw [ih hns.2 (fun h => by have := hm h; rw [List.length_cons] at this; omega),
      List.append_assoc]
    rfl

/-- A last group that is read consists of symbols and padding behind them. -/
theorem lastGroup_eq_ok {read : List Nat × Nat}
    (h : lastGroup a start i values j bs = .ok read) :
    ∃ ns m, read = (values ++ ns, j + m) ∧ (∀ n ∈ ns, n < 64) ∧
      bs = ns.map (fun n => byteOf (a.symbol n)) ++ List.replicate m pad ∧
      (0 < j → ns = []) ∧ (0 < m → 2 ≤ i + ns.length) := by
  induction bs generalizing i j values with
  | nil =>
    cases h
    exact ⟨[], 0, by simp, List.forall_mem_nil _, rfl, fun _ => rfl, fun h => absurd h (by decide)⟩
  | cons b rest ih =>
    rw [lastGroup] at h
    by_cases hb : b = pad
    · -- Behind padding there is nothing but padding.
      rw [if_pos hb] at h
      by_cases hi : i < 2
      · rw [if_pos hi] at h
        cases h
      · rw [if_neg hi] at h
        obtain ⟨ns, m, hread, -, hrest, hnone, -⟩ := ih h
        obtain rfl := hnone (Nat.succ_pos j)
        refine ⟨[], m + 1, ?_, List.forall_mem_nil _, ?_, fun _ => rfl, fun _ => by omega⟩
        · rw [hread, Nat.add_assoc, Nat.add_comm 1 m]
        · rw [hrest, hb, List.replicate_succ]
          rfl
    · -- A symbol is refused behind padding. Elsewhere it is the next number.
      rw [if_neg hb] at h
      by_cases hj : 0 < j
      · rw [if_pos hj] at h
        cases h
      · rw [if_neg hj] at h
        cases hvalue : valueAt a (start + i) b with
        | error e =>
          rw [hvalue] at h
          cases h
        | ok n =>
          rw [hvalue] at h
          obtain ⟨ns, m, hread, hns, hrest, -, hm⟩ := ih h
          obtain ⟨hn, rfl⟩ := valueAt_eq_ok_iff.1 hvalue
          refine ⟨n :: ns, m, ?_, List.forall_mem_cons.2 ⟨hn, hns⟩, ?_, fun h => absurd h hj, ?_⟩
          · rw [hread, List.append_assoc]
            rfl
          · rw [hrest]
            rfl
          · intro hpos
            have := hm hpos
            rw [List.length_cons]
            omega

/-- The bytes of a group are read from its numbers, and no bits are left over, -/
theorem groupBytes_numbers (h : bs.length ≤ 3) : groupBytes (numbers bs) = (bs, 0) := by
  match bs, h with
  | [], _ => rfl
  | [x], _ =>
    have hx := x.toNat_lt
    simp only [numbers, groupBytes]
    rw [show x.toNat / 4 * 4 + x.toNat % 4 * 16 / 16 = x.toNat by omega, UInt8.ofNat_toNat,
      show x.toNat % 4 * 16 % 16 = 0 by omega]
  | [x, y], _ =>
    have hx := x.toNat_lt
    have hy := y.toNat_lt
    simp only [numbers, groupBytes]
    rw [show x.toNat / 4 * 4 + (x.toNat % 4 * 16 + y.toNat / 16) / 16 = x.toNat by omega,
      show (x.toNat % 4 * 16 + y.toNat / 16) % 16 * 16 + y.toNat % 16 * 4 / 4 = y.toNat by omega,
      show y.toNat % 16 * 4 % 4 = 0 by omega, UInt8.ofNat_toNat, UInt8.ofNat_toNat]
  | [x, y, z], _ =>
    have hx := x.toNat_lt
    have hy := y.toNat_lt
    have hz := z.toNat_lt
    simp only [numbers, groupBytes]
    rw [show x.toNat / 4 * 4 + (x.toNat % 4 * 16 + y.toNat / 16) / 16 = x.toNat by omega,
      show (x.toNat % 4 * 16 + y.toNat / 16) % 16 * 16 + (y.toNat % 16 * 4 + z.toNat / 64) / 4 =
        y.toNat by omega,
      show (y.toNat % 16 * 4 + z.toNat / 64) % 4 * 64 + z.toNat % 64 = z.toNat by omega,
      UInt8.ofNat_toNat, UInt8.ofNat_toNat, UInt8.ofNat_toNat]

/-- and a group's numbers are those of its bytes, if no bits are left over. -/
theorem numbers_groupBytes (hns : ∀ n ∈ ns, n < 64) (hlength : ns.length ≤ 4)
    (hone : ns.length ≠ 1) (hspare : (groupBytes ns).2 = 0) :
    numbers (groupBytes ns).1 = ns ∧ padding (groupBytes ns).1.length = (4 - ns.length) % 4 := by
  match ns, hns, hlength, hone, hspare with
  | [], _, _, _, _ => exact ⟨rfl, rfl⟩
  | [p, q], hns, _, _, hspare =>
    simp only [List.forall_mem_cons] at hns
    simp only [groupBytes] at hspare
    refine ⟨?_, rfl⟩
    simp only [groupBytes, numbers, UInt8.toNat_ofNat', List.cons.injEq, and_true]
    omega
  | [p, q, r], hns, _, _, hspare =>
    simp only [List.forall_mem_cons] at hns
    simp only [groupBytes] at hspare
    refine ⟨?_, rfl⟩
    simp only [groupBytes, numbers, UInt8.toNat_ofNat', List.cons.injEq, and_true]
    omega
  | [p, q, r, s], hns, _, _, _ =>
    simp only [List.forall_mem_cons] at hns
    refine ⟨?_, by simp [groupBytes, padding]⟩
    simp only [groupBytes, numbers, UInt8.toNat_ofNat', List.cons.injEq, and_true]
    omega
  | _ :: _ :: _ :: _ :: _ :: _, _, hlength, _, _ =>
    simp only [List.length_cons] at hlength
    omega

/-- What is checked of a last group whose symbols have been read. -/
theorem decodeLast_eq_ok_of_read (hread : lastGroup a start 0 [] 0 bs = .ok (ns, m)) :
    decodeLast a required start bs = .ok out ↔
      ¬((bs ≠ [] ∨ start ≠ 0) ∧ ns.length < 2) ∧ ¬(required ∧ (m + ns.length) % 4 ≠ 0) ∧
        groupBytes ns = (out, 0) := by
  rw [decodeLast, hread]
  change (if (bs ≠ [] ∨ start ≠ 0) ∧ ns.length < 2 then _ else _) = _ ↔ _
  by_cases hshort : (bs ≠ [] ∨ start ≠ 0) ∧ ns.length < 2
  · rw [if_pos hshort]
    exact ⟨fun h => (by cases h), fun h => absurd hshort h.1⟩
  rw [if_neg hshort]
  by_cases hpadding : required ∧ (m + ns.length) % 4 ≠ 0
  · rw [if_pos hpadding]
    exact ⟨fun h => (by cases h), fun h => absurd hpadding h.2.1⟩
  rw [if_neg hpadding]
  change (if (groupBytes ns).2 ≠ 0 then _ else _) = _ ↔ _
  by_cases hspare : (groupBytes ns).2 = 0
  · rw [if_neg (not_not_intro hspare)]
    refine ⟨fun h => ⟨hshort, hpadding, Prod.ext (Except.ok.inj h) hspare⟩, fun h => ?_⟩
    exact congrArg Except.ok (congrArg Prod.fst h.2.2)
  · rw [if_pos hspare]
    exact ⟨fun h => (by cases h), fun h => absurd (congrArg Prod.snd h.2.2) hspare⟩

/-- A last group that is read spells what it is read as, -/
theorem spells_of_decodeLast (h : decodeLast a required start bs = .ok out)
    (hlength : bs.length ≤ 4) : Spells a required bs out := by
  cases hread : lastGroup a start 0 [] 0 bs with
  | error e =>
    rw [decodeLast, hread] at h
    cases h
  | ok read =>
    obtain ⟨ns, m, rfl, hns, hbs, -, hm⟩ := lastGroup_eq_ok hread
    rw [List.nil_append, Nat.zero_add] at hread
    rw [Nat.zero_add] at hm
    obtain ⟨hshort, hpadding, hgroup⟩ := (decodeLast_eq_ok_of_read hread).1 h
    have hsum : ns.length + m ≤ 4 := by
      rw [hbs, List.length_append, List.length_map, List.length_replicate] at hlength
      exact hlength
    -- A single symbol would have been refused as too short.
    have hone : ns.length ≠ 1 := by
      intro hone
      refine hshort ⟨.inl fun hnil => ?_, by omega⟩
      rw [hnil] at hbs
      have hnone := (List.append_eq_nil_iff.1 hbs.symm).1
      rw [List.map_eq_nil_iff.1 hnone] at hone
      cases hone
    obtain ⟨hnumbers, hroom⟩ := numbers_groupBytes hns (by omega) hone (by rw [hgroup])
    rw [hgroup] at hnumbers hroom
    dsimp only at hnumbers hroom
    refine ⟨m, ?_, ?_, fun hrequired => ?_⟩
    · omega
    · rw [hbs, written, hnumbers]
    · have : ¬ (m + ns.length) % 4 ≠ 0 := fun hmod => hpadding ⟨hrequired, hmod⟩
      omega

/-- and one that spells some bytes is read as them. -/
theorem decodeLast_of_spells (h : Spells a required bs out) (hlength : bs.length ≤ 4)
    (hstart : bs ≠ [] ∨ start = 0) : decodeLast a required start bs = .ok out := by
  obtain ⟨k, hk, rfl, hrequired⟩ := h
  rw [List.length_append, written, List.length_map, List.length_replicate] at hlength
  by_cases hout : out = []
  · subst hout
    obtain rfl : k = 0 := Nat.le_zero.1 hk
    have hzero : start = 0 := hstart.resolve_left fun hne => hne rfl
    have hread : lastGroup a start 0 [] 0 (written a [] ++ List.replicate 0 pad) = .ok ([], 0) :=
      rfl
    rw [decodeLast_eq_ok_of_read hread]
    exact ⟨fun h => h.1.elim (fun hne => hne rfl) (fun hne => hne hzero), fun h => h.2 rfl, rfl⟩
  · have hthree : out.length ≤ 3 := by
      have := lt_length_numbers hout
      omega
    have hmore := length_numbers hthree hout
    have hpos := List.length_pos_iff.2 hout
    have hread : lastGroup a start 0 [] 0 (written a out ++ List.replicate k pad) =
        .ok ([] ++ numbers out, k) :=
      lastGroup_symbols (numbers_lt out) fun _ => by omega
    rw [padding] at hk hrequired
    rw [decodeLast_eq_ok_of_read hread]
    refine ⟨fun h => ?_, fun h => h.2 ?_, groupBytes_numbers hthree⟩
    · have := h.2
      rw [List.nil_append] at this
      omega
    · rw [hrequired h.1, List.nil_append]
      omega

/-! ## The whole text -/

/-- Three more bytes are spelled by four more symbols. -/
theorem spells_group {x y z : UInt8} : Spells a required bs (x :: y :: z :: out) ↔
    ∃ rest, bs = written a [x, y, z] ++ rest ∧ Spells a required rest out := by
  have hroom : padding (x :: y :: z :: out).length = padding out.length := by
    simp only [padding, List.length_cons]
    omega
  have hwritten : written a (x :: y :: z :: out) = written a [x, y, z] ++ written a out := rfl
  rw [Spells, hroom, hwritten]
  constructor
  · rintro ⟨k, hk, rfl, hrequired⟩
    exact ⟨_, List.append_assoc _ _ _, k, hk, rfl, hrequired⟩
  · rintro ⟨_, rfl, k, hk, rfl, hrequired⟩
    exact ⟨k, hk, (List.append_assoc _ _ _).symm, hrequired⟩

/-- Up to three bytes make one group. -/
theorem length_le_of_spells (h : Spells a required bs out) (hthree : out.length ≤ 3) :
    bs.length ≤ 4 := by
  obtain ⟨k, hk, rfl, -⟩ := h
  rw [List.length_append, written, List.length_map, List.length_replicate]
  rw [padding] at hk
  by_cases hout : out = []
  · subst hout
    obtain rfl : k = 0 := Nat.le_zero.1 hk
    decide
  · have hmore := length_numbers hthree hout
    have hpos := List.length_pos_iff.2 hout
    omega

/-- What more than one group spells starts with three bytes. -/
theorem exists_group_of_spells (h : Spells a required bs out) (hlength : 4 < bs.length) :
    ∃ x y z rest, out = x :: y :: z :: rest := by
  match out, h with
  | x :: y :: z :: rest, _ => exact ⟨x, y, z, rest, rfl⟩
  | [], h | [_], h | [_, _], h =>
    have hgroup := length_le_of_spells h (by simp)
    omega

/-- **Symbols are read as some bytes exactly if they spell them,** group by group, -/
theorem decodeFrom_eq_ok_iff (hstart : bs ≠ [] ∨ start = 0) :
    decodeFrom a required start bs = .ok out ↔ Spells a required bs out := by
  fun_induction decodeFrom a required start bs generalizing out with
  | case1 start p q r s t rest ih =>
    -- The first of several groups has four symbols, and there is a byte behind it.
    simp only [bind_eq_ok_iff, valueAt_eq_ok_iff, ih (.inl (List.cons_ne_nil t rest))]
    constructor
    · rintro ⟨n₁, ⟨h₁, rfl⟩, n₂, ⟨h₂, rfl⟩, n₃, ⟨h₃, rfl⟩, n₄, ⟨h₄, rfl⟩, out', hrest, hout⟩
      obtain rfl := Except.ok.inj hout
      have hns : ∀ n ∈ [n₁, n₂, n₃, n₄], n < 64 := by
        simpa only [List.forall_mem_cons] using ⟨h₁, h₂, h₃, h₄, List.forall_mem_nil _⟩
      obtain ⟨hnumbers, -⟩ := numbers_groupBytes hns (Nat.le_refl 4) (by simp) rfl
      refine spells_group.2 ⟨_, ?_, hrest⟩
      rw [written]
      exact congrArg (fun ns => ns.map (fun n => byteOf (a.symbol n)) ++ t :: rest) hnumbers.symm
    · intro h
      obtain ⟨x, y, z, out', rfl⟩ := exists_group_of_spells h (by simp)
      obtain ⟨rest', heq, hrest⟩ := spells_group.1 h
      obtain ⟨rfl, rfl, rfl, rfl, rfl⟩ : _ ∧ _ ∧ _ ∧ _ ∧ _ := by
        simpa only [written, numbers, List.map_cons, List.cons_append, List.map_nil,
          List.nil_append, List.cons.injEq] using heq
      have hns := numbers_lt [x, y, z]
      simp only [numbers, List.forall_mem_cons] at hns
      obtain ⟨h₁, h₂, h₃, h₄, -⟩ := hns
      refine ⟨_, ⟨h₁, rfl⟩, _, ⟨h₂, rfl⟩, _, ⟨h₃, rfl⟩, _, ⟨h₄, rfl⟩, out', hrest, ?_⟩
      exact congrArg (fun read => Except.ok (read.1 ++ out'))
        (groupBytes_numbers (Nat.le_refl [x, y, z].length))
  | case2 start bs hshort =>
    have hlength : bs.length ≤ 4 := by
      match bs, hshort with
      | [], _ | [_], _ | [_, _], _ | [_, _, _], _ | [_, _, _, _], _ => simp
      | p :: q :: r :: s :: t :: rest, hshort => exact absurd rfl (hshort p q r s t rest)
    exact ⟨fun h => spells_of_decodeLast h hlength,
      fun h => decodeLast_of_spells h hlength hstart⟩

theorem value?_of_mem_spelled (h : Spells a required bs out) (hb : b ∈ bs) :
    b = pad ∨ ∃ n, a.value? b = some n := by
  obtain ⟨k, -, rfl, -⟩ := h
  rcases List.mem_append.1 hb with hb | hb
  · obtain ⟨n, hn, rfl⟩ := List.mem_map.1 hb
    exact .inr ⟨n, value?_eq_some_iff.2 ⟨numbers_lt out n hn, rfl⟩⟩
  · exact .inl (List.eq_of_mem_replicate hb)

/-- no matter what is reported first where they do not. -/
theorem decode_eq_ok_iff : decode a required bs = .ok out ↔ Spells a required bs out := by
  rw [decode, ← decodeFrom_eq_ok_iff (.inr rfl)]
  cases hlast : bs.getLast? with
  | none =>
    obtain rfl := List.getLast?_eq_none_iff.1 hlast
    cases required <;> rfl
  | some b =>
    dsimp only
    split
    · next hodd =>
      -- Text that spells something ends in padding, or in the symbol of a number.
      refine ⟨fun h => (by cases h), fun h => ?_⟩
      rcases value?_of_mem_spelled ((decodeFrom_eq_ok_iff (.inr rfl)).1 h)
        (List.mem_of_getLast? hlast) with hpad | ⟨n, hn⟩
      · exact absurd hpad hodd.2.1
      · rw [hodd.2.2] at hn
        cases hn
    · rfl

/-! ## Texts -/

/-- Padding stands behind the symbols. -/
theorem encode_padded (a : Alphabet) (out : List UInt8) :
    encode a true out = encode a false out ++ List.replicate (padding out.length) '=' := by
  rw [encode_eq, encode_eq a false, if_pos rfl, if_neg Bool.false_ne_true, List.append_nil]

theorem symbol_of_mem_encode {c : Char} (h : c ∈ encode a false out) :
    ∃ n < 64, c = a.symbol n := by
  rw [encode_eq, if_neg Bool.false_ne_true, List.append_nil] at h
  obtain ⟨n, hn, rfl⟩ := List.mem_map.1 h
  exact ⟨n, numbers_lt out n hn, rfl⟩

theorem ne_padding_of_mem_encode {c : Char} (h : c ∈ encode a false out) : c ≠ '=' := by
  obtain ⟨n, hn, rfl⟩ := symbol_of_mem_encode h
  exact (symbol_plain a n hn).2.1

/-- What is written consists of characters of seven bits that are not blank. -/
theorem plain_of_mem_encode {c : Char} {padded : Bool} (h : c ∈ encode a padded out) :
    c.toNat < 128 ∧ Text.isBlank c = false := by
  have hsymbol (h : c ∈ encode a false out) : c.toNat < 128 ∧ Text.isBlank c = false := by
    obtain ⟨n, hn, rfl⟩ := symbol_of_mem_encode h
    exact ⟨(symbol_plain a n hn).1, (symbol_plain a n hn).2.2⟩
  cases padded with
  | false => exact hsymbol h
  | true =>
    rw [encode_padded] at h
    rcases List.mem_append.1 h with h | h
    · exact hsymbol h
    · obtain rfl := List.eq_of_mem_replicate h
      decide

/-- **The texts that spell some bytes:** their symbols with as much padding as there is room for. -/
theorem spells_bytes_iff {s : String} : Spells a required (Text.bytes s) out ↔
    ∃ k ≤ padding out.length, s = String.ofList (encode a false out ++ List.replicate k '=') ∧
      (required = true → k = padding out.length) := by
  refine exists_congr fun k => and_congr_right fun hk => and_congr_left fun _ => ?_
  have hwritten : written a out ++ List.replicate k pad =
      (encode a false out ++ List.replicate k '=').map byteOf := by
    rw [encode_eq, if_neg Bool.false_ne_true, List.append_nil, List.map_append, List.map_map,
      List.map_replicate]
    rfl
  have hseven : ∀ c ∈ encode a false out ++ List.replicate k '=', c.toNat < 128 := by
    intro c hc
    rcases List.mem_append.1 hc with hc | hc
    · exact (plain_of_mem_encode hc).1
    · obtain rfl := List.eq_of_mem_replicate hc
      decide
  rw [hwritten]
  refine ⟨Text.eq_ofList_of_bytes hseven, fun h => ?_⟩
  rw [h, Text.bytes_ofList_of_lt hseven]

/-! ## Lines -/

/-- **A reader that leaves out what ends lines** does not see them. -/
theorem filter_wrap {keep : Char → Bool} {cs : List Char} (hcs : ∀ c ∈ cs, keep c = true)
    (hreturn : keep '\r' = false) (hnewline : keep '\n' = false) :
    (wrap cs).filter keep = cs := by
  fun_induction wrap cs with
  | case1 cs hshort => exact List.filter_eq_self.2 hcs
  | case2 cs hlong ih =>
    have htake : (cs.take lineLength).filter keep = cs.take lineLength :=
      List.filter_eq_self.2 fun c hc => hcs c (List.mem_of_mem_take hc)
    rw [List.filter_append, htake, List.filter_cons_of_neg (by simp [hreturn]),
      List.filter_cons_of_neg (by simp [hnewline]), ih fun c hc => hcs c (List.mem_of_mem_drop hc),
      List.take_append_drop]

end Base64

end Switchboard
