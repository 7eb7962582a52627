import Mathlib.Data.List.GetD

/-- A Go string or byte slice, read as its bytes. -/
abbrev GoBytes := List UInt8

namespace GoBytes

/-- A fact about bytes is checked on the numbers below 256. -/
theorem forall_byte {P : UInt8 → Prop} (h : ∀ n < 256, P (UInt8.ofNat n)) (b : UInt8) : P b := by
  have hb := h b.toNat b.toNat_lt
  rwa [UInt8.ofNat_toNat] at hb

/-- `binary.BigEndian.Uint16(b[i:i+2])`. -/
def beUint16 (b : GoBytes) (i : Nat) : UInt16 :=
  (b.getD i 0).toUInt16 <<< 8 ||| (b.getD (i + 1) 0).toUInt16

/-- `binary.BigEndian.Uint32(b[i:i+4])`. -/
def beUint32 (b : GoBytes) (i : Nat) : UInt32 :=
  (b.getD i 0).toUInt32 <<< 24 ||| (b.getD (i + 1) 0).toUInt32 <<< 16 |||
    (b.getD (i + 2) 0).toUInt32 <<< 8 ||| (b.getD (i + 3) 0).toUInt32

theorem beUint16_append {b : GoBytes} {i : Nat} (h : i + 2 ≤ b.length) (tail : GoBytes) :
    beUint16 (b ++ tail) i = beUint16 b i := by
  unfold beUint16
  rw [List.getD_append _ _ _ _ (by omega), List.getD_append _ _ _ _ (by omega)]

theorem beUint32_append {b : GoBytes} {i : Nat} (h : i + 4 ≤ b.length) (tail : GoBytes) :
    beUint32 (b ++ tail) i = beUint32 b i := by
  unfold beUint32
  rw [List.getD_append _ _ _ _ (by omega), List.getD_append _ _ _ _ (by omega),
    List.getD_append _ _ _ _ (by omega), List.getD_append _ _ _ _ (by omega)]

/-- The bytes `binary.BigEndian.PutUint16` writes. -/
def putUint16 (v : UInt16) : GoBytes := [(v >>> 8).toUInt8, v.toUInt8]

/-- The bytes `binary.BigEndian.PutUint32` writes. -/
def putUint32 (v : UInt32) : GoBytes :=
  [(v >>> 24).toUInt8, (v >>> 16).toUInt8, (v >>> 8).toUInt8, v.toUInt8]

/-- The value a big-endian word stands for. -/
theorem toNat_beUint16 (b : GoBytes) (i : Nat) :
    (beUint16 b i).toNat = (b.getD i 0).toNat * 256 + (b.getD (i + 1) 0).toNat := by
  have hhigh := (b.getD i 0).toNat_lt
  have hlow := (b.getD (i + 1) 0).toNat_lt
  unfold beUint16
  simp only [UInt16.toNat_or, UInt16.toNat_shiftLeft, UInt8.toNat_toUInt16, UInt16.toNat_ofNat,
    Nat.reduceMod, Nat.reducePow]
  rw [Nat.mod_eq_of_lt (by rw [Nat.shiftLeft_eq]; omega),
    ← Nat.shiftLeft_add_eq_or_of_lt (by omega), Nat.shiftLeft_eq]

theorem toNat_beUint32 (b : GoBytes) (i : Nat) :
    (beUint32 b i).toNat = (b.getD i 0).toNat * 16777216 + (b.getD (i + 1) 0).toNat * 65536 +
      (b.getD (i + 2) 0).toNat * 256 + (b.getD (i + 3) 0).toNat := by
  have h₀ := (b.getD i 0).toNat_lt
  have h₁ := (b.getD (i + 1) 0).toNat_lt
  have h₂ := (b.getD (i + 2) 0).toNat_lt
  have h₃ := (b.getD (i + 3) 0).toNat_lt
  unfold beUint32
  simp only [UInt32.toNat_or, UInt32.toNat_shiftLeft, UInt8.toNat_toUInt32, UInt32.toNat_ofNat,
    Nat.reduceMod, Nat.reducePow]
  rw [Nat.or_assoc, Nat.or_assoc, Nat.mod_eq_of_lt (by rw [Nat.shiftLeft_eq]; omega),
    Nat.mod_eq_of_lt (by rw [Nat.shiftLeft_eq]; omega), Nat.mod_eq_of_lt (by rw [Nat.shiftLeft_eq]; omega),
    ← Nat.shiftLeft_add_eq_or_of_lt (by omega) ((b.getD (i + 2) 0).toNat),
    ← Nat.shiftLeft_add_eq_or_of_lt (by rw [Nat.shiftLeft_eq]; omega) ((b.getD (i + 1) 0).toNat),
    ← Nat.shiftLeft_add_eq_or_of_lt (by rw [Nat.shiftLeft_eq, Nat.shiftLeft_eq]; omega)]
  simp only [Nat.shiftLeft_eq]
  omega

theorem beUint16_putUint16 (front : GoBytes) (v : UInt16) (back : GoBytes) :
    beUint16 (front ++ (putUint16 v ++ back)) front.length = v := by
  have hv := v.toNat_lt
  apply UInt16.toNat_inj.mp
  rw [toNat_beUint16]
  simp [putUint16, Nat.shiftRight_eq_div_pow]
  omega

theorem beUint32_putUint32 (front : GoBytes) (v : UInt32) (back : GoBytes) :
    beUint32 (front ++ (putUint32 v ++ back)) front.length = v := by
  have hv := v.toNat_lt
  apply UInt32.toNat_inj.mp
  rw [toNat_beUint32]
  simp [putUint32, Nat.shiftRight_eq_div_pow]
  omega

/-- What stands at an offset is read from it. -/
theorem beUint16_of_drop {b : GoBytes} {i : Nat} {v : UInt16} {rest : GoBytes}
    (h : b.drop i = putUint16 v ++ rest) : beUint16 b i = v := by
  by_cases hi : i ≤ b.length
  · have hfront : (b.take i).length = i := by
      rw [List.length_take, Nat.min_eq_left hi]
    have hread := beUint16_putUint16 (b.take i) v rest
    rwa [← h, List.take_append_drop, hfront] at hread
  · rw [List.drop_of_length_le (by omega)] at h
    cases h

theorem beUint32_of_drop {b : GoBytes} {i : Nat} {v : UInt32} {rest : GoBytes}
    (h : b.drop i = putUint32 v ++ rest) : beUint32 b i = v := by
  by_cases hi : i ≤ b.length
  · have hfront : (b.take i).length = i := by
      rw [List.length_take, Nat.min_eq_left hi]
    have hread := beUint32_putUint32 (b.take i) v rest
    rwa [← h, List.take_append_drop, hfront] at hread
  · rw [List.drop_of_length_le (by omega)] at h
    cases h

/-- The bytes of a window, one by one. -/
theorem take_drop_eq_map {b : GoBytes} {i n : Nat} (h : i + n ≤ b.length) :
    (b.drop i).take n = (List.range n).map fun k => b.getD (i + k) 0 := by
  apply List.ext_getElem
  · simp
    omega
  · intro k hk hk'
    rw [List.length_map, List.length_range] at hk'
    simp [List.getElem?_eq_getElem (show i + k < b.length by omega)]

theorem putUint16_beUint16 {b : GoBytes} {i : Nat} (h : i + 2 ≤ b.length) :
    putUint16 (beUint16 b i) = (b.drop i).take 2 := by
  have hvalue := toNat_beUint16 b i
  have h₀ := (b.getD i 0).toNat_lt
  have h₁ := (b.getD (i + 1) 0).toNat_lt
  have hhigh : (beUint16 b i >>> 8).toUInt8 = b.getD i 0 := by
    apply UInt8.toNat_inj.mp
    rw [UInt16.toNat_toUInt8, UInt16.toNat_shiftRight, hvalue, Nat.shiftRight_eq_div_pow,
      show (8 : UInt16).toNat % 16 = 8 from rfl]
    omega
  have hlow : (beUint16 b i).toUInt8 = b.getD (i + 1) 0 := by
    apply UInt8.toNat_inj.mp
    rw [UInt16.toNat_toUInt8, hvalue]
    omega
  rw [take_drop_eq_map h, putUint16, hhigh, hlow]
  rfl

theorem putUint32_beUint32 {b : GoBytes} {i : Nat} (h : i + 4 ≤ b.length) :
    putUint32 (beUint32 b i) = (b.drop i).take 4 := by
  have hvalue := toNat_beUint32 b i
  have h₀ := (b.getD i 0).toNat_lt
  have h₁ := (b.getD (i + 1) 0).toNat_lt
  have h₂ := (b.getD (i + 2) 0).toNat_lt
  have h₃ := (b.getD (i + 3) 0).toNat_lt
  have hbyte : ∀ s : Nat, s < 32 → ∀ w : UInt32, w.toNat = s →
      (beUint32 b i >>> w).toUInt8.toNat = (beUint32 b i).toNat / 2 ^ s % 256 := by
    intro s hs w hw
    rw [UInt32.toNat_toUInt8, UInt32.toNat_shiftRight, Nat.shiftRight_eq_div_pow, hw, Nat.mod_eq_of_lt hs]
  have hfirst : (beUint32 b i >>> 24).toUInt8 = b.getD i 0 := by
    apply UInt8.toNat_inj.mp
    rw [hbyte 24 (by decide) 24 rfl, hvalue]
    omega
  have hsecond : (beUint32 b i >>> 16).toUInt8 = b.getD (i + 1) 0 := by
    apply UInt8.toNat_inj.mp
    rw [hbyte 16 (by decide) 16 rfl, hvalue]
    omega
  have hthird : (beUint32 b i >>> 8).toUInt8 = b.getD (i + 2) 0 := by
    apply UInt8.toNat_inj.mp
    rw [hbyte 8 (by decide) 8 rfl, hvalue]
    omega
  have hlast : (beUint32 b i).toUInt8 = b.getD (i + 3) 0 := by
    apply UInt8.toNat_inj.mp
    rw [UInt32.toNat_toUInt8, hvalue]
    omega
  rw [take_drop_eq_map h, putUint32, hfirst, hsecond, hthird, hlast]
  rfl

/-- The UTF-8 encodings of the runes `unicode.IsSpace` accepts. -/
def spaceRunes : List GoBytes :=
  [[0x09], [0x0A], [0x0B], [0x0C], [0x0D], [0x20], [0xC2, 0x85], [0xC2, 0xA0], [0xE1, 0x9A, 0x80],
    [0xE2, 0x80, 0x80], [0xE2, 0x80, 0x81], [0xE2, 0x80, 0x82], [0xE2, 0x80, 0x83],
    [0xE2, 0x80, 0x84], [0xE2, 0x80, 0x85], [0xE2, 0x80, 0x86], [0xE2, 0x80, 0x87],
    [0xE2, 0x80, 0x88], [0xE2, 0x80, 0x89], [0xE2, 0x80, 0x8A], [0xE2, 0x80, 0xA8],
    [0xE2, 0x80, 0xA9], [0xE2, 0x80, 0xAF], [0xE2, 0x81, 0x9F], [0xE3, 0x80, 0x80]]

/-- Strips leading members of `runes`; each takes at least one byte, so the
length of the input is enough fuel. -/
def stripRunes (runes : List GoBytes) : Nat → GoBytes → GoBytes
  | 0, b => b
  | fuel + 1, b =>
    match runes.find? (·.isPrefixOf b) with
    | some rune => stripRunes runes fuel (b.drop rune.length)
    | none => b

/-- `strings.TrimSpace`. -/
def trimSpace (b : GoBytes) : GoBytes :=
  let left := stripRunes spaceRunes b.length b
  (stripRunes (spaceRunes.map List.reverse) left.length left.reverse).reverse

example : trimSpace [0x20, 0x61, 0x20, 0x62, 0xC2, 0xA0, 0x0A] = [0x61, 0x20, 0x62] := by decide

end GoBytes
