import Mathlib.Data.List.GetD

/-! Base64 in the standard alphabet, without padding. -/

namespace Base64

def alphabet : List Char :=
  "ABCDEFGHIJKLMNOPQRSTUVWXYZabcdefghijklmnopqrstuvwxyz0123456789+/".toList

/-- The character of a six-bit digit. -/
def digitChar (d : Nat) : Char := alphabet.getD d 'A'

/-- The digit of a character, if it is one. -/
def digit? (c : Char) : Option Nat := alphabet.idxOf? c

/-- The digits of a byte string: four for each three bytes, two or three for a rest. -/
def digits : List UInt8 → List Nat
  | a :: b :: c :: rest =>
    [a.toNat / 4, a.toNat % 4 * 16 + b.toNat / 16, b.toNat % 16 * 4 + c.toNat / 64, c.toNat % 64] ++
      digits rest
  | [a, b] => [a.toNat / 4, a.toNat % 4 * 16 + b.toNat / 16, b.toNat % 16 * 4]
  | [a] => [a.toNat / 4, a.toNat % 4 * 16]
  | [] => []

/-- The bytes of a digit string. The bits of the last digit that belong to no byte have
to be zero. -/
def bytes : List Nat → Option (List UInt8)
  | p :: q :: r :: s :: rest =>
    (bytes rest).map fun tail =>
      [UInt8.ofNat (p * 4 + q / 16), UInt8.ofNat (q % 16 * 16 + r / 4), UInt8.ofNat (r % 4 * 64 + s)] ++ tail
  | [p, q, r] =>
    if r % 4 = 0 then some [UInt8.ofNat (p * 4 + q / 16), UInt8.ofNat (q % 16 * 16 + r / 4)] else none
  | [p, q] => if q % 16 = 0 then some [UInt8.ofNat (p * 4 + q / 16)] else none
  | [_] => none
  | [] => some []

/-- `RawStdEncoding.EncodeToString`. -/
def encodeToString (src : List UInt8) : List Char := (digits src).map digitChar

/-- `RawStdEncoding.Strict().DecodeString`. Line ends are skipped. -/
def decodeString (s : List Char) : Option (List UInt8) :=
  ((s.filter fun c => c != '\r' && c != '\n').mapM digit?).bind bytes

theorem digit?_digitChar {d : Nat} (h : d < 64) : digit? (digitChar d) = some d := by
  have hall : ∀ d < 64, digit? (digitChar d) = some d := by decide +kernel
  exact hall d h

theorem digitChar_mem {d : Nat} (h : d < 64) : digitChar d ∈ alphabet := by
  have hlength : alphabet.length = 64 := by decide +kernel
  rw [digitChar, List.getD_eq_getElem alphabet 'A' (by omega)]
  exact List.getElem_mem _

theorem digits_lt (src : List UInt8) : ∀ d ∈ digits src, d < 64 := by
  have hbyte : ∀ a : UInt8, a.toNat < 256 := fun a => a.toNat_lt
  induction src using digits.induct with
  | case1 a b c rest ih =>
    have ha := hbyte a
    have hb := hbyte b
    have hc := hbyte c
    intro d hd
    simp only [digits, List.mem_append, List.mem_cons, List.not_mem_nil, or_false] at hd
    rcases hd with (rfl | rfl | rfl | rfl) | hd
    · omega
    · omega
    · omega
    · omega
    · exact ih d hd
  | case2 a b =>
    have ha := hbyte a
    have hb := hbyte b
    intro d hd
    simp only [digits, List.mem_cons, List.not_mem_nil, or_false] at hd
    rcases hd with rfl | rfl | rfl <;> omega
  | case3 a =>
    have ha := hbyte a
    intro d hd
    simp only [digits, List.mem_cons, List.not_mem_nil, or_false] at hd
    rcases hd with rfl | rfl <;> omega
  | case4 =>
    intro d hd
    cases hd

theorem bytes_digits (src : List UInt8) : bytes (digits src) = some src := by
  have hbyte : ∀ a : UInt8, a.toNat < 256 := fun a => a.toNat_lt
  have heq : ∀ (n : Nat) (a : UInt8), n = a.toNat → UInt8.ofNat n = a := by
    rintro n a rfl
    exact UInt8.ofNat_toNat
  induction src using digits.induct with
  | case1 a b c rest ih =>
    have ha := hbyte a
    have hb := hbyte b
    have hc := hbyte c
    simp only [digits, List.cons_append, List.nil_append, bytes, ih, Option.map_some]
    rw [heq _ a (by omega), heq _ b (by omega), heq _ c (by omega)]
  | case2 a b =>
    have ha := hbyte a
    have hb := hbyte b
    rw [digits, bytes, if_pos (by omega), heq _ a (by omega), heq _ b (by omega)]
  | case3 a =>
    have ha := hbyte a
    rw [digits, bytes, if_pos (by omega), heq _ a (by omega)]
  | case4 => rfl

/-- An encoded string is in the alphabet. -/
theorem mem_alphabet {src : List UInt8} {c : Char} (h : c ∈ encodeToString src) : c ∈ alphabet := by
  obtain ⟨d, hd, rfl⟩ := List.mem_map.mp h
  exact digitChar_mem (digits_lt src d hd)

theorem mapM_digit? {ds : List Nat} (h : ∀ d ∈ ds, d < 64) : (ds.map digitChar).mapM digit? = some ds := by
  induction ds with
  | nil => rfl
  | cons d rest ih =>
    rw [List.map_cons, List.mapM_cons, digit?_digitChar (h d (by simp)),
      ih fun d' hd' => h d' (by simp [hd'])]
    rfl

/-- What is encoded is decoded. -/
theorem decodeString_encodeToString (src : List UInt8) :
    decodeString (encodeToString src) = some src := by
  have hskip : (encodeToString src).filter (fun c => c != '\r' && c != '\n') = encodeToString src := by
    rw [List.filter_eq_self]
    intro c hc
    have hnone : alphabet.all (fun c => c != '\r' && c != '\n') = true := by decide +kernel
    exact List.all_eq_true.mp hnone c (mem_alphabet hc)
  rw [decodeString, hskip, encodeToString, mapM_digit? (digits_lt src)]
  exact bytes_digits src

end Base64
