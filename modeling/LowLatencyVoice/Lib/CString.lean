import Mathlib.Algebra.Group.Nat.Defs
import Mathlib.Data.List.TakeWhile

/-- A C string, read as its bytes up to the terminating zero. -/
abbrev CString := List UInt8

namespace CString

/-- A string literal. -/
def ofText (s : String) : CString := s.toList.map fun c => UInt8.ofNat c.toNat

/-- `strncpy` of at most `n` bytes; the source may go on behind a zero. -/
def strncpy (n : Nat) (src : List UInt8) : CString := (src.takeWhile (· ≠ 0)).take n

/-- What fits into a buffer of `size` bytes, as `snprintf` cuts it. -/
def fit (size : Nat) (s : CString) : CString := s.take (size - 1)

/-- `%u` of `snprintf`. -/
def decimal (n : Nat) : CString := (Nat.toDigits 10 n).map fun c => UInt8.ofNat c.toNat

def isDigit (c : UInt8) : Bool := 48 ≤ c && c ≤ 57

def isSpace (c : UInt8) : Bool := c == 32 || (9 ≤ c && c ≤ 13)

/-- The number some digits denote. -/
def value (digits : CString) : Nat := digits.foldl (fun n c => 10 * n + (c.toNat - 48)) 0

/-- The conversion of `strtoul`, cut to 32 bits. -/
def unsigned (negative : Bool) (n : Nat) : UInt32 :=
  if 2 ^ 64 ≤ n then 0xFFFFFFFF else if negative then -UInt32.ofNat n else UInt32.ofNat n

def scanDigits (negative : Bool) (s : CString) : Option UInt32 :=
  let digits := s.takeWhile isDigit
  if digits = [] then none else some (unsigned negative (value digits))

/-- `%u` of `sscanf`: blanks and a sign may stand before the digits. -/
def scanUnsigned (s : CString) : Option UInt32 :=
  match s.dropWhile isSpace with
  | 0x2D :: rest => scanDigits true rest
  | 0x2B :: rest => scanDigits false rest
  | rest => scanDigits false rest

/-- `%u` of `sscanf` behind a literal. What follows the digits is not looked at. -/
def scanAfter (literal s : CString) : Option UInt32 :=
  if literal.isPrefixOf s then scanUnsigned (s.drop literal.length) else none

theorem strncpy_eq_self {n : Nat} {s : CString} (hzero : ∀ c ∈ s, c ≠ 0) (hlength : s.length ≤ n) :
    strncpy n s = s := by
  have hwhole : s.takeWhile (· ≠ 0) = s := List.takeWhile_eq_self_iff.mpr (by simpa using hzero)
  rw [strncpy, hwhole, List.take_of_length_le hlength]

theorem isDigit_iff {c : UInt8} : isDigit c = true ↔ 48 ≤ c.toNat ∧ c.toNat ≤ 57 := by
  simp only [isDigit, Bool.and_eq_true, decide_eq_true_eq, UInt8.le_iff_toNat_le]
  exact Iff.rfl

theorem isSpace_of_isDigit {c : UInt8} (h : isDigit c = true) : isSpace c = false := by
  obtain ⟨hge, -⟩ := isDigit_iff.mp h
  have hblank : c ≠ 32 := by
    rintro rfl
    exact absurd hge (by decide)
  have hcontrol : ¬ c ≤ 13 := by
    rw [UInt8.le_iff_toNat_le]
    exact fun hle => absurd (hge.trans hle) (by decide)
  simp [isSpace, hblank, hcontrol]

theorem toNat_digit {c : Char} (h : c.isDigit) :
    (UInt8.ofNat c.toNat).toNat = c.toNat ∧ 48 ≤ c.toNat ∧ c.toNat ≤ 57 := by
  obtain ⟨hge, hle⟩ := Char.isDigit_iff_toNat.mp h
  have hnine : '9'.toNat = 57 := rfl
  rw [hnine] at hle
  refine ⟨?_, hge, hle⟩
  rw [UInt8.toNat_ofNat']
  omega

theorem isDigit_of_mem_decimal {n : Nat} {c : UInt8} (h : c ∈ decimal n) : isDigit c = true := by
  obtain ⟨d, hd, rfl⟩ := List.mem_map.mp h
  obtain ⟨hnat, hge, hle⟩ := toNat_digit (Nat.isDigit_of_mem_toDigits (by decide) (by decide) hd)
  rw [isDigit_iff, hnat]
  exact ⟨hge, hle⟩

theorem value_decimal (n : Nat) : value (decimal n) = n := by
  have hfold : ∀ (ds : List Char) (m : Nat), (∀ c ∈ ds, c.isDigit) →
      (ds.map fun c => UInt8.ofNat c.toNat).foldl (fun n c => 10 * n + (c.toNat - 48)) m =
        Nat.ofDigitChars 10 ds m := by
    intro ds
    induction ds with
    | nil => intro m _; simp
    | cons c ds ih =>
      intro m hdigits
      rw [List.map_cons, List.foldl_cons, Nat.ofDigitChars_cons, (toNat_digit (hdigits c (by simp))).1,
        ih _ fun c' hc' => hdigits c' (by simp [hc'])]
      rfl
  rw [value, decimal, hfold _ _ fun c hc => Nat.isDigit_of_mem_toDigits (by decide) (by decide) hc,
    Nat.ofDigitChars_ten_toDigits]

/-- A number is read back as it was printed. -/
theorem scanUnsigned_decimal {n : Nat} (h : n < 2 ^ 32) : scanUnsigned (decimal n) = some (UInt32.ofNat n) := by
  have hdigits : ∀ c ∈ decimal n, isDigit c = true := fun c hc => isDigit_of_mem_decimal hc
  have hne : decimal n ≠ [] := by simp [decimal, Nat.toDigits_ne_nil]
  have hscan : scanDigits false (decimal n) = some (UInt32.ofNat n) := by
    rw [scanDigits, List.takeWhile_eq_self_iff.mpr hdigits, if_neg hne, value_decimal, unsigned, if_neg (by omega)]
    rfl
  obtain ⟨c, rest, hcons⟩ := List.exists_cons_of_ne_nil hne
  have hdigit := hdigits c (by simp [hcons])
  rw [← hscan, scanUnsigned, hcons]
  rw [List.dropWhile_cons_of_neg (by simp [isSpace_of_isDigit hdigit])]
  split
  · rename_i heq
    cases heq
    exact absurd hdigit (by decide)
  · rename_i heq
    cases heq
    exact absurd hdigit (by decide)
  · rfl

theorem scanAfter_decimal (literal : CString) {n : Nat} (h : n < 2 ^ 32) :
    scanAfter literal (literal ++ decimal n) = some (UInt32.ofNat n) := by
  rw [scanAfter, if_pos (List.isPrefixOf_iff_prefix.mpr (List.prefix_append literal _)), List.drop_left,
    scanUnsigned_decimal h]

theorem length_decimal_le {n : Nat} (h : n < 10 ^ 10) : (decimal n).length ≤ 10 := by
  rw [decimal, List.length_map]
  exact (Nat.length_toDigits_le_iff (by decide) (by decide)).mpr h

end CString
