import Mathlib.Algebra.Group.Nat.Defs

/-- A JSON text, parsed: a number is an integer, or the text of one with a fraction or
an exponent. An object is its members in order, and may repeat a key. -/
inductive Json where
  | null
  | bool (b : Bool)
  | integer (negative : Bool) (digits : Nat)
  | real (text : String)
  | string (s : String)
  | array (items : List Json)
  | object (members : List (String × Json))

namespace Json

/-- The integer a literal denotes. -/
def value (negative : Bool) (digits : Nat) : Int := if negative then -(digits : Int) else digits

def members : Json → List (String × Json)
  | .object members => members
  | _ => []

mutual

/-- Every number in the tree meets `p`. -/
def numbersMeet (p : Json → Bool) : Json → Bool
  | .array items => itemsMeet p items
  | .object members => membersMeet p members
  | .integer negative digits => p (.integer negative digits)
  | .real text => p (.real text)
  | _ => true

def itemsMeet (p : Json → Bool) : List Json → Bool
  | [] => true
  | item :: items => item.numbersMeet p && itemsMeet p items

def membersMeet (p : Json → Bool) : List (String × Json) → Bool
  | [] => true
  | member :: members => member.2.numbersMeet p && membersMeet p members

end

end Json

namespace Float64

/-- The nearest number with 53 significant bits, a tie to the even one. -/
def roundNat (n : Nat) : Nat :=
  let unit := 2 ^ (n.log2 + 1 - 53)
  let quotient := n / unit
  let rest := n % unit
  (if unit < 2 * rest ∨ (2 * rest = unit ∧ quotient % 2 = 1) then quotient + 1 else quotient) * unit

/-- The double an integer literal reads as; none past the largest. -/
def ofLiteral (negative : Bool) (digits : Nat) : Option Int :=
  if (roundNat digits).log2 < 1024 then some (Json.value negative (roundNat digits)) else none

theorem log2_lt_of_lt {n k : Nat} (h : n < 2 ^ k) (hk : 0 < k) : n.log2 < k := by
  by_cases hn : n = 0
  · simpa [hn] using hk
  · exact (Nat.log2_lt hn).mpr h

/-- A number of 53 bits is a double itself. -/
theorem roundNat_eq {n : Nat} (h : n < 2 ^ 53) : roundNat n = n := by
  have hunit : n.log2 + 1 - 53 = 0 := by
    have hlog := log2_lt_of_lt h (by decide)
    omega
  simp [roundNat, hunit, Nat.mod_one]

/-- Rounding at most doubles a number. -/
theorem roundNat_le (n : Nat) : roundNat n ≤ 2 * n + 1 := by
  have hunit : 2 ^ (n.log2 + 1 - 53) ≤ n + 1 := by
    by_cases hn : n = 0
    · simp [hn]
    · have hself := Nat.log2_self_le hn
      have hpow : 2 ^ (n.log2 + 1 - 53) ≤ 2 ^ n.log2 := Nat.pow_le_pow_right (by decide) (by omega)
      omega
  have hquotient := Nat.div_mul_le_self n (2 ^ (n.log2 + 1 - 53))
  dsimp only [roundNat]
  split
  · rw [Nat.add_mul]
    omega
  · omega

theorem ofLiteral_eq {negative : Bool} {digits : Nat} (h : digits < 2 ^ 53) :
    ofLiteral negative digits = some (Json.value negative digits) := by
  have hrange : digits.log2 < 1024 := by
    have hlog := log2_lt_of_lt h (by decide)
    omega
  rw [ofLiteral, roundNat_eq h, if_pos hrange]

end Float64

namespace Json

mutual

/-- What Go has of a document decoded into an `interface{}`: each number is the nearest
double, and of the members of one name the last counts. -/
def decoded : Json → Json
  | .array items => .array (decodedItems items)
  | .object members => .object (decodedMembers members)
  | .integer negative digits => .integer negative (Float64.roundNat digits)
  | doc => doc

def decodedItems : List Json → List Json
  | [] => []
  | item :: items => item.decoded :: decodedItems items

def decodedMembers : List (String × Json) → List (String × Json)
  | [] => []
  | member :: members =>
    if members.any fun later => later.1 = member.1 then decodedMembers members
    else (member.1, member.2.decoded) :: decodedMembers members

end

/-- An integer of 53 bits is decoded as it stands. -/
theorem decoded_integer {negative : Bool} {digits : Nat} (h : digits < 2 ^ 53) :
    (integer negative digits).decoded = integer negative digits := by
  rw [decoded, Float64.roundNat_eq h]

end Json

namespace Json

/-- An integer as it is written. -/
def ofInt (n : Int) : Json := .integer (decide (n < 0)) n.natAbs

@[simp] theorem value_ofInt (n : Int) : value (decide (n < 0)) n.natAbs = n := by
  unfold value
  by_cases hneg : n < 0
  · rw [decide_eq_true hneg, if_pos rfl]
    omega
  · rw [decide_eq_false hneg, if_neg Bool.false_ne_true]
    omega

/-- The members of an object in the order of their names. -/
def sortKeys (members : List (String × Json)) : List (String × Json) :=
  members.mergeSort fun m m' => decide (m.1 ≤ m'.1)

section lookup

variable {ν : Type} {entries entries' : List (String × ν)} {key : String}

/-- Where the names are all different, a name has the value it stands with. -/
theorem lookup_eq_some_iff_mem (hkeys : (entries.map Prod.fst).Nodup) {v : ν} :
    entries.lookup key = some v ↔ (key, v) ∈ entries := by
  induction entries with
  | nil => simp
  | cons entry rest ih =>
    obtain ⟨name, value⟩ := entry
    have hcons := List.nodup_cons.mp hkeys
    rw [List.lookup_cons, List.mem_cons]
    by_cases hname : key = name
    · subst hname
      have habsent : (key, v) ∉ rest := fun hmem => hcons.1 (List.mem_map.mpr ⟨_, hmem, rfl⟩)
      simp [habsent, eq_comm]
    · have hother : (key == name) = false := beq_eq_false_iff_ne.mpr hname
      rw [hother, ih hcons.2]
      simp [hname]

/-- Their order does not matter then. -/
theorem lookup_of_perm (hkeys : (entries.map Prod.fst).Nodup) (hperm : entries'.Perm entries) :
    entries'.lookup key = entries.lookup key := by
  have hkeys' : (entries'.map Prod.fst).Nodup := (hperm.map Prod.fst).nodup_iff.mpr hkeys
  ext v
  rw [lookup_eq_some_iff_mem hkeys', lookup_eq_some_iff_mem hkeys, hperm.mem_iff]

theorem lookup_sortKeys {members : List (String × Json)} (hkeys : (members.map Prod.fst).Nodup) :
    (sortKeys members).reverse.lookup key = members.lookup key :=
  lookup_of_perm hkeys ((List.reverse_perm _).trans (List.mergeSort_perm _ _))

end lookup

/-- A lookup among values that were written one by one. -/
theorem lookup_map {ν : Type} (f : ν → Json) (entries : List (String × ν)) (key : String) :
    (entries.map fun entry => (entry.1, f entry.2)).lookup key = (entries.lookup key).map f := by
  induction entries with
  | nil => rfl
  | cons entry rest ih =>
    rw [List.map_cons, List.lookup_cons, List.lookup_cons, ih]
    cases key == entry.1 <;> rfl

end Json
