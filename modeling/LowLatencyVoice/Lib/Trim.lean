import Mathlib.Data.List.DropRight

namespace Text

variable {α : Type} (space : α → Bool)

/-- A text without the white space at its ends. -/
def trim (s : List α) : List α := (s.dropWhile space).rdropWhile space

/-- There is no white space at the ends. -/
structure Trimmed (s : List α) : Prop where
  head : ∀ c, s.head? = some c → space c = false
  last : ∀ c, s.getLast? = some c → space c = false

variable {space}

theorem dropWhile_eq_self {s : List α} (h : ∀ c, s.head? = some c → space c = false) :
    s.dropWhile space = s := by
  cases s with
  | nil => rfl
  | cons c rest => exact List.dropWhile_cons_of_neg (by simpa using h c rfl)

theorem rdropWhile_eq_self {s : List α} (h : ∀ c, s.getLast? = some c → space c = false) :
    s.rdropWhile space = s := by
  refine List.rdropWhile_eq_self_iff.mpr fun hne => ?_
  simpa using h _ (List.getLast?_eq_some_getLast hne)

theorem trim_eq_self {s : List α} (h : Trimmed space s) : trim space s = s := by
  rw [trim, dropWhile_eq_self h.head, rdropWhile_eq_self h.last]

theorem length_trim_le (s : List α) : (trim space s).length ≤ s.length :=
  (List.rdropWhile_prefix space _).length_le.trans (List.dropWhile_suffix space).length_le

theorem mem_of_mem_trim {s : List α} {c : α} (h : c ∈ trim space s) : c ∈ s :=
  (List.dropWhile_suffix space).subset ((List.rdropWhile_prefix space _).subset h)

/-- What is trimmed already is all that trimming leaves as it is. -/
theorem trim_eq_self_iff {s : List α} : trim space s = s ↔ Trimmed space s := by
  refine ⟨fun h => ?_, trim_eq_self⟩
  have hfront : s.dropWhile space = s := by
    refine (List.dropWhile_suffix space).eq_of_length_le ?_
    rw [← congrArg List.length h]
    exact (List.rdropWhile_prefix space _).length_le
  rw [trim, hfront] at h
  constructor
  · intro c hc
    cases s with
    | nil => cases hc
    | cons c' rest =>
      obtain rfl : c' = c := Option.some.inj hc
      by_contra hspace
      rw [List.dropWhile_cons_of_pos (by simpa using hspace)] at hfront
      have hlength := (List.dropWhile_suffix (l := rest) space).length_le
      rw [hfront, List.length_cons] at hlength
      omega
  · intro c hc
    have hne : s ≠ [] := by
      rintro rfl
      cases hc
    rw [← (List.getLast_eq_iff_getLast?_eq_some hne).mpr hc]
    simpa using List.rdropWhile_eq_self_iff.mp h hne

/-- What is put together from trimmed parts is trimmed. -/
theorem Trimmed.append {s s' : List α} (h : Trimmed space s) (h' : Trimmed space s') :
    Trimmed space (s ++ s') := by
  constructor
  · intro c hc
    rw [List.head?_append, Option.or_eq_some_iff] at hc
    obtain hc | ⟨-, hc⟩ := hc
    · exact h.head c hc
    · exact h'.head c hc
  · intro c hc
    rw [List.getLast?_append, Option.or_eq_some_iff] at hc
    obtain hc | ⟨-, hc⟩ := hc
    · exact h'.last c hc
    · exact h.last c hc

theorem rdropWhile_append {s right : List α} (hright : ∀ c ∈ right, space c = true) :
    (s ++ right).rdropWhile space = s.rdropWhile space := by
  rw [List.rdropWhile, List.reverse_append, List.dropWhile_append_of_pos (by simpa using hright)]
  rfl

/-- Nothing before a character that is none is white space at the end. -/
theorem rdropWhile_append_cons {front rest : List α} {c : α} (h : space c = false) :
    (front ++ c :: rest).rdropWhile space = front ++ c :: rest.rdropWhile space := by
  have hreverse : (front ++ c :: rest).reverse = rest.reverse ++ c :: front.reverse := by simp
  rw [List.rdropWhile, hreverse, List.dropWhile_append, List.dropWhile_cons_of_neg (by simp [h])]
  split
  · rename_i hall
    simp [List.rdropWhile, List.isEmpty_iff.mp hall]
  · simp [List.rdropWhile]

/-- White space around a text is trimmed away. -/
theorem trim_append {left s right : List α} (hleft : ∀ c ∈ left, space c = true)
    (hright : ∀ c ∈ right, space c = true) (hhead : ∀ c, s.head? = some c → space c = false) :
    trim space (left ++ s ++ right) = s.rdropWhile space := by
  rw [trim, List.append_assoc, List.dropWhile_append_of_pos hleft]
  cases s with
  | nil => rw [List.nil_append, List.dropWhile_eq_nil_iff.mpr hright, List.rdropWhile_nil]
  | cons c rest =>
    rw [List.cons_append, List.dropWhile_cons_of_neg (by simpa using hhead c rfl), ← List.cons_append,
      rdropWhile_append hright]

end Text
