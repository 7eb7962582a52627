import Mathlib.Data.Finset.Card
import Mathlib.Data.List.Nodup
import Mathlib.Logic.Function.Basic

/-! First come, first seated: a guest who asks keeps the seat held, or takes the first
free one. -/

namespace Seating

variable {ι α : Type} [DecidableEq ι] [DecidableEq α] (seats : List ι)

/-- The seat a guest holds. -/
def seatOf (held : ι → Option α) (guest : α) : Option ι := seats.find? fun i => held i == some guest

def freeSeat (held : ι → Option α) : Option ι := seats.find? fun i => held i == none

/-- The seat a guest gets who asks. -/
def seatFor (held : ι → Option α) (guest : α) : Option ι :=
  match seatOf seats held guest with
  | some i => some i
  | none => freeSeat seats held

/-- Who sits where after a guest asked. -/
def seat (held : ι → Option α) (guest : α) : ι → Option α :=
  match seatFor seats held guest with
  | some i => Function.update held i (some guest)
  | none => held

/-- The first guests to ask, one for each seat. -/
def firstComers (guests : List α) : List α := guests.eraseDups.take seats.length

/-- The seated guests are those listed, each on one seat. -/
structure Seated (held : ι → Option α) (guests : List α) : Prop where
  members : ∀ u, (∃ i ∈ seats, held i = some u) ↔ u ∈ guests
  unique : ∀ u, ∀ i ∈ seats, ∀ j ∈ seats, held i = some u → held j = some u → i = j
  count : {i ∈ seats.toFinset | (held i).isSome}.card = guests.length

/-- Nobody sits on two of the seats. -/
def Distinct (held : ι → Option α) : Prop :=
  ∀ u, ∀ i ∈ seats, ∀ j ∈ seats, held i = some u → held j = some u → i = j

omit [DecidableEq ι] in
theorem seatOf_isSome_iff (held : ι → Option α) (u : α) :
    (seatOf seats held u).isSome ↔ ∃ i ∈ seats, held i = some u := by
  simp [seatOf, List.find?_isSome]

variable {seats}

omit [DecidableEq ι] in
theorem seatOf_eq_some {held : ι → Option α} {u : α} {i : ι} (h : seatOf seats held u = some i) :
    i ∈ seats ∧ held i = some u :=
  ⟨List.mem_of_find?_eq_some h, by simpa using List.find?_some h⟩

omit [DecidableEq ι] in
theorem freeSeat_eq_some {held : ι → Option α} {i : ι} (h : freeSeat seats held = some i) :
    i ∈ seats ∧ held i = none :=
  ⟨List.mem_of_find?_eq_some h, by simpa using List.find?_some h⟩

omit [DecidableEq ι] in
/-- A seat given is the guest's own, or a free one if the guest has none. -/
theorem seatFor_eq_some {held : ι → Option α} {u : α} {i : ι} (h : seatFor seats held u = some i) :
    i ∈ seats ∧ (held i = some u ∨ held i = none ∧ seatOf seats held u = none) := by
  unfold seatFor at h
  split at h
  · rename_i own hown
    cases h
    exact ⟨(seatOf_eq_some hown).1, .inl (seatOf_eq_some hown).2⟩
  · rename_i hnone
    exact ⟨(freeSeat_eq_some h).1, .inr ⟨(freeSeat_eq_some h).2, hnone⟩⟩

theorem seat_of_seatFor {held : ι → Option α} {u : α} {i : ι} (h : seatFor seats held u = some i) :
    seat seats held u = Function.update held i (some u) := by
  simp only [seat, h]

theorem seat_of_seated {held : ι → Option α} {u : α} (h : (seatOf seats held u).isSome) :
    seat seats held u = held := by
  obtain ⟨i, hi⟩ := Option.isSome_iff_exists.mp h
  have hfor : seatFor seats held u = some i := by simp only [seatFor, hi]
  rw [seat_of_seatFor hfor, ← (seatOf_eq_some hi).2, Function.update_eq_self]

theorem seat_of_full {held : ι → Option α} (h : freeSeat seats held = none) (u : α) :
    seat seats held u = held := by
  cases hown : seatOf seats held u with
  | some i => exact seat_of_seated (by rw [hown]; rfl)
  | none => simp only [seat, seatFor, hown, h]

variable (seats) in
/-- Whoever asks, a seat is left as it was, or is the one given and was the guest's or free before. -/
theorem seat_cases (held : ι → Option α) (u : α) (i : ι) :
    seat seats held u i = held i ∨
      seatFor seats held u = some i ∧ seat seats held u i = some u ∧ (held i = some u ∨ held i = none) := by
  cases hfor : seatFor seats held u with
  | none => exact .inl (by simp only [seat, hfor])
  | some j =>
    rw [seat_of_seatFor hfor]
    by_cases hij : i = j
    · subst hij
      exact .inr ⟨rfl, Function.update_self i (some u) held,
        (seatFor_eq_some hfor).2.imp_right fun hfree => hfree.1⟩
    · exact .inl (Function.update_of_ne hij (some u) held)

/-- Only the guest who asks can come to sit where they did not. -/
theorem eq_or_held_of_seat {held : ι → Option α} {u v : α} {i : ι} (h : seat seats held u i = some v) :
    v = u ∨ held i = some v := by
  rcases seat_cases seats held u i with hsame | ⟨-, hgiven, -⟩
  · exact .inr (hsame ▸ h)
  · rw [h] at hgiven
    exact .inl (Option.some.inj hgiven)

/-- A guest who asks does not come to sit on two seats, nor does anybody else. -/
theorem Distinct.seat {held : ι → Option α} (h : Distinct seats held) (u : α) :
    Distinct seats (seat seats held u) := by
  intro v i hi j hj hheldi hheldj
  cases hfor : seatFor seats held u with
  | none =>
    simp only [Seating.seat, hfor] at hheldi hheldj
    exact h v i hi j hj hheldi hheldj
  | some k =>
    obtain ⟨hk, hwhose⟩ := seatFor_eq_some hfor
    rw [seat_of_seatFor hfor] at hheldi hheldj
    -- A seat beside the one given is the guest's own only if that one is too.
    have hother : ∀ l ∈ seats, l ≠ k → held l ≠ some u := by
      intro l hl hlk hheld
      rcases hwhose with hown | ⟨-, hnone⟩
      · exact hlk (h u l hl k hk hheld hown)
      · have hsome := (seatOf_isSome_iff seats held u).mpr ⟨l, hl, hheld⟩
        rw [hnone] at hsome
        cases hsome
    by_cases hik : i = k
    · by_cases hjk : j = k
      · rw [hik, hjk]
      · subst hik
        rw [Function.update_self] at hheldi
        rw [Function.update_of_ne hjk, ← hheldi] at hheldj
        exact absurd hheldj (hother j hj hjk)
    · rw [Function.update_of_ne hik] at hheldi
      by_cases hjk : j = k
      · subst hjk
        rw [Function.update_self] at hheldj
        rw [← hheldj] at hheldi
        exact absurd hheldi (hother i hi hik)
      · rw [Function.update_of_ne hjk] at hheldj
        exact h v i hi j hj hheldi hheldj

omit [DecidableEq ι] [DecidableEq α] in
/-- Only the seats listed matter. -/
theorem Distinct.congr {held held' : ι → Option α} (h : Distinct seats held)
    (hsame : ∀ i ∈ seats, held' i = held i) : Distinct seats held' := by
  intro u i hi j hj hheldi hheldj
  rw [hsame i hi] at hheldi
  rw [hsame j hj] at hheldj
  exact h u i hi j hj hheldi hheldj

omit [DecidableEq ι] [DecidableEq α] in
theorem distinct_of_none {held : ι → Option α} (h : ∀ i ∈ seats, held i = none) : Distinct seats held := by
  intro u i hi _ _ hheld _
  rw [h i hi] at hheld
  cases hheld

/-- Who asked and got a seat sits there. -/
theorem seatOf_seat_self {held : ι → Option α} {u : α} {i : ι} (h : seatFor seats held u = some i) :
    seatOf seats (seat seats held u) u = some i := by
  cases hown : seatOf seats held u with
  | some j =>
    have hij : j = i := by simpa [seatFor, hown] using h
    rw [seat_of_seated (by rw [hown]; rfl), hown, hij]
  | none =>
    rw [seat_of_seatFor h]
    have hseated : (seatOf seats (Function.update held i (some u)) u).isSome := by
      rw [seatOf_isSome_iff]
      exact ⟨i, (seatFor_eq_some h).1, Function.update_self i (some u) held⟩
    obtain ⟨j, hj⟩ := Option.isSome_iff_exists.mp hseated
    obtain ⟨hmem, hheld⟩ := seatOf_eq_some hj
    by_cases hji : j = i
    · rw [hj, hji]
    · rw [Function.update_of_ne hji] at hheld
      have hsome := (seatOf_isSome_iff seats held u).mpr ⟨j, hmem, hheld⟩
      rw [hown] at hsome
      cases hsome

/-- The others keep their seats. -/
theorem seatOf_seat_of_ne (held : ι → Option α) {u v : α} (hv : v ≠ u) :
    seatOf seats (seat seats held u) v = seatOf seats held v := by
  cases hfor : seatFor seats held u with
  | none => simp only [seat, hfor]
  | some i =>
    rw [seat_of_seatFor hfor]
    have hsame : (fun j => Function.update held i (some u) j == some v) = fun j => held j == some v := by
      funext j
      by_cases hji : j = i
      · subst hji
        obtain hown | ⟨hfree, -⟩ := (seatFor_eq_some hfor).2
        · rw [Function.update_self, hown]
        · rw [Function.update_self, hfree]
          simpa using Ne.symm hv
      · rw [Function.update_of_ne hji]
    simp only [seatOf, hsame]

namespace Seated

variable {held : ι → Option α} {guests : List α}

omit [DecidableEq α] in
/-- Nobody is seated at first. -/
theorem empty (h : ∀ i ∈ seats, held i = none) : Seated seats held [] where
  members u := by
    simp only [List.not_mem_nil, iff_false, not_exists, not_and]
    intro i hi hheld
    simp [h i hi] at hheld
  unique u i hi j hj hheld _ := by simp [h i hi] at hheld
  count := by
    rw [List.length_nil, Finset.card_eq_zero, Finset.filter_eq_empty_iff]
    intro i hi
    simp [h i (List.mem_toFinset.mp hi)]

/-- A seat is free as long as fewer guests than seats are listed. -/
theorem freeSeat_isSome_iff (h : Seated seats held guests) (hnodup : seats.Nodup) :
    (freeSeat seats held).isSome ↔ guests.length < seats.length := by
  have hcard : seats.toFinset.card = seats.length := List.toFinset_card_of_nodup hnodup
  rw [← h.count, ← hcard, freeSeat, List.find?_isSome]
  constructor
  · rintro ⟨i, hi, hfree⟩
    refine Finset.card_lt_card (Finset.filter_ssubset.mpr ⟨i, List.mem_toFinset.mpr hi, ?_⟩)
    simpa using hfree
  · intro hless
    obtain ⟨i, hi, hout⟩ := Finset.exists_mem_notMem_of_card_lt_card hless
    refine ⟨i, List.mem_toFinset.mp hi, ?_⟩
    rw [Finset.mem_filter] at hout
    simpa using fun hsome => hout ⟨hi, hsome⟩

/-- Who is seated asks in vain, and so does everybody when all seats are taken. -/
theorem seat_unchanged (h : Seated seats held guests) (hnodup : seats.Nodup) {u : α}
    (hvain : u ∈ guests ∨ seats.length ≤ guests.length) : seat seats held u = held := by
  obtain hin | hfull := hvain
  · exact seat_of_seated ((seatOf_isSome_iff seats held u).mpr ((h.members u).mpr hin))
  · refine seat_of_full (Option.not_isSome_iff_eq_none.mp fun hfree => ?_) u
    exact Nat.not_lt.mpr hfull ((h.freeSeat_isSome_iff hnodup).mp hfree)

/-- A new guest is seated and the others stay where they are. -/
theorem seat_new (h : Seated seats held guests) (hnodup : seats.Nodup) {u : α} (hnew : u ∉ guests)
    (hroom : guests.length < seats.length) : Seated seats (seat seats held u) (guests ++ [u]) := by
  have hnobody : ∀ i ∈ seats, held i ≠ some u := fun i hi hheld => hnew ((h.members u).mp ⟨i, hi, hheld⟩)
  have hnone : seatOf seats held u = none := by
    rw [← Option.not_isSome_iff_eq_none, seatOf_isSome_iff]
    exact fun hseated => hnew ((h.members u).mp hseated)
  obtain ⟨i, hi⟩ := Option.isSome_iff_exists.mp ((h.freeSeat_isSome_iff hnodup).mpr hroom)
  obtain ⟨hmem, hfree⟩ := freeSeat_eq_some hi
  have hfor : seatFor seats held u = some i := by simp only [seatFor, hnone, hi]
  rw [seat_of_seatFor hfor]
  refine ⟨fun v => ?_, fun v j hj k hk hheldj hheldk => ?_, ?_⟩
  · rw [List.mem_append, List.mem_singleton, ← h.members v]
    constructor
    · rintro ⟨j, hj, hheld⟩
      by_cases hji : j = i
      · subst hji
        rw [Function.update_self] at hheld
        exact .inr (Option.some.inj hheld).symm
      · rw [Function.update_of_ne hji] at hheld
        exact .inl ⟨j, hj, hheld⟩
    · rintro (⟨j, hj, hheld⟩ | rfl)
      · have hji : j ≠ i := fun heq => by simp [heq, hfree] at hheld
        exact ⟨j, hj, by rw [Function.update_of_ne hji, hheld]⟩
      · exact ⟨i, hmem, Function.update_self i (some v) held⟩
  · by_cases hji : j = i
    · by_cases hki : k = i
      · rw [hji, hki]
      · subst hji
        rw [Function.update_self] at hheldj
        rw [Function.update_of_ne hki, ← hheldj] at hheldk
        exact absurd hheldk (hnobody k hk)
    · rw [Function.update_of_ne hji] at hheldj
      by_cases hki : k = i
      · subst hki
        rw [Function.update_self] at hheldk
        rw [← hheldk] at hheldj
        exact absurd hheldj (hnobody j hj)
      · rw [Function.update_of_ne hki] at hheldk
        exact h.unique v j hj k hk hheldj hheldk
  · have hinsert : {j ∈ seats.toFinset | (Function.update held i (some u) j).isSome} =
        insert i {j ∈ seats.toFinset | (held j).isSome} := by
      ext j
      by_cases hji : j = i
      · subst hji
        simp [hmem]
      · simp [hji]
    rw [hinsert, Finset.card_insert_of_notMem (by simp [hfree]), h.count, List.length_append]
    rfl

/-- Whoever asks, some list of guests stays right. -/
theorem seat (h : Seated seats held guests) (hnodup : seats.Nodup) (u : α) :
    Seated seats (seat seats held u)
      (if u ∈ guests ∨ seats.length ≤ guests.length then guests else guests ++ [u]) := by
  split
  · rename_i hvain
    rw [h.seat_unchanged hnodup hvain]
    exact h
  · rename_i hnew
    rw [not_or, Nat.not_le] at hnew
    exact h.seat_new hnodup hnew.1 hnew.2

omit [DecidableEq α] in
/-- Only the seats listed matter. -/
theorem congr {held' : ι → Option α} (h : Seated seats held guests) (hsame : ∀ i ∈ seats, held' i = held i) :
    Seated seats held' guests where
  members u := by
    rw [← h.members u]
    refine exists_congr fun i => and_congr_right fun hi => ?_
    rw [hsame i hi]
  unique u i hi j hj hheldi hheldj :=
    h.unique u i hi j hj (hsame i hi ▸ hheldi) (hsame j hj ▸ hheldj)
  count := by
    rw [← h.count]
    refine congrArg Finset.card (Finset.filter_congr fun i hi => ?_)
    rw [hsame i (List.mem_toFinset.mp hi)]

/-- Who sits on a seat afterwards: the guest on the seat given, everybody else where
they were. -/
theorem seat_eq_some (h : Seated seats held guests) {u v : α} {i : ι} (hi : i ∈ seats)
    (hheld : Seating.seat seats held u i = some v) :
    v = u ∧ seatFor seats held u = some i ∨
      v ≠ u ∧ held i = some v ∧ seatFor seats held u ≠ some i := by
  cases hfor : seatFor seats held u with
  | none =>
    simp only [Seating.seat, hfor] at hheld
    refine .inr ⟨?_, hheld, by simp⟩
    rintro rfl
    obtain ⟨j, hj⟩ := Option.isSome_iff_exists.mp ((seatOf_isSome_iff seats held v).mpr ⟨i, hi, hheld⟩)
    simp [seatFor, hj] at hfor
  | some j =>
    rw [seat_of_seatFor hfor] at hheld
    by_cases hij : i = j
    · subst hij
      rw [Function.update_self] at hheld
      exact .inl ⟨(Option.some.inj hheld).symm, rfl⟩
    · rw [Function.update_of_ne hij] at hheld
      refine .inr ⟨?_, hheld, fun heq => hij (Option.some.inj heq).symm⟩
      rintro rfl
      obtain ⟨hj, hown | ⟨-, hnone⟩⟩ := seatFor_eq_some hfor
      · exact hij (h.unique v i hi j hj hheld hown)
      · have hsome := (seatOf_isSome_iff seats held v).mpr ⟨i, hi, hheld⟩
        rw [hnone] at hsome
        cases hsome

end Seated

omit [DecidableEq ι] in
/-- A further guest is among the first comers if there is a seat left. -/
theorem firstComers_concat (guests : List α) (u : α) :
    firstComers seats (guests ++ [u]) =
      if u ∈ firstComers seats guests ∨ seats.length ≤ (firstComers seats guests).length then
        firstComers seats guests
      else firstComers seats guests ++ [u] := by
  unfold firstComers
  rw [List.eraseDups_append, List.length_take]
  by_cases hfull : seats.length ≤ guests.eraseDups.length
  · rw [if_pos (.inr (by omega)), List.take_append_of_le_length hfull]
  · have hwhole : guests.eraseDups.take seats.length = guests.eraseDups := List.take_of_length_le (by omega)
    rw [hwhole]
    by_cases hin : u ∈ guests
    · rw [if_pos (.inl (List.mem_eraseDups.mpr hin))]
      simp [List.removeAll, hin, hwhole]
    · rw [if_neg (by simp [hin]; omega)]
      have hlast : ([u].removeAll guests).eraseDups = [u] := by
        simp [List.removeAll, hin, List.eraseDups_cons]
      rw [hlast]
      exact List.take_of_length_le (by rw [List.length_append, List.length_singleton]; omega)

variable (seats) in
/-- Whatever the order of the requests, the guests seated are the first to ask. -/
theorem seated_foldl (hnodup : seats.Nodup) {held : ι → Option α} (hempty : ∀ i ∈ seats, held i = none)
    (guests : List α) :
    Seated seats (guests.foldl (seat seats) held) (firstComers seats guests) := by
  induction guests using List.reverseRecOn with
  | nil =>
    have hnobody : firstComers seats ([] : List α) = [] := by simp [firstComers]
    rw [hnobody]
    exact .empty hempty
  | append_singleton guests u ih =>
    rw [List.foldl_concat, firstComers_concat]
    exact ih.seat hnodup u

end Seating
