import Mathlib.Data.List.Sort
import Mathlib.Data.Nat.Basic

/-! Reading a list page by page, each page from below the key of the last entry read. -/

namespace Paging

variable {α : Type} (key : α → Nat)

/-- The list from its largest key down, no key twice. -/
def Descending (l : List α) : Prop := l.Pairwise fun x y => key y < key x

variable {key}

/-- A descending list is known by its entries. -/
theorem Descending.eq_of_mem_iff {l l' : List α} (h : Descending key l) (h' : Descending key l')
    (hmem : ∀ x, x ∈ l ↔ x ∈ l') : l = l' := by
  have : Std.Irrefl fun x y : α => key y < key x := ⟨fun x => Nat.lt_irrefl (key x)⟩
  have : Std.Antisymm fun x y : α => key y < key x := ⟨fun x y hxy hyx => absurd hxy (Nat.lt_asymm hyx)⟩
  exact List.Pairwise.eq_of_mem_iff h h' hmem

/-- Below the key of an entry lies what follows it. -/
theorem Descending.filter_lt {l xs ys : List α} {x : α} (h : Descending key l)
    (hl : l = xs ++ x :: ys) : (l.filter fun y => decide (key y < key x)) = ys := by
  subst hl
  obtain ⟨-, htail, hacross⟩ := List.pairwise_append.mp h
  obtain ⟨hbelow, -⟩ := List.pairwise_cons.mp htail
  have hxs : (xs.filter fun y => decide (key y < key x)) = [] := by
    rw [List.filter_eq_nil_iff]
    intro y hy hlt
    have hgt := hacross y hy x List.mem_cons_self
    exact Nat.lt_asymm hgt (of_decide_eq_true hlt)
  have hys : (ys.filter fun y => decide (key y < key x)) = ys := by
    rw [List.filter_eq_self]
    intro y hy
    exact decide_eq_true (hbelow y hy)
  rw [List.filter_append, hxs, List.nil_append, List.filter_cons_of_neg (by simp), hys]

/-- The number of pages of length `L` that hold `n` entries; there is a first page
even if it is empty. -/
def pageCount (L n : Nat) : Nat := max 1 ((n + L - 1) / L)

theorem pageCount_of_le {L n : Nat} (hL : 0 < L) (h : n ≤ L) : pageCount L n = 1 := by
  unfold pageCount
  have hlt : (n + L - 1) / L < 2 := by
    rw [Nat.div_lt_iff_lt_mul hL]
    omega
  omega

theorem pageCount_of_lt {L n : Nat} (hL : 0 < L) (h : L < n) :
    pageCount L n = pageCount L (n - L) + 1 := by
  unfold pageCount
  have hsub : n + L - 1 = (n - L + L - 1) + L := by omega
  have hdiv : (n + L - 1) / L = (n - L + L - 1) / L + 1 := by
    rw [hsub, Nat.add_div_right _ hL]
  have hpos : 1 ≤ (n - L + L - 1) / L := by
    rw [Nat.one_le_div_iff hL]
    omega
  omega

theorem one_le_pageCount (L n : Nat) : 1 ≤ pageCount L n := Nat.le_max_left _ _

/-- A list cut into pages of length `L`. -/
def pages (L : Nat) (l : List α) : List (List α) :=
  if L = 0 ∨ l.length ≤ L then [l] else l.take L :: pages L (l.drop L)
termination_by l.length
decreasing_by
  rw [List.length_drop]
  omega

theorem pages_of_le {L : Nat} {l : List α} (h : l.length ≤ L) : pages L l = [l] := by
  rw [pages, if_pos (.inr h)]

theorem pages_of_lt {L : Nat} {l : List α} (hL : 0 < L) (h : L < l.length) :
    pages L l = l.take L :: pages L (l.drop L) := by
  rw [pages, if_neg (by omega)]

theorem length_pages {L : Nat} (hL : 0 < L) (l : List α) :
    (pages L l).length = pageCount L l.length := by
  induction l using pages.induct L with
  | case1 l hstop =>
    rcases hstop with hzero | hle
    · omega
    · rw [pages_of_le hle, pageCount_of_le hL hle, List.length_singleton]
  | case2 l hstop ih =>
    have hlt : L < l.length := by omega
    rw [pages_of_lt hL hlt, pageCount_of_lt hL hlt, List.length_cons, ih, List.length_drop]

theorem flatten_pages {L : Nat} (hL : 0 < L) (l : List α) : (pages L l).flatten = l := by
  induction l using pages.induct L with
  | case1 l hstop =>
    rcases hstop with hzero | hle
    · omega
    · rw [pages_of_le hle, List.flatten_singleton]
  | case2 l hstop ih =>
    have hlt : L < l.length := by omega
    rw [pages_of_lt hL hlt, List.flatten_cons, ih, List.take_append_drop]

theorem length_le_of_mem_pages {L : Nat} (hL : 0 < L) {l page : List α} (h : page ∈ pages L l) :
    page.length ≤ L := by
  induction l using pages.induct L with
  | case1 l hstop =>
    rcases hstop with hzero | hle
    · omega
    · rw [pages_of_le hle, List.mem_singleton] at h
      rw [h]
      exact hle
  | case2 l hstop ih =>
    have hlt : L < l.length := by omega
    rw [pages_of_lt hL hlt, List.mem_cons] at h
    rcases h with rfl | hmem
    · exact List.length_take_le L l
    · exact ih hmem

end Paging
