import Mathlib.Data.List.Basic
import Mathlib.Order.Lattice

/-!
# Segments

Instants that cut a line into consecutive half-open segments. An instant between the first one and
the last one lies in exactly one segment, which is counted by the cuts that are not after it
(`Segments.findIdx?_eq`, `Segments.eq_countP`). Cuts before the first instant leave empty segments.
-/

universe u

/-- The segments between two instants with the given cuts. -/
def segments {T : Type u} (first : T) (cuts : List T) (last : T) : List (T × T) :=
  (first :: cuts).zip (cuts ++ [last])

namespace Segments

variable {T : Type u} {first last t : T} {cuts : List T}

@[simp]
theorem nil : segments first [] last = [(first, last)] := rfl

@[simp]
theorem cons {c : T} : segments first (c :: cuts) last = (first, c) :: segments c cuts last := rfl

@[simp]
theorem length : (segments first cuts last).length = cuts.length + 1
  := by
  simp [segments]

theorem fst_mem {s : T × T} (h : s ∈ segments first cuts last) : s.1 ∈ first :: cuts
  := (List.of_mem_zip h).1

variable [LinearOrder T]

theorem countP_eq_zero_of_lt {c : T} (hcuts : (c :: cuts).Pairwise (· < ·)) (ht : t < c) :
  (c :: cuts).countP (· ≤ t) = 0
  := by
  rw [List.countP_eq_zero]
  intro c' hc'
  rw [decide_eq_true_eq, not_le]
  rcases List.mem_cons.mp hc' with rfl | hc'
  · apply ht
  · apply lt_trans ht ((List.pairwise_cons.mp hcuts).1 c' hc')

theorem countP_cons_of_le {c : T} (ht : c ≤ t) :
  (c :: cuts).countP (· ≤ t) = cuts.countP (· ≤ t) + 1
  := List.countP_cons_of_pos (by simpa using ht)

/-- The first segment with the instant is counted by the cuts that are not after the instant. -/
theorem findIdx?_eq (hcuts : cuts.Pairwise (· < ·)) (hfirst : first ≤ t) (hlast : t < last) :
  (segments first cuts last).findIdx? (fun s => s.1 ≤ t && t < s.2) = some (cuts.countP (· ≤ t))
  := by
  induction cuts generalizing first with
  | nil => simp [List.findIdx?_cons, hfirst, hlast]
  | cons c cuts ih =>
      rw [cons, List.findIdx?_cons]
      rcases lt_or_ge t c with hlt | hge
      · rw [countP_eq_zero_of_lt hcuts hlt]
        simp [hfirst, hlt]
      · rw [countP_cons_of_le hge, ih (List.pairwise_cons.mp hcuts).2 hge]
        simp [not_lt.mpr hge]

/-- There is no other segment with the instant. -/
theorem eq_countP (hcuts : cuts.Pairwise (· < ·)) {i : Nat} {s : T × T}
    (hi : (segments first cuts last)[i]? = some s) (hs : s.1 ≤ t) (ht : t < s.2) :
  i = cuts.countP (· ≤ t)
  := by
  induction cuts generalizing first i with
  | nil =>
      have hlt := (List.getElem?_eq_some_iff.mp hi).1
      rw [length] at hlt
      exact Nat.lt_one_iff.mp hlt
  | cons c cuts ih =>
      cases i with
      | zero =>
          obtain rfl := Option.some.inj hi
          rw [countP_eq_zero_of_lt hcuts ht]
      | succ i =>
          have hi : (segments c cuts last)[i]? = some s := hi
          have hmem := fst_mem (List.mem_of_getElem? hi)
          have hc : c ≤ s.1 := by
            rcases List.mem_cons.mp hmem with heq | hmem
            · rw [heq]
            · apply le_of_lt ((List.pairwise_cons.mp hcuts).1 _ hmem)
          rw [countP_cons_of_le (le_trans hc hs), ← ih (List.pairwise_cons.mp hcuts).2 hi]

end Segments
