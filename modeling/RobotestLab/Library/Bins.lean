import Mathlib.Data.List.Induction
import Mathlib.Order.Basic

/-!
# Bins

A list that is sorted into bins keeps the order of its elements within every bin. The bins together
hold every element once (`Bins.flatten_perm`), and putting an element at the end of its bin sorts
the list with the element at its end (`Bins.modify_eq`).
-/

universe u

variable {α : Type u}

/-- The elements of each of the first bins. -/
def binned (n : Nat) (bin : α → Nat) (l : List α) : List (List α) :=
  (List.range n).map fun k => l.filter fun a => bin a = k

namespace Bins

variable {n : Nat} {bin : α → Nat} {l : List α} {a : α}

@[simp]
theorem nil : binned n bin [] = List.replicate n []
  := by
  unfold binned
  simp only [List.filter_nil, List.map_const', List.length_range]

@[simp]
theorem length : (binned n bin l).length = n
  := by
  simp [binned]

theorem getElem?_eq {k : Nat} (hk : k < n) :
  (binned n bin l)[k]? = some (l.filter fun a => bin a = k)
  := by
  simp [binned, hk]

/-- Put an element at the end of its bin. -/
theorem modify_eq : (binned n bin l).modify (bin a) (· ++ [a]) = binned n bin (l ++ [a])
  := by
  apply List.ext_getElem?
  intro k
  rw [List.getElem?_modify]
  by_cases hk : k < n
  · rw [getElem?_eq hk, getElem?_eq hk, List.filter_append]
    by_cases hbin : bin a = k
    · simp [hbin]
    · simp [hbin]
  · have hnone (l : List α) : (binned n bin l)[k]? = none := by
      rw [List.getElem?_eq_none_iff, length]
      exact Nat.le_of_not_lt hk
    rw [hnone, hnone]
    rfl

/-- The elements of a bin, among the elements of all of the bins. -/
theorem filter_flatten {k : Nat} :
  (binned n bin l).flatten.filter (fun a => bin a = k) =
    if k < n then l.filter (fun a => bin a = k) else []
  := by
  induction n with
  | zero => rfl
  | succ n ih =>
      have hlast : binned (n + 1) bin l = binned n bin l ++ [l.filter fun a => bin a = n] := by
        unfold binned
        rw [List.range_succ, List.map_append]
        rfl
      rw [hlast, List.flatten_append, List.filter_append, ih, List.flatten_singleton,
        List.filter_filter]
      rcases Nat.lt_trichotomy k n with hlt | rfl | hgt
      · have hnil : l.filter (fun a => bin a = k && bin a = n) = [] := by
          rw [List.filter_eq_nil_iff]
          intro a _
          simp only [Bool.and_eq_true, decide_eq_true_eq]
          omega
        rw [if_pos hlt, if_pos (Nat.lt_succ_of_lt hlt), hnil, List.append_nil]
      · simp
      · have hnil : l.filter (fun a => bin a = k && bin a = n) = [] := by
          rw [List.filter_eq_nil_iff]
          intro a _
          simp only [Bool.and_eq_true, decide_eq_true_eq]
          omega
        rw [if_neg (by omega), if_neg (by omega), hnil, List.append_nil]

theorem mem_of_mem_flatten (h : a ∈ (binned n bin l).flatten) : a ∈ l
  := by
  obtain ⟨b, hb, ha⟩ := List.mem_flatten.mp h
  obtain ⟨k, -, rfl⟩ := List.mem_map.mp hb
  apply (List.mem_filter.mp ha).1

theorem flatten_modify_perm {bins : List (List α)} {k : Nat} (hk : k < bins.length) :
  (bins.modify k (· ++ [a])).flatten.Perm (a :: bins.flatten)
  := by
  induction bins generalizing k with
  | nil => cases hk
  | cons b bins ih =>
      cases k with
      | zero =>
          rw [List.modify_zero_cons, List.flatten_cons, List.flatten_cons, List.append_assoc]
          apply List.perm_middle
      | succ k =>
          rw [List.modify_succ_cons, List.flatten_cons, List.flatten_cons]
          apply ((ih (Nat.lt_of_succ_lt_succ hk)).append_left b).trans
          apply List.perm_middle

/-- The bins together hold every element once. -/
theorem flatten_perm (h : ∀ a ∈ l, bin a < n) : (binned n bin l).flatten.Perm l
  := by
  induction l using List.reverseRecOn with
  | nil => simp
  | append_singleton l a ih =>
      have ha : bin a < (binned n bin l).length := by
        rw [length]
        exact h a (by simp)
      rw [← modify_eq]
      apply (flatten_modify_perm ha).trans
      apply ((ih fun a' ha' => h a' (by simp [ha'])).cons a).trans
      apply (List.perm_append_singleton a l).symm

end Bins
