import Mathlib.Data.List.Basic
import Mathlib.Data.List.Infix

/-!
# Dotted paths

The components of a text that are separated by dots. A text continues another one after a dot
exactly when it has more components and starts with those of the other one (`continues_iff`).
-/

namespace DottedPath

/-- The components of a path. -/
def components (path : String) : List String :=
  (path.toList.splitOn '.').map String.ofList

/-- `later.startswith(earlier + '.')`. -/
def Continues (earlier later : String) : Prop :=
  earlier.toList ++ ['.'] <+: later.toList

instance (earlier later : String) : Decidable (Continues earlier later) :=
  inferInstanceAs (Decidable (_ <+: _))

variable {earlier later path : String}

theorem components_ne_nil : components path ≠ []
  := by
  intro h
  exact List.splitOn_ne_nil '.' path.toList (List.map_eq_nil_iff.mp h)

/-- The path is its components with dots between them. -/
theorem intercalate_components :
  ['.'].intercalate ((components path).map String.toList) = path.toList
  := by
  have hid : String.toList ∘ String.ofList = id := funext fun cs => String.toList_ofList
  rw [components, List.map_map, hid, List.map_id, List.intercalate_splitOn]

/-- The components after a dot follow the ones before it. -/
theorem components_append {rest : List Char} (h : later.toList = earlier.toList ++ '.' :: rest) :
  components later = components earlier ++ components (String.ofList rest)
  := by
  rw [components, components, components, h, List.splitOn_append_cons_self, List.map_append,
    String.toList_ofList]

theorem intercalate_append {xs ys : List (List Char)} (hxs : xs ≠ []) (hys : ys ≠ []) :
  ['.'].intercalate (xs ++ ys) = ['.'].intercalate xs ++ '.' :: ['.'].intercalate ys
  := by
  induction xs with
  | nil => exact absurd rfl hxs
  | cons x xs ih =>
      rw [List.cons_append]
      cases xs with
      | nil =>
          rw [List.nil_append, List.intercalate_cons_of_ne_nil hys, List.intercalate_singleton]
          simp
      | cons x' xs =>
          rw [List.intercalate_cons_of_ne_nil (by simp), List.intercalate_cons_of_ne_nil (by simp),
            ih (by simp)]
          simp

theorem continues_iff :
  Continues earlier later ↔ components earlier <+: components later ∧
    components earlier ≠ components later
  := by
  constructor
  · rintro ⟨rest, h⟩
    have hlater : later.toList = earlier.toList ++ '.' :: rest := by
      rw [← h, List.append_assoc]
      rfl
    rw [components_append hlater]
    refine ⟨List.prefix_append _ _, ?_⟩
    intro heq
    exact components_ne_nil (List.append_right_eq_self.mp heq.symm)
  · rintro ⟨⟨rest, hrest⟩, hne⟩
    have hne' : rest ≠ [] := by
      rintro rfl
      exact hne (by rw [← hrest, List.append_nil])
    refine ⟨['.'].intercalate (rest.map String.toList), ?_⟩
    rw [← @intercalate_components later, ← hrest, List.map_append,
      intercalate_append (by simpa using components_ne_nil) (by simpa using hne'),
      intercalate_components,
      List.append_assoc]
    rfl

end DottedPath
