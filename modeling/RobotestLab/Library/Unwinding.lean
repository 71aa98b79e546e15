import RobotestLab.Library.Run

/-!
# Comparing two runs

Two runs of one step function are compared through a relation between their states. A call with
its answer either has a key, and then it is matched with the call of the other run that has the
same key, or it has none, and then it must keep the relation on its own. Runs of allowed calls
whose keys agree show the same views of the calls that have keys.
-/

universe u v w

namespace Run

variable {S C O E : Type u} {K : Type v} {V : Type w} {step : S → C → Except E (O × S)}
  (Allowed : C × O → Prop) (R : S → S → Prop) (key : C × O → Option K) (view : C × O → V)

/-- The views of the calls that have keys. -/
def views (tr : List (C × O)) : List V :=
  tr.filterMap fun e => (key e).map fun _ => view e

/-- The conditions on a relation between the states of two runs. -/
structure Unwinds (step : S → C → Except E (O × S)) : Prop where
  left : ∀ {s t c o s'}, R s t → Allowed (c, o) → step s c = .ok (o, s') → key (c, o) = none →
    R s' t
  right : ∀ {s t c o t'}, R s t → Allowed (c, o) → step t c = .ok (o, t') → key (c, o) = none →
    R s t'
  both : ∀ {s t c o s' c' o' t' k}, R s t → step s c = .ok (o, s') → step t c' = .ok (o', t') →
    key (c, o) = some k → key (c', o') = some k → view (c, o) = view (c', o') ∧ R s' t'

variable {Allowed R key view}

/-- A run without keys keeps the relation on the right. -/
theorem Unwinds.right_run (hU : Unwinds Allowed R key view step) {s t t' : S} {tr : List (C × O)}
    (h : Run step t tr t') (hall : ∀ e ∈ tr, Allowed e) (hR : R s t)
    (hkeys : tr.filterMap key = []) :
  R s t' ∧ views key view tr = []
  := by
  induction h with
  | nil t => exact ⟨hR, rfl⟩
  | @cons t m t' c o tr hstep _ ih =>
      have hkey : key (c, o) = none := by
        cases hkey : key (c, o) with
        | none => rfl
        | some k => simp [hkey] at hkeys
      simp only [List.filterMap_cons, hkey] at hkeys
      obtain ⟨hR', hviews⟩ := ih (fun e he => hall e (List.mem_cons_of_mem _ he))
        (hU.right hR (hall _ List.mem_cons_self) hstep hkey) hkeys
      refine ⟨hR', ?_⟩
      rw [views, List.filterMap_cons, hkey]
      exact hviews

/-- A run with a first key splits at the call that has it. -/
theorem Unwinds.right_split (hU : Unwinds Allowed R key view step) {s t t' : S} {tr : List (C × O)}
    {k : K} {ks : List K} (h : Run step t tr t') (hall : ∀ e ∈ tr, Allowed e) (hR : R s t)
    (hkeys : tr.filterMap key = k :: ks) :
  ∃ c o m m' rest, R s m ∧ step m c = .ok (o, m') ∧ key (c, o) = some k ∧
    Run step m' rest t' ∧ (∀ e ∈ rest, Allowed e) ∧ rest.filterMap key = ks ∧
    views key view tr = view (c, o) :: views key view rest
  := by
  induction h with
  | nil t => simp at hkeys
  | @cons t m t' c o tr hstep hrest ih =>
      have hall' : ∀ e ∈ tr, Allowed e := fun e he => hall e (List.mem_cons_of_mem _ he)
      cases hkey : key (c, o) with
      | none =>
          simp only [List.filterMap_cons, hkey] at hkeys
          obtain ⟨c', o', m', m'', rest, hrel, hstep', hkey', hrun, hrest, hks, hviews⟩ :=
            ih hall' (hU.right hR (hall _ List.mem_cons_self) hstep hkey) hkeys
          refine ⟨c', o', m', m'', rest, hrel, hstep', hkey', hrun, hrest, hks, ?_⟩
          rw [← hviews, views, List.filterMap_cons, hkey]
          rfl
      | some k' =>
          simp only [List.filterMap_cons, hkey, List.cons.injEq] at hkeys
          obtain ⟨rfl, hks⟩ := hkeys
          refine ⟨c, o, t, m, tr, hR, hstep, hkey, hrest, hall', hks, ?_⟩
          rw [views, List.filterMap_cons, hkey]
          rfl

/-- Runs from related states whose keys agree show the same views and end in related states. -/
theorem Unwinds.run (hU : Unwinds Allowed R key view step) {s s' t t' : S} {tr tr' : List (C × O)}
    (h : Run step s tr s') (h' : Run step t tr' t') (hall : ∀ e ∈ tr, Allowed e)
    (hall' : ∀ e ∈ tr', Allowed e) (hR : R s t)
    (hkeys : tr.filterMap key = tr'.filterMap key) :
  views key view tr = views key view tr' ∧ R s' t'
  := by
  induction h generalizing t tr' with
  | nil s =>
      obtain ⟨hR', hviews⟩ := hU.right_run h' hall' hR hkeys.symm
      exact ⟨hviews.symm, hR'⟩
  | @cons s m s' c o tr hstep _ ih =>
      have hrest : ∀ e ∈ tr, Allowed e := fun e he => hall e (List.mem_cons_of_mem _ he)
      cases hkey : key (c, o) with
      | none =>
          simp only [List.filterMap_cons, hkey] at hkeys
          obtain ⟨hviews, hR'⟩ := ih h' hrest hall'
            (hU.left hR (hall _ List.mem_cons_self) hstep hkey) hkeys
          refine ⟨?_, hR'⟩
          rw [← hviews, views, List.filterMap_cons, hkey]
          rfl
      | some k =>
          simp only [List.filterMap_cons, hkey] at hkeys
          obtain ⟨c', o', n, n', rest, hrel, hstep', hkey', hrun, hallowed, hks, hviews⟩ :=
            hU.right_split h' hall' hR hkeys.symm
          obtain ⟨hview, hnext⟩ := hU.both hrel hstep hstep' hkey hkey'
          obtain ⟨htail, hR'⟩ := ih hrun hrest hallowed hnext hks.symm
          refine ⟨?_, hR'⟩
          rw [hviews, ← hview, ← htail, views, List.filterMap_cons, hkey]
          rfl

end Run
