import RobotestLab.Collisions.GateAdmission
import RobotestLab.Library.Run

/-!
# The active set of the gate

The active set after a completed batch has the pairs of the batch, and the pairs that were active
and were last seen at most 250 ms before the batch. So after a run it has the pairs whose last
sighting is that recent, each with the records of its last sighting. The numbers that the gate
checks are those of the new set, and the flag that it publishes for says whether the pairs differ.
-/

namespace RobotestLab

namespace Collisions

namespace Ros

open ContactStreamPolicy

variable {F64 : Type}

/-! ### One batch -/

section Batch

variable {active : PairMap (ActivePair F64)} {batch : PendingBatch F64} {completed : Int}
  {p : ContactPair}

/-- The pairs that leave the active set. -/
def expiredPairs (active : PairMap (ActivePair F64)) (batch : PendingBatch F64) (completed : Int) :
    List ContactPair :=
  (active.toList.filter (releaseProven batch completed)).map Prod.fst

/-- The active set without the pairs that leave it. -/
def keptPairs (active : PairMap (ActivePair F64)) (batch : PendingBatch F64) (completed : Int) :
    PairMap (ActivePair F64) :=
  (expiredPairs active batch completed).foldl (fun active pair => active.erase pair) active

/-- The entries of a batch as active pairs. -/
def batchEntries (batch : PendingBatch F64) (completed : Int) :
    List (ContactPair × ActivePair F64) :=
  batch.pairs.toList.map fun entry =>
    (entry.1, { toRecordGroup := entry.2, lastSeenStampNs := completed })

theorem mem_expiredPairs :
  p ∈ expiredPairs active batch completed ↔
    ∃ a, active[p]? = some a ∧ releaseProven batch completed (p, a) = true
  := by
  unfold expiredPairs
  rw [List.mem_map]
  constructor
  · rintro ⟨⟨p, a⟩, hmem, rfl⟩
    rw [List.mem_filter, Std.ExtTreeMap.mem_toList_iff_getElem?_eq_some] at hmem
    exact ⟨a, hmem⟩
  · rintro ⟨a, ha, hreleased⟩
    refine ⟨(p, a), ?_, rfl⟩
    rw [List.mem_filter, Std.ExtTreeMap.mem_toList_iff_getElem?_eq_some]
    exact ⟨ha, hreleased⟩

theorem getElem?_eraseAll {pairs : List ContactPair} :
  (pairs.foldl (fun active pair => active.erase pair) active)[p]? =
    if p ∈ pairs then none else active[p]?
  := by
  induction pairs generalizing active with
  | nil => simp
  | cons pair pairs ih =>
      rw [List.foldl_cons, ih, Std.ExtTreeMap.getElem?_erase]
      simp only [Std.LawfulEqCmp.compare_eq_iff_eq, List.mem_cons]
      grind

/-- A pair is kept exactly when its release is not proven. -/
theorem getElem?_keptPairs :
  (keptPairs active batch completed)[p]? =
    active[p]?.filter fun a => !releaseProven batch completed (p, a)
  := by
  unfold keptPairs
  rw [getElem?_eraseAll]
  split
  · rename_i hmem
    obtain ⟨a, ha, hreleased⟩ := mem_expiredPairs.mp hmem
    rw [ha, Option.filter_some, hreleased]
    rfl
  · rename_i hmem
    cases ha : active[p]? with
    | none => rfl
    | some a =>
        have hkept : releaseProven batch completed (p, a) = false := by
          rw [Bool.eq_false_iff]
          intro hreleased
          exact hmem (mem_expiredPairs.mpr ⟨a, ha, hreleased⟩)
        rw [Option.filter_some, hkept]
        rfl

theorem nodup_batchEntries :
  ((batchEntries batch completed).map Prod.fst).Nodup
  := by
  unfold batchEntries
  rw [List.map_map]
  exact SortedMap.nodup_keys batch.pairs

theorem updateActive_eq :
  updateActive active batch completed (expiredPairs active batch completed) =
    SortedMap.assignAll (keptPairs active batch completed) (batchEntries batch completed)
  := rfl

/-- The active set after a batch: the pairs of the batch, and those that were seen recently. -/
theorem getElem?_updateActive :
  (updateActive active batch completed (expiredPairs active batch completed))[p]? =
    match batch.pairs[p]? with
    | some group => some { toRecordGroup := group, lastSeenStampNs := completed }
    | none => active[p]?.filter fun a => completed - a.lastSeenStampNs ≤ kContactReleaseGapNs
  := by
  rw [updateActive_eq]
  cases hp : batch.pairs[p]? with
  | some group =>
      apply SortedMap.getElem?_assignAll_of_mem nodup_batchEntries
      unfold batchEntries
      rw [List.mem_map]
      exact ⟨(p, group), Std.ExtTreeMap.mem_toList_iff_getElem?_eq_some.mpr hp, rfl⟩
  | none =>
      rw [SortedMap.getElem?_assignAll_of_notMem, getElem?_keptPairs]
      · congr 1
        funext a
        unfold releaseProven
        rw [hp]
        simp only [Option.isNone_none, Bool.true_and, gt_iff_lt, ← decide_not, not_lt]
      · unfold batchEntries
        rw [List.map_map]
        change p ∉ batch.pairs.toList.map Prod.fst
        rw [SortedMap.mem_keys, hp]
        exact Bool.false_ne_true

/-! ### The numbers of a batch -/

theorem foldl_projectActive {l : List (ContactPair × ActivePair F64)} {projection : Projection} :
  (l.foldl (projectActive batch completed) projection).expired =
      projection.expired ++ (l.filter (releaseProven batch completed)).map Prod.fst ∧
  (l.foldl (projectActive batch completed) projection).recordCount = projection.recordCount +
      ((l.filter fun e => !releaseProven batch completed e).map fun e => e.2.records.length).sum
  := by
  induction l generalizing projection with
  | nil => simp
  | cons entry l ih =>
      rw [List.foldl_cons]
      obtain ⟨hexpired, hrecords⟩ := @ih (projectActive batch completed projection entry)
      rw [hexpired, hrecords]
      unfold projectActive
      split
      · rename_i hreleased
        simp [hreleased]
      · rename_i hreleased
        simp [hreleased, Nat.add_assoc]

/-- A total of the kept pairs is the one over the pairs that are not released. -/
theorem total_keptPairs (f : ContactPair × ActivePair F64 → Nat) :
  SortedMap.total f (keptPairs active batch completed) =
    ((active.toList.filter fun e => !releaseProven batch completed e).map f).sum
  := by
  have hperm : (keptPairs active batch completed).toList.Perm
      (active.toList.filter fun e => !releaseProven batch completed e) := by
    apply (List.perm_ext_iff_of_nodup (SortedMap.nodup_toList _)
      ((SortedMap.nodup_toList active).filter _)).mpr
    rintro ⟨p, a⟩
    rw [List.mem_filter, Std.ExtTreeMap.mem_toList_iff_getElem?_eq_some,
      Std.ExtTreeMap.mem_toList_iff_getElem?_eq_some, getElem?_keptPairs]
    rw [Option.filter_eq_some_iff]
  exact (hperm.map _).sum_eq

/-- A pair of the batch that is not kept is new. -/
theorem projectBatch_of_none {projection : Projection} (group : RecordGroup (Contact F64))
    (h : p ∈ projection.expired ∨ active[p]? = none) :
  (projectBatch active projection (p, group)).expired = projection.expired ∧
  (projectBatch active projection (p, group)).pairSetChanged = true ∧
  (projectBatch active projection (p, group)).recordCount =
    projection.recordCount + group.records.length
  := by
  unfold projectBatch
  cases hp : active[p]? with
  | none => exact ⟨rfl, rfl, rfl⟩
  | some old =>
      rw [hp] at h
      have hmem : p ∈ projection.expired := by
        simpa using h
      simp [hmem]

/-- A pair of the batch that is kept is replaced. -/
theorem projectBatch_of_some {projection : Projection} (group : RecordGroup (Contact F64))
    {old : ActivePair F64} (hexpired : p ∉ projection.expired) (hold : active[p]? = some old) :
  (projectBatch active projection (p, group)).expired = projection.expired ∧
  (projectBatch active projection (p, group)).pairSetChanged = projection.pairSetChanged ∧
  (projectBatch active projection (p, group)).recordCount =
    projection.recordCount - old.records.length + group.records.length
  := by
  unfold projectBatch
  simp [hold, hexpired]

theorem foldl_projectBatch {entries : List (ContactPair × RecordGroup (Contact F64))}
    {kept current : PairMap (ActivePair F64)} {projection : Projection}
    (hnodup : (entries.map Prod.fst).Nodup)
    (hkept : ∀ p, kept[p]? = if p ∈ projection.expired then none else active[p]?)
    (hcurrent : ∀ p ∈ entries.map Prod.fst, current[p]? = kept[p]?)
    (hrecords : projection.recordCount =
      SortedMap.total (fun e => e.2.records.length) current) :
  (entries.foldl (projectBatch active) projection).recordCount =
      SortedMap.total (fun e => e.2.records.length)
        (SortedMap.assignAll current (entries.map fun entry =>
          (entry.1, { toRecordGroup := entry.2, lastSeenStampNs := completed }))) ∧
  (entries.foldl (projectBatch active) projection).expired = projection.expired ∧
  ((entries.foldl (projectBatch active) projection).pairSetChanged = true ↔
    projection.pairSetChanged = true ∨ ∃ p ∈ entries.map Prod.fst, kept[p]? = none)
  := by
  induction entries generalizing current projection with
  | nil => exact ⟨hrecords, rfl, by simp⟩
  | cons entry entries ih =>
      obtain ⟨p, group⟩ := entry
      rw [List.map_cons, List.nodup_cons] at hnodup
      have hp : current[p]? = kept[p]? := hcurrent p (by simp)
      have htotal := SortedMap.total_insert
        (f := fun (e : ContactPair × ActivePair F64) => e.2.records.length) current p
        { toRecordGroup := group, lastSeenStampNs := completed }
      have hstep : (projectBatch active projection (p, group)).expired = projection.expired ∧
          ((projectBatch active projection (p, group)).pairSetChanged = true ↔
            projection.pairSetChanged = true ∨ kept[p]? = none) ∧
          (projectBatch active projection (p, group)).recordCount =
            SortedMap.total (fun e => e.2.records.length)
              (current.insert p { toRecordGroup := group, lastSeenStampNs := completed }) := by
        cases hold : kept[p]? with
        | none =>
            have hnew : p ∈ projection.expired ∨ active[p]? = none := by
              rw [hkept p] at hold
              by_cases hmem : p ∈ projection.expired
              · exact .inl hmem
              · rw [if_neg hmem] at hold
                exact .inr hold
            obtain ⟨h₁, h₂, h₃⟩ := projectBatch_of_none group hnew
            rw [hp, hold, Option.elim_none, Nat.add_zero] at htotal
            refine ⟨h₁, by simp [h₂], ?_⟩
            rw [h₃, htotal, hrecords]
        | some old =>
            have hmem : p ∉ projection.expired := by
              intro hmem
              rw [hkept p, if_pos hmem] at hold
              cases hold
            have hactive : active[p]? = some old := by
              rw [← hold, hkept p, if_neg hmem]
            obtain ⟨h₁, h₂, h₃⟩ := projectBatch_of_some group hmem hactive
            rw [hp, hold, Option.elim_some] at htotal
            dsimp only at htotal
            have hle : old.records.length ≤
                SortedMap.total (fun e => e.2.records.length) current :=
              SortedMap.le_total (f := fun (e : ContactPair × ActivePair F64) =>
                e.2.records.length) (hp.trans hold)
            refine ⟨h₁, by simp [h₂], ?_⟩
            rw [h₃, hrecords]
            omega
      obtain ⟨hexpired, hchanged, hcount⟩ := hstep
      have hkept' : ∀ q, kept[q]? =
          if q ∈ (projectBatch active projection (p, group)).expired then none else active[q]? := by
        rw [hexpired]
        exact hkept
      have hcurrent' : ∀ q ∈ entries.map Prod.fst,
          (current.insert p { toRecordGroup := group, lastSeenStampNs := completed })[q]? =
            kept[q]? := by
        intro q hq
        rw [SortedMap.getElem?_insert_eq, if_neg]
        · exact hcurrent q (List.mem_cons_of_mem _ hq)
        · rintro rfl
          exact hnodup.1 hq
      obtain ⟨ih₁, ih₂, ih₃⟩ := ih hnodup.2 hkept' hcurrent' hcount
      rw [List.foldl_cons]
      refine ⟨ih₁, by rw [ih₂, hexpired], ?_⟩
      rw [ih₃, hchanged]
      simp only [List.map_cons, List.mem_cons, exists_eq_or_imp, or_assoc]

theorem project_expired :
  (project active batch completed).expired = expiredPairs active batch completed
  := by
  have hbatch : ∀ (entries : List (ContactPair × RecordGroup (Contact F64)))
      (projection : Projection),
      (entries.foldl (projectBatch active) projection).expired = projection.expired := by
    intro entries
    induction entries with
    | nil =>
        intro projection
        rfl
    | cons entry entries ih =>
        intro projection
        rw [List.foldl_cons, ih]
        unfold projectBatch
        dsimp only
        split
        · split
          · rfl
          · rfl
        · rfl
  unfold project
  dsimp only
  rw [hbatch, foldl_projectActive.1]
  rfl

/-- What the gate computes before it changes the active set. -/
theorem project_spec :
  (project active batch completed).recordCount =
    SortedMap.total (fun e => e.2.records.length)
      (updateActive active batch completed (expiredPairs active batch completed)) ∧
  ((project active batch completed).pairSetChanged = true ↔
    expiredPairs active batch completed ≠ [] ∨
      ∃ p : ContactPair, batch.pairs[p]?.isSome = true ∧
        (keptPairs active batch completed)[p]? = none)
  := by
  obtain ⟨hexpired, hrecords⟩ := @foldl_projectActive F64 batch completed active.toList
    { pairCount := active.size }
  rw [List.nil_append] at hexpired
  rw [Nat.zero_add, ← total_keptPairs] at hrecords
  obtain ⟨hcount, -, hchanged⟩ := @foldl_projectBatch F64 active completed batch.pairs.toList
    (keptPairs active batch completed) (keptPairs active batch completed)
    { active.toList.foldl (projectActive batch completed) { pairCount := active.size } with
      pairSetChanged :=
        !(active.toList.foldl (projectActive batch completed)
          { pairCount := active.size }).expired.isEmpty }
    (SortedMap.nodup_keys batch.pairs)
    (by
      intro p
      rw [hexpired]
      exact getElem?_eraseAll)
    (fun p _ => rfl) hrecords
  refine ⟨hcount, ?_⟩
  unfold project
  rw [hchanged, hexpired]
  simp only [Bool.not_eq_true', List.isEmpty_eq_false_iff, SortedMap.mem_keys]
  rfl

/-- The flag says whether the pairs before and after the batch differ. -/
theorem project_changed_iff :
  (project active batch completed).pairSetChanged = true ↔
    ∃ p : ContactPair, active[p]?.isSome ≠
      (updateActive active batch completed (expiredPairs active batch completed))[p]?.isSome
  := by
  have hnew := fun p => @getElem?_updateActive F64 active batch completed p
  rw [project_spec.2]
  constructor
  · rintro (hexpired | ⟨p, hp, hkept⟩)
    · obtain ⟨p, hp⟩ := List.exists_mem_of_ne_nil _ hexpired
      obtain ⟨a, ha, hreleased⟩ := mem_expiredPairs.mp hp
      unfold releaseProven at hreleased
      rw [Bool.and_eq_true, Option.isNone_iff_eq_none, decide_eq_true_eq] at hreleased
      refine ⟨p, ?_⟩
      have hlate : ¬ completed - a.lastSeenStampNs ≤ kContactReleaseGapNs := not_le.mpr hreleased.2
      rw [hnew p, hreleased.1, ha, Option.filter_some, decide_eq_false hlate]
      exact Bool.noConfusion
    · rw [getElem?_keptPairs, Option.filter_eq_none_iff] at hkept
      refine ⟨p, ?_⟩
      have hnone : active[p]? = none := by
        cases ha : active[p]? with
        | none => rfl
        | some a =>
            have hreleased := hkept a ha
            unfold releaseProven at hreleased
            obtain ⟨group, hgroup⟩ := Option.isSome_iff_exists.mp hp
            rw [hgroup] at hreleased
            simp at hreleased
      obtain ⟨group, hgroup⟩ := Option.isSome_iff_exists.mp hp
      rw [hnew p, hgroup, hnone]
      simp
  · rintro ⟨p, hne⟩
    rw [hnew p] at hne
    cases hgroup : batch.pairs[p]? with
    | some group =>
        rw [hgroup] at hne
        have hnone : active[p]? = none := by
          cases ha : active[p]? with
          | none => rfl
          | some a =>
              rw [ha] at hne
              exact absurd rfl hne
        refine .inr ⟨p, by rw [hgroup]; rfl, ?_⟩
        rw [getElem?_keptPairs, hnone]
        rfl
    | none =>
        rw [hgroup] at hne
        cases ha : active[p]? with
        | none =>
            rw [ha] at hne
            exact absurd rfl hne
        | some a =>
            rw [ha] at hne
            refine .inl (List.ne_nil_of_mem (mem_expiredPairs.mpr ⟨a, ha, ?_⟩))
            unfold releaseProven
            rw [hgroup]
            simp only [Option.filter_some, decide_eq_true_eq] at hne
            split at hne
            · exact absurd rfl hne
            · rename_i hrecent
              exact decide_eq_true (not_le.mp hrecent)

end Batch

end Ros

end Collisions

end RobotestLab
