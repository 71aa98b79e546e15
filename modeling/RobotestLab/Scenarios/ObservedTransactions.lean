import RobotestLab.Scenarios.ScenarioThree

/-!
# Observed transactions

The transactions of the third scenario are observed by the poses that were matched to their indices.
Resolving the observations keeps that, and does not use a pose twice
(`Observes.resolveS3Observations`).
-/

namespace RobotestLab

namespace Scenarios

variable {F : Type}

namespace ScenarioController

/-- The transactions are numbered in order, an observed one has the pose that is matched to its
index, and the used numbers are those of observations. -/
structure Observes (matched : List (PoseEvidence F)) (transactions : List (Transaction F))
    (usedSequences : List Nat) : Prop where
  indices : ∀ (i : Nat) t, transactions[i]? = some t → t.index = i
  poses : ∀ (i : Nat) t pose, transactions[i]? = some t → t.observedPose = some pose →
    matched[i]? = some pose.toPoseEvidence
  used : ∀ n ∈ usedSequences, ∃ (i : Nat) (t : Transaction F) (pose : ObservedPose F),
    transactions[i]? = some t ∧ t.observedPose = some pose ∧ pose.collectorSequence = n

section Transactions

variable {matched matched' : List (PoseEvidence F)}
  {transactions before after : List (Transaction F)}
  {usedSequences : List Nat} {transaction : Transaction F} {f : Transaction F → Transaction F}

theorem Observes.empty : Observes matched [] []
  where
  indices _ _ h := by cases h
  poses _ _ _ h := by cases h
  used := nofun

theorem Observes.mono (h : Observes matched transactions usedSequences)
    (hinit : matched <+: matched') :
  Observes matched' transactions usedSequences
  where
  indices := h.indices
  poses i t pose ht hpose := by
    obtain ⟨hi, hmatched⟩ := List.getElem?_eq_some_iff.mp (h.poses i t pose ht hpose)
    rw [List.prefix_iff_getElem?.mp hinit i hi, hmatched]
  used := h.used

/-- A transaction that is changed keeps its index and its observation. -/
theorem Observes.set {k : Nat} {t t' : Transaction F}
    (h : Observes matched transactions usedSequences)
    (hk : transactions[k]? = some t) (hindex : t'.index = t.index)
    (hold : ∀ pose, t.observedPose = some pose → t'.observedPose = some pose)
    (hnew : ∀ pose, t'.observedPose = some pose → matched[k]? = some pose.toPoseEvidence) :
  Observes matched (transactions.set k t') usedSequences
  := by
  have hlength := (List.getElem?_eq_some_iff.mp hk).1
  have hset : ∀ i, (transactions.set k t')[i]? = if k = i then some t' else transactions[i]? := by
    intro i
    rw [List.getElem?_set, if_pos hlength]
  constructor
  · intro i u hu
    rw [hset] at hu
    split at hu
    · cases hu
      rename_i hi
      rw [hindex, h.indices k t hk, hi]
    · apply h.indices i u hu
  · intro i u pose hu hpose
    rw [hset] at hu
    split at hu
    · cases hu
      rename_i hi
      rw [← hi]
      apply hnew pose hpose
    · apply h.poses i u pose hu hpose
  · intro n hn
    obtain ⟨i, u, pose, hu, hpose, hsequence⟩ := h.used n hn
    by_cases hi : k = i
    · refine ⟨i, t', pose, ?_, ?_, hsequence⟩
      · rw [hset, if_pos hi]
      · rw [hi, hu] at hk
        cases hk
        apply hold pose hpose
    · refine ⟨i, u, pose, ?_, hpose, hsequence⟩
      rw [hset, if_neg hi, hu]

/-- The number of an observation is used. -/
theorem Observes.use {k : Nat} {t : Transaction F} {pose : ObservedPose F}
    (h : Observes matched transactions usedSequences) (hk : transactions[k]? = some t)
    (hpose : t.observedPose = some pose) :
  Observes matched transactions (usedSequences ++ [pose.collectorSequence])
  where
  indices := h.indices
  poses := h.poses
  used := by
    intro n hn
    rcases List.mem_append.mp hn with hn | hn
    · apply h.used n hn
    · rw [List.mem_singleton.mp hn]
      exact ⟨k, t, pose, hk, hpose, rfl⟩

theorem Observes.map (h : Observes matched transactions usedSequences)
    (hf : ∀ t, (f t).index = t.index ∧ (f t).observedPose = t.observedPose) :
  Observes matched (transactions.map f) usedSequences
  where
  indices := by
    intro i t ht
    rw [List.getElem?_map, Option.map_eq_some_iff] at ht
    obtain ⟨u, hu, rfl⟩ := ht
    rw [(hf u).1]
    apply h.indices i u hu
  poses := by
    intro i t pose ht hpose
    rw [List.getElem?_map, Option.map_eq_some_iff] at ht
    obtain ⟨u, hu, rfl⟩ := ht
    rw [(hf u).2] at hpose
    apply h.poses i u pose hu hpose
  used := by
    intro n hn
    obtain ⟨i, t, pose, ht, hpose, hsequence⟩ := h.used n hn
    refine ⟨i, f t, pose, ?_, ?_, hsequence⟩
    · rw [List.getElem?_map, ht]
      rfl
    · rw [(hf t).2, hpose]

/-- A new transaction is not observed yet. -/
theorem Observes.concat (h : Observes matched transactions usedSequences)
    (hindex : transaction.index = transactions.length) (hpose : transaction.observedPose = none) :
  Observes matched (transactions ++ [transaction]) usedSequences
  where
  indices := by
    intro i t ht
    rw [List.getElem?_append] at ht
    split at ht
    · apply h.indices i t ht
    · obtain ⟨hi, rfl⟩ := List.getElem?_eq_some_iff.mp ht
      rw [List.length_singleton, Nat.lt_one_iff] at hi
      rw [List.getElem_singleton, hindex]
      congr 1
      omega
  poses := by
    intro i t pose ht hpose'
    rw [List.getElem?_append] at ht
    split at ht
    · apply h.poses i t pose ht hpose'
    · obtain ⟨hi, rfl⟩ := List.getElem?_eq_some_iff.mp ht
      rw [List.getElem_singleton, hpose] at hpose'
      cases hpose'
  used := by
    intro n hn
    obtain ⟨i, t, pose, ht, hpose', hsequence⟩ := h.used n hn
    refine ⟨i, t, pose, ?_, hpose', hsequence⟩
    rw [List.getElem?_append_left (List.getElem?_eq_some_iff.mp ht).1, ht]

/-! ### Resolutions -/

variable [PoseFloat F]

/-- The observation of a candidate does not raise the error of a reused one, and keeps the index. -/
theorem observe_spec {candidate : PoseEvidence F} {r : Except TrajectoryRaised Unit}
    {t' : Transaction F}
    {used used' : List Nat} (h : observe candidate transaction used = (r, t', used')) :
  r ≠ .error .reusedObservation ∧ used' = used ∧ t'.index = transaction.index
    ∧ (r = .ok () → ∃ pose, t'.observedPose = some pose ∧ pose.toPoseEvidence = candidate)
  := by
  unfold observe at h
  split at h
  case h_1 =>
    cases h
    exact ⟨nofun, rfl, rfl, nofun⟩
  case h_2 =>
    dsimp only at h
    split at h
    case isTrue =>
      cases h
      exact ⟨nofun, rfl, rfl, nofun⟩
    case isFalse =>
      split at h
      case isTrue =>
        cases h
        exact ⟨nofun, rfl, rfl, nofun⟩
      case isFalse =>
        cases h
        exact ⟨nofun, rfl, rfl, fun _ => ⟨_, rfl, rfl⟩⟩

/-- A matched pose is not reused: the observations before it have other numbers. -/
theorem Observes.resolveObservation {k : Nat} {r : Except TrajectoryRaised Unit}
    {t' : Transaction F} {used' : List Nat} (h : Observes matched transactions usedSequences)
    (hdistinct : matched.Pairwise fun a b => a.collectorSequence < b.collectorSequence)
    (hk : transactions[k]? = some transaction)
    (hresolve : resolveObservation (indexed matched) transaction usedSequences = (r, t', used')) :
  r ≠ .error .reusedObservation ∧ (r = .ok () → Observes matched (transactions.set k t') used')
  := by
  have hsame : transactions.set k transaction = transactions := by
    obtain ⟨hlength, rfl⟩ := List.getElem?_eq_some_iff.mp hk
    apply List.set_getElem_self
  unfold ScenarioController.resolveObservation at hresolve
  split at hresolve
  case isTrue =>
    cases hresolve
    rw [hsame]
    exact ⟨nofun, fun _ => h⟩
  case isFalse hunobserved =>
    rw [Option.not_isSome_iff_eq_none] at hunobserved
    split at hresolve
    case isTrue =>
      cases hresolve
      rw [hsame]
      exact ⟨nofun, fun _ => h⟩
    case isFalse =>
      rw [h.indices k transaction hk, lookup_indexed] at hresolve
      split at hresolve
      case h_1 =>
        cases hresolve
        rw [hsame]
        exact ⟨nofun, fun _ => h⟩
      case h_2 candidate hcandidate =>
        split at hresolve
        case isTrue hused =>
          exfalso
          obtain ⟨j, t, pose, ht, hpose, hsequence⟩ := h.used _ (List.contains_iff_mem.mp hused)
          obtain ⟨hj, hmatched⟩ := List.getElem?_eq_some_iff.mp (h.poses j t pose ht hpose)
          obtain ⟨hk', rfl⟩ := List.getElem?_eq_some_iff.mp hcandidate
          rw [List.pairwise_iff_getElem] at hdistinct
          have hsequence' : matched[j].collectorSequence = matched[k].collectorSequence := by
            rw [hmatched, hsequence]
          rcases lt_trichotomy j k with hlt | rfl | hlt
          · exact (hdistinct j k hj hk' hlt).ne hsequence'
          · rw [hk] at ht
            cases ht
            rw [hpose] at hunobserved
            cases hunobserved
          · exact (hdistinct k j hk' hj hlt).ne hsequence'.symm
        case isFalse =>
          obtain ⟨hr, rfl, hindex, hobserved⟩ := observe_spec hresolve
          refine ⟨hr, ?_⟩
          intro hok
          obtain ⟨pose, hpose, rfl⟩ := hobserved hok
          have hset := @Observes.set _ _ _ _ _ _ t' h hk hindex
            (fun pose' hpose' => by
              rw [hunobserved] at hpose'
              cases hpose')
            (fun pose' hpose' => by
              rw [hpose] at hpose'
              cases hpose'
              exact hcandidate)
          have hself : (transactions.set k t')[k]? = some t' :=
            List.getElem?_set_self (List.getElem?_eq_some_iff.mp hk).1
          exact hset.use hself hpose

/-- Resolving the observations does not raise the error of a reused one. -/
theorem Observes.resolveS3Observations {r : Except TrajectoryRaised Unit}
    {after' : List (Transaction F)}
    {used' : List Nat} (h : Observes matched (before ++ after) usedSequences)
    (hdistinct : matched.Pairwise fun a b => a.collectorSequence < b.collectorSequence)
    (hresolve : resolveS3Observations (indexed matched) after usedSequences = (r, after', used')) :
  r ≠ .error .reusedObservation ∧ after'.length = after.length
    ∧ (r = .ok () → Observes matched (before ++ after') used')
  := by
  induction after generalizing before usedSequences r after' used' with
  | nil =>
      cases hresolve
      exact ⟨nofun, rfl, fun _ => h⟩
  | cons transaction after ih =>
      rw [ScenarioController.resolveS3Observations] at hresolve
      cases hone : ScenarioController.resolveObservation
        (indexed matched) transaction usedSequences with
      | mk first rest =>
          obtain ⟨t', usedNow⟩ := rest
          rw [hone] at hresolve
          have hk : (before ++ transaction :: after)[before.length]? = some transaction := by simp
          obtain ⟨hfirst, hobserves⟩ := h.resolveObservation hdistinct hk hone
          cases first with
          | error e =>
              cases hresolve
              exact ⟨hfirst, rfl, nofun⟩
          | ok u =>
              have hobserves' := hobserves rfl
              rw [List.set_append_right _ _ (le_refl _), Nat.sub_self, List.set_cons_zero,
                List.append_cons] at hobserves'
              dsimp only at hresolve
              cases hrest : ScenarioController.resolveS3Observations
                (indexed matched) after usedNow with
              | mk last rest =>
                  obtain ⟨after'', used''⟩ := rest
                  rw [hrest] at hresolve
                  cases hresolve
                  obtain ⟨hlast, hlength, hall⟩ := ih hobserves' hrest
                  refine ⟨hlast, congrArg Nat.succ hlength, ?_⟩
                  intro hok
                  rw [List.append_cons]
                  apply hall hok

end Transactions

end ScenarioController

end Scenarios

end RobotestLab
