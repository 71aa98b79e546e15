import RobotestLab.Metrics.RecoveryContract

/-!
# The first recovery window

The metric returns the least candidate that is accepted. A window that ends between two candidates
may be accepted earlier. The first window of all that is accepted then ends where a sample that is
shifted by the length of the window or by the margin lies, or where the poses at the bounds of the
window begin to show progress.
-/

namespace RobotestLab

namespace Metrics

open PyFloat PyArithmetic

variable {F64 : Type} [PyArithmetic F64] {evidence : RecoveryEvidence} {timing : RecoveryTiming}
  {deactivation : Int}

/-! ### One nanosecond earlier -/

theorem ScansWithin.earlier {stamps : List Int} {start stop gap : Int}
    (h : ScansWithin stamps start stop gap) (hstart : start ∉ stamps) (hstop : stop ∉ stamps) :
  ScansWithin stamps (start - 1) (stop - 1) gap
  := by
  refine ⟨?_, ?_, ?_⟩
  · obtain ⟨s, hs, hle⟩ := h.anchored
    refine ⟨s, hs, ?_⟩
    have : s ≠ start := fun heq => hstart (heq ▸ hs)
    omega
  · obtain ⟨s, hs, hle, hgap⟩ := h.recent
    refine ⟨s, hs, ?_, by omega⟩
    have : s ≠ stop := fun heq => hstop (heq ▸ hs)
    omega
  · intro l a b l' hsplit hb hb'
    apply h.gaps l a b l' hsplit _ (by omega)
    have : b ≠ start := by
      rintro rfl
      apply hstart
      simp [hsplit]
    omega

/-- The node stays accepted, unless a sample that is shifted lies here. -/
theorem NodeActive.earlier {samples : List Evidence} {start stop margin : Int}
    (h : NodeActive samples start stop margin) (hlt : start < stop)
    (hstart : ∀ s ∈ samples, stampOf s ≠ start) (hleft : ∀ s ∈ samples, stampOf s ≠ start - 1)
    (hmargin : ∀ s ∈ samples, stampOf s ≠ stop + margin) :
  NodeActive samples (start - 1) (stop - 1) margin
  := by
  refine ⟨?_, ?_, ?_⟩
  · obtain ⟨first, hfirst, hle, hactive⟩ := h.first
    rcases @Held.held_eq_or _ _ _ stampOf samples _ _ (by omega : start - 1 ≤ start) with
      heq | ⟨e, he, -, hgt, hle'⟩
    · rw [heq] at hfirst
      exact ⟨first, hfirst, by omega, hactive⟩
    · exact absurd (le_antisymm hle' (by omega)) (hstart e he)
  · obtain ⟨last, hlast, hle, hactive⟩ := h.last
    rcases @Held.upcoming_eq_or _ _ _ stampOf samples _ _
      (by omega : stop - 1 ≤ stop) with heq | ⟨e, he, heq, hge, hlt'⟩
    · refine ⟨last, heq.trans hlast, ?_, hactive⟩
      obtain ⟨l, l', hsplit, -⟩ := Held.upcoming_eq_some_iff.mp hlast
      have := hmargin last (by simp [hsplit])
      omega
    · -- The sample one nanosecond earlier is one of the window.
      have hmargin' : 0 ≤ margin := by
        obtain ⟨l, l', -, hstop, -⟩ := Held.upcoming_eq_some_iff.mp hlast
        omega
      exact ⟨e, heq, by omega, h.between e he (by omega) (by omega)⟩
  · intro s hs hge hle
    apply h.between s hs _ (by omega)
    have := hleft s hs
    omega

theorem NoCollision.earlier {events : List Evidence} {start stop : Int}
    (h : NoCollision events start stop)
    (hleft : ∀ event ∈ events, PyValue.item "start_stamp_ns" event ≠ .int (start - 1)) :
  NoCollision events (start - 1) (stop - 1)
  := by
  intro event hevent
  obtain ⟨n, hn, hout⟩ := h event hevent
  refine ⟨n, hn, ?_⟩
  have : n ≠ start - 1 := by
    rintro rfl
    apply hleft event hevent hn
  omega

/-- What the poses at the bounds of the window show, if that can be computed. -/
def poseShown (F64 : Type) [PyArithmetic F64] (groundTruth : List Evidence) (start stop : Int) :
    Option Bool :=
  match whenAvailable (poseProgress groundTruth start stop :
    Except MetricError (Option (Progress F64))) with
  | .ok progress => some progress.isSome
  | .error _ => none

theorem progress_earlier {groundTruth feedback : List Evidence} {missionTerminal : Option Evidence}
    {start stop : Int} (hstamped : Stamped feedback)
    (h : ∃ progress : Progress F64,
      progressWindow groundTruth feedback missionTerminal start stop = .ok (.ok progress))
    (hterminal : ∀ terminal ∈ missionTerminal, stampItem terminal ≠ .int stop)
    (hleft : ∀ sample ∈ feedback, stampOf sample ≠ start - 1)
    (hright : ∀ sample ∈ feedback, stampOf sample ≠ stop)
    (hposes : poseShown F64 groundTruth (start - 1) (stop - 1) =
      poseShown F64 groundTruth start stop) :
  ∃ progress : Progress F64,
    progressWindow groundTruth feedback missionTerminal (start - 1) (stop - 1) = .ok (.ok progress)
  := by
  obtain ⟨progress, h⟩ := h
  have hsame : (terminalProgress missionTerminal (stop - 1) : Except MetricError
      (Option (Progress F64))) =
      terminalProgress missionTerminal stop := by
    cases missionTerminal with
    | none => rfl
    | some terminal =>
        simp only [terminalProgress]
        cases hstamp : requireInt (stampItem terminal) "mission_terminal.stamp_ns" with
        | error e => rfl
        | ok n =>
            have hne : n ≠ stop := by
              rintro rfl
              apply hterminal terminal rfl (requireInt_eq_ok_iff.mp hstamp)
            rw [Except.ok_bind, Except.ok_bind,
              show decide (n ≤ stop - 1) = decide (n ≤ stop) from decide_eq_decide.mpr (by omega)]
  have hfilter : (feedback.filter fun s => start - 1 ≤ stampOf s && stampOf s ≤ stop - 1) =
      feedback.filter fun s => start ≤ stampOf s && stampOf s ≤ stop := by
    apply List.filter_congr
    intro s hs
    have := hleft s hs
    have := hright s hs
    rw [Bool.eq_iff_iff]
    simp only [Bool.and_eq_true, decide_eq_true_eq]
    omega
  unfold progressWindow at h ⊢
  rw [hsame]
  obtain ⟨terminal, hterminal', h⟩ := Except.bind_eq_ok_iff.mp h
  rw [hterminal', Except.ok_bind]
  cases terminal with
  | some progress' => exact ⟨progress', rfl⟩
  | none =>
      obtain ⟨pose, hpose, h⟩ := Except.bind_eq_ok_iff.mp h
      unfold poseShown at hposes
      rw [hpose] at hposes
      simp only at hposes ⊢
      generalize whenAvailable (poseProgress groundTruth (start - 1) (stop - 1) :
        Except MetricError (Option (Progress F64))) = earlier at hposes ⊢
      cases earlier with
      | error e => cases hposes
      | ok pose' =>
          rw [Except.ok_bind]
          have hisSome : pose'.isSome = pose.isSome := Option.some.inj hposes
          cases pose' with
          | some progress' => exact ⟨progress', rfl⟩
          | none =>
              cases pose with
              | some progress' => cases hisSome
              | none =>
                  simp only at h ⊢
                  refine ⟨progress, ?_⟩
                  rw [← h]
                  unfold feedbackProgress
                  rw [filterStamp_eq hstamped, filterStamp_eq hstamped, hfilter]

/-! ### The least window -/

/-- A sample that is shifted by the length of the window or by the margin lies here, or the poses at
the bounds show something else than one nanosecond before. -/
def Breakpoint (F64 : Type) [PyArithmetic F64] (evidence : RecoveryEvidence)
    (timing : RecoveryTiming) (e : Int) : Prop :=
  (∃ scan ∈ evidence.validatedScans, stampItem scan = .int (e - timing.windowNs)) ∨
  (∃ sample ∈ evidence.lifecycleSamples, stampItem sample = .int (e - timing.windowNs) ∨
    stampItem sample = .int (e - timing.windowNs - 1) ∨
    stampItem sample = .int (e + timing.lifecycleMarginNs)) ∨
  (∃ event ∈ evidence.collisionEvents,
    PyValue.item "start_stamp_ns" event = .int (e - timing.windowNs - 1)) ∨
  (∃ sample ∈ evidence.feedback, stampItem sample = .int (e - timing.windowNs - 1)) ∨
  poseShown F64 evidence.groundTruth (e - timing.windowNs) e ≠
    poseShown F64 evidence.groundTruth (e - timing.windowNs - 1) (e - 1)

theorem stampItem_of_stampOf {samples : List Evidence} (h : Stamped samples) {s : Evidence}
    (hs : s ∈ samples) {n : Int} (hn : stampOf s = n) :
  stampItem s = .int n
  := by
  obtain ⟨m, hm⟩ := h s hs
  rw [hm, ← hn]
  unfold stampOf
  rw [hm]
  rfl

theorem mem_restoredScans {n : Int} (h : n ∈ restoredScans evidence deactivation) :
  ∃ scan ∈ evidence.validatedScans, stampOf scan = n
  := by
  unfold restoredScans at h
  apply List.mem_map.mp (List.mem_filter.mp h).1

/-- The first window that is accepted ends at a candidate or at a breakpoint. -/
theorem candidate_or_breakpoint (h : Prepared evidence timing deactivation) {e : Int}
    (hleast : IsLeast {e | deactivation + timing.windowNs ≤ e ∧
      Accepts F64 evidence timing deactivation e} e) :
  Candidate evidence (deactivation + timing.windowNs) e ∨ Breakpoint F64 evidence timing e
  := by
  by_contra hneither
  rw [not_or] at hneither
  obtain ⟨hcandidate, hbreakpoint⟩ := hneither
  have hwindow := h.window
  obtain ⟨⟨hle, haccepts⟩, hlower⟩ := hleast
  have hfirst : e ≠ deactivation + timing.windowNs := by
    rintro rfl
    exact hcandidate ⟨le_refl _, Or.inl rfl⟩
  have hstream : ∀ s ∈ sampleStreams evidence, stampItem s ≠ .int e :=
    fun s hs heq => hcandidate ⟨hle, Or.inr (Or.inl ⟨s, hs, heq⟩)⟩
  unfold sampleStreams at hstream
  simp only [Breakpoint, not_or] at hbreakpoint
  obtain ⟨hscan, hlifecycle, hcollision, hfeedback, hposes⟩ := hbreakpoint
  obtain ⟨hscans, hnodes, hcollisions, hprogress⟩ := (accepts_iff h).mp haccepts
  -- The window one nanosecond earlier is accepted too.
  have hearlier : Accepts F64 evidence timing deactivation (e - 1) := by
    rw [accepts_iff h, show e - 1 - timing.windowNs = e - timing.windowNs - 1 by omega]
    refine ⟨hscans.earlier ?_ ?_, ?_, hcollisions.earlier ?_, ?_⟩
    · intro hmem
      obtain ⟨scan, hmem, heq⟩ := mem_restoredScans hmem
      exact hscan ⟨scan, hmem, stampItem_of_stampOf h.scansStamped hmem heq⟩
    · intro hmem
      obtain ⟨scan, hmem, heq⟩ := mem_restoredScans hmem
      exact hstream scan (by simp [hmem]) (stampItem_of_stampOf h.scansStamped hmem heq)
    · intro node hnode
      have hitem : ∀ s ∈ samplesOf evidence.lifecycleSamples node, ∀ n, stampOf s = n →
          s ∈ evidence.lifecycleSamples ∧ stampItem s = .int n := by
        intro s hs n hn
        have hmem : s ∈ evidence.lifecycleSamples := (List.mem_filter.mp hs).1
        exact ⟨hmem, stampItem_of_stampOf h.lifecycleStamped hmem hn⟩
      refine (hnodes node hnode).earlier (by omega) ?_ ?_ ?_
      · intro s hs heq
        obtain ⟨hmem, hs⟩ := hitem s hs _ heq
        exact hlifecycle ⟨s, hmem, Or.inl hs⟩
      · intro s hs heq
        obtain ⟨hmem, hs⟩ := hitem s hs _ heq
        exact hlifecycle ⟨s, hmem, Or.inr (Or.inl hs)⟩
      · intro s hs heq
        obtain ⟨hmem, hs⟩ := hitem s hs _ heq
        exact hlifecycle ⟨s, hmem, Or.inr (Or.inr hs)⟩
    · exact fun event hevent heq => hcollision ⟨event, hevent, heq⟩
    · refine progress_earlier h.feedbackStamped hprogress ?_ ?_ ?_ ?_
      · exact fun terminal hterminal heq =>
          hcandidate ⟨hle, Or.inr (Or.inr ⟨terminal, hterminal, heq⟩)⟩
      · exact fun s hs heq => hfeedback ⟨s, hs, stampItem_of_stampOf h.feedbackStamped hs heq⟩
      · exact fun s hs heq =>
          hstream s (by simp [hs]) (stampItem_of_stampOf h.feedbackStamped hs heq)
      · exact (not_ne_iff.mp hposes).symm
  have hle' := hlower ⟨by omega, hearlier⟩
  omega

/-- The metric returns the least candidate that is accepted, and says that there is none when none
is; an earlier window that it does not examine first qualifies at a breakpoint. -/
theorem recovered_least_candidate {actualDeactivationStampNs : PyValue} :
  (∀ recovery, sensorRecoveryMetrics F64 actualDeactivationStampNs evidence timing = .ok recovery →
    ∃ deactivation, actualDeactivationStampNs = .int deactivation ∧
      IsLeast {e | Candidate evidence (deactivation + timing.windowNs) e ∧
        Accepts F64 evidence timing deactivation e} recovery.recoveredStampNs ∧
      ∀ e, IsLeast {e | deactivation + timing.windowNs ≤ e ∧
          Accepts F64 evidence timing deactivation e} e →
        e = recovery.recoveredStampNs ∨ Breakpoint F64 evidence timing e) ∧
  (sensorRecoveryMetrics F64 actualDeactivationStampNs evidence timing = .error noQualifyingWindow →
    ∃ deactivation, actualDeactivationStampNs = .int deactivation ∧
      (∀ e, Candidate evidence (deactivation + timing.windowNs) e →
        ¬ Accepts F64 evidence timing deactivation e) ∧
      ∀ e, IsLeast {e | deactivation + timing.windowNs ≤ e ∧
          Accepts F64 evidence timing deactivation e} e →
        Breakpoint F64 evidence timing e)
  := by
  constructor
  · intro recovery h
    obtain ⟨deactivation, hdeactivation, hprepared, hleast, -, -⟩ := recovered_isLeast h
    refine ⟨deactivation, hdeactivation, hleast, ?_⟩
    intro e he
    rcases candidate_or_breakpoint hprepared he with hcandidate | hbreakpoint
    · left
      apply le_antisymm
      · apply he.2 ⟨hleast.1.1.1, hleast.1.2⟩
      · apply hleast.2 ⟨hcandidate, he.1.2⟩
    · exact Or.inr hbreakpoint
  · intro h
    obtain ⟨deactivation, hdeactivation, hprepared, hnone⟩ := not_accepts_of_none h
    refine ⟨deactivation, hdeactivation, hnone, ?_⟩
    intro e he
    rcases candidate_or_breakpoint hprepared he with hcandidate | hbreakpoint
    · exact absurd he.1.2 (hnone e hcandidate)
    · apply hbreakpoint

section Sample

/-- The first scan after the dropout comes a tenth of a second late, and no sample lies a second
after it. -/
def sampleLate : RecoveryEvidence where
  validatedScans := [10100000000, 10400000000, 10700000000, 11000000000,
    11300000000].map sampleStamp
  lifecycleSamples := [sampleLifecycle 10050000000 1, sampleLifecycle 11150000000 2]
  requiredLifecycleNodes := ["amcl"]
  groundTruth := [samplePose 10000000000 0, samplePose 10200000000 (1 / 5),
    samplePose 11000000000 1, samplePose 11200000000 (6 / 5)]
  feedback := []
  collisionEvents := []
  missionTerminal := none

theorem sampleLate_run :
  ((sensorRecoveryMetrics ℚ (.int 10000000000) sampleLate {}).toOption.map (·.recoveredStampNs)) =
    some 11150000000
  := by
  decide +kernel

/-- The least candidate that is accepted is the stamp of the lifecycle at 11.15 s. -/
theorem recovered_least_candidate_sample :
  IsLeast {e | Candidate sampleLate (10000000000 + RECOVERY_WINDOW_NS) e ∧
    Accepts ℚ sampleLate {} 10000000000 e} 11150000000
  := by
  obtain ⟨recovery, hrun, hrecovered⟩ := exists_eq_ok sampleLate_run
  obtain ⟨deactivation, hdeactivation, hleast, -⟩ := recovered_least_candidate.1 recovery hrun
  obtain rfl := PyValue.int.inj hdeactivation
  rw [hrecovered] at hleast
  apply hleast

/-- The window that ends a second after the first scan is accepted, and not examined. -/
theorem recovered_not_least :
  ∃ (recovery : SensorRecovery ℚ) (e : Int),
    sensorRecoveryMetrics ℚ (.int 10000000000) sampleLate {} = .ok recovery ∧
      10000000000 + RECOVERY_WINDOW_NS ≤ e ∧ Accepts ℚ sampleLate {} 10000000000 e ∧
      e < recovery.recoveredStampNs
  := by
  obtain ⟨recovery, hrun, hrecovered⟩ := exists_eq_ok sampleLate_run
  refine ⟨recovery, 11100000000, hrun, by decide, ?_, by rw [hrecovered]; decide⟩
  have haccepts : ((examineWindow ℚ sampleLate {} (restoredScans sampleLate 10000000000)
      11100000000).toOption.map fun result => result.toOption.isSome) = some true := by
    decide +kernel
  obtain ⟨result, hresult, hsome⟩ := exists_eq_ok haccepts
  cases result with
  | error rejection => cases hsome
  | ok window => exact ⟨window, hresult⟩

end Sample

end Metrics

end RobotestLab
