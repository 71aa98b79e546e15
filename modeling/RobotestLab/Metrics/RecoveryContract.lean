import RobotestLab.Metrics.RecoverySearch

/-!
# The contract of a recovery window

The window that is returned follows the rules of the contract exactly when the scan after it comes
in time and a success of the mission before it is not its only progress.
-/

namespace RobotestLab

namespace Metrics

open PyFloat PyArithmetic

variable {F64 : Type} [PyArithmetic F64] {evidence : RecoveryEvidence} {timing : RecoveryTiming}
  {deactivation : Int}

/-- The rules for a window. A gap between scans is the time between two neighbours. -/
structure FollowsContract (F64 : Type) [PyArithmetic F64] (evidence : RecoveryEvidence)
    (timing : RecoveryTiming) (deactivation start stop : Int) : Prop where
  restored : deactivation ≤ start
  anchored : ∃ s ∈ restoredScans evidence deactivation, s ≤ start
  gaps : ∀ l a b l', restoredScans evidence deactivation = l ++ a :: b :: l' →
    a < stop → start < b →
    b - a ≤ timing.maximumScanGapNs
  recent : ∃ s ∈ restoredScans evidence deactivation, s ≤ stop ∧ stop - s ≤ timing.maximumScanGapNs
  lifecycle : ∀ node ∈ evidence.requiredLifecycleNodes,
    ActiveThrough (samplesOf evidence.lifecycleSamples node) start stop timing.lifecycleMarginNs
  collisions : ∀ event ∈ evidence.collisionEvents, ∀ n,
    PyValue.item "start_stamp_ns" event = .int n → ¬ (start ≤ n ∧ n ≤ stop)
  progress : Moved F64 evidence.groundTruth start stop ∨
    AdvancesWithin evidence.feedback start stop ∨
    SucceedsWithin evidence.missionTerminal start stop

/-- The gap between scans that the end of the window is in is not too long. -/
def NextScanInTime (stamps : List Int) (stop gap : Int) : Prop :=
  ∀ l a b l', stamps = l ++ a :: b :: l' → a < stop → stop < b → b - a ≤ gap

/-- The mission succeeded before the window. -/
def SucceededBefore (missionTerminal : Option Evidence) (start : Int) : Prop :=
  ∃ terminal ∈ missionTerminal, hasSucceeded terminal = true ∧
    ∃ n, stampItem terminal = .int n ∧ n < start

/-- The first window that the code accepts has the next scan in time, and progress of its own. -/
def Conforms (F64 : Type) [PyArithmetic F64] (evidence : RecoveryEvidence) (timing : RecoveryTiming)
    (deactivation : Int) : Prop :=
  ∀ e, IsLeast {e | Candidate evidence (deactivation + timing.windowNs) e ∧
      Accepts F64 evidence timing deactivation e} e →
    NextScanInTime (restoredScans evidence deactivation) e timing.maximumScanGapNs ∧
      (SucceededBefore evidence.missionTerminal (e - timing.windowNs) →
        Moved F64 evidence.groundTruth (e - timing.windowNs) e ∨
          AdvancesWithin evidence.feedback (e - timing.windowNs) e)

theorem followsContract_iff (h : Prepared evidence timing deactivation) {e : Int}
    (hcandidate : Candidate evidence (deactivation + timing.windowNs) e)
    (haccepts : Accepts F64 evidence timing deactivation e) :
  FollowsContract F64 evidence timing deactivation (e - timing.windowNs) e ↔
    NextScanInTime (restoredScans evidence deactivation) e timing.maximumScanGapNs ∧
      (SucceededBefore evidence.missionTerminal (e - timing.windowNs) →
        Moved F64 evidence.groundTruth (e - timing.windowNs) e ∨
          AdvancesWithin evidence.feedback (e - timing.windowNs) e)
  := by
  have hwindow := h.window
  obtain ⟨hscans, hnodes, hcollisions, progress, hprogress⟩ := (accepts_iff h).mp haccepts
  constructor
  · intro hcontract
    refine ⟨fun l a b l' hsplit ha hb => hcontract.gaps l a b l' hsplit ha (by omega), ?_⟩
    rintro ⟨terminal, hterminal, hsucceeded, n, hn, hlt⟩
    rcases hcontract.progress with hmoved | hadvances | ⟨terminal', hterminal', -, n', hn', hle, -⟩
    · exact Or.inl hmoved
    · exact Or.inr hadvances
    · obtain rfl := Option.mem_unique hterminal hterminal'
      obtain rfl := PyValue.int.inj (hn.symm.trans hn')
      exact absurd (lt_of_le_of_lt hle hlt) (lt_irrefl _)
  · rintro ⟨hnext, hbefore⟩
    refine ⟨by have := hcandidate.1; omega, hscans.anchored, ?_, hscans.recent, ?_, ?_, ?_⟩
    · intro l a b l' hsplit ha hb
      rcases le_or_gt b e with hle | hgt
      · apply hscans.gaps l a b l' hsplit hb hle
      · apply hnext l a b l' hsplit ha hgt
    · intro node hnode
      refine (hnodes node hnode).activeThrough ?_ (by omega)
      exact h.lifecycleOrdered.filter _
    · intro event hevent n hn
      obtain ⟨n', hn', hout⟩ := hcollisions event hevent
      obtain rfl := PyValue.int.inj (hn.symm.trans hn')
      apply hout
    · rcases progressWindow_eq_ok h.feedbackStamped h.waypoints hprogress with
        ⟨terminal, hterminal, hsucceeded, n, hn, hle⟩ | hmoved | hadvances
      · rcases lt_or_ge n (e - timing.windowNs) with hlt | hge
        · rcases hbefore ⟨terminal, hterminal, hsucceeded, n, hn, hlt⟩ with hmoved | hadvances
          · exact Or.inl hmoved
          · exact Or.inr (Or.inl hadvances)
        · exact Or.inr (Or.inr ⟨terminal, hterminal, hsucceeded, n, hn, hge, hle⟩)
      · exact Or.inl hmoved
      · exact Or.inr (Or.inl hadvances)

/-- The window that is returned follows the contract exactly when the first accepted one
conforms. -/
theorem recovery_follows_contract {actualDeactivationStampNs : PyValue}
    {recovery : SensorRecovery F64}
    (h : sensorRecoveryMetrics F64 actualDeactivationStampNs evidence timing = .ok recovery) :
  ∃ deactivation, actualDeactivationStampNs = .int deactivation ∧
    (FollowsContract F64 evidence timing deactivation recovery.windowStartStampNs
      recovery.windowEndStampNs ↔ Conforms F64 evidence timing deactivation)
  := by
  obtain ⟨deactivation, hdeactivation, hprepared, hleast, hend, hstart⟩ := recovered_isLeast h
  refine ⟨deactivation, hdeactivation, ?_⟩
  rw [hstart, hend, followsContract_iff hprepared hleast.1.1 hleast.1.2]
  constructor
  · intro hconforms e he
    rw [he.unique hleast]
    apply hconforms
  · intro hconforms
    apply hconforms _ hleast

section Sample

def sampleStamp (stampNs : Int) : Evidence := [(.str "stamp_ns", .int stampNs)]

def sampleLifecycle (stampNs sequence : Int) : Evidence :=
  [(.str "stamp_ns", .int stampNs), (.str "collector_sequence", .int sequence),
    (.str "node", .str "amcl"), (.str "state", .str "active")]

def samplePose (stampNs : Int) (x : ℚ) : Evidence :=
  [(.str "stamp_ns", .int stampNs), (.str "x_m", .float (some x)), (.str "y_m", .float (some 0))]

/-- The robot drives on for a second after the dropout; the last scan comes at the given stamp. -/
def sampleRecovery (lastScan : Int) : RecoveryEvidence where
  validatedScans := [10000000000, 10300000000, 10600000000, 10900000000, lastScan].map sampleStamp
  lifecycleSamples := [sampleLifecycle 9900000000 1, sampleLifecycle 11100000000 2]
  requiredLifecycleNodes := ["amcl"]
  groundTruth := [samplePose 10000000000 0, samplePose 11000000000 1]
  feedback := []
  collisionEvents := []
  missionTerminal := none

/-- The scan after the window comes 0.3 s after the last one in it. -/
theorem recovery_follows_contract_sample :
  ∃ recovery : SensorRecovery ℚ, recovery.recoveredStampNs = 11000000000 ∧
    (FollowsContract ℚ (sampleRecovery 11200000000) {} 10000000000 recovery.windowStartStampNs
      recovery.windowEndStampNs ↔ Conforms ℚ (sampleRecovery 11200000000) {} 10000000000)
  := by
  have hrun : ((sensorRecoveryMetrics ℚ (.int 10000000000) (sampleRecovery 11200000000)
      {}).toOption.map
      (·.recoveredStampNs)) = some 11000000000 := by
    decide +kernel
  obtain ⟨recovery, hrun, hrecovered⟩ := exists_eq_ok hrun
  obtain ⟨deactivation, hdeactivation, hiff⟩ := recovery_follows_contract hrun
  obtain rfl := PyValue.int.inj hdeactivation
  exact ⟨recovery, hrecovered, hiff⟩

/-- The scans stop at the end of the window, and it is returned. -/
theorem recovery_breaks_contract :
  ∃ recovery : SensorRecovery ℚ,
    sensorRecoveryMetrics ℚ (.int 10000000000) (sampleRecovery 11400000000) {} = .ok recovery ∧
      ¬ FollowsContract ℚ (sampleRecovery 11400000000) {} 10000000000 recovery.windowStartStampNs
        recovery.windowEndStampNs
  := by
  have hrun : ((sensorRecoveryMetrics ℚ (.int 10000000000) (sampleRecovery 11400000000)
      {}).toOption.map
      fun recovery => (recovery.windowStartStampNs, recovery.windowEndStampNs)) =
        some (10000000000, 11000000000) := by
    decide +kernel
  obtain ⟨recovery, hrun, hwindow⟩ := exists_eq_ok hrun
  obtain ⟨hstart, hend⟩ := Prod.mk.inj hwindow
  refine ⟨recovery, hrun, ?_⟩
  rw [hstart, hend]
  intro hcontract
  have hscans : restoredScans (sampleRecovery 11400000000) 10000000000 =
      [10000000000, 10300000000, 10600000000] ++ 10900000000 :: 11400000000 :: [] := by
    decide +kernel
  have hgap := hcontract.gaps _ _ _ _ hscans (by decide) (by decide)
  revert hgap
  decide

end Sample

end Metrics

end RobotestLab
