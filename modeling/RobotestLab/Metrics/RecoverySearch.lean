import RobotestLab.Metrics.RecoveryWindow
import Mathlib.Data.List.Dedup

/-!
# The search for a recovery window

The metric examines the windows that end at the candidates, in order, with samples that were
checked. It returns the first one that passes the four checks, and when it says that no window
qualifies, none of them does.
-/

namespace RobotestLab

namespace Metrics

open PyFloat PyArithmetic

variable {F64 : Type} [PyArithmetic F64] {evidence : RecoveryEvidence} {timing : RecoveryTiming}
  {deactivation : Int}

/-! ### The samples of a run -/

/-- The stamps of the validated scans from the end of the dropout on. -/
def restoredScans (evidence : RecoveryEvidence) (deactivation : Int) : List Int :=
  (evidence.validatedScans.map stampOf).filter (deactivation ≤ ·)

def sampleStreams (evidence : RecoveryEvidence) : List Evidence :=
  evidence.validatedScans ++ evidence.groundTruth ++ evidence.feedback ++ evidence.lifecycleSamples

/-- A window that is examined ends as early as possible, or at the stamp of a sample or of the end
of the mission. -/
def Candidate (evidence : RecoveryEvidence) (first e : Int) : Prop :=
  first ≤ e ∧ (e = first ∨ (∃ sample ∈ sampleStreams evidence, stampItem sample = .int e) ∨
    ∃ terminal ∈ evidence.missionTerminal, stampItem terminal = .int e)

/-- The window that ends there passes all four checks of the code. -/
def Accepts (F64 : Type) [PyArithmetic F64] (evidence : RecoveryEvidence) (timing : RecoveryTiming)
    (deactivation e : Int) : Prop :=
  ∃ window : WindowEvidence F64,
    examineWindow F64 evidence timing (restoredScans evidence deactivation) e = .ok (.ok window)

/-- What is known when the windows are examined. -/
structure Prepared (evidence : RecoveryEvidence) (timing : RecoveryTiming) (deactivation : Int) :
    Prop where
  window : 0 < timing.windowNs
  margin : 0 ≤ timing.lifecycleMarginNs
  lifecycleStamped : Stamped evidence.lifecycleSamples
  lifecycleOrdered : InStampOrder stampOf evidence.lifecycleSamples
  feedbackStamped : Stamped evidence.feedback
  waypoints : WaypointsOrdered evidence.feedback
  scansStamped : Stamped evidence.validatedScans
  restored : (restoredScans evidence deactivation).Pairwise (· < ·)

variable {samples : List Evidence} {stamps : List Int} {name : String} {index : Nat}

theorem strictStamps_eq_ok {previous : Option Int}
    (h : strictStamps name previous index samples = .ok stamps) :
  stamps = samples.map stampOf ∧ Stamped samples ∧ stamps.Pairwise (· < ·) ∧
    ∀ n ∈ previous, ∀ s ∈ stamps, n < s
  := by
  induction samples generalizing previous index stamps with
  | nil =>
      obtain rfl := Except.ok.inj h
      exact ⟨rfl, nofun, List.Pairwise.nil, nofun⟩
  | cons sample samples ih =>
      unfold strictStamps at h
      obtain ⟨stamp, hstamp, h⟩ := Except.bind_eq_ok_iff.mp h
      obtain ⟨hitem, hof⟩ := requireInt_stamp hstamp
      split at h
      · cases h
      rename_i hprevious
      obtain ⟨rest, hrest, h⟩ := Except.bind_eq_ok_iff.mp h
      obtain rfl := Except.ok.inj h
      obtain ⟨rfl, hstamped, hpairwise, hlt⟩ := ih hrest
      refine ⟨by rw [List.map_cons, hof], List.forall_mem_cons.mpr ⟨⟨stamp, hitem⟩, hstamped⟩,
        List.pairwise_cons.mpr ⟨hlt stamp rfl, hpairwise⟩, ?_⟩
      intro n hn s hs
      have hfirst : n < stamp := by
        obtain rfl := hn
        simpa using hprevious
      rcases List.mem_cons.mp hs with rfl | hs
      · apply hfirst
      · apply lt_trans hfirst (hlt stamp rfl s hs)

variable {first : Int}

theorem mem_laterStamps (h : laterStamps first samples = .ok stamps) {e : Int} :
  e ∈ stamps ↔ first ≤ e ∧ ∃ sample ∈ samples, stampItem sample = .int e
  := by
  unfold laterStamps at h
  obtain ⟨all, hall, h⟩ := Except.bind_eq_ok_iff.mp h
  obtain rfl := Except.ok.inj h
  have hforall := Except.mapM_eq_ok_iff.mp hall
  rw [List.mem_filter, decide_eq_true_eq, and_comm]
  constructor
  · rintro ⟨hle, hmem⟩
    obtain ⟨sample, hsample, hstamp⟩ := hforall.exists_mem hmem
    exact ⟨hle, sample, hsample, requireInt_eq_ok_iff.mp hstamp⟩
  · rintro ⟨hle, sample, hsample, hitem⟩
    obtain ⟨stamp, hmem, hstamp⟩ := hforall.flip.exists_mem hsample
    obtain rfl := PyValue.int.inj ((requireInt_eq_ok_iff.mp hstamp).symm.trans hitem)
    exact ⟨hle, hmem⟩

theorem mem_terminalStamps {missionTerminal : Option Evidence}
    (h : terminalStamps first missionTerminal = .ok stamps) {e : Int} :
  e ∈ stamps ↔ first ≤ e ∧ ∃ terminal ∈ missionTerminal, stampItem terminal = .int e
  := by
  cases missionTerminal with
  | none =>
      obtain rfl := Except.ok.inj h
      simp
  | some terminal =>
      unfold terminalStamps at h
      obtain ⟨stamp, hstamp, h⟩ := Except.bind_eq_ok_iff.mp h
      obtain rfl := Except.ok.inj h
      have hitem := requireInt_eq_ok_iff.mp hstamp
      simp only [Option.mem_some_iff, exists_eq_left', hitem, PyValue.int.injEq]
      split
      · rw [List.mem_singleton]
        constructor
        · rintro rfl
          exact ⟨by assumption, rfl⟩
        · exact fun he => he.2.symm
      · simp only [List.not_mem_nil, false_iff, not_and]
        rintro hle rfl
        contradiction

/-- The candidates are examined in order. -/
theorem candidateEnds_eq_ok {ends : List Int} (h : candidateEnds evidence first = .ok ends) :
  ends.Pairwise (· < ·) ∧ ∀ e, e ∈ ends ↔ Candidate evidence first e
  := by
  unfold candidateEnds at h
  obtain ⟨scans, hscans, h⟩ := Except.bind_eq_ok_iff.mp h
  obtain ⟨poses, hposes, h⟩ := Except.bind_eq_ok_iff.mp h
  obtain ⟨feedback, hfeedback, h⟩ := Except.bind_eq_ok_iff.mp h
  obtain ⟨lifecycle, hlifecycle, h⟩ := Except.bind_eq_ok_iff.mp h
  obtain ⟨terminal, hterminal, h⟩ := Except.bind_eq_ok_iff.mp h
  obtain rfl := Except.ok.inj h
  constructor
  · have hsorted := List.pairwise_insertionSort (· ≤ ·)
      (first :: scans ++ poses ++ feedback ++ lifecycle ++ terminal).dedup
    have hnodup : ((first :: scans ++ poses ++ feedback ++ lifecycle ++
        terminal).dedup.insertionSort (· ≤ ·)).Nodup :=
      (List.perm_insertionSort _ _).nodup_iff.mpr (List.nodup_dedup _)
    refine List.Pairwise.imp₂ ?_ hsorted hnodup
    exact fun a b hle hne => lt_of_le_of_ne hle hne
  · intro e
    rw [(List.perm_insertionSort _ _).mem_iff, List.mem_dedup]
    simp only [List.mem_append, List.mem_cons, mem_laterStamps hscans, mem_laterStamps hposes,
      mem_laterStamps hfeedback, mem_laterStamps hlifecycle, mem_terminalStamps hterminal]
    unfold Candidate sampleStreams
    simp only [List.mem_append, or_and_right, exists_or]
    constructor
    · rintro (((((rfl | h) | h) | h) | h) | h)
      · exact ⟨le_refl e, Or.inl rfl⟩
      · exact ⟨h.1, Or.inr (Or.inl (Or.inl (Or.inl (Or.inl h.2))))⟩
      · exact ⟨h.1, Or.inr (Or.inl (Or.inl (Or.inl (Or.inr h.2))))⟩
      · exact ⟨h.1, Or.inr (Or.inl (Or.inl (Or.inr h.2)))⟩
      · exact ⟨h.1, Or.inr (Or.inl (Or.inr h.2))⟩
      · exact ⟨h.1, Or.inr (Or.inr h.2)⟩
    · rintro ⟨hle, rfl | (((h | h) | h) | h) | h⟩
      · exact Or.inl (Or.inl (Or.inl (Or.inl (Or.inl rfl))))
      · exact Or.inl (Or.inl (Or.inl (Or.inl (Or.inr ⟨hle, h⟩))))
      · exact Or.inl (Or.inl (Or.inl (Or.inr ⟨hle, h⟩)))
      · exact Or.inl (Or.inl (Or.inr ⟨hle, h⟩))
      · exact Or.inl (Or.inr ⟨hle, h⟩)
      · exact Or.inr ⟨hle, h⟩

/-! ### The search -/

def noQualifyingWindow : MetricError := .unavailable "no qualifying sensor-recovery window"

/-- The computation stops with another error, if it does. -/
def Avoids {α : Type} (m : Except MetricError α) : Prop := m ≠ .error noQualifyingWindow

section Avoids

variable {α β : Type}

theorem avoids_ok {a : α} : Avoids (.ok a : Except MetricError α) := nofun

theorem avoids_unavailable {text : String} (h : text.toList.head? ≠ some 'n') :
  Avoids (unavailable text : Except MetricError α)
  := by
  intro heq
  apply h
  injection heq with heq
  injection heq with heq
  rw [heq]
  decide

theorem Avoids.bind {m : Except MetricError α} {f : α → Except MetricError β} (hm : Avoids m)
    (hf : ∀ a, Avoids (f a)) :
  Avoids (m >>= f)
  := by
  cases m with
  | error e => exact fun h => hm (by injection h with h; rw [h])
  | ok a => apply hf a

theorem head?_append {name rest : String} {c : Char} (h : name.toList.head? = some c) :
  (name ++ rest).toList.head? = some c
  := by
  rw [String.toList_append, List.head?_append, h]
  rfl

theorem avoids_requireInt {value : PyValue} {name : String} {c : Char}
    (hname : name.toList.head? = some c) (hc : c ≠ 'n') :
  Avoids (requireInt value name)
  := by
  unfold requireInt PyValue.toInteger
  cases value.asInteger with
  | some n => apply avoids_ok
  | none =>
      refine avoids_unavailable ?_
      rw [head?_append hname]
      simpa using hc

theorem avoids_mapM {f : α → Except MetricError β} (hf : ∀ a, Avoids (f a)) (l : List α) :
  Avoids (l.mapM f)
  := by
  induction l with
  | nil => apply avoids_ok
  | cons a l ih =>
      rw [List.mapM_cons]
      exact (hf a).bind fun b => ih.bind fun bs => avoids_ok

end Avoids

theorem avoids_filterStamp {p : Int → Bool} {c : Char}
    (hname : name.toList.head? = some c) (hc : c ≠ 'n') :
  Avoids (filterStamp name p samples)
  := by
  induction samples with
  | nil => apply avoids_ok
  | cons sample samples ih =>
      exact (avoids_requireInt hname hc).bind fun stamp => ih.bind fun rest => avoids_ok

theorem avoids_orderedFrom {name complaint : String} {previous : Option (Int × Int)}
    {c : Char} (hname : name.toList.head? = some c) (hc : c ≠ 'n') :
  Avoids (orderedFrom name complaint previous index samples)
  := by
  induction samples generalizing previous index with
  | nil => apply avoids_ok
  | cons sample samples ih =>
      unfold orderedFrom collectorOrder
      refine Avoids.bind (Avoids.bind (avoids_requireInt (c := c) ?_ hc) fun stamp =>
        Avoids.bind (avoids_requireInt (c := c) ?_ hc) fun sequence => avoids_ok) ?_
      · simp only [String.append_assoc]
        apply head?_append hname
      · simp only [String.append_assoc]
        apply head?_append hname
      · intro order
        split
        · apply avoids_unavailable
          rw [head?_append hname]
          simpa using hc
        · apply ih

theorem avoids_strictStamps {previous : Option Int}
    {c : Char} (hname : name.toList.head? = some c) (hc : c ≠ 'n') :
  Avoids (strictStamps name previous index samples)
  := by
  induction samples generalizing previous index with
  | nil => apply avoids_ok
  | cons sample samples ih =>
      unfold strictStamps
      refine Avoids.bind (avoids_requireInt (c := c) ?_ hc) ?_
      · simp only [String.append_assoc]
        apply head?_append hname
      · intro stamp
        split
        · apply avoids_unavailable
          rw [head?_append hname]
          simpa using hc
        · exact ih.bind fun stamps => avoids_ok

theorem avoids_currentWaypoint (sample : Evidence) : Avoids (currentWaypoint sample) :=
  avoids_requireInt (c := 'f') (by decide) (by decide)

theorem avoids_checkWaypoints {last : Option Int} {feedback : List Evidence} :
  Avoids (checkWaypoints last feedback)
  := by
  induction feedback generalizing last with
  | nil => apply avoids_ok
  | cons sample feedback ih =>
      refine (avoids_currentWaypoint sample).bind ?_
      intro current
      split
      · apply avoids_unavailable (by decide)
      · apply ih

theorem avoids_candidateEnds : Avoids (candidateEnds evidence first) := by
  have hlater : ∀ samples, Avoids (laterStamps first samples) := by
    intro samples
    refine Avoids.bind (avoids_mapM ?_ samples) fun stamps => avoids_ok
    exact fun sample => avoids_requireInt (c := 'c') (by decide) (by decide)
  have hterminal : Avoids (terminalStamps first evidence.missionTerminal) := by
    cases evidence.missionTerminal with
    | none => apply avoids_ok
    | some terminal =>
        exact (avoids_requireInt (c := 'm') (by decide) (by decide)).bind fun stamp => avoids_ok
  exact (hlater _).bind fun scans => (hlater _).bind fun poses => (hlater _).bind fun feedback =>
    (hlater _).bind fun lifecycle => hterminal.bind fun terminal => avoids_ok

theorem avoids_nodesWindow {start stop margin : Int}
    {known : Dict String Snapshots} {nodes : List String} :
  Avoids (nodesWindow samples start stop margin known nodes)
  := by
  induction nodes generalizing known with
  | nil => apply avoids_ok
  | cons node nodes ih =>
      refine Avoids.bind ?_ ?_
      · unfold nodeWindow
        refine (avoids_filterStamp (c := 'l') (by decide) (by decide)).bind fun before => ?_
        refine (avoids_filterStamp (c := 'l') (by decide) (by decide)).bind fun after => ?_
        refine (avoids_filterStamp (c := 'l') (by decide) (by decide)).bind fun between => ?_
        simp only
        split
        · apply avoids_ok
        split
        · apply avoids_ok
        split
        · apply avoids_ok
        split
        · apply avoids_ok
        split
        · apply avoids_ok
        exact (avoids_requireInt (c := 'a') (by decide) (by decide)).bind fun stop =>
          (avoids_requireInt (c := 'b') (by decide) (by decide)).bind fun start => avoids_ok
      · intro result
        cases result with
        | error rejection => apply avoids_ok
        | ok snapshots => apply ih

theorem avoids_collisionWithin {start stop : Int} {events : List Evidence} :
  Avoids (collisionWithin start stop events)
  := by
  induction events with
  | nil => apply avoids_ok
  | cons event events ih =>
      refine (avoids_requireInt (c := 'c') (by decide) (by decide)).bind fun stamp => ?_
      split
      · apply avoids_ok
      · apply ih

theorem avoids_whenAvailable {α : Type} {m : Except MetricError (Option α)} :
  Avoids (whenAvailable m)
  := by
  unfold whenAvailable
  split
  · apply avoids_ok
  · rename_i hother
    intro h
    apply hother _ h

omit [PyArithmetic F64] in
theorem avoids_feedbackProgress {feedback : List Evidence} {start stop : Int} :
  Avoids (feedbackProgress feedback start stop : Except MetricError (Option (Progress F64)))
  := by
  have hreported : ∀ transitions,
      Avoids (reportedAdvance transitions : Except MetricError (Option (Progress F64))) := by
    intro transitions
    induction transitions with
    | nil => apply avoids_ok
    | cons sample transitions ih =>
        unfold reportedAdvance
        refine (avoids_currentWaypoint sample).bind fun current => ?_
        split
        · apply ih
        · refine (avoids_requireInt (c := 'f') (by decide) (by decide)).bind fun prior => ?_
          split
          · apply avoids_ok
          · apply ih
  have hobserved : ∀ transitions,
      Avoids (observedAdvance transitions : Except MetricError (Option (Progress F64))) := by
    intro transitions
    refine (avoids_mapM avoids_currentWaypoint transitions).bind fun indices => ?_
    split
    · split
      · apply avoids_ok
      · apply avoids_ok
    · apply avoids_ok
  refine (avoids_filterStamp (c := 'f') (by decide) (by decide)).bind fun transitions => ?_
  refine (hreported transitions).bind fun reported => ?_
  cases reported with
  | some progress => apply avoids_ok
  | none => apply hobserved

theorem avoids_examineWindow {restored : List Int} {e : Int} :
  Avoids (examineWindow F64 evidence timing restored e)
  := by
  unfold examineWindow
  simp only
  split
  · apply avoids_ok
  · refine avoids_nodesWindow.bind fun lifecycle => ?_
    cases lifecycle with
    | error rejection => apply avoids_ok
    | ok snapshots =>
        refine avoids_collisionWithin.bind fun collision => ?_
        split
        · apply avoids_ok
        · refine Avoids.bind ?_ fun progress => ?_
          · unfold progressWindow
            refine Avoids.bind ?_ fun terminal => ?_
            · unfold terminalProgress
              split
              · apply avoids_ok
              · refine (avoids_requireInt (c := 'm') (by decide) (by decide)).bind fun stamp => ?_
                split
                · apply avoids_ok
                · apply avoids_ok
            · split
              · apply avoids_ok
              · refine avoids_whenAvailable.bind fun pose => ?_
                split
                · apply avoids_ok
                · refine avoids_feedbackProgress.bind fun advance => ?_
                  split
                  · apply avoids_ok
                  · apply avoids_ok
          · cases progress with
            | error rejection => apply avoids_ok
            | ok progress => apply avoids_ok

/-- The window that is returned is the first one that is accepted. -/
theorem firstWindow_eq_ok {restored ends : List Int} {rejected : List (Int × Rejection)}
    {recovery : SensorRecovery F64}
    (h : firstWindow F64 evidence timing deactivation restored rejected ends = .ok recovery) :
  (∃ l l', ends = l ++ recovery.recoveredStampNs :: l' ∧ ∀ e ∈ l, ∃ rejection,
      examineWindow F64 evidence timing restored e = .ok (.error rejection)) ∧
    examineWindow F64 evidence timing restored recovery.recoveredStampNs =
      .ok (.ok recovery.toWindowEvidence) ∧
    recovery.windowEndStampNs = recovery.recoveredStampNs ∧
    recovery.windowStartStampNs = recovery.recoveredStampNs - timing.windowNs
  := by
  induction ends generalizing rejected with
  | nil => cases h
  | cons stop ends ih =>
      unfold firstWindow at h
      obtain ⟨result, hresult, h⟩ := Except.bind_eq_ok_iff.mp h
      cases result with
      | error rejection =>
          obtain ⟨⟨l, l', hsplit, hl⟩, hrest⟩ := ih h
          refine ⟨⟨stop :: l, l', by rw [hsplit, List.cons_append], ?_⟩, hrest⟩
          intro e he
          rcases List.mem_cons.mp he with rfl | he
          · exact ⟨rejection, hresult⟩
          · apply hl e he
      | ok window =>
          obtain ⟨time, -, h⟩ := Except.bind_eq_ok_iff.mp h
          obtain rfl := Except.ok.inj h
          exact ⟨⟨[], ends, rfl, nofun⟩, hresult, rfl, rfl⟩

/-- When no window qualifies, all of them are rejected. -/
theorem firstWindow_eq_error {restored ends : List Int} {rejected : List (Int × Rejection)}
    (h : firstWindow F64 evidence timing deactivation restored rejected ends =
      .error noQualifyingWindow) :
  ∀ e ∈ ends, ∃ rejection,
    examineWindow F64 evidence timing restored e = .ok (.error rejection)
  := by
  induction ends generalizing rejected with
  | nil => exact nofun
  | cons stop ends ih =>
      unfold firstWindow at h
      have havoids := @avoids_examineWindow F64 _ evidence timing restored stop
      cases hresult : examineWindow F64 evidence timing restored stop with
      | error e =>
          rw [hresult] at h havoids
          exact absurd h (fun heq => havoids (by injection heq with heq; rw [heq]))
      | ok result =>
          rw [hresult, Except.ok_bind] at h
          cases result with
          | error rejection =>
              intro e he
              rcases List.mem_cons.mp he with rfl | he
              · exact ⟨rejection, hresult⟩
              · apply ih h e he
          | ok window =>
              simp only [seconds] at h
              split at h
              · cases h
              · cases h

variable {actualDeactivationStampNs : PyValue}

/-- The search is done with checked samples, when it ends with a window or without one. -/
theorem prepared_of_search {result : Except MetricError (SensorRecovery F64)}
    (h : sensorRecoveryMetrics F64 actualDeactivationStampNs evidence timing = result)
    (hresult : ∀ e, result = .error e → e = noQualifyingWindow) :
  ∃ deactivation ends, actualDeactivationStampNs = .int deactivation ∧
    Prepared evidence timing deactivation ∧ ends.Pairwise (· < ·) ∧
    (∀ e, e ∈ ends ↔ Candidate evidence (deactivation + timing.windowNs) e) ∧
    firstWindow F64 evidence timing deactivation (restoredScans evidence deactivation)
      [] ends = result
  := by
  have hstage : ∀ {α : Type} {m : Except MetricError α} {f : α →
      Except MetricError (SensorRecovery F64)},
      Avoids m → (m >>= f) = result → ∃ a, m = .ok a ∧ f a = result := by
    intro α m f hm heq
    cases m with
    | error e =>
        have := hresult e heq.symm
        rw [this] at hm
        exact absurd rfl hm
    | ok a => exact ⟨a, rfl, heq⟩
  have hrefused : ∀ {text : String}, text ≠ "no qualifying sensor-recovery window" →
      unavailable text ≠ result := by
    intro text htext heq
    have := hresult _ heq.symm
    injection this with this
    exact htext this
  unfold sensorRecoveryMetrics at h
  obtain ⟨deactivation, hdeactivation, h⟩ := hstage
    (avoids_requireInt (c := 'a') (by decide) (by decide)) h
  split at h
  · have := hresult _ h.symm
    cases this
  rename_i hparameters
  split at h
  · exact absurd h (hrefused (by simp))
  split at h
  · exact absurd h (hrefused (by simp))
  obtain ⟨⟨⟩, hlifecycle, h⟩ := hstage
    (avoids_orderedFrom (c := 'l') (by decide) (by decide)) h
  obtain ⟨⟨⟩, hfeedback, h⟩ := hstage (avoids_orderedFrom (c := 'f') (by decide) (by decide)) h
  obtain ⟨⟨⟩, hwaypoints, h⟩ := hstage avoids_checkWaypoints h
  obtain ⟨scanStamps, hscanStamps, h⟩ := hstage
    (avoids_strictStamps (c := 'v') (by decide) (by decide)) h
  obtain ⟨rfl, hstamped, hscans, -⟩ := strictStamps_eq_ok hscanStamps
  simp only at h
  split at h
  · exact absurd h (hrefused (by simp))
  obtain ⟨ends, hends, h⟩ := hstage avoids_candidateEnds h
  obtain ⟨hsorted, hmem⟩ := candidateEnds_eq_ok hends
  obtain ⟨hlifecycleStamped, hlifecycleOrdered, -⟩ := orderedFrom_eq_ok hlifecycle
  obtain ⟨hfeedbackStamped, -, -⟩ := orderedFrom_eq_ok hfeedback
  refine ⟨deactivation, ends, requireInt_eq_ok_iff.mp hdeactivation, ?_, hsorted, hmem, h⟩
  exact ⟨by omega, by omega, hlifecycleStamped, hlifecycleOrdered, hfeedbackStamped,
    (checkWaypoints_eq_ok hwaypoints).1, hstamped, hscans.filter _⟩

/-- The four checks of a window. -/
theorem accepts_iff (h : Prepared evidence timing deactivation) {e : Int} :
  Accepts F64 evidence timing deactivation e ↔
    ScansWithin (restoredScans evidence deactivation)
      (e - timing.windowNs) e timing.maximumScanGapNs ∧
    (∀ node ∈ evidence.requiredLifecycleNodes,
      NodeActive (samplesOf evidence.lifecycleSamples node) (e - timing.windowNs) e
        timing.lifecycleMarginNs) ∧
    NoCollision evidence.collisionEvents (e - timing.windowNs) e ∧
    ∃ progress : Progress F64, progressWindow evidence.groundTruth evidence.feedback
      evidence.missionTerminal (e - timing.windowNs) e = .ok (.ok progress)
  := by
  have hwindow := h.window
  rw [← scanWindow_ok_iff h.restored (by omega : e - timing.windowNs ≤ e),
    ← @nodesWindow_ok_iff _ _ _ _ h.lifecycleStamped h.lifecycleOrdered,
    ← collisionWithin_ok_false_iff]
  unfold Accepts examineWindow lifecycleWindow
  constructor
  · rintro ⟨window, hwindow⟩
    simp only at hwindow
    split at hwindow
    · cases hwindow
    rename_i scanEvidence hscans
    obtain ⟨lifecycle, hlifecycle, hwindow⟩ := Except.bind_eq_ok_iff.mp hwindow
    cases lifecycle with
    | error rejection => cases hwindow
    | ok lifecycleEvidence =>
        obtain ⟨collision, hcollision, hwindow⟩ := Except.bind_eq_ok_iff.mp hwindow
        cases collision with
        | true => cases hwindow
        | false =>
            simp only [Bool.false_eq_true, if_false] at hwindow
            obtain ⟨progress, hprogress, hwindow⟩ := Except.bind_eq_ok_iff.mp hwindow
            cases progress with
            | error rejection => cases hwindow
            | ok progress =>
                exact ⟨⟨scanEvidence, hscans⟩, ⟨lifecycleEvidence, hlifecycle⟩, hcollision,
                  progress, hprogress⟩
  · rintro ⟨⟨scanEvidence, hscans⟩, ⟨lifecycleEvidence, hlifecycle⟩, hcollision,
      progress, hprogress⟩
    simp only [hscans, hlifecycle, hcollision, hprogress, Except.ok_bind,
      Bool.false_eq_true, if_false]
    exact ⟨_, rfl⟩

/-- The metric returns the least candidate that is accepted. -/
theorem recovered_isLeast {recovery : SensorRecovery F64}
    (h : sensorRecoveryMetrics F64 actualDeactivationStampNs evidence timing = .ok recovery) :
  ∃ deactivation, actualDeactivationStampNs = .int deactivation ∧
    Prepared evidence timing deactivation ∧
    IsLeast {e | Candidate evidence (deactivation + timing.windowNs) e ∧
      Accepts F64 evidence timing deactivation e} recovery.recoveredStampNs ∧
    recovery.windowEndStampNs = recovery.recoveredStampNs ∧
    recovery.windowStartStampNs = recovery.recoveredStampNs - timing.windowNs
  := by
  obtain ⟨deactivation, ends, hdeactivation, hprepared, hsorted, hmem, hfirst⟩ :=
    prepared_of_search h nofun
  obtain ⟨⟨l, l', hsplit, hl⟩, hexamine, hwindow⟩ := firstWindow_eq_ok hfirst
  refine ⟨deactivation, hdeactivation, hprepared, ⟨⟨?_, ⟨_, hexamine⟩⟩, ?_⟩, hwindow⟩
  · rw [← hmem, hsplit]
    simp
  · rintro e ⟨hcandidate, window, haccepted⟩
    rw [← hmem, hsplit] at hcandidate
    rw [hsplit] at hsorted
    rcases List.mem_append.mp hcandidate with he | he
    · obtain ⟨rejection, hrejected⟩ := hl e he
      cases hrejected.symm.trans haccepted
    · rcases List.mem_cons.mp he with rfl | he
      · apply le_refl
      · exact le_of_lt ((List.pairwise_cons.mp (List.pairwise_append.mp hsorted).2.1).1 e he)

/-- When the metric says that no window qualifies, no candidate is accepted. -/
theorem not_accepts_of_none
    (h : sensorRecoveryMetrics F64 actualDeactivationStampNs evidence timing =
      .error noQualifyingWindow) :
  ∃ deactivation, actualDeactivationStampNs = .int deactivation ∧
    Prepared evidence timing deactivation ∧
    ∀ e, Candidate evidence (deactivation + timing.windowNs) e →
      ¬ Accepts F64 evidence timing deactivation e
  := by
  obtain ⟨deactivation, ends, hdeactivation, hprepared, -, hmem, hfirst⟩ :=
    prepared_of_search h (fun e he => by injection he with he; exact he.symm)
  refine ⟨deactivation, hdeactivation, hprepared, ?_⟩
  rintro e hcandidate ⟨window, haccepted⟩
  obtain ⟨rejection, hrejected⟩ := firstWindow_eq_error hfirst e ((hmem e).mpr hcandidate)
  cases hrejected.symm.trans haccepted

end Metrics

end RobotestLab
