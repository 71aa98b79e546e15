import RobotestLab.Library.Related
import RobotestLab.Metrics.Geometry
import Mathlib.Algebra.Order.Archimedean.Real.Basic

/-!
# Safety of the final commands

The two gates on the final commands. When the scans drop out, the command has to be zero in time and
stay zero until the scans are back; when the collision monitor says STOP, the command has to be zero
as long as it does. The gates look at the commands one by one; what they establish holds at every
instant of the function of time that the commands are (`held`).
-/

namespace RobotestLab

namespace Metrics

open PyFloat PyArithmetic

def STOP_ACTION : Int := 1
def LINEAR_ZERO_TOLERANCE_M_S : ℚ := 2 / 100
def ANGULAR_ZERO_TOLERANCE_RAD_S : ℚ := 5 / 100
def MINIMUM_STOP_ZERO_NS : Int := 200000000
def LIDAR_SOURCE_TIMEOUT_NS : Int := 600000000
def LIDAR_ZERO_DEADLINE_NS : Int := 1000000000

/-! ### Commands -/

def ordered (samples : List Evidence) (name : String) : Except MetricError (List Evidence) := do
  orderedFrom name " is not in deterministic collector order" none 0 samples
  .ok samples

/-- The component is within the tolerance. -/
def isWithin (F64 : Type) [PyArithmetic F64] (command : Evidence) (name : String) (tolerance : ℚ) :
    Except MetricError Bool := do
  let value : F64 ← requireFinite (PyValue.item name command) ("command." ++ name)
  .ok (le (abs value) (literal tolerance))

def isZero (F64 : Type) [PyArithmetic F64] (command : Evidence) : Except MetricError Bool := do
  if !(← isWithin F64 command "linear_x_m_s" LINEAR_ZERO_TOLERANCE_M_S) then
    .ok false
  else if !(← isWithin F64 command "linear_y_m_s" LINEAR_ZERO_TOLERANCE_M_S) then
    .ok false
  else isWithin F64 command "angular_z_rad_s" ANGULAR_ZERO_TOLERANCE_RAD_S

/-- The last command before the first one that is stamped later, given the one held so far. -/
def heldFrom (stampNs : Int) (last : Option Evidence) :
    List Evidence → Except MetricError (Option Evidence)
  | [] => .ok last
  | command :: commands => do
      let stamp ← requireInt (stampItem command) "command.stamp_ns"
      if stampNs < stamp then .ok last else heldFrom stampNs (some command) commands

def heldCommand (commands : List Evidence) (stampNs : Int) : Except MetricError (Option Evidence) :=
  heldFrom stampNs none commands

/-- There is a command, and it is zero. -/
def isHeldZero (F64 : Type) [PyArithmetic F64] : Option Evidence → Except MetricError Bool
  | none => .ok false
  | some command => isZero F64 command

variable {F64 : Type} [PyArithmetic F64]

theorem isHeldZero_eq_true {command : Option Evidence} (h : isHeldZero F64 command = .ok true) :
  ∃ c, command = some c ∧ isZero F64 c = .ok true
  := by
  cases command with
  | none => cases h
  | some c => exact ⟨c, rfl, h⟩

theorem ordered_eq_ok {samples samples' : List Evidence} {name : String}
    (h : ordered samples name = .ok samples') :
  samples' = samples ∧ Stamped samples ∧ InStampOrder stampOf samples
  := by
  unfold ordered at h
  obtain ⟨⟨⟩, hordered, h⟩ := Except.bind_eq_ok_iff.mp h
  obtain ⟨hstamped, horder, -⟩ := orderedFrom_eq_ok hordered
  exact ⟨(Except.ok.inj h).symm, hstamped, horder⟩

variable {commands : List Evidence}

open Held in
/-- The command that the code holds is the one that is held. -/
theorem heldFrom_eq {last : Option Evidence} {stampNs : Int}
    (hstamped : Stamped commands) (hordered : InStampOrder stampOf commands) :
  heldFrom stampNs last commands = .ok ((held stampOf commands stampNs).or last)
  := by
  induction commands generalizing last with
  | nil => rfl
  | cons command commands ih =>
      obtain ⟨n, hn⟩ := hstamped command List.mem_cons_self
      have hordered' := (List.pairwise_cons.mp hordered).2
      unfold heldFrom
      rw [requireInt_stampOf hn]
      show (if stampNs < stampOf command then _ else _) = _
      split
      · rename_i hlt
        rw [held_cons_of_lt hordered hlt]
        rfl
      · rename_i hle
        rw [ih (fun s hs => hstamped s (List.mem_cons_of_mem _ hs)) hordered',
          held_cons_of_le (not_lt.mp hle)]
        cases held stampOf commands stampNs with
        | none => rfl
        | some c => rfl

theorem heldCommand_eq {stampNs : Int} (hstamped : Stamped commands)
    (hordered : InStampOrder stampOf commands) :
  heldCommand commands stampNs = .ok (held stampOf commands stampNs)
  := by
  unfold heldCommand
  rw [heldFrom_eq hstamped hordered, Option.or_none]

/-! ### Dropouts of the scans -/

structure LidarDropoutCommandSafety (F64 : Type) where
  collisionMonitorSourceTimeoutS : F64
  lastValidatedBeforeDropoutStampNs : Int
  safeUntilRestoredStampNs : Int
  staleThresholdStampNs : Int
  zeroCommandDeadlineStampNs : Int
  zeroCommandStampNs : Int

/-- The stamp of the first command from the given one on that is zero. -/
def firstZeroStamp (F64 : Type) [PyArithmetic F64] (staleStamp : Int) :
    List Evidence → Except MetricError (Option Int)
  | [] => .ok none
  | command :: commands => do
      let stamp ← requireInt (stampItem command) "command.stamp_ns"
      if staleStamp ≤ stamp then
        if ← isZero F64 command then .ok (some stamp) else firstZeroStamp F64 staleStamp commands
      else firstZeroStamp F64 staleStamp commands

/-- The commands from the zero command to the restoration are zero. -/
def checkHold (F64 : Type) [PyArithmetic F64] (zeroStamp restored : Int) :
    List Evidence → Except MetricError Unit
  | [] => .ok ()
  | command :: commands => do
      let stamp ← requireInt (stampItem command) "command.stamp_ns"
      if zeroStamp ≤ stamp ∧ stamp ≤ restored then
        if !(← isZero F64 command) then
          unavailable "nonzero final command appeared before scan restoration"
        else checkHold F64 zeroStamp restored commands
      else checkHold F64 zeroStamp restored commands

/-- The stamp from which the command is zero. -/
def zeroStamp (F64 : Type) [PyArithmetic F64] (commands : List Evidence) (staleStamp : Int) :
    Except MetricError (Option Int) := do
  let held ← heldCommand commands staleStamp
  if ← isHeldZero F64 held then .ok (some staleStamp) else firstZeroStamp F64 staleStamp commands

def lidarDropoutCommandSafetyMetrics (F64 : Type) [PyArithmetic F64]
    (commands validatedScans : List Evidence)
    (configuredActivationStampNs restoredStampNs collisionMonitorSourceTimeoutS : PyValue) :
    Except MetricError (LidarDropoutCommandSafety F64) := do
  let sourceTimeout : F64 ← requireFinite collisionMonitorSourceTimeoutS
    "collision_monitor_source_timeout_s"
  if !eq sourceTimeout (literal (60 / 100)) then
    unavailable "collision-monitor source_timeout must be exactly 0.60 s"
  else
    let activation ← requireInt configuredActivationStampNs "configured activation"
    let restored ← requireInt restoredStampNs "restored stamp"
    if restored ≤ activation then
      unavailable "restored stamp must follow dropout activation"
    else
      let scanStamps ← validatedScans.mapM fun sample =>
        requireInt (stampItem sample) "validated_scan.stamp_ns"
      match ((scanStamps.mergeSort (· ≤ ·)).filter (· < activation)).getLast? with
      | none => unavailable "validated scan before dropout is missing"
      | some lastStamp =>
          let staleStamp := lastStamp + LIDAR_SOURCE_TIMEOUT_NS
          let commands ← ordered commands "cmd_vel"
          match ← zeroStamp F64 commands staleStamp with
          | none => unavailable "final command did not reach zero within dropout deadline"
          | some zeroStamp =>
              if staleStamp + LIDAR_ZERO_DEADLINE_NS < zeroStamp then
                unavailable "final command did not reach zero within dropout deadline"
              else
                let heldZero ← heldCommand commands zeroStamp
                if !(← isHeldZero F64 heldZero) then
                  unavailable "zero-command hold could not be established"
                else
                  checkHold F64 zeroStamp restored commands
                  .ok {
                    collisionMonitorSourceTimeoutS := sourceTimeout
                    lastValidatedBeforeDropoutStampNs := lastStamp
                    safeUntilRestoredStampNs := restored
                    staleThresholdStampNs := staleStamp
                    zeroCommandDeadlineStampNs := staleStamp + LIDAR_ZERO_DEADLINE_NS
                    zeroCommandStampNs := zeroStamp }

/-- The command that is held at the instant is there, and it is zero. -/
def HeldZero (F64 : Type) [PyArithmetic F64] (commands : List Evidence) (t : Int) : Prop :=
  ∃ command, held stampOf commands t = some command ∧ isZero F64 command = .ok true

theorem isHeldZero_held {t : Int} :
  isHeldZero F64 (held stampOf commands t) = .ok true ↔ HeldZero F64 commands t
  := by
  constructor
  · exact isHeldZero_eq_true
  · rintro ⟨command, hheld, hzero⟩
    rw [hheld]
    apply hzero

theorem checkHold_eq_ok {zeroStamp restored : Int}
    (h : checkHold F64 zeroStamp restored commands = .ok ()) :
  ∀ command ∈ commands, zeroStamp ≤ stampOf command → stampOf command ≤ restored →
    isZero F64 command = .ok true
  := by
  induction commands with
  | nil => exact nofun
  | cons command commands ih =>
      unfold checkHold at h
      obtain ⟨stamp, hstamp, h⟩ := Except.bind_eq_ok_iff.mp h
      obtain ⟨-, hof⟩ := requireInt_stamp hstamp
      intro c hc hge hle
      split at h
      · obtain ⟨zero, hzero, h⟩ := Except.bind_eq_ok_iff.mp h
        cases zero with
        | false => cases h
        | true =>
            rcases List.mem_cons.mp hc with rfl | hc
            · apply hzero
            · apply ih h c hc hge hle
      · rename_i hout
        rcases List.mem_cons.mp hc with rfl | hc
        · rw [← hof] at hout
          exact absurd ⟨hge, hle⟩ hout
        · apply ih h c hc hge hle

/-- The first zero command, and every one before it is stamped earlier or is not zero. -/
theorem firstZeroStamp_eq_some {staleStamp zeroStamp : Int}
    (h : firstZeroStamp F64 staleStamp commands = .ok (some zeroStamp)) :
  staleStamp ≤ zeroStamp ∧ ∃ l command l', commands = l ++ command :: l' ∧
    stampOf command = zeroStamp ∧ ∀ c ∈ l, staleStamp ≤ stampOf c → isZero F64 c = .ok false
  := by
  induction commands with
  | nil => cases h
  | cons command commands ih =>
      unfold firstZeroStamp at h
      obtain ⟨stamp, hstamp, h⟩ := Except.bind_eq_ok_iff.mp h
      obtain ⟨-, hof⟩ := requireInt_stamp hstamp
      split at h
      · rename_i hle
        obtain ⟨zero, hzero, h⟩ := Except.bind_eq_ok_iff.mp h
        cases zero with
        | true =>
            obtain rfl := Option.some.inj (Except.ok.inj h)
            exact ⟨hle, [], command, commands, rfl, hof, nofun⟩
        | false =>
            obtain ⟨hstale, l, c, l', rfl, hc, hl⟩ := ih h
            refine ⟨hstale, command :: l, c, l', rfl, hc, ?_⟩
            intro c' hc' hle'
            rcases List.mem_cons.mp hc' with rfl | hc'
            · apply hzero
            · apply hl c' hc' hle'
      · rename_i hlt
        obtain ⟨hstale, l, c, l', rfl, hc, hl⟩ := ih h
        refine ⟨hstale, command :: l, c, l', rfl, hc, ?_⟩
        intro c' hc' hle'
        rcases List.mem_cons.mp hc' with rfl | hc'
        · rw [hof] at hle'
          exact absurd hle' hlt
        · apply hl c' hc' hle'

open Held in
/-- Before the zero stamp, the command that is held is not zero. -/
theorem zeroStamp_least {staleStamp zeroStamp : Int}
    (hstamped : Stamped commands) (hordered : InStampOrder stampOf commands)
    (h : Metrics.zeroStamp F64 commands staleStamp = .ok (some zeroStamp)) :
  staleStamp ≤ zeroStamp ∧ ∀ t, staleStamp ≤ t → t < zeroStamp → ¬ HeldZero F64 commands t
  := by
  unfold Metrics.zeroStamp at h
  rw [heldCommand_eq hstamped hordered, Except.ok_bind] at h
  obtain ⟨zero, hzero, h⟩ := Except.bind_eq_ok_iff.mp h
  cases zero with
  | true =>
      obtain rfl := Option.some.inj (Except.ok.inj h)
      exact ⟨le_refl _, fun t hle hlt => absurd (lt_of_le_of_lt hle hlt) (lt_irrefl _)⟩
  | false =>
      obtain ⟨hstale, l, command, l', hsplit, hcommand, hl⟩ := firstZeroStamp_eq_some h
      refine ⟨hstale, ?_⟩
      rintro t hle hlt ⟨c, hheld, hc⟩
      -- What is held is the command of the stale instant, or one before the first zero command.
      rcases @held_eq_or _ _ _ stampOf commands _ _ hle with heq | ⟨c', hc', heq, hlt', hle'⟩
      · rw [heq] at hheld
        rw [hheld] at hzero
        cases hzero.symm.trans hc
      · obtain rfl := Option.some.inj (heq.symm.trans hheld)
        have hmem : c' ∈ l := by
          rw [hsplit] at hc' hordered
          have hlater := (List.pairwise_append.mp hordered).2.1
          rcases List.mem_append.mp hc' with hmem | hmem
          · apply hmem
          · rcases List.mem_cons.mp hmem with rfl | hmem
            · omega
            · have := (List.pairwise_cons.mp hlater).1 c' hmem
              omega
        cases (hl c' hmem (le_of_lt hlt')).symm.trans hc

/-- At the instant, on the continuous scale, the command that is held is there and zero. -/
def ZeroAt (F64 : Type) [PyArithmetic F64] (commands : List Evidence) (t : ℝ) : Prop :=
  ∃ command, held (fun c => (stampOf c : ℝ)) commands t = some command ∧
    isZero F64 command = .ok true

theorem zeroAt_iff {t : ℝ} :
  ZeroAt F64 commands t ↔ HeldZero F64 commands ⌊t⌋
  := by
  unfold ZeroAt HeldZero
  rw [Held.held_floor]

theorem zeroAt_intCast {n : Int} :
  ZeroAt F64 commands (n : ℝ) ↔ HeldZero F64 commands n
  := by
  rw [zeroAt_iff, Int.floor_intCast]

/-- The scan stamp is the last one before the activation. -/
def IsLastBefore (validatedScans : List Evidence) (activation last : Int) : Prop :=
  IsGreatest {n | ∃ scan ∈ validatedScans, stampItem scan = .int n ∧ n < activation} last

theorem isLastBefore_getLast {validatedScans : List Evidence} {activation last : Int}
    {scanStamps : List Int}
    (hstamps : (validatedScans.mapM fun sample =>
      requireInt (stampItem sample) "validated_scan.stamp_ns") = .ok scanStamps)
    (hlast : ((scanStamps.mergeSort (· ≤ ·)).filter (· < activation)).getLast? = some last) :
  IsLastBefore validatedScans activation last
  := by
  have hforall := Except.mapM_eq_ok_iff.mp hstamps
  have hsorted : (scanStamps.mergeSort (· ≤ ·)).Pairwise (· ≤ ·) := by
    have := @List.pairwise_mergeSort _ (fun a b : Int => decide (a ≤ b))
      (by simpa using fun a b c => le_trans) (by simpa using le_total) scanStamps
    simpa using this
  constructor
  · have hmem := List.mem_of_getLast? hlast
    simp only [List.mem_filter, List.mem_mergeSort, decide_eq_true_eq] at hmem
    obtain ⟨scan, hscan, hstamp⟩ := hforall.exists_mem hmem.1
    exact ⟨scan, hscan, requireInt_eq_ok_iff.mp hstamp, hmem.2⟩
  · rintro n ⟨scan, hscan, hitem, hn⟩
    obtain ⟨stamp, hmem, hstamp⟩ := hforall.flip.exists_mem hscan
    obtain rfl : stamp = n := by
      have heq := (requireInt_eq_ok_iff.mp hstamp).symm.trans hitem
      injection heq
    obtain ⟨init, hinit⟩ := List.getLast?_eq_some_iff.mp hlast
    have hmem' : stamp ∈ (scanStamps.mergeSort (· ≤ ·)).filter (· < activation) := by
      simp [hmem, hn]
    have hpairwise := hsorted.filter (· < activation)
    rw [hinit] at hmem' hpairwise
    rcases List.mem_append.mp hmem' with hmem' | hmem'
    · apply (List.pairwise_append.mp hpairwise).2.2 stamp hmem' last List.mem_cons_self
    · exact le_of_eq (List.mem_singleton.mp hmem')

/-- What the metric establishes: the command is zero from the zero stamp until the restoration,
which is the first instant after the scans became stale at which it is zero, and not too late. -/
theorem dropout_commands_zero {commands validatedScans : List Evidence}
    {configuredActivationStampNs restoredStampNs timeout : PyValue}
    {metrics : LidarDropoutCommandSafety F64}
    (h : lidarDropoutCommandSafetyMetrics F64 commands validatedScans configuredActivationStampNs
      restoredStampNs timeout = .ok metrics) :
  ∃ activation restored, configuredActivationStampNs = .int activation ∧
    restoredStampNs = .int restored ∧ metrics.safeUntilRestoredStampNs = restored ∧
    IsLastBefore validatedScans activation metrics.lastValidatedBeforeDropoutStampNs ∧
    metrics.staleThresholdStampNs = metrics.lastValidatedBeforeDropoutStampNs + 600000000 ∧
    IsLeast {t : ℝ | metrics.staleThresholdStampNs ≤ t ∧ ZeroAt F64 commands t}
      metrics.zeroCommandStampNs ∧
    metrics.zeroCommandStampNs ≤ metrics.staleThresholdStampNs + 1000000000 ∧
    (∀ t : ℝ, metrics.zeroCommandStampNs ≤ t → t ≤ restored → ZeroAt F64 commands t) ∧
    ∀ t : ℝ, metrics.staleThresholdStampNs + 1000000000 ≤ t → t ≤ restored → ZeroAt F64 commands t
  := by
  unfold lidarDropoutCommandSafetyMetrics at h
  obtain ⟨sourceTimeout, -, h⟩ := Except.bind_eq_ok_iff.mp h
  split at h
  · cases h
  obtain ⟨activation, hactivation, h⟩ := Except.bind_eq_ok_iff.mp h
  obtain ⟨restored, hrestored, h⟩ := Except.bind_eq_ok_iff.mp h
  split at h
  · cases h
  obtain ⟨scanStamps, hscanStamps, h⟩ := Except.bind_eq_ok_iff.mp h
  generalize hlast : ((scanStamps.mergeSort (· ≤ ·)).filter (· < activation)).getLast? = last? at h
  cases last? with
  | none => cases h
  | some lastStamp =>
      obtain ⟨commands', hcommands, h⟩ := Except.bind_eq_ok_iff.mp h
      obtain ⟨heq, hstamped, hordered⟩ := ordered_eq_ok hcommands
      rw [heq] at h
      obtain ⟨zeroStamp?, hzeroStamp, h⟩ := Except.bind_eq_ok_iff.mp h
      cases zeroStamp? with
      | none => cases h
      | some zeroStamp =>
          simp only at h
          split at h
          · cases h
          rename_i hdeadline
          obtain ⟨hstale, hleast⟩ := zeroStamp_least hstamped hordered hzeroStamp
          rw [heldCommand_eq hstamped hordered, Except.ok_bind] at h
          obtain ⟨zero, hzero, h⟩ := Except.bind_eq_ok_iff.mp h
          cases zero with
          | false => cases h
          | true =>
              rw [isHeldZero_held] at hzero
              obtain ⟨⟨⟩, hhold, h⟩ := Except.bind_eq_ok_iff.mp h
              obtain rfl := Except.ok.inj h
              have hbetween : ∀ n, zeroStamp ≤ n → n ≤ restored → HeldZero F64 commands n := by
                intro n hle hn
                exact Held.forall_between hzero (checkHold_eq_ok hhold) hle hn
              have hheld : ∀ t : ℝ, zeroStamp ≤ t → t ≤ restored → ZeroAt F64 commands t := by
                intro t hle ht
                rw [zeroAt_iff]
                apply hbetween
                · apply Int.le_floor.mpr hle
                · rw [← Int.floor_intCast (R := ℝ) restored]
                  apply Int.floor_le_floor ht
              refine ⟨activation, restored, requireInt_eq_ok_iff.mp hactivation,
                requireInt_eq_ok_iff.mp hrestored, rfl,
                isLastBefore_getLast hscanStamps hlast, rfl, ?_,
                not_lt.mp hdeadline, hheld, ?_⟩
              · constructor
                · refine ⟨by exact_mod_cast hstale, zeroAt_intCast.mpr hzero⟩
                · rintro t ⟨hle, ht⟩
                  rw [zeroAt_iff] at ht
                  by_contra hlt
                  apply hleast ⌊t⌋ _ _ ht
                  · apply Int.le_floor.mpr hle
                  · apply Int.floor_lt.mpr (not_le.mp hlt)
              · intro t hle ht
                apply hheld t _ ht
                apply le_trans _ hle
                exact_mod_cast not_lt.mp hdeadline

section Sample

def sampleCommand (stampNs sequence : Int) (x : ℚ) : Evidence :=
  [(.str "stamp_ns", .int stampNs), (.str "collector_sequence", .int sequence),
    (.str "linear_x_m_s", .float (some x)), (.str "linear_y_m_s", .float (some 0)),
    (.str "angular_z_rad_s", .float (some 0))]

/-- The robot drives on until a tenth of a second after the scans became stale. -/
def sampleCommands : List Evidence :=
  [sampleCommand 1000000000 1 (1 / 5), sampleCommand 1700000000 2 0, sampleCommand 1700000000 3 0]

def sampleScan : Evidence := [(.str "stamp_ns", .int 1000000000)]

/-- The commands are zero from 1.7 s on, a tenth of a second after the scans became stale. -/
theorem dropout_commands_zero_sample :
  ∃ metrics : LidarDropoutCommandSafety ℚ, metrics.zeroCommandStampNs = 1700000000 ∧
    IsLeast {t : ℝ | (metrics.staleThresholdStampNs : ℝ) ≤ t ∧ ZeroAt ℚ sampleCommands t}
      (metrics.zeroCommandStampNs : ℝ)
  := by
  have hrun : ((lidarDropoutCommandSafetyMetrics ℚ sampleCommands [sampleScan] (.int 1100000000)
      (.int 3000000000) (.float (some (60 / 100)))).toOption.map (·.zeroCommandStampNs)) =
      some 1700000000 := by
    decide +kernel
  obtain ⟨metrics, hrun, hstamp⟩ := exists_eq_ok hrun
  obtain ⟨activation, restored, -, -, -, -, -, hleast, -⟩ := dropout_commands_zero hrun
  exact ⟨metrics, hstamp, hleast⟩

end Sample

end Metrics

end RobotestLab
