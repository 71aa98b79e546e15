import RobotestLab.Faults.Intervals
import RobotestLab.Library.Occurrence

/-!
# The evidence of a fault

The evidence of a fault is the list of its events since the schedule was armed. It is read off
the flags of the fault (`RuntimeFault.evidence`): a message moves the flags and makes events, and
the evidence grows by exactly these events (`RuntimeFault.Coherent.evidence_observe`). Among the
events of a message, those that name a fault are the ones this fault makes
(`eventType_emissions`).
-/

namespace RobotestLab

open FaultProtocol

/-! ### Flags of one fault -/

/-- The fault changes messages of its stream. -/
def CanonicalFault.changing (fault : CanonicalFault) : Bool :=
  fault.specification.mode == FaultSpec.MODE_LIDAR_DROPOUT ||
    fault.specification.mode == FaultSpec.MODE_ODOM_DRIFT

/-- A fault that changes messages has a mode for its stream. -/
theorem CanonicalFault.Wf.affects {fault : CanonicalFault} (h : fault.Wf) {τ : Target}
    (htarget : fault.specification.target = τ.wire) :
  τ.affects fault.specification.mode = fault.changing
  := by
  have hmode := h.targetMode
  rw [htarget] at hmode
  unfold changing
  generalize fault.specification.mode = mode at hmode
  unfold validTargetMode at hmode
  split_ifs at hmode with hpass hscan hodom
  · subst hpass
    cases τ <;> rfl
  · subst hscan
    cases τ <;> first | rfl | cases hmode
  · subst hodom
    cases τ <;> first | rfl | cases hmode

namespace RuntimeFault

/-- The fault has changed a message. -/
def affected (fault : RuntimeFault) : Bool := 0 < fault.affectedMessageCount

/-- The types of the events that the flags of the fault stand for. -/
def evidence (fault : RuntimeFault) : List UInt8 :=
  (if fault.activated then [FaultEvent.EVENT_ACTIVATED] else []) ++
    (if fault.affected then [FaultEvent.EVENT_FIRST_AFFECTED] else []) ++
    (if fault.deactivated then [FaultEvent.EVENT_DEACTIVATED] else []) ++
    (if fault.firstRestored then [FaultEvent.EVENT_FIRST_RESTORED] else [])

/-- The types of the events that a message of the stream `τ` with the stamp `t` makes for the
fault. -/
def eventTypes (τ : Target) (t0 t : Int) (modified : Bool) (fault : RuntimeFault) : List UInt8 :=
  if fault.target ≠ τ.wire then []
  else
    (if fault.closes t0 t then [FaultEvent.EVENT_DEACTIVATED]
      else if fault.active t0 t && !fault.activated then [FaultEvent.EVENT_ACTIVATED] else []) ++
    (if modified then
      (if fault.modifies τ t0 t && fault.affectedMessageCount == 0 then
        [FaultEvent.EVENT_FIRST_AFFECTED] else [])
      else if (fault.visit t0 t).restorable then [FaultEvent.EVENT_FIRST_RESTORED] else [])

/-- The flags of a fault agree with each other. -/
structure Coherent (fault : RuntimeFault) : Prop where
  affected : fault.affected = (fault.activated && fault.canonical.changing)
  pending : fault.restorationPending
    = (fault.deactivated && fault.affected && !fault.firstRestored)
  restored : fault.firstRestored = true → fault.deactivated = true ∧ fault.affected = true

theorem evidence_sublist (fault : RuntimeFault) :
  fault.evidence.Sublist [FaultEvent.EVENT_ACTIVATED, FaultEvent.EVENT_FIRST_AFFECTED,
    FaultEvent.EVENT_DEACTIVATED, FaultEvent.EVENT_FIRST_RESTORED]
  := by
  unfold evidence
  cases fault.activated <;> cases fault.affected <;> cases fault.deactivated <;>
    cases fault.firstRestored <;> decide

section Observe

variable {τ : Target} {t0 t : Int} {modified : Bool} {fault : RuntimeFault}

/-- The fault is restored by the message. -/
def restores (t0 t : Int) (modified : Bool) (fault : RuntimeFault) : Bool :=
  !modified && (fault.visit t0 t).restorable

theorem observe_activated (htarget : fault.target = τ.wire) :
  (fault.observe τ t0 t modified).activated = (fault.activated || fault.active t0 t)
  := by
  have hvisit : (fault.visit t0 t).activated = (fault.activated || fault.active t0 t) := by
    unfold visit
    split_ifs with hcloses hactive
    · rw [not_active_of_closes hcloses, Bool.or_false]
    · rw [hactive, Bool.or_true]
    · rw [eq_false_of_ne_true hactive, Bool.or_false]
  unfold observe
  rw [if_neg (not_not.mpr htarget)]
  split_ifs
  · exact hvisit
  · exact hvisit
  · unfold restore
    split_ifs <;> exact hvisit

theorem observe_firstRestored (htarget : fault.target = τ.wire)
    (hmodified : fault.modifies τ t0 t = true → modified = true) :
  (fault.observe τ t0 t modified).firstRestored
    = (fault.firstRestored || fault.restores t0 t modified)
  := by
  have hvisit : (fault.visit t0 t).firstRestored = fault.firstRestored := by
    unfold visit
    split_ifs <;> rfl
  unfold observe restores
  rw [if_neg (not_not.mpr htarget)]
  split_ifs with hmodifies hchanged
  · rw [hmodified hmodifies, Bool.not_true, Bool.false_and, Bool.or_false]
    exact hvisit
  · rw [hchanged, Bool.not_true, Bool.false_and, Bool.or_false]
    exact hvisit
  · rw [eq_false_of_ne_true hchanged, Bool.not_false, Bool.true_and]
    unfold restore
    split_ifs with hrestorable
    · rw [hrestorable, Bool.or_true]
    · rw [eq_false_of_ne_true hrestorable, Bool.or_false]
      exact hvisit

theorem observe_affected
    (hroom : fault.affectedMessageCount.toNat < 18446744073709551615) :
  (fault.observe τ t0 t modified).affected = (fault.affected || fault.modifies τ t0 t)
  := by
  unfold affected
  rw [observe_affectedMessageCount]
  split_ifs with hmodifies
  · rw [hmodifies, Bool.or_true, decide_eq_true_eq, UInt64.lt_iff_toNat_lt, toNat_add_one hroom]
    apply Nat.succ_pos
  · rw [eq_false_of_ne_true hmodifies, Bool.or_false]

/-- A fault that has changed a message is no pass-through fault. -/
theorem Coherent.mode (h : fault.Coherent) (haffected : fault.affected = true) :
  (fault.mode != FaultSpec.MODE_PASS_THROUGH) = true
  := by
  rw [h.affected, Bool.and_eq_true, CanonicalFault.changing, Bool.or_eq_true, beq_iff_eq,
    beq_iff_eq] at haffected
  unfold RuntimeFault.mode
  rcases haffected.2 with hmode | hmode <;> rw [hmode] <;> rfl

/-- A fault whose interval is not yet over is not restored. -/
theorem Coherent.firstRestored_of_open (h : fault.Coherent) (hopen : fault.deactivated = false) :
  fault.firstRestored = false
  := by
  apply eq_false_of_ne_true
  intro hrestored
  rw [(h.restored hrestored).1] at hopen
  cases hopen

theorem open_of_closes (h : fault.closes t0 t = true) :
  fault.deactivated = false
  := by
  simp only [closes, Bool.and_eq_true, Bool.not_eq_true'] at h
  exact h.1

theorem open_of_active (h : fault.active t0 t = true) :
  fault.deactivated = false
  := by
  simp only [active, Bool.and_eq_true, Bool.not_eq_true'] at h
  exact h.1

theorem Coherent.visit_restorationPending (h : fault.Coherent) (t0 t : Int) :
  (fault.visit t0 t).restorationPending
    = ((fault.deactivated || fault.closes t0 t) && fault.affected && !fault.firstRestored)
  := by
  unfold visit
  split_ifs with hcloses hactive
  · have hdeactivated := open_of_closes hcloses
    change (fault.affected && fault.mode != FaultSpec.MODE_PASS_THROUGH) = _
    rw [hcloses, h.firstRestored_of_open hdeactivated, Bool.or_true, Bool.true_and, Bool.not_false,
      Bool.and_true]
    cases haffected : fault.affected with
    | false => rfl
    | true => rw [h.mode haffected, Bool.true_and]
  · rw [eq_false_of_ne_true hcloses, Bool.or_false]
    exact h.pending
  · rw [eq_false_of_ne_true hcloses, Bool.or_false]
    exact h.pending

theorem Coherent.restores_eq (h : fault.Coherent) (t0 t : Int) (modified : Bool) :
  fault.restores t0 t modified
    = (!modified && ((fault.deactivated || fault.closes t0 t) && fault.affected
        && !fault.firstRestored))
  := by
  have hvisit : (fault.visit t0 t).firstRestored = fault.firstRestored := by
    unfold visit
    split_ifs <;> rfl
  rw [restores, restorable, h.visit_restorationPending, hvisit, Bool.and_assoc _ (!_) (!_),
    Bool.and_self]

/-- What the fault waits for after a message. -/
theorem Coherent.observe_restorationPending (h : fault.Coherent) (htarget : fault.target = τ.wire)
    (hmodified : fault.modifies τ t0 t = true → modified = true) :
  (fault.observe τ t0 t modified).restorationPending
    = ((fault.deactivated || fault.closes t0 t) && fault.affected && !fault.firstRestored
        && !fault.restores t0 t modified)
  := by
  have hpending := h.visit_restorationPending t0 t
  unfold observe restores
  rw [if_neg (not_not.mpr htarget)]
  split_ifs with hmodifies hchanged
  · rw [hmodified hmodifies, Bool.not_true, Bool.false_and, Bool.not_false, Bool.and_true]
    exact hpending
  · rw [hchanged, Bool.not_true, Bool.false_and, Bool.not_false, Bool.and_true]
    exact hpending
  · rw [eq_false_of_ne_true hchanged, Bool.not_false, Bool.true_and]
    unfold restore
    split_ifs with hrestorable
    · rw [hrestorable, Bool.not_true, Bool.and_false]
    · rw [eq_false_of_ne_true hrestorable, Bool.not_false, Bool.and_true]
      exact hpending

theorem closes_or_deactivated :
  (fault.deactivated || fault.closes t0 t)
    = (fault.deactivated || decide (fault.canonical.deactivationNs t0 ≤ t))
  := by
  unfold closes
  cases fault.deactivated <;> rfl

/-- A fault that changes a message is active, and its interval is open. -/
theorem open_of_modifies (h : fault.modifies τ t0 t = true) :
  fault.active t0 t = true ∧ fault.deactivated = false ∧ fault.closes t0 t = false
  := by
  simp only [modifies, Bool.and_eq_true] at h
  obtain ⟨⟨-, hactive⟩, -⟩ := h
  refine ⟨hactive, open_of_active hactive, ?_⟩
  · apply eq_false_of_ne_true
    intro hcloses
    rw [not_active_of_closes hcloses] at hactive
    cases hactive

/-- The message makes the flags agree again. -/
theorem Coherent.observe (h : fault.Coherent) (htarget : fault.target = τ.wire)
    (hchanging : τ.affects fault.mode = fault.canonical.changing)
    (hroom : fault.affectedMessageCount.toNat < 18446744073709551615)
    (hmodified : fault.modifies τ t0 t = true → modified = true) :
  (fault.observe τ t0 t modified).Coherent
  := by
  have hmodifies : fault.modifies τ t0 t = (fault.active t0 t && fault.canonical.changing) := by
    rw [modifies, htarget, beq_self_eq_true, Bool.true_and, hchanging]
  constructor
  · rw [observe_affected hroom, observe_activated htarget, RuntimeFault.observe_canonical,
      h.affected, hmodifies, Bool.and_or_distrib_right]
  · rw [h.observe_restorationPending htarget hmodified, observe_deactivated htarget,
      observe_affected hroom, observe_firstRestored htarget hmodified, ← closes_or_deactivated]
    cases hchanged : fault.modifies τ t0 t with
    | true =>
        obtain ⟨-, hdeactivated, hcloses⟩ := open_of_modifies hchanged
        rw [hdeactivated, hcloses]
        rfl
    | false => rw [Bool.or_false, Bool.not_or, Bool.and_assoc]
  · intro hrestored
    rw [observe_firstRestored htarget hmodified, Bool.or_eq_true] at hrestored
    rw [observe_deactivated htarget, observe_affected hroom, ← closes_or_deactivated]
    rcases hrestored with hrestored | hrestores
    · obtain ⟨hdeactivated, haffected⟩ := h.restored hrestored
      rw [hdeactivated, haffected]
      exact ⟨rfl, rfl⟩
    · rw [h.restores_eq] at hrestores
      simp only [Bool.and_eq_true] at hrestores
      obtain ⟨-, ⟨hclosed, haffected⟩, -⟩ := hrestores
      rw [hclosed, haffected]
      exact ⟨rfl, rfl⟩

/-- The events of a message, one list for each type. -/
theorem eventTypes_eq (htarget : fault.target = τ.wire)
    (hmodified : fault.modifies τ t0 t = true → modified = true) :
  fault.eventTypes τ t0 t modified
    = (if fault.closes t0 t then [FaultEvent.EVENT_DEACTIVATED] else []) ++
      (if fault.active t0 t && !fault.activated then [FaultEvent.EVENT_ACTIVATED] else []) ++
      (if fault.modifies τ t0 t && !fault.affected then [FaultEvent.EVENT_FIRST_AFFECTED]
        else []) ++
      (if fault.restores t0 t modified then [FaultEvent.EVENT_FIRST_RESTORED] else [])
  := by
  have hcount : (fault.affectedMessageCount == 0) = !fault.affected := by
    rw [affected, Bool.eq_iff_iff, beq_iff_eq, Bool.not_eq_true', decide_eq_false_iff_not,
      UInt64.not_lt, UInt64.le_zero_iff]
  have hvisit : (if fault.closes t0 t then [FaultEvent.EVENT_DEACTIVATED]
      else if fault.active t0 t && !fault.activated then [FaultEvent.EVENT_ACTIVATED] else [])
      = (if fault.closes t0 t then [FaultEvent.EVENT_DEACTIVATED] else []) ++
        (if fault.active t0 t && !fault.activated then [FaultEvent.EVENT_ACTIVATED] else []) := by
    split_ifs with hcloses hactive
    · simp [not_active_of_closes hcloses] at hactive
    · rfl
    · rfl
    · rfl
  have hlast : (if modified then
      (if fault.modifies τ t0 t && fault.affectedMessageCount == 0 then
        [FaultEvent.EVENT_FIRST_AFFECTED] else [])
      else if (fault.visit t0 t).restorable then [FaultEvent.EVENT_FIRST_RESTORED] else [])
      = (if fault.modifies τ t0 t && !fault.affected then [FaultEvent.EVENT_FIRST_AFFECTED]
          else []) ++
        (if fault.restores t0 t modified then [FaultEvent.EVENT_FIRST_RESTORED] else []) := by
    rw [hcount, restores]
    cases modified with
    | true => simp
    | false =>
        rw [eq_false_of_ne_true (fun hchanged => Bool.false_ne_true (hmodified hchanged))]
        simp
  rw [eventTypes, if_neg (not_not.mpr htarget), hvisit, hlast, List.append_assoc,
    List.append_assoc, List.append_assoc]

/-- Which events a message makes. -/
theorem mem_eventTypes (htarget : fault.target = τ.wire)
    (hmodified : fault.modifies τ t0 t = true → modified = true) :
  (FaultEvent.EVENT_ACTIVATED ∈ fault.eventTypes τ t0 t modified ↔
      (fault.active t0 t && !fault.activated) = true) ∧
    (FaultEvent.EVENT_FIRST_AFFECTED ∈ fault.eventTypes τ t0 t modified ↔
      (fault.modifies τ t0 t && !fault.affected) = true) ∧
    (FaultEvent.EVENT_DEACTIVATED ∈ fault.eventTypes τ t0 t modified ↔
      fault.closes t0 t = true) ∧
    (FaultEvent.EVENT_FIRST_RESTORED ∈ fault.eventTypes τ t0 t modified ↔
      fault.restores t0 t modified = true)
  := by
  rw [eventTypes_eq htarget hmodified]
  generalize fault.closes t0 t = closes
  generalize (fault.active t0 t && !fault.activated) = activates
  generalize (fault.modifies τ t0 t && !fault.affected) = affects
  generalize fault.restores t0 t modified = restores
  revert closes activates affects restores
  decide

/-- The message adds its events to the evidence. -/
theorem Coherent.evidence_observe (h : fault.Coherent) (htarget : fault.target = τ.wire)
    (hchanging : τ.affects fault.mode = fault.canonical.changing)
    (hroom : fault.affectedMessageCount.toNat < 18446744073709551615)
    (hmodified : fault.modifies τ t0 t = true → modified = true) :
  (fault.observe τ t0 t modified).evidence
    = fault.evidence ++ fault.eventTypes τ t0 t modified
  := by
  have hmodifies : fault.modifies τ t0 t = (fault.active t0 t && fault.canonical.changing) := by
    rw [modifies, htarget, beq_self_eq_true, Bool.true_and, hchanging]
  have hrestores := h.restores_eq t0 t modified
  rw [eventTypes_eq htarget hmodified, evidence, evidence,
    observe_activated htarget, observe_affected hroom, observe_deactivated htarget,
    observe_firstRestored htarget hmodified, ← closes_or_deactivated]
  cases hcloses : fault.closes t0 t with
  | true =>
      -- the interval closes: nothing is active, and the fault may be restored at once
      have hdeactivated := open_of_closes hcloses
      rw [hmodifies, not_active_of_closes hcloses, hdeactivated,
        h.firstRestored_of_open hdeactivated]
      simp
  | false =>
      cases hactive : fault.active t0 t with
      | true =>
          have hdeactivated := open_of_active hactive
          rw [hrestores, hmodifies, hactive, hcloses, hdeactivated,
            h.firstRestored_of_open hdeactivated, h.affected]
          cases fault.activated <;> simp
      | false =>
          rw [hmodifies, hactive]
          cases hrestored : fault.firstRestored with
          | true =>
              rw [hrestores, hrestored]
              simp
          | false => simp

end Observe

end RuntimeFault

/-! ### Events of a message -/

/-- The event names the fault. -/
def FaultEvent.names (event : FaultEvent) (fault : CanonicalFault) : Bool :=
  event.faultId == fault.specification.faultId

namespace FaultProtocol

variable {p : FaultProtocol} {τ : Target} {t : Int}

/-- The emissions of the fault with the given id. -/
def emissionsOf (faultId : String) (es : List Emission) : List Emission :=
  es.filter fun e => e.fault.canonical.specification.faultId == faultId

/-- The event types of one fault among the emissions. -/
theorem eventType_numbered (stamp : Time) (n : Nat) (es : List Emission) (fault : CanonicalFault) :
  ((p.numbered stamp n es).filter (·.names fault)).map FaultEvent.eventType
    = (emissionsOf fault.specification.faultId es).map Emission.eventType
  := by
  induction es generalizing n with
  | nil => rfl
  | cons e es ih =>
      have hnames : (p.dataEvent stamp (UInt64.ofNat (n + 1)) e).names fault
          = (e.fault.canonical.specification.faultId == fault.specification.faultId) := rfl
      rw [numbered, emissionsOf, List.filter_cons, List.filter_cons, hnames]
      split_ifs
      · rw [List.map_cons, List.map_cons, ih]
        rfl
      · apply ih

section EmissionsOf

variable {fault : RuntimeFault} {g : RuntimeFault → List Emission}

theorem emissionsOf_flatMap (hids : (p.runtimeFaults.map
      (fun fault => fault.canonical.specification.faultId)).Nodup)
    (hg : ∀ other, ∀ e ∈ g other, e.fault.canonical = other.canonical)
    (hmem : fault ∈ p.runtimeFaults) (htarget : fault.target = τ.wire) :
  emissionsOf fault.canonical.specification.faultId ((ofTarget τ.wire p.runtimeFaults).flatMap g)
    = g fault
  := by
  apply List.filter_flatMap_eq_of_nodup
    (f := fun fault : RuntimeFault => fault.canonical.specification.faultId)
  · apply List.Nodup.sublist _ hids
    apply List.Sublist.map
    apply List.filter_sublist
  · intro other _ e he
    rw [hg other e he]
  · rw [ofTarget, List.mem_filter, beq_iff_eq]
    exact ⟨hmem, htarget⟩

theorem emissionsOf_flatMap_of_ne (hids : (p.runtimeFaults.map
      (fun fault => fault.canonical.specification.faultId)).Nodup)
    (hg : ∀ other, ∀ e ∈ g other, e.fault.canonical = other.canonical)
    (hmem : fault ∈ p.runtimeFaults) (htarget : fault.target ≠ τ.wire) :
  emissionsOf fault.canonical.specification.faultId ((ofTarget τ.wire p.runtimeFaults).flatMap g)
    = []
  := by
  apply List.filter_flatMap_eq_nil
    (f := fun fault : RuntimeFault => fault.canonical.specification.faultId)
  · intro other _ e he
    rw [hg other e he]
  · intro other hother hid
    obtain ⟨hother, hτ⟩ := List.mem_filter.mp hother
    obtain rfl := List.inj_on_of_nodup_map hids hother hmem hid
    exact htarget (beq_iff_eq.mp hτ)

end EmissionsOf

/-- The events of a message that name a fault are those the fault makes. -/
theorem eventType_emissions (hids : (p.runtimeFaults.map
      (fun fault => fault.canonical.specification.faultId)).Nodup)
    {fault : RuntimeFault} (hmem : fault ∈ p.runtimeFaults) :
  (emissionsOf fault.canonical.specification.faultId (p.emissions τ t)).map Emission.eventType
    = fault.eventTypes τ p.t0Ns t (p.modified τ t)
  := by
  have happend : ∀ es es', emissionsOf fault.canonical.specification.faultId (es ++ es')
      = emissionsOf fault.canonical.specification.faultId es ++
        emissionsOf fault.canonical.specification.faultId es' :=
    fun _ _ => List.filter_append ..
  have hvisit : ∀ other : RuntimeFault, ∀ e ∈ other.visitEmissions p.t0Ns t (p.begun τ t),
      e.fault.canonical = other.canonical := fun _ _ => canonical_of_mem_visitEmissions
  have haffect : ∀ other : RuntimeFault, ∀ e ∈ other.affectEmissions τ p.t0Ns t (p.passed τ t),
      e.fault.canonical = other.canonical := fun _ _ => canonical_of_mem_affectEmissions
  have hrestore : ∀ other : RuntimeFault,
      ∀ e ∈ (other.visit p.t0Ns t).restoreEmissions (p.passed τ t),
        e.fault.canonical = other.canonical := by
    intro other e he
    rw [canonical_of_mem_restoreEmissions he, RuntimeFault.visit_canonical]
  have hvisitTypes : (fault.visitEmissions p.t0Ns t (p.begun τ t)).map Emission.eventType
      = if fault.closes p.t0Ns t then [FaultEvent.EVENT_DEACTIVATED]
        else if fault.active p.t0Ns t && !fault.activated then [FaultEvent.EVENT_ACTIVATED]
        else [] := by
    unfold RuntimeFault.visitEmissions
    split_ifs <;> rfl
  unfold RuntimeFault.eventTypes
  by_cases htarget : fault.target = τ.wire
  · rw [if_neg (not_not.mpr htarget), ← hvisitTypes]
    cases hmodified : p.modified τ t with
    | true =>
        rw [emissions_of_modified hmodified, happend, entries,
          emissionsOf_flatMap hids hvisit hmem htarget,
          emissionsOf_flatMap hids haffect hmem htarget, List.map_append, if_pos rfl]
        unfold RuntimeFault.affectEmissions
        split_ifs <;> rfl
    | false =>
        rw [emissions_of_not_modified hmodified, happend, entries,
          emissionsOf_flatMap hids hvisit hmem htarget,
          emissionsOf_flatMap hids hrestore hmem htarget, List.map_append,
          if_neg Bool.false_ne_true]
        unfold RuntimeFault.restoreEmissions
        split_ifs <;> rfl
  · rw [if_pos htarget]
    cases hmodified : p.modified τ t with
    | true =>
        rw [emissions_of_modified hmodified, happend, entries,
          emissionsOf_flatMap_of_ne hids hvisit hmem htarget,
          emissionsOf_flatMap_of_ne hids haffect hmem htarget]
        rfl
    | false =>
        rw [emissions_of_not_modified hmodified, happend, entries,
          emissionsOf_flatMap_of_ne hids hvisit hmem htarget,
          emissionsOf_flatMap_of_ne hids hrestore hmem htarget]
        rfl

end FaultProtocol

end RobotestLab
