import RobotestLab.Library.Retention
import RobotestLab.Metrics.Collector

/-!
# What the collector retains

A history of calls offers items to the streams. Every stream of the collector agrees with a buffer
to which the same items are offered under one judge: an item without its nested list is invalid, an
item whose nested elements exceed the limit on their total overflows before it is validated, a plan
beyond the limit on plans as well, and any other item overflows after it is validated.
-/

namespace RobotestLab

namespace Metrics

/-- A call of the collector. -/
inductive CollectorCall where
  | record (stream : String) (item : Evidence)
  | recordPlan (item : Evidence)
  | recordStateTransition (kind subject : String) (value stampNs : PyValue)
      (details : Option Evidence)
  | observeClock (stampNs : PyValue)

/-- An item that is offered to a stream, with its place in the sequence. -/
structure Offer where
  stream : String
  item : Evidence
  sequence : Nat

namespace Offer

/-- The item as it is retained. -/
def evidence (offer : Offer) : Evidence :=
  normalized offer.item offer.sequence

/-- The number of the nested elements that count against a limit of their own. -/
def nested (offer : Offer) : Option Nat :=
  if offer.stream = "contacts" then
    match PyValue.item "contacts" offer.item with
    | .list contacts => some contacts.length
    | _ => none
  else if offer.stream = "plans" then
    match PyValue.item "poses" offer.item with
    | .list poses => some poses.length
    | _ => none
  else some 0

/-- The total number of nested elements. -/
def total (kept : List Offer) : Nat :=
  (kept.map fun offer => offer.nested.getD 0).sum

theorem total_concat {kept : List Offer} {offer : Offer} {n : Nat} (h : offer.nested = some n) :
  total (kept ++ [offer]) = total kept + n
  := by
  unfold total
  rw [List.map_append, List.sum_append, List.map_singleton, List.sum_singleton, h, Option.getD_some]

end Offer

/-- The limit on the number of items of a stream. -/
def capacityOf (stream : String) : Nat :=
  if stream = "plans" then planMessageCapacity else (bufferCapacities.lookup stream).getD 0

/-- The limit on the total number of nested elements of a stream. -/
def nestedCapacityOf (stream : String) : Nat :=
  if stream = "contacts" then contactRecordCapacity
  else if stream = "plans" then planPoseCapacity
  else 0

/-- The item fits in the stream beside those that are kept. -/
def Offer.Fits (kept : List Offer) (offer : Offer) : Prop :=
  kept.length < capacityOf offer.stream ∧
    Offer.total kept + offer.nested.getD 0 ≤ nestedCapacityOf offer.stream

section Calls

variable (inspection : Inspection)

/-- The reason why the values of an item are rejected, if they are. -/
def Offer.rejection (offer : Offer) : Option String :=
  if offer.stream = "plans" then CollectorCore.planRejection inspection offer.item
  else CollectorCore.rejection inspection offer.stream offer.item

/-- The item is valid evidence of its stream. -/
def Offer.valid (offer : Offer) : Bool :=
  offer.nested.isSome && (offer.rejection inspection).isNone

/-- What becomes of an item. -/
def Offer.judge (kept : List Offer) (offer : Offer) : Verdict :=
  match offer.nested with
  | none => .invalid
  | some n =>
      if nestedCapacityOf offer.stream < Offer.total kept + n then .overflow
      else if offer.stream = "plans" ∧ capacityOf offer.stream ≤ kept.length then .overflow
      else if (offer.rejection inspection).isSome then .invalid
      else if capacityOf offer.stream ≤ kept.length then .overflow
      else .kept

/-- An item is kept exactly if it is valid and fits. -/
theorem Offer.judge_fair :
  Retained.Fair (Offer.judge inspection) (Offer.valid inspection) Offer.Fits
  := by
  constructor
  · intro kept offer
    unfold Offer.judge Offer.valid Offer.Fits
    cases hn : offer.nested with
    | none => simp
    | some n =>
        cases hr : offer.rejection inspection with
        | none =>
            simp only [Option.getD_some, Option.isSome_some, Option.isNone_none, Bool.and_self,
              Option.isSome_none, Bool.false_eq_true, if_false, true_and]
            constructor
            · intro h
              split at h
              · cases h
              · split at h
                · cases h
                · split at h
                  · cases h
                  · omega
            · rintro ⟨hlength, htotal⟩
              rw [if_neg (by omega), if_neg (by omega), if_neg (by omega)]
        | some reason =>
            simp only [Option.isSome_some, Option.isNone_some, Bool.and_false, Bool.false_eq_true,
              false_and, iff_false, if_true]
            split
            · simp
            · split
              · simp
              · simp
  · intro kept offer h
    unfold Offer.judge at h
    unfold Offer.valid
    cases hn : offer.nested with
    | none => rfl
    | some n =>
        cases hr : offer.rejection inspection with
        | some reason => rfl
        | none =>
            rw [hn, hr] at h
            dsimp only at h
            split at h
            · cases h
            · split at h
              · cases h
              · split at h
                · rename_i hnone
                  cases hnone
                · split at h
                  · cases h
                  · cases h

/-- The collector after a call. -/
def CollectorCall.perform (core : CollectorCore) : CollectorCall → CollectorCore
  | .record stream item => (core.record inspection stream item).2
  | .recordPlan item => (core.recordPlan inspection item).2
  | .recordStateTransition kind subject value stampNs details =>
      (core.recordStateTransition inspection kind subject value stampNs details).2
  | .observeClock stampNs => (core.observeClock stampNs).2

/-- The call observes a state that has not changed. -/
def CollectorCall.collapsed (core : CollectorCore) : CollectorCall → Bool
  | .recordStateTransition kind subject value _ _ =>
      (core.lastState.get? (kind, subject)).any (inspection.equal · value)
  | _ => false

/-- The item that a call offers to a stream. -/
def CollectorCall.offered (core : CollectorCore) : CollectorCall → Option Offer
  | .record stream item =>
      if (core.buffers.get? stream).isSome then
        some { stream := stream, item := item, sequence := core.sequence + 1 }
      else none
  | .recordPlan item => some { stream := "plans", item := item, sequence := core.sequence + 1 }
  | .recordStateTransition kind subject value stampNs details =>
      let previous := core.lastState.get? (kind, subject)
      if previous.any (inspection.equal · value) then none
      else
        some
          { stream := "state_events"
            item := CollectorCore.stateEvent kind subject previous value stampNs details
            sequence := core.sequence + 1 }
  | .observeClock _ => none

/-- A run of the collector, with the items offered and the number of the collapsed observations. -/
structure History where
  core : CollectorCore
  offers : List Offer := []
  collapsed : Nat := 0

namespace History

/-- One more call. -/
def perform (history : History) (call : CollectorCall) : History where
  core := call.perform inspection history.core
  offers := history.offers ++ (call.offered inspection history.core).toList
  collapsed := history.collapsed + if call.collapsed inspection history.core then 1 else 0

/-- The calls one after the other. -/
def run (calls : List CollectorCall) : History :=
  calls.foldl (perform inspection) { core := CollectorCore.initial }

theorem run_concat {calls : List CollectorCall} {call : CollectorCall} :
  run inspection (calls ++ [call]) = (run inspection calls).perform inspection call
  := by
  unfold run
  rw [List.foldl_append, List.foldl_cons, List.foldl_nil]

/-- The items offered to a stream. -/
def offersTo (history : History) (stream : String) : List Offer :=
  history.offers.filter fun offer => offer.stream = stream

/-- The buffer to which the items of a stream are offered. -/
def ideal (history : History) (stream : String) : Retained Offer :=
  Retained.retain (Offer.judge inspection) (history.offersTo stream)

/-- The collapsed observations of a stream. -/
def collapsedIn (history : History) (stream : String) : Nat :=
  if stream = "state_events" then history.collapsed else 0

end History

end Calls

/-! ### Agreement of a stream with its buffer -/

/-- A stream of the collector with its counters. -/
structure StreamView where
  items : List Evidence
  capacity : Nat
  retained : Nat
  ingress : Nat
  invalid : Nat
  overflow : Nat

def PrefixBuffer.view (buffer : PrefixBuffer) : StreamView where
  items := buffer.items
  capacity := buffer.capacity
  retained := buffer.quality.retainedCount
  ingress := buffer.quality.ingressCount
  invalid := buffer.quality.invalidCount
  overflow := buffer.quality.overflowCount

/-- The retained plans are counted by their list. -/
def PlanPrefixBuffer.view (buffer : PlanPrefixBuffer) : StreamView where
  items := buffer.items
  capacity := buffer.messageCapacity
  retained := buffer.items.length
  ingress := buffer.ingressCount
  invalid := buffer.invalidCount
  overflow := buffer.overflowCount

/-- A stream of the collector, if there is one of that name. -/
def CollectorCore.stream? (core : CollectorCore) (name : String) : Option StreamView :=
  if name = "plans" then some core.plans.view else (core.buffers.get? name).map PrefixBuffer.view

/-- A stream holds the kept items and counts the others, the collapsed ones only on ingress. -/
structure Agrees (stream : String) (collapsed : Nat) (b : Retained Offer)
    (view : StreamView) : Prop where
  items : view.items = b.items.map Offer.evidence
  capacity : view.capacity = capacityOf stream
  retained : view.retained = b.items.length
  invalid : view.invalid = b.invalid
  overflow : view.overflow = b.overflow
  ingress : view.ingress = b.items.length + b.invalid + b.overflow + collapsed

namespace Agrees

variable {stream : String} {collapsed : Nat} {b : Retained Offer} {view : StreamView}

theorem length (h : Agrees stream collapsed b view) :
  view.items.length = b.items.length
  := by
  rw [h.items, List.length_map]

/-- An item is kept. -/
theorem keep (offer : Offer) (h : Agrees stream collapsed b view) :
  Agrees stream collapsed { b with items := b.items ++ [offer] }
    { view with
      items := view.items ++ [offer.evidence]
      retained := view.retained + 1
      ingress := view.ingress + 1 }
  where
  items := by
    dsimp only
    rw [h.items, List.map_append, List.map_singleton]
  capacity := h.capacity
  retained := by
    dsimp only
    rw [h.retained, List.length_append, List.length_singleton]
  invalid := h.invalid
  overflow := h.overflow
  ingress := by
    dsimp only
    rw [h.ingress, List.length_append, List.length_singleton]
    omega

/-- An item is rejected. -/
theorem reject (h : Agrees stream collapsed b view) :
  Agrees stream collapsed { b with invalid := b.invalid + 1 }
    { view with ingress := view.ingress + 1, invalid := view.invalid + 1 }
  where
  items := h.items
  capacity := h.capacity
  retained := h.retained
  invalid := congrArg (· + 1) h.invalid
  overflow := h.overflow
  ingress := by
    dsimp only
    rw [h.ingress]
    omega

/-- An item overflows. -/
theorem spill (h : Agrees stream collapsed b view) :
  Agrees stream collapsed { b with overflow := b.overflow + 1 }
    { view with ingress := view.ingress + 1, overflow := view.overflow + 1 }
  where
  items := h.items
  capacity := h.capacity
  retained := h.retained
  invalid := h.invalid
  overflow := congrArg (· + 1) h.overflow
  ingress := by
    dsimp only
    rw [h.ingress]
    omega

/-- An observation is collapsed. -/
theorem collapse (h : Agrees stream collapsed b view) :
  Agrees stream (collapsed + 1) b { view with ingress := view.ingress + 1 }
  where
  items := h.items
  capacity := h.capacity
  retained := h.retained
  invalid := h.invalid
  overflow := h.overflow
  ingress := by
    dsimp only
    rw [h.ingress]
    omega

/-- A buffer appends an item unless it is full. -/
theorem append (offer : Offer) (stampNs : PyValue) {buffer : PrefixBuffer}
    (h : Agrees stream collapsed b buffer.view) :
  (capacityOf stream ≤ b.items.length ∧
    (buffer.append offer.evidence offer.sequence stampNs).1 = false ∧
    Agrees stream collapsed { b with overflow := b.overflow + 1 }
      (buffer.append offer.evidence offer.sequence stampNs).2.view) ∨
  (b.items.length < capacityOf stream ∧
    (buffer.append offer.evidence offer.sequence stampNs).1 = true ∧
    Agrees stream collapsed { b with items := b.items ++ [offer] }
      (buffer.append offer.evidence offer.sequence stampNs).2.view)
  := by
  have hcapacity : buffer.capacity = capacityOf stream := h.capacity
  have hlength : buffer.items.length = b.items.length := h.length
  unfold PrefixBuffer.append
  by_cases hfull : buffer.capacity ≤ buffer.items.length
  · rw [dif_pos hfull]
    refine .inl ⟨?_, rfl, h.spill⟩
    rw [← hcapacity, ← hlength]
    exact hfull
  · rw [dif_neg hfull]
    refine .inr ⟨?_, rfl, h.keep offer⟩
    rw [← hcapacity, ← hlength]
    exact Nat.lt_of_not_le hfull

end Agrees

/-! ### Recording -/

section Refinement

variable {inspection : Inspection}

/-! The cases of the judge, in its order. -/

section Judging

variable {kept : List Offer} {offer : Offer}

theorem Offer.judge_of_malformed (h : offer.nested = none) :
  offer.judge inspection kept = .invalid
  := by
  unfold Offer.judge
  rw [h]

theorem Offer.judge_of_over {n : Nat} (h : offer.nested = some n)
    (hover : nestedCapacityOf offer.stream < Offer.total kept + n) :
  offer.judge inspection kept = .overflow
  := by
  unfold Offer.judge
  rw [h]
  dsimp only
  rw [if_pos hover]

variable {n : Nat} (hnested : offer.nested = some n)
  (hfits : Offer.total kept + n ≤ nestedCapacityOf offer.stream)

include hnested hfits

theorem Offer.judge_of_over_plans (hplans : offer.stream = "plans")
    (hfull : capacityOf offer.stream ≤ kept.length) :
  offer.judge inspection kept = .overflow
  := by
  unfold Offer.judge
  rw [hnested]
  dsimp only
  rw [if_neg (Nat.not_lt.mpr hfits), if_pos ⟨hplans, hfull⟩]

theorem Offer.judge_of_rejected (hroom : offer.stream = "plans" →
      kept.length < capacityOf offer.stream)
    {reason : String} (h : offer.rejection inspection = some reason) :
  offer.judge inspection kept = .invalid
  := by
  have hplans : ¬ (offer.stream = "plans" ∧ capacityOf offer.stream ≤ kept.length) := by
    rintro ⟨hstream, hfull⟩
    exact absurd (hroom hstream) (Nat.not_lt.mpr hfull)
  unfold Offer.judge
  rw [hnested, h]
  dsimp only
  rw [if_neg (Nat.not_lt.mpr hfits), if_neg hplans]
  rfl

theorem Offer.judge_of_accepted (h : offer.rejection inspection = none) :
  offer.judge inspection kept = if capacityOf offer.stream ≤ kept.length then .overflow else .kept
  := by
  unfold Offer.judge
  rw [hnested, h]
  dsimp only
  rw [if_neg (Nat.not_lt.mpr hfits)]
  by_cases hfull : capacityOf offer.stream ≤ kept.length
  · rw [if_pos hfull, Option.isSome_none, if_neg Bool.false_ne_true, ite_self]
  · rw [if_neg hfull, if_neg fun h => hfull h.2, Option.isSome_none, if_neg Bool.false_ne_true]

end Judging

/-- The collector `core'` differs from `core` by an item recorded in a stream, which holds the items
of `b` now. -/
structure Recorded (stream : String) (collapsed : Nat) (b : Retained Offer)
    (core core' : CollectorCore) : Prop where
  buffers : ∃ buffer, core'.buffers = core.buffers.set stream buffer ∧
    Agrees stream collapsed b buffer.view
  plans : core'.plans = core.plans
  sequence : core'.sequence = core.sequence
  records : core'.contactRecordCount =
    if stream = "contacts" then Offer.total b.items else core.contactRecordCount

/-- A buffer is replaced and the records stay as they are. -/
theorem recorded_setBuffer {core : CollectorCore} {stream : String} {buffer : PrefixBuffer}
    {collapsed : Nat} {b : Retained Offer} (hagrees : Agrees stream collapsed b buffer.view)
    (hrecords : stream = "contacts" → core.contactRecordCount = Offer.total b.items) :
  Recorded stream collapsed b core (core.setBuffer stream buffer)
  where
  buffers := ⟨buffer, rfl, hagrees⟩
  plans := rfl
  sequence := rfl
  records := by
    split
    · rename_i h
      exact hrecords h
    · rfl

section Record

variable {core : CollectorCore} {buffer : PrefixBuffer} {offer : Offer} {collapsed : Nat}
  {b : Retained Offer} (hplans : offer.stream ≠ "plans")
  (hagrees : Agrees offer.stream collapsed b buffer.view)
  (hrecords : offer.stream = "contacts" → core.contactRecordCount = Offer.total b.items)

include hplans hagrees hrecords

theorem recordValid_recorded {contacts : List PyValue}
    (hnested : offer.nested = some contacts.length)
    (hfits : Offer.total b.items + contacts.length ≤ nestedCapacityOf offer.stream) :
  Recorded offer.stream collapsed (b.offer (Offer.judge inspection) offer) core
    (core.recordValid inspection offer.stream buffer offer.item offer.sequence contacts).2
  := by
  have hrejection :
      offer.rejection inspection = CollectorCore.rejection inspection offer.stream offer.item := by
    unfold Offer.rejection
    rw [if_neg hplans]
  unfold CollectorCore.recordValid
  cases hr : CollectorCore.rejection inspection offer.stream offer.item with
  | some reason =>
      have hjudge : offer.judge inspection b.items = .invalid := by
        apply Offer.judge_of_rejected hnested hfits
        · intro h
          exact absurd h hplans
        · rw [hrejection, hr]
      rw [Retained.offer_of_invalid hjudge]
      exact recorded_setBuffer hagrees.reject hrecords
  | none =>
      have hjudge := Offer.judge_of_accepted hnested hfits (hrejection.trans hr)
      rcases hagrees.append offer
          (PyValue.item "stamp_ns" (normalized offer.item offer.sequence)) with
        ⟨hfull, hreturn, hview⟩ | ⟨hroom, hreturn, hview⟩
      · rw [if_pos hfull] at hjudge
        rw [Retained.offer_of_overflow hjudge]
        unfold Offer.evidence at hreturn hview
        dsimp only
        rw [hreturn, if_neg (by simp)]
        exact recorded_setBuffer hview hrecords
      · rw [if_neg (Nat.not_le.mpr hroom)] at hjudge
        rw [Retained.offer_of_kept hjudge]
        unfold Offer.evidence at hreturn hview
        dsimp only
        rw [hreturn]
        by_cases hcontacts : offer.stream = "contacts"
        · rw [if_pos ⟨hcontacts, rfl⟩]
          refine ⟨⟨_, rfl, hview⟩, rfl, rfl, ?_⟩
          rw [if_pos hcontacts, Offer.total_concat hnested, ← hrecords hcontacts]
          rfl
        · rw [if_neg fun h => hcontacts h.1]
          apply recorded_setBuffer hview
          intro h
          exact absurd h hcontacts

/-- A recorded item is offered to its stream. -/
theorem record_recorded (hget : core.buffers.get? offer.stream = some buffer)
    (hsequence : offer.sequence = core.sequence + 1)
    (hkept : ∀ other ∈ b.items, other.stream = offer.stream) :
  Recorded offer.stream collapsed (b.offer (Offer.judge inspection) offer) core.nextSequence.2
    (core.record inspection offer.stream offer.item).2
  := by
  have hrecords' : offer.stream = "contacts" →
      { core with sequence := offer.sequence }.contactRecordCount = Offer.total b.items := hrecords
  unfold CollectorCore.record
  rw [hget]
  dsimp only [CollectorCore.nextSequence]
  rw [← hsequence]
  by_cases hcontacts : offer.stream = "contacts"
  · rw [if_pos hcontacts]
    have hlimit : nestedCapacityOf offer.stream = contactRecordCapacity := by
      unfold nestedCapacityOf
      rw [if_pos hcontacts]
    cases hc : PyValue.item "contacts" offer.item with
    | list contacts =>
        have hnested : offer.nested = some contacts.length := by
          unfold Offer.nested
          rw [if_pos hcontacts, hc]
        dsimp only
        by_cases hover : contactRecordCapacity < core.contactRecordCount + contacts.length
        · rw [if_pos hover]
          rw [hrecords hcontacts] at hover
          have hjudge : offer.judge inspection b.items = .overflow :=
            Offer.judge_of_over hnested (hlimit ▸ hover)
          rw [Retained.offer_of_overflow hjudge]
          refine ⟨⟨_, rfl, hagrees.spill⟩, rfl, rfl, ?_⟩
          rw [if_pos hcontacts]
          exact hrecords hcontacts
        · rw [if_neg hover]
          rw [hrecords hcontacts] at hover
          refine recordValid_recorded hplans hagrees hrecords' hnested ?_
          rw [hlimit]
          exact Nat.le_of_not_lt hover
    | _ =>
        have hjudge : offer.judge inspection b.items = .invalid := by
          apply Offer.judge_of_malformed
          unfold Offer.nested
          rw [if_pos hcontacts, hc]
        rw [Retained.offer_of_invalid hjudge]
        exact recorded_setBuffer hagrees.reject hrecords'
  · rw [if_neg hcontacts]
    have hzero : ∀ other : Offer, other.stream = offer.stream → other.nested = some 0 := by
      intro other hother
      unfold Offer.nested
      rw [hother, if_neg hcontacts, if_neg hplans]
    have htotal : Offer.total b.items = 0 := by
      unfold Offer.total
      rw [List.sum_eq_zero_iff_forall_eq_nat]
      intro n hn
      obtain ⟨other, hother, rfl⟩ := List.mem_map.mp hn
      rw [hzero other (hkept other hother)]
      rfl
    refine recordValid_recorded hplans hagrees hrecords' ?_ ?_
    · exact hzero offer rfl
    · rw [htotal]
      apply Nat.zero_le

end Record

/-! ### Plans -/

/-- The buffer of plans holds the kept plans and counts their poses. -/
structure PlansAgree (b : Retained Offer) (plans : PlanPrefixBuffer) : Prop where
  agrees : Agrees "plans" 0 b plans.view
  poses : plans.retainedPoseCount = Offer.total b.items
  poseCapacity : plans.poseCapacity = nestedCapacityOf "plans"

namespace PlansAgree

variable {b : Retained Offer} {plans : PlanPrefixBuffer} {offer : Offer}

theorem reject {reason : String} (h : PlansAgree b plans) :
  PlansAgree { b with invalid := b.invalid + 1 } (plans.reject reason)
  where
  agrees := h.agrees.reject
  poses := h.poses
  poseCapacity := h.poseCapacity

theorem over_iff {n : Nat} (h : PlansAgree b plans) :
  plans.exceeds n ↔ capacityOf "plans" ≤ b.items.length ∨
    nestedCapacityOf "plans" < Offer.total b.items + n
  := by
  have hcapacity : plans.messageCapacity = capacityOf "plans" := h.agrees.capacity
  have hlength : plans.items.length = b.items.length := h.agrees.length
  unfold PlanPrefixBuffer.exceeds
  rw [hcapacity, hlength, h.poses, h.poseCapacity]

variable {poses : List PyValue} (hposes : PyValue.item "poses" offer.item = .list poses)

include hposes

theorem item_evidence :
  PyValue.item "poses" offer.evidence = .list poses
  := by
  unfold Offer.evidence normalized
  rw [PyValue.item_setItem_of_ne (by decide), hposes]

theorem append_of_over (h : PlansAgree b plans) (hover : plans.exceeds poses.length) :
  PlansAgree { b with overflow := b.overflow + 1 } (plans.append offer.evidence).2
  := by
  unfold PlanPrefixBuffer.append
  rw [item_evidence hposes]
  dsimp only
  rw [PlanPrefixBuffer.retain, dif_pos hover]
  exact ⟨h.agrees.spill, h.poses, h.poseCapacity⟩

theorem append_of_not_over (h : PlansAgree b plans) (hnested : offer.nested = some poses.length)
    (hover : ¬ plans.exceeds poses.length) :
  PlansAgree { b with items := b.items ++ [offer] } (plans.append offer.evidence).2
  := by
  unfold PlanPrefixBuffer.append
  rw [item_evidence hposes]
  dsimp only
  rw [PlanPrefixBuffer.retain, dif_neg hover]
  constructor
  · have hkeep := h.agrees.keep offer
    have hretained : plans.view.retained = plans.items.length := rfl
    rw [hretained] at hkeep
    have hlength : (plans.items ++ [offer.evidence]).length = plans.items.length + 1 := by
      rw [List.length_append, List.length_singleton]
    unfold PlanPrefixBuffer.view
    dsimp only
    rw [hlength]
    exact hkeep
  · rw [Offer.total_concat hnested, ← h.poses]
  · exact h.poseCapacity

end PlansAgree

/-- A recorded plan is offered to the plans, and nothing else changes but the sequence. -/
theorem recordPlan_agrees (inspection : Inspection) (offer : Offer) {core : CollectorCore}
    {b : Retained Offer}
    (hstream : offer.stream = "plans") (hsequence : offer.sequence = core.sequence + 1)
    (h : PlansAgree b core.plans) :
  ∃ plans, PlansAgree (b.offer (Offer.judge inspection) offer) plans ∧
    (core.recordPlan inspection offer.item).2 = { core.nextSequence.2 with plans := plans }
  := by
  have hplans : ¬ offer.stream = "contacts" := by
    rw [hstream]
    decide
  have hlimits : capacityOf offer.stream = capacityOf "plans" ∧
      nestedCapacityOf offer.stream = nestedCapacityOf "plans" := by
    rw [hstream]
    exact ⟨rfl, rfl⟩
  have hrejection : offer.rejection inspection =
      CollectorCore.planRejection inspection offer.item := by
    unfold Offer.rejection
    rw [if_pos hstream]
  unfold CollectorCore.recordPlan
  dsimp only [CollectorCore.nextSequence]
  rw [← hsequence]
  cases hposes : PyValue.item "poses" offer.item with
  | list poses =>
      have hnested : offer.nested = some poses.length := by
        unfold Offer.nested
        rw [if_neg hplans, if_pos hstream, hposes]
      dsimp only
      by_cases hover : core.plans.exceeds poses.length
      · rw [if_pos hover]
        have hjudge : offer.judge inspection b.items = .overflow := by
          by_cases hnestedOver : nestedCapacityOf offer.stream < Offer.total b.items + poses.length
          · apply Offer.judge_of_over hnested hnestedOver
          · apply Offer.judge_of_over_plans hnested (Nat.le_of_not_lt hnestedOver) hstream
            rcases h.over_iff.mp hover with hfull | hpast
            · rw [hlimits.1]
              exact hfull
            · rw [hlimits.2] at hnestedOver
              exact absurd hpast hnestedOver
        rw [Retained.offer_of_overflow hjudge]
        exact ⟨_, h.append_of_over hposes hover, rfl⟩
      · rw [if_neg hover]
        have hroom := hover
        rw [h.over_iff, not_or, Nat.not_le, Nat.not_lt, ← hlimits.1, ← hlimits.2] at hroom
        cases hr : CollectorCore.planRejection inspection offer.item with
        | some reason =>
            have hjudge : offer.judge inspection b.items = .invalid := by
              apply Offer.judge_of_rejected hnested hroom.2
              · intro _
                exact hroom.1
              · rw [hrejection, hr]
            rw [Retained.offer_of_invalid hjudge]
            exact ⟨_, h.reject, rfl⟩
        | none =>
            have hjudge := Offer.judge_of_accepted hnested hroom.2 (hrejection.trans hr)
            rw [if_neg (Nat.not_le.mpr hroom.1)] at hjudge
            rw [Retained.offer_of_kept hjudge]
            exact ⟨_, h.append_of_not_over hposes hnested hover, rfl⟩
  | _ =>
      have hjudge : offer.judge inspection b.items = .invalid := by
        apply Offer.judge_of_malformed
        unfold Offer.nested
        rw [if_neg hplans, if_pos hstream, hposes]
      rw [Retained.offer_of_invalid hjudge]
      exact ⟨_, h.reject, rfl⟩

end Refinement

end Metrics

end RobotestLab
