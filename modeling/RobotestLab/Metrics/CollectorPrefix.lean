import RobotestLab.Metrics.Retained

/-!
# Exact prefixes

Every state of a run of the collector holds, in each stream, what the judge keeps of the items
offered to it, counts the rest, and has the items of all streams in the order of the calls. The
retained items are the first valid ones, and nothing is retained after an overflow, exactly in the
runs in which no valid item fits in a stream that has overflowed. The limits on nested elements let
one fit: a plan of a few poses after a plan of too many.
-/

namespace RobotestLab

namespace Metrics

variable {inspection : Inspection}

/-! ### The order of the sequence -/

/-- A sublist is picked out by a key that is distinct on the list. -/
theorem filter_key_of_sublist {α : Type} {key : α → Nat} {kept l : List α} (h : kept.Sublist l)
    (hdistinct : (l.map key).Nodup) :
  l.filter (fun a => key a ∈ kept.map key) = kept
  := by
  induction h with
  | slnil => rfl
  | @cons kept l a hsub ih =>
      rw [List.map_cons, List.nodup_cons] at hdistinct
      rw [List.filter_cons_of_neg, ih hdistinct.2]
      rw [decide_eq_true_eq]
      intro hmem
      exact hdistinct.1 ((hsub.map key).subset hmem)
  | @cons_cons kept l a hsub ih =>
      rw [List.map_cons, List.nodup_cons] at hdistinct
      rw [List.filter_cons_of_pos (by simp)]
      congr 1
      refine (List.filter_congr ?_).trans (ih hdistinct.2)
      intro other hother
      have hne : key other ≠ key a := by
        intro heq
        exact hdistinct.1 (heq ▸ List.mem_map_of_mem hother)
      simp only [List.map_cons, List.mem_cons, hne, false_or]

/-! ### Every state of a run -/

/-- The streams hold what the judge keeps of the offers, and the offers are in sequence. -/
structure Traced (inspection : Inspection) (history : History) : Prop where
  buffers : ∀ stream buffer, history.core.buffers.get? stream = some buffer →
    Agrees stream (history.collapsedIn stream) (history.ideal inspection stream) buffer.view
  keys : ∀ stream, stream ∈ history.core.buffers.keys ↔ stream ∈ bufferCapacities.map Prod.fst
  plans : PlansAgree (history.ideal inspection "plans") history.core.plans
  records : history.core.contactRecordCount =
    Offer.total (history.ideal inspection "contacts").items
  ordered : (history.offers.map Offer.sequence).Pairwise (· < ·)
  latest : ∀ offer ∈ history.offers, offer.sequence ≤ history.core.sequence

theorem traced_initial :
  Traced inspection { core := CollectorCore.initial }
  where
  buffers stream buffer h := by
    have hcapacities : ∀ entry ∈ bufferCapacities, capacityOf entry.1 = entry.2 := by decide
    rw [Dict.get?_eq_some_iff] at h
    obtain ⟨entry, hentry, heq⟩ := List.mem_map.mp h
    obtain ⟨rfl, rfl⟩ := Prod.mk.inj heq
    constructor
    · rfl
    · exact (hcapacities entry hentry).symm
    · rfl
    · rfl
    · rfl
    · unfold History.collapsedIn
      split
      · rfl
      · rfl
  keys stream := by rfl
  plans := by
    constructor
    · constructor
      · rfl
      · rfl
      · rfl
      · rfl
      · rfl
      · rfl
    · rfl
    · rfl
  records := rfl
  ordered := List.Pairwise.nil
  latest _ h := absurd h List.not_mem_nil

namespace History

variable {history : History} {offer : Offer}

theorem offersTo_concat (core : CollectorCore) (collapsed : Nat) :
  offersTo { core := core, offers := history.offers ++ [offer], collapsed := collapsed }
      offer.stream =
    history.offersTo offer.stream ++ [offer]
  := by
  unfold offersTo
  rw [List.filter_append, List.filter_cons_of_pos (by simp), List.filter_nil]

variable {stream : String}

theorem offersTo_concat_of_ne (core : CollectorCore) (collapsed : Nat) (h : stream ≠ offer.stream) :
  offersTo { core := core, offers := history.offers ++ [offer], collapsed := collapsed } stream =
    history.offersTo stream
  := by
  unfold offersTo
  rw [List.filter_append, List.filter_cons_of_neg (by simp [h.symm]), List.filter_nil,
    List.append_nil]

theorem ideal_concat (core : CollectorCore) (collapsed : Nat) :
  ideal inspection { core := core, offers := history.offers ++ [offer], collapsed := collapsed }
      offer.stream =
    (history.ideal inspection offer.stream).offer (Offer.judge inspection) offer
  := by
  unfold ideal
  rw [offersTo_concat, Retained.retain_concat]

theorem ideal_concat_of_ne (core : CollectorCore) (collapsed : Nat) (h : stream ≠ offer.stream) :
  ideal inspection { core := core, offers := history.offers ++ [offer], collapsed := collapsed }
      stream =
    history.ideal inspection stream
  := by
  unfold ideal
  rw [offersTo_concat_of_ne core collapsed h]

variable {call : CollectorCall}

theorem perform_of_offered (offer : Offer)
    (hoffered : call.offered inspection history.core = some offer)
    (hcollapsed : call.collapsed inspection history.core = false) :
  history.perform inspection call =
    { core := call.perform inspection history.core
      offers := history.offers ++ [offer]
      collapsed := history.collapsed }
  := by
  unfold perform
  rw [hoffered, hcollapsed]
  rfl

theorem perform_of_silent (hoffered : call.offered inspection history.core = none)
    (hcollapsed : call.collapsed inspection history.core = false) :
  history.perform inspection call =
    { core := call.perform inspection history.core
      offers := history.offers
      collapsed := history.collapsed }
  := by
  unfold perform
  rw [hoffered, hcollapsed, Option.toList_none, List.append_nil]
  rfl

theorem perform_of_collapsed (hoffered : call.offered inspection history.core = none)
    (hcollapsed : call.collapsed inspection history.core = true) :
  history.perform inspection call =
    { core := call.perform inspection history.core
      offers := history.offers
      collapsed := history.collapsed + 1 }
  := by
  unfold perform
  rw [hoffered, hcollapsed, Option.toList_none, List.append_nil]
  rfl

theorem mem_ideal (h : offer ∈ (history.ideal inspection stream).items) :
  offer ∈ history.offers ∧ offer.stream = stream
  := by
  have hmem := (Retained.retain_sublist (history.offersTo stream)).subset h
  rw [offersTo, List.mem_filter, decide_eq_true_eq] at hmem
  exact hmem

end History

namespace Traced

variable {history : History} {buffer : PrefixBuffer}

theorem stream_ne_plans {stream : String} (h : Traced inspection history)
    (hget : history.core.buffers.get? stream = some buffer) :
  stream ≠ "plans"
  := by
  have hnames : ∀ name ∈ bufferCapacities.map Prod.fst, name ≠ "plans" := by decide
  apply hnames
  rw [← h.keys, Dict.mem_keys_iff, hget]
  rfl

/-- An offer after all others keeps the sequence. -/
theorem ordered_concat {offer : Offer} (h : Traced inspection history)
    (hsequence : offer.sequence = history.core.sequence + 1) :
  ((history.offers ++ [offer]).map Offer.sequence).Pairwise (· < ·) ∧
    ∀ other ∈ history.offers ++ [offer], other.sequence ≤ history.core.sequence + 1
  := by
  constructor
  · rw [List.map_append, List.pairwise_append]
    refine ⟨h.ordered, List.pairwise_singleton _ _, ?_⟩
    intro n hn m hm
    obtain ⟨other, hother, rfl⟩ := List.mem_map.mp hn
    rw [List.map_singleton, List.mem_singleton] at hm
    rw [hm, hsequence]
    exact Nat.lt_succ_of_le (h.latest other hother)
  · intro other hother
    rcases List.mem_append.mp hother with hother | hother
    · exact Nat.le_succ_of_le (h.latest other hother)
    · rw [List.mem_singleton.mp hother, hsequence]

/-- An item is recorded in a buffer. -/
theorem recorded (offer : Offer) {buffer : PrefixBuffer} {core : CollectorCore}
    (h : Traced inspection history) (hget : history.core.buffers.get? offer.stream = some buffer)
    (hsequence : offer.sequence = history.core.sequence + 1)
    (hrecorded : Recorded offer.stream (history.collapsedIn offer.stream)
      ((history.ideal inspection offer.stream).offer (Offer.judge inspection) offer)
      history.core.nextSequence.2 core) :
  Traced inspection
    { core := core, offers := history.offers ++ [offer], collapsed := history.collapsed }
  := by
  obtain ⟨⟨buffer', hbuffers, hagrees⟩, hplans, hnext, hrecords⟩ := hrecorded
  obtain ⟨hordered, hlatest⟩ := h.ordered_concat hsequence
  constructor
  · intro stream other hother
    dsimp only at hother
    rw [hbuffers, Dict.get?_set] at hother
    by_cases hstream : stream = offer.stream
    · rw [if_pos hstream, Option.some.injEq] at hother
      rw [hstream, ← hother, History.ideal_concat]
      exact hagrees
    · rw [if_neg hstream] at hother
      rw [History.ideal_concat_of_ne _ _ hstream]
      exact h.buffers stream other hother
  · intro stream
    dsimp only
    rw [hbuffers, Dict.mem_keys_set, ← h.keys]
    constructor
    · rintro (rfl | hmem)
      · rw [Dict.mem_keys_iff, hget]
        rfl
      · exact hmem
    · exact .inr
  · rw [History.ideal_concat_of_ne _ _ (h.stream_ne_plans hget).symm]
    dsimp only
    rw [hplans]
    exact h.plans
  · dsimp only
    rw [hrecords]
    by_cases hstream : offer.stream = "contacts"
    · rw [if_pos hstream, ← hstream, History.ideal_concat]
    · rw [if_neg hstream, History.ideal_concat_of_ne _ _ fun heq => hstream heq.symm]
      exact h.records
  · exact hordered
  · dsimp only
    rw [hnext]
    exact hlatest

/-- A plan is recorded. -/
theorem recordedPlan (offer : Offer) {plans : PlanPrefixBuffer} (h : Traced inspection history)
    (hstream : offer.stream = "plans") (hsequence : offer.sequence = history.core.sequence + 1)
    (hagrees : PlansAgree ((history.ideal inspection "plans").offer (Offer.judge inspection) offer)
      plans) :
  Traced inspection
    { core := { history.core.nextSequence.2 with plans := plans }
      offers := history.offers ++ [offer]
      collapsed := history.collapsed }
  := by
  obtain ⟨hordered, hlatest⟩ := h.ordered_concat hsequence
  constructor
  · intro stream buffer hget
    rw [History.ideal_concat_of_ne]
    · exact h.buffers stream buffer hget
    · rw [hstream]
      exact h.stream_ne_plans hget
  · exact h.keys
  · rw [← hstream] at hagrees ⊢
    rw [History.ideal_concat]
    exact hagrees
  · rw [History.ideal_concat_of_ne]
    · exact h.records
    · rw [hstream]
      decide
  · exact hordered
  · exact hlatest

/-- A collapsed observation counts on the ingress of the states. -/
theorem collapse (h : Traced inspection history)
    (hget : history.core.buffers.get? "state_events" = some buffer) :
  Traced inspection
    { core := history.core.nextSequence.2.setBuffer "state_events" buffer.observeWithoutRetaining
      offers := history.offers
      collapsed := history.collapsed + 1 }
  := by
  constructor
  · intro stream other hother
    unfold CollectorCore.setBuffer at hother
    rw [Dict.get?_set] at hother
    unfold History.collapsedIn
    by_cases hstream : stream = "state_events"
    · rw [if_pos hstream, Option.some.injEq] at hother
      have hagrees := h.buffers "state_events" buffer hget
      unfold History.collapsedIn at hagrees
      rw [if_pos rfl] at hagrees
      rw [if_pos hstream, hstream, ← hother]
      exact hagrees.collapse
    · rw [if_neg hstream] at hother
      have hagrees := h.buffers stream other hother
      unfold History.collapsedIn at hagrees
      rw [if_neg hstream] at hagrees ⊢
      exact hagrees
  · intro stream
    unfold CollectorCore.setBuffer
    dsimp only
    rw [Dict.mem_keys_set, ← h.keys]
    constructor
    · rintro (rfl | hmem)
      · rw [Dict.mem_keys_iff, hget]
        rfl
      · exact hmem
    · exact .inr
  · exact h.plans
  · exact h.records
  · exact h.ordered
  · intro offer hoffer
    exact Nat.le_succ_of_le (h.latest offer hoffer)

/-- A call that offers an item to a buffer. -/
theorem record (offer : Offer) (h : Traced inspection history)
    (hget : history.core.buffers.get? offer.stream = some buffer)
    (hsequence : offer.sequence = history.core.sequence + 1) :
  Recorded offer.stream (history.collapsedIn offer.stream)
    ((history.ideal inspection offer.stream).offer (Offer.judge inspection) offer)
    history.core.nextSequence.2 (history.core.record inspection offer.stream offer.item).2
  := by
  apply record_recorded (h.stream_ne_plans hget) (h.buffers offer.stream buffer hget)
  · intro hcontacts
    rw [hcontacts]
    exact h.records
  · exact hget
  · exact hsequence
  · intro other hother
    exact (History.mem_ideal hother).2

/-- There is a buffer of the changes of state. -/
theorem exists_stateEvents (h : Traced inspection history) :
  ∃ buffer, history.core.buffers.get? "state_events" = some buffer
  := by
  rw [← Option.isSome_iff_exists, ← Dict.mem_keys_iff, h.keys]
  decide

theorem perform (h : Traced inspection history) (call : CollectorCall) :
  Traced inspection (history.perform inspection call)
  := by
  cases call with
  | record stream item =>
      cases hget : history.core.buffers.get? stream with
      | none =>
          rw [History.perform_of_silent (by simp [CollectorCall.offered, hget]) rfl]
          dsimp only [CollectorCall.perform]
          unfold CollectorCore.record
          rw [hget]
          exact h
      | some buffer =>
          let offer : Offer :=
            { stream := stream, item := item, sequence := history.core.sequence + 1 }
          rw [History.perform_of_offered offer
            (by simp [CollectorCall.offered, hget, offer]) rfl]
          exact h.recorded offer hget rfl (h.record offer hget rfl)
  | recordPlan item =>
      let offer : Offer :=
        { stream := "plans", item := item, sequence := history.core.sequence + 1 }
      obtain ⟨plans, hagrees, hcore⟩ :=
        recordPlan_agrees inspection offer rfl rfl h.plans
      rw [History.perform_of_offered offer rfl rfl]
      change Traced inspection
        { core := (history.core.recordPlan inspection offer.item).2
          offers := history.offers ++ [offer]
          collapsed := history.collapsed }
      rw [hcore]
      exact h.recordedPlan offer rfl rfl hagrees
  | recordStateTransition kind subject value stampNs details =>
      obtain ⟨buffer, hget⟩ := h.exists_stateEvents
      let call : CollectorCall := .recordStateTransition kind subject value stampNs details
      by_cases hsame : (history.core.lastState.get? (kind, subject)).any
        (inspection.equal · value) = true
      · have hoffered : call.offered inspection history.core = none := if_pos hsame
        have hcollapsed : call.collapsed inspection history.core = true := hsame
        have hperform : call.perform inspection history.core =
            history.core.nextSequence.2.setBuffer "state_events"
              buffer.observeWithoutRetaining := by
          change (history.core.recordStateTransition inspection kind subject value stampNs
              details).2 = _
          unfold CollectorCore.recordStateTransition
          dsimp only
          rw [if_pos hsame, hget]
        rw [History.perform_of_collapsed hoffered hcollapsed, hperform]
        exact h.collapse hget
      · let offer : Offer :=
          { stream := "state_events"
            item := CollectorCore.stateEvent kind subject
              (history.core.lastState.get? (kind, subject)) value stampNs details
            sequence := history.core.sequence + 1 }
        have hrecorded := h.record offer hget rfl
        have hoffered : call.offered inspection history.core = some offer := if_neg hsame
        have hcollapsed : call.collapsed inspection history.core = false :=
          Bool.eq_false_of_not_eq_true hsame
        rw [History.perform_of_offered offer hoffered hcollapsed]
        refine h.recorded offer hget rfl ?_
        change Recorded offer.stream _ _ _
          (history.core.recordStateTransition inspection kind subject value stampNs details).2
        unfold CollectorCore.recordStateTransition
        dsimp only
        rw [if_neg hsame]
        split
        · rename_i hresult
          rw [hresult] at hrecorded
          exact ⟨hrecorded.buffers, hrecorded.plans, hrecorded.sequence, hrecorded.records⟩
        · rename_i result core _ hresult
          change Recorded offer.stream _ _ _ core
          have hcore : (history.core.record inspection offer.stream offer.item).2 = core :=
            congrArg Prod.snd hresult
          rw [← hcore]
          exact hrecorded
  | observeClock stampNs =>
      have hlatest : ∀ offer ∈ history.offers, offer.sequence ≤ history.core.sequence + 1 := by
        intro offer hoffer
        exact Nat.le_succ_of_le (h.latest offer hoffer)
      rw [History.perform_of_silent rfl rfl]
      dsimp only [CollectorCall.perform]
      unfold CollectorCore.observeClock
      dsimp only
      split
      · exact ⟨h.buffers, h.keys, h.plans, h.records, h.ordered, hlatest⟩
      · exact ⟨h.buffers, h.keys, h.plans, h.records, h.ordered, hlatest⟩

/-- Every state of a run. -/
theorem run (inspection : Inspection) (calls : List CollectorCall) :
  Traced inspection (History.run inspection calls)
  := by
  induction calls using List.reverseRecOn with
  | nil => exact traced_initial
  | append_singleton calls call ih =>
      rw [History.run_concat]
      exact ih.perform call

/-- Every stream agrees with the buffer to which its items are offered. -/
theorem view {stream : String} {view : StreamView} (h : Traced inspection history)
    (hview : history.core.stream? stream = some view) :
  Agrees stream (history.collapsedIn stream) (history.ideal inspection stream) view
  := by
  unfold CollectorCore.stream? at hview
  by_cases hstream : stream = "plans"
  · rw [if_pos hstream, Option.some.injEq] at hview
    rw [hstream, ← hview]
    exact h.plans.agrees
  · rw [if_neg hstream, Option.map_eq_some_iff] at hview
    obtain ⟨buffer, hget, rfl⟩ := hview
    exact h.buffers stream buffer hget

end Traced

/-- The streams are the same in every state. -/
theorem Traced.isSome_stream?_iff {history : History} (h : Traced inspection history)
    {stream : String} :
  (history.core.stream? stream).isSome = true ↔
    stream = "plans" ∨ stream ∈ bufferCapacities.map Prod.fst
  := by
  unfold CollectorCore.stream?
  by_cases hstream : stream = "plans"
  · rw [if_pos hstream]
    simp [hstream]
  · rw [if_neg hstream, Option.isSome_map, ← Dict.mem_keys_iff, h.keys]
    simp [hstream]

/-! ### Room after an overflow -/

namespace CollectorCore

/-- The number of nested elements that the limit of a stream is checked against. -/
def nestedRetained (core : CollectorCore) (stream : String) : Nat :=
  if stream = "contacts" then core.contactRecordCount
  else if stream = "plans" then core.plans.retainedPoseCount
  else 0

/-- The stream has overflowed. -/
def Overflowed (core : CollectorCore) (stream : String) : Prop :=
  ∃ view, core.stream? stream = some view ∧ 0 < view.overflow

/-- The item and its nested elements are within the limits of the stream. -/
def HasRoom (core : CollectorCore) (offer : Offer) : Prop :=
  ∃ view, core.stream? offer.stream = some view ∧ view.items.length < view.capacity ∧
    core.nestedRetained offer.stream + offer.nested.getD 0 ≤ nestedCapacityOf offer.stream

end CollectorCore

namespace Traced

variable {history : History} {offer : Offer}

theorem nestedRetained_eq (h : Traced inspection history) (stream : String) :
  history.core.nestedRetained stream = Offer.total (history.ideal inspection stream).items
  := by
  unfold CollectorCore.nestedRetained
  by_cases hcontacts : stream = "contacts"
  · rw [if_pos hcontacts, hcontacts]
    exact h.records
  · rw [if_neg hcontacts]
    by_cases hplans : stream = "plans"
    · rw [if_pos hplans, hplans]
      exact h.plans.poses
    · rw [if_neg hplans, eq_comm]
      unfold Offer.total
      rw [List.sum_eq_zero_iff_forall_eq_nat]
      intro n hn
      obtain ⟨other, hother, rfl⟩ := List.mem_map.mp hn
      have hstream := (History.mem_ideal hother).2
      unfold Offer.nested
      rw [hstream, if_neg hcontacts, if_neg hplans, Option.getD_some]

/-- There is room exactly when the item fits beside those that are kept. -/
theorem hasRoom_iff (h : Traced inspection history) {view : StreamView}
    (hview : history.core.stream? offer.stream = some view) :
  history.core.HasRoom offer ↔ offer.Fits (history.ideal inspection offer.stream).items
  := by
  have hagrees := h.view hview
  unfold CollectorCore.HasRoom Offer.Fits
  rw [h.nestedRetained_eq, ← hagrees.length, ← hagrees.capacity]
  constructor
  · rintro ⟨other, hother, hroom⟩
    rw [hview, Option.some.injEq] at hother
    rw [hother]
    exact hroom
  · intro hroom
    exact ⟨view, hview, hroom⟩

theorem overflowed_iff (h : Traced inspection history) {stream : String} {view : StreamView}
    (hview : history.core.stream? stream = some view) :
  history.core.Overflowed stream ↔ 0 < (history.ideal inspection stream).overflow
  := by
  have hagrees := h.view hview
  unfold CollectorCore.Overflowed
  rw [← hagrees.overflow]
  constructor
  · rintro ⟨other, hother, hoverflow⟩
    rw [hview, Option.some.injEq] at hother
    rw [hother]
    exact hoverflow
  · intro hoverflow
    exact ⟨view, hview, hoverflow⟩

/-- A call offers items to streams of the collector only. -/
theorem exists_view {call : CollectorCall} (h : Traced inspection history)
    (hoffered : call.offered inspection history.core = some offer) :
  ∃ view, history.core.stream? offer.stream = some view
  := by
  have hbuffer : ∀ stream, (history.core.buffers.get? stream).isSome = true →
      ∃ view, history.core.stream? stream = some view := by
    intro stream hsome
    obtain ⟨buffer, hget⟩ := Option.isSome_iff_exists.mp hsome
    use buffer.view
    unfold CollectorCore.stream?
    rw [if_neg (h.stream_ne_plans hget), hget, Option.map_some]
  cases call with
  | record stream item =>
      unfold CollectorCall.offered at hoffered
      dsimp only at hoffered
      split at hoffered
      · rename_i hsome
        cases hoffered
        exact hbuffer stream hsome
      · cases hoffered
  | recordPlan item =>
      cases hoffered
      exact ⟨_, rfl⟩
  | recordStateTransition kind subject value stampNs details =>
      unfold CollectorCall.offered at hoffered
      dsimp only at hoffered
      split at hoffered
      · cases hoffered
      · cases hoffered
        obtain ⟨buffer, hget⟩ := h.exists_stateEvents
        apply hbuffer
        rw [hget]
        rfl
  | observeClock stampNs => cases hoffered

end Traced

/-- In no step of the run does a valid item fit in a stream that has overflowed. -/
def NoneFitsAfterOverflow (inspection : Inspection) (calls : List CollectorCall) : Prop :=
  ∀ before call after offer, calls = before ++ call :: after →
    call.offered inspection (History.run inspection before).core = some offer →
    offer.valid inspection = true →
    (History.run inspection before).core.Overflowed offer.stream →
    ¬ (History.run inspection before).core.HasRoom offer

theorem NoneFitsAfterOverflow.init {calls : List CollectorCall} {call : CollectorCall}
    (h : NoneFitsAfterOverflow inspection (calls ++ [call])) :
  NoneFitsAfterOverflow inspection calls
  := by
  intro before other after offer hcalls
  apply h before other (after ++ [call]) offer
  rw [hcalls, List.append_assoc, List.cons_append]

/-- The step from a run to a run with one more call, for the buffer of a stream. -/
theorem ideal_run_concat (inspection : Inspection) (calls : List CollectorCall)
    (call : CollectorCall) (stream : String) :
  ((call.offered inspection (History.run inspection calls).core).all (·.stream ≠ stream) = true ∧
    (History.run inspection (calls ++ [call])).offersTo stream =
      (History.run inspection calls).offersTo stream) ∨
  ∃ offer, call.offered inspection (History.run inspection calls).core = some offer ∧
    offer.stream = stream ∧
    (History.run inspection (calls ++ [call])).offersTo stream =
      (History.run inspection calls).offersTo stream ++ [offer]
  := by
  rw [History.run_concat]
  unfold History.perform History.offersTo
  dsimp only
  cases hoffered : call.offered inspection (History.run inspection calls).core with
  | none =>
      refine .inl ⟨rfl, ?_⟩
      rw [Option.toList_none, List.append_nil]
  | some offer =>
      rw [Option.toList_some, List.filter_append]
      by_cases hstream : offer.stream = stream
      · refine .inr ⟨offer, rfl, hstream, ?_⟩
        rw [List.filter_cons_of_pos (by simp [hstream]), List.filter_nil]
      · refine .inl ⟨by simpa using hstream, ?_⟩
        rw [List.filter_cons_of_neg (by simp [hstream]), List.filter_nil, List.append_nil]

/-! ### Exact prefixes -/

section Prefixes

variable {calls : List CollectorCall}

/-- A run in which nothing valid fits after an overflow keeps the first valid items. -/
theorem prefixed_of_none_fits (h : NoneFitsAfterOverflow inspection calls) (stream : String) :
  Retained.Prefixed (Offer.valid inspection) ((History.run inspection calls).offersTo stream)
    ((History.run inspection calls).ideal inspection stream)
  := by
  unfold History.ideal
  induction calls using List.reverseRecOn with
  | nil => exact Retained.prefixed_nil
  | append_singleton calls call ih =>
      have htraced := Traced.run inspection calls
      rcases ideal_run_concat inspection calls call stream with
        ⟨_, hsame⟩ | ⟨offer, hoffered, rfl, hoffers⟩
      · rw [hsame]
        exact ih h.init
      · rw [hoffers, Retained.retain_concat]
        apply (ih h.init).offer (Offer.judge_fair inspection)
        intro hoverflow hvalid
        obtain ⟨view, hview⟩ := htraced.exists_view hoffered
        have hnone := h calls call [] offer rfl hoffered hvalid
        rw [htraced.hasRoom_iff hview, htraced.overflowed_iff hview] at hnone
        exact hnone hoverflow

/-- In such a run a stream that has overflowed keeps its items. -/
theorem frozen_of_none_fits {before after : List CollectorCall}
    (h : NoneFitsAfterOverflow inspection (before ++ after)) {stream : String}
    (hoverflow : 0 < ((History.run inspection before).ideal inspection stream).overflow) :
  ((History.run inspection (before ++ after)).ideal inspection stream).items =
      ((History.run inspection before).ideal inspection stream).items ∧
    0 < ((History.run inspection (before ++ after)).ideal inspection stream).overflow
  := by
  induction after using List.reverseRecOn with
  | nil =>
      rw [List.append_nil]
      exact ⟨rfl, hoverflow⟩
  | append_singleton after call ih =>
      rw [← List.append_assoc] at h ⊢
      obtain ⟨hitems, hstill⟩ := ih h.init
      have htraced := Traced.run inspection (before ++ after)
      unfold History.ideal at hitems hstill ⊢
      rcases ideal_run_concat inspection (before ++ after) call stream with ⟨_, hsame⟩ | ⟨offer,
        hoffered, rfl, hoffers⟩
      · rw [hsame]
        exact ⟨hitems, hstill⟩
      · rw [hoffers, Retained.retain_concat]
        constructor
        · rw [Retained.items_offer_of_not_fits (Offer.judge_fair inspection), hitems]
          intro hvalid
          obtain ⟨view, hview⟩ := htraced.exists_view hoffered
          have hnone := h (before ++ after) call [] offer rfl hoffered hvalid
          rw [htraced.hasRoom_iff hview, htraced.overflowed_iff hview] at hnone
          exact hnone hstill
        · exact hstill.trans_le (Retained.overflow_le_offer _ offer)

/-- What a stream keeps stays kept. -/
theorem prefix_ideal (inspection : Inspection) (before after : List CollectorCall)
    (stream : String) :
  ((History.run inspection before).ideal inspection stream).items <+:
    ((History.run inspection (before ++ after)).ideal inspection stream).items
  := by
  induction after using List.reverseRecOn with
  | nil =>
      rw [List.append_nil]
  | append_singleton after call ih =>
      rw [← List.append_assoc]
      apply ih.trans
      unfold History.ideal
      rcases ideal_run_concat inspection (before ++ after) call stream with ⟨_, hsame⟩ | ⟨offer,
        _, _, hoffers⟩
      · rw [hsame]
      · rw [hoffers]
        apply Retained.retain_prefix

end Prefixes

/-- Retention is an exact prefix in the run. The items of a stream are the first `k` valid ones that
were offered to it, a stream that has overflowed retains nothing more, no more items are retained
than the capacity, the ingress is the sum of the other counters and the collapsed observations, and
the retained items of all streams are in the order of the calls, which is the order of their
sequence. -/
structure ExactPrefix (inspection : Inspection) (calls : List CollectorCall) : Prop where
  firstValid : ∀ stream view, (History.run inspection calls).core.stream? stream = some view →
    ∃ k, view.items =
      ((((History.run inspection calls).offersTo stream).filter (Offer.valid inspection)).take
        k).map Offer.evidence
  frozen : ∀ before after, calls = before ++ after → ∀ stream view view',
    (History.run inspection before).core.stream? stream = some view →
    (History.run inspection calls).core.stream? stream = some view' →
    0 < view.overflow → view'.items = view.items
  bounded : ∀ stream view, (History.run inspection calls).core.stream? stream = some view →
    view.retained = view.items.length ∧ view.retained ≤ view.capacity
  counted : ∀ stream view, (History.run inspection calls).core.stream? stream = some view →
    view.ingress = view.retained + view.invalid + view.overflow +
      (History.run inspection calls).collapsedIn stream
  ordered : ∃ kept : List Offer, kept.Sublist (History.run inspection calls).offers ∧
    (kept.map Offer.sequence).Pairwise (· < ·) ∧
    (∀ offer ∈ kept, PyValue.item "collector_sequence" offer.evidence = .int offer.sequence) ∧
    ∀ stream view, (History.run inspection calls).core.stream? stream = some view →
      view.items = (kept.filter fun offer => offer.stream = stream).map Offer.evidence

/-- A stream holds no more items than its capacity. -/
theorem stream_bounded {core : CollectorCore} {stream : String} {view : StreamView}
    (h : core.stream? stream = some view) :
  view.items.length ≤ view.capacity
  := by
  unfold CollectorCore.stream? at h
  by_cases hstream : stream = "plans"
  · rw [if_pos hstream, Option.some.injEq] at h
    rw [← h]
    exact core.plans.bounded
  · rw [if_neg hstream, Option.map_eq_some_iff] at h
    obtain ⟨buffer, _, rfl⟩ := h
    exact buffer.bounded

/-- The retained items of all streams, in the order of the calls. -/
theorem exists_kept (calls : List CollectorCall) :
  ∃ kept : List Offer, kept.Sublist (History.run inspection calls).offers ∧
    (kept.map Offer.sequence).Pairwise (· < ·) ∧
    (∀ offer ∈ kept, PyValue.item "collector_sequence" offer.evidence = .int offer.sequence) ∧
    ∀ stream view, (History.run inspection calls).core.stream? stream = some view →
      view.items = (kept.filter fun offer => offer.stream = stream).map Offer.evidence
  := by
  have htraced := Traced.run inspection calls
  let history := History.run inspection calls
  let kept := history.offers.filter fun offer =>
    offer.sequence ∈ (history.ideal inspection offer.stream).items.map Offer.sequence
  have hsub : kept.Sublist history.offers := List.filter_sublist
  refine ⟨kept, hsub, htraced.ordered.sublist (hsub.map _), ?_, ?_⟩
  · intro offer _
    exact PyValue.item_setItem_self
  · intro stream view hview
    rw [(htraced.view hview).items]
    congr 1
    have hdistinct : ((history.offersTo stream).map Offer.sequence).Nodup := by
      have hordered := htraced.ordered.sublist
        ((List.filter_sublist (p := fun offer => offer.stream = stream)).map Offer.sequence)
      exact hordered.imp fun hlt => Nat.ne_of_lt hlt
    have hkept : (history.ideal inspection stream).items.Sublist (history.offersTo stream) :=
      Retained.retain_sublist _
    refine (filter_key_of_sublist hkept hdistinct).symm.trans ?_
    unfold History.offersTo kept
    rw [List.filter_filter, List.filter_filter]
    apply List.filter_congr
    intro offer _
    rw [Bool.and_comm]
    by_cases hstream : offer.stream = stream
    · subst hstream
      rfl
    · simp [hstream]

/-- Where retention is an exact prefix, nothing valid fits after an overflow: it would be
retained. -/
theorem none_fits_of_exact {calls : List CollectorCall} (hexact : ExactPrefix inspection calls) :
  NoneFitsAfterOverflow inspection calls
  := by
  have htraced := Traced.run inspection calls
  intro before call after offer hcalls hoffered hvalid hoverflowed hroom
  subst hcalls
  have hbefore := Traced.run inspection before
  obtain ⟨view, hview⟩ := hbefore.exists_view hoffered
  rw [hbefore.hasRoom_iff hview] at hroom
  have hgrow :
      ((History.run inspection (before ++ [call])).ideal inspection offer.stream).items.length =
        ((History.run inspection before).ideal inspection offer.stream).items.length + 1 := by
    unfold History.ideal
    rcases ideal_run_concat inspection before call offer.stream with ⟨hother, _⟩ | ⟨other,
      hother, _, hoffers⟩
    · rw [hoffered] at hother
      simp at hother
    · rw [hoffered, Option.some.injEq] at hother
      rw [hoffers, ← hother, Retained.retain_concat]
      exact Retained.length_offer_of_fits (Offer.judge_fair inspection) hvalid hroom
  have hkept := (prefix_ideal inspection (before ++ [call]) after offer.stream).length_le
  rw [List.append_assoc, List.singleton_append, hgrow] at hkept
  have hstream : (History.run inspection (before ++ call :: after)).core.stream? offer.stream ≠
      none := by
    rw [← Option.isSome_iff_ne_none, htraced.isSome_stream?_iff,
      ← hbefore.isSome_stream?_iff, hview]
    rfl
  obtain ⟨view', hview'⟩ := Option.ne_none_iff_exists'.mp hstream
  obtain ⟨other, hother, hpositive⟩ := hoverflowed
  have hfrozen := hexact.frozen before (call :: after) rfl offer.stream other view' hother hview'
    hpositive
  have hlength := congrArg List.length hfrozen
  rw [(htraced.view hview').length, (hbefore.view hother).length] at hlength
  omega

/-- Retention is an exact prefix exactly in the runs in which no valid item fits in a stream that
has overflowed. -/
theorem collector_retains_prefix (inspection : Inspection) (calls : List CollectorCall) :
  ExactPrefix inspection calls ↔ NoneFitsAfterOverflow inspection calls
  := by
  have htraced := Traced.run inspection calls
  constructor
  · exact none_fits_of_exact
  · intro hnone
    constructor
    · intro stream view hview
      obtain ⟨tail, htail⟩ := (prefixed_of_none_fits hnone stream).isPrefix
      use ((History.run inspection calls).ideal inspection stream).items.length
      rw [(htraced.view hview).items, ← htail, List.take_left]
    · intro before after hcalls stream view view' hview hview' hoverflow
      subst hcalls
      have hbefore := (Traced.run inspection before).view hview
      rw [hbefore.items, (htraced.view hview').items]
      rw [hbefore.overflow] at hoverflow
      rw [(frozen_of_none_fits hnone hoverflow).1]
    · intro stream view hview
      have hretained : view.retained = view.items.length := by
        rw [(htraced.view hview).retained, (htraced.view hview).length]
      exact ⟨hretained, hretained ▸ stream_bounded hview⟩
    · intro stream view hview
      have hagrees := htraced.view hview
      rw [hagrees.ingress, hagrees.retained, hagrees.invalid, hagrees.overflow]
    · exact exists_kept calls

section Sample

/-- A plan of so many poses at the origin. -/
def planOf (poses : Nat) : Evidence :=
  [(.str "frame_id", .str "map"),
    (.str "poses", .list (List.replicate poses
      (.dict [(.str "x_m", .float (some 0)), (.str "y_m", .float (some 0))]))),
    (.str "stamp_ns", .int 1)]

/-- Values of different types, which differ. -/
def plainInspection : Inspection where
  equal _ _ := false
  typeName _ := "object"

/-- A plan beyond the limit on poses overflows, whatever its poses are. -/
theorem recordPlan_plans_of_over (inspection : Inspection) {core : CollectorCore} {item : Evidence}
    {poses : List PyValue} (hposes : PyValue.item "poses" item = .list poses)
    (hover : core.plans.exceeds poses.length) :
  (core.recordPlan inspection item).2.plans.overflowCount = core.plans.overflowCount + 1 ∧
    (core.recordPlan inspection item).2.plans.items = core.plans.items ∧
    (core.recordPlan inspection item).2.plans.retainedPoseCount = core.plans.retainedPoseCount ∧
    (core.recordPlan inspection item).2.plans.messageCapacity = core.plans.messageCapacity
  := by
  have hevidence : PyValue.item "poses" (normalized item (core.sequence + 1)) = .list poses := by
    unfold normalized
    rw [PyValue.item_setItem_of_ne (by decide), hposes]
  unfold CollectorCore.recordPlan
  rw [hposes]
  dsimp only [CollectorCore.nextSequence]
  rw [if_pos hover]
  unfold PlanPrefixBuffer.append
  rw [hevidence]
  dsimp only
  rw [PlanPrefixBuffer.retain, dif_pos hover]
  exact ⟨rfl, rfl, rfl, rfl⟩

/-- After a first plan of too many poses the plans have overflowed, and a plan of one pose fits. -/
theorem hasRoom_after_over (inspection : Inspection) {item : Evidence} {poses : List PyValue}
    {offer : Offer}
    (hposes : PyValue.item "poses" item = .list poses) (hlength : planPoseCapacity < poses.length)
    (hstream : offer.stream = "plans") (hnested : offer.nested = some 1) :
  (History.run inspection [.recordPlan item]).core.Overflowed offer.stream ∧
    (History.run inspection [.recordPlan item]).core.HasRoom offer
  := by
  have hover : CollectorCore.initial.plans.exceeds poses.length :=
    .inr (hlength.trans_le (Nat.le_add_left _ _))
  obtain ⟨hoverflow, hitems, hretained, hcapacity⟩ :=
    recordPlan_plans_of_over inspection hposes hover
  change (CollectorCore.initial.recordPlan inspection item).2.Overflowed offer.stream ∧
    (CollectorCore.initial.recordPlan inspection item).2.HasRoom offer
  rw [hstream]
  constructor
  · refine ⟨_, rfl, ?_⟩
    unfold PlanPrefixBuffer.view
    dsimp only
    rw [hoverflow]
    apply Nat.succ_pos
  · refine ⟨_, by rw [hstream]; rfl, ?_, ?_⟩
    · unfold PlanPrefixBuffer.view
      dsimp only
      rw [hitems, hcapacity]
      decide
    · rw [hstream, hnested]
      change (CollectorCore.initial.recordPlan inspection item).2.plans.retainedPoseCount + 1 ≤
          planPoseCapacity
      rw [hretained]
      decide

/-- A plan of one pose is retained after a plan of 65537 poses has overflowed. -/
theorem plan_retained_after_overflow :
  ¬ ExactPrefix plainInspection [.recordPlan (planOf 65537), .recordPlan (planOf 1)]
  := by
  intro hexact
  obtain ⟨poses, hposes, hlength⟩ :
      ∃ poses, PyValue.item "poses" (planOf 65537) = .list poses ∧ poses.length = 65537 :=
    ⟨_, rfl, List.length_replicate⟩
  have hlong : planPoseCapacity < poses.length := by
    rw [hlength]
    decide
  obtain ⟨offer, hoffered, hstream, hnested, hvalid⟩ :
      ∃ offer, (CollectorCall.recordPlan (planOf 1)).offered plainInspection
          (History.run plainInspection [.recordPlan (planOf 65537)]).core = some offer ∧
        offer.stream = "plans" ∧ offer.nested = some 1 ∧ offer.valid plainInspection = true :=
    ⟨_, rfl, rfl, rfl, by decide +kernel⟩
  obtain ⟨hoverflowed, hroom⟩ :=
    hasRoom_after_over plainInspection hposes hlong hstream hnested
  exact none_fits_of_exact hexact [.recordPlan (planOf 65537)] (.recordPlan (planOf 1)) [] offer rfl
    hoffered hvalid hoverflowed hroom

end Sample

end Metrics

end RobotestLab
