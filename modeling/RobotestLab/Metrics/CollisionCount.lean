import RobotestLab.Metrics.CollisionEpisodes
import RobotestLab.Collisions.Snapshots
import RobotestLab.Collisions.SteadyStream
import RobotestLab.Library.Occurrence
import Mathlib.Data.Set.Card

/-!
# The episodes of the private stream

The episodes that the analysis counts are those that the stream of private aggregates has. An
episode with a counterpart model starts at a batch that has a pair with the model when no batch up
to 250 ms before the batch before it has one. The gate publishes the change of the active pairs at
that stamp, so neither the expiry of pairs nor the thinning of snapshots changes the count.
-/

namespace RobotestLab

namespace Collisions

namespace Ros

variable {F64 : Type}

/-! ### Counterpart models -/

/-- The model of the collision of a pair that is not the robot's. -/
def counterpartModel (first second : String) : String :=
  (scopedSegments (if isKnownRobotCollision first then second else first)).headD ""

/-- The pair is counted, for the given counterpart model. -/
def CountsFor (model : String) (p : ContactPair) : Prop :=
  classifyPair p.1 p.2 = .countable ∧ counterpartModel p.1 p.2 = model

theorem isSupportPair_eq (first second : String) :
  isSupportPair first second = true ↔
    first = kGroundCollision ∧ second ∈ kSupportCollisions ∨
    second = kGroundCollision ∧ first ∈ kSupportCollisions
  := by
  have hground : kGroundCollision ∉ kSupportCollisions := by
    decide
  unfold isSupportPair
  by_cases hfirst : first = kGroundCollision
  · simp only [hfirst, ↓reduceIte, Bool.and_eq_true, decide_eq_true_eq, List.contains_iff_mem,
      true_and, hground, and_false, or_false]
  · simp only [hfirst, ↓reduceIte, Bool.and_eq_true, decide_eq_true_eq, List.contains_iff_mem,
      false_and, false_or]

theorem isSupportPair_comm (first second : String) :
  isSupportPair first second = isSupportPair second first
  := by
  rw [Bool.eq_iff_iff, isSupportPair_eq, isSupportPair_eq, or_comm]

theorem classifyPair_comm (first second : String) :
  classifyPair first second = classifyPair second first
  := by
  unfold classifyPair
  rw [isSupportPair_comm first second]
  cases isValidScopedName first <;> cases isValidScopedName second <;>
    cases isRobotModelName first <;> cases isRobotModelName second <;>
    cases isKnownRobotCollision first <;> cases isKnownRobotCollision second <;> rfl

/-- The conditions on a pair that is counted. -/
theorem classifyPair_eq_countable_iff {first second : String} :
  classifyPair first second = .countable ↔
    isValidScopedName first = true ∧ isValidScopedName second = true ∧
    (isRobotModelName first = true → isKnownRobotCollision first = true) ∧
    (isRobotModelName second = true → isKnownRobotCollision second = true) ∧
    (isKnownRobotCollision first = !isKnownRobotCollision second) ∧
    isSupportPair first second = false
  := by
  unfold classifyPair
  cases isValidScopedName first <;> cases isValidScopedName second <;>
    cases isRobotModelName first <;> cases isRobotModelName second <;>
    cases isKnownRobotCollision first <;> cases isKnownRobotCollision second <;>
    cases isSupportPair first second <;> simp

theorem CountsFor.swap {model first second : String} (h : CountsFor model (first, second)) :
  CountsFor model (second, first)
  := by
  obtain ⟨hcountable, hmodel⟩ := h
  refine ⟨(classifyPair_comm second first).trans hcountable, ?_⟩
  obtain ⟨-, -, -, -, hone, -⟩ := classifyPair_eq_countable_iff.mp hcountable
  rw [← hmodel]
  unfold counterpartModel
  dsimp only
  rw [hone]
  cases isKnownRobotCollision second with
  | true => rfl
  | false => rfl

/-- The order of the names of a contact does not matter. -/
theorem countsFor_normalizedPair {model first second : String} :
  CountsFor model (normalizedPair first second) ↔ CountsFor model (first, second)
  := by
  unfold normalizedPair
  split
  · exact ⟨CountsFor.swap, CountsFor.swap⟩
  · rfl

/-- A contact of the message is counted for the model. -/
def Contacts.hasModel (message : Contacts F64) (model : String) : Prop :=
  ∃ contact ∈ message.contacts, CountsFor model (contact.collision1.name, contact.collision2.name)

theorem Contacts.hasModel_iff {message : Contacts F64} {model : String} :
  message.hasModel model ↔ ∃ p, message.hasPair p ∧ CountsFor model p
  := by
  constructor
  · rintro ⟨contact, hcontact, hcounts⟩
    exact ⟨contact.pair, ⟨contact, hcontact, rfl⟩, countsFor_normalizedPair.mpr hcounts⟩
  · rintro ⟨p, ⟨contact, hcontact, rfl⟩, hcounts⟩
    exact ⟨contact, hcontact, countsFor_normalizedPair.mp hcounts⟩

/-! ### Episodes of batches -/

/-- An episode with a model starts at a batch that has the model, when no batch after the first one
that is at most 250 ms older than the batch before it has. -/
def EpisodeStart (batches : List (Contacts F64)) (model : String) (stamp : Int) : Prop :=
  batches |> Occurs fun before batch => before ≠ [] ∧ batch.stamp = stamp ∧ batch.hasModel model ∧
    ∀ previous, before.getLast? = some previous → ∀ earlier ∈ before.tail,
      previous.stamp - kContactReleaseGapNs ≤ earlier.stamp → ¬ earlier.hasModel model

/-- An episode of snapshots starts at a snapshot that has the model after one that has not. -/
def PublicStart (snapshots : List (Contacts F64)) (model : String) (stamp : Int) : Prop :=
  snapshots |> Occurs fun before snapshot => snapshot.stamp = stamp ∧ snapshot.hasModel model ∧
    ∀ previous, before.getLast? = some previous → ¬ previous.hasModel model

/-- The model has an active pair. -/
def ModelActive (batches : List (Contacts F64)) (stamp : Int) (model : String) : Prop :=
  ∃ p, (activeAt batches stamp p).isSome = true ∧ CountsFor model p

theorem recordsOf_ne_nil_iff {message : Contacts F64} {p : ContactPair} :
  messageGrouping.recordsOf p message.contacts ≠ [] ↔ message.hasPair p
  := by
  rw [ne_eq, Grouping.recordsOf_eq_nil_iff]
  unfold Contacts.hasPair
  simp [messageGrouping]

/-- A pair is active when a batch that is at most 250 ms old has it. -/
theorem activeAt_isSome_iff {batches : List (Contacts F64)} {stamp : Int} {p : ContactPair}
    (h : batches.Pairwise fun batch batch' => batch.stamp < batch'.stamp) :
  (activeAt batches stamp p).isSome = true ↔
    ∃ batch ∈ batches, stamp - kContactReleaseGapNs ≤ batch.stamp ∧ batch.hasPair p
  := by
  induction batches using List.reverseRecOn with
  | nil => simp
  | append_singleton batches batch ih =>
      rw [List.pairwise_append] at h
      have ih := ih h.1
      unfold activeAt at ih ⊢
      rw [sightings_concat]
      simp only [List.mem_append, List.mem_singleton, or_and_right, exists_or, exists_eq_left]
      split
      · rename_i hnil
        have habsent : ¬ batch.hasPair p := by
          rw [← recordsOf_ne_nil_iff, not_not]
          exact hnil
        rw [ih]
        simp [habsent]
      · rename_i hne
        have hpresent : batch.hasPair p := recordsOf_ne_nil_iff.mp hne
        rw [List.getLast?_concat]
        simp only [Option.filter_some, decide_eq_true_eq, hpresent, and_true]
        constructor
        · intro hsome
          split at hsome
          · exact .inr (by omega)
          · cases hsome
        · rintro (⟨earlier, hearlier, hle, -⟩ | hle)
          · have := h.2.2 earlier hearlier batch (by simp)
            rw [if_pos (by omega)]
            rfl
          · rw [if_pos (by omega)]
            rfl

theorem modelActive_iff {batches : List (Contacts F64)} {stamp : Int} {model : String}
    (h : batches.Pairwise fun batch batch' => batch.stamp < batch'.stamp) :
  ModelActive batches stamp model ↔
    ∃ batch ∈ batches, stamp - kContactReleaseGapNs ≤ batch.stamp ∧ batch.hasModel model
  := by
  unfold ModelActive
  simp only [activeAt_isSome_iff h, Contacts.hasModel_iff]
  constructor
  · rintro ⟨p, ⟨batch, hbatch, hle, hpair⟩, hcounts⟩
    exact ⟨batch, hbatch, hle, p, hpair, hcounts⟩
  · rintro ⟨batch, hbatch, hle, p, hpair, hcounts⟩
    exact ⟨p, ⟨batch, hbatch, hle, hpair⟩, hcounts⟩

/-! ### Episodes of a run -/

section Runs

variable [Binary64Tests F64] {trace : GateTrace F64} {policy policy' : ContactStreamPolicy F64}
  {message : Contacts F64} {d : ContactGateDecision F64}

/-- The batches of a run have increasing stamps. -/
theorem Gated.ordered (h : Gated trace policy) :
  (messages trace).Pairwise fun batch batch' => batch.stamp < batch'.stamp
  := by
  have hchain := h.follows.imp fun _ _ hfollows => hfollows.1
  rw [← List.isChain_map (f := Contacts.stamp) (R := fun s s' => s < s'),
    List.isChain_iff_pairwise, List.pairwise_map] at hchain
  exact hchain

/-- The last snapshot has the models of the active set. -/
theorem Gated.hasModel_last (h : Gated trace policy) {model : String} :
  ModelActive (completedBatches trace) (completedStamp trace) model ↔
    ∃ snapshot, (snapshots trace).getLast? = some snapshot ∧ snapshot.hasModel model
  := by
  by_cases hempty : completedBatches trace = []
  · rw [hempty, h.silent hempty]
    unfold ModelActive
    simp
  · obtain ⟨snapshot, hsnapshot, hpairs, -⟩ := h.published hempty
    simp only [hsnapshot, Option.some.injEq, exists_eq_left', Contacts.hasModel_iff]
    unfold ModelActive
    simp only [hpairs]

/-- An episode starts at the last message when its model is not active before it and active
after. -/
theorem Gated.episodeStart_last (h : Gated trace policy) {init : List (Contacts F64)}
    {last : Contacts F64} (hinit : init ≠ []) (hmessages : messages trace = init ++ [last])
    {model : String} :
  (last.hasModel model ∧ ∀ previous, init.getLast? = some previous → ∀ earlier ∈ init.tail,
      previous.stamp - kContactReleaseGapNs ≤ earlier.stamp → ¬ earlier.hasModel model) ↔
    ModelActive (messages trace).tail last.stamp model ∧
      ¬ ModelActive (completedBatches trace) (completedStamp trace) model
  := by
  have hordered := h.ordered
  have hlater := (h.follows_completed hinit hmessages).1
  have hbatches : completedBatches trace = init.tail := by
    unfold completedBatches
    rw [hmessages, List.dropLast_concat]
  have hcompleted : ∃ previous, init.getLast? = some previous ∧
      completedStamp trace = previous.stamp := by
    refine ⟨init.getLast hinit, List.getLast?_eq_some_getLast hinit, ?_⟩
    unfold completedStamp
    rw [hmessages, List.dropLast_concat, List.getLast?_eq_some_getLast hinit]
    rfl
  obtain ⟨previous, hprevious, hstamp⟩ := hcompleted
  have htail : (messages trace).tail = init.tail ++ [last] := by
    rw [hmessages, List.tail_append_of_ne_nil hinit]
  have hafter : (init.tail ++ [last]).Pairwise fun batch batch' => batch.stamp < batch'.stamp := by
    rw [← htail]
    exact hordered.tail
  have hbefore := (List.pairwise_append.mp hafter).1
  rw [htail, hbatches, modelActive_iff hafter, modelActive_iff hbefore, hstamp]
  rw [hstamp] at hlater
  simp only [hprevious, Option.some.injEq, forall_eq', List.mem_append, List.mem_singleton]
  constructor
  · rintro ⟨hmodel, hnone⟩
    refine ⟨⟨last, .inr rfl, ?_, hmodel⟩, ?_⟩
    · unfold kContactReleaseGapNs
      omega
    · rintro ⟨earlier, hearlier, hle, hmodel'⟩
      exact hnone earlier hearlier hle hmodel'
  · rintro ⟨⟨batch, hbatch, hle, hmodel⟩, hnone⟩
    rcases hbatch with hbatch | rfl
    · exact absurd ⟨batch, hbatch, by omega, hmodel⟩ hnone
    · refine ⟨hmodel, ?_⟩
      intro earlier hearlier hle' hmodel'
      exact hnone ⟨earlier, hearlier, hle', hmodel'⟩

/-- An accepted message finalizes the batch before it, and the episodes that start there are those
that start at the snapshot that is published. -/
theorem Gated.start_iff (h : Gated trace policy) (hcall : policy.observe message = (d, policy'))
    (hd : d.fatal = false) {model : String} {stamp : Int}
    (ih : PublicStart (snapshots trace) model stamp ↔
      EpisodeStart (messages trace).dropLast model stamp) :
  PublicStart (snapshots (trace ++ [(.observe message, d)])) model stamp ↔
    EpisodeStart (messages (trace ++ [(.observe message, d)])).dropLast model stamp
  := by
  have hnext := h.observe hcall hd
  obtain ⟨-, houtput⟩ := h.output hcall hd
  have hsilent : (messages trace).tail = [] → snapshots trace ++ d.output.toList = [] := by
    intro htail
    rw [← snapshots_concat]
    apply hnext.silent
    rw [completedBatches_observe, htail]
  rw [snapshots_concat, messages_observe, List.dropLast_concat]
  rcases List.eq_nil_or_concat (messages trace) with hnil | ⟨init, last, hmessages⟩
  · rw [hsilent (by rw [hnil]; rfl), hnil]
    exact ⟨fun hstart => absurd hstart Occurs.not_nil, fun hstart => absurd hstart Occurs.not_nil⟩
  · rw [List.concat_eq_append] at hmessages
    have hdropLast : (messages trace).dropLast = init := by
      rw [hmessages, List.dropLast_concat]
    rw [hdropLast] at ih
    by_cases hinit : init = []
    · subst hinit
      rw [hsilent (by rw [hmessages]; rfl), hmessages]
      unfold PublicStart EpisodeStart
      rw [Occurs.concat_iff]
      simp [Occurs.not_nil]
    · have hold := @Gated.hasModel_last F64 _ trace policy h model
      have hnew := @Gated.hasModel_last F64 _ _ _ hnext model
      have hlast : (messages trace).getLast? = some last := by
        rw [hmessages, List.getLast?_concat]
      rw [completedBatches_observe, completedStamp_observe, hlast, snapshots_concat] at hnew
      change ModelActive _ last.stamp _ ↔ _ at hnew
      have hepisode : EpisodeStart (messages trace) model stamp ↔
          EpisodeStart init model stamp ∨ last.stamp = stamp ∧
            ModelActive (messages trace).tail last.stamp model ∧
            ¬ ModelActive (completedBatches trace) (completedStamp trace) model := by
        rw [← h.episodeStart_last hinit hmessages, hmessages]
        unfold EpisodeStart
        rw [Occurs.concat_iff]
        simp [hinit]
      rw [hepisode, ← ih, hnew, hold]
      cases hout : d.output with
      | none =>
          rw [Option.toList_none, List.append_nil, and_not_self_iff, and_false, or_false]
      | some snapshot =>
          obtain ⟨finalized, hfinalized, pairs, -, -, rfl⟩ := houtput snapshot hout
          rw [hlast, Option.some.injEq] at hfinalized
          subst hfinalized
          rw [Option.toList_some, List.getLast?_concat]
          unfold PublicStart
          rw [Occurs.concat_iff]
          have hnone : (∀ previous, (snapshots trace).getLast? = some previous →
              ¬ previous.hasModel model) ↔
              ¬ ∃ snapshot, (snapshots trace).getLast? = some snapshot ∧
                snapshot.hasModel model := by
            rw [not_exists]
            exact forall_congr' fun _ => not_and.symm
          rw [hnone]
          simp only [Option.some.injEq, exists_eq_left']
          exact Iff.rfl

/-- In a run in which every message is accepted, the episodes of the snapshots are those of the
finalized batches. -/
theorem publicStart_iff (h : Run ContactStreamPolicy.step {} trace policy)
    (haccepted : Accepted trace) (model : String) (stamp : Int) :
  PublicStart (snapshots trace) model stamp ↔ EpisodeStart (messages trace).dropLast model stamp
  := by
  induction trace using List.reverseRecOn generalizing policy with
  | nil =>
      exact ⟨fun hstart => absurd hstart Occurs.not_nil, fun hstart => absurd hstart Occurs.not_nil⟩
  | append_singleton trace e ih =>
      obtain ⟨call, d⟩ := e
      obtain ⟨policy₀, hbefore, hlast⟩ := Run.append_iff.mp h
      obtain ⟨policy₁, hstep, -⟩ := Run.cons_iff.mp hlast
      obtain ⟨haccepted₀, haccepted₁⟩ := accepted_append.mp haccepted
      have hgated := gated_of_run hbefore haccepted₀
      have ih := ih hbefore haccepted₀
      cases call with
      | observe message =>
          exact hgated.start_iff (Except.ok.inj hstep)
            (haccepted₁ _ List.mem_cons_self message rfl) ih
      | clock clock =>
          obtain ⟨houtput, -⟩ := observeClock_frame (Except.ok.inj hstep)
          rw [snapshots_concat, messages_clock, houtput, Option.toList_none, List.append_nil]
          exact ih

end Runs

end Ros

end Collisions

namespace Metrics

open Collisions Collisions.Ros

variable {F64 N64 : Type}

/-! ### Delivered snapshots -/

/-- The names that the manifest resolves to are those of the tables of the gate. -/
structure GateNames (names : CollisionNames) : Prop where
  robotModel : names.robotModel = "robotest"
  robotNames : ∀ name, name ∈ names.robotNames ↔ name ∈ kRobotCollisions
  supportPairs : ∀ pair, pair ∈ names.supportPairs ↔
    pair.1 ∈ kSupportCollisions ∧ pair.2 = kGroundCollision

theorem topModel_eq_ok_iff {name model : String} :
  topModel name = .ok model ↔
    isValidScopedName name = true ∧ (scopedSegments name).headD "" = model
  := by
  have hvalid : ((scopedSegments name).length < 3 || (scopedSegments name).any (· = "")) = true ↔
      isValidScopedName name = false := by
    rw [isValidScopedName_eq, Bool.or_eq_true, decide_eq_true_eq, Bool.and_eq_false_iff,
      decide_eq_false_iff_not, List.any_eq_true, List.all_eq_false]
    simp only [decide_eq_true_eq, not_not, ge_iff_le, not_le, ne_eq]
    rw [or_comm]
  unfold topModel unavailable
  dsimp only
  split
  · rename_i hinvalid
    simp [hvalid.mp hinvalid]
  · rename_i hok
    rw [hvalid, Bool.not_eq_false] at hok
    simp [hok]

variable {name : String}

/-- The first segment of a valid name is not empty. -/
theorem headD_ne_empty (h : isValidScopedName name = true) :
  (scopedSegments name).headD "" ≠ ""
  := by
  rw [isValidScopedName_eq, Bool.and_eq_true, List.all_eq_true, decide_eq_true_eq] at h
  cases hsegments : scopedSegments name with
  | nil =>
      rw [hsegments] at h
      exact absurd h.2 (by decide)
  | cons segment segments =>
      have := h.1 segment (by rw [hsegments]; exact List.mem_cons_self)
      simpa using this

theorem isRobotModelName_iff (h : isValidScopedName name = true) :
  isRobotModelName name = true ↔ (scopedSegments name).headD "" = "robotest"
  := by
  rw [isValidScopedName_eq, Bool.and_eq_true, decide_eq_true_eq] at h
  rw [isRobotModelName_eq]
  match hsegments : scopedSegments name with
  | [] =>
      rw [hsegments] at h
      exact absurd h.2 (by decide)
  | [segment] =>
      rw [hsegments] at h
      exact absurd h.2 (by simp)
  | model :: _ :: _ => simp

variable {names : CollisionNames}

theorem contains_robotNames (h : GateNames names) (name : String) :
  names.robotNames.contains name = isKnownRobotCollision name
  := by
  unfold isKnownRobotCollision
  rw [Bool.eq_iff_iff, List.contains_iff_mem, List.contains_iff_mem, h.robotNames]

theorem contains_supportPairs (h : GateNames names)
    {robot counterpart : String} (hrobot : isKnownRobotCollision robot = true) :
  names.supportPairs.contains (robot, counterpart) = isSupportPair robot counterpart
  := by
  have hground : isKnownRobotCollision kGroundCollision = false := by
    decide
  have hne : robot ≠ kGroundCollision := by
    rintro rfl
    rw [hground] at hrobot
    cases hrobot
  rw [Bool.eq_iff_iff, List.contains_iff_mem, h.supportPairs, isSupportPair_eq]
  simp only [hne, false_and, false_or]
  exact and_comm

/-- The name of a pair that is a collision of the robot. -/
def robotOf (first second : String) : String :=
  if isKnownRobotCollision first then first else second

/-- The other name. -/
def counterpartOf (first second : String) : String :=
  if isKnownRobotCollision first then second else first

/-- The classification of the analysis, by the disposition of the gate. -/
def ContactClassification.ofDisposition (first second : String) :
    PairDisposition → Except MetricError ContactClassification
  | .malformed => unavailable "contact collision name is not model::link::collision scoped"
  | .unknownRobot => unavailable "contact references an unknown rendered robot collision"
  | .unexpectedNonRobot => unavailable "manifest-v3 contact snapshot contains a non-robot pair"
  | .routine =>
      .ok (.excluded
        (if isKnownRobotCollision first && isKnownRobotCollision second then .robotInternal
        else .allowlistedSupportContact))
  | .countable =>
      .ok (.counted (robotOf first second) (counterpartOf first second)
        (counterpartModel first second))

theorem isSupportPair_of_unknown {first second : String}
    (hfirst : isKnownRobotCollision first = false)
    (hsecond : isKnownRobotCollision second = false) :
  isSupportPair first second = false
  := by
  have hsupport : ∀ name ∈ kSupportCollisions, isKnownRobotCollision name = true := by decide
  rw [← Bool.not_eq_true, isSupportPair_eq]
  rintro (⟨_, hmem⟩ | ⟨_, hmem⟩)
  · rw [hsupport second hmem] at hsecond
    cases hsecond
  · rw [hsupport first hmem] at hfirst
    cases hfirst

theorem topModel_of_not_valid (h : isValidScopedName name = false) :
  topModel name = unavailable "contact collision name is not model::link::collision scoped"
  := by
  cases htop : topModel name with
  | ok model =>
      rw [topModel_eq_ok_iff, h] at htop
      exact absurd htop.1 Bool.false_ne_true
  | error error =>
      unfold topModel at htop
      dsimp only at htop
      split at htop
      · exact htop.symm
      · cases htop

/-- The classification of a pair of the robot and a valid counterpart that is not of its model. -/
theorem classifyRobot_eq (hnames : GateNames names)
    {robot counterpart : String} (hrobot : isKnownRobotCollision robot = true)
    (hvalid : isValidScopedName counterpart = true)
    (hother : isRobotModelName counterpart = false) :
  ((if names.supportPairs.contains (robot, counterpart) then
      .ok (.excluded .allowlistedSupportContact)
    else do
      let counterpartModel ← topModel counterpart
      if counterpartModel = "" || counterpartModel = names.robotModel then
        unavailable "contact counterpart cannot be resolved"
      else .ok (.counted robot counterpart counterpartModel)) :
    Except MetricError ContactClassification) =
    if isSupportPair robot counterpart then .ok (.excluded .allowlistedSupportContact)
    else .ok (.counted robot counterpart ((scopedSegments counterpart).headD ""))
  := by
  have hresolved : ((scopedSegments counterpart).headD "" = "" ||
      (scopedSegments counterpart).headD "" = names.robotModel) = false := by
    rw [Bool.or_eq_false_iff, decide_eq_false_iff_not, decide_eq_false_iff_not, hnames.robotModel,
      ← isRobotModelName_iff hvalid, hother]
    exact ⟨headD_ne_empty hvalid, Bool.false_ne_true⟩
  rw [contains_supportPairs hnames hrobot, topModel_eq_ok_iff.mpr ⟨hvalid, rfl⟩, Except.ok_bind,
    hresolved, if_neg Bool.false_ne_true]

/-- The analysis classifies a pair as the gate does. -/
theorem classifyContactPairResolved_eq (hnames : GateNames names) (first second : String) :
  classifyContactPairResolved names (.str first) (.str second) =
    ContactClassification.ofDisposition first second (classifyPair first second)
  := by
  unfold classifyContactPairResolved PyValue.asText
  dsimp only
  cases hfirst : isValidScopedName first with
  | false =>
      rw [topModel_of_not_valid hfirst]
      unfold classifyPair
      rw [hfirst]
      rfl
  | true =>
      rw [topModel_eq_ok_iff.mpr ⟨hfirst, rfl⟩, Except.ok_bind]
      cases hsecond : isValidScopedName second with
      | false =>
          rw [topModel_of_not_valid hsecond]
          unfold classifyPair
          rw [hfirst, hsecond]
          rfl
      | true =>
          rw [topModel_eq_ok_iff.mpr ⟨hsecond, rfl⟩, Except.ok_bind]
          have hrobot : ∀ name, isValidScopedName name = true →
              decide ((scopedSegments name).headD "" = names.robotModel) =
                isRobotModelName name := by
            intro name hname
            rw [Bool.eq_iff_iff, decide_eq_true_eq, hnames.robotModel, isRobotModelName_iff hname]
          unfold classifyModels classifyPair
          rw [hrobot first hfirst, hrobot second hsecond, contains_robotNames hnames,
            contains_robotNames hnames, hfirst, hsecond]
          unfold ContactClassification.ofDisposition robotOf counterpartOf counterpartModel
          dsimp only
          cases hknown : isKnownRobotCollision first with
          | true =>
              cases hknown' : isKnownRobotCollision second with
              | true => simp
              | false =>
                  cases hmodel : isRobotModelName second with
                  | true => simp
                  | false =>
                      simp only [Bool.not_true, Bool.not_false, Bool.and_false, Bool.false_and,
                        Bool.or_self, Bool.false_eq_true, if_false, if_true]
                      rw [classifyRobot_eq hnames hknown hsecond hmodel]
                      cases isSupportPair first second with
                      | true => rfl
                      | false => rfl
          | false =>
              cases hknown' : isKnownRobotCollision second with
              | true =>
                  cases hmodel : isRobotModelName first with
                  | true => simp
                  | false =>
                      simp only [Bool.not_true, Bool.not_false, Bool.and_false, Bool.and_true,
                        Bool.or_self, Bool.false_eq_true, if_false]
                      rw [classifyRobot_eq hnames hknown' hfirst hmodel,
                        isSupportPair_comm second first]
                      cases isSupportPair first second with
                      | true => rfl
                      | false => rfl
              | false =>
                  rw [isSupportPair_of_unknown hknown hknown']
                  cases isRobotModelName first with
                  | true => simp
                  | false =>
                      cases isRobotModelName second with
                      | true => simp
                      | false => simp

/-- The analysis counts the pairs that the gate counts, for the same model. -/
theorem classify_counted_iff (hnames : GateNames names) {first second model : String} :
  (∃ robot counterpart, classifyContactPairResolved names (.str first) (.str second) =
      .ok (.counted robot counterpart model)) ↔
    CountsFor model (first, second)
  := by
  rw [classifyContactPairResolved_eq hnames]
  unfold CountsFor
  dsimp only
  cases classifyPair first second with
  | countable =>
      simp [ContactClassification.ofDisposition]
  | _ => simp [ContactClassification.ofDisposition, unavailable]

/-- A delivered record has the names of the contact. -/
def DeliveredContact (contact : Contact F64) (record : PyValue) : Prop :=
  ∃ items, record = .dict items ∧ PyValue.item "collision1" items = .str contact.collision1.name ∧
    PyValue.item "collision2" items = .str contact.collision2.name

/-- A snapshot and the evidence that it is delivered as. -/
structure Delivered (snapshot : Contacts F64) (message : Evidence) : Prop where
  stamp : PyValue.item "stamp_ns" message = .int snapshot.stamp
  contacts : ∃ records, PyValue.item "contacts" message = .list records ∧
    List.Forall₂ DeliveredContact snapshot.contacts records

theorem contactModel_eq_some_iff (hnames : GateNames names)
    {contact : Contact F64} {record : PyValue} (h : DeliveredContact contact record)
    {model : String} :
  contactModel names record = some model ↔
    CountsFor model (contact.collision1.name, contact.collision2.name)
  := by
  obtain ⟨items, rfl, hfirst, hsecond⟩ := h
  rw [← classify_counted_iff hnames]
  unfold contactModel PyValue.asMapping
  rw [Option.bind_some, hfirst, hsecond]
  split
  · rename_i counterpartModel heq
    rw [heq, Option.some.injEq]
    constructor
    · rintro rfl
      exact ⟨_, _, rfl⟩
    · rintro ⟨robot, counterpart, heq'⟩
      cases heq'
      rfl
  · rename_i hnot
    constructor
    · intro hnone
      cases hnone
    · rintro ⟨robot, counterpart, heq⟩
      exact absurd heq (hnot _ _ _)

theorem Delivered.mem_modelsOf (hnames : GateNames names)
    {snapshot : Contacts F64} {message : Evidence} (h : Delivered snapshot message)
    {model : String} :
  model ∈ modelsOf names message ↔ snapshot.hasModel model
  := by
  obtain ⟨records, hrecords, hcontacts⟩ := h.contacts
  unfold modelsOf contactsOf Contacts.hasModel
  rw [hrecords, List.mem_filterMap]
  dsimp only
  generalize snapshot.contacts = contacts at hcontacts
  clear hrecords h
  induction hcontacts with
  | nil => simp
  | cons hhead _ ih =>
      simp only [List.mem_cons, exists_eq_or_imp, contactModel_eq_some_iff hnames hhead]
      rw [ih]

theorem Delivered.stampOf_eq {snapshot : Contacts F64} {message : Evidence}
    (h : Delivered snapshot message) :
  messageStamp message = snapshot.stamp
  := by
  unfold messageStamp
  rw [h.stamp]
  rfl

/-- The episodes of the delivered snapshots are those of the snapshots. -/
theorem snapshotStart_iff (hnames : GateNames names)
    {snapshots : List (Contacts F64)} {messages : List Evidence}
    (h : List.Forall₂ Delivered snapshots messages) (model : String) (stamp : Int) :
  SnapshotStart names messages model stamp ↔ PublicStart snapshots model stamp
  := by
  symm
  apply Occurs.congr_forall₂ h
  intro before before' snapshot message hbefore hdelivered
  rw [hdelivered.stampOf_eq, hdelivered.mem_modelsOf hnames]
  have hprevious : (∀ previous, before.getLast? = some previous → ¬ previous.hasModel model) ↔
      ∀ previous, before'.getLast? = some previous → model ∉ modelsOf names previous := by
    have hlast := List.Forall₂.getLast? hbefore
    generalize before.getLast? = last at hlast
    generalize before'.getLast? = last' at hlast
    cases hlast with
    | none => simp
    | some hlast => simp [hlast.mem_modelsOf hnames]
  rw [hprevious]

/-! ### The count -/

section Count

variable [Binary64Tests F64] {trace : GateTrace F64} {policy : ContactStreamPolicy F64}

/-- Snapshots have stamps of finalized batches. -/
theorem stamp_le_completed (h : Gated trace policy) {snapshot : Contacts F64}
    (hmem : snapshot ∈ snapshots trace) :
  snapshot.stamp ≤ completedStamp trace
  := by
  have hbatches : completedBatches trace ≠ [] := by
    intro hempty
    rw [h.silent hempty] at hmem
    cases hmem
  obtain ⟨last, hlast, -, hle, -⟩ := h.published hbatches
  have hchain := h.spaced.imp fun _ _ hspaced => hspaced.1
  rw [← List.isChain_map (f := Contacts.stamp) (R := fun s s' => s < s'),
    List.isChain_iff_pairwise, List.pairwise_map] at hchain
  rcases List.eq_nil_or_concat (snapshots trace) with hnil | ⟨init, last', hconcat⟩
  · rw [hnil] at hmem
    cases hmem
  · rw [List.concat_eq_append] at hconcat
    rw [hconcat] at hlast hmem hchain
    rw [List.getLast?_concat, Option.some.injEq] at hlast
    subst hlast
    rcases List.mem_append.mp hmem with hmem | hmem
    · exact ((List.pairwise_append.mp hchain).2.2 snapshot hmem last' (by simp)).le.trans hle
    · rw [List.mem_singleton.mp hmem]
      exact hle

/-- Up to a stamp before a finalized batch, the pending message starts no episode. -/
theorem episodeStart_dropLast (h : Gated trace policy) {model : String} {stamp : Int}
    (hstamp : stamp < completedStamp trace) :
  EpisodeStart (messages trace).dropLast model stamp ↔ EpisodeStart (messages trace) model stamp
  := by
  rcases List.eq_nil_or_concat (messages trace) with hnil | ⟨init, last, hconcat⟩
  · rw [hnil]
    rfl
  · rw [List.concat_eq_append] at hconcat
    rw [hconcat, List.dropLast_concat]
    unfold EpisodeStart
    rw [Occurs.concat_iff]
    constructor
    · exact .inl
    · rintro (hstart | ⟨hinit, rfl, -⟩)
      · exact hstart
      · have := (h.follows_completed hinit hconcat).1
        omega

omit [Binary64Tests F64] in
/-- A batch is at one place only. -/
theorem before_unique {batches : List (Contacts F64)}
    (h : batches.Pairwise fun batch batch' => batch.stamp < batch'.stamp)
    {before after before' after' : List (Contacts F64)} {batch batch' : Contacts F64}
    (hsplit : batches = before ++ batch :: after) (hsplit' : batches = before' ++ batch' :: after')
    (hstamp : batch.stamp = batch'.stamp) :
  before = before'
  := by
  have hlater := h
  rw [hsplit, List.pairwise_append] at hlater
  have hlater' := h
  rw [hsplit', List.pairwise_append] at hlater'
  rcases List.append_eq_append_iff.mp (hsplit.symm.trans hsplit') with
    ⟨between, rfl, hbetween⟩ | ⟨between, rfl, hbetween⟩
  · cases between with
    | nil => rw [List.append_nil]
    | cons first between =>
        obtain ⟨rfl, -⟩ := List.cons.inj hbetween
        have := hlater'.2.2 batch (by simp) batch' List.mem_cons_self
        omega
  · cases between with
    | nil => rw [List.append_nil]
    | cons first between =>
        obtain ⟨rfl, -⟩ := List.cons.inj hbetween
        have := hlater.2.2 batch' (by simp) batch List.mem_cons_self
        omega

theorem length_eq_one {A : Type} {l : List A} {a : A} (hnodup : l.Nodup) (hmem : a ∈ l)
    (h : ∀ x ∈ l, x = a) :
  l.length = 1
  := by
  rw [List.eq_replicate_iff.mpr ⟨rfl, h⟩, List.nodup_replicate] at hnodup
  have := List.length_pos_of_mem hmem
  omega

/-- The episodes that the analysis of the delivered snapshots counts are those that start during the
action in the stream of accepted aggregates: a contact in a single batch is one episode, and an
episode does not start again when its contact moves to another pair of the same counterpart. -/
theorem collision_count_episodes [PyFloat N64] {Q : Type}
    (h : Run ContactStreamPolicy.step {} trace policy) (haccepted : Accepted trace)
    {names : CollisionNames} (hnames : GateNames names) {delivered : List Evidence}
    (hdelivered : List.Forall₂ Delivered (snapshots trace) delivered)
    {qualification : Except MetricError Q} {start terminal drain : Int}
    {analysis : CollisionAnalysis N64 Q}
    (hanalysis : analyzeCollisions qualification (.ok names) delivered (.int start) (.int terminal)
      (.int drain) = .ok analysis) :
  analysis.collisionCount = Set.ncard { e : String × Int |
    (start ≤ e.2 ∧ e.2 ≤ terminal) ∧ EpisodeStart (messages trace) e.1 e.2 } ∧
  (∀ model batch, batch ∈ (messages trace).tail → start ≤ batch.stamp → batch.stamp ≤ terminal →
    batch.hasModel model →
    (∀ other ∈ (messages trace).tail, other.hasModel model → other.stamp = batch.stamp) →
    (analysis.events.filter fun event => event.counterpartModel = model).length = 1) ∧
  (∀ model before previous batch after, before ≠ [] →
    messages trace = before ++ previous :: batch :: after → previous.hasModel model →
    ∀ event ∈ analysis.events, event.counterpartModel = model →
      event.startStampNs ≠ batch.stamp)
  := by
  have hgated := gated_of_run h haccepted
  obtain ⟨hcount, hnodup, hkeys, hlt, message, hmessage, hstamp⟩ := analyzeCollisions_spec hanalysis
  have hcompleted : drain ≤ completedStamp trace := by
    obtain ⟨snapshot, hsnapshot, hdelivered'⟩ := List.Forall₂.exists_mem hdelivered hmessage
    rw [← hstamp, hdelivered'.stampOf_eq]
    exact stamp_le_completed hgated hsnapshot
  have hstarts : ∀ model stamp, (model, stamp) ∈ (analysis.events.map fun event => event.key) ↔
      (start ≤ stamp ∧ stamp ≤ terminal) ∧ EpisodeStart (messages trace) model stamp := by
    intro model stamp
    rw [hkeys, snapshotStart_iff hnames hdelivered, publicStart_iff h haccepted]
    apply and_congr_right
    rintro ⟨-, hle⟩
    exact episodeStart_dropLast hgated (by omega)
  refine ⟨?_, ?_, ?_⟩
  · have hset : { e : String × Int | (start ≤ e.2 ∧ e.2 ≤ terminal) ∧
        EpisodeStart (messages trace) e.1 e.2 } =
        ((analysis.events.map fun event => event.key).toFinset : Set (String × Int)) := by
      ext ⟨model, stamp⟩
      rw [List.coe_toFinset]
      exact (hstarts model stamp).symm
    rw [hset, Set.ncard_coe_finset, List.toFinset_card_of_nodup hnodup, List.length_map, hcount]
  · intro model batch hbatch hstart hterminal hmodel honly
    have hsingle : ∀ stamp, EpisodeStart (messages trace) model stamp ↔ stamp = batch.stamp := by
      intro stamp
      constructor
      · rintro ⟨before, other, after, hsplit, hbefore, rfl, hother, -⟩
        apply honly other _ hother
        rw [hsplit, List.tail_append_of_ne_nil hbefore]
        simp
      · rintro rfl
        obtain ⟨init, after, htail⟩ := List.append_of_mem hbatch
        cases hmessages : messages trace with
        | nil =>
            rw [hmessages] at hbatch
            cases hbatch
        | cons first rest =>
            rw [hmessages, List.tail_cons] at htail
            have hordered := hgated.ordered
            rw [hmessages, htail, ← List.cons_append, List.pairwise_append] at hordered
            refine ⟨first :: init, batch, after,
              by rw [htail, List.cons_append], by simp, rfl, hmodel, ?_⟩
            intro previous _ earlier hearlier _ hmodel'
            have heq := honly earlier (by
              rw [hmessages, List.tail_cons, htail]
              exact List.mem_append_left _ hearlier) hmodel'
            have hlt := hordered.2.2 earlier (List.mem_cons_of_mem _ hearlier) batch
              List.mem_cons_self
            omega
    have hown : ∀ event ∈ analysis.events, event.counterpartModel = model →
        event.startStampNs = batch.stamp := by
      intro event hevent hcounterpart
      have hmem : (model, event.startStampNs) ∈ (analysis.events.map fun event => event.key) := by
        rw [List.mem_map]
        exact ⟨event, hevent, by rw [← hcounterpart]; rfl⟩
      exact (hsingle _).mp ((hstarts _ _).mp hmem).2
    obtain ⟨event, hevent, hkey⟩ := List.mem_map.mp
      ((hstarts model batch.stamp).mpr ⟨⟨hstart, hterminal⟩, (hsingle _).mpr rfl⟩)
    rw [← List.length_map (f := fun event => event.key)]
    apply length_eq_one (a := (model, batch.stamp))
    · exact hnodup.sublist (List.filter_sublist.map _)
    · rw [List.mem_map]
      refine ⟨event, List.mem_filter.mpr ⟨hevent, ?_⟩, hkey⟩
      exact decide_eq_true (Prod.mk.inj hkey).1
    · intro key hmem
      obtain ⟨event', hevent', rfl⟩ := List.mem_map.mp hmem
      obtain ⟨hmem', hcounterpart⟩ := List.mem_filter.mp hevent'
      have hcounterpart := of_decide_eq_true hcounterpart
      exact Prod.ext hcounterpart (hown event' hmem' hcounterpart)
  · intro model before previous batch after hbefore hsplit hmodel event hevent hcounterpart hstart
    have hmem : (model, batch.stamp) ∈ (analysis.events.map fun event => event.key) := by
      rw [List.mem_map]
      exact ⟨event, hevent, by rw [← hcounterpart, ← hstart]; rfl⟩
    obtain ⟨-, before', batch', after', hsplit', -, hstamp', -, hnone⟩ := (hstarts _ _).mp hmem
    rw [List.append_cons] at hsplit
    have hbefore' := before_unique hgated.ordered hsplit' hsplit hstamp'
    rw [hbefore', List.tail_append_of_ne_nil hbefore] at hnone
    refine hnone previous List.getLast?_concat previous (by simp) ?_ hmodel
    unfold kContactReleaseGapNs
    omega

end Count

/-! ### A run -/

/-- The names of the tables of the gate. -/
def gateNames : CollisionNames where
  robotModel := "robotest"
  robotNames := kRobotCollisions
  supportPairs := kSupportCollisions.map fun name => (name, kGroundCollision)

theorem gateNames_gateNames :
  GateNames gateNames
  := by
  constructor
  · rfl
  · exact fun name => Iff.rfl
  · rintro ⟨robot, counterpart⟩
    unfold gateNames
    simp only [List.mem_map, Prod.mk.injEq]
    constructor
    · rintro ⟨name, hmem, rfl, rfl⟩
      exact ⟨hmem, rfl⟩
    · rintro ⟨hmem, rfl⟩
      exact ⟨robot, hmem, rfl, rfl⟩

/-- The evidence of a snapshot that is delivered at once. -/
def deliver (snapshot : Contacts ℚ) (sequence : Nat) : Evidence :=
  [(.str "stamp_ns", .int snapshot.stamp),
    (.str "contacts", .list (snapshot.contacts.map fun contact =>
      .dict [(.str "collision1", .str contact.collision1.name),
        (.str "collision2", .str contact.collision2.name),
        (.str "maximum_normal_force_n", .none), (.str "maximum_penetration_depth_m", .none)])),
    (.str "collector_sequence", .int (sequence + 1)), (.str "frame_id", .str ""),
    (.str "delivery_clock_stamp_ns", .int snapshot.stamp),
      (.str "delivery_clock_offset_ns", .int 0)]

def deliverAll (snapshots : List (Contacts ℚ)) : List Evidence :=
  snapshots.zipIdx.map fun entry => deliver entry.1 entry.2

theorem delivered_deliverAll (snapshots : List (Contacts ℚ)) :
  List.Forall₂ Delivered snapshots (deliverAll snapshots)
  := by
  have hdelivered : ∀ (snapshot : Contacts ℚ) sequence,
      Delivered snapshot (deliver snapshot sequence) := by
    intro snapshot sequence
    refine ⟨rfl, _, rfl, ?_⟩
    rw [List.forall₂_map_right_iff]
    exact List.forall₂_same.mpr fun contact _ => ⟨_, rfl, rfl, rfl⟩
  unfold deliverAll
  rw [List.forall₂_map_right_iff]
  have hfst : snapshots = snapshots.zipIdx.map Prod.fst := (List.zipIdx_map_fst 0 snapshots).symm
  conv => enter [2]; rw [hfst]
  rw [List.forall₂_map_left_iff]
  exact List.forall₂_same.mpr fun entry _ => hdelivered _ _

/-- The stamp after some periods. -/
def period (k : Nat) : Int := kPrivateContactAggregatePeriodNs * k

/-- The message after some periods. -/
def periodMessage (counterpart : String) (k : Nat) : Contacts ℚ :=
  sampleMessage (UInt32.ofNat (20000000 * k)) counterpart

theorem stampNs_period (counterpart : String) {k : Nat} (h : k < 50) :
  stampNs (periodMessage counterpart k).header = some (period k)
  := by
  have hlt : 20000000 * k < 1000000000 := by omega
  have hperiod : period k = ((20000000 * k : Nat) : Int) := by
    rw [period, kPrivateContactAggregatePeriodNs, Int.natCast_mul]
    rfl
  rw [hperiod]
  apply stampNs_eq rfl _ hlt
  apply UInt32.toNat_ofNat_of_lt'
  exact hlt.trans (by decide)

def shelfName : String := "shelf::link::collision"

def wallName : String := "wall::link::collision"

def shelfPair : ContactPair := ("robotest::imu_link::imu_link_collision_collision", shelfName)

def shelfGroup : RecordGroup (Contact ℚ) where
  stringBytes := 70
  records := [{
    collision1 := { name := "robotest::imu_link::imu_link_collision_collision" }
    collision2 := { name := shelfName }
    positions := [{ x := 1, y := 0, z := 0 }] }]

def shelfValidated : ValidatedMessage ℚ where
  pairs := (∅ : PairMap _).insert shelfPair shelfGroup
  recordCount := 1
  stringBytes := 140

theorem validateMessage_shelf (nanosec : UInt32) :
  validateMessage (sampleMessage nanosec shelfName) = .ok shelfValidated
  := by
  rfl

theorem fits_shelf :
  Fits shelfPair shelfGroup
  where
  records := by decide
  strings := by decide +kernel
  nonempty := nofun

/-- The gate with the shelf, when the message of a period is pending. -/
def shelfPolicy (seen k : Nat) (forwarded : Int) : ContactStreamPolicy ℚ :=
  steadyPolicy shelfPair shelfGroup (ContactStreamPolicy.pendingOf
    (periodMessage shelfName k) shelfValidated) (period seen) (period k) forwarded

theorem period_lt {k l : Nat} (h : l = k + 1) :
  period k < period l ∧ period l - period k ≤ kPrivateContactAggregatePeriodNs
  := by
  rw [period, period, kPrivateContactAggregatePeriodNs, h, Int.natCast_succ]
  omega

theorem period_pos {k : Nat} (h : 0 < k) :
  0 < period k
  := by
  rw [period, kPrivateContactAggregatePeriodNs]
  omega

theorem step_shelf {seen k l : Nat} {forwarded : Int} (hl : l = k + 1) (hlt : l < 50)
    (hgap : period k - forwarded < kContactHeartbeatPeriodNs) :
  (shelfPolicy seen k forwarded).observe (periodMessage shelfName l)
    = (steadyDecision shelfGroup, shelfPolicy k l forwarded)
  := observe_steady fits_shelf rfl rfl (stampNs_period shelfName (by omega)) hgap
    (stampNs_period shelfName hlt)
    (period_pos (by omega)) rfl (period_lt hl) (validateMessage_shelf _)

theorem heartbeat_shelf {seen k l : Nat} {forwarded : Int} (hl : l = k + 1) (hlt : l < 50)
    (hgap : period k - forwarded = kContactHeartbeatPeriodNs) :
  (shelfPolicy seen k forwarded).observe (periodMessage shelfName l)
    = (publishedDecision shelfGroup (periodMessage shelfName k).header .steadyStateHeartbeat,
      shelfPolicy k l (period k))
  := observe_heartbeat fits_shelf rfl rfl (stampNs_period shelfName (by omega)) hgap.ge
    (by rw [hgap]; decide)
    (stampNs_period shelfName hlt) (period_pos (by omega)) rfl (period_lt hl)
      (validateMessage_shelf _)

/-- The gate with a first message. -/
def firstPolicy : ContactStreamPolicy ℚ where
  pendingBatch := some (ContactStreamPolicy.pendingOf (periodMessage shelfName 1) shelfValidated)
  lastRawStampNs := some (period 1)

/-- The gate that is synchronized. -/
def secondPolicy : ContactStreamPolicy ℚ :=
  openPolicy (ContactStreamPolicy.pendingOf (periodMessage shelfName 2) shelfValidated) (period 2)

theorem observe_first :
  ({} : ContactStreamPolicy ℚ).observe (periodMessage shelfName 1) = ({}, firstPolicy)
  := by
  have hfinalized : ({} : ContactStreamPolicy ℚ).finalizePending = ({}, {}) := rfl
  rw [observe_eq (stampNs_period shelfName (by decide)) (period_pos (by decide)) rfl _
    (validateMessage_shelf _) hfinalized rfl]
  · rfl
  · intro last hlast
    cases hlast

theorem observe_second :
  firstPolicy.observe (periodMessage shelfName 2) = ({}, secondPolicy)
  := by
  have hfinalized : firstPolicy.finalizePending
      = ({}, { firstPolicy with pendingBatch := none, synchronized := true }) := by
    unfold ContactStreamPolicy.finalizePending
    dsimp only [firstPolicy, ContactStreamPolicy.pendingOf]
    rw [stampNs_period shelfName (by decide)]
    rfl
  rw [observe_eq (stampNs_period shelfName (by decide)) (period_pos (by decide)) rfl _
    (validateMessage_shelf _) hfinalized rfl]
  · rfl
  · intro last hlast
    rw [← Option.some.inj hlast]
    exact period_lt rfl

theorem observe_third :
  secondPolicy.observe (periodMessage shelfName 3)
    = (publishedDecision shelfGroup (periodMessage shelfName 2).header .initialSnapshot,
      shelfPolicy 2 3 (period 2))
  := by
  have hfinalized : secondPolicy.finalizePending = _ :=
    finalizePending_open fits_shelf rfl rfl (stampNs_period shelfName (by decide))
  rw [observe_eq (stampNs_period shelfName (by decide)) (period_pos (by decide)) rfl _
    (validateMessage_shelf _) hfinalized rfl]
  · rfl
  · intro last hlast
    rw [← Option.some.inj hlast]
    exact period_lt rfl

/-- The messages while nothing changes. -/
def steadyTrace (k n : Nat) : GateTrace ℚ :=
  (List.range' k n).map fun l => (.observe (periodMessage shelfName l), steadyDecision shelfGroup)

theorem run_steady {seen k n : Nat} {forwarded : Int} (hlt : k + n < 50)
    (hgap : ∀ m < k + n, period m - forwarded < kContactHeartbeatPeriodNs) :
  ∃ seen', Run ContactStreamPolicy.step (shelfPolicy seen k forwarded) (steadyTrace (k + 1) n)
    (shelfPolicy seen' (k + n) forwarded)
  := by
  induction n generalizing seen k with
  | zero => exact ⟨seen, Run.nil _⟩
  | succ n ih =>
      have hadd : k + (n + 1) = k + 1 + n := by omega
      rw [hadd] at hlt hgap ⊢
      obtain ⟨seen', hrun⟩ := @ih k (k + 1) hlt hgap
      exact ⟨seen', Run.cons (congrArg Except.ok
        (step_shelf rfl (by omega) (hgap k (by omega)))) hrun⟩

def wallGroup : RecordGroup (Contact ℚ) where
  stringBytes := 69
  records := [{
    collision1 := { name := "robotest::imu_link::imu_link_collision_collision" }
    collision2 := { name := wallName }
    positions := [{ x := 1, y := 0, z := 0 }] }]

def wallValidated : ValidatedMessage ℚ where
  pairs := (∅ : PairMap _).insert ("robotest::imu_link::imu_link_collision_collision",
    wallName) wallGroup
  recordCount := 1
  stringBytes := 138

theorem validateMessage_wall (nanosec : UInt32) :
  validateMessage (sampleMessage nanosec wallName) = .ok wallValidated
  := by
  rfl

/-- The gate with a message with the wall. -/
def wallPolicy : ContactStreamPolicy ℚ :=
  steadyPolicy shelfPair shelfGroup (ContactStreamPolicy.pendingOf
    (periodMessage wallName 15) wallValidated) (period 14) (period 15) (period 12)

theorem observe_wall {seen : Nat} :
  (shelfPolicy seen 14 (period 12)).observe (periodMessage wallName 15) =
    (steadyDecision shelfGroup, wallPolicy)
  := observe_steady fits_shelf rfl rfl (stampNs_period shelfName (by decide)) (by decide)
    (stampNs_period wallName (by decide)) (period_pos (by decide)) rfl (period_lt rfl)
      (validateMessage_wall _)

/-- A contact with a shelf that ends after 280 ms, when one with a wall starts. -/
def wholeTrace : GateTrace ℚ :=
  [(.observe (periodMessage shelfName 1), {}), (.observe (periodMessage shelfName 2), {}),
    (.observe (periodMessage shelfName 3),
      publishedDecision shelfGroup (periodMessage shelfName 2).header
      .initialSnapshot)] ++ (steadyTrace 4 9 ++
  [(.observe (periodMessage shelfName 13),
    publishedDecision shelfGroup (periodMessage shelfName 12).header
      .steadyStateHeartbeat),
    (.observe (periodMessage shelfName 14), steadyDecision shelfGroup),
    (.observe (periodMessage wallName 15), steadyDecision shelfGroup),
    (.observe (periodMessage wallName 16), (wallPolicy.observe (periodMessage wallName 16)).1)])

theorem run_wholeTrace :
  Run ContactStreamPolicy.step {} wholeTrace (wallPolicy.observe (periodMessage wallName 16)).2
  := by
  obtain ⟨seen, hsteady⟩ := @run_steady 2 3 9 (period 2) (by decide) (by decide)
  apply Run.cons (congrArg Except.ok observe_first)
  apply Run.cons (congrArg Except.ok observe_second)
  apply Run.cons (congrArg Except.ok observe_third)
  apply hsteady.append
  apply Run.cons (congrArg Except.ok (heartbeat_shelf rfl (by decide) (by decide)))
  apply Run.cons (congrArg Except.ok (step_shelf rfl (by decide) (by decide)))
  apply Run.cons (congrArg Except.ok observe_wall)
  apply Run.cons rfl
  apply Run.nil

/-- The analysis of the snapshots, for an action at the first of them. -/
def sampleCollisions (trace : GateTrace ℚ) : Except MetricError (CollisionAnalysis ℚ Unit) :=
  analyzeCollisions (.ok ()) (.ok gateNames) (deliverAll (snapshots trace)) (.int 40000000)
    (.int 41000000) (.int 300000000)

theorem count_wholeTrace :
  (wholeTrace.all fun e => !e.2.fatal) = true ∧
    (sampleCollisions wholeTrace).toOption.map (fun analysis => analysis.collisionCount) = some 1
  := by
  constructor
  · decide +kernel
  · decide +kernel

/-- The contact with the shelf is counted, and the one with the wall starts after the action. -/
theorem collision_count_episodes_sample :
  ∃ (trace : GateTrace ℚ) (policy : ContactStreamPolicy ℚ) (analysis : CollisionAnalysis ℚ Unit),
    Run ContactStreamPolicy.step {} trace policy ∧ Accepted trace ∧
    sampleCollisions trace = .ok analysis ∧ analysis.collisionCount = 1 ∧
    analysis.collisionCount = Set.ncard { e : String × Int |
      (40000000 ≤ e.2 ∧ e.2 ≤ 41000000) ∧ EpisodeStart (messages trace) e.1 e.2 }
  := by
  obtain ⟨hquiet, hcount⟩ := count_wholeTrace
  have haccepted : Accepted wholeTrace := by
    intro e he message _
    simpa using List.all_eq_true.mp hquiet e he
  cases hanalysis : sampleCollisions wholeTrace with
  | error e =>
      rw [hanalysis] at hcount
      cases hcount
  | ok analysis =>
      rw [hanalysis] at hcount
      exact ⟨wholeTrace, _, analysis, run_wholeTrace, haccepted, hanalysis, Option.some.inj hcount,
        (collision_count_episodes run_wholeTrace haccepted gateNames_gateNames
          (delivered_deliverAll (snapshots wholeTrace)) hanalysis).1⟩

end Metrics

end RobotestLab
