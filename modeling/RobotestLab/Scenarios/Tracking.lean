import RobotestLab.Scenarios.Collecting

/-!
# The nodes refine the collector

A node `Tracks` what is collected when its counters, numbers and stamps are those of the
observations. A callback that is not refused takes the node along with the collector, and one that
is refused latches an error of the cleanup (`Listens`). Both nodes listen.
-/

namespace RobotestLab

namespace Scenarios

/-! ### Observations of an origin -/

def ofOrigin (origin : Origin) (os : List Observation) : List Observation :=
  os.filter (·.origin = origin)

def latest (origin : Origin) (os : List Observation) : Option Observation :=
  (ofOrigin origin os).getLast?

def earliest (origin : Origin) (os : List Observation) : Option Observation :=
  (ofOrigin origin os).head?

@[simp]
theorem ofOrigin_concat_self (os : List Observation) (o : Observation) :
  ofOrigin o.origin (os ++ [o]) = ofOrigin o.origin os ++ [o]
  := by
  simp [ofOrigin]

theorem ofOrigin_concat_other {origin : Origin} (os : List Observation) {o : Observation}
    (h : o.origin ≠ origin) :
  ofOrigin origin (os ++ [o]) = ofOrigin origin os
  := by
  simp [ofOrigin, h]

theorem earliest_concat (origin : Origin) (os : List Observation) (stampNs : Int) (sequence : Nat) :
  earliest origin (os ++ [⟨⟨origin, stampNs⟩, sequence⟩]) =
    some ((earliest origin os).getD ⟨⟨origin, stampNs⟩, sequence⟩)
  := by
  simp only [earliest, ofOrigin, List.filter_append, List.head?_append]
  cases (os.filter (·.origin = origin)).head? with
  | none => simp
  | some o => rfl

/-! ### Tracking -/

variable {F X : Type}

/-- The counters, the numbers and the stamps of a node are those of the observations after the
response. -/
structure Counts (os : List Observation) (node : Node F X) : Prop where
  heartbeatCount : node.postDeleteEntityMessageCount = (ofOrigin .heartbeat os).length
  heartbeatSequence :
    node.postDeleteEntityLatestSequence = (latest .heartbeat os).map (·.sequence)
  heartbeatStamp : node.postDeleteEntityLatestSimStampNs = (latest .heartbeat os).map (·.stampNs)
  poseCount : node.postDeletePoseCount = (ofOrigin .pose os).length
  poseFirstSequence : node.postDeletePoseFirstSequence = (earliest .pose os).map (·.sequence)
  poseFirstStamp : node.postDeletePoseFirstSimStampNs = (earliest .pose os).map (·.stampNs)
  poseLatestSequence : node.postDeletePoseLatestSequence = (latest .pose os).map (·.sequence)
  poseLatestStamp : node.postDeletePoseLatestSimStampNs = (latest .pose os).map (·.stampNs)

/-- The observations are in order: their numbers increase from the response on, and the stamps of
each stream do not decrease. -/
structure InOrder (response : Nat) (os : List Observation) (node : Node F X) : Prop where
  sequences : os.Pairwise fun a b => a.sequence < b.sequence
  stamps : os.Pairwise fun a b => a.origin = b.origin → a.stampNs ≤ b.stampNs
  positive : ∀ o ∈ os, 1 ≤ o.stampNs
  numbers : ∀ o ∈ os, response < o.sequence ∧ o.sequence ≤ node.sequence
  heartbeats : ∀ o ∈ os, o.origin = .heartbeat →
    ∃ s ∈ node.lastEntityPoseHeartbeatStampNs, o.stampNs ≤ s
  poses : ∀ o ∈ os, o.origin = .pose → ∃ s ∈ node.lastPoseStampNs, o.stampNs ≤ s

structure Tracks (c : Collected) (node : Node F X) : Prop where
  sequence : node.sequence = c.number
  clock : node.currentSimStampNs = c.clockNs
  clock_nonneg : 0 ≤ c.clockNs
  unseen : node.clockSeen = false → c.clockNs = 0
  responseSequence : node.deleteResponseSequence = c.response.map Prod.fst
  responseStamp : node.deleteResponseStampNs = c.response.map Prod.snd
  response_le : ∀ r, c.response = some r → r.1 ≤ c.number
  before : ∀ o ∈ c.before, o.sequence ≤ c.number ∧ ∀ r, c.response = some r → o.sequence < r.1
  counts : ∀ r, c.response = some r → Counts c.after node
  inOrder : ∀ r, c.response = some r → InOrder r.1 c.after node

/-- The fields that are tracked. -/
def Node.view (node : Node F X) :=
  ((node.sequence, node.currentSimStampNs, node.clockSeen, node.deleteResponseSequence,
      node.deleteResponseStampNs, node.lastEntityPoseHeartbeatStampNs, node.lastPoseStampNs),
    (node.postDeleteEntityMessageCount, node.postDeleteEntityLatestSequence,
      node.postDeleteEntityLatestSimStampNs),
    (node.postDeletePoseCount, node.postDeletePoseFirstSequence, node.postDeletePoseFirstSimStampNs,
      node.postDeletePoseLatestSequence, node.postDeletePoseLatestSimStampNs))

variable {node node' : Node F X}

theorem Tracks.congr {c : Collected} (h : Tracks c node) (hview : node'.view = node.view) :
  Tracks c node'
  := by
  simp only [Node.view, Prod.mk.injEq] at hview
  obtain ⟨⟨hseq, hclock, hseen, hrs, hrt, hhb, hpose⟩, ⟨h₁, h₂, h₃⟩, h₄, h₅, h₆, h₇, h₈⟩ := hview
  refine ⟨hseq ▸ h.sequence, hclock ▸ h.clock, h.clock_nonneg, hseen ▸ h.unseen,
    hrs ▸ h.responseSequence, hrt ▸ h.responseStamp, h.response_le, h.before, ?_, ?_⟩
  · intro r hr
    obtain ⟨g₁, g₂, g₃, g₄, g₅, g₆, g₇, g₈⟩ := h.counts r hr
    exact ⟨h₁ ▸ g₁, h₂ ▸ g₂, h₃ ▸ g₃, h₄ ▸ g₄, h₅ ▸ g₅, h₆ ▸ g₆, h₇ ▸ g₇, h₈ ▸ g₈⟩
  · intro r hr
    obtain ⟨g₁, g₂, g₃, g₄, g₅, g₆⟩ := h.inOrder r hr
    exact ⟨g₁, g₂, g₃, hseq ▸ g₄, hhb ▸ g₅, hpose ▸ g₆⟩

/-- One more observation in order. -/
theorem InOrder.concat {response : Nat} {os : List Observation}
    (h : InOrder response os node) {r : Reception} (hresponse : response ≤ node.sequence)
    (hsequence : node'.sequence = node.sequence + 1) (hpositive : 1 ≤ r.stampNs)
    (hheartbeat : if r.origin = .heartbeat then
      (∀ s ∈ node.lastEntityPoseHeartbeatStampNs, s ≤ r.stampNs) ∧
        node'.lastEntityPoseHeartbeatStampNs = some r.stampNs
      else node'.lastEntityPoseHeartbeatStampNs = node.lastEntityPoseHeartbeatStampNs)
    (hpose : if r.origin = .pose then
      (∀ s ∈ node.lastPoseStampNs, s ≤ r.stampNs) ∧ node'.lastPoseStampNs = some r.stampNs
      else node'.lastPoseStampNs = node.lastPoseStampNs) :
  InOrder response (os ++ [⟨r, node.sequence + 1⟩]) node'
  := by
  have hstamp : ∀ o ∈ os, o.origin = r.origin → o.stampNs ≤ r.stampNs := by
    intro o ho horigin
    cases hr : r.origin with
    | heartbeat =>
        rw [if_pos hr] at hheartbeat
        obtain ⟨s, hs, hle⟩ := h.heartbeats o ho (horigin.trans hr)
        exact le_trans hle (hheartbeat.1 s hs)
    | pose =>
        rw [if_pos hr] at hpose
        obtain ⟨s, hs, hle⟩ := h.poses o ho (horigin.trans hr)
        exact le_trans hle (hpose.1 s hs)
  constructor
  · apply List.pairwise_append.mpr
    refine ⟨h.sequences, List.pairwise_singleton _ _, ?_⟩
    intro o ho o' ho'
    obtain rfl := List.mem_singleton.mp ho'
    have := (h.numbers o ho).2
    simp only
    omega
  · apply List.pairwise_append.mpr
    refine ⟨h.stamps, List.pairwise_singleton _ _, ?_⟩
    intro o ho o' ho' horigin
    obtain rfl := List.mem_singleton.mp ho'
    apply hstamp o ho horigin
  · intro o ho
    rcases List.mem_append.mp ho with ho | ho
    · apply h.positive o ho
    · obtain rfl := List.mem_singleton.mp ho
      apply hpositive
  · intro o ho
    rcases List.mem_append.mp ho with ho | ho
    · have := h.numbers o ho
      omega
    · obtain rfl := List.mem_singleton.mp ho
      simp only
      omega
  · intro o ho horigin
    by_cases hr : r.origin = .heartbeat
    · rw [if_pos hr] at hheartbeat
      refine ⟨r.stampNs, hheartbeat.2, ?_⟩
      rcases List.mem_append.mp ho with ho | ho
      · apply hstamp o ho (horigin.trans hr.symm)
      · obtain rfl := List.mem_singleton.mp ho
        apply le_refl
    · rw [if_neg hr] at hheartbeat
      rw [hheartbeat]
      rcases List.mem_append.mp ho with ho | ho
      · apply h.heartbeats o ho horigin
      · obtain rfl := List.mem_singleton.mp ho
        exact absurd horigin hr
  · intro o ho horigin
    by_cases hr : r.origin = .pose
    · rw [if_pos hr] at hpose
      refine ⟨r.stampNs, hpose.2, ?_⟩
      rcases List.mem_append.mp ho with ho | ho
      · apply hstamp o ho (horigin.trans hr.symm)
      · obtain rfl := List.mem_singleton.mp ho
        apply le_refl
    · rw [if_neg hr] at hpose
      rw [hpose]
      rcases List.mem_append.mp ho with ho | ho
      · apply h.poses o ho horigin
      · obtain rfl := List.mem_singleton.mp ho
        exact absurd horigin hr

/-- A number that is given to nothing that is observed. -/
theorem Tracks.next {c : Collected} {node : Node F X} (h : Tracks c node) :
  Tracks { c with number := c.number + 1 } node.nextSequence
  := by
  refine ⟨by simp [Node.nextSequence, h.sequence], h.clock, h.clock_nonneg, h.unseen,
    h.responseSequence, h.responseStamp, ?_, ?_, ?_, ?_⟩
  · intro r hr
    exact le_trans (h.response_le r hr) (Nat.le_succ _)
  · intro o ho
    obtain ⟨hle, hlt⟩ := h.before o ho
    exact ⟨le_trans hle (Nat.le_succ _), hlt⟩
  · intro r hr
    obtain ⟨g₁, g₂, g₃, g₄, g₅, g₆, g₇, g₈⟩ := h.counts r hr
    exact ⟨g₁, g₂, g₃, g₄, g₅, g₆, g₇, g₈⟩
  · intro r hr
    obtain ⟨g₁, g₂, g₃, g₄, g₅, g₆⟩ := h.inOrder r hr
    refine ⟨g₁, g₂, g₃, ?_, g₅, g₆⟩
    intro o ho
    obtain ⟨hlt, hle⟩ := g₄ o ho
    exact ⟨hlt, le_trans hle (Nat.le_succ _)⟩

/-! ### Heartbeats -/

theorem stampToNs_eq_ok {stamp : Time} {positive : Bool} {n : Int}
    (h : stampToNs stamp positive = .ok n) :
  n = nanoseconds stamp ∧ 0 ≤ n ∧ (positive → 1 ≤ n)
  := by
  unfold stampToNs at h
  simp only at h
  split at h
  · cases h
  · rename_i hfields
    split at h
    · cases h
    · rename_i hpositive
      cases h
      simp only [Bool.or_eq_true, decide_eq_true_eq, Bool.not_eq_true', Bool.and_eq_false_iff,
        not_or] at hfields
      refine ⟨rfl, by omega, ?_⟩
      intro hp
      simp only [hp, Bool.true_and, decide_eq_true_eq] at hpositive
      omega

/-- Another callback changes neither the mode nor the latched errors of the cleanup. -/
structure Frame (node node' : Node F X) : Prop where
  cleanupMode : node'.cleanupMode = node.cleanupMode
  cleanupFatalError : node'.cleanupFatalError = node.cleanupFatalError

theorem Frame.refl (node : Node F X) : Frame node node := ⟨rfl, rfl⟩

theorem Frame.trans {node node' node'' : Node F X} (h : Frame node node')
    (h' : Frame node' node'') :
  Frame node node''
  := ⟨h'.cleanupMode.trans h.cleanupMode, h'.cleanupFatalError.trans h.cleanupFatalError⟩

variable {c : Collected}

/-- An accepted heartbeat is observed. -/
theorem Tracks.heartbeat {transform : Transform F}
    (hrun : node.onHeartbeat transform = .ok node') (h : Tracks c node) :
  Tracks (c.observe ⟨.heartbeat, nanoseconds transform.stamp⟩) node'
  := by
  unfold Node.onHeartbeat at hrun
  cases hstamp : stampToNs transform.stamp true with
  | error e =>
      rw [hstamp] at hrun
      cases hrun
  | ok n =>
      obtain ⟨rfl, -, hpositive⟩ := stampToNs_eq_ok hstamp
      rw [hstamp] at hrun
      simp only [Bind.bind, Except.bind] at hrun
      split at hrun
      · cases hrun
      · rename_i hlast
        split at hrun
        · cases hrun
        · split at hrun
          · rename_i hresponse
            obtain ⟨r, hr⟩ : ∃ r, c.response = some r := by
              rw [h.responseStamp] at hresponse
              apply Option.isSome_iff_exists.mp
              simpa using hresponse
            cases hrun
            have hlast : ∀ s ∈ node.lastEntityPoseHeartbeatStampNs,
                s ≤ nanoseconds transform.stamp := by
              intro s hs
              simp only [Option.mem_def] at hs
              simpa [hs] using hlast
            have hobserve : c.observe ⟨.heartbeat, nanoseconds transform.stamp⟩ = { c with
                number := c.number + 1
                after := c.after ++
                  [⟨⟨.heartbeat, nanoseconds transform.stamp⟩, c.number + 1⟩] } := by
              simp [Collected.observe, hr]
            rw [hobserve]
            refine ⟨by simp [Node.nextSequence, h.sequence], h.clock, h.clock_nonneg,
              h.unseen, h.responseSequence, h.responseStamp, ?_, ?_, ?_, ?_⟩
            · intro r' hr'
              exact le_trans (h.response_le r' hr') (Nat.le_succ _)
            · intro o ho
              obtain ⟨hle, hlt⟩ := h.before o ho
              exact ⟨le_trans hle (Nat.le_succ _), hlt⟩
            · intro r' hr'
              obtain ⟨g₁, g₂, g₃, g₄, g₅, g₆, g₇, g₈⟩ := h.counts r' hr'
              constructor <;>
                simp [Node.nextSequence, latest, earliest, ofOrigin, h.sequence, g₁, g₄, g₅, g₆, g₇,
                  g₈]
            · intro r' hr'
              rw [← h.sequence]
              apply (h.inOrder r' hr').concat (h.sequence ▸ h.response_le r' hr') rfl
                (hpositive rfl)
              · exact ⟨hlast, rfl⟩
              · rfl
          · rename_i hresponse
            have hr : c.response = none := by
              rw [h.responseStamp] at hresponse
              simpa using hresponse
            cases hrun
            have hobserve : c.observe ⟨.heartbeat, nanoseconds transform.stamp⟩ = c := by
              simp [Collected.observe, hr]
            rw [hobserve]
            refine ⟨h.sequence, h.clock, h.clock_nonneg, h.unseen, h.responseSequence,
              h.responseStamp, h.response_le, h.before, ?_, ?_⟩
            · intro r' hr'
              rw [hr] at hr'
              cases hr'
            · intro r' hr'
              rw [hr] at hr'
              cases hr'

theorem Frame.heartbeat {transform : Transform F} (hrun : node.onHeartbeat transform = .ok node') :
  Frame node node' ∧ node'.own = node.own
  := by
  unfold Node.onHeartbeat at hrun
  cases hstamp : stampToNs transform.stamp true with
  | error e =>
      rw [hstamp] at hrun
      cases hrun
  | ok n =>
      rw [hstamp] at hrun
      simp only [Bind.bind, Except.bind] at hrun
      split at hrun
      · cases hrun
      · split at hrun
        · cases hrun
        · split at hrun <;> cases hrun <;> exact ⟨⟨rfl, rfl⟩, rfl⟩

/-! ### Poses -/

section Poses

variable [PoseFloat F]

/-- An accepted pose has a positive stamp that did not regress. -/
theorem checkPose_eq_ok {regressed invalid : String} {transform : Transform F}
    {node node' : Node F X}
    {n : Int} {yaw : F} (h : node.checkPose regressed invalid transform = (.ok (n, yaw), node')) :
  n = nanoseconds transform.stamp ∧ 1 ≤ n ∧ (∀ s ∈ node.lastPoseStampNs, s ≤ n) ∧
    node' = { node with lastPoseStampNs := some n }
  := by
  unfold Node.checkPose at h
  cases hstamp : stampToNs transform.stamp true with
  | error e => simp [hstamp] at h
  | ok m =>
      obtain ⟨hm, -, hpositive⟩ := stampToNs_eq_ok hstamp
      simp only [hstamp] at h
      split at h
      · simp at h
      · rename_i hlast
        split at h
        · simp at h
        · split at h
          · simp at h
          · simp only [Prod.mk.injEq, Except.ok.injEq] at h
            obtain ⟨⟨rfl, -⟩, rfl⟩ := h
            refine ⟨hm, hpositive rfl, ?_, rfl⟩
            intro s hs
            simp only [Option.mem_def] at hs
            simpa [hs] using hlast

theorem Frame.checkPose {regressed invalid : String} {transform : Transform F} {node : Node F X} :
  Frame node (node.checkPose regressed invalid transform).2 ∧
    (node.checkPose regressed invalid transform).2.own = node.own
  := by
  unfold Node.checkPose
  cases stampToNs transform.stamp true with
  | error e => exact ⟨Frame.refl node, rfl⟩
  | ok n =>
      simp only
      split
      · exact ⟨⟨rfl, rfl⟩, rfl⟩
      · split
        · exact ⟨⟨rfl, rfl⟩, rfl⟩
        · split <;> exact ⟨⟨rfl, rfl⟩, rfl⟩

omit [PoseFloat F] in
/-- A counted pose is observed. -/
theorem Tracks.pose {node node' : Node F X} {n : Int} {evidence : PoseEvidence F}
    (h : Tracks c node)
    (hpositive : 1 ≤ n) (hlast : ∀ s ∈ node.lastPoseStampNs, s ≤ n)
    (hsequence : evidence.collectorSequence = node.sequence + 1) (hstamp : evidence.stampNs = n)
    (hview : node'.view = ({ node with
      lastPoseStampNs := some n, sequence := node.sequence + 1 }.countPose evidence).view) :
  Tracks (c.observe ⟨.pose, n⟩) node'
  := by
  refine Tracks.congr ?_ hview
  cases hr : c.response with
  | none =>
      have hobserve : c.observe ⟨.pose, n⟩ = { c with
          number := c.number + 1, before := c.before ++ [⟨⟨.pose, n⟩, c.number + 1⟩] } := by
        simp [Collected.observe, hr]
      have hcount : ({ node with
          lastPoseStampNs := some n, sequence := node.sequence + 1 }.countPose evidence) =
            { node with lastPoseStampNs := some n, sequence := node.sequence + 1 } := by
        simp [Node.countPose, h.responseSequence, hr]
      rw [hobserve, hcount]
      refine ⟨by simp [h.sequence], h.clock, h.clock_nonneg, h.unseen, h.responseSequence,
        h.responseStamp, ?_, ?_, ?_, ?_⟩
      · simp [hr]
      · intro o ho
        rcases List.mem_append.mp ho with ho | ho
        · exact ⟨le_trans (h.before o ho).1 (Nat.le_succ _), by simp [hr]⟩
        · obtain rfl := List.mem_singleton.mp ho
          exact ⟨le_refl _, by simp [hr]⟩
      · simp [hr]
      · simp [hr]
  | some r =>
      have hobserve : c.observe ⟨.pose, n⟩ = { c with
          number := c.number + 1, after := c.after ++ [⟨⟨.pose, n⟩, c.number + 1⟩] } := by
        simp [Collected.observe, hr]
      have hle : r.1 < evidence.collectorSequence := by
        have := h.response_le r hr
        rw [hsequence, h.sequence]
        omega
      obtain ⟨g₁, g₂, g₃, g₄, g₅, g₆, g₇, g₈⟩ := h.counts r hr
      rw [hobserve]
      unfold Node.countPose
      rw [if_pos (by simp [h.responseSequence, hr, hle])]
      refine ⟨by simp [h.sequence], h.clock, h.clock_nonneg, h.unseen, h.responseSequence,
        h.responseStamp, ?_, ?_, ?_, ?_⟩
      · intro r' hr'
        exact le_trans (h.response_le r' hr') (Nat.le_succ _)
      · intro o ho
        obtain ⟨hle, hlt⟩ := h.before o ho
        exact ⟨le_trans hle (Nat.le_succ _), hlt⟩
      · intro r' hr'
        constructor
        · simp [ofOrigin, g₁]
        · simp [latest, ofOrigin, g₂]
        · simp [latest, ofOrigin, g₃]
        · simp [ofOrigin, g₄]
        · rw [earliest_concat]
          simp only [g₅]
          cases earliest .pose c.after with
          | none => simp [hsequence, h.sequence]
          | some o => rfl
        · rw [earliest_concat]
          simp only [g₅, g₆]
          cases earliest .pose c.after with
          | none => simp [hstamp]
          | some o => rfl
        · simp [latest, ofOrigin, hsequence, h.sequence]
        · simp [latest, ofOrigin, hstamp]
      · intro r' hr'
        rw [← h.sequence]
        apply (h.inOrder r' hr').concat (h.sequence ▸ h.response_le r' hr') rfl hpositive
        · rfl
        · exact ⟨hlast, rfl⟩

end Poses

/-! ### Callbacks -/

/-- What a callback leaves: it keeps the mode, the latched errors and what the owner is known by,
and unless it is refused it takes the node along with the receptions. -/
structure Follows (Own : X → Prop) (rs : List Reception) (node : Node F X)
    (result : Except Failure Unit × Node F X) : Prop where
  frame : Frame node result.2
  own : Own node.own → Own result.2.own
  tracks : Own node.own → result.1 = .ok () → ∀ c, Tracks c node →
    Tracks (rs.foldl Collected.observe c) result.2

variable {Own : X → Prop} {name : String}

/-- The transforms of a message are followed when the poses of the entity are. -/
theorem Follows.eachTransform
    {onPose : Transform F → Node F X → Except Failure Unit × Node F X}
    (hpose : ∀ transform node, Follows Own [⟨.pose, nanoseconds transform.stamp⟩] node
      (onPose transform node))
    (transforms : List (Transform F)) (node : Node F X) :
  Follows Own (transforms.flatMap (Transform.receptions name)) node
    (Node.eachTransform (Node.onTransform name onPose) transforms node)
  := by
  have htransform : ∀ (transform : Transform F) (node : Node F X),
      Follows Own (transform.receptions name) node
        (Node.onTransform name onPose transform node) := by
    intro transform node
    have hrest : ∀ node : Node F X,
        Follows Own (if transform.childFrameId = name then [⟨.pose, nanoseconds transform.stamp⟩]
          else []) node (if transform.childFrameId ≠ name then (.ok (), node) else
            onPose transform node) := by
      intro node
      by_cases hname : transform.childFrameId = name
      · rw [if_pos hname, if_neg (not_not.mpr hname)]
        apply hpose
      · rw [if_neg hname, if_pos hname]
        exact ⟨Frame.refl node, id, fun _ _ _ h => h⟩
    unfold Transform.receptions Node.onTransform
    by_cases hheartbeat : transform.childFrameId = ENTITY_POSE_HEARTBEAT_MODEL
    · simp only [if_pos hheartbeat]
      cases hrun : node.onHeartbeat transform with
      | error e =>
          refine ⟨Frame.refl node, id, ?_⟩
          rintro - ⟨⟩
      | ok node' =>
          obtain ⟨hframe, hown⟩ := Frame.heartbeat hrun
          obtain ⟨hframe', hown', htracks⟩ := hrest node'
          rw [hown] at hown' htracks
          refine ⟨hframe.trans hframe', hown', ?_⟩
          intro ho hok c hc
          rw [List.foldl_append]
          apply htracks ho hok
          apply hc.heartbeat hrun
    · simp only [if_neg hheartbeat, List.nil_append]
      apply hrest node
  induction transforms generalizing node with
  | nil => exact ⟨Frame.refl node, id, fun _ _ _ h => h⟩
  | cons transform rest ih =>
      have hfirst := htransform transform node
      unfold Node.eachTransform
      generalize Node.onTransform name onPose transform node = result at hfirst ⊢
      obtain ⟨r, node'⟩ := result
      cases r with
      | error e =>
          refine ⟨hfirst.frame, hfirst.own, ?_⟩
          rintro - ⟨⟩
      | ok _ =>
          have hrest := ih node'
          refine ⟨hfirst.frame.trans hrest.frame, fun ho => hrest.own (hfirst.own ho), ?_⟩
          intro ho hok c hc
          rw [List.flatMap_cons, List.foldl_append]
          apply hrest.tracks (hfirst.own ho) hok
          apply hfirst.tracks ho rfl c hc

/-- A callback takes the collector along, and the clock does not regress. -/
structure Advances (Own : X → Prop) (name : String) (k : Callback F) (node : Node F X)
    (result : Except Failure Unit × Node F X) : Prop where
  frame : Frame node result.2
  own : Own node.own → Own result.2.own
  tracks : Own node.own → result.1 = .ok () → ∀ c, Tracks c node →
    Tracks (c.callback name k) result.2 ∧ c.clockNs ≤ (c.callback name k).clockNs

/-- The callbacks of a node in cleanup take it along with the collector, unless an error of the
cleanup is latched. -/
def Listens (Own : X → Prop) (name : String) (receive : Callback F → Node F X → Node F X) : Prop :=
  ∀ k node, node.cleanupMode = true → Own node.own →
    (receive k node).cleanupMode = true ∧ Own (receive k node).own ∧
      ((receive k node).cleanupFatalError = none → node.cleanupFatalError = none ∧
        ∀ c, Tracks c node →
          Tracks (c.callback name k) (receive k node) ∧ c.clockNs ≤ (c.callback name k).clockNs)

/-- A guarded callback that advances is heard. -/
theorem Advances.guard {k : Callback F} {node : Node F X} {unhandled : String}
    {callback : Node F X → Except Failure Unit × Node F X}
    (h : Advances Own name k node (callback node)) (hmode : node.cleanupMode = true)
    (hown : Own node.own) :
  (Node.guard unhandled callback node).cleanupMode = true ∧
    Own (Node.guard unhandled callback node).own ∧
    ((Node.guard unhandled callback node).cleanupFatalError = none → node.cleanupFatalError = none ∧
      ∀ c, Tracks c node → Tracks (c.callback name k) (Node.guard unhandled callback node) ∧
        c.clockNs ≤ (c.callback name k).clockNs)
  := by
  unfold Node.guard
  rw [if_neg (by simp [hmode])]
  obtain ⟨⟨hcleanup, hfatal⟩, ho, htracks⟩ := h
  generalize callback node = result at hcleanup hfatal ho htracks ⊢
  obtain ⟨r, node'⟩ := result
  have hmode' : node'.cleanupMode = true := hcleanup.trans hmode
  cases r with
  | error e =>
      simp only [hmode', if_true]
      unfold Node.setCleanupFatal
      split
      · exact ⟨hmode', ho hown, by simp⟩
      · rename_i hsome
        refine ⟨hmode', ho hown, ?_⟩
        intro hnone
        simp [hnone] at hsome
  | ok _ => exact ⟨hmode', ho hown, fun hnone => ⟨hfatal ▸ hnone, htracks hown rfl⟩⟩

/-- The clock advances, when what follows a clock callback changes only what one node keeps. -/
theorem Advances.clock {regressed : String} {rest : Node F X → Int → Except Failure Unit × Node F X}
    (hrest : ∀ node stampNs, Frame node (rest node stampNs).2 ∧
      (Own node.own → Own (rest node stampNs).2.own) ∧ (rest node stampNs).2.view = node.view)
    (stamp : Time) (node : Node F X) :
  Advances Own name (.clock stamp) node (Node.onClock regressed rest stamp node)
  := by
  unfold Node.onClock
  cases hstamp : stampToNs stamp false with
  | error e => exact ⟨Frame.refl node, id, by rintro - ⟨⟩⟩
  | ok n =>
      obtain ⟨rfl, hn, -⟩ := stampToNs_eq_ok hstamp
      simp only
      split
      · exact ⟨⟨rfl, rfl⟩, id, by rintro - ⟨⟩⟩
      · rename_i hregressed
        obtain ⟨hframe, hown, hview⟩ :=
          hrest (node.recordClock (nanoseconds stamp)) (nanoseconds stamp)
        refine ⟨⟨hframe.cleanupMode, hframe.cleanupFatalError⟩, hown, ?_⟩
        intro ho hok c hc
        have hle : c.clockNs ≤ nanoseconds stamp := by
          cases hseen : node.clockSeen with
          | false =>
              rw [hc.unseen hseen]
              apply hn
          | true =>
              rw [← hc.clock]
              simpa [hseen] using hregressed
        refine ⟨?_, hle⟩
        refine Tracks.congr ?_ hview
        exact ⟨hc.sequence, rfl, hn, nofun, hc.responseSequence, hc.responseStamp,
          hc.response_le, hc.before,
          fun r hr => (by
            obtain ⟨g₁, g₂, g₃, g₄, g₅, g₆, g₇, g₈⟩ := hc.counts r hr
            exact ⟨g₁, g₂, g₃, g₄, g₅, g₆, g₇, g₈⟩),
          fun r hr => (by
            obtain ⟨g₁, g₂, g₃, g₄, g₅, g₆⟩ := hc.inOrder r hr
            exact ⟨g₁, g₂, g₃, g₄, g₅, g₆⟩)⟩

/-! ### The two nodes -/

variable [PoseFloat F]

omit [PoseFloat F] in
/-- Retaining a pose changes only what is not tracked. -/
theorem retainPose_frame (evidence : PoseEvidence F) (changed : Bool) (node : Node F X) :
  Frame node (node.retainPose evidence changed).2 ∧
    (node.retainPose evidence changed).2.own = node.own ∧
    (node.retainPose evidence changed).2.view = node.view
  := by
  unfold Node.retainPose
  cases changed with
  | false => exact ⟨⟨rfl, rfl⟩, rfl, rfl⟩
  | true =>
      simp only [if_true]
      split <;> exact ⟨⟨rfl, rfl⟩, rfl, rfl⟩

omit [PoseFloat F] in
theorem countPose_frame (evidence : PoseEvidence F) (node : Node F X) :
  Frame node (node.countPose evidence) ∧ (node.countPose evidence).own = node.own
  := by
  unfold Node.countPose
  split <;> exact ⟨⟨rfl, rfl⟩, rfl⟩

omit [PoseFloat F] in
/-- What a pose adds to the view depends only on the view. -/
theorem countPose_view {evidence evidence' : PoseEvidence F} (hview : node'.view = node.view)
    (hsequence : evidence'.collectorSequence = evidence.collectorSequence)
    (hstamp : evidence'.stampNs = evidence.stampNs) :
  (node'.countPose evidence').view = (node.countPose evidence).view
  := by
  simp only [Node.view, Prod.mk.injEq] at hview
  obtain ⟨⟨h₁, h₂, h₃, h₄, h₅, h₆, h₇⟩, ⟨h₈, h₉, h₁₀⟩, h₁₁, h₁₂, h₁₃, h₁₄, h₁₅⟩ := hview
  unfold Node.countPose
  rw [h₄, hsequence, hstamp]
  split <;> simp [Node.view, *]

namespace ScenarioController

/-- The node watches the actor of its scenario. -/
def Watches (name : String) (fields : ScenarioControllerFields F) : Prop :=
  fields.document.actorName = some name

theorem checkSpawn_frame (evidence : PoseEvidence F) (node : ScenarioControllerNode F) :
  Frame node (checkSpawn evidence node).2 ∧
    (checkSpawn evidence node).2.own.document = node.own.document ∧
    (checkSpawn evidence node).2.view = node.view
  := by
  unfold checkSpawn
  split
  · exact ⟨⟨rfl, rfl⟩, rfl, rfl⟩
  · simp only
    split <;> split <;> exact ⟨⟨rfl, rfl⟩, rfl, rfl⟩

theorem onActorPose_follows (transform : Transform F) (node : ScenarioControllerNode F) :
  Follows (Watches name) [⟨.pose, nanoseconds transform.stamp⟩] node (onActorPose transform node)
  := by
  unfold onActorPose
  obtain ⟨hframe, hown⟩ := @Frame.checkPose F _ _ "scenario actor pose stamp regressed"
    "actor pose stream contains invalid frame or position" transform node
  generalize hcheck : node.checkPose "scenario actor pose stamp regressed"
    "actor pose stream contains invalid frame or position" transform = result at hframe hown
  obtain ⟨r, node'⟩ := result
  cases r with
  | error e =>
      refine ⟨hframe, fun ho => ?_, by rintro - ⟨⟩⟩
      rw [hown]
      apply ho
  | ok w =>
      obtain ⟨n, yaw⟩ := w
      obtain ⟨rfl, hpositive, hlast, rfl⟩ := checkPose_eq_ok hcheck
      simp only
      generalize hevidence : (⟨_, _, _, _, _, _⟩ : PoseEvidence F) = evidence
      generalize matchingIndex _ _ _ = index
      have hmatched : ∀ (m : ScenarioControllerNode F) (i : Option Int),
          Frame m (i.elim m fun index => { m with own := { m.own with
            matchedS3ActorPoses := m.own.matchedS3ActorPoses ++ [(index, evidence)] } }) ∧
          (i.elim m fun index => { m with own := { m.own with
            matchedS3ActorPoses :=
              m.own.matchedS3ActorPoses ++ [(index, evidence)] } }).own.document =
              m.own.document ∧
          (i.elim m fun index => { m with own := { m.own with
            matchedS3ActorPoses := m.own.matchedS3ActorPoses ++ [(index, evidence)] } }).view =
              m.view := by
        intro m i
        cases i with
        | none => exact ⟨⟨rfl, rfl⟩, rfl, rfl⟩
        | some index => exact ⟨⟨rfl, rfl⟩, rfl, rfl⟩
      obtain ⟨hframe₁, hown₁, hview₁⟩ := hmatched
        ({ node with lastPoseStampNs := some (nanoseconds transform.stamp) }.nextSequence) index
      generalize Option.elim index _ _ = node₁ at hframe₁ hown₁ hview₁ ⊢
      generalize (Node.changed evidence node₁.lastPose || index.isSome) = isChanged
      obtain ⟨hframe₂, hown₂, hview₂⟩ := retainPose_frame evidence isChanged node₁
      generalize node₁.retainPose evidence isChanged = result at hframe₂ hown₂ hview₂ ⊢
      obtain ⟨r, node₂⟩ := result
      have hframe₁₂ : Frame node node₂ :=
        ⟨(hframe₁.trans hframe₂).cleanupMode, (hframe₁.trans hframe₂).cleanupFatalError⟩
      have hown₁₂ : node₂.own.document = node.own.document := by
        rw [hown₂]
        apply hown₁
      cases r with
      | error e =>
          refine ⟨hframe₁₂, fun ho => ?_, by rintro - ⟨⟩⟩
          unfold Watches
          rw [hown₁₂]
          apply ho
      | ok _ =>
          obtain ⟨hframe₃, hown₃⟩ :=
            countPose_frame evidence { node₂ with lastPose := some evidence }
          obtain ⟨hframe₄, hown₄, hview₄⟩ :=
            checkSpawn_frame evidence ({ node₂ with lastPose := some evidence }.countPose evidence)
          refine ⟨hframe₁₂.trans (Frame.trans ⟨hframe₃.cleanupMode,
            hframe₃.cleanupFatalError⟩ hframe₄),
            fun ho => ?_, ?_⟩
          · unfold Watches
            rw [hown₄, hown₃]
            simp only
            rw [hown₁₂]
            apply ho
          · intro ho hok c hc
            apply @Tracks.pose _ _ _ _ _ _ evidence hc hpositive hlast
            · rw [← hevidence]
              rfl
            · rw [← hevidence]
            · rw [hview₄]
              apply countPose_view _ rfl rfl
              exact (hview₂.trans hview₁)

theorem listens (name : String) :
  Listens (Watches name) name (receive : Callback F → ScenarioControllerNode F → _)
  := by
  intro k node hmode hown
  cases k with
  | clock stamp =>
      refine Advances.guard ?_ hmode hown
      apply Advances.clock
      intro node n
      exact ⟨Frame.refl node, id, rfl⟩
  | entityPoses transforms =>
      refine Advances.guard ?_ hmode hown
      have hname : node.own.document.actorName = some name := hown
      unfold onEntityPoses
      simp only [hname]
      obtain ⟨⟨hcleanup, hfatal⟩, hown', htracks⟩ := Follows.eachTransform
        (onActorPose_follows (F := F)) transforms
        { node with entityPoseMessageCount := node.entityPoseMessageCount + 1 }
      refine ⟨⟨hcleanup, hfatal⟩, hown', ?_⟩
      intro ho hok c hc
      refine ⟨htracks ho hok c (Tracks.congr hc rfl), ?_⟩
      rw [Collected.callback, Collected.foldl_observe_clockNs]
      apply le_refl

end ScenarioController

namespace ContactControl

omit [PoseFloat F] in
theorem checkStopLatency_frame (node : ContactControlNode F) (stampNs : Int) :
  Frame node (checkStopLatency node stampNs).2 ∧ (checkStopLatency node stampNs).2.view = node.view
  := by
  unfold checkStopLatency
  split
  · exact ⟨⟨rfl, rfl⟩, rfl⟩
  · split
    · simp only
      split <;> exact ⟨⟨rfl, rfl⟩, rfl⟩
    · exact ⟨⟨rfl, rfl⟩, rfl⟩

theorem onWallPose_follows (transform : Transform F) (node : ContactControlNode F) :
  Follows (fun _ => True) [⟨.pose, nanoseconds transform.stamp⟩] node (onWallPose transform node)
  := by
  unfold onWallPose
  split
  · exact ⟨Frame.refl node, id, by rintro - ⟨⟩⟩
  · obtain ⟨hframe, -⟩ := @Frame.checkPose F _ _ "positive-control wall pose stamp regressed"
      "positive-control wall pose has an invalid frame or value" transform node
    generalize hcheck : node.checkPose "positive-control wall pose stamp regressed"
      "positive-control wall pose has an invalid frame or value" transform = result at hframe
    obtain ⟨r, node'⟩ := result
    cases r with
    | error e => exact ⟨hframe, id, by rintro - ⟨⟩⟩
    | ok w =>
        obtain ⟨n, yaw⟩ := w
        obtain ⟨rfl, hpositive, hlast, rfl⟩ := checkPose_eq_ok hcheck
        simp only
        generalize hevidence : (⟨_, _, _, _, _, _⟩ : PoseEvidence F) = evidence
        obtain ⟨hframe₁, -⟩ := countPose_frame evidence
          ({ node with lastPoseStampNs := some (nanoseconds transform.stamp) }.nextSequence)
        generalize hcount : Node.countPose evidence
          ({ node with lastPoseStampNs := some (nanoseconds transform.stamp) }.nextSequence) = node₁
            at hframe₁ ⊢
        generalize Node.changed evidence _ = isChanged
        obtain ⟨hframe₂, -, hview₂⟩ := retainPose_frame evidence isChanged node₁
        generalize node₁.retainPose evidence isChanged = result at hframe₂ hview₂ ⊢
        obtain ⟨r, node₂⟩ := result
        have hframe₁₂ : Frame node node₂ :=
          ⟨(hframe₁.trans hframe₂).cleanupMode, (hframe₁.trans hframe₂).cleanupFatalError⟩
        cases r with
        | error e => exact ⟨hframe₁₂, id, by rintro - ⟨⟩⟩
        | ok _ =>
            refine ⟨⟨hframe₁₂.cleanupMode, hframe₁₂.cleanupFatalError⟩, id, ?_⟩
            intro ho hok c hc
            apply @Tracks.pose _ _ _ _ _ _ evidence hc hpositive hlast
            · rw [← hevidence]
              rfl
            · rw [← hevidence]
            · refine Eq.trans hview₂ ?_
              rw [← hcount]
              apply countPose_view rfl rfl rfl

theorem listens :
  Listens (fun _ => True) WALL_NAME (receive : Callback F → ContactControlNode F → _)
  := by
  intro k node hmode hown
  cases k with
  | clock stamp =>
      have h : Advances (fun _ => True) WALL_NAME (.clock stamp) node (onClock stamp node) := by
        apply Advances.clock
        intro node n
        obtain ⟨hframe, hview⟩ := checkStopLatency_frame node n
        exact ⟨hframe, id, hview⟩
      apply h.guard hmode hown
  | entityPoses transforms =>
      have h : Advances (fun _ => True) WALL_NAME (.entityPoses transforms) node
          (onEntityPoses transforms node) := by
        obtain ⟨⟨hcleanup, hfatal⟩, hown', htracks⟩ := Follows.eachTransform
          onWallPose_follows transforms
          { node with entityPoseMessageCount := node.entityPoseMessageCount + 1 }
        refine ⟨⟨hcleanup, hfatal⟩, hown', ?_⟩
        intro ho hok c hc
        refine ⟨htracks ho hok c (Tracks.congr hc rfl), ?_⟩
        rw [Collected.callback, Collected.foldl_observe_clockNs]
        apply le_refl
      apply h.guard hmode hown

end ContactControl

end Scenarios

end RobotestLab
