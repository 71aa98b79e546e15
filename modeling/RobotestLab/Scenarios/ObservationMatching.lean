import RobotestLab.Library.Machine
import RobotestLab.Library.OrderedMatching
import RobotestLab.Scenarios.Cleanup

/-!
# The matching of observations

A set-pose request of the third scenario registers the observation that it waits for, and the
callback of the poses matches every pose of the actor to at most one request. In every state that is
reached, the poses are matched as an ordered matching does (`Reaches.matches`).
-/

namespace RobotestLab

namespace Scenarios

open OrderedMatching (Request greedy Chronological reaches)

variable {F : Type}

namespace ScenarioController

/-! ### Requests -/

/-- Register the observation that a set-pose request waits for. -/
def registerObservation (index : Int) (requestSequence : Nat) (targetStampNs : Int)
    (node : ScenarioControllerNode F) : Except Failure Unit × ScenarioControllerNode F :=
  if (node.own.s3ObservationRequests.map Prod.fst).contains index then
    (.error (.protocolError
      ("duplicate Scenario 3 observation request index " ++ toString index)), node)
  else
    (.ok (), { node with own := { node.own with
      s3ObservationRequests :=
        node.own.s3ObservationRequests ++ [(index, requestSequence, targetStampNs)] } })

/-! ### The poses of the actor -/

section Poses

variable [PoseFloat F]

/-- The pose that a transform of the actor is numbered as, unless it is refused. -/
def poseOf (transform : Transform F) (node : ScenarioControllerNode F) : Option (PoseEvidence F) :=
  match node.checkPose "scenario actor pose stamp regressed"
    "actor pose stream contains invalid frame or position" transform with
  | (.error _, _) => none
  | (.ok (stampNs, yaw), node) =>
      some ⟨node.sequence + 1, stampNs, transform.x, transform.y, transform.z, yaw⟩

/-- The pose that a transform is numbered as, after its heartbeat. -/
def transformPose (actorName : String) (transform : Transform F) (node : ScenarioControllerNode F) :
    Option (PoseEvidence F) :=
  match (if transform.childFrameId = ENTITY_POSE_HEARTBEAT_MODEL then node.onHeartbeat transform
    else .ok node) with
  | .error _ => none
  | .ok node => if transform.childFrameId ≠ actorName then none else poseOf transform node

/-- The poses of a message, up to the transform that is refused. -/
def transformPoses (actorName : String) :
    List (Transform F) → ScenarioControllerNode F → List (PoseEvidence F)
  | [], _ => []
  | transform :: rest, node =>
      (transformPose actorName transform node).toList ++
        match Node.onTransform actorName onActorPose transform node with
        | (.error _, _) => []
        | (.ok (), node) => transformPoses actorName rest node

/-- The poses of the actor that a guarded callback numbers. -/
def actorPoses : Callback F → ScenarioControllerNode F → List (PoseEvidence F)
  | .clock _, _ => []
  | .entityPoses transforms, node =>
      if node.fatalError.isSome && !node.cleanupMode then []
      else
        match node.own.document.actorName with
        | none => []
        | some actorName => transformPoses actorName transforms
            { node with entityPoseMessageCount := node.entityPoseMessageCount + 1 }

end Poses

/-! ### Runs -/

/-- Nothing of the observations changes, numbers are only given out, and the stamps of the actor do
not regress. -/
structure Aside (node node' : ScenarioControllerNode F) : Prop where
  requests : node'.own.s3ObservationRequests = node.own.s3ObservationRequests
  matched : node'.own.matchedS3ActorPoses = node.own.matchedS3ActorPoses
  items : node'.actorState.items = node.actorState.items
  overflow : node'.actorState.overflowCount = node.actorState.overflowCount
  sequence : node.sequence ≤ node'.sequence
  stamps : ∀ last, node.lastPoseStampNs = some last → ∃ last',
    node'.lastPoseStampNs = some last' ∧ last ≤ last'

/-- The states that are reached, with the requests that were registered and the poses of the actor
that were numbered. The requests have the indices 0, 1, 2 and so on, each takes its number when it
is made, and their targets do not decrease. -/
inductive Reaches [PoseFloat F] :
    List (Request Nat Int) → List (PoseEvidence F) → ScenarioControllerNode F → Prop where
  | initial {node : ScenarioControllerNode F} :
      node.own.s3ObservationRequests = [] → node.own.matchedS3ActorPoses = [] → Reaches [] [] node
  | request {requests : List (Request Nat Int)} {observed : List (PoseEvidence F)}
      {node node' : ScenarioControllerNode F} (requestSequence : Nat) (targetStampNs : Int) :
      Reaches requests observed node → requestSequence ≤ node.sequence →
      (∀ pose ∈ observed, pose.collectorSequence < requestSequence) →
      (∀ request ∈ requests, request.target ≤ targetStampNs) →
      registerObservation requests.length requestSequence targetStampNs node = (.ok (), node') →
      Reaches (requests ++ [⟨requestSequence, targetStampNs⟩]) observed node'
  | callback {requests : List (Request Nat Int)} {observed : List (PoseEvidence F)}
      {node : ScenarioControllerNode F} (callback : Callback F) :
      Reaches requests observed node →
      Reaches requests (observed ++ actorPoses callback node) (receive callback node)
  | other {requests : List (Request Nat Int)} {observed : List (PoseEvidence F)}
      {node node' : ScenarioControllerNode F} :
      Reaches requests observed node → Aside node node' → Reaches requests observed node'

/-! ### The invariant -/

/-- The items under their indices. -/
def indexed {T : Type} (items : List T) : List (Int × T) :=
  items.zipIdx.map fun entry => ((entry.2 : Int), entry.1)

/-- What is registered of the requests. -/
def registered (requests : List (Request Nat Int)) : List (Int × Nat × Int) :=
  indexed (requests.map fun request => (request.number, request.target))

/-- The poses that the requests are matched to, in the order of the requests. -/
def matching (requests : List (Request Nat Int)) (observed : List (PoseEvidence F)) :
    List (PoseEvidence F) :=
  greedy PoseEvidence.collectorSequence PoseEvidence.stampNs observed none requests

structure Matches (requests : List (Request Nat Int)) (observed : List (PoseEvidence F))
    (node : ScenarioControllerNode F) : Prop where
  pending : node.own.s3ObservationRequests = registered requests
  matched : node.own.matchedS3ActorPoses = indexed (matching requests observed)
  chronological : Chronological PoseEvidence.collectorSequence PoseEvidence.stampNs observed
  numbers : ∀ pose ∈ observed, pose.collectorSequence ≤ node.sequence
  stamps : ∀ pose ∈ observed, ∃ last, node.lastPoseStampNs = some last ∧ pose.stampNs ≤ last
  issued : ∀ request ∈ requests, request.number ≤ node.sequence
  targets : requests.Pairwise fun a b => a.target ≤ b.target
  retained : node.actorState.overflowCount = 0 → ∀ pose ∈ matching requests observed,
    pose ∈ node.actorState.items

section Steps

variable {requests : List (Request Nat Int)} {observed : List (PoseEvidence F)}
  {node node' node'' : ScenarioControllerNode F} {transform : Transform F}
    {evidence : PoseEvidence F}
  {stampNs : Int}

theorem Aside.same (hrequests : node'.own.s3ObservationRequests = node.own.s3ObservationRequests)
    (hmatched : node'.own.matchedS3ActorPoses = node.own.matchedS3ActorPoses)
    (hitems : node'.actorState.items = node.actorState.items)
    (hoverflow : node'.actorState.overflowCount = node.actorState.overflowCount)
    (hsequence : node.sequence ≤ node'.sequence)
    (hlast : node'.lastPoseStampNs = node.lastPoseStampNs) :
  Aside node node'
  := ⟨hrequests, hmatched, hitems, hoverflow, hsequence,
    fun last h => ⟨last, hlast.trans h, le_refl _⟩⟩

theorem Aside.refl (node : ScenarioControllerNode F) : Aside node node
  := .same rfl rfl rfl rfl (le_refl _) rfl

theorem Aside.trans (h : Aside node node') (h' : Aside node' node'') : Aside node node''
  where
  requests := h'.requests.trans h.requests
  matched := h'.matched.trans h.matched
  items := h'.items.trans h.items
  overflow := h'.overflow.trans h.overflow
  sequence := h.sequence.trans h'.sequence
  stamps last hlast := by
    obtain ⟨last', hlast', hle⟩ := h.stamps last hlast
    obtain ⟨last'', hlast'', hle'⟩ := h'.stamps last' hlast'
    exact ⟨last'', hlast'', hle.trans hle'⟩

theorem Matches.aside (h : Matches requests observed node) (haside : Aside node node') :
  Matches requests observed node'
  where
  pending := haside.requests.trans h.pending
  matched := haside.matched.trans h.matched
  chronological := h.chronological
  numbers pose hpose := (h.numbers pose hpose).trans haside.sequence
  stamps pose hpose := by
    obtain ⟨last, hlast, hle⟩ := h.stamps pose hpose
    obtain ⟨last', hlast', hle'⟩ := haside.stamps last hlast
    exact ⟨last', hlast', hle.trans hle'⟩
  issued request hrequest := (h.issued request hrequest).trans haside.sequence
  targets := h.targets
  retained := by
    rw [haside.overflow, haside.items]
    exact h.retained

/-! ### Indices -/

section Indices

variable {T : Type} {items : List T} {i : Nat}

theorem getElem?_indexed : (indexed items)[i]? = items[i]?.map fun item => ((i : Int), item)
  := by
  rw [indexed, List.getElem?_map, List.getElem?_zipIdx, Option.map_map, Nat.zero_add]
  rfl

theorem indexed_concat {item : T} : indexed (items ++ [item]) =
    indexed items ++ [((items.length : Int), item)]
  := by
  rw [indexed, List.zipIdx_append, List.map_append, Nat.zero_add]
  rfl

/-- The indices are the natural numbers below the length. -/
theorem indices_indexed : (indexed items).map Prod.fst = (List.range items.length).map Int.ofNat
  := by
  rw [indexed, List.map_map, List.range_eq_range', ← List.zipIdx_map_snd 0 items, List.map_map]
  rfl

theorem mem_indices_indexed : (i : Int) ∈ (indexed items).map Prod.fst ↔ i < items.length
  := by
  rw [indices_indexed, List.mem_map]
  constructor
  · rintro ⟨j, hj, heq⟩
    rw [← Int.ofNat.inj heq]
    apply List.mem_range.mp hj
  · exact fun hi => ⟨i, List.mem_range.mpr hi, rfl⟩

theorem sorted_indexed : (indexed items).mergeSort (fun a b => a.1 ≤ b.1) = indexed items
  := by
  apply List.mergeSort_of_pairwise
  have hindices : ((indexed items).map Prod.fst).Pairwise (· ≤ ·) := by
    rw [indices_indexed, List.pairwise_map]
    exact List.pairwise_le_range.imp fun h => Int.ofNat_le.mpr h
  simpa only [List.pairwise_map, decide_eq_true_eq] using hindices

/-- The item under an index. -/
theorem lookup_indexed : (indexed items).lookup (i : Int) = items[i]?
  := by
  have hlookup : ∀ (start : Nat) (items : List T), start ≤ i →
      ((items.zipIdx start).map fun entry => ((entry.2 : Int), entry.1)).lookup (i : Int)
        = items[i - start]? := by
    intro start items hstart
    induction items generalizing start with
    | nil => rfl
    | cons item items ih =>
        rw [List.zipIdx_cons, List.map_cons, List.lookup_cons]
        rcases hstart.eq_or_lt with rfl | hlt
        · rw [beq_self_eq_true, Nat.sub_self]
          rfl
        · have hne : ((i : Int) == (start : Int)) = false := by
            rw [beq_eq_false_iff_ne]
            exact fun heq => hlt.ne (Int.ofNat.inj heq).symm
          have hsub : i - start = i - (start + 1) + 1 := by omega
          rw [hne, ih (start + 1) hlt, hsub, List.getElem?_cons_succ]
  exact hlookup 0 items (Nat.zero_le i)

end Indices

theorem length_matching_le : (matching requests observed).length ≤ requests.length
  := OrderedMatching.length_greedy_le

/-- The pose is matched to the first request without one, if it has reached the target. -/
theorem Matches.matchingIndex_eq (h : Matches requests observed node)
    (hissued : ∀ request ∈ requests, request.number < evidence.collectorSequence) :
  matchingIndex node.own evidence.collectorSequence evidence.stampNs
    = if reaches PoseEvidence.stampNs requests (matching requests observed).length evidence then
        some ((matching requests observed).length : Int)
      else none
  := by
  rw [matchingIndex, h.pending, registered, sorted_indexed, h.matched]
  have hentry : ∀ (j : Nat) (entry : Int × Nat × Int),
      (indexed (requests.map fun request => (request.number, request.target)))[j]? = some entry →
      ∃ request, requests[j]? = some request ∧
        entry = ((j : Int), request.number, request.target) := by
    intro j entry hj
    rw [getElem?_indexed, List.getElem?_map, Option.map_map, Option.map_eq_some_iff] at hj
    obtain ⟨request, hrequest, rfl⟩ := hj
    exact ⟨request, hrequest, rfl⟩
  have hmatched : ∀ j : Nat, ((indexed (matching requests observed)).map Prod.fst).contains
      (j : Int) = decide (j < (matching requests observed).length) := by
    intro j
    rw [Bool.eq_iff_iff, List.contains_iff_mem, mem_indices_indexed, decide_eq_true_eq]
  generalize (matching requests observed).length = k at hmatched ⊢
  -- An index below the matched ones is taken, and the targets after the next one are not before its
  -- target.
  rw [@List.find?_eq_filter _ _ _ k]
  · rw [getElem?_indexed, List.getElem?_map, reaches]
    cases hk : requests[k]? with
    | none => rfl
    | some request =>
        have hnumber := decide_eq_true (hissued request (List.mem_of_getElem? hk))
        rw [Option.map_some, Option.map_some, Option.filter_some, Option.any_some]
        simp only [hmatched, hnumber, lt_irrefl, decide_false, Bool.not_false, Bool.true_and]
        split
        · rfl
        · rfl
  · intro j entry hj hentry'
    obtain ⟨request, -, rfl⟩ := hentry j entry hentry'
    dsimp only
    rw [hmatched, decide_eq_true hj]
    rfl
  · intro j first later hj hfirst hlater hwaits
    obtain ⟨request, hrequest, rfl⟩ := hentry k first hfirst
    obtain ⟨request', hrequest', rfl⟩ := hentry j later hlater
    obtain ⟨hlength, rfl⟩ := List.getElem?_eq_some_iff.mp hrequest
    obtain ⟨hlength', rfl⟩ := List.getElem?_eq_some_iff.mp hrequest'
    have hle := List.pairwise_iff_getElem.mp h.targets k j hlength hlength' hj
    have htarget := of_decide_eq_true (Bool.and_eq_true_iff.mp hwaits).2
    dsimp only
    rw [hmatched, decide_eq_false (lt_irrefl k),
      decide_eq_true (hissued _ (List.getElem_mem hlength)), decide_eq_true (hle.trans htarget)]
    rfl

/-! ### Callbacks -/

theorem aside_setFatal {error : Failure} : Aside node (node.setFatal error)
  := by
  unfold Node.setFatal
  split
  · exact .same rfl rfl rfl rfl (le_refl _) rfl
  · exact .refl node

theorem aside_setCleanupFatal {error : Failure} : Aside node (node.setCleanupFatal error)
  := by
  unfold Node.setCleanupFatal
  split
  · exact .same rfl rfl rfl rfl (le_refl _) rfl
  · exact .refl node

theorem aside_nextSequence : Aside node node.nextSequence
  := .same rfl rfl rfl rfl (Nat.le_succ _) rfl

theorem aside_countPose : Aside node (node.countPose evidence)
  := by
  unfold Node.countPose
  split
  · exact .same rfl rfl rfl rfl (le_refl _) rfl
  · exact .refl node

theorem aside_onHeartbeat (h : node.onHeartbeat transform = .ok node') : Aside node node'
  := by
  unfold Node.onHeartbeat at h
  obtain ⟨stampNs, -, h⟩ := Except.bind_eq_ok_iff.mp h
  split at h
  · cases h
  · split at h
    · cases h
    · dsimp only at h
      split at h
      · cases h
        exact .same rfl rfl rfl rfl (Nat.le_succ _) rfl
      · cases h
        exact .same rfl rfl rfl rfl (le_refl _) rfl

section Poses

variable [PoseFloat F]

theorem aside_checkSpawn : Aside node (checkSpawn evidence node).2
  := by
  unfold checkSpawn
  split
  case h_1 => exact .refl node
  case h_2 =>
    dsimp only
    split
    · split
      · exact .same rfl rfl rfl rfl (le_refl _) rfl
      · exact .same rfl rfl rfl rfl (le_refl _) rfl
    · split
      · exact .refl node
      · exact .refl node

omit [PoseFloat F] in
theorem aside_onClock {stamp : Time} : Aside node (onClock stamp node).2
  := by
  unfold onClock Node.onClock
  split
  · exact .refl node
  · split
    · exact .same rfl rfl rfl rfl (le_refl _) rfl
    · exact .same rfl rfl rfl rfl (le_refl _) rfl

/-- A pose that passes the checks has the last stamp of the actor. -/
theorem checkPose_spec {regressed invalid : String} :
  Aside node (node.checkPose regressed invalid transform).2
    ∧ ∀ stampNs yaw, (node.checkPose regressed invalid transform).1 = .ok (stampNs, yaw) →
      (node.checkPose regressed invalid transform).2.lastPoseStampNs = some stampNs
  := by
  unfold Node.checkPose
  split
  case h_1 => exact ⟨.refl node, nofun⟩
  case h_2 stampNs _ =>
    split
    case isTrue => exact ⟨.same rfl rfl rfl rfl (le_refl _) rfl, nofun⟩
    case isFalse hregressed =>
      have hstamps : ∀ last, node.lastPoseStampNs = some last →
          ∃ last', some stampNs = some last' ∧ last ≤ last' := by
        intro last hlast
        rw [hlast] at hregressed
        exact ⟨stampNs, rfl, by simpa using hregressed⟩
      dsimp only
      split
      case isTrue => exact ⟨⟨rfl, rfl, rfl, rfl, le_refl _, hstamps⟩, nofun⟩
      case isFalse =>
        split
        · exact ⟨⟨rfl, rfl, rfl, rfl, le_refl _, hstamps⟩, nofun⟩
        · refine ⟨⟨rfl, rfl, rfl, rfl, le_refl _, hstamps⟩, ?_⟩
          rintro stampNs' yaw' ⟨⟩
          rfl

omit [PoseFloat F] in
/-- A pose is retained when it changed, unless the buffer turns it away. -/
theorem retainPose_spec {isChanged : Bool} :
  (node.retainPose evidence isChanged).2.own = node.own
    ∧ (node.retainPose evidence isChanged).2.sequence = node.sequence
    ∧ (node.retainPose evidence isChanged).2.lastPoseStampNs = node.lastPoseStampNs
    ∧ ((node.retainPose evidence isChanged).2.actorState.overflowCount = 0 →
      node.actorState.overflowCount = 0
      ∧ (∀ pose ∈ node.actorState.items, pose ∈
        (node.retainPose evidence isChanged).2.actorState.items)
      ∧ (isChanged = true → evidence ∈ (node.retainPose evidence isChanged).2.actorState.items))
  := by
  unfold Node.retainPose
  cases isChanged with
  | false =>
      rw [if_neg Bool.false_ne_true]
      exact ⟨rfl, rfl, rfl, fun h => ⟨h, fun _ hpose => hpose, nofun⟩⟩
  | true =>
      rw [if_pos rfl]
      cases hadd : node.actorState.add evidence evidence.collectorSequence evidence.stampNs with
      | mk result buffer =>
          cases result with
          | error e =>
              refine ⟨rfl, rfl, rfl, ?_⟩
              intro hzero
              have hcount := (PrefixBuffer.add_overflow hadd).2
              dsimp only at hzero
              rw [hzero] at hcount
              cases hcount
          | ok u =>
              obtain ⟨hitems, hcount⟩ := PrefixBuffer.add_items hadd
              refine ⟨rfl, rfl, rfl, ?_⟩
              dsimp only
              rw [hitems, hcount]
              exact fun h => ⟨h, fun _ hpose => List.mem_append_left _ hpose,
                fun _ => List.mem_append_right _ (List.mem_singleton_self _)⟩

omit [PoseFloat F] in
/-- The matching with a new pose. -/
theorem Matches.matching_concat (h : Matches requests observed node)
    (hnumber : evidence.collectorSequence = node.sequence + 1) :
  matching requests (observed ++ [evidence])
    = matching requests observed
      ++ if reaches PoseEvidence.stampNs requests (matching requests observed).length evidence
        then [evidence]
        else []
  := by
  apply OrderedMatching.greedy_concat
  · intro pose hpose
    rw [hnumber]
    apply Nat.lt_succ_of_le (h.numbers pose hpose)
  · intro request hrequest
    rw [hnumber]
    apply Nat.lt_succ_of_le (h.issued request hrequest)
  · nofun

omit [PoseFloat F] in
/-- A numbered pose is matched, and retained when it is matched. -/
theorem Matches.retain {isChanged : Bool} {result : Except Failure Unit}
    {after : ScenarioControllerNode F} (h : Matches requests observed node)
    (hnumber : evidence.collectorSequence = node.sequence + 1)
    (hlast : node.lastPoseStampNs = some evidence.stampNs)
    (hchanged : (matchingIndex node.own evidence.collectorSequence evidence.stampNs).isSome = true →
      isChanged = true)
    (hretain : ((matchingIndex node.own evidence.collectorSequence evidence.stampNs).elim
      node.nextSequence
      fun index => { node.nextSequence with own := { node.own with
        matchedS3ActorPoses := node.own.matchedS3ActorPoses ++ [(index, evidence)] } }).retainPose
          evidence
      isChanged = (result, after)) :
  Matches requests (observed ++ [evidence]) after
  := by
  have hindex := @Matches.matchingIndex_eq _ _ _ _ evidence h <| by
    intro request hrequest
    rw [hnumber]
    apply Nat.lt_succ_of_le (h.issued request hrequest)
  have hmatching := h.matching_concat hnumber
  generalize hk : (matching requests observed).length = k at hindex hmatching
  have hnode : ∀ matched : ScenarioControllerNode F,
      matched.retainPose evidence isChanged = (result, after) →
      matched.sequence = node.sequence + 1 → matched.lastPoseStampNs = node.lastPoseStampNs →
      matched.actorState = node.actorState →
      matched.own.s3ObservationRequests = node.own.s3ObservationRequests →
      matched.own.matchedS3ActorPoses = indexed (matching requests (observed ++ [evidence])) →
      (∀ pose ∈ matching requests (observed ++ [evidence]),
        pose ∈ matching requests observed ∨ pose = evidence ∧ isChanged = true) →
      Matches requests (observed ++ [evidence]) after := by
    intro matched hresult hsequence hstamp hbuffer hrequests hmatched hnew
    obtain ⟨hown, hsequence', hstamp', hretained⟩ := @retainPose_spec _ matched evidence isChanged
    rw [hresult] at hown hsequence' hstamp' hretained
    exact {
      pending := by rw [hown, hrequests, h.pending]
      matched := by rw [hown, hmatched]
      chronological := by
        rw [Chronological, List.pairwise_append]
        refine ⟨h.chronological, List.pairwise_singleton _ _, ?_⟩
        intro pose hpose new hnew
        rw [List.mem_singleton.mp hnew, hnumber]
        obtain ⟨last, hlast', hle⟩ := h.stamps pose hpose
        rw [hlast] at hlast'
        rw [Option.some.inj hlast']
        exact ⟨Nat.lt_succ_of_le (h.numbers pose hpose), hle⟩
      numbers := by
        intro pose hpose
        rw [hsequence', hsequence]
        rcases List.mem_append.mp hpose with hpose | hpose
        · exact Nat.le_succ_of_le (h.numbers pose hpose)
        · rw [List.mem_singleton.mp hpose, hnumber]
      stamps := by
        intro pose hpose
        rw [hstamp', hstamp]
        rcases List.mem_append.mp hpose with hpose | hpose
        · apply h.stamps pose hpose
        · rw [List.mem_singleton.mp hpose]
          exact ⟨_, hlast, le_refl _⟩
      issued := by
        intro request hrequest
        rw [hsequence', hsequence]
        exact Nat.le_succ_of_le (h.issued request hrequest)
      targets := h.targets
      retained := by
        intro hzero pose hpose
        obtain ⟨hroom, hkept, hadded⟩ := hretained hzero
        rw [hbuffer] at hroom hkept
        rcases hnew pose hpose with hold | ⟨rfl, hadd⟩
        · apply hkept pose (h.retained hroom pose hold)
        · apply hadded hadd }
  cases hreaches : reaches PoseEvidence.stampNs requests k evidence with
  | true =>
      rw [hreaches, if_pos rfl] at hindex hmatching
      rw [hindex] at hchanged hretain
      refine hnode _ hretain rfl rfl rfl rfl ?_ ?_
      · rw [hmatching, indexed_concat, ← h.matched, hk]
        rfl
      · intro pose hpose
        rw [hmatching] at hpose
        rcases List.mem_append.mp hpose with hpose | hpose
        · exact .inl hpose
        · exact .inr ⟨List.mem_singleton.mp hpose, hchanged rfl⟩
  | false =>
      rw [hreaches, if_neg Bool.false_ne_true] at hindex hmatching
      rw [List.append_nil] at hmatching
      rw [hindex] at hretain
      refine hnode _ hretain rfl rfl rfl rfl ?_ ?_
      · rw [hmatching]
        exact h.matched
      · intro pose hpose
        rw [hmatching] at hpose
        exact .inl hpose

/-- A pose of the actor is matched as the ordered matching does. -/
theorem Matches.onActorPose (h : Matches requests observed node) :
  Matches requests (observed ++ (poseOf transform node).toList) (onActorPose transform node).2
  := by
  unfold ScenarioController.onActorPose poseOf
  obtain ⟨haside, hlast⟩ := @checkPose_spec _ node transform _ "scenario actor pose stamp regressed"
    "actor pose stream contains invalid frame or position"
  cases hcheck : node.checkPose "scenario actor pose stamp regressed"
      "actor pose stream contains invalid frame or position" transform with
  | mk result next =>
      rw [hcheck] at haside hlast
      have hnext := h.aside haside
      cases result with
      | error e =>
          dsimp only
          rw [Option.toList_none, List.append_nil]
          exact hnext
      | ok checked =>
          obtain ⟨stampNs, yaw⟩ := checked
          dsimp only
          rw [Option.toList_some]
          have hretain := fun isChanged result after => @Matches.retain _ _ _ _
            ⟨next.sequence + 1, stampNs, transform.x, transform.y, transform.z,
              yaw⟩ isChanged result after hnext
            rfl (hlast stampNs yaw rfl)
          split
          case h_1 e after heq =>
            refine hretain _ _ after ?_ heq
            intro hindex
            exact Bool.or_eq_true_iff.mpr (.inr hindex)
          case h_2 after heq =>
            have hafter := hretain _ _ after
              (fun hindex => Bool.or_eq_true_iff.mpr (.inr hindex)) heq
            apply (hafter.aside (.trans _ aside_countPose)).aside aside_checkSpawn
            exact .same rfl rfl rfl rfl (le_refl _) rfl

theorem Matches.onTransform {actorName : String} (h : Matches requests observed node) :
  Matches requests (observed ++ (transformPose actorName transform node).toList)
    (Node.onTransform actorName ScenarioController.onActorPose transform node).2
  := by
  unfold Node.onTransform transformPose
  have hheartbeat : ∀ next, (if transform.childFrameId = ENTITY_POSE_HEARTBEAT_MODEL then
      node.onHeartbeat transform else .ok node) = .ok next → Matches requests observed next := by
    intro next hnext
    split at hnext
    · apply h.aside (aside_onHeartbeat hnext)
    · cases hnext
      exact h
  cases hbeat : (if transform.childFrameId = ENTITY_POSE_HEARTBEAT_MODEL then
      node.onHeartbeat transform else .ok node) with
  | error e =>
      dsimp only
      rw [Option.toList_none, List.append_nil]
      exact h
  | ok next =>
      dsimp only
      split
      case isTrue =>
        rw [Option.toList_none, List.append_nil]
        apply hheartbeat next hbeat
      case isFalse => exact (hheartbeat next hbeat).onActorPose

theorem Matches.eachTransform {actorName : String} {transforms : List (Transform F)}
    (h : Matches requests observed node) :
  Matches requests (observed ++ transformPoses actorName transforms node)
    (Node.eachTransform (Node.onTransform actorName ScenarioController.onActorPose)
      transforms node).2
  := by
  induction transforms generalizing observed node with
  | nil =>
      rw [transformPoses, List.append_nil]
      exact h
  | cons transform transforms ih =>
      have hfirst := @Matches.onTransform _ _ _ _ transform _ actorName h
      rw [transformPoses, Node.eachTransform, ← List.append_assoc]
      cases hon : Node.onTransform actorName ScenarioController.onActorPose transform node with
      | mk result next =>
          rw [hon] at hfirst
          cases result with
          | error e =>
              dsimp only
              rw [List.append_nil]
              exact hfirst
          | ok u => exact ih hfirst

/-- A guarded callback keeps the matching. -/
theorem Matches.receive (callback : Callback F) (h : Matches requests observed node) :
  Matches requests (observed ++ actorPoses callback node) (receive callback node)
  := by
  have hguard : ∀ (on : ScenarioControllerNode F → Except Failure Unit × ScenarioControllerNode F)
      (observed' : List (PoseEvidence F)),
      (¬ (node.fatalError.isSome && !node.cleanupMode) = true →
        Matches requests observed' (on node).2) →
      ((node.fatalError.isSome && !node.cleanupMode) = true → Matches requests observed' node) →
      Matches requests observed' (Node.guard "unhandled callback error: " on node) := by
    intro on observed' hon hblocked
    unfold Node.guard
    split
    case isTrue hfatal => exact hblocked hfatal
    case isFalse hfatal =>
      have hafter := hon hfatal
      split
      case h_1 heq =>
        rw [heq] at hafter
        exact hafter
      case h_2 heq =>
        rw [heq] at hafter
        dsimp only
        split
        · split
          · apply hafter.aside aside_setCleanupFatal
          · apply hafter.aside aside_setCleanupFatal
        · split
          · apply hafter.aside aside_setFatal
          · apply hafter.aside aside_setFatal
  cases callback with
  | clock stamp =>
      rw [actorPoses, List.append_nil]
      apply hguard
      · exact fun _ => h.aside aside_onClock
      · exact fun _ => h
  | entityPoses transforms =>
      apply hguard
      · intro hfatal
        rw [actorPoses, if_neg hfatal, onEntityPoses]
        cases node.own.document.actorName with
        | none =>
            dsimp only
            rw [List.append_nil]
            exact h
        | some actorName =>
            apply Matches.eachTransform
            exact h.aside (.same rfl rfl rfl rfl (le_refl _) rfl)
      · intro hfatal
        rw [actorPoses, if_pos hfatal, List.append_nil]
        exact h

end Poses

/-- The next request is registered. -/
theorem Matches.request {requestSequence : Nat} {targetStampNs : Int}
    (h : Matches requests observed node)
    (hissued : requestSequence ≤ node.sequence)
    (hnumber : ∀ pose ∈ observed, pose.collectorSequence < requestSequence)
    (htarget : ∀ request ∈ requests, request.target ≤ targetStampNs) :
  ∃ node', registerObservation requests.length requestSequence targetStampNs node = (.ok (), node')
    ∧ Matches (requests ++ [⟨requestSequence, targetStampNs⟩]) observed node'
  := by
  have hindices : ¬ (node.own.s3ObservationRequests.map Prod.fst).contains
      (requests.length : Int) = true := by
    rw [List.contains_iff_mem, h.pending, registered, mem_indices_indexed, List.length_map]
    apply lt_irrefl
  have hmatching : matching (requests ++ [⟨requestSequence, targetStampNs⟩]) observed
      = matching requests observed := OrderedMatching.greedy_request hnumber
  rw [registerObservation, if_neg hindices]
  refine ⟨_, rfl, ?_⟩
  exact {
    pending := by
      dsimp only
      rw [h.pending, registered, registered, List.map_append, List.map_singleton, indexed_concat,
        List.length_map]
    matched := by
      rw [hmatching]
      exact h.matched
    chronological := h.chronological
    numbers := h.numbers
    stamps := h.stamps
    issued := by
      intro request hrequest
      rcases List.mem_append.mp hrequest with hrequest | hrequest
      · apply h.issued request hrequest
      · rw [List.mem_singleton.mp hrequest]
        exact hissued
    targets := by
      rw [List.pairwise_append]
      refine ⟨h.targets, List.pairwise_singleton _ _, ?_⟩
      intro request hrequest new hnew
      rw [List.mem_singleton.mp hnew]
      apply htarget request hrequest
    retained := by
      rw [hmatching]
      exact h.retained }

theorem Matches.initial (hrequests : node.own.s3ObservationRequests = [])
    (hmatched : node.own.matchedS3ActorPoses = []) :
  Matches [] [] node
  where
  pending := hrequests
  matched := hmatched
  chronological := .nil
  numbers := nofun
  stamps := nofun
  issued := nofun
  targets := .nil
  retained _ := nofun

end Steps

/-- In every state that is reached, the poses are matched as the ordered matching does. -/
theorem Reaches.matches [PoseFloat F] {requests : List (Request Nat Int)}
    {observed : List (PoseEvidence F)}
    {node : ScenarioControllerNode F} (h : Reaches requests observed node) :
  Matches requests observed node
  := by
  induction h with
  | initial hrequests hmatched => exact .initial hrequests hmatched
  | request requestSequence targetStampNs _ hissued hnumber htarget hregister ih =>
      obtain ⟨node', hregister', hmatches⟩ := ih.request hissued hnumber htarget
      rw [hregister] at hregister'
      cases hregister'
      exact hmatches
  | callback callback _ ih => exact ih.receive callback
  | other _ haside ih => exact ih.aside haside

/-! ### The assignment -/

/-- The requests are registered under the indices 0, 1, 2 and so on, and a prefix of these indices
is matched. A request is matched to the first pose that is numbered after the request and after the
pose of the request before it, and whose stamp has reached the target. The numbers of the matched
poses increase, their stamps do not decrease, and they are retained unless a pose was turned
away. -/
structure Assignment (requests : List (Request Nat Int)) (observed : List (PoseEvidence F))
    (node : ScenarioControllerNode F) : Prop where
  requested : node.own.s3ObservationRequests.map Prod.fst =
    (List.range requests.length).map Int.ofNat
  request : ∀ i : Nat, node.own.s3ObservationRequests.lookup (i : Int)
    = requests[i]?.map fun request => (request.number, request.target)
  matched : ∃ k ≤ requests.length,
    node.own.matchedS3ActorPoses.map Prod.fst = (List.range k).map Int.ofNat
  first : ∀ (request : Request Nat Int), requests[0]? = some request →
    node.own.matchedS3ActorPoses.lookup 0 = observed.find? fun pose =>
      request.number < pose.collectorSequence && request.target ≤ pose.stampNs
  next : ∀ (i : Nat) (request : Request Nat Int) (previous : PoseEvidence F),
    requests[i + 1]? = some request →
      node.own.matchedS3ActorPoses.lookup (i : Int) = some previous →
    node.own.matchedS3ActorPoses.lookup ((i + 1 : Nat) : Int) = observed.find? fun pose =>
      request.number < pose.collectorSequence && previous.collectorSequence < pose.collectorSequence
        && request.target ≤ pose.stampNs
  increasing : ∀ (i j : Nat) (pose pose' : PoseEvidence F), i < j →
    node.own.matchedS3ActorPoses.lookup (i : Int) = some pose →
    node.own.matchedS3ActorPoses.lookup (j : Int) = some pose' →
    pose.collectorSequence < pose'.collectorSequence ∧ pose.stampNs ≤ pose'.stampNs
  retained : node.actorState.overflowCount = 0 → ∀ (i : Nat) (pose : PoseEvidence F),
    node.own.matchedS3ActorPoses.lookup (i : Int) = some pose → pose ∈ node.actorState.items

/-- What is matched in order is the assignment. -/
theorem Matches.assignment {requests : List (Request Nat Int)} {observed : List (PoseEvidence F)}
    {node : ScenarioControllerNode F} (h : Matches requests observed node) :
  Assignment requests observed node
  where
  requested := by
    rw [h.pending, registered, indices_indexed, List.length_map]
  request i := by
    rw [h.pending, registered, lookup_indexed, List.getElem?_map]
  matched := by
    refine ⟨(matching requests observed).length, length_matching_le, ?_⟩
    rw [h.matched, indices_indexed]
  first request hrequest := by
    rw [h.matched]
    have hlookup := @lookup_indexed _ (matching requests observed) 0
    rw [Nat.cast_zero] at hlookup
    rw [hlookup, matching, OrderedMatching.getElem?_greedy hrequest (Nat.zero_le _)]
    congr 1
    funext pose
    rw [Request.admits, OrderedMatching.previous, Option.all_none, Bool.and_true]
  next i request previous hrequest hprevious := by
    rw [h.matched, lookup_indexed] at hprevious ⊢
    have hlength := (List.getElem?_eq_some_iff.mp hprevious).1
    rw [matching] at hlength hprevious ⊢
    rw [OrderedMatching.getElem?_greedy hrequest hlength]
    congr 1
    funext pose
    rw [Request.admits, OrderedMatching.previous, hprevious, Option.map_some, Option.all_some]
  increasing i j pose pose' hij hpose hpose' := by
    rw [h.matched, lookup_indexed] at hpose hpose'
    obtain ⟨hi, rfl⟩ := List.getElem?_eq_some_iff.mp hpose
    obtain ⟨hj, rfl⟩ := List.getElem?_eq_some_iff.mp hpose'
    apply List.pairwise_iff_getElem.mp h.chronological.pairwise_greedy i j hi hj hij
  retained hroom i pose hpose := by
    rw [h.matched, lookup_indexed] at hpose
    apply h.retained hroom pose (List.mem_of_getElem? hpose)

end ScenarioController

end Scenarios

end RobotestLab
