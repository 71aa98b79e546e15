import RobotestLab.Metrics.CleanupProof
import RobotestLab.Scenarios.Anchors
import RobotestLab.Scenarios.Observing

/-!
# The absence of the entity

What the cleanup shows when its record says that the entity is absent: there is an anchor that is
newer than the delete response and than every pose before it, no pose comes after it until the drain
is over, the heartbeats span the quiet interval, and the metrics accept the proof (`ProvedAbsent`).
The steady clock does not go backwards. The loop of the observation follows the `Watch`, so the
record is right exactly when the deliveries are fair (`Sound`).
-/

namespace RobotestLab

namespace Scenarios

open Program

variable {F X : Type}

/-! ### The environment -/

/-- The readings of the steady clock are positive and do not decrease. -/
def SteadyClock (env : (cleanupSignature F).Environment) : Prop :=
  ∀ (h : List (cleanupSignature F).Interaction) (t : Int), (env h .monotonicNs).result = .ok t →
    1 ≤ t ∧ ∀ t' : Int, (⟨.monotonicNs, .ok t'⟩ : (cleanupSignature F).Interaction) ∈ h → t' ≤ t

/-- A drain from the first reading of the steady clock to the second, with a spin. -/
def Drained (startNs completeNs : Int) (h : List (cleanupSignature F).Interaction) : Prop :=
  ∃ u v w, h = u ++ ⟨.monotonicNs, .ok startNs⟩ :: (v ++ ⟨.monotonicNs, .ok completeNs⟩ :: w) ∧
    (∃ t r, (⟨.spinOnce t, r⟩ : (cleanupSignature F).Interaction) ∈ v) ∧
    ∀ i ∈ w, i.1.isIdle = true

/-! ### The claim of the record -/

/-- What an absent entity means: the proof has the response, the anchor, the span of the heartbeats,
the drain and the counts, and it is accepted. -/
structure ProvedAbsent (c : Collected) (h : List (cleanupSignature F).Interaction)
    (proof : CleanupProof) : Prop where
  response : c.response = some (proof.responseSequence, proof.responseStampNs)
  anchor : ∃ quietStart sequence before after, proof.quietStartSimStampNs = some quietStart ∧
    c.after = before ++ ⟨⟨.heartbeat, quietStart⟩, sequence⟩ :: after ∧
    proof.responseStampNs < quietStart ∧ proof.responseSequence < sequence ∧
    (∀ pose ∈ c.before ++ before, pose.origin = .pose →
      pose.stampNs < quietStart ∧ pose.sequence < sequence) ∧
    (∀ o ∈ after, o.origin ≠ .pose) ∧
    (∃ later ∈ after, later.origin = .heartbeat ∧
      quietStart + ACTOR_CLEANUP_QUIET_NS ≤ later.stampNs) ∧
    quietStart + ACTOR_CLEANUP_QUIET_NS ≤ proof.responseStampNs + ACTOR_CLEANUP_OBSERVATION_NS
  drain : ∃ startNs completeNs, proof.ddsDrainStartSteadyNs = some startNs ∧
    proof.ddsDrainCompleteSteadyNs = some completeNs ∧ 1 ≤ proof.ddsDrainSpinCount ∧
    startNs + DRAIN_GRACE_NS ≤ completeNs ∧ Drained startNs completeNs h
  counts : ∃ last, latest .heartbeat c.after = some last ∧
    last.sequence = proof.responseSequence +
      ((ofOrigin .heartbeat c.after).length + (ofOrigin .pose c.after).length)
  valid : Metrics.validateActorCleanupProof (.dict proof.asDict) = .ok ()

/-! ### The observation -/

/-- A session that observes the stream after the response. -/
structure Observes (Own : X → Prop) (deletion : Deletion) (c : Collected) (s : Session F X) : Prop
    extends Listening Own c s where
  response : c.response = some (deletion.responseSequence, deletion.responseStampNs)

namespace Observes

variable {Own : X → Prop} {deletion : Deletion} {c : Collected} {s : Session F X} {name : String}
  {receive : Callback F → Node F X → Node F X}

theorem counts (hs : Observes Own deletion c s) : Counts c.after s.node :=
  hs.tracks.counts _ hs.response

theorem inOrder (hs : Observes Own deletion c s) :
  InOrder deletion.responseSequence c.after s.node
  := hs.tracks.inOrder _ hs.response

/-- A spin adds what it delivers. -/
theorem deliver (hlistens : Listens Own name receive) (hs : Observes Own deletion c s)
    {callbacks : List (Callback F)}
    (hfatal : (s.deliver receive callbacks).node.cleanupFatalError = none) :
  Observes Own deletion (callbacks.foldl (Collected.callback name) c)
    (s.deliver receive callbacks) ∧
    (callbacks.foldl (Collected.callback name) c).after =
      c.after ++ numbered c.number (receptions name callbacks) ∧
    s.node.postDeletePoseCount ≤ (s.deliver receive callbacks).node.postDeletePoseCount
  := by
  obtain ⟨hlistening, -⟩ := hs.toListening.deliver hlistens hfatal
  have hsome : c.response.isSome := by
    rw [hs.response]
    rfl
  obtain ⟨hresponse, hbefore, hafter⟩ := @Collected.spin_after _ name _ hsome callbacks
  have hs' : Observes Own deletion (callbacks.foldl (Collected.callback name) c)
      (s.deliver receive callbacks) := ⟨hlistening, hresponse.trans hs.response⟩
  refine ⟨hs', hafter, ?_⟩
  rw [hs.counts.poseCount, hs'.counts.poseCount, hafter]
  simp [ofOrigin]

/-- Changes of the record and of the local variables. -/
theorem record (hs : Observes Own deletion c s) {record : CleanupRecord} {window : Window}
    (hrecord : record.actorAbsent = s.cleanup.actorAbsent) :
  Observes Own deletion c { s with cleanup := record, window := window }
  := ⟨⟨hs.mode, hs.own, hs.tracks, hrecord.trans hs.pending⟩, hs.response⟩

end Observes

/-- What is collected before the cleanup. Of the earlier poses, the node holds the last stamp. -/
def Session.start (s : Session F X) : Collected where
  number := s.node.sequence
  clockNs := s.node.currentSimStampNs
  before := (s.node.lastPoseStampNs.map fun stampNs => ⟨⟨.pose, stampNs⟩, s.node.sequence⟩).toList

section Observation

variable {Own : X → Prop} {deletion : Deletion} {name : String}
  {env : (cleanupSignature F).Environment} {start : Collected} {app : Application F X}
  {s : Session F X} {h : List (cleanupSignature F).Interaction}

/-- While an anchor is awaited, past a stamp and a number: what is held passes when the source has
advanced, and nothing is held otherwise. -/
structure AwaitsAnchor (Own : X → Prop) (deletion : Deletion) (window : Window) (ns : Int) (n : Nat)
    (count : Nat) (watch : Watch) (c : Collected) (s : Session F X) : Prop
    extends Observes Own deletion c s where
  window_eq : s.window = window
  count_le : count ≤ s.node.postDeletePoseCount
  floor : watch.floor deletion.responseStampNs = window.anchorFloorNs
  floor_le : window.anchorFloorNs ≤ ns
  stamp_le : ns ≤ window.anchorFloorNs ∨ ns ≤ 0 ∨
    ∃ pose ∈ c.after, pose.origin = .pose ∧ ns ≤ pose.stampNs
  sequence_le : n ≤ deletion.responseSequence ∨ ∃ o ∈ c.after, n ≤ o.sequence
  anchor : watch.anchor =
    if sourceAdvanced ns n s.node then passing window.anchorFloorNs c.after else none

/-- While a heartbeat is held since a number of poses: it is held as long as no pose comes, and a
pose leaves what is settled behind it. -/
structure Watch.Holds (quietStartNs : Int) (count poses : Nat) (os : List Observation)
    (watch : Watch) : Prop where
  held : poses = count → watch.anchor = some quietStartNs
  ended : count < poses → watch.former = some quietStartNs ∧ watch.anchor = settled quietStartNs os

variable {count : Nat}

theorem Watch.Holds.spin {quietStartNs responseStampNs : Int} {os news : List Observation}
    {watch : Watch} (h : Watch.Holds quietStartNs count count os watch) :
  Watch.Holds quietStartNs count (count + (ofOrigin .pose news).length) (os ++ news)
    (watch.spin responseStampNs os news)
  := by
  have hanchor := h.held rfl
  have hmem : ∀ o, o ∈ ofOrigin .pose news ↔ o ∈ news ∧ o.origin = .pose := by
    intro o
    simp [ofOrigin]
  constructor
  · intro hnone
    have hnil : ofOrigin .pose news = [] := by
      apply List.eq_nil_of_length_eq_zero
      omega
    rw [Watch.spin_of_anchor hanchor]
    · exact hanchor
    · intro o ho horigin
      have := (hmem o).mpr ⟨ho, horigin⟩
      rw [hnil] at this
      cases this
  · intro hsome
    obtain ⟨pose, hpose⟩ := List.exists_mem_of_length_pos
      (show 0 < (ofOrigin .pose news).length by omega)
    rw [Watch.spin_of_pose hanchor ⟨pose, (hmem pose).mp hpose⟩]
    exact ⟨rfl, rfl⟩

/-- While the stream is quiet. -/
structure StaysQuiet (Own : X → Prop) (deletion : Deletion) (window : Window) (quietStartNs : Int)
    (count : Nat) (watch : Watch) (c : Collected) (s : Session F X) : Prop
    extends Observes Own deletion c s where
  window_eq : s.window = window
  count_le : count ≤ s.node.postDeletePoseCount
  holds : Watch.Holds quietStartNs count s.node.postDeletePoseCount c.after watch

variable {os : List Observation} {ns : Int} {n : Nat}

/-- The source has advanced when the last heartbeat is past the stamp and the number. -/
theorem sourceAdvanced_eq_true {node : Node F X} (h : Counts os node) :
  sourceAdvanced ns n node = true ↔
    ∃ o, latest .heartbeat os = some o ∧ ns < o.stampNs ∧ n < o.sequence
  := by
  unfold sourceAdvanced
  rw [h.heartbeatStamp, h.heartbeatSequence]
  cases latest .heartbeat os with
  | none => simp
  | some o => simp

/-- What a spin brings to the watch after the response. -/
theorem Observes.watched_spin (hs : Observes Own deletion (collected name env start h) s) {t : F} :
  watched name env start (h ++ [⟨.spinOnce t, .ok ()⟩]) =
    (watched name env start h).spin deletion.responseStampNs (collected name env start h).after
      (numbered (collected name env start h).number
        (receptions name (env h (.spinOnce t)).callbacks))
  := by
  have hsome : (collected name env start h).response.isSome := by
    rw [hs.response]
    rfl
  obtain ⟨hresponse, -, hafter⟩ :=
    @Collected.spin_after _ name _ hsome (env h (.spinOnce t)).callbacks
  have hresponse' : (collected name env start (h ++ [⟨.spinOnce t, .ok ()⟩])).response =
      some (deletion.responseSequence, deletion.responseStampNs) := by
    rw [collected_concat]
    exact hresponse.trans hs.response
  have hafter' : later name env start h (h ++ [⟨.spinOnce t, .ok ()⟩]) =
      numbered (collected name env start h).number
        (receptions name (env h (.spinOnce t)).callbacks) := by
    rw [later, collected_concat]
    change ((env h (.spinOnce t)).callbacks.foldl (Collected.callback name) _).after.drop _ = _
    rw [hafter, List.drop_left]
  rw [watched_concat, hafter']
  split
  · rename_i hnone
    rw [hresponse'] at hnone
    cases hnone
  · rename_i response hsome'
    obtain rfl := Option.some.inj (hresponse'.symm.trans hsome')
    rfl

/-- A heartbeat among new observations that passes advances the source. -/
theorem Observes.sourceAdvanced {c : Collected} {os news : List Observation} {floor ns q : Int}
    (hs : Observes Own deletion c s) (hafter : c.after = os ++ news)
    (hheartbeat : ∃ o ∈ news, o.origin = .heartbeat) (hpassing : passing floor c.after = some q)
    (hstamp : ns ≤ floor ∨ ns ≤ 0 ∨ ∃ pose ∈ c.after, pose.origin = .pose ∧ ns ≤ pose.stampNs)
    (hsequence : n ≤ deletion.responseSequence ∨ ∃ o ∈ os, n ≤ o.sequence) :
  sourceAdvanced ns n s.node = true
  := by
  obtain ⟨⟨o, hlatest, rfl⟩, hfloor, hposes⟩ := passing_eq_some.mp hpassing
  rw [sourceAdvanced_eq_true hs.counts]
  have hmem := (latest_mem hlatest).1
  refine ⟨o, hlatest, ?_, ?_⟩
  · have hpositive := hs.inOrder.positive o hmem
    rcases hstamp with hle | hle | ⟨pose, hpose, horigin, hle⟩
    · exact lt_of_le_of_lt hle hfloor
    · omega
    · exact lt_of_le_of_lt hle (hposes pose hpose horigin)
  · have hnewest : o ∈ news := by
      rw [hafter, latest_append_of_mem hheartbeat] at hlatest
      exact (latest_mem hlatest).1
    have hsequences := hs.inOrder.sequences
    rw [hafter, List.pairwise_append] at hsequences
    rcases hsequence with hle | ⟨o', ho', hle⟩
    · exact lt_of_le_of_lt hle (hs.inOrder.numbers o hmem).1
    · exact lt_of_le_of_lt hle (hsequences.2.2 o' ho' o hnewest)

variable {window : Window}

theorem AwaitsAnchor.spins (hlistens : Listens Own name app.receive) {n count : Nat} :
  KeptBySpins env app (fun node => sourceAdvanced ns n node = false) fun s h =>
    AwaitsAnchor Own deletion window ns n count (watched name env start h)
      (collected name env start h) s
  := by
  intro s h t hs hbefore hfatal
  obtain ⟨hobserves, hafter, hcount⟩ := hs.toObserves.deliver hlistens hfatal
  have hwatched := hs.toObserves.watched_spin (t := t)
  have hnone : (watched name env start h).anchor = none := by
    rw [hs.anchor, hbefore]
    rfl
  rw [hwatched, collected_concat]
  simp only [Collected.interact]
  generalize hc' : (env h (.spinOnce t)).callbacks.foldl (Collected.callback name)
    (collected name env start h) = c' at hobserves hafter
  generalize hnews : numbered (collected name env start h).number
    (receptions name (env h (.spinOnce t)).callbacks) = news at hafter
  have hkept : ∀ o ∈ (collected name env start h).after, o ∈ c'.after := by
    intro o ho
    rw [hafter]
    exact List.mem_append_left _ ho
  have hstamp : ns ≤ window.anchorFloorNs ∨ ns ≤ 0 ∨
      ∃ pose ∈ c'.after, pose.origin = .pose ∧ ns ≤ pose.stampNs := by
    rcases hs.stamp_le with hle | hle | ⟨pose, hmem, hpose⟩
    · exact Or.inl hle
    · exact Or.inr (Or.inl hle)
    · exact Or.inr (Or.inr ⟨pose, hkept pose hmem, hpose⟩)
  have hsequence : n ≤ deletion.responseSequence ∨ ∃ o ∈ c'.after, n ≤ o.sequence := by
    rcases hs.sequence_le with hle | ⟨o, hmem, hle⟩
    · exact Or.inl hle
    · exact Or.inr ⟨o, hkept o hmem, hle⟩
  by_cases hheartbeat : ∃ o ∈ news, o.origin = .heartbeat
  · rw [Watch.spin_of_none hnone hheartbeat, hs.floor, ← hafter]
    refine ⟨hobserves, hs.window_eq, le_trans hs.count_le hcount, hs.floor, hs.floor_le, hstamp,
      hsequence, ?_⟩
    split
    · rfl
    · rename_i hstays
      -- A heartbeat that passes would have ended the wait.
      by_contra hsome
      obtain ⟨q, hpassing⟩ := Option.ne_none_iff_exists'.mp hsome
      apply hstays
      exact hobserves.sourceAdvanced hafter hheartbeat hpassing hstamp hs.sequence_le
  · -- Without a heartbeat the source does not advance.
    push Not at hheartbeat
    have hlatest : latest .heartbeat c'.after =
        latest .heartbeat (collected name env start h).after := by
      rw [hafter]
      exact latest_append_of_none hheartbeat
    have hstays : sourceAdvanced ns n
        (s.deliver app.receive (env h (.spinOnce t)).callbacks).node ≠ true := by
      rw [ne_eq, sourceAdvanced_eq_true hobserves.counts, hlatest,
        ← sourceAdvanced_eq_true hs.counts, hbefore]
      exact Bool.false_ne_true
    rw [Watch.spin_of_none_of_poses hnone hheartbeat]
    refine ⟨hobserves, hs.window_eq, le_trans hs.count_le hcount, hs.floor, hs.floor_le, hstamp,
      hsequence, ?_⟩
    rw [if_neg hstays, hnone]

theorem StaysQuiet.deliver (hlistens : Listens Own name app.receive) {quietStartNs : Int} {t : F}
    (hs : StaysQuiet Own deletion window quietStartNs count (watched name env start h)
      (collected name env start h) s) (hsame : s.node.postDeletePoseCount = count)
    (hfatal : (s.deliver app.receive
      (env h (.spinOnce t)).callbacks).node.cleanupFatalError = none) :
  StaysQuiet Own deletion window quietStartNs count
    (watched name env start (h ++ [⟨.spinOnce t, .ok ()⟩]))
    (collected name env start (h ++ [⟨.spinOnce t, .ok ()⟩]))
    (s.deliver app.receive (env h (.spinOnce t)).callbacks)
  := by
  obtain ⟨hobserves, hafter, hcount⟩ := hs.toObserves.deliver hlistens hfatal
  have hholds := hs.holds
  rw [hs.toObserves.watched_spin, collected_concat]
  simp only [Collected.interact]
  refine ⟨hobserves, hs.window_eq, le_trans hs.count_le hcount, ?_⟩
  rw [hobserves.counts.poseCount, hafter, ofOrigin, List.filter_append, List.length_append]
  rw [hsame] at hholds
  rw [show (List.filter _ (collected name env start h).after).length = count from
    hs.counts.poseCount.symm.trans hsame]
  exact hholds.spin

/-! ### The drain -/

/-- While the drain goes on: it began with a reading of the steady clock, and it counts its
spins. -/
structure Drains (Own : X → Prop) (deletion : Deletion) (window : Window)
    (quietStartNs startNs : Int)
    (count : Nat) (h : List (cleanupSignature F).Interaction) (watch : Watch) (c : Collected)
    (s : Session F X) : Prop extends Observes Own deletion c s where
  window_eq : ∃ n, s.window = { window with drainSpinCount := n } ∧
    ∃ u v, h = u ++ ⟨.monotonicNs, .ok startNs⟩ :: v ∧
      (n ≠ 0 → ∃ t r, (⟨.spinOnce t, r⟩ : (cleanupSignature F).Interaction) ∈ v)
  count_le : count ≤ s.node.postDeletePoseCount
  spanned : Spanned (quietStartNs + ACTOR_CLEANUP_QUIET_NS) c.after
  holds : Watch.Holds quietStartNs count s.node.postDeletePoseCount c.after watch

theorem Drains.stable {window : Window} {quietStartNs startNs : Int} {count : Nat}
    (s : Session F X) :
  Stable fun h => Drains Own deletion window quietStartNs startNs count h (watched name env start h)
    (collected name env start h) s
  := by
  rintro h i hi ⟨hobserves, ⟨n, hwindow, u, v, rfl, hspin⟩, hcount, hspanned, hholds⟩
  rw [collected_idle hi, watched_idle hi]
  refine ⟨hobserves, ⟨n, hwindow, u, v ++ [i], by simp, ?_⟩, hcount, hspanned, hholds⟩
  intro hn
  obtain ⟨t, r, hmem⟩ := hspin hn
  exact ⟨t, r, List.mem_append_left _ hmem⟩

theorem Drains.deliver (hlistens : Listens Own name app.receive)
    {quietStartNs startNs : Int} {t : F}
    (hs : Drains Own deletion window quietStartNs startNs count h (watched name env start h)
      (collected name env start h) s) (hsame : s.node.postDeletePoseCount = count)
    (hfatal : (s.deliver app.receive
      (env h (.spinOnce t)).callbacks).node.cleanupFatalError = none) :
  Drains Own deletion window quietStartNs startNs count (h ++ [⟨.spinOnce t, .ok ()⟩])
    (watched name env start (h ++ [⟨.spinOnce t, .ok ()⟩]))
    (collected name env start (h ++ [⟨.spinOnce t, .ok ()⟩]))
    { s.deliver app.receive (env h (.spinOnce t)).callbacks with
      window := { s.window with drainSpinCount := s.window.drainSpinCount + 1 } }
  := by
  obtain ⟨-, hafter, -⟩ := hs.toObserves.deliver hlistens hfatal
  obtain ⟨hobserves, -, hcount, hholds⟩ := StaysQuiet.deliver hlistens
    ⟨hs.toObserves, rfl, hs.count_le, hs.holds⟩ hsame hfatal
  obtain ⟨n, hwindow, u, v, hh, hspin⟩ := hs.window_eq
  refine ⟨hobserves.record rfl, ⟨n + 1, by rw [hwindow], u, v ++ [⟨.spinOnce t, .ok ()⟩],
    by simp [hh], ?_⟩, hcount, ?_, hholds⟩
  · intro _
    exact ⟨t, .ok (), by simp⟩
  · rw [collected_concat]
    change Spanned _ ((env h (.spinOnce t)).callbacks.foldl (Collected.callback name) _).after
    rw [hafter]
    exact hs.spanned.append

/-- The spins of the drain, until it is over or a pose came. -/
theorem obtains_drainSpins [PoseFloat F] (hspins : Spins app)
    (hlistens : Listens Own name app.receive) {quietStartNs startNs deadline : Int}
    (hs : Drains Own deletion window quietStartNs startNs count h (watched name env start h)
      (collected name env start h) s) (hsame : s.node.postDeletePoseCount = count) :
  Obtains env (drainSpins app count deadline) s h
    (fun restarts s' h' => Drains Own deletion window quietStartNs startNs count h'
        (watched name env start h') (collected name env start h') s' ∧
      (restarts = true → count < s'.node.postDeletePoseCount) ∧
      (restarts = false → s'.window.drainSpinCount ≠ 0 ∧ ∃ now, deadline ≤ now ∧
        (⟨.monotonicNs, .ok now⟩ : (cleanupSignature F).Interaction) ∈ h'))
    Pending
  := by
  unfold drainSpins
  refine Obtains.loop (I := fun _ s h => Drains Own deletion window quietStartNs startNs count h
    (watched name env start h) (collected name env start h) s ∧
      s.node.postDeletePoseCount = count) ?_ ⟨hs, hsame⟩
  rintro - s h ⟨hs, hsame⟩
  refine Obtains.bind (Obtains.mono (Q := fun goesOn s' h' => s' = s ∧
    Drains Own deletion window quietStartNs startNs count h' (watched name env start h')
      (collected name env start h') s ∧
    (goesOn = false → s.window.drainSpinCount ≠ 0 ∧ ∃ now, deadline ≤ now ∧
      (⟨.monotonicNs, .ok now⟩ : (cleanupSignature F).Interaction) ∈ h')) ?_ ?_)
  · unfold drainGoesOn
    simp only [getSession, obtains_getState_bind]
    split
    · exact obtains_pure.mpr ⟨rfl, hs, fun hdone => Bool.noConfusion hdone⟩
    · rename_i hcount
      refine Obtains.bind (Obtains.mono (obtains_idle (Drains.stable s) rfl hs hs.pending) ?_)
      rintro now _ _ ⟨rfl, hs', -, rfl⟩
      refine obtains_pure.mpr ⟨rfl, hs', ?_⟩
      intro hdone
      refine ⟨hcount, now, ?_, by simp⟩
      simpa using hdone
  · rintro goesOn _ h₁ ⟨rfl, hs₁, hdone⟩
    cases goesOn with
    | false =>
        exact obtains_pure.mpr ⟨hs₁, fun hrestarts => Bool.noConfusion hrestarts,
          fun _ => hdone rfl⟩
    | true =>
        simp only [Bool.not_true, Bool.false_eq_true, if_false]
        refine Obtains.bind (Obtains.mono (obtains_idle (Drains.stable _) rfl hs₁ hs₁.pending) ?_)
        rintro now _ h₂ ⟨rfl, hs₂, -⟩
        -- The spin is counted after it.
        refine Obtains.bind (Obtains.mono (hspins (J := fun s h =>
          Drains Own deletion window quietStartNs startNs count h (watched name env start h)
            (collected name env start h)
            { s with window := { s.window with drainSpinCount := s.window.drainSpinCount + 1 } })
          _ (Drains.stable _) (fun s => Drains.stable _) hs₂ hs₂.pending ?_) ?_)
        · intro h' t hs' hfatal
          apply hs'.deliver hlistens hsame hfatal
        · rintro _ s' h' hs'
          simp only [modifyWindow, modifySession, getSession, obtains_modifyState_bind,
            obtains_getState_bind]
          split
          · rename_i hpose
            exact obtains_pure.mpr ⟨hs', fun _ => hpose, fun hstays => Bool.noConfusion hstays⟩
          · rename_i hquiet
            exact obtains_pure.mpr ⟨hs', le_antisymm (Nat.le_of_not_lt hquiet) hs'.count_le⟩

/-- What is left of a window that a pose ended: the observation may go on, and what is settled past
the former window is held. -/
structure Restarts (Own : X → Prop) (deletion : Deletion) (watch : Watch) (c : Collected)
    (s : Session F X) : Prop extends Observes Own deletion c s where
  floor : watch.floor deletion.responseStampNs = s.window.anchorFloorNs
  floor_le : deletion.responseStampNs ≤ s.window.anchorFloorNs
  anchor : watch.anchor = settled s.window.anchorFloorNs c.after
  restarts : s.window.quietRestartCount ≤ s.node.postDeletePoseCount

/-- The window that the drain concludes. -/
structure Concludes (Own : X → Prop) (deletion : Deletion) (quietStartNs startNs completeNs : Int)
    (h : List (cleanupSignature F).Interaction) (watch : Watch) (c : Collected) (s : Session F X) :
    Prop extends Observes Own deletion c s where
  newer : deletion.responseStampNs < quietStartNs
  bounded : quietStartNs + ACTOR_CLEANUP_QUIET_NS ≤ deletion.observationDeadlineNs
  quietStart : s.window.quietStartNs = some quietStartNs
  quietUntil : s.window.quietUntilNs = some (quietStartNs + ACTOR_CLEANUP_QUIET_NS)
  drainStart : s.window.drainStartSteadyNs = some startNs
  drainComplete : s.window.drainCompleteSteadyNs = some completeNs
  spins : 1 ≤ s.window.drainSpinCount
  restarts : s.window.quietRestartCount ≤ s.node.postDeletePoseCount
  positive : 1 ≤ startNs
  grace : startNs + DRAIN_GRACE_NS ≤ completeNs
  drained : Drained startNs completeNs h
  spanned : Spanned (quietStartNs + ACTOR_CLEANUP_QUIET_NS) c.after
  held : watch.anchor = some quietStartNs

/-- The window of an anchor. -/
structure Opens (deletion : Deletion) (quietStartNs : Int) (count : Nat)
    (window : Window) : Prop where
  newer : deletion.responseStampNs < quietStartNs
  bounded : quietStartNs + ACTOR_CLEANUP_QUIET_NS ≤ deletion.observationDeadlineNs
  quietStart : window.quietStartNs = some quietStartNs
  quietUntil : window.quietUntilNs = some (quietStartNs + ACTOR_CLEANUP_QUIET_NS)
  restarts : window.quietRestartCount ≤ count

/-- How a round of the observation ends. -/
def Ends (Own : X → Prop) (deletion : Deletion) (name : String)
    (env : (cleanupSignature F).Environment) (start : Collected) :
    Unit ⊕ Unit → Session F X → List (cleanupSignature F).Interaction → Prop
  | .inl _, s, h => Restarts Own deletion (watched name env start h) (collected name env start h) s
  | .inr _, s, h => ∃ quietStartNs startNs completeNs,
      Concludes Own deletion quietStartNs startNs completeNs h (watched name env start h)
        (collected name env start h) s

/-- A pose that ended a window leaves what is settled past its stamp. -/
theorem Watch.Holds.restarts {quietStartNs : Int} {watch : Watch} {c : Collected}
    {record : CleanupRecord}
    (hholds : Watch.Holds quietStartNs count s.node.postDeletePoseCount c.after watch)
    (hs : Observes Own deletion c s) (hpose : count < s.node.postDeletePoseCount)
    (hnewer : deletion.responseStampNs < quietStartNs)
    (hrecord : record.actorAbsent = s.cleanup.actorAbsent)
    (hfloor : window.anchorFloorNs = quietStartNs)
    (hrestarts : window.quietRestartCount ≤ s.node.postDeletePoseCount) :
  Restarts Own deletion watch c { s with cleanup := record, window := window }
  := by
  obtain ⟨hformer, hanchor⟩ := hholds.ended hpose
  refine ⟨hs.record hrecord, ?_, ?_, ?_, hrestarts⟩
  · change watch.floor _ = window.anchorFloorNs
    rw [Watch.floor, hformer, hfloor]
    rfl
  · change _ ≤ window.anchorFloorNs
    rw [hfloor]
    exact le_of_lt hnewer
  · change watch.anchor = settled window.anchorFloorNs _
    rw [hfloor]
    exact hanchor

theorem obtains_drain [PoseFloat F] (hspins : Spins app) (hlistens : Listens Own name app.receive)
    (hclock : SteadyClock env) {quietStartNs : Int}
    (hwindow : Opens deletion quietStartNs count window)
    (hs : StaysQuiet Own deletion window quietStartNs count (watched name env start h)
      (collected name env start h) s) (hsame : s.node.postDeletePoseCount = count)
    (hspanned : Spanned (quietStartNs + ACTOR_CLEANUP_QUIET_NS)
      (collected name env start h).after) :
  Obtains env (drain app deletion quietStartNs count) s h (Ends Own deletion name env start) Pending
  := by
  unfold drain
  simp only [modifyWindow, modifySession, recordProof, getSession, obtains_modifyState_bind]
  refine Obtains.bind (Obtains.ask ?_ hs.pending)
  intro startNs hstart
  obtain ⟨hpositive, -⟩ := hclock h startNs hstart
  simp only [obtains_modifyState_bind]
  have hdrains : Drains Own deletion { window with
        pendingKind := drainPending, drainStartSteadyNs := some startNs
        drainCompleteSteadyNs := none, drainSpinCount := 0 } quietStartNs startNs count
      (h ++ [⟨.monotonicNs, .ok startNs⟩])
      (watched name env start (h ++ [⟨.monotonicNs, .ok startNs⟩]))
      (collected name env start (h ++ [⟨.monotonicNs, .ok startNs⟩]))
      { s with
        window := { window with
          pendingKind := drainPending, drainStartSteadyNs := some startNs
          drainCompleteSteadyNs := none, drainSpinCount := 0 }
        cleanup := { s.cleanup with proof := .observation (cleanupProof deletion drainPending
          { s with window := { window with
              pendingKind := drainPending, drainStartSteadyNs := some startNs
              drainCompleteSteadyNs := none, drainSpinCount := 0 } }) } } := by
    rw [collected_idle rfl, watched_idle rfl]
    exact ⟨hs.toObserves.record rfl, ⟨0, rfl, h, [], by simp, by simp⟩, hs.count_le, hspanned,
      hs.holds⟩
  have hwindow_eq := hs.window_eq
  subst hwindow_eq
  refine Obtains.bind (Obtains.mono (obtains_drainSpins hspins hlistens hdrains hsame) ?_)
  rintro restarts s' h' ⟨hs', hrestarts, hdone⟩
  obtain ⟨n, hwindow', u, v, rfl, hspin⟩ := hs'.window_eq
  simp only [obtains_getState_bind]
  split
  · rename_i hpose
    have hpose : count < s'.node.postDeletePoseCount := by
      cases restarts with
      | true => apply hrestarts rfl
      | false => simpa using hpose
    simp only [obtains_modifyState_bind, obtains_pure]
    refine hs'.holds.restarts hs'.toObserves hpose hwindow.newer rfl rfl ?_
    have := hwindow.restarts
    simp only [Window.restartDrain, Window.restart, hwindow']
    omega
  · rename_i hquiet
    obtain ⟨rfl, hcount⟩ : restarts = false ∧ s'.node.postDeletePoseCount ≤ count := by
      simpa using hquiet
    obtain ⟨hspins, now, hdeadline, hnow⟩ := hdone rfl
    have hsame' : s'.node.postDeletePoseCount = count := le_antisymm hcount hs'.count_le
    refine Obtains.bind (Obtains.ask ?_ hs'.pending)
    intro completeNs hcomplete
    have hle := (hclock _ completeNs hcomplete).2 now hnow
    simp only [obtains_modifyState_bind, obtains_pure]
    rw [hwindow'] at hspins
    refine ⟨quietStartNs, startNs, completeNs, ?_⟩
    rw [collected_idle rfl, watched_idle rfl]
    refine ⟨hs'.toObserves.record rfl, hwindow.newer, hwindow.bounded, ?_, ?_, ?_, rfl, ?_, ?_,
      hpositive, le_trans hdeadline hle, ?_, hs'.spanned, hs'.holds.held hsame'⟩
    · simp [hwindow', hwindow.quietStart]
    · simp [hwindow', hwindow.quietUntil]
    · simp [hwindow']
    · simp only [hwindow']
      exact Nat.one_le_iff_ne_zero.mpr hspins
    · have := hwindow.restarts
      simp only [hwindow']
      omega
    · refine ⟨u, v, [], by simp, hspin hspins, by simp⟩

/-- The window that opens at a heartbeat ends with a pose, or it concludes. -/
theorem obtains_observeQuiet [PoseFloat F] (hspins : Spins app)
    (hlistens : Listens Own name app.receive)
    (hclock : SteadyClock env) {quietStartNs : Int}
    (hs : Observes Own deletion (collected name env start h) s)
    (hrestarts : s.window.quietRestartCount ≤ s.node.postDeletePoseCount)
    (hnewer : deletion.responseStampNs < quietStartNs)
    (hanchor : (watched name env start h).anchor = some quietStartNs) :
  Obtains env (observeQuiet app deletion quietStartNs) s h
    (Ends Own deletion name env start) Pending
  := by
  unfold observeQuiet
  simp only [modifyWindow, modifySession, recordProof, getSession, obtains_modifyState_bind,
    obtains_getState_bind]
  split
  · exact obtains_raise.mpr hs.pending
  · rename_i hbounded
    simp only [obtains_modifyState_bind]
    generalize hcount : s.node.postDeletePoseCount = count
    have hopens : Opens deletion quietStartNs count { s.window with
        quietStartNs := some quietStartNs
        quietUntilNs := some (quietStartNs + ACTOR_CLEANUP_QUIET_NS)
        pendingKind := quietPending } := by
      refine ⟨hnewer, by omega, rfl, rfl, ?_⟩
      simp only
      omega
    refine Obtains.bind (Obtains.mono (obtains_waitFor (J := fun s' h' =>
      StaysQuiet Own deletion { s.window with
        quietStartNs := some quietStartNs
        quietUntilNs := some (quietStartNs + ACTOR_CLEANUP_QUIET_NS)
        pendingKind := quietPending } quietStartNs count (watched name env start h')
        (collected name env start h') s') hspins ?_ (fun s' h' hs' => hs'.pending) ?_ ?_) ?_)
    · intro s' h' i hi hs'
      rw [collected_idle hi, watched_idle hi]
      exact hs'
    · intro s' h' t hs' hbefore hfatal
      have hsame : s'.node.postDeletePoseCount = count := by
        simp only [quietEnded, Bool.or_eq_false_iff, decide_eq_false_iff_not] at hbefore
        exact le_antisymm (Nat.le_of_not_lt hbefore.1) hs'.count_le
      apply hs'.deliver hlistens hsame hfatal
    · refine ⟨hs.record rfl, rfl, le_of_eq hcount.symm, ?_, ?_⟩
      · intro _
        exact hanchor
      · intro hpose
        exact absurd hpose (by rw [← hcount]; exact lt_irrefl _)
    · rintro _ s' h' ⟨hs', hended⟩
      simp only [obtains_getState_bind]
      split
      · rename_i hpose
        simp only [obtains_modifyState_bind, obtains_pure]
        refine hs'.holds.restarts hs'.toObserves hpose hnewer rfl rfl ?_
        simp only [Window.restart, hs'.window_eq]
        omega
      · rename_i hquiet
        have hsame : s'.node.postDeletePoseCount = count := by
          have := hs'.count_le
          omega
        refine obtains_drain hspins hlistens hclock hopens hs' hsame ?_
        have hstamp : ∃ n ∈ s'.node.postDeleteEntityLatestSimStampNs,
            quietStartNs + ACTOR_CLEANUP_QUIET_NS ≤ n := by
          simp only [quietEnded, hsame, lt_irrefl, decide_false, Bool.false_or] at hended
          simpa [Option.any_eq_true] using hended
        obtain ⟨n, hn, hle⟩ := hstamp
        rw [hs'.counts.heartbeatStamp] at hn
        simp only [Option.mem_def, Option.map_eq_some_iff] at hn
        obtain ⟨o, ho, rfl⟩ := hn
        obtain ⟨hmem, horigin⟩ := latest_mem ho
        exact ⟨o, hmem, horigin, hle⟩

/-- When the wait for an anchor begins, what is settled is what passes if the source has advanced
past the last pose. -/
theorem settled_eq_passing {node : Node F X} {floor ns : Int}
    {response n : Nat} (hcounts : Counts os node) (hinOrder : InOrder response os node)
    (hns : max floor (node.postDeletePoseLatestSimStampNs.getD 0) = ns)
    (hn : max response (node.postDeletePoseLatestSequence.getD 0) = n) :
  settled floor os = if sourceAdvanced ns n node then passing floor os else none
  := by
  rw [hcounts.poseLatestStamp] at hns
  rw [hcounts.poseLatestSequence] at hn
  split
  · rename_i hadvanced
    apply settled_of_heartbeat
    obtain ⟨o, hlatest, -, hlt⟩ := (sourceAdvanced_eq_true hcounts).mp hadvanced
    have hmem := (latest_mem hlatest).1
    obtain ⟨last, hlast⟩ := Option.isSome_iff_exists.mp
      (List.getLast?_isSome.mpr (List.ne_nil_of_mem hmem))
    refine ⟨last, hlast, Origin.eq_heartbeat ?_⟩
    -- A pose at the end would have a greater number than the last heartbeat.
    intro hpose
    have hposes := latest_of_getLast? hlast
    rw [hpose] at hposes
    rw [hposes] at hn
    simp only [Option.map_some, Option.getD_some] at hn
    rcases hinOrder.le_last hlast hmem with rfl | hle
    · rw [(latest_mem hlatest).2] at hpose
      cases hpose
    · omega
  · rename_i hstays
    by_contra hsome
    obtain ⟨q, hsettled⟩ := Option.ne_none_iff_exists'.mp hsome
    apply hstays
    obtain ⟨⟨last, hlast, horigin⟩, hpassing⟩ := settled_eq_some.mp hsettled
    obtain ⟨⟨o, hlatest, rfl⟩, hfloor, hposes⟩ := passing_eq_some.mp hpassing
    have hsame := latest_of_getLast? hlast
    rw [horigin, hlatest] at hsame
    obtain rfl := Option.some.inj hsame
    have hmem := (latest_mem hlatest).1
    have hpositive := hinOrder.positive o hmem
    have hnumber := (hinOrder.numbers o hmem).1
    refine (sourceAdvanced_eq_true hcounts).mpr ⟨o, hlatest, ?_, ?_⟩
    · cases hpose : latest .pose os with
      | none =>
          rw [hpose] at hns
          simp only [Option.map_none, Option.getD_none] at hns
          omega
      | some pose =>
          rw [hpose] at hns
          simp only [Option.map_some, Option.getD_some] at hns
          have := hposes pose (latest_mem hpose).1 (latest_mem hpose).2
          omega
    · cases hpose : latest .pose os with
      | none =>
          rw [hpose] at hn
          simp only [Option.map_none, Option.getD_none] at hn
          omega
      | some pose =>
          rw [hpose] at hn
          simp only [Option.map_some, Option.getD_some] at hn
          rcases hinOrder.le_last hlast (latest_mem hpose).1 with rfl | hlt
          · rw [(latest_mem hpose).2] at horigin
            cases horigin
          · omega

/-- The greater one of a bound and what the last pose shows is reached by the bound, by the default
or by a pose. -/
theorem max_latest_le {α : Type} [LinearOrder α] (f : Observation → α)
    {zero low x : α} (hx : max low (((latest .pose os).map f).getD zero) = x) :
  x ≤ low ∨ x ≤ zero ∨ ∃ pose ∈ os, pose.origin = .pose ∧ x ≤ f pose
  := by
  rw [← hx]
  cases hlatest : latest .pose os with
  | none =>
      rcases le_total zero low with hle | hle
      · exact Or.inl (max_le (le_refl _) hle)
      · exact Or.inr (Or.inl (max_le hle (le_refl _)))
  | some pose =>
      rcases le_total (f pose) low with hle | hle
      · exact Or.inl (max_le (le_refl _) hle)
      · exact Or.inr (Or.inr ⟨pose, (latest_mem hlatest).1, (latest_mem hlatest).2,
          max_le hle (le_refl _)⟩)

/-- The wait for an anchor begins past the poses that were observed. -/
theorem Restarts.awaitsAnchor {watch : Watch} {c : Collected} (hs : Restarts Own deletion watch c s)
    (hns : max s.window.anchorFloorNs (s.node.postDeletePoseLatestSimStampNs.getD 0) = ns)
    (hn : max deletion.responseSequence (s.node.postDeletePoseLatestSequence.getD 0) = n) :
  AwaitsAnchor Own deletion s.window ns n s.node.postDeletePoseCount watch c s
  := by
  refine ⟨hs.toObserves, rfl, le_refl _, hs.floor, ?_, ?_, ?_, ?_⟩
  · rw [← hns]
    apply le_max_left
  · rw [hs.counts.poseLatestStamp] at hns
    exact max_latest_le _ hns
  · rw [hs.counts.poseLatestSequence] at hn
    rcases max_latest_le _ hn with hle | hle | ⟨pose, hmem, -, hle⟩
    · exact Or.inl hle
    · exact Or.inl (le_trans hle (Nat.zero_le _))
    · exact Or.inr ⟨pose, hmem, hle⟩
  · rw [hs.anchor]
    exact settled_eq_passing hs.counts hs.inOrder hns hn

/-- The heartbeat that ended the wait passes when it is newer than the last pose. -/
theorem AwaitsAnchor.passing {n count : Nat} {watch : Watch} {c : Collected} {anchor : Observation}
    (hs : AwaitsAnchor Own deletion window ns n count watch c s)
    (hlatest : latest .heartbeat c.after = some anchor) (hlt : ns < anchor.stampNs)
    (hpose : ∀ pose, latest .pose c.after = some pose → pose.stampNs < anchor.stampNs) :
  passing window.anchorFloorNs c.after = some anchor.stampNs
  := by
  refine passing_eq_some.mpr ⟨⟨anchor, hlatest, rfl⟩, lt_of_le_of_lt hs.floor_le hlt, ?_⟩
  intro pose hmem horigin
  cases hlatestPose : latest .pose c.after with
  | none => exact absurd horigin (latest_eq_none hlatestPose pose hmem)
  | some last =>
      have hle := (hs.inOrder.le_latest hlatestPose hmem horigin).1
      exact lt_of_le_of_lt hle (hpose last hlatestPose)

/-- The heartbeat that ended the wait does not pass when the last pose is not older. -/
theorem AwaitsAnchor.restarts {n count : Nat} {watch : Watch}
    {c : Collected} {anchor pose : Observation}
    (hs : AwaitsAnchor Own deletion window ns n count watch c s)
    (hadvanced : sourceAdvanced ns n s.node = true)
    (hfloor : deletion.responseStampNs ≤ window.anchorFloorNs)
    (hrestarts : s.window.quietRestartCount ≤ s.node.postDeletePoseCount)
    (hlatest : latest .heartbeat c.after = some anchor) (hpose : latest .pose c.after = some pose)
    (hle : anchor.stampNs ≤ pose.stampNs) :
  Restarts Own deletion watch c s
  := by
  have hanchor := hs.anchor
  rw [if_pos hadvanced] at hanchor
  have hnone : Scenarios.passing window.anchorFloorNs c.after = none := by
    by_contra hsome
    obtain ⟨q, hpassing⟩ := Option.ne_none_iff_exists'.mp hsome
    obtain ⟨⟨o, ho, rfl⟩, -, hposes⟩ := passing_eq_some.mp hpassing
    obtain rfl := Option.some.inj (hlatest.symm.trans ho)
    have hlt := hposes pose (latest_mem hpose).1 (latest_mem hpose).2
    omega
  refine ⟨hs.toObserves, ?_, ?_, ?_, hrestarts⟩
  · rw [hs.window_eq]
    exact hs.floor
  · rw [hs.window_eq]
    exact hfloor
  · rw [hs.window_eq, hanchor, hnone]
    symm
    by_contra hsome
    obtain ⟨q, hsettled⟩ := Option.ne_none_iff_exists'.mp hsome
    rw [(settled_eq_some.mp hsettled).2] at hnone
    cases hnone

/-- The observation ends with a window that concludes. -/
theorem obtains_observeAbsence [PoseFloat F] (hspins : Spins app)
    (hlistens : Listens Own name app.receive)
    (hclock : SteadyClock env)
    (hs : Restarts Own deletion (watched name env start h) (collected name env start h) s) :
  Obtains env (observeAbsence app deletion) s h
    (fun _ s' h' => Ends Own deletion name env start (.inr ()) s' h') Pending
  := by
  unfold observeAbsence
  refine Obtains.loop (I := fun _ s h => Restarts Own deletion (watched name env start h)
    (collected name env start h) s) ?_ hs
  rintro - s h hs
  simp only [getSession, obtains_getState_bind]
  generalize hns : max s.window.anchorFloorNs (s.node.postDeletePoseLatestSimStampNs.getD 0) = ns
  generalize hn : max deletion.responseSequence (s.node.postDeletePoseLatestSequence.getD 0) = n
  refine Obtains.bind (Obtains.mono (obtains_waitFor (J := fun s' h' =>
    AwaitsAnchor Own deletion s.window ns n s.node.postDeletePoseCount (watched name env start h')
      (collected name env start h') s') hspins ?_ (fun s' h' hs' => hs'.pending)
    (AwaitsAnchor.spins hlistens) (hs.awaitsAnchor hns hn)) ?_)
  · intro s' h' i hi hs'
    rw [collected_idle hi, watched_idle hi]
    exact hs'
  · rintro _ s' h' ⟨hs', hadvanced⟩
    simp only [obtains_getState_bind]
    obtain ⟨anchor, hlatest, hlt, -⟩ := (sourceAdvanced_eq_true hs'.counts).mp hadvanced
    have hfloor := hs.floor_le
    have hrestarts : s'.window.quietRestartCount ≤ s'.node.postDeletePoseCount := by
      rw [hs'.window_eq]
      exact le_trans hs.restarts hs'.count_le
    rw [hs'.counts.heartbeatStamp, hlatest]
    simp only [Option.map_some]
    rw [hs'.counts.poseLatestStamp]
    split
    · rename_i hpose
      obtain ⟨pose, hlatestPose, hle⟩ : ∃ pose, latest .pose (collected name env start h').after =
          some pose ∧ anchor.stampNs ≤ pose.stampNs := by
        simpa [Option.any_eq_true] using hpose
      exact obtains_pure.mpr
        (hs'.restarts hadvanced hfloor hrestarts hlatest hlatestPose hle)
    · rename_i hpose
      have hpassing := hs'.passing hlatest hlt (by
        intro pose hlatestPose
        rw [hlatestPose] at hpose
        simpa using hpose)
      have hnewer : deletion.responseStampNs < anchor.stampNs :=
        lt_of_le_of_lt hfloor (lt_of_le_of_lt hs'.floor_le hlt)
      refine Obtains.mono (obtains_observeQuiet hspins hlistens hclock hs'.toObserves hrestarts
        hnewer ?_) ?_
      · rw [hs'.anchor, if_pos hadvanced, hpassing]
      · intro r s'' h'' hends
        cases r with
        | inl _ => apply hends
        | inr _ => apply hends

/-! ### The conclusion -/

/-- The request comes before the response, and the stream has publishers. -/
structure Requests (deletion : Deletion) : Prop where
  sequence : 1 ≤ deletion.requestSequence ∧ deletion.requestSequence < deletion.responseSequence
  stamp : 0 ≤ deletion.requestStampNs ∧ deletion.requestStampNs ≤ deletion.responseStampNs

theorem Concludes.stable {quietStartNs startNs completeNs : Int} (s : Session F X) :
  Stable fun h => Concludes Own deletion quietStartNs startNs completeNs h
    (watched name env start h) (collected name env start h) s
  := by
  intro h i hi hs
  obtain ⟨u, v, w, rfl, hspin, hidle⟩ := hs.drained
  rw [collected_idle hi, watched_idle hi]
  refine { hs with drained := ?_ }
  refine ⟨u, v, w ++ [i], by simp, hspin, ?_⟩
  intro i' hi'
  rcases List.mem_append.mp hi' with hi' | hi'
  · apply hidle i' hi'
  · rw [List.mem_singleton.mp hi']
    apply hi

section Proof

variable {quietStartNs startNs completeNs : Int} {watch : Watch} {c : Collected}

/-- The poses, and the last heartbeat, around the anchor. -/
theorem Concludes.anchor
    (hs : Concludes Own deletion quietStartNs startNs completeNs h watch c s)
    (hanchored : Anchored quietStartNs c.after) :
  ∃ b n e, c.after = b ++ ⟨⟨.heartbeat, quietStartNs⟩, n⟩ :: e ∧ deletion.responseSequence < n ∧
    (∀ pose ∈ c.after, pose.origin = .pose → pose ∈ b ∧ pose.stampNs < quietStartNs ∧
      pose.sequence < n) ∧
    (∀ o ∈ e, o.origin = .heartbeat) ∧
    ∃ later ∈ e, quietStartNs + ACTOR_CLEANUP_QUIET_NS ≤ later.stampNs ∧ n < later.sequence
  := by
  obtain ⟨b, n, e, hafter, hb, he⟩ := hanchored
  have hinOrder := hs.inOrder
  have hsequences := hinOrder.sequences
  have hstamps := hinOrder.stamps
  rw [hafter, List.pairwise_append, List.pairwise_cons] at hsequences hstamps
  refine ⟨b, n, e, hafter, ?_, ?_, he, ?_⟩
  · apply (hinOrder.numbers ⟨⟨.heartbeat, quietStartNs⟩, n⟩ (by simp [hafter])).1
  · intro pose hpose horigin
    rw [hafter] at hpose
    rcases List.mem_append.mp hpose with hpose | hpose
    · exact ⟨hpose, hb pose hpose horigin, hsequences.2.2 pose hpose _ List.mem_cons_self⟩
    · rcases List.mem_cons.mp hpose with rfl | hpose
      · cases horigin
      · rw [he pose hpose] at horigin
        cases horigin
  · obtain ⟨later, hlater, horigin, hspan⟩ := hs.spanned
    have hquiet : (0 : Int) < ACTOR_CLEANUP_QUIET_NS := by decide
    rw [hafter] at hlater
    rcases List.mem_append.mp hlater with hlater | hlater
    · have := hstamps.2.2 later hlater _ List.mem_cons_self horigin
      simp only at this
      omega
    · rcases List.mem_cons.mp hlater with rfl | hlater
      · simp only at hspan
        omega
      · exact ⟨later, hlater, hspan, hsequences.2.1.1 later hlater⟩

/-- An absent entity is proved absent when an anchor is held. -/
theorem Concludes.provedAbsent
    (hs : Concludes Own deletion quietStartNs startNs completeNs h watch c s)
    (hanchored : Anchored quietStartNs c.after)
    (hearlier : ∀ pose ∈ c.before, pose.origin = .pose → pose.stampNs < quietStartNs)
    (hrequest : Requests deletion) {publishers : Int}
    (hbefore : 1 ≤ deletion.sourcePublishersBefore) (hpublishers : 1 ≤ publishers)
    (habsent : actorAbsent deletion quietStartNs s.node = true) :
  ProvedAbsent c h { cleanupProof deletion absenceProved s with
    poseSourcePublishersAfter := some publishers }
  := by
  obtain ⟨b, n, e, hafter, hn, hposes, he, later, hlater, hspan, hnlater⟩ :=
    hs.anchor hanchored
  have hcounts := hs.counts
  have hinOrder := hs.inOrder
  simp only [actorAbsent, Bool.and_eq_true, decide_eq_true_eq, Option.any_eq_true] at habsent
  obtain ⟨⟨-, hheartbeats⟩, m, hm, hcounted⟩ := habsent
  rw [hcounts.heartbeatSequence] at hm
  obtain ⟨last, hlast, rfl⟩ := Option.map_eq_some_iff.mp hm
  have hlaterafter : later ∈ c.after := by simp [hafter, hlater]
  obtain ⟨hstampLast, hsequenceLast⟩ := hinOrder.le_latest hlast hlaterafter (he later hlater)
  have hcounted : last.sequence = deletion.responseSequence +
      (s.node.postDeleteEntityMessageCount + s.node.postDeletePoseCount) := by omega
  refine ⟨hs.response, ?_, ?_, ?_, ?_⟩
  · refine ⟨quietStartNs, n, b, e, hs.quietStart, hafter, hs.newer, hn, ?_, ?_, ?_, hs.bounded⟩
    · intro pose hpose horigin
      rcases List.mem_append.mp hpose with hpose | hpose
      · refine ⟨hearlier pose hpose horigin, ?_⟩
        exact lt_trans ((hs.tracks.before pose hpose).2 _ hs.response) hn
      · obtain ⟨-, hstamp, hsequence⟩ := hposes pose (by simp [hafter, hpose]) horigin
        exact ⟨hstamp, hsequence⟩
    · intro o ho horigin
      rw [he o ho] at horigin
      cases horigin
    · exact ⟨later, hlater, he later hlater, hspan⟩
  · exact ⟨startNs, completeNs, hs.drainStart, hs.drainComplete, hs.spins, hs.grace, hs.drained⟩
  · refine ⟨last, hlast, ?_⟩
    rw [hcounted, hcounts.heartbeatCount, hcounts.poseCount]
    rfl
  · apply @Metrics.validateActorCleanupProof_asDict _ quietStartNs last.stampNs startNs completeNs
      publishers last.sequence
    refine ⟨rfl, hs.quietStart, hs.quietUntil, ?_, ?_, hs.drainStart, hs.drainComplete, rfl, rfl,
      rfl, hrequest.sequence, hrequest.stamp, hs.newer, hs.bounded, le_trans hspan hstampLast,
      hheartbeats, hcounted, hs.restarts, ⟨hbefore, hpublishers⟩,
      ⟨hs.spins, hs.positive, hs.grace⟩, ?_, ?_⟩
    · simp [cleanupProof, hcounts.heartbeatStamp, hlast]
    · simp [cleanupProof, hcounts.heartbeatSequence, hlast]
    · intro hnone
      have hnil : ofOrigin .pose c.after = [] := by
        apply List.eq_nil_of_length_eq_zero
        rw [← hcounts.poseCount]
        apply hnone
      simp [cleanupProof, hcounts.poseFirstSequence, hcounts.poseFirstStamp,
        hcounts.poseLatestSequence, hcounts.poseLatestStamp, latest, earliest, hnil]
    · intro hsome
      have hcons : ofOrigin .pose c.after ≠ [] := by
        intro hnil
        apply hsome
        rw [show CleanupProof.postDeletePoseCount _ = s.node.postDeletePoseCount from rfl,
          hcounts.poseCount, hnil]
        rfl
      obtain ⟨first, hfirst⟩ := Option.isSome_iff_exists.mp (List.isSome_head?.mpr hcons)
      obtain ⟨final, hfinal⟩ := Option.isSome_iff_exists.mp (List.getLast?_isSome.mpr hcons)
      have hfirst : earliest .pose c.after = some first := hfirst
      have hfinal : latest .pose c.after = some final := hfinal
      obtain ⟨hgrow, hstamps⟩ := hinOrder.count_le hfirst hfinal
      have hmem : first ∈ ofOrigin .pose c.after := List.mem_of_mem_head? hfirst
      simp only [ofOrigin, List.mem_filter, decide_eq_true_eq] at hmem
      obtain ⟨hfinalMem, hfinalOrigin⟩ := latest_mem hfinal
      obtain ⟨-, hstampFinal, hsequenceFinal⟩ := hposes final hfinalMem hfinalOrigin
      refine ⟨first.sequence, final.sequence, first.stampNs, final.stampNs, ?_, ?_, ?_, ?_,
        (hinOrder.numbers first hmem.1).1, ?_, by omega, hinOrder.positive first hmem.1, hstamps,
        hstampFinal⟩
      · simp [cleanupProof, hcounts.poseFirstSequence, hfirst]
      · simp [cleanupProof, hcounts.poseFirstStamp, hfirst]
      · simp [cleanupProof, hcounts.poseLatestSequence, hfinal]
      · simp [cleanupProof, hcounts.poseLatestStamp, hfinal]
      · rw [show CleanupProof.postDeletePoseCount _ = s.node.postDeletePoseCount from rfl,
          hcounts.poseCount]
        apply hgrow

/-- A proof of the absence is one of the heartbeat that is held. -/
theorem Concludes.fairDeliveries
    (hs : Concludes Own deletion quietStartNs startNs completeNs h (watched name env start h)
      (collected name env start h) s) {proof : CleanupProof}
    (hproof : proof.quietStartSimStampNs = s.window.quietStartNs)
    (hproved : ProvedAbsent (collected name env start h) h proof) :
  FairDeliveries name env start h
  := by
  obtain ⟨quietStart, sequence, before, after, hquiet, hafter, -, -, hposes, hnone, -⟩ :=
    hproved.anchor
  rw [hproof, hs.quietStart] at hquiet
  obtain rfl := Option.some.inj hquiet
  apply Anchored.fairDeliveries _ _ hs.held
  · refine ⟨before, sequence, after, hafter, ?_, ?_⟩
    · intro pose hpose horigin
      exact (hposes pose (List.mem_append_right _ hpose) horigin).1
    · intro o ho
      exact Origin.eq_heartbeat (hnone o ho)
  · intro pose hpose horigin
    exact (hposes pose (List.mem_append_left _ hpose) horigin).1

end Proof

/-- When the record says that the entity is absent, it is proved absent exactly when the deliveries
are fair. -/
def Sound (name : String) (env : (cleanupSignature F).Environment) (start : Collected)
    (s : Session F X) (h : List (cleanupSignature F).Interaction) : Prop :=
  s.cleanup.actorAbsent = true →
    ((∃ proof, s.cleanup.proof = .observation proof ∧
      ProvedAbsent (collected name env start h) h proof) ↔ FairDeliveries name env start h)

theorem obtains_concludeAbsence [PoseFloat F] (hspins : Spins app)
    (hlistens : Listens Own name app.receive)
    (hclock : SteadyClock env) (hrequest : Requests deletion) {publishersError : Option Failure}
    (hs : Restarts Own deletion (watched name env start h) (collected name env start h) s) :
  Obtains env (concludeAbsence app deletion publishersError) s h
    (fun _ s' h' => Sound name env start s' h') Pending
  := by
  unfold concludeAbsence
  refine Obtains.bind (Obtains.mono (Q := fun _ s' h' =>
    Ends Own deletion name env start (.inr ()) s' h')
      (Obtains.attempt (obtains_observeAbsence hspins hlistens hclock hs) ?_) ?_)
  · intro e s' h' hs'
    cases e with
    | baseException text => exact obtains_raise.mpr hs'
    | exception e =>
        simp only [recordProof, modifySession]
        split
        · rw [obtains_modifyState_bind]
          exact obtains_raise.mpr hs'
        · exact obtains_raise.mpr hs'
  rintro _ s' h' ⟨quietStartNs, startNs, completeNs, hs'⟩
  simp only [getSession, obtains_getState_bind, hs'.quietStart, hs'.quietUntil]
  simp only [recordProof, modifySession, obtains_modifyState_bind]
  generalize hrecord : CleanupRecord.mk _ _ _ _ _ = record
  have hstable := @Concludes.stable F X Own deletion name env start quietStartNs startNs completeNs
    { s' with cleanup := record }
  have hs' : Concludes Own deletion quietStartNs startNs completeNs h' (watched name env start h')
      (collected name env start h') { s' with cleanup := record } := by
    have hpending : record.actorAbsent = s'.cleanup.actorAbsent := by
      rw [← hrecord]
    exact { hs' with pending := hpending.trans hs'.pending }
  refine Obtains.bind (Obtains.mono (obtains_requireWallBudget hstable hs' hs'.pending) ?_)
  rintro _ _ h₁ ⟨rfl, hs₁⟩
  refine Obtains.bind (Obtains.mono (obtains_idle hstable rfl hs₁ hs₁.pending) ?_)
  rintro publishers _ h₂ ⟨rfl, hs₂, -⟩
  refine Obtains.bind (Obtains.mono (obtains_requireWallBudget hstable hs₂ hs₂.pending) ?_)
  rintro _ _ h₃ ⟨rfl, hs₃⟩
  split
  · exact obtains_raise.mpr hs₃.pending
  · split
    · exact obtains_raise.mpr hs₃.pending
    · rename_i hpublishers
      obtain ⟨hbefore, hafter⟩ : 1 ≤ deletion.sourcePublishersBefore ∧ 1 ≤ publishers := by
        simpa using hpublishers
      simp only [obtains_modifyState_bind, obtains_getState_bind]
      split
      · rename_i habsent
        apply obtains_raise.mpr
        unfold Pending
        simpa using habsent
      · apply obtains_pure.mpr
        intro habsent
        constructor
        · rintro ⟨proof, hproof, hproved⟩
          obtain rfl := AbsenceProof.observation.inj hproof
          exact hs₃.fairDeliveries rfl hproved
        · intro hfair
          obtain ⟨hanchored, hearlier⟩ := hfair.anchored hs₃.held
          exact ⟨_, rfl, hs₃.provedAbsent hanchored hearlier hrequest hbefore hafter habsent⟩

/-- What the program starts the cleanup from: the entity was requested, it was never deleted, and
the clock that was not seen is at zero. -/
structure Begins (s : Session F X) : Prop where
  requested : (s.spawnRequestSendAttempted || s.spawnRequestSent) = true
  pending : Pending s
  mode : s.node.cleanupMode = true
  responseSequence : s.node.deleteResponseSequence = none
  responseStamp : s.node.deleteResponseStampNs = none
  clock : 0 ≤ s.node.currentSimStampNs
  unseen : s.node.clockSeen = false → s.node.currentSimStampNs = 0

theorem Begins.awaiting (hs : Begins s) (hown : Own s.node.own) : Awaiting Own s.start 0 0 s := by
  refine ⟨⟨hs.mode, hown, ?_, hs.pending⟩, rfl, rfl, Nat.zero_le _, hs.clock⟩
  refine ⟨rfl, rfl, hs.clock, hs.unseen, hs.responseSequence, hs.responseStamp, nofun, ?_, nofun,
    nofun⟩
  intro o ho
  obtain ⟨stampNs, -, rfl⟩ : ∃ stampNs ∈ s.node.lastPoseStampNs,
      (⟨⟨.pose, stampNs⟩, s.node.sequence⟩ : Observation) = o := by
    simpa [Session.start] using ho
  exact ⟨le_refl _, nofun⟩

/-- The response takes the next number, and the observation begins. -/
theorem Awaiting.observes {c : Collected} {t : Int} (hs : Awaiting Own c n t s)
    {sourcePublishersBefore : Int} {record : CleanupRecord}
    (hrecord : record.actorAbsent = s.cleanup.actorAbsent)
    (hfloor : window.anchorFloorNs = s.node.currentSimStampNs)
    (hrestarts : window.quietRestartCount = 0) :
  Restarts Own ⟨sourcePublishersBefore, n, t, s.node.sequence + 1, s.node.currentSimStampNs⟩ {}
    c.respond
    { s with
      node := s.node.nextSequence.beginObservation (s.node.sequence + 1) s.node.currentSimStampNs
      cleanup := record, window := window }
  := by
  have htracks := hs.tracks
  have hresponse : c.respond.response = some (s.node.sequence + 1, s.node.currentSimStampNs) := by
    rw [htracks.sequence, htracks.clock]
    rfl
  have hafter : c.respond.after = [] := hs.after
  refine ⟨⟨⟨hs.mode, hs.own, ?_, hrecord.trans hs.pending⟩, hresponse⟩, hfloor.symm, ?_, ?_, ?_⟩
  · refine ⟨?_, htracks.clock, htracks.clock_nonneg, htracks.unseen, ?_, ?_, ?_, ?_, ?_, ?_⟩
    · show s.node.sequence + 1 = c.number + 1
      rw [htracks.sequence]
    · rw [hresponse]
      rfl
    · rw [hresponse]
      rfl
    · intro r hr
      rw [← Option.some.inj hr]
      apply le_refl
    · intro o ho
      have hle := (htracks.before o ho).1
      refine ⟨le_trans hle (Nat.le_succ _), ?_⟩
      intro r hr
      rw [← Option.some.inj hr]
      exact Nat.lt_succ_of_le hle
    · intro r hr
      rw [hafter]
      exact ⟨rfl, rfl, rfl, rfl, rfl, rfl, rfl, rfl⟩
    · intro r hr
      rw [hafter]
      exact ⟨List.Pairwise.nil, List.Pairwise.nil, nofun, nofun, nofun, nofun⟩
  · exact le_of_eq hfloor.symm
  · rw [hafter]
    rfl
  · rw [show ({ s with
      node := s.node.nextSequence.beginObservation (s.node.sequence + 1) s.node.currentSimStampNs
      cleanup := record, window := window } : Session F X).window.quietRestartCount =
        0 from hrestarts]
    apply Nat.zero_le

theorem obtains_countPublishersBefore {I : List (cleanupSignature F).Interaction → Prop}
    (hI : Stable I) (hh : I h) (hs : Pending s) :
  Obtains env countPublishersBefore s h (fun _ s' h' => s' = s ∧ I h') Pending
  := by
  unfold countPublishersBefore
  apply establishes_attempt
  apply establishes_bind
  refine establishes_ask.mpr ?_
  have hidle : ∀ r, I (h ++ [⟨.countPublishers ENTITY_POSE_TOPIC, r⟩]) := fun r => hI h _ rfl hh
  cases (env h (.countPublishers ENTITY_POSE_TOPIC)).result with
  | ok count => exact establishes_pure.mpr ⟨rfl, hidle _⟩
  | error e =>
      cases e with
      | exception e => exact obtains_pure.mpr ⟨rfl, hidle _⟩
      | baseException text => exact obtains_raise.mpr hs

theorem obtains_deleteEntity [PoseFloat F] (hspins : Spins app)
    (hlistens : Listens Own name app.receive)
    (hclock : SteadyClock env) (hs : Awaiting Own (collected name env start h) 0 0 s)
    {entityName : String} :
  Obtains env (deleteEntity app entityName) s h (fun _ s' h' => Sound name env start s' h') Pending
  := by
  unfold deleteEntity
  simp only [getSession, obtains_getState_bind]
  split
  · exact obtains_raise.mpr hs.pending
  have hstable : Stable fun h => Awaiting Own (collected name env start h) 0 0 s :=
    stable_collected (P := fun c => Awaiting Own c 0 0 s)
  refine Obtains.bind (Obtains.mono (obtains_countPublishersBefore hstable hs hs.pending) ?_)
  rintro ⟨sourcePublishersBefore, publishersError⟩ _ h₁ ⟨rfl, hs₁⟩
  simp only [modifySession, obtains_modifyState_bind]
  refine Obtains.bind (Obtains.mono (obtains_callService hspins hlistens
    ⟨⟨hs₁.mode, hs₁.own, hs₁.tracks, rfl⟩, hs₁.response, hs₁.after, hs₁.number, hs₁.clock⟩) ?_)
  rintro ⟨success, requestSequence, requestStampNs⟩ s₂ h₂ ⟨hsequence, hstamp, c, hs₂, hc⟩
  simp only [obtains_modifyState_bind, obtains_getState_bind]
  refine Obtains.bind (obtains_modifyTransaction ?_)
  intro record hrecord
  split
  · refine Obtains.bind (obtains_modifyTransaction ?_)
    intro record hrecord
    simp only [obtains_modifyState_bind]
    exact obtains_raise.mpr rfl
  · simp only [obtains_modifyState_bind]
    refine obtains_concludeAbsence hspins hlistens hclock ?_ ?_
    · have hnumber := hs₂.number
      have hclockNs := hs₂.clock
      rw [← hs₂.tracks.sequence] at hnumber
      rw [← hs₂.tracks.clock] at hclockNs
      exact ⟨⟨hsequence, Nat.lt_succ_of_le hnumber⟩, hstamp, hclockNs⟩
    · have hafter : (collected name env start h₂).after = [] := by
        rw [hc]
        exact hs₂.after
      rw [watched_of_after hafter, hc]
      exact hs₂.observes hs₂.pending.symm rfl rfl

end Observation

end Scenarios

end RobotestLab
