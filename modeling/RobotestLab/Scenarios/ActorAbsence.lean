import RobotestLab.Missions.Success
import RobotestLab.Scenarios.Absence

/-!
# The cleanup of both programs

Both programs start the cleanup from a node that was switched to it. When one of them declares its
entity absent, the proof stands exactly when the deliveries were fair (`absence_proved`). The wait
for an anchor compares the last stamps only: a heartbeat that passes before an older pose of the
same spin is held for the anchor, and the wall is declared absent although a pose came after it.
-/

namespace RobotestLab

namespace Scenarios

open Program

variable {F : Type} [PoseFloat F] {env : (cleanupSignature F).Environment}

theorem ScenarioController.obtains_cleanupActor
    {s : Session F (ScenarioControllerFields F)} (hclock : SteadyClock env) (hs : Begins s)
    {name : String} (hname : s.node.own.document.actorName = some name) :
  Obtains env cleanupActor s [] (fun _ s' h' => Sound name env s.start s' h') Pending
  := by
  unfold cleanupActor
  simp only [getSession, obtains_getState_bind, hname]
  split
  · rename_i hrequested
    rw [hs.requested] at hrequested
    cases hrequested
  · apply obtains_deleteEntity ScenarioController.spins (ScenarioController.listens name) hclock
    apply hs.awaiting hname

theorem ContactControl.obtains_cleanupWall
    {s : Session F ContactControlFields} (hclock : SteadyClock env) (hs : Begins s) :
  Obtains env cleanupWall s [] (fun _ s' h' => Sound WALL_NAME env s.start s' h') Pending
  := by
  unfold cleanupWall
  simp only [getSession, obtains_getState_bind]
  split
  · rename_i hrequested
    rw [hs.requested] at hrequested
    cases hrequested
  · apply obtains_deleteEntity ContactControl.spins ContactControl.listens hclock
    apply hs.awaiting trivial

omit [PoseFloat F] in
/-- An ended program whose errors leave the record pending is sound. -/
theorem Sound.of_obtains {X : Type} {s s' : Session F X}
    {m : Cleanup F X Unit} {name : String} {start : Collected} {fuel : Nat}
    {r : Except Raised Unit} {h : List (cleanupSignature F).Interaction}
    (hm : Obtains env m s [] (fun _ s' h' => Sound name env start s' h') Pending)
    (hrun : m env fuel s [] = some (r, s', h)) :
  Sound name env start s' h
  := by
  have hend := hm fuel r s' h hrun
  cases r with
  | ok a => apply hend
  | error e =>
      intro habsent
      rw [show s'.cleanup.actorAbsent = false from hend] at habsent
      cases habsent

/-- When a program declares its entity absent, there is the proof exactly when the deliveries were
fair. -/
theorem absence_proved :
  (∀ (env : (cleanupSignature F).Environment) (s s' : Session F (ScenarioControllerFields F))
      (name : String) (fuel : Nat) (r : Except Raised Unit)
      (h : List (cleanupSignature F).Interaction),
      SteadyClock env → Begins s → s.node.own.document.actorName = some name →
        ScenarioController.cleanupActor env fuel s [] = some (r, s', h) →
          Sound name env s.start s' h) ∧
    ∀ (env : (cleanupSignature F).Environment) (s s' : Session F ContactControlFields) (fuel : Nat)
      (r : Except Raised Unit) (h : List (cleanupSignature F).Interaction),
      SteadyClock env → Begins s → ContactControl.cleanupWall env fuel s [] = some (r, s', h) →
        Sound WALL_NAME env s.start s' h
  := by
  constructor
  · intro env s s' name fuel r h hclock hs hname hrun
    apply Sound.of_obtains (ScenarioController.obtains_cleanupActor hclock hs hname) hrun
  · intro env s s' fuel r h hclock hs hrun
    apply Sound.of_obtains (ContactControl.obtains_cleanupWall hclock hs) hrun

section Sample

/-- Exact arithmetic, with the root and the angle of the rotation by zero. -/
instance samplePoseFloat : PoseFloat ℚ where
  toPyFloat := Missions.sampleFloat
  isFinite _ := true
  div := (· / ·)
  abs := abs
  sqrt x := x
  atan2 _ _ := 0
  sum := List.sum
  square x := .ok (x * x)
  mod a b := a - b * (a / b).floor
  pi := 355 / 113

def sampleTransform (name : String) (nanosec : UInt32) : Transform ℚ where
  stamp := ⟨1, nanosec⟩
  frameId := "world"
  childFrameId := name
  x := 0
  y := 0
  z := 0
  rotation := (0, 0, 0, 1)

def sampleHeartbeat : UInt32 → Transform ℚ := sampleTransform ENTITY_POSE_HEARTBEAT_MODEL

def sampleWall : UInt32 → Transform ℚ := sampleTransform WALL_NAME

/-- A wall that was requested and seen, one second into the run. -/
def sampleSession : Session ℚ ContactControlFields where
  node := {
    sequence := 2
    cleanupMode := true
    clockSeen := true
    currentSimStampNs := 1000000000
    lastPoseStampNs := some 1000000000
    spawnRequestSequence := some 1
    own := {} }
  wallDeadline := 100
  serviceTimeoutS := 5
  spawnRequestSendAttempted := true
  spawnRequestSent := true
  deleteAttemptCount := 0
  cleanup := ⟨false, 0, none, .spawn "spawn_request_pending", true⟩

theorem sampleSession_begins : Begins sampleSession := by
  exact ⟨rfl, rfl, rfl, rfl, rfl, by decide, nofun⟩

def sampleReading : (cleanupSignature ℚ).Interaction → Int
  | ⟨.monotonicNs, .ok t⟩ => t
  | _ => 1

def sampleNow (h : List (cleanupSignature ℚ).Interaction) : Int :=
  (h.map sampleReading).foldr max 1 + 100000000

def sampleSpins : (cleanupSignature ℚ).Interaction → Bool
  | ⟨.spinOnce _, _⟩ => true
  | _ => false

/-- The services answer, the steady clock goes on, and the spins deliver one message each. -/
def sampleEnv (messages : List (List (Transform ℚ))) : (cleanupSignature ℚ).Environment
  | _, .monotonic => ⟨[], .ok (0 : ℚ)⟩
  | h, .monotonicNs => ⟨[], .ok (sampleNow h)⟩
  | h, .spinOnce _ => ⟨(messages[h.countP sampleSpins]?.map Callback.entityPoses).toList, .ok ()⟩
  | _, .serviceIsReady => ⟨[], .ok true⟩
  | _, .callAsync _ => ⟨[], .ok ()⟩
  | _, .futureDone => ⟨[], .ok true⟩
  | _, .futureResult => ⟨[], .ok (some true)⟩
  | _, .countPublishers _ => ⟨[], .ok (1 : Int)⟩

theorem le_foldr_max {readings : List Int} {t : Int} (h : t ∈ readings) :
    t ≤ readings.foldr max 1 := by
  induction readings with
  | nil => cases h
  | cons r rs ih =>
      rcases List.mem_cons.mp h with rfl | h
      · apply le_max_left
      · apply le_trans (ih h) (le_max_right _ _)

theorem sampleEnv_steadyClock (messages : List (List (Transform ℚ))) :
  SteadyClock (sampleEnv messages)
  := by
  intro h t ht
  obtain rfl : sampleNow h = t := Except.ok.inj ht
  have hone : ∀ readings : List Int, 1 ≤ readings.foldr max 1 := by
    intro readings
    induction readings with
    | nil => apply le_refl
    | cons r rs ih => apply le_trans ih (le_max_right _ _)
  constructor
  · have := hone (h.map sampleReading)
    unfold sampleNow
    omega
  · intro t' ht'
    have hle : t' ≤ (h.map sampleReading).foldr max 1 := le_foldr_max (List.mem_map_of_mem ht')
    unfold sampleNow
    omega

/-- What the cleanup of the wall shows at its end. -/
def sampleRun (messages : List (List (Transform ℚ))) : Option (Bool × Collected × Watch) :=
  (ContactControl.cleanupWall (sampleEnv messages) 20 sampleSession []).map fun (_, s, h) =>
    (s.cleanup.actorAbsent, collected WALL_NAME (sampleEnv messages) sampleSession.start h,
      watched WALL_NAME (sampleEnv messages) sampleSession.start h)

theorem eq_sampleRun {messages : List (List (Transform ℚ))} {absent : Bool} {c : Collected}
    {watch : Watch} (hrun : sampleRun messages = some (absent, c, watch)) :
  ∃ r s h, ContactControl.cleanupWall (sampleEnv messages) 20 sampleSession [] = some (r, s, h) ∧
    s.cleanup.actorAbsent = absent ∧
    collected WALL_NAME (sampleEnv messages) sampleSession.start h = c ∧
    watched WALL_NAME (sampleEnv messages) sampleSession.start h = watch
  := by
  obtain ⟨⟨r, s, h⟩, hend, heq⟩ := Option.map_eq_some_iff.mp hrun
  obtain ⟨habsent, heq⟩ := Prod.mk.inj heq
  obtain ⟨hcollected, hwatched⟩ := Prod.mk.inj heq
  exact ⟨r, s, h, hend, habsent, hcollected, hwatched⟩

/-- A heartbeat behind an older pose, and a heartbeat after the quiet interval. -/
def sampleMessages : List (List (Transform ℚ)) :=
  [[sampleHeartbeat 100000000, sampleWall 50000000, sampleHeartbeat 120000000],
    [sampleHeartbeat 370000000]]

/-- The second heartbeat of the first spin is the anchor of the sample, and the wall is proved
absent. -/
theorem absence_proved_sample :
  ∃ s h proof, s.cleanup.proof = .observation proof ∧
    ProvedAbsent (collected WALL_NAME (sampleEnv sampleMessages) (Session.start sampleSession) h) h
      proof ∧
    ∃ fuel r, ContactControl.cleanupWall (sampleEnv sampleMessages) fuel sampleSession [] =
      some (r, s, h)
  := by
  have hrun : sampleRun sampleMessages = some (true, ⟨8, 1000000000, some (4, 1000000000),
      [⟨⟨.pose, 1000000000⟩, 2⟩],
      [⟨⟨.heartbeat, 1100000000⟩, 5⟩, ⟨⟨.pose, 1050000000⟩, 6⟩, ⟨⟨.heartbeat, 1120000000⟩, 7⟩,
        ⟨⟨.heartbeat, 1370000000⟩, 8⟩]⟩, ⟨none, some 1120000000⟩) := by
    decide +kernel
  obtain ⟨r, s, h, hrun, habsent, hcollected, hwatched⟩ := eq_sampleRun hrun
  have hfair : FairDeliveries WALL_NAME (sampleEnv sampleMessages) sampleSession.start h := by
    apply Anchored.fairDeliveries (q := 1120000000)
    · rw [hcollected]
      exact ⟨[⟨⟨.heartbeat, 1100000000⟩, 5⟩, ⟨⟨.pose, 1050000000⟩, 6⟩], 7,
        [⟨⟨.heartbeat, 1370000000⟩, 8⟩], rfl, by decide, by decide⟩
    · rw [hcollected]
      decide
    · rw [hwatched]
  obtain ⟨proof, hproof, hproved⟩ := (absence_proved.2 _ _ _ _ _ _ (sampleEnv_steadyClock _)
    sampleSession_begins hrun habsent).mpr hfair
  exact ⟨s, h, proof, hproof, hproved, 20, r, hrun⟩

/-- The pose comes after the heartbeat, which is newer. -/
def sampleDisorder : List (List (Transform ℚ)) :=
  [[sampleHeartbeat 100000000, sampleWall 50000000], [sampleHeartbeat 350000000]]

/-- The wall is declared absent although it was seen after every heartbeat that could be the
anchor. -/
theorem wall_declared_absent :
  ∃ (env : (cleanupSignature ℚ).Environment) (s s' : Session ℚ ContactControlFields) (fuel : Nat)
      (r : Except Raised Unit) (h : List (cleanupSignature ℚ).Interaction),
    SteadyClock env ∧ Begins s ∧ ContactControl.cleanupWall env fuel s [] = some (r, s', h) ∧
      s'.cleanup.actorAbsent = true ∧
      ∀ proof, ¬ ProvedAbsent (collected WALL_NAME env s.start h) h proof
  := by
  have hrun : sampleRun sampleDisorder = some (true, ⟨7, 1000000000, some (4, 1000000000),
      [⟨⟨.pose, 1000000000⟩, 2⟩],
      [⟨⟨.heartbeat, 1100000000⟩, 5⟩, ⟨⟨.pose, 1050000000⟩, 6⟩, ⟨⟨.heartbeat, 1350000000⟩, 7⟩]⟩,
        ⟨none, some 1100000000⟩) := by
    decide +kernel
  obtain ⟨r, s, h, hrun, habsent, hcollected, -⟩ := eq_sampleRun hrun
  refine ⟨_, _, s, 20, r, h, sampleEnv_steadyClock _, sampleSession_begins, hrun, habsent, ?_⟩
  intro proof hproved
  obtain ⟨quietStart, sequence, before, after, -, hafter, -, -, -, hposes, ⟨later, hlater, -⟩, -⟩ :=
    hproved.anchor
  rw [hcollected] at hafter
  -- The pose is after the first heartbeat, and nothing is after the last one.
  match before, hafter with
  | [], hafter =>
      obtain ⟨-, rfl⟩ := List.cons.inj hafter
      apply hposes ⟨⟨.pose, 1050000000⟩, 6⟩ List.mem_cons_self rfl
  | [_], hafter =>
      obtain ⟨-, hafter⟩ := List.cons.inj hafter
      cases (List.cons.inj hafter).1
  | [_, _], hafter =>
      obtain ⟨-, hafter⟩ := List.cons.inj hafter
      obtain ⟨-, hafter⟩ := List.cons.inj hafter
      obtain ⟨-, rfl⟩ := List.cons.inj hafter
      cases hlater
  | _ :: _ :: _ :: _, hafter =>
      have hlength := congrArg List.length hafter
      simp at hlength

end Sample

end Scenarios

end RobotestLab
