import RobotestLab.Library.Establishing
import RobotestLab.Scenarios.Cleanup

/-!
# What the nodes collect

The abstract collector numbers what the stream of poses delivers: the poses of the entity, and the
heartbeats after the delete response. It is computed from the deliveries of the environment alone.
The callbacks of a node refine it (`Tracks`): as long as none of them is refused, the counters and
the stamps of the node are those of the collector.
-/

namespace RobotestLab

namespace Scenarios

/-! ### The collector -/

inductive Origin where
  | heartbeat
  | pose
  deriving DecidableEq, Repr

/-- A heartbeat or a pose of the entity as a message carries it. -/
structure Reception where
  origin : Origin
  stampNs : Int
  deriving DecidableEq, Repr

/-- A reception with its number. -/
structure Observation extends Reception where
  sequence : Nat
  deriving DecidableEq, Repr

/-- The last number given out, the last clock stamp, the number and the stamp of the delete
response, and what was observed before and after it. -/
structure Collected where
  number : Nat
  clockNs : Int
  response : Option (Nat × Int) := none
  before : List Observation := []
  after : List Observation := []
  deriving DecidableEq, Repr

/-- The nanoseconds of a stamp. -/
def nanoseconds (stamp : Time) : Int := stamp.sec.toInt * 1000000000 + stamp.nanosec.toNat

variable {F X : Type}

/-- What a transform is to the owner of the named entity. -/
def Transform.receptions (name : String) (transform : Transform F) : List Reception :=
  (if transform.childFrameId = ENTITY_POSE_HEARTBEAT_MODEL then
    [⟨.heartbeat, nanoseconds transform.stamp⟩] else []) ++
  if transform.childFrameId = name then [⟨.pose, nanoseconds transform.stamp⟩] else []

/-- What a callback carries. -/
def Callback.receptions (name : String) : Callback F → List Reception
  | .clock _ => []
  | .entityPoses transforms => transforms.flatMap (Transform.receptions name)

/-- What a spin delivered. -/
def receptions (name : String) (callbacks : List (Callback F)) : List Reception :=
  callbacks.flatMap (Callback.receptions name)

namespace Collected

/-- Number a reception. Heartbeats before the response have no number. -/
def observe (c : Collected) (reception : Reception) : Collected :=
  match c.response, reception.origin with
  | none, .heartbeat => c
  | none, .pose => { c with
      number := c.number + 1, before := c.before ++ [⟨reception, c.number + 1⟩] }
  | some _, _ => { c with
      number := c.number + 1, after := c.after ++ [⟨reception, c.number + 1⟩] }

/-- The last stamp of the clock. -/
def clock (c : Collected) : Callback F → Collected
  | .clock stamp => { c with clockNs := nanoseconds stamp }
  | .entityPoses _ => c

def callback (name : String) (c : Collected) (k : Callback F) : Collected :=
  (k.receptions name).foldl observe (c.clock k)

/-- The response takes the next number. -/
def respond (c : Collected) : Collected :=
  { c with number := c.number + 1, response := some (c.number + 1, c.clockNs) }

/-- An interaction: a spin delivers callbacks, and the request and the response take a number
each. -/
def interact (name : String) (c : Collected)
    (delivery : List (Callback F) × (cleanupSignature F).Interaction) : Collected :=
  match delivery with
  | (callbacks, ⟨.spinOnce _, _⟩) => callbacks.foldl (callback name) c
  | (_, ⟨.callAsync _, _⟩) => { c with number := c.number + 1 }
  | (_, ⟨.futureResult, .ok _⟩) => c.respond
  | _ => c

end Collected

/-- What is collected of the entity in a run of the cleanup. -/
def collected (name : String) (env : (cleanupSignature F).Environment) (start : Collected)
    (history : List (cleanupSignature F).Interaction) : Collected :=
  (Program.deliveries env history).foldl (Collected.interact name) start

section Collected

variable {name : String} {env : (cleanupSignature F).Environment} {start : Collected}
  {history : List (cleanupSignature F).Interaction}

@[simp]
theorem collected_nil : collected name env start [] = start := rfl

theorem collected_concat (i : (cleanupSignature F).Interaction) :
  collected name env start (history ++ [i]) =
    (collected name env start history).interact name ((env history i.1).callbacks, i)
  := by
  simp [collected]

/-- A call that neither delivers callbacks nor takes a number. -/
def Call.isIdle : Call F → Bool
  | .spinOnce _ | .callAsync _ | .futureResult => false
  | _ => true

theorem collected_idle {i : (cleanupSignature F).Interaction} (h : i.1.isIdle) :
  collected name env start (history ++ [i]) = collected name env start history
  := by
  rw [collected_concat]
  obtain ⟨c, r⟩ := i
  cases c with
  | spinOnce t => cases h
  | callAsync n => cases h
  | futureResult => cases h
  | monotonic => rfl
  | monotonicNs => rfl
  | serviceIsReady => rfl
  | futureDone => rfl
  | countPublishers topic => rfl

end Collected

/-! ### Observations after the response -/

/-- The receptions with their numbers. -/
def numbered : Nat → List Reception → List Observation
  | _, [] => []
  | n, r :: rs => ⟨r, n + 1⟩ :: numbered (n + 1) rs

theorem numbered_append (n : Nat) (rs rs' : List Reception) :
  numbered n (rs ++ rs') = numbered n rs ++ numbered (n + rs.length) rs'
  := by
  induction rs generalizing n with
  | nil => simp [numbered]
  | cons r rs ih =>
      simp only [List.cons_append, numbered, ih, List.length_cons]
      rw [show n + 1 + rs.length = n + (rs.length + 1) by omega]

namespace Collected

variable {name : String} {c : Collected}

/-- What stays through the receptions after the response. -/
theorem foldl_observe (h : c.response.isSome) (rs : List Reception) :
  rs.foldl observe c = { c with
    number := c.number + rs.length, after := c.after ++ numbered c.number rs }
  := by
  induction rs generalizing c with
  | nil => simp [numbered]
  | cons r rs ih =>
      obtain ⟨x, hx⟩ := Option.isSome_iff_exists.mp h
      have hr : c.observe r = { c with
          number := c.number + 1, after := c.after ++ [⟨r, c.number + 1⟩] } := by
        simp [observe, hx]
      rw [List.foldl_cons, hr, ih (by exact h)]
      simp [numbered]
      omega

@[simp]
theorem observe_response (r : Reception) : (c.observe r).response = c.response := by
  unfold observe
  split <;> simp [*]

@[simp]
theorem observe_clockNs (r : Reception) : (c.observe r).clockNs = c.clockNs := by
  unfold observe
  split <;> rfl

@[simp]
theorem foldl_observe_response (rs : List Reception) :
  (rs.foldl observe c).response = c.response
  := by
  induction rs generalizing c with
  | nil => rfl
  | cons r rs ih => rw [List.foldl_cons, ih, observe_response]

@[simp]
theorem foldl_observe_clockNs (rs : List Reception) :
  (rs.foldl observe c).clockNs = c.clockNs
  := by
  induction rs generalizing c with
  | nil => rfl
  | cons r rs ih => rw [List.foldl_cons, ih, observe_clockNs]

@[simp]
theorem clock_response (k : Callback F) : (c.clock k).response = c.response := by
  cases k <;> rfl

@[simp]
theorem clock_number (k : Callback F) : (c.clock k).number = c.number := by
  cases k <;> rfl

@[simp]
theorem clock_before (k : Callback F) : (c.clock k).before = c.before := by
  cases k <;> rfl

@[simp]
theorem clock_after (k : Callback F) : (c.clock k).after = c.after := by
  cases k <;> rfl

@[simp]
theorem callback_response (k : Callback F) : (c.callback name k).response = c.response := by
  simp [callback]

/-- Before the response, a spin adds nothing to the observations after it. -/
theorem spin_before (h : c.response = none) (callbacks : List (Callback F)) :
  (callbacks.foldl (callback name) c).after = c.after
  := by
  have hobserve : ∀ (rs : List Reception) (c : Collected), c.response = none →
      (rs.foldl observe c).after = c.after := by
    intro rs
    induction rs with
    | nil =>
        intro c _
        rfl
    | cons r rs ih =>
        intro c hc
        rw [List.foldl_cons, ih _ ((observe_response r).trans hc)]
        unfold observe
        split
        · rfl
        · rfl
        · rename_i hsome
          rw [hc] at hsome
          cases hsome
  induction callbacks generalizing c with
  | nil => rfl
  | cons k ks ih =>
      rw [List.foldl_cons, ih ((callback_response k).trans h), callback,
        hobserve _ _ ((clock_response k).trans h), clock_after]

/-- After the response, a spin adds what it delivers to the observations. -/
theorem spin_after (h : c.response.isSome) (callbacks : List (Callback F)) :
  (callbacks.foldl (callback name) c).response = c.response ∧
    (callbacks.foldl (callback name) c).before = c.before ∧
    (callbacks.foldl (callback name) c).after =
      c.after ++ numbered c.number (receptions name callbacks)
  := by
  induction callbacks generalizing c with
  | nil => simp [receptions, numbered]
  | cons k ks ih =>
      have hk : c.callback name k = { c.clock k with
          number := c.number + (k.receptions name).length
          after := c.after ++ numbered c.number (k.receptions name) } := by
        have hclock : (c.clock k).response.isSome := by simpa using h
        rw [callback, foldl_observe hclock, clock_number, clock_after]
      obtain ⟨hresponse, hbefore, hafter⟩ := ih (c := c.callback name k) (by simpa using h)
      rw [List.foldl_cons]
      refine ⟨by simpa using hresponse, ?_, ?_⟩
      · rw [hbefore, hk]
        simp
      · rw [hafter, hk]
        simp [receptions, numbered_append]

end Collected

end Scenarios

end RobotestLab
