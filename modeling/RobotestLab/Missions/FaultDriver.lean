import Mathlib.Data.List.DropRight
import RobotestLab.Faults.ProxyNode
import RobotestLab.Missions.Execution

/-!
# The fault driver

The adapter between the mission executor and the services of the fault proxy. It fills in the
requests, and it turns the responses and the events of the proxy into the untyped values that the
executor checks. Whatever does not fit a message or a stamp raises.
-/

namespace RobotestLab

namespace Missions

/-! ### Identifiers -/

/-- `str.replace` of the pattern by nothing. The number tells how many characters of a match are
still to be dropped. -/
def removePattern (pattern : List Char) : Nat → List Char → List Char
  | _, [] => []
  | skip + 1, _ :: cs => removePattern pattern skip cs
  | 0, c :: cs =>
      if pattern.isPrefixOf (c :: cs) then removePattern pattern (pattern.length - 1) cs
      else c :: removePattern pattern 0 cs

/-- The digits that `uuid.UUID` reads: a prefix of a uniform resource name, braces and hyphens are
left out. -/
def uuidDigits (value : String) : List Char :=
  let named := removePattern "uuid:".toList 0 (removePattern "urn:".toList 0 value.toList)
  let isBrace (c : Char) : Bool := c == '\x7b' || c == '\x7d'
  ((named.dropWhile isBrace).rdropWhile isBrace).filter (· ≠ '-')

/-- The bytes of hexadecimal digits, two for each byte. -/
def bytesOfDigits : List Nat → List UInt8
  | high :: low :: rest => UInt8.ofNat (16 * high + low) :: bytesOfDigits rest
  | _ => []

/-- `uuid.UUID` of a text. -/
def uuidOfText (value : String) : Option UUID :=
  let digits := uuidDigits value
  if digits.length ≠ 32 then none
  else match digits.mapM Json.hexValue with
    | none => none
    | some numbers =>
        let bytes := bytesOfDigits numbers
        some { uuid := Vector.ofFn fun i => (bytes[i.val]?).getD 0 }

/-- `str` of a `uuid.UUID`. -/
def uuidString (message : UUID) : String :=
  let digits := (hexdigest message.uuid.toList).toList
  String.ofList (digits.take 8 ++ '-' :: ((digits.drop 8).take 4 ++ '-' ::
    ((digits.drop 12).take 4 ++ '-' :: ((digits.drop 16).take 4 ++ '-' :: digits.drop 20))))

def uuidMessage (value : String) : Except Raised UUID :=
  match uuidOfText value with
  | none => .error (.faultProtocolError ("invalid goal UUID: " ++ value))
  | some message =>
      if zeroUuid message then .error (.faultProtocolError "goal UUID must not be all zero")
      else .ok message

/-! ### Stamps -/

/-- A message checks the ranges of its fields. -/
def timeFromNs (value : Int) : Except Raised Time :=
  if -2147483648 ≤ value / 1000000000 ∧ value / 1000000000 < 2147483648 then
    .ok {
      sec := Int32.ofInt (value / 1000000000)
      nanosec := UInt32.ofInt (value % 1000000000) }
  else
    .error (.exception "The 'sec' field must be an integer in [-2147483648, 2147483647]")

def stampNs (stamp : Time) : Except Raised Int :=
  if stamp.sec.toInt < 0 ∨ 1000000000 ≤ stamp.nanosec.toNat then
    .error (.faultProtocolError "fault timestamp fields are invalid")
  else .ok (stamp.sec.toInt * 1000000000 + stamp.nanosec.toNat)

/-! ### Requests and responses -/

/-- The request that `start_arm` sends. -/
def startArm (scheduleHash : String) (generation : Int) (goalUuid : String)
    (acceptedGoalStampNs : Int) : Except Raised ArmRequest := do
  let generation ←
    if 0 ≤ generation ∧ generation ≤ 18446744073709551615 then
      .ok (UInt64.ofInt generation)
    else .error (.exception
      "The 'generation' field must be an unsigned integer in [0, 18446744073709551615]")
  let goalUuid ← uuidMessage goalUuid
  let acceptedGoalStamp ← timeFromNs acceptedGoalStampNs
  .ok {
    scheduleHash := scheduleHash
    generation := generation
    goalUuid := goalUuid
    acceptedGoalStamp := acceptedGoalStamp }

def pollPreloadResponse (response : RobotestLab.PreloadResponse) : PreloadResponse where
  accepted := response.accepted
  replayed := response.replayed
  state := response.state.toNat
  scheduleHash := response.scheduleHash
  loadedCount := response.loadedCount.toNat
  generation := response.generation.toNat
  message := response.message

def pollArmResponse (response : RobotestLab.ArmResponse) : Except Raised ArmResponse := do
  let acceptedGoalStampNs ← stampNs response.acceptedGoalStamp
  let armCommitStampNs ← stampNs response.armCommitStamp
  .ok {
    accepted := response.accepted
    replayed := response.replayed
    state := response.state.toNat
    scheduleHash := response.scheduleHash
    generation := response.generation.toNat
    goalUuid := uuidString response.goalUuid
    acceptedGoalStampNs := acceptedGoalStampNs
    armCommitStampNs := armCommitStampNs
    armMarginNs := response.armMarginNs
    message := response.message }

/-! ### Events -/

/-- The mapping that the subscription makes of an event. An event that raises is counted as
lost. -/
def eventDict (message : FaultEvent) : Except Raised FaultEventDict := do
  let configuredDeactivationNs ← stampNs message.configuredDeactivationTime
  let headerStampNs ← stampNs message.header.stamp
  let requestedT0Ns ← stampNs message.requestedT0
  let boundT0Ns ← stampNs message.boundT0
  let armCommitStampNs ← stampNs message.armCommitTime
  let configuredActivationNs ← stampNs message.configuredActivationTime
  let actualStampNs ← stampNs message.actualTime
  let fields : List (String × PyValue) := [
    ("header_stamp_ns", .int headerStampNs),
    ("schema_version", .int message.schemaVersion.toNat),
    ("event_sequence", .int message.eventSequence.toNat),
    ("event_type", .int message.eventType.toNat),
    ("state_before", .int message.stateBefore.toNat),
    ("state_after", .int message.stateAfter.toNat),
    ("accepted", .bool message.accepted),
    ("replayed", .bool message.replayed),
    ("requested_schedule_hash", .str message.requestedScheduleHash),
    ("committed_schedule_hash", .str message.committedScheduleHash),
    ("requested_generation", .int message.requestedGeneration.toNat),
    ("committed_generation", .int message.committedGeneration.toNat),
    ("requested_fault_count", .int message.requestedFaultCount.toNat),
    ("committed_fault_count", .int message.committedFaultCount.toNat),
    ("requested_goal_uuid", .str (uuidString message.requestedGoalUuid)),
    ("bound_goal_uuid", .str (uuidString message.boundGoalUuid)),
    ("requested_t0_ns", .int requestedT0Ns),
    ("bound_t0_ns", .int boundT0Ns),
    ("arm_commit_stamp_ns", .int armCommitStampNs),
    ("arm_margin_ns", .int message.armMarginNs),
    ("fault_id", .str message.faultId),
    ("target", .int message.target.toNat),
    ("mode", .int message.mode.toNat),
    ("configured_activation_stamp_ns", .int configuredActivationNs),
    ("configured_deactivation_stamp_ns", .int configuredDeactivationNs),
    ("actual_stamp_ns", .int actualStampNs),
    ("seed", .int message.seed.toNat),
    ("input_sequence", .int message.inputSequence.toNat),
    ("raw_input_count", .int message.rawInputCount.toNat),
    ("validated_output_count", .int message.validatedOutputCount.toNat),
    ("affected_message_count", .int message.affectedMessageCount.toNat),
    ("detail", .str message.detail)]
  .ok (fields.map fun field => (.str field.1, field.2))

/-! ### Reading back an identifier -/

theorem removePattern_of_not_mem {pattern cs : List Char} {c : Char} (hc : c ∈ pattern)
    (h : c ∉ cs) :
  removePattern pattern 0 cs = cs
  := by
  induction cs with
  | nil => rfl
  | cons d cs ih =>
      have hinit : pattern.isPrefixOf (d :: cs) = false := by
        rw [Bool.eq_false_iff]
        intro hinit
        exact h ((List.isPrefixOf_iff_prefix.mp hinit).subset hc)
      rw [removePattern, hinit, if_neg Bool.false_ne_true,
        ih fun hmem => h (List.mem_cons_of_mem _ hmem)]

/-- The hexadecimal digit of a number below 16. -/
theorem hexValue_digitChar {n : Nat} (h : n < 16) :
  Json.hexValue (Nat.digitChar n) = some n
  := by
  revert n
  decide

theorem hexdigest_cons (byte : UInt8) (bytes : List UInt8) :
  (hexdigest (byte :: bytes)).toList = Nat.digitChar (byte.toNat / 16) ::
    Nat.digitChar (byte.toNat % 16) :: (hexdigest bytes).toList
  := by
  simp [hexdigest]

theorem mapM_hexValue_hexdigest (bytes : List UInt8) :
  ∃ numbers, (hexdigest bytes).toList.mapM Json.hexValue = some numbers ∧
    bytesOfDigits numbers = bytes
  := by
  induction bytes with
  | nil => exact ⟨[], rfl, rfl⟩
  | cons byte bytes ih =>
      obtain ⟨numbers, hnumbers, hbytes⟩ := ih
      have hlt := byte.toNat_lt
      have hhigh : byte.toNat / 16 < 16 := by omega
      have hlow : byte.toNat % 16 < 16 := by omega
      refine ⟨byte.toNat / 16 :: byte.toNat % 16 :: numbers, ?_, ?_⟩
      · rw [hexdigest_cons, List.mapM_cons, hexValue_digitChar hhigh, List.mapM_cons,
          hexValue_digitChar hlow, hnumbers]
        rfl
      · rw [bytesOfDigits, hbytes, Nat.div_add_mod, UInt8.ofNat_toNat]

theorem length_hexdigest (bytes : List UInt8) :
  (hexdigest bytes).toList.length = 2 * bytes.length
  := by
  induction bytes with
  | nil => rfl
  | cons byte bytes ih =>
      rw [hexdigest_cons, List.length_cons, List.length_cons, List.length_cons, ih]
      omega

/-- The characters of a digest are not those that `uuidDigits` leaves out. -/
theorem mem_hexdigest {bytes : List UInt8} {c : Char} (h : c ∈ (hexdigest bytes).toList) :
  c ≠ '-' ∧ c ≠ ':' ∧ c ≠ '\x7b' ∧ c ≠ '\x7d'
  := by
  have hdigit : ∀ n < 16, Nat.digitChar n ≠ '-' ∧ Nat.digitChar n ≠ ':' ∧
      Nat.digitChar n ≠ '\x7b' ∧ Nat.digitChar n ≠ '\x7d' := by
    decide
  induction bytes with
  | nil => cases h
  | cons byte bytes ih =>
      have hlt := byte.toNat_lt
      rw [hexdigest_cons] at h
      rcases List.mem_cons.mp h with rfl | h
      · apply hdigit
        omega
      · rcases List.mem_cons.mp h with rfl | h
        · apply hdigit
          omega
        · apply ih h

theorem dropWhile_of_forall {p : Char → Bool} {cs : List Char} (h : ∀ c ∈ cs, p c = false) :
  cs.dropWhile p = cs
  := by
  cases cs with
  | nil => rfl
  | cons c cs => rw [List.dropWhile_cons, h c List.mem_cons_self, if_neg Bool.false_ne_true]

/-- Digits and hyphens are read without the hyphens. -/
theorem uuidDigits_ofList {cs : List Char}
    (h : ∀ c ∈ cs, c ≠ ':' ∧ c ≠ '\x7b' ∧ c ≠ '\x7d') :
  uuidDigits (String.ofList cs) = cs.filter (· ≠ '-')
  := by
  have hcolon : ':' ∉ cs := fun hmem => (h _ hmem).1 rfl
  have hbrace : ∀ c ∈ cs, (c == '\x7b' || c == '\x7d') = false := by
    intro c hc
    obtain ⟨-, hopen, hclose⟩ := h c hc
    simp [hopen, hclose]
  have hreverse : ∀ c ∈ cs.reverse, (c == '\x7b' || c == '\x7d') = false := by
    intro c hc
    apply hbrace c (List.mem_reverse.mp hc)
  simp only [uuidDigits, String.toList_ofList]
  rw [removePattern_of_not_mem (c := ':') (by decide) hcolon,
    removePattern_of_not_mem (c := ':') (by decide) hcolon, dropWhile_of_forall hbrace,
    List.rdropWhile, dropWhile_of_forall hreverse, List.reverse_reverse]

/-- Without its hyphens the text of an identifier is the digest of its bytes. -/
theorem uuidDigits_uuidString (message : UUID) :
  uuidDigits (uuidString message) = (hexdigest message.uuid.toList).toList
  := by
  unfold uuidString
  have hmem : ∀ c ∈ (hexdigest message.uuid.toList).toList,
      c ≠ '-' ∧ c ≠ ':' ∧ c ≠ '\x7b' ∧ c ≠ '\x7d' := fun c hc => mem_hexdigest hc
  generalize (hexdigest message.uuid.toList).toList = digits at hmem
  have htake : ∀ k n, ∀ c ∈ (digits.drop k).take n, c ∈ digits := fun k n c hc =>
    List.mem_of_mem_drop (List.mem_of_mem_take hc)
  have hfilter : ∀ cs : List Char, (∀ c ∈ cs, c ∈ digits) → cs.filter (· ≠ '-') = cs := by
    intro cs hcs
    apply List.filter_eq_self.mpr
    intro c hc
    simpa using (hmem c (hcs c hc)).1
  have hsplit : ∀ k, (digits.drop k).take 4 ++ digits.drop (k + 4) = digits.drop k := by
    intro k
    rw [← List.drop_drop, List.take_append_drop]
  rw [uuidDigits_ofList]
  · simp only [List.filter_append, List.filter_cons, ne_eq, not_true_eq_false, decide_false]
    rw [hfilter _ (fun c hc => List.mem_of_mem_take hc), hfilter _ (htake 8 4),
      hfilter _ (htake 12 4), hfilter _ (htake 16 4),
      hfilter _ (fun c hc => List.mem_of_mem_drop hc)]
    simp only [Bool.false_eq_true, if_false]
    rw [hsplit 16, hsplit 12, hsplit 8, List.take_append_drop]
  · intro c hc
    simp only [List.mem_append, List.mem_cons] at hc
    rcases hc with hc | rfl | hc | rfl | hc | rfl | hc | rfl | hc
    · exact (hmem c (List.mem_of_mem_take hc)).2
    · decide
    · exact (hmem c (htake 8 4 c hc)).2
    · decide
    · exact (hmem c (htake 12 4 c hc)).2
    · decide
    · exact (hmem c (htake 16 4 c hc)).2
    · decide
    · exact (hmem c (List.mem_of_mem_drop hc)).2

theorem uuidMessage_uuidString {message : UUID} (h : zeroUuid message = false) :
  uuidMessage (uuidString message) = .ok message
  := by
  obtain ⟨numbers, hnumbers, hbytes⟩ := mapM_hexValue_hexdigest message.uuid.toList
  have hlength : (hexdigest message.uuid.toList).toList.length = 32 := by
    rw [length_hexdigest, Vector.length_toList]
  have hread : uuidOfText (uuidString message) = some message := by
    simp only [uuidOfText, uuidDigits_uuidString, hnumbers, hlength, ne_eq, not_true_eq_false,
      if_false, hbytes]
    congr
    ext i hi
    simp
  rw [uuidMessage, hread]
  simp [h]

end Missions

end RobotestLab
