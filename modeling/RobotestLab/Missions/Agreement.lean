import RobotestLab.Faults.ControlSpec
import RobotestLab.Missions.ScheduleSpec

/-!
# The two canonicalizers agree

The mission runner and the fault proxy validate and serialize schedules independently. A fault of
the mission runner and a canonical fault of the proxy match when they have the same fields and
the same text of parameters (`Matches`). Matching faults are sorted alike, overlap alike and have
the same text. An accepted fault of the mission runner is sent as a message that the proxy reads
as a matching fault (`canonicalizeFault_faultMessage`), and an accepted message of the proxy holds
a value that the mission runner reads as a matching fault (`fault_decode`).
-/

namespace RobotestLab

namespace Missions

/-! ### Identifiers and digests -/

theorem isIdHead_eq (c : Char) :
  isIdHead c = asciiAlphanumeric c
  := by
  unfold isIdHead asciiAlphanumeric
  cases ('0' ≤ c && c ≤ '9' : Bool) <;> simp

/-- The characters of an identifier are plain ASCII. -/
theorem plainChar_of_isIdTail {c : Char} (h : isIdTail c = true) :
  Json.PlainChar c ∧ c.utf8Size = 1
  := by
  have hbounds : 45 ≤ c.toNat ∧ c.toNat ≤ 122 ∧ c ≠ '\\' := by
    simp only [isIdTail, isIdHead, Bool.or_eq_true, Bool.and_eq_true, decide_eq_true_eq,
      beq_iff_eq, Char.le_def, UInt32.le_iff_toNat_le] at h
    have hne : ∀ n, n ≠ 92 → c.val.toNat = n → c ≠ '\\' := by
      rintro n hn hc rfl
      exact hn hc.symm
    rcases h with (((((⟨hlow, hhigh⟩ | ⟨hlow, hhigh⟩) | ⟨hlow, hhigh⟩) | rfl) | rfl) | rfl)
    · change 65 ≤ c.val.toNat at hlow
      change c.val.toNat ≤ 90 at hhigh
      exact ⟨by change 45 ≤ c.val.toNat; omega, by change c.val.toNat ≤ 122; omega,
        hne _ (by omega) rfl⟩
    · change 97 ≤ c.val.toNat at hlow
      change c.val.toNat ≤ 122 at hhigh
      exact ⟨by change 45 ≤ c.val.toNat; omega, hhigh, hne _ (by omega) rfl⟩
    · change 48 ≤ c.val.toNat at hlow
      change c.val.toNat ≤ 57 at hhigh
      exact ⟨by change 45 ≤ c.val.toNat; omega, by change c.val.toNat ≤ 122; omega,
        hne _ (by omega) rfl⟩
    · decide
    · decide
    · decide
  obtain ⟨hlow, hhigh, hbackslash⟩ := hbounds
  refine ⟨⟨by omega, by omega, ?_, hbackslash⟩, ?_⟩
  · rintro rfl
    exact absurd hlow (by decide)
  · rw [Char.utf8Size_eq_one_iff, UInt32.le_iff_toNat_le]
    exact le_trans hhigh (by decide)

/-- An ASCII text has as many bytes as characters. -/
theorem utf8ByteSize_eq_length {s : String} (h : ∀ c ∈ s.toList, c.utf8Size = 1) :
  s.utf8ByteSize = s.toList.length
  := by
  have hlen : ∀ cs : List Char, (∀ c ∈ cs, c.utf8Size = 1) → String.utf8Len cs = cs.length := by
    intro cs hcs
    induction cs with
    | nil => rfl
    | cons c cs ih =>
        rw [String.utf8Len_cons, hcs c List.mem_cons_self,
          ih (fun d hd => hcs d (List.mem_cons_of_mem _ hd)), List.length_cons]
  rw [← hlen s.toList h, ← String.utf8ByteSize_ofList, String.ofList_toList]

/-- Both sides accept the same identifiers. -/
theorem matchesFaultId_eq (s : String) :
  matchesFaultId s = validFaultId s
  := by
  unfold matchesFaultId validFaultId
  cases hs : s.toList with
  | nil => rfl
  | cons c cs =>
      simp only [← isIdHead_eq]
      rw [Bool.eq_iff_iff]
      simp only [Bool.and_eq_true, decide_eq_true_eq, List.all_cons]
      have hsize : (∀ d ∈ c :: cs, isIdTail d = true) → s.utf8ByteSize = cs.length + 1 := by
        intro hall
        rw [utf8ByteSize_eq_length, hs, List.length_cons]
        intro d hd
        rw [hs] at hd
        exact (plainChar_of_isIdTail (hall d hd)).2
      have hhead : isIdHead c = true → isIdTail c = true := by
        intro hc
        rw [isIdTail, hc]
        rfl
      constructor
      · rintro ⟨⟨hc, hcs⟩, hlength⟩
        rw [hsize]
        · exact ⟨⟨by omega, hc⟩, hhead hc, hcs⟩
        · intro d hd
          rcases List.mem_cons.mp hd with rfl | hd
          · apply hhead hc
          · apply List.all_eq_true.mp hcs d hd
      · rintro ⟨⟨hlength, hc⟩, hc', hcs⟩
        refine ⟨⟨hc, hcs⟩, ?_⟩
        rw [hsize] at hlength
        · omega
        · intro d hd
          rcases List.mem_cons.mp hd with rfl | hd
          · exact hc'
          · apply List.all_eq_true.mp hcs d hd

theorem plainString_of_matchesFaultId {s : String} (h : matchesFaultId s = true) :
  Json.PlainString s
  := by
  unfold matchesFaultId at h
  intro d hd
  cases hs : s.toList with
  | nil =>
      rw [hs] at h
      cases h
  | cons c cs =>
      rw [hs] at h hd
      simp only [Bool.and_eq_true, List.all_eq_true] at h
      obtain ⟨⟨hc, hcs⟩, -⟩ := h
      rcases List.mem_cons.mp hd with rfl | hd
      · apply (plainChar_of_isIdTail _).1
        rw [isIdTail, hc]
        rfl
      · exact (plainChar_of_isIdTail (hcs d hd)).1

/-- Both sides write a digest alike. -/
theorem hexdigest_eq (digest : List UInt8) :
  hexdigest digest = hexadecimal digest
  := by
  unfold hexdigest hexadecimal
  congr 2
  funext byte
  have := byte.toNat_lt
  rw [Nat.mod_eq_of_lt (show byte.toNat / 16 < 16 by omega)]

/-- The digits of a digest pass for a lowercase SHA-256. -/
theorem lowercaseSha256_hexadecimal {digest : List UInt8} (h : digest.length = 32) :
  lowercaseSha256 (hexadecimal digest) = true
  := by
  have hdigit : ∀ n < 16, (('0' ≤ Nat.digitChar n && Nat.digitChar n ≤ '9') ||
      ('a' ≤ Nat.digitChar n && Nat.digitChar n ≤ 'f')) = true ∧
        (Nat.digitChar n).utf8Size = 1 := by decide
  have hmem : ∀ c ∈ (hexadecimal digest).toList, ∃ n < 16, c = Nat.digitChar n := by
    intro c hc
    rw [hexadecimal, String.toList_ofList, List.mem_flatMap] at hc
    obtain ⟨byte, -, hc⟩ := hc
    simp only [List.mem_cons, List.not_mem_nil, or_false] at hc
    rcases hc with rfl | rfl
    · exact ⟨_, Nat.mod_lt _ (by decide), rfl⟩
    · exact ⟨_, Nat.mod_lt _ (by decide), rfl⟩
  have hlength : (hexadecimal digest).toList.length = 2 * digest.length := by
    rw [hexadecimal, String.toList_ofList, List.length_flatMap]
    simp [Nat.mul_comm]
  rw [lowercaseSha256, Bool.and_eq_true, decide_eq_true_eq, List.all_eq_true]
  constructor
  · rw [utf8ByteSize_eq_length, hlength, h]
    intro c hc
    obtain ⟨n, hn, rfl⟩ := hmem c hc
    exact (hdigit n hn).2
  · intro c hc
    obtain ⟨n, hn, rfl⟩ := hmem c hc
    exact (hdigit n hn).1

/-! ### Matching faults -/

/-- The fault of the mission runner and the canonical fault of the proxy are the same. -/
structure Matches (f : FaultSpec) (c : CanonicalFault) : Prop where
  schema : f.schemaVersion = 1
  plain : Json.PlainString f.faultId
  faultId : f.faultId = c.specification.faultId
  target : f.target = c.specification.target.toNat
  mode : f.mode = c.specification.mode.toNat
  start : f.startOffsetNs = c.startOffsetNs
  duration : f.durationNs = c.durationNs
  seed : f.seed = c.specification.seed.toNat
  parameters : f.parametersDict.dumps = c.specification.parametersJson

section Matches

variable {f g : FaultSpec} {c d : CanonicalFault}

/-- Matching faults have the same text. -/
theorem Matches.render (h : Matches f c) :
  Json.render f.asDict = (canonicalFaultJson c).toList
  := by
  have hparameters : Json.render f.parametersDict = c.specification.parametersJson.toList := by
    rw [← h.parameters, Json.dumps, String.toList_ofList]
  have hone : Json.renderInt 1 = ['1'] := by decide
  unfold FaultSpec.asDict canonicalFaultJson
  simp only [Json.render, Json.renderMembers, hparameters, h.schema, h.target, h.mode, h.start,
    h.duration, h.seed, Json.renderString_of_plain h.plain, String.toList_append,
    Json.toList_toString_int, Json.toList_toString_nat, ← h.faultId, hone]
  simp [Json.renderString, Json.escapeChar]

theorem Matches.sortKey_le_iff (hf : Matches f c) (hg : Matches g d) :
  f.sortKey ≤ g.sortKey ↔ c.sortKey ≤ d.sortKey
  := by
  simp only [FaultSpec.sortKey, CanonicalFault.sortKey, Prod.Lex.toLex_le_toLex, hf.start,
    hg.start, hf.target, hg.target, hf.faultId, hg.faultId, Int.ofNat_lt, Int.natCast_inj]

theorem Matches.disjoint_iff (hf : Matches f c) (hg : Matches g d) :
  f.Disjoint g ↔ c.Disjoint d
  := by
  unfold FaultSpec.Disjoint CanonicalFault.Disjoint
  rw [hf.target, hg.target, hf.start, hf.duration, hg.start, Int.natCast_inj, UInt8.toNat_inj]

variable {faults : List FaultSpec} {canonicals : List CanonicalFault}

theorem forall₂_orderedInsert (hf : Matches f c) (h : List.Forall₂ Matches faults canonicals) :
  List.Forall₂ Matches
    (faults.orderedInsert (fun left right => left.sortKey ≤ right.sortKey) f)
    (canonicals.orderedInsert (fun left right => left.sortKey ≤ right.sortKey) c)
  := by
  induction h with
  | nil => exact List.Forall₂.cons hf List.Forall₂.nil
  | @cons g d faults canonicals hg hrest ih =>
      simp only [List.orderedInsert_cons]
      by_cases hle : f.sortKey ≤ g.sortKey
      · rw [if_pos hle, if_pos ((hf.sortKey_le_iff hg).mp hle)]
        exact List.Forall₂.cons hf (List.Forall₂.cons hg hrest)
      · rw [if_neg hle, if_neg (fun hle' => hle ((hf.sortKey_le_iff hg).mpr hle'))]
        exact List.Forall₂.cons hg ih

/-- Matching faults are sorted alike. -/
theorem forall₂_sorted (h : List.Forall₂ Matches faults canonicals) :
  List.Forall₂ Matches (sortedFaults faults) (sortFaults canonicals)
  := by
  induction h with
  | nil => exact List.Forall₂.nil
  | cons hf _ ih => apply forall₂_orderedInsert hf ih

/-- Matching faults follow each other alike. -/
theorem pairwise_disjoint_iff (h : List.Forall₂ Matches faults canonicals) :
  faults.Pairwise FaultSpec.Disjoint ↔ canonicals.Pairwise CanonicalFault.Disjoint
  := by
  induction h with
  | nil => simp
  | @cons f c faults canonicals hf hrest ih =>
      rw [List.pairwise_cons, List.pairwise_cons, ih]
      have hall : (∀ g ∈ faults, f.Disjoint g) ↔ ∀ d ∈ canonicals, c.Disjoint d := by
        clear ih
        induction hrest with
        | nil => simp
        | @cons g d faults canonicals hg _ ih =>
            simp only [List.forall_mem_cons, hf.disjoint_iff hg, ih]
      rw [hall]

theorem map_faultId (h : List.Forall₂ Matches faults canonicals) :
  faults.map FaultSpec.faultId = canonicals.map (·.specification.faultId)
  := by
  induction h with
  | nil => rfl
  | cons hf _ ih => rw [List.map_cons, List.map_cons, ih, hf.faultId]

/-- The elements of an array after the first one are separated by commas. -/
theorem renderElements_asDict (h : List.Forall₂ Matches faults canonicals) (c : CanonicalFault) :
  (canonicalFaultJson c).toList ++ Json.renderElements (faults.map FaultSpec.asDict)
    = (",".intercalate (canonicalFaultJson c :: canonicals.map canonicalFaultJson)).toList ++ [']']
  := by
  induction h generalizing c with
  | nil => rw [List.map_nil, List.map_nil, String.intercalate_singleton, Json.renderElements]
  | @cons f d faults canonicals hf _ ih =>
      rw [List.map_cons, List.map_cons, Json.renderElements, hf.render, ih d,
        String.intercalate_cons_cons, String.toList_append, String.toList_append,
        List.append_assoc, List.append_assoc]
      rfl

theorem render_faults (h : List.Forall₂ Matches faults canonicals) :
  Json.render (.arr (faults.map FaultSpec.asDict))
    = '[' :: ((",".intercalate (canonicals.map canonicalFaultJson)).toList ++ [']'])
  := by
  cases h with
  | nil => rw [List.map_nil, List.map_nil, String.intercalate_nil, Json.render]; rfl
  | cons hf h =>
      rw [List.map_cons, List.map_cons, Json.render, hf.render, renderElements_asDict h]

/-- Matching schedules have the same bytes. -/
theorem dumps_content (h : List.Forall₂ Matches faults canonicals) :
  (content faults).dumps = scheduleBytes canonicals
  := by
  have hone : Json.renderInt 1 = ['1'] := by decide
  have hversion : Json.renderString "schema_version" = "\"schema_version\"".toList := by
    simp [Json.renderString, Json.escapeChar]
  have hfaults : Json.renderString "faults" = "\"faults\"".toList := by
    simp [Json.renderString, Json.escapeChar]
  unfold scheduleBytes content Json.dumps
  apply String.toList_inj.mp
  rw [String.toList_ofList, String.toList_append, String.toList_append]
  simp only [Json.render, Json.renderMembers, hone, hversion, hfaults]
  rw [render_faults h]
  simp only [String.reduceToList, List.cons_append, List.nil_append, List.append_assoc]

end Matches

/-! ### From the mission runner to the proxy -/

/-- The reader of the proxy reads the compact text of an object of 64-bit integers. -/
def ReadsIntegers (lib : Libraries) : Prop :=
  ∀ members : List (String × Int), (members.map Prod.fst).Nodup →
    (∀ member ∈ members, Json.PlainString member.1 ∧ Int64Arith.InRange member.2) →
    lib.parseJson (Json.dumps (.obj (members.map fun (name, value) => (name, .int value))))
      = some (.obj (members.map fun (name, value) => (name, .int value)))

/-- The reader of RFC 8259 reads integers. -/
theorem readsIntegers_parse (lib : Libraries) (h : lib.parseJson = Json.parse) :
  ReadsIntegers lib
  := by
  intro members _ hmembers
  rw [h]
  apply Json.parse_dumps
  rw [Json.Plain]
  induction members with
  | nil => apply trivial
  | cons member members ih =>
      rw [List.map_cons, Json.PlainMembers, Json.Plain]
      refine ⟨(hmembers member List.mem_cons_self).1, trivial, ?_⟩
      apply ih
      · apply List.Nodup.of_cons
        assumption
      · intro other hother
        apply hmembers other (List.mem_cons_of_mem _ hother)

/-- The parts of an offset of at most 3600 seconds. -/
theorem durationFromNs_spec {value : Int} (hlow : 0 ≤ value) (hhigh : value ≤ 3600000000000) :
  normalizedDuration (durationFromNs value) = true ∧ (durationFromNs value).ns = value
  := by
  have hsec : (durationFromNs value).sec.toInt = value / 1000000000 := by
    apply Int32.toInt_ofInt_of_le
    · omega
    · omega
  have hnanosec : ((durationFromNs value).nanosec.toNat : Int) = value % 1000000000 := by
    rw [durationFromNs, UInt32.ofInt, UInt32.toNat_ofNat_of_lt' (by rw [UInt32.size]; omega)]
    omega
  rw [normalizedDuration_iff, Duration.ns, hsec, hnanosec]
  refine ⟨⟨by omega, by omega⟩, by omega⟩

theorem dumps_drift (xRate yawRate : Int) :
  Json.dumps (.obj [("x_rate_nm_per_s", .int xRate), ("yaw_rate_nrad_per_s", .int yawRate)])
    = driftJson xRate yawRate
  := by
  have hx : Json.renderString "x_rate_nm_per_s" = "\"x_rate_nm_per_s\"".toList := by
    simp [Json.renderString, Json.escapeChar]
  have hyaw : Json.renderString "yaw_rate_nrad_per_s" = "\"yaw_rate_nrad_per_s\"".toList := by
    simp [Json.renderString, Json.escapeChar]
  unfold driftJson Json.dumps
  apply String.toList_inj.mp
  simp only [String.toList_ofList, String.toList_append, Json.toList_toString_int, Json.render,
    Json.renderMembers, hx, hyaw]
  simp only [String.reduceToList, List.cons_append, List.nil_append, List.append_assoc]

/-- The message of a valid fault passes the checks of the proxy. -/
theorem FaultSpec.Valid.message {f : FaultSpec} (h : f.Valid) :
  (faultMessage f).Valid ∧ ((faultMessage f).target.toNat : Int) = f.target ∧
    ((faultMessage f).mode.toNat : Int) = f.mode ∧
    ((faultMessage f).seed.toNat : Int) = f.seed ∧
    (faultMessage f).startOffset.ns = f.startOffsetNs ∧
    (faultMessage f).duration.ns = f.durationNs
  := by
  have hmin := h.start
  have hpositive := h.positive
  have hhorizon := h.horizon
  have hseed := h.seed
  unfold MIN_START_OFFSET_NS at hmin
  unfold MAX_TIME_NS at hhorizon
  unfold UINT64_MAX at hseed
  obtain ⟨hstart, hstartNs⟩ : normalizedDuration (faultMessage f).startOffset = true ∧
      (faultMessage f).startOffset.ns = f.startOffsetNs :=
    durationFromNs_spec (by omega) (by omega)
  obtain ⟨hduration, hdurationNs⟩ : normalizedDuration (faultMessage f).duration = true ∧
      (faultMessage f).duration.ns = f.durationNs :=
    durationFromNs_spec (by omega) (by omega)
  have hseedNat : ((faultMessage f).seed.toNat : Int) = f.seed := by
    rw [faultMessage, UInt64.ofInt, UInt64.toNat_ofNat_of_lt' (by rw [UInt64.size]; omega)]
    omega
  have hpairs : validTargetMode (faultMessage f).target (faultMessage f).mode = true ∧
      ((faultMessage f).target.toNat : Int) = f.target ∧
      ((faultMessage f).mode.toNat : Int) = f.mode := by
    have htarget : f.target = 1 ∨ f.target = 2 ∨ f.target = 3 := by
      have := h.target
      unfold TARGET_SCAN TARGET_IMU at this
      omega
    change validTargetMode (UInt8.ofInt f.target) (UInt8.ofInt f.mode) = true ∧
      ((UInt8.ofInt f.target).toNat : Int) = f.target ∧ ((UInt8.ofInt f.mode).toNat : Int) = f.mode
    rcases h.pair with hmode | ⟨htarget, hmode⟩ | ⟨htarget, hmode⟩
    · rcases htarget with htarget | htarget | htarget <;> rw [htarget, hmode] <;> decide
    · rw [htarget, hmode]
      decide
    · rw [htarget, hmode]
      decide
  obtain ⟨hpair, htarget, hmode⟩ := hpairs
  refine ⟨?_, htarget, hmode, hseedNat, hstartNs, hdurationNs⟩
  constructor
  · rw [faultMessage, h.schema]
    rfl
  · rw [← matchesFaultId_eq]
    exact h.id
  · exact hpair
  · exact hstart
  · exact hduration
  · rw [hstartNs]
    exact hmin
  · rw [hdurationNs]
    omega
  · rw [hstartNs, hdurationNs]
    exact hhorizon

/-- The compact text of an object is not empty. -/
theorem dumps_obj_isEmpty (members : List (String × Json)) :
  (Json.dumps (.obj members)).isEmpty = false
  := by
  rw [String.isEmpty_eq_false_iff]
  intro hempty
  have htext : (Json.dumps (.obj members)).toList = [] := by
    rw [hempty]
    rfl
  rw [Json.dumps, String.toList_ofList] at htext
  cases members with
  | nil => cases htext
  | cons member members =>
      obtain ⟨name, value⟩ := member
      cases htext

/-- An integer within the bound of the rates is read. -/
theorem boundedJsonInteger_rate {rate : Int} (h : -MAX_RATE ≤ rate ∧ rate ≤ MAX_RATE) :
  boundedJsonInteger (.int rate) = some rate
  := by
  unfold MAX_RATE at h
  simp only [boundedJsonInteger]
  by_cases hsign : 0 ≤ rate
  · rw [if_pos ⟨hsign, by omega⟩, if_neg (by unfold Int64Arith.greatest; omega)]
  · rw [if_neg (by omega), if_pos (by unfold Int64Arith.least; omega)]

variable {members : List (String × Json)}

/-- The two rates of a drift are found in either order. -/
theorem parseDrift_members {xRate yawRate : Int}
    (hmembers : members = [("x_rate_nm_per_s", .int xRate), ("yaw_rate_nrad_per_s", .int yawRate)] ∨
      members = [("yaw_rate_nrad_per_s", .int yawRate), ("x_rate_nm_per_s", .int xRate)]) :
  parseDrift members = match boundedJsonInteger (.int xRate), boundedJsonInteger (.int yawRate) with
    | some xRate, some yawRate =>
        if xRate < -kMaximumDriftRateScaled ∨ kMaximumDriftRateScaled < xRate ∨
            yawRate < -kMaximumDriftRateScaled ∨ kMaximumDriftRateScaled < yawRate then
          .error "odometry drift rate exceeds the Phase 3 bound"
        else if xRate = 0 ∧ yawRate = 0 then
          .error "odometry drift must configure at least one nonzero rate"
        else
          .ok { xRateNmPerS := xRate, yawRateNradPerS := yawRate
                canonicalJson := driftJson xRate yawRate }
    | _, _ => .error "odometry drift rates must be signed 64-bit integers"
  := by
  rcases hmembers with rfl | rfl
  · rfl
  · rfl

/-- The rates of a drift are read in either order. -/
theorem parseDrift_rates {xRate yawRate : Int}
    (hmembers : members = [("x_rate_nm_per_s", .int xRate), ("yaw_rate_nrad_per_s", .int yawRate)] ∨
      members = [("yaw_rate_nrad_per_s", .int yawRate), ("x_rate_nm_per_s", .int xRate)])
    (hx : -MAX_RATE ≤ xRate ∧ xRate ≤ MAX_RATE) (hyaw : -MAX_RATE ≤ yawRate ∧ yawRate ≤ MAX_RATE)
    (hnonzero : ¬ (xRate = 0 ∧ yawRate = 0)) :
  parseDrift members = .ok {
    xRateNmPerS := xRate, yawRateNradPerS := yawRate, canonicalJson := driftJson xRate yawRate }
  := by
  rw [parseDrift_members hmembers, boundedJsonInteger_rate hx, boundedJsonInteger_rate hyaw]
  unfold MAX_RATE at hx hyaw
  simp only
  rw [if_neg (by unfold kMaximumDriftRateScaled; omega), if_neg hnonzero]

variable {spec : RobotestLab.FaultSpec}

/-- The parameters of an accepted fault are read back. -/
theorem Parameters.read {lib : Libraries} (hlib : ReadsIntegers lib) {target mode : Int}
    {ps : List (String × Int)} (h : Parameters target mode ps)
    (hmode : (spec.mode.toNat : Int) = mode)
    (hjson : spec.parametersJson = Json.dumps (.obj (ps.map fun (name, value) =>
      (name, .int value)))) :
  ∃ parameters, parseParameters lib spec = .ok parameters ∧
    parameters.canonicalJson = spec.parametersJson
  := by
  have hempty : spec.parametersJson.isEmpty = false := by
    rw [hjson]
    apply dumps_obj_isEmpty
  cases h with
  | empty hmodes =>
      have hparse : lib.parseJson spec.parametersJson = some (.obj []) := by
        rw [hjson]
        apply hlib []
        · apply List.nodup_nil
        · simp
      have hmodes' : spec.mode = RobotestLab.FaultSpec.MODE_PASS_THROUGH ∨
          spec.mode = RobotestLab.FaultSpec.MODE_LIDAR_DROPOUT := by
        rw [← hmode] at hmodes
        unfold MODE_PASS_THROUGH MODE_LIDAR_DROPOUT at hmodes
        rcases hmodes with hmodes | hmodes
        · left
          apply UInt8.toNat_inj.mp
          exact Int.ofNat_inj.mp hmodes
        · right
          apply UInt8.toNat_inj.mp
          exact Int.ofNat_inj.mp hmodes
      refine ⟨{ canonicalJson := "{}" }, ?_, ?_⟩
      · rw [parseParameters, hempty, hparse]
        change (if spec.mode = _ ∨ spec.mode = _ then _ else _) = _
        rw [if_pos hmodes']
        rfl
      · rw [hjson]
        decide
  | @drift xRate yawRate hx hyaw hnonzero =>
      have hparse : lib.parseJson spec.parametersJson = some (.obj
          [("x_rate_nm_per_s", .int xRate), ("yaw_rate_nrad_per_s", .int yawRate)]) := by
        rw [hjson]
        apply hlib [("x_rate_nm_per_s", xRate), ("yaw_rate_nrad_per_s", yawRate)]
        · change ["x_rate_nm_per_s", "yaw_rate_nrad_per_s"].Nodup
          decide
        · unfold MAX_RATE at hx hyaw
          simp only [List.forall_mem_cons, List.not_mem_nil, false_imp_iff, implies_true, and_true,
            Int64Arith.InRange, Int64Arith.least, Int64Arith.greatest]
          refine ⟨⟨plainString_of_matchesFaultId (by decide), by omega⟩,
            plainString_of_matchesFaultId (by decide), by omega⟩
      have hmode' : spec.mode = RobotestLab.FaultSpec.MODE_ODOM_DRIFT := by
        apply UInt8.toNat_inj.mp
        exact Int.ofNat_inj.mp hmode
      refine ⟨{ xRateNmPerS := xRate, yawRateNradPerS := yawRate,
                canonicalJson := driftJson xRate yawRate }, ?_, ?_⟩
      · rw [parseParameters, hempty, hparse]
        change (if spec.mode = _ ∨ spec.mode = _ then _ else if spec.mode ≠ _ then _ else
          parseDrift _) = _
        rw [hmode', if_neg (by decide), if_neg (by decide)]
        apply parseDrift_rates (.inl rfl) hx hyaw hnonzero
      · rw [hjson]
        exact (dumps_drift xRate yawRate).symm

/-- The message of a valid fault is read as a matching fault. -/
theorem canonicalizeFault_faultMessage {lib : Libraries} (hlib : ReadsIntegers lib) {f : FaultSpec}
    (h : f.Valid) :
  ∃ c, canonicalizeFault lib [] (faultMessage f) = .ok c ∧ Matches f c
  := by
  obtain ⟨hvalid, htarget, hmode, hseed, hstart, hduration⟩ := h.message
  obtain ⟨parameters, hread, hjson⟩ := h.parameters.read hlib hmode rfl
  refine ⟨canonicalForm (faultMessage f) parameters, ?_, ?_⟩
  · apply canonicalizeFault_eq_ok.mpr
    exact ⟨List.not_mem_nil, hvalid, parameters, hread, rfl⟩
  · exact {
      schema := h.schema
      plain := plainString_of_matchesFaultId h.id
      faultId := rfl
      target := htarget.symm
      mode := hmode.symm
      start := hstart.symm
      duration := hduration.symm
      seed := hseed.symm
      parameters := hjson.symm }

/-! ### From the proxy to the mission runner -/

/-- The untyped form of a message: its offsets in nanoseconds and its parameters as they are
read. -/
def decodeFault (lib : Libraries) (float : String → Option ℚ) (spec : RobotestLab.FaultSpec) :
    Option PyValue :=
  (lib.parseJson spec.parametersJson).map fun parameters =>
    .dict [
      (.str "schema_version", .int spec.schemaVersion.toNat),
      (.str "fault_id", .str spec.faultId),
      (.str "target", .int spec.target.toNat),
      (.str "mode", .int spec.mode.toNat),
      (.str "start_offset_ns", .int spec.startOffset.ns),
      (.str "duration_ns", .int spec.duration.ns),
      (.str "seed", .int spec.seed.toNat),
      (.str "parameters", PyValue.ofJson float parameters)]

/-- What the proxy reads as an integer is one. -/
theorem eq_int_of_boundedJsonInteger {value : Json} {n : Int}
    (h : boundedJsonInteger value = some n) :
  value = .int n
  := by
  cases value with
  | int m =>
      simp only [boundedJsonInteger] at h
      split_ifs at h
      · rw [Option.some.inj h]
      · rw [Option.some.inj h]
  | _ => cases h

variable {ps : ParsedParameters}

/-- The parameters of a drift are the members of an object with two members. -/
theorem parseDrift_eq_ok (h : parseDrift members = .ok ps) :
  ∃ xRate yawRate, members.length = 2 ∧ members.lookup "x_rate_nm_per_s" = some (.int xRate) ∧
    members.lookup "yaw_rate_nrad_per_s" = some (.int yawRate) ∧
    (-MAX_RATE ≤ xRate ∧ xRate ≤ MAX_RATE) ∧ (-MAX_RATE ≤ yawRate ∧ yawRate ≤ MAX_RATE) ∧
    ¬ (xRate = 0 ∧ yawRate = 0) ∧ ps.canonicalJson = driftJson xRate yawRate
  := by
  unfold parseDrift at h
  split at h
  · rename_i x yaw hx hyaw
    split at h
    · cases h
    · rename_i hlength
      split at h
      · rename_i xRate yawRate hxRate hyawRate
        split_ifs at h with hbounds hzero
        obtain rfl := eq_int_of_boundedJsonInteger hxRate
        obtain rfl := eq_int_of_boundedJsonInteger hyawRate
        obtain rfl := Except.ok.inj h
        unfold kMaximumDriftRateScaled at hbounds
        unfold MAX_RATE
        exact ⟨xRate, yawRate, not_not.mp hlength, hx, hyaw, by omega, by omega, hzero, rfl⟩
      · cases h
  · cases h

/-- What the proxy reads as parameters. -/
theorem parseParameters_eq_ok {lib : Libraries} (h : parseParameters lib spec = .ok ps) :
  ∃ members, lib.parseJson spec.parametersJson = some (.obj members) ∧
    ((spec.mode = RobotestLab.FaultSpec.MODE_PASS_THROUGH ∨
        spec.mode = RobotestLab.FaultSpec.MODE_LIDAR_DROPOUT) ∧
      members = [] ∧ ps.canonicalJson = "{}" ∨
    spec.mode = RobotestLab.FaultSpec.MODE_ODOM_DRIFT ∧ parseDrift members = .ok ps)
  := by
  unfold parseParameters at h
  split at h
  · cases h
  · split at h
    · cases h
    · rename_i value hvalue
      split at h
      · cases h
      · split at h
        · rename_i members _
          refine ⟨members, hvalue, ?_⟩
          split_ifs at h with hmode hmembers hdrift
          · obtain rfl := Except.ok.inj h
            exact Or.inl ⟨hmode, not_not.mp hmembers, rfl⟩
          · exact Or.inr ⟨not_not.mp hdrift, h⟩
        · cases h

/-- The two members of an object that has the keys of the rates. -/
theorem members_of_lookup {x yaw : Json}
    (hlength : members.length = 2) (hx : members.lookup "x_rate_nm_per_s" = some x)
    (hyaw : members.lookup "yaw_rate_nrad_per_s" = some yaw) :
  members = [("x_rate_nm_per_s", x), ("yaw_rate_nrad_per_s", yaw)] ∨
    members = [("yaw_rate_nrad_per_s", yaw), ("x_rate_nm_per_s", x)]
  := by
  obtain ⟨⟨first, value⟩, ⟨second, value'⟩, rfl⟩ := List.length_eq_two.mp hlength
  simp only [List.lookup_cons, List.lookup_nil] at hx hyaw
  split at hx
  · rename_i hfirst
    obtain rfl := eq_of_beq hfirst
    obtain rfl := Option.some.inj hx
    split at hyaw
    · rename_i hfirst'
      cases hfirst'
    · split at hyaw
      · rename_i hsecond
        obtain rfl := eq_of_beq hsecond
        obtain rfl := Option.some.inj hyaw
        exact Or.inl rfl
      · cases hyaw
  · split at hx
    · rename_i hsecond
      obtain rfl := eq_of_beq hsecond
      obtain rfl := Option.some.inj hx
      split at hyaw
      · rename_i hfirst
        obtain rfl := eq_of_beq hfirst
        obtain rfl := Option.some.inj hyaw
        exact Or.inr rfl
      · split at hyaw
        · rename_i hsecond'
          cases hsecond'
        · cases hyaw
    · cases hx

/-- The mission runner accepts the two rates of a drift. -/
theorem parameters_drift (float : String → Option ℚ) (h : parseDrift members = .ok ps) :
  ∃ rates, parameters TARGET_ODOM MODE_ODOM_DRIFT
    (PyValue.ofJson float (.obj members)) = .ok rates ∧
    Json.dumps (.obj (rates.map fun (name, value) => (name, .int value))) = ps.canonicalJson
  := by
  obtain ⟨xRate, yawRate, hlength, hx, hyaw, hxBounds, hyawBounds, hnonzero, hjson⟩ :=
    parseDrift_eq_ok h
  refine ⟨[("x_rate_nm_per_s", xRate), ("yaw_rate_nrad_per_s", yawRate)], ?_, ?_⟩
  · have hread : ∀ items : List (PyValue × PyValue),
        PyValue.hasKeys ["x_rate_nm_per_s", "yaw_rate_nrad_per_s"] items = true →
        PyValue.item "x_rate_nm_per_s" items = .int xRate →
        PyValue.item "yaw_rate_nrad_per_s" items = .int yawRate →
        parameters TARGET_ODOM MODE_ODOM_DRIFT (.dict items)
          = .ok [("x_rate_nm_per_s", xRate), ("yaw_rate_nrad_per_s", yawRate)] := by
      intro items hkeys hx hyaw
      simp only [parameters, PyValue.asMapping]
      rw [if_neg (by decide), if_pos (by decide)]
      simp only [Except.bind_eq_ok_iff, ensure_eq_ok, exists_const, integer_eq_ok, hx, hyaw]
      refine ⟨hkeys, xRate, ⟨rfl, hxBounds⟩, yawRate, ⟨rfl, hyawBounds⟩, ?_, rfl⟩
      simpa [imp_iff_not_or] using hnonzero
    rcases members_of_lookup hlength hx hyaw with rfl | rfl
    · apply hread
      · rfl
      · rfl
      · rfl
    · apply hread
      · rfl
      · rfl
      · rfl
  · rw [hjson]
    apply dumps_drift

/-- The parameters that the proxy reads are accepted by the mission runner. -/
theorem parameters_of_parseParameters {lib : Libraries} (float : String → Option ℚ)
    (hpair : validTargetMode spec.target spec.mode = true) (h : parseParameters lib spec = .ok ps) :
  ∃ value rates, lib.parseJson spec.parametersJson = some value ∧
    parameters spec.target.toNat spec.mode.toNat (PyValue.ofJson float value) = .ok rates ∧
    Json.dumps (.obj (rates.map fun (name, value) => (name, .int value))) = ps.canonicalJson
  := by
  obtain ⟨members, hvalue, ⟨hmode, rfl, hjson⟩ | ⟨hmode, hdrift⟩⟩ := parseParameters_eq_ok h
  · refine ⟨.obj [], [], hvalue, ?_, ?_⟩
    · have hmode' : (spec.mode.toNat : Int) = MODE_PASS_THROUGH ∨
          (spec.mode.toNat : Int) = MODE_LIDAR_DROPOUT := by
        rcases hmode with hmode | hmode <;> rw [hmode] <;> decide
      simp only [parameters, PyValue.ofJson, PyValue.ofMembers, PyValue.asMapping]
      rw [if_pos hmode']
      rfl
    · rw [hjson]
      decide
  · obtain ⟨rates, hrates, hjson⟩ := parameters_drift float hdrift
    refine ⟨.obj members, rates, hvalue, ?_, hjson⟩
    have htarget : spec.target = RobotestLab.FaultSpec.TARGET_ODOM := by
      rw [hmode] at hpair
      exact of_decide_eq_true hpair
    rw [hmode, htarget]
    exact hrates

/-- The targets and modes that the proxy accepts together. -/
theorem pair_of_validTargetMode {target mode : UInt8} (h : validTargetMode target mode = true) :
  (TARGET_SCAN ≤ target.toNat ∧ (target.toNat : Int) ≤ TARGET_IMU) ∧
    ((mode.toNat : Int) = MODE_PASS_THROUGH ∨
      ((target.toNat : Int) = TARGET_SCAN ∧ (mode.toNat : Int) = MODE_LIDAR_DROPOUT) ∨
      ((target.toNat : Int) = TARGET_ODOM ∧ (mode.toNat : Int) = MODE_ODOM_DRIFT))
  := by
  unfold validTargetMode at h
  split_ifs at h with hpass hdropout hdrift
  · simp only [Bool.or_eq_true, decide_eq_true_eq] at h
    rcases h with (htarget | htarget) | htarget <;> rw [htarget, hpass] <;> decide
  · rw [of_decide_eq_true h, hdropout]
    decide
  · rw [of_decide_eq_true h, hdrift]
    decide

/-- An accepted message holds a value that the mission runner reads as a matching fault. -/
theorem fault_decode {lib : Libraries} (float : String → Option ℚ)
    {c : CanonicalFault} (h : canonicalizeFault lib [] spec = .ok c) :
  ∃ raw f, decodeFault lib float spec = some raw ∧ fault raw = .ok f ∧ Matches f c
  := by
  obtain ⟨-, hvalid, ps, hps, rfl⟩ := canonicalizeFault_eq_ok.mp h
  obtain ⟨value, rates, hvalue, hrates, hjson⟩ :=
    parameters_of_parseParameters float hvalid.targetMode hps
  let f : FaultSpec := {
    schemaVersion := 1
    faultId := spec.faultId
    target := spec.target.toNat
    mode := spec.mode.toNat
    startOffsetNs := spec.startOffset.ns
    durationNs := spec.duration.ns
    seed := spec.seed.toNat
    parameters := rates }
  have hid : matchesFaultId spec.faultId = true := by
    rw [matchesFaultId_eq]
    exact hvalid.id
  obtain ⟨htarget, hpair⟩ := pair_of_validTargetMode hvalid.targetMode
  have hf : f.Valid := {
    schema := rfl
    id := hid
    target := htarget
    pair := hpair
    start := hvalid.start
    positive := hvalid.positive
    horizon := hvalid.horizon
    seed := ⟨Int.natCast_nonneg _, Int.ofNat_le.mpr (Nat.le_of_lt_succ spec.seed.toNat_lt)⟩
    parameters := Parameters.of_ok hrates }
  refine ⟨_, f, by rw [decodeFault, hvalue]; rfl, ?_, ?_⟩
  · apply fault_eq_ok.mpr
    refine ⟨_, rfl, ?_, hf⟩
    exact {
      keys := rfl
      schema := by
        rw [hvalid.schema]
        rfl
      faultId := rfl
      target := rfl
      mode := rfl
      start := rfl
      duration := rfl
      seed := rfl
      parameters := hrates }
  · exact {
      schema := rfl
      plain := plainString_of_matchesFaultId hid
      faultId := rfl
      target := rfl
      mode := rfl
      start := rfl
      duration := rfl
      seed := rfl
      parameters := hjson }

/-! ### Schedules -/

theorem sortedFaults_sortedFaults (faults : List FaultSpec) :
  sortedFaults (sortedFaults faults) = sortedFaults faults
  := by
  have : Std.Total fun left right : FaultSpec => left.sortKey ≤ right.sortKey :=
    ⟨fun left right => le_total left.sortKey right.sortKey⟩
  have : IsTrans FaultSpec fun left right => left.sortKey ≤ right.sortKey :=
    ⟨fun _ _ _ => le_trans⟩
  apply List.Pairwise.insertionSort_eq
  apply List.pairwise_insertionSort

/-- The messages of valid faults are read as matching faults. -/
theorem canonicalizeFault_faultMessages {lib : Libraries} (hlib : ReadsIntegers lib)
    (faults : List FaultSpec) (h : ∀ f ∈ faults, f.Valid) :
  ∃ canonicals, List.Forall₂ (fun spec c => canonicalizeFault lib [] spec = .ok c)
    (faults.map faultMessage) canonicals ∧ List.Forall₂ Matches faults canonicals
  := by
  induction faults with
  | nil => exact ⟨[], List.Forall₂.nil, List.Forall₂.nil⟩
  | cons f faults ih =>
      obtain ⟨c, hc, hmatches⟩ := canonicalizeFault_faultMessage hlib (h f List.mem_cons_self)
      obtain ⟨canonicals, hcanonicals, hall⟩ := ih fun g hg => h g (List.mem_cons_of_mem _ hg)
      exact ⟨c :: canonicals, List.Forall₂.cons hc hcanonicals, List.Forall₂.cons hmatches hall⟩

/-- Accepted messages hold values that the mission runner reads as matching faults. -/
theorem fault_decodes {lib : Libraries} (float : String → Option ℚ)
    {specs : List RobotestLab.FaultSpec} {canonicals : List CanonicalFault}
    (h : List.Forall₂ (fun spec c => canonicalizeFault lib [] spec = .ok c) specs canonicals) :
  ∃ raw faults, specs.mapM (decodeFault lib float) = some raw ∧
    List.Forall₂ (fun value f => fault value = .ok f) raw faults ∧
    List.Forall₂ Matches faults canonicals
  := by
  induction h with
  | nil => exact ⟨[], [], rfl, List.Forall₂.nil, List.Forall₂.nil⟩
  | cons hspec _ ih =>
      obtain ⟨value, f, hvalue, hf, hmatches⟩ := fault_decode float hspec
      obtain ⟨raw, faults, hraw, hfaults, hall⟩ := ih
      refine ⟨value :: raw, f :: faults, ?_, List.Forall₂.cons hf hfaults,
        List.Forall₂.cons hmatches hall⟩
      rw [List.mapM_cons, hvalue, hraw]
      rfl

section Schedules

variable {lib : Libraries} {sha256 : String → List UInt8}

/-- The digest of the proxy is the one of the mission runner. -/
theorem sha256Hex_eq (hsha : ∀ text, lib.evpSha256 text = .digest (sha256 text))
    (hlength : ∀ text, (sha256 text).length = 32) (text : String) :
  sha256Hex lib text = .ok (hexdigest (sha256 text))
  := by
  have hcount : ¬ (sha256 text).length ≠ kSha256ByteCount := not_not.mpr (hlength text)
  rw [sha256Hex, hsha, hexdigest_eq]
  exact if_neg hcount

variable {specs : List RobotestLab.FaultSpec}

/-- The messages of a schedule of the mission runner, in any order, are the same schedule for the
proxy. -/
theorem canonicalizeSchedule_faultMessages (hlib : ReadsIntegers lib)
    (hsha : ∀ text, lib.evpSha256 text = .digest (sha256 text))
    (hlength : ∀ text, (sha256 text).length = 32) {rawFaults claimed : PyValue}
    {schedule : FaultSchedule} (h : buildFaultSchedule sha256 rawFaults claimed = .ok schedule)
    (hperm : specs.Perm (preloadRequestOf schedule).faults) :
  ∃ canonical, canonicalizeSchedule lib specs = .ok canonical ∧
    canonical.bytes = schedule.canonicalJson ∧ canonical.sha256 = schedule.sha256
  := by
  obtain ⟨raw, -, hcount, faults, hforall, hnodup, hdisjoint, -, rfl⟩ :=
    buildFaultSchedule_eq_ok.mp h
  have hvalid : ∀ f ∈ sortedFaults faults, f.Valid := by
    intro f hf
    apply valid_of_forall₂ hforall f ((sortedFaults_perm faults).mem_iff.mp hf)
  obtain ⟨canonicals, hcanonicals, hall⟩ := canonicalizeFault_faultMessages hlib _ hvalid
  have hsorted := forall₂_sorted hall
  rw [sortedFaults_sortedFaults] at hsorted
  have hdumps := dumps_content hsorted
  refine ⟨RobotestLab.scheduleOf canonicals
    (hexdigest (sha256 (content (sortedFaults faults)).dumps)), ?_, hdumps.symm, rfl⟩
  apply canonicalizeSchedule_perm hperm.symm
  apply canonicalizeSchedule_eq_ok.mpr
  refine ⟨?_, canonicals, hcanonicals, ?_, ?_, _, ?_, rfl⟩
  · change ((sortedFaults faults).map faultMessage).length ≤ 16
    rw [List.length_map, (sortedFaults_perm faults).length_eq, ← hforall.length_eq]
    exact hcount
  · change (((sortedFaults faults).map faultMessage).map RobotestLab.FaultSpec.faultId).Nodup
    rw [List.map_map]
    exact ((sortedFaults_perm faults).map FaultSpec.faultId).nodup_iff.mpr hnodup
  · exact (pairwise_disjoint_iff hsorted).mp hdisjoint
  · rw [← hdumps, sha256Hex_eq hsha hlength]

/-- The accepted messages of the proxy are the same schedule for the mission runner. -/
theorem buildFaultSchedule_decode (hsha : ∀ text, lib.evpSha256 text = .digest (sha256 text))
    (hlength : ∀ text, (sha256 text).length = 32) (float : String → Option ℚ)
    {canonical : CanonicalSchedule} (h : canonicalizeSchedule lib specs = .ok canonical) :
  ∃ raw schedule, specs.mapM (decodeFault lib float) = some raw ∧
    buildFaultSchedule sha256 (.list raw) = .ok schedule ∧
    schedule.canonicalJson = canonical.bytes ∧ schedule.sha256 = canonical.sha256
  := by
  obtain ⟨hcount, canonicals, hcanonicals, hnodup, hdisjoint, digest, hdigest, rfl⟩ :=
    canonicalizeSchedule_eq_ok.mp h
  obtain ⟨raw, faults, hraw, hfaults, hall⟩ := fault_decodes float hcanonicals
  have hsorted := forall₂_sorted hall
  have hdumps := dumps_content hsorted
  refine ⟨raw, scheduleOf sha256 (sortedFaults faults), hraw, ?_, hdumps, ?_⟩
  · apply buildFaultSchedule_eq_ok.mpr
    refine ⟨raw, rfl, ?_, faults, hfaults, ?_, ?_, rfl, rfl⟩
    · rw [hfaults.length_eq, hall.length_eq, ← hcanonicals.length_eq]
      exact hcount
    · rw [map_faultId hall, faultIds_of_forall₂ hcanonicals]
      exact hnodup
    · exact (pairwise_disjoint_iff hsorted).mpr hdisjoint
  · rw [← hdumps, sha256Hex_eq hsha hlength] at hdigest
    exact Except.ok.inj hdigest

/-- The rejections of a preload that are not about its content or its hash. -/
def stateRejections : List String :=
  ["preload operation stamp is not normalized", "an armed generation rejects a different preload",
    "schedule generation allocator is exhausted"]

/-- A preload of a canonical schedule under its own digest is not rejected for its content. -/
theorem preload_canonical {canonical : CanonicalSchedule}
    (h : canonicalizeSchedule lib specs = .ok canonical)
    (hhash : lowercaseSha256 canonical.sha256 = true) (p : FaultProtocol) (stamp : Time)
    {outcome : PreloadOutcome} {next : FaultProtocol}
    (hpreload : p.preload lib ⟨canonical.sha256, specs⟩ stamp = .ok (outcome, next)) :
  outcome.accepted = true ∨ outcome.message ∈ stateRejections
  := by
  rw [FaultProtocol.preload_eq, FaultProtocol.answered_eq_ok] at hpreload
  obtain ⟨-, rfl, -⟩ := hpreload
  change (p.preloadVerdict lib ⟨canonical.sha256, specs⟩ stamp).accepted = true ∨
    (p.preloadVerdict lib ⟨canonical.sha256, specs⟩ stamp).message _ _ ∈ stateRejections
  unfold FaultProtocol.preloadVerdict
  split_ifs with hstamp
  · exact Or.inr (by decide)
  · simp only [h]
    unfold FaultProtocol.preloadCanonical
    split
    · rename_i hbad
      rw [hhash, bne_self_eq_false] at hbad
      cases hbad
    · split
      · exact Or.inr (by decide)
      · split
        · exact Or.inl rfl
        · split
          · exact Or.inr (by decide)
          · exact Or.inl rfl

/-- The two canonicalizers agree. Every schedule of the mission runner, its messages in any order,
is accepted by the proxy with the same bytes and the same digest, and a preload with that digest
is not rejected for its content. Every list of messages that the proxy accepts is accepted by the
mission runner in its untyped form, with the same bytes. -/
theorem canonicalizers_agree (hlib : ReadsIntegers lib)
    (hsha : ∀ text, lib.evpSha256 text = .digest (sha256 text))
    (hlength : ∀ text, (sha256 text).length = 32) :
  (∀ (rawFaults claimed : PyValue) (schedule : FaultSchedule),
    buildFaultSchedule sha256 rawFaults claimed = .ok schedule →
    ∀ specs : List RobotestLab.FaultSpec, specs.Perm (preloadRequestOf schedule).faults →
      ∃ canonical, canonicalizeSchedule lib specs = .ok canonical ∧
        canonical.bytes = schedule.canonicalJson ∧ canonical.sha256 = schedule.sha256 ∧
        ∀ (p : FaultProtocol) (stamp : Time) (outcome : PreloadOutcome) (next : FaultProtocol),
          p.preload lib ⟨schedule.sha256, specs⟩ stamp = .ok (outcome, next) →
            outcome.accepted = true ∨ outcome.message ∈ stateRejections) ∧
  (∀ (specs : List RobotestLab.FaultSpec) (canonical : CanonicalSchedule),
    canonicalizeSchedule lib specs = .ok canonical →
    ∀ float : String → Option ℚ, ∃ raw schedule,
      specs.mapM (decodeFault lib float) = some raw ∧
      buildFaultSchedule sha256 (.list raw) = .ok schedule ∧
      schedule.canonicalJson = canonical.bytes ∧ schedule.sha256 = canonical.sha256)
  := by
  constructor
  · intro rawFaults claimed schedule h specs hperm
    obtain ⟨canonical, hcanonical, hbytes, hdigest⟩ :=
      canonicalizeSchedule_faultMessages hlib hsha hlength h hperm
    refine ⟨canonical, hcanonical, hbytes, hdigest, ?_⟩
    intro p stamp outcome next hpreload
    rw [← hdigest] at hpreload
    apply preload_canonical hcanonical _ p stamp hpreload
    obtain ⟨-, faults, -, -, -, digest, hhex, rfl⟩ := canonicalizeSchedule_eq_ok.mp hcanonical
    rw [sha256Hex_eq hsha hlength, hexdigest_eq] at hhex
    obtain rfl := Except.ok.inj hhex
    apply lowercaseSha256_hexadecimal (hlength _)
  · intro specs canonical h float
    apply buildFaultSchedule_decode hsha hlength float h

end Schedules

/-! ### A sample schedule -/

namespace Sample

def lidar : PyValue :=
  .dict [(.str "schema_version", .int 1), (.str "fault_id", .str "scan_drop"),
    (.str "target", .int 1), (.str "mode", .int 1), (.str "start_offset_ns", .int 10000000000),
    (.str "duration_ns", .int 2000000000), (.str "seed", .int 42), (.str "parameters", .dict [])]

def odom : PyValue :=
  .dict [(.str "parameters", .dict [(.str "yaw_rate_nrad_per_s", .int 5000000),
      (.str "x_rate_nm_per_s", .int 10000000)]),
    (.str "duration_ns", .int 20000000000), (.str "seed", .int 42), (.str "mode", .int 4),
    (.str "target", .int 2), (.str "fault_id", .str "odom_drift"),
    (.str "start_offset_ns", .int 10000000000), (.str "schema_version", .int 1)]

/-- The SHA-256 digest of the schedule with the two faults. -/
def sha256 (_ : String) : List UInt8 :=
  [0x20, 0x88, 0x1d, 0x78, 0x37, 0x8b, 0x22, 0xe8, 0xea, 0x56, 0x3f, 0xab, 0xbc, 0x51, 0x3a, 0x60,
    0x1c, 0xc9, 0x07, 0xe6, 0xd5, 0x83, 0x23, 0x8c, 0xdc, 0x06, 0x1f, 0xfa, 0x34, 0xd0, 0xc2, 0x85]

def libraries : Libraries where
  parseJson := Json.parse
  evpSha256 text := .digest (sha256 text)

end Sample

/-- The proxy accepts the two faults of the sample in the other order and under their hash. -/
theorem canonicalizers_agree_sample :
  ∃ schedule canonical, buildFaultSchedule Sample.sha256 (.list [Sample.odom, Sample.lidar])
      = .ok schedule ∧
    schedule.sha256 = "20881d78378b22e8ea563fabbc513a601cc907e6d583238cdc061ffa34d0c285" ∧
    schedule.faults.length = 2 ∧
    canonicalizeSchedule Sample.libraries (schedule.faults.map faultMessage).reverse
      = .ok canonical ∧ canonical.bytes = schedule.canonicalJson
  := by
  have haccepted : (buildFaultSchedule Sample.sha256 (.list [Sample.odom, Sample.lidar])).map
      (fun schedule => (schedule.sha256, schedule.faults.length))
        = .ok ("20881d78378b22e8ea563fabbc513a601cc907e6d583238cdc061ffa34d0c285", 2) := by
    decide +kernel
  cases hbuild : buildFaultSchedule Sample.sha256 (.list [Sample.odom, Sample.lidar]) with
  | error message =>
      rw [hbuild] at haccepted
      cases haccepted
  | ok schedule =>
      rw [hbuild] at haccepted
      obtain ⟨hhash, hcount⟩ := Prod.mk.inj (Except.ok.inj haccepted)
      obtain ⟨canonical, hcanonical, hbytes, -⟩ := (canonicalizers_agree
        (readsIntegers_parse Sample.libraries rfl) (fun _ => rfl) (fun _ => rfl)).1
        _ _ schedule hbuild _ (List.reverse_perm _)
      exact ⟨schedule, canonical, rfl, hhash, hcount, hcanonical, hbytes⟩

end Missions

end RobotestLab
