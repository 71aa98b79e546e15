import RobotestLab.Collisions.Snapshots
import RobotestLab.Library.Related
import Mathlib.Algebra.Order.BigOperators.Group.List

/-!
# From the aggregator to the gate

The outputs of the aggregator reach the gate through a bridge that copies them field by field. The
two sides check the same bounds, but they count the bytes of texts differently. What the aggregator
emits is always admissible to the gate: an output is within the bounds of the gate, and outputs are
20 ms apart. So the gate stops for nothing but the bounds of its active set and the names of the
pairs. Once it has stopped, its last stamp is kept, and every later output is too far from it.
-/

namespace RobotestLab

namespace Collisions

open ContactAggregatorPolicy

variable {F64 : Type}

/-! ### Bridged messages -/

/-- The frame that a header names. -/
def Gz.Header.frameId (header : Gz.Header) : String :=
  match header.data with
  | [datum] => datum.value.headD ""
  | _ => ""

/-- Stamps and frames are kept. -/
structure BridgedHeader (source : Gz.Header) (target : Header) : Prop where
  sec : target.stamp.sec.toInt = source.stamp.sec
  nanosec : (target.stamp.nanosec.toNat : Int) = source.stamp.nsec
  frameId : target.frameId = source.frameId

structure BridgedVector (source : Gz.Vector3d F64) (target : Ros.Vector3 F64) : Prop where
  x : target.x = source.x
  y : target.y = source.y
  z : target.z = source.z

structure BridgedWrench (source : Gz.Wrench F64) (target : Ros.Wrench F64) : Prop where
  force : BridgedVector source.force target.force
  torque : BridgedVector source.torque target.torque

structure BridgedJointWrench (source : Gz.JointWrench F64) (target : Ros.JointWrench F64) :
    Prop where
  header : BridgedHeader source.header target.header
  body1Name : target.body1Name = source.body1Name
  body2Name : target.body2Name = source.body2Name
  body1Wrench : BridgedWrench source.body1Wrench target.body1Wrench
  body2Wrench : BridgedWrench source.body2Wrench target.body2Wrench

/-- Identifiers and types of entities are not read by the gate. -/
structure BridgedContact (source : Gz.Contact F64) (target : Ros.Contact F64) : Prop where
  collision1 : target.collision1.name = source.collision1.name
  collision2 : target.collision2.name = source.collision2.name
  positions : List.Forall₂ BridgedVector source.position target.positions
  normals : List.Forall₂ BridgedVector source.normal target.normals
  depths : target.depths = source.depth
  wrenches : List.Forall₂ BridgedJointWrench source.wrench target.wrenches

/-- A message of the simulator and the message that the bridge makes of it. -/
structure Bridged (source : Gz.Contacts F64) (target : Ros.Contacts F64) : Prop where
  header : BridgedHeader source.header target.header
  contacts : List.Forall₂ BridgedContact source.contact target.contacts

/-! ### Contacts -/

/-- What a list of distinct keys contributes for one of them. -/
theorem flatMap_ite_eq {A B : Type} [DecidableEq A] {keys : List A} (hnodup : keys.Nodup) (p : A)
    (l : List B) :
  (keys.flatMap fun q => if q = p then l else []) = if p ∈ keys then l else []
  := by
  induction keys with
  | nil => rfl
  | cons q keys ih =>
      rw [List.nodup_cons] at hnodup
      rw [List.flatMap_cons, ih hnodup.2]
      by_cases hq : q = p
      · subst hq
        simp [hnodup.1]
      · have hne : p ≠ q := fun heq => hq heq.symm
        simp [hq, hne]

section Contacts

/-- An entry of the arrays of details of a contact, and what the bridge makes of it. -/
structure BridgedDetail (source : Gz.Vector3d F64 × F64 × Gz.JointWrench F64)
    (target : Ros.Vector3 F64 × F64 × Ros.JointWrench F64) : Prop where
  normal : BridgedVector (Gz.copyVectorProjection source.1) target.1
  depth : target.2.1 = source.2.1
  wrench : BridgedJointWrench (Gz.copyJointWrenchProjection source.2.2) target.2.2

/-- A contact of a physics step, and what the bridge makes of its projection. -/
structure ProjectedContact (source : Gz.Contact F64) (target : Ros.Contact F64) : Prop where
  collision1 : target.collision1.name = source.collision1.name
  collision2 : target.collision2.name = source.collision2.name
  positions : List.Forall₂ (fun v w => BridgedVector (Gz.copyVectorProjection v) w) source.position
    target.positions
  normals : target.normals.length = source.normal.length
  depths : target.depths = source.depth
  wrenches : target.wrenches.length = source.wrench.length
  details : List.Forall₂ BridgedDetail source.details target.details

theorem projectedContact_of_bridged {source : Gz.Contact F64} {target : Ros.Contact F64}
    {header : Gz.Header}
    (h : BridgedContact { Gz.rosProjectedContact source with header } target) :
  ProjectedContact source target
  := by
  have hnormals := List.forall₂_map_left_iff.mp h.normals
  have hwrenches := List.forall₂_map_left_iff.mp h.wrenches
  refine ⟨h.collision1, h.collision2, List.forall₂_map_left_iff.mp h.positions,
    hnormals.length_eq.symm, h.depths, hwrenches.length_eq.symm, ?_⟩
  have hdepths : List.Forall₂ (fun d d' : F64 => d' = d) source.depth target.depths := by
    rw [h.depths]
    exact List.forall₂_same.mpr fun d _ => rfl
  have hzip := List.Forall₂.zip hnormals (List.Forall₂.zip hdepths hwrenches)
  apply hzip.imp
  rintro entry entry' ⟨hnormal, hdepth, hwrench⟩
  exact ⟨hnormal, hdepth, hwrench⟩

variable [Binary64Tests F64]

theorem BridgedVector.finite {source : Gz.Vector3d F64} {target : Ros.Vector3 F64}
    (h : BridgedVector (Gz.copyVectorProjection source) target) :
  Ros.finiteVector target = Gz.finiteVector source
  := by
  unfold Ros.finiteVector Gz.finiteVector
  rw [h.x, h.y, h.z]
  rfl

theorem BridgedWrench.finite {source : Gz.Wrench F64} {target : Ros.Wrench F64}
    (h : BridgedWrench (Gz.copyWrenchProjection source) target) :
  Ros.finiteWrench target = Gz.finiteWrench source
  := by
  unfold Ros.finiteWrench Gz.finiteWrench
  rw [BridgedVector.finite h.force, BridgedVector.finite h.torque]

omit [Binary64Tests F64] in
theorem BridgedHeader.validStamp {source : Gz.Header} {target : Header}
    (h : BridgedHeader source target) (hvalid : Gz.validStamp source.stamp = true) :
  Ros.validStamp target.stamp = true
  := by
  unfold Gz.validStamp at hvalid
  unfold Ros.validStamp
  simp only [Bool.and_eq_true, decide_eq_true_eq] at hvalid ⊢
  constructor
  · rw [Int32.le_iff_toInt_le, h.sec]
    exact hvalid.1.1
  · rw [UInt32.lt_iff_toNat_lt]
    have hnanosec := h.nanosec
    have hlt := hvalid.2
    have hbound : (1000000000 : UInt32).toNat = 1000000000 := rfl
    omega

omit [Binary64Tests F64] in
/-- The frame of a projected header has no more bytes than the aggregator has counted. -/
theorem frameId_le {wrench : Gz.JointWrench F64} {strings : Gz.RetainedWrenchHeaderStrings}
    (h : Gz.retainedWrenchHeaderStrings wrench.header = some strings) :
  (Gz.copyJointWrenchProjection wrench).header.frameId.utf8ByteSize = strings.frameIdBytes ∧
    strings.frameIdBytes ≤ strings.totalBytes
  := by
  unfold Gz.retainedWrenchHeaderStrings at h
  unfold Gz.copyJointWrenchProjection Gz.Header.frameId
  dsimp only
  split at h
  · rename_i hdata
    cases h
    rw [hdata]
    exact ⟨rfl, le_rfl⟩
  · rename_i datum hdata
    split at h
    · rename_i value hvalue
      split at h
      · cases h
      · cases h
        rw [hdata]
        dsimp only
        rw [hvalue]
        exact ⟨rfl, Nat.le_add_left _ _⟩
    · cases h
  · cases h

theorem BridgedDetail.admissible {source : Gz.Vector3d F64 × F64 × Gz.JointWrench F64}
    {target : Ros.Vector3 F64 × F64 × Ros.JointWrench F64} (h : BridgedDetail source target)
    (hsource : Gz.DetailAdmissible source) :
  Ros.DetailAdmissible target ∧ Ros.detailBytes target ≤ Gz.detailBytes source
  := by
  obtain ⟨strings, hstrings, hframe⟩ := hsource.header
  obtain ⟨hbytes, htotal⟩ := frameId_le hstrings
  rw [← h.wrench.header.frameId] at hbytes
  have hbody1 : target.2.2.body1Name = source.2.2.body1Name := h.wrench.body1Name
  have hbody2 : target.2.2.body2Name = source.2.2.body2Name := h.wrench.body2Name
  constructor
  · constructor
    · rw [h.normal.finite]
      exact hsource.normal
    · rw [h.depth]
      exact hsource.depth
    · rw [h.depth]
      exact hsource.nonnegative
    · exact h.wrench.header.validStamp hsource.stamp
    · rw [hbytes]
      exact hframe
    · rw [hbody1]
      exact hsource.body1Name
    · rw [hbody2]
      exact hsource.body2Name
    · rw [h.wrench.body1Wrench.finite]
      exact hsource.body1Wrench
    · rw [h.wrench.body2Wrench.finite]
      exact hsource.body2Wrench
  · unfold Ros.detailBytes Gz.detailBytes
    rw [hbytes, hbody1, hbody2, hstrings]
    exact Nat.add_le_add_right htotal _

/-- A contact that the aggregator admits is admitted by the gate, with no more bytes. -/
theorem ProjectedContact.admissible {source : Gz.Contact F64} {target : Ros.Contact F64}
    (h : ProjectedContact source target) (hsource : source.Admissible) :
  target.Admissible ∧ target.stringBytes ≤ source.stringBytes
  := by
  have hdetails : ∀ entry' ∈ target.details, Ros.DetailAdmissible entry' := by
    intro entry' hentry'
    obtain ⟨entry, hentry, hbridged⟩ := List.Forall₂.exists_mem h.details hentry'
    exact (hbridged.admissible (hsource.details entry hentry)).1
  have hbytes : target.stringBytes ≤ source.stringBytes := by
    unfold Ros.Contact.stringBytes Gz.Contact.stringBytes
    rw [h.collision1, h.collision2]
    apply Nat.add_le_add_left
    apply List.Forall₂.sum_map_le h.details
    intro entry hentry entry' hbridged
    exact (hbridged.admissible (hsource.details entry hentry)).2
  refine ⟨?_, hbytes⟩
  constructor
  · rw [h.collision1, h.collision2]
    exact hsource.names
  · rw [← h.positions.length_eq]
    exact hsource.positions
  · rw [h.normals, h.depths, h.wrenches, ← h.positions.length_eq]
    exact hsource.aligned
  · intro w hw
    obtain ⟨v, hv, hbridged⟩ := List.Forall₂.exists_mem h.positions hw
    rw [hbridged.finite]
    exact hsource.finite v hv
  · exact hdetails
  · exact hbytes.trans hsource.strings

end Contacts

/-! ### Outputs -/

section Outputs

variable {seen : List (Observation F64)} {boundary : Int} {target : Ros.Contacts F64}

theorem mem_latestRecords {steps : List (List (Gz.Contact F64))} {p : ContactPair}
    {contact : Gz.Contact F64} (h : contact ∈ latestRecords steps p) :
  contact.pair = p ∧ ∃ step ∈ steps, contact ∈ step
  := by
  rcases @latestRecords_of_step F64 steps p with hnil | ⟨step, hstep, heq⟩
  · rw [hnil] at h
    cases h
  · rw [heq] at h
    obtain ⟨hmem, hpair⟩ := List.mem_filter.mp h
    exact ⟨of_decide_eq_true hpair, step, hstep, hmem⟩

/-- The contacts of a pair in a bridged output are its latest records. -/
theorem recordsOf_bridged
    (h : Bridged (aggregateAt boundary (unionGroups (intervalSteps seen boundary))) target)
    (p : ContactPair) :
  List.Forall₂ ProjectedContact (latestRecords (intervalSteps seen boundary) p)
    (Ros.messageGrouping.recordsOf p target.contacts)
  := by
  obtain ⟨pairs, hordered, hpairs, houtput⟩ := aggregateAt_unionGroups seen boundary
  have hnodup : pairs.Nodup := by
    apply hordered.imp
    rintro p q (hlt | ⟨-, hlt⟩) rfl
    · exact lt_irrefl _ hlt
    · exact lt_irrefl _ hlt
  have hcontacts := h.contacts
  rw [houtput] at hcontacts
  dsimp only at hcontacts
  -- the bridge keeps the names, so it relates the contacts of each pair
  have hfilter : List.Forall₂ BridgedContact
      ((pairs.flatMap fun q => (latestRecords (intervalSteps seen boundary) q).map
        fun contact => { Gz.rosProjectedContact contact with
          header := Gz.stampHeader boundary }).filter fun contact => contact.pair = p)
      (Ros.messageGrouping.recordsOf p target.contacts) := by
    apply List.rel_filter _ hcontacts
    intro source target' hbridged
    have hpair : target'.pair = source.pair := by
      unfold Ros.Contact.pair Gz.Contact.pair
      rw [hbridged.collision1, hbridged.collision2]
    simp only [decide_eq_true_eq]
    change _ ↔ target'.pair = p
    rw [hpair]
  have hown : ∀ q, (((latestRecords (intervalSteps seen boundary) q).map
      fun contact => { Gz.rosProjectedContact contact with
        header := Gz.stampHeader boundary }).filter fun contact => contact.pair = p) =
      if q = p then (latestRecords (intervalSteps seen boundary) p).map
        fun contact => { Gz.rosProjectedContact contact with
          header := Gz.stampHeader boundary } else [] := by
    intro q
    split
    · rename_i hq
      subst hq
      rw [List.filter_eq_self]
      intro contact hcontact
      obtain ⟨source, hsource, rfl⟩ := List.mem_map.mp hcontact
      exact decide_eq_true (mem_latestRecords hsource).1
    · rename_i hq
      rw [List.filter_eq_nil_iff]
      intro contact hcontact hpair
      obtain ⟨source, hsource, rfl⟩ := List.mem_map.mp hcontact
      exact hq ((mem_latestRecords hsource).1.symm.trans (of_decide_eq_true hpair))
  rw [List.filter_flatMap] at hfilter
  simp only [hown] at hfilter
  rw [flatMap_ite_eq hnodup] at hfilter
  split at hfilter
  · rw [List.forall₂_map_left_iff] at hfilter
    exact hfilter.imp fun source target' hbridged => projectedContact_of_bridged hbridged
  · rename_i habsent
    have hnil : latestRecords (intervalSteps seen boundary) p = [] := by
      by_contra hne
      apply habsent
      rw [hpairs]
      obtain ⟨step, hstep, hcontact⟩ := latestRecords_ne_nil_iff.mp hne
      obtain ⟨o, ho, hinterval, rfl⟩ := mem_intervalSteps.mp hstep
      exact ⟨o, ho, hinterval, hcontact⟩
    rw [hnil]
    rw [List.forall₂_nil_left_iff] at hfilter
    rw [hfilter]
    exact .nil

theorem mem_pairsSeen_iff_bridged
    (h : Bridged (aggregateAt boundary (unionGroups (intervalSteps seen boundary))) target)
    (p : ContactPair) :
  p ∈ pairsSeen (intervalSteps seen boundary) ↔
    (Ros.messageGrouping.groups target.contacts)[p]?.isSome = true
  := by
  have hrecords := recordsOf_bridged h p
  rw [mem_pairsSeen, Grouping.getElem?_groups]
  split
  · rename_i hnil
    rw [hnil, List.forall₂_nil_right_iff] at hrecords
    simp [hrecords]
  · rename_i hne
    simp only [Option.isSome_some, iff_true]
    intro hnil
    rw [hnil, List.forall₂_nil_left_iff] at hrecords
    exact hne hrecords

/-- A total over the pairs of a bridged output. -/
theorem total_bridged
    (h : Bridged (aggregateAt boundary (unionGroups (intervalSteps seen boundary))) target)
    (f : ContactPair → List (Ros.Contact F64) → Nat) :
  SortedMap.total (fun e => f e.1 e.2.records) (Ros.messageGrouping.groups target.contacts) =
    ((pairsSeen (intervalSteps seen boundary)).map fun p =>
      f p (Ros.messageGrouping.recordsOf p target.contacts)).sum
  := by
  apply SortedMap.total_eq_sum (List.nodup_dedup _) (mem_pairsSeen_iff_bridged h)
  intro p group hgroup
  rw [Grouping.getElem?_groups] at hgroup
  split at hgroup
  · cases hgroup
  · rw [← Option.some.inj hgroup]
    change f p (List.map id _) = _
    rw [List.map_id]

variable [Binary64Tests F64]

/-- What the aggregator has checked of the steps of an interval. -/
structure IntervalAdmissible (steps : List (List (Gz.Contact F64))) : Prop where
  contacts : ∀ step ∈ steps, ∀ contact ∈ step, contact.Admissible
  pairs : ∀ step ∈ steps, stepGrouping.Within kMaxRecordsPerPair kMaxPairStringBytes step
  union : UnionWithin steps

/-- The contacts of a pair have no more bytes than its latest records. -/
theorem stringBytes_bridged
    (h : Bridged (aggregateAt boundary (unionGroups (intervalSteps seen boundary))) target)
    (hsteps : IntervalAdmissible (intervalSteps seen boundary)) (p : ContactPair) :
  ((Ros.messageGrouping.recordsOf p target.contacts).map Ros.Contact.stringBytes).sum ≤
    ((latestRecords (intervalSteps seen boundary) p).map Gz.Contact.stringBytes).sum
  := by
  apply List.Forall₂.sum_map_le (recordsOf_bridged h p)
  intro source hsource target' hprojected
  obtain ⟨-, step, hstep, hmem⟩ := mem_latestRecords hsource
  exact (hprojected.admissible (hsteps.contacts step hstep source hmem)).2

/-- An output of the aggregator is admissible to the gate. -/
theorem admissible_of_bridged
    (h : Bridged (aggregateAt boundary (unionGroups (intervalSteps seen boundary))) target)
    (hsteps : IntervalAdmissible (intervalSteps seen boundary))
    (hcontact : HasContact seen boundary) :
  target.Admissible
  := by
  have hrecords := recordsOf_bridged h
  have hbytes := stringBytes_bridged h hsteps
  constructor
  · obtain ⟨o, ho, hlt, hle, hne⟩ := hcontact
    obtain ⟨contact, hmem⟩ := List.exists_mem_of_ne_nil _ hne
    have hseen : latestRecords (intervalSteps seen boundary) contact.pair ≠ [] := by
      rw [latestRecords_ne_nil_iff]
      exact ⟨o.contacts, mem_intervalSteps.mpr ⟨o, ho, ⟨hlt, hle⟩, rfl⟩, contact, hmem, rfl⟩
    intro hnil
    have hown := hrecords contact.pair
    rw [hnil] at hown
    exact hseen (List.forall₂_nil_right_iff.mp hown)
  · have htotal := total_bridged h fun _ records => records.length
    rw [Grouping.total_records] at htotal
    rw [htotal]
    refine le_trans (le_of_eq ?_) hsteps.union.records
    congr 1
    apply List.map_congr_left
    intro p _
    exact (hrecords p).length_eq.symm
  · intro contact hmem
    have hown : contact ∈ Ros.messageGrouping.recordsOf contact.pair target.contacts :=
      List.mem_filter.mpr ⟨hmem, decide_eq_true rfl⟩
    obtain ⟨source, hsource, hprojected⟩ := List.Forall₂.exists_mem (hrecords contact.pair) hown
    obtain ⟨-, step, hstep, hmem⟩ := mem_latestRecords hsource
    exact (hprojected.admissible (hsteps.contacts step hstep source hmem)).1
  · intro p
    have hlatest : (latestRecords (intervalSteps seen boundary) p).length ≤ kMaxRecordsPerPair ∧
        ((latestRecords (intervalSteps seen boundary) p).map Gz.Contact.stringBytes).sum ≤
          kMaxPairStringBytes := by
      rcases @latestRecords_of_step F64 (intervalSteps seen boundary) p with hnil |
        ⟨step, hstep, heq⟩
      · rw [hnil]
        exact ⟨Nat.zero_le _, Nat.zero_le _⟩
      · rw [heq]
        exact hsteps.pairs step hstep p
    constructor
    · rw [← (hrecords p).length_eq]
      exact hlatest.1
    · exact (hbytes p).trans hlatest.2
  · have hframe : target.header.frameId = "" := h.header.frameId
    have hkeys := total_bridged h fun p _ => Ros.pairKeyStringBytes p
    have hstrings := total_bridged h fun _ records => (records.map Ros.Contact.stringBytes).sum
    have hcontacts : SortedMap.total (fun e => (e.2.records.map Ros.Contact.stringBytes).sum)
        (Ros.messageGrouping.groups target.contacts) =
        (target.contacts.map Ros.Contact.stringBytes).sum := by
      apply Grouping.total_groups
      intro p own
      change ((own.map id).map _).sum = _
      rw [List.map_id]
    rw [hframe]
    change "".utf8ByteSize + (_ + SortedMap.total (fun e => Ros.pairKeyStringBytes e.1) _) ≤ _
    rw [hkeys, ← hcontacts, hstrings, ← List.sum_map_add]
    refine le_trans ?_ hsteps.union.strings
    change 0 + _ ≤ _
    rw [Nat.zero_add]
    apply List.sum_le_sum
    intro p _
    rw [Nat.add_comm]
    exact Nat.add_le_add_left (hbytes p) _

omit [Binary64Tests F64] in
/-- The stamp of a bridged output is the boundary. -/
theorem stamp_of_bridged {source : Gz.Contacts F64} (h : Bridged source target)
    (hheader : source.header = Gz.stampHeader boundary) (hboundary : 0 ≤ boundary) :
  Ros.stampNs target.header = some boundary ∧ target.stamp = boundary ∧ target.header.frameId = ""
  := by
  have hbridged := h.header
  rw [hheader] at hbridged
  have hvalid : Gz.validStamp (Gz.stampHeader boundary).stamp = true := by
    unfold Gz.validStamp Gz.stampHeader
    simp only [Bool.and_eq_true, decide_eq_true_eq]
    omega
  have hstamp : Ros.stampNs target.header = some boundary := by
    unfold Ros.stampNs
    rw [if_pos (hbridged.validStamp hvalid), hbridged.sec, hbridged.nanosec]
    unfold Gz.stampHeader
    dsimp only
    rw [Int.ediv_mul_add_emod]
  refine ⟨hstamp, ?_, hbridged.frameId⟩
  unfold Ros.Contacts.stamp
  rw [hstamp]
  rfl

end Outputs

/-! ### What the aggregator emits -/

/-- The outputs of a trace of the aggregator. -/
def emitted (trace : AggregatorTrace F64) : List (Gz.Contacts F64) :=
  trace.filterMap fun e => e.2.output

section Emitted

variable [Binary64Tests F64]

/-- An output is the union of an interval that was checked, and its stamp is positive. -/
structure Emits (output : Gz.Contacts F64) (stamp : Int) : Prop where
  positive : 0 < stamp
  union : ∃ seen, output = aggregateAt stamp (unionGroups (intervalSteps seen stamp)) ∧
    IntervalAdmissible (intervalSteps seen stamp) ∧ HasContact seen stamp

variable {policy : ContactAggregatorPolicy F64}

theorem Run.nonnegative {trace : AggregatorTrace F64}
    (h : Run ContactAggregatorPolicy.step {} trace policy) {e : Observation F64 ×
      ContactAggregateDecision F64} (he : e ∈ trace) (hquiet : e.2.fatal = false) :
  0 ≤ e.1.stamp
  := by
  obtain ⟨o, d⟩ := e
  obtain ⟨before, after, rfl⟩ := List.append_of_mem he
  rcases Run.answers h with ⟨-, error, rfl, -⟩ | ⟨-, hcause, -⟩
  · cases hquiet
  · by_contra hlt
    exact hcause (.negative (not_le.mp hlt))

theorem Run.emits {before after : AggregatorTrace F64}
    {o : Observation F64} {d : ContactAggregateDecision F64}
    (h : Run ContactAggregatorPolicy.step {} (before ++ (o, d) :: after) policy)
    {output : Gz.Contacts F64} (hout : d.output = some output) :
  Emits output o.stamp
  := by
  rcases Run.answers h with ⟨-, error, rfl, -⟩ | ⟨⟨policy₀, htracks⟩, hcause, hquiet, houtput⟩
  · cases hout
  · rw [hout] at houtput
    obtain ⟨⟨hboundary, hcontact⟩, rfl⟩ := houtput
    have hbefore := isBoundary_concat_iff.mp hboundary
    have hadmissible : ∀ s ∈ observations before ++ [o], StepAdmissible s.messages := by
      intro s hs
      rcases List.mem_append.mp hs with hs | hs
      · obtain ⟨e, he, rfl⟩ := mem_observations hs
        exact htracks.admissible e he
      · rw [List.mem_singleton.mp hs]
        by_contra hinadmissible
        exact hcause (.inadmissible hinadmissible)
    constructor
    · obtain ⟨first, hfirst, k, hk, hstamp⟩ := hbefore
      obtain ⟨-, s, hs, rfl⟩ := firstBoundary_mem hfirst
      obtain ⟨e, he, rfl⟩ := mem_observations hs
      have hnonnegative := Run.nonnegative h (List.mem_append_left _ he) (htracks.quiet e he)
      rw [hstamp]
      unfold kContactAggregatePeriodNs
      omega
    · refine ⟨_, rfl, ⟨?_, ?_, ?_⟩, hcontact⟩
      · intro step hstep
        obtain ⟨s, hs, -, rfl⟩ := mem_intervalSteps.mp hstep
        exact (hadmissible s hs).contacts
      · intro step hstep
        obtain ⟨s, hs, -, rfl⟩ := mem_intervalSteps.mp hstep
        exact (hadmissible s hs).pairs
      · by_contra hover
        refine hcause (.overLimit o.stamp hbefore ?_ le_rfl hover)
        unfold kContactAggregatePeriodNs
        omega

/-- The outputs of a run, with their stamps, which are 20 ms apart. -/
theorem Run.emitted {trace : AggregatorTrace F64}
    (h : Run ContactAggregatorPolicy.step {} trace policy) :
  ∃ stamps : List Int, List.Forall₂ Emits (emitted trace) stamps ∧
    stamps.IsChain (fun stamp stamp' => stamp' = stamp + kContactAggregatePeriodNs) ∧
    ∀ last, stamps.getLast? = some last → ∃ before e after, trace = before ++ e :: after ∧
      e.2.output.isSome = true ∧ (∀ x ∈ after, x.2.output = none) ∧ e.1.stamp = last
  := by
  induction trace using List.reverseRecOn generalizing policy with
  | nil => exact ⟨[], .nil, .nil, fun last hlast => by cases hlast⟩
  | append_singleton trace e ih =>
      obtain ⟨policy₀, hbefore, -⟩ := Run.append_iff.mp h
      obtain ⟨stamps, hemits, hspaced, hlast⟩ := ih hbefore
      obtain ⟨o, d⟩ := e
      unfold Collisions.emitted at hemits ⊢
      rw [List.filterMap_append]
      cases hout : d.output with
      | none =>
          have hnil : List.filterMap (fun e => e.2.output) [(o, d)] = [] := by
            simp [hout]
          rw [hnil, List.append_nil]
          refine ⟨stamps, hemits, hspaced, ?_⟩
          intro last hgetLast
          obtain ⟨before, e, after, rfl, hsome, hafter, hstamp⟩ := hlast last hgetLast
          refine ⟨before, e, after ++ [(o, d)], by simp, hsome, ?_, hstamp⟩
          intro x hx
          rcases List.mem_append.mp hx with hx | hx
          · exact hafter x hx
          · rw [List.mem_singleton.mp hx]
            exact hout
      | some output =>
          have hsingleton : List.filterMap (fun e => e.2.output) [(o, d)] = [output] := by
            simp [hout]
          rw [hsingleton]
          refine ⟨stamps ++ [o.stamp], ?_, ?_, ?_⟩
          · apply List.rel_append hemits
            exact .cons (Run.emits h hout) .nil
          · apply hspaced.append (List.isChain_singleton _)
            intro last hgetLast stamp hhead
            rw [List.head?_cons, Option.mem_some_iff] at hhead
            obtain ⟨before, e, after, rfl, hsome, hafter, rfl⟩ := hlast last hgetLast
            rw [← hhead]
            exact Run.output_spaced h hsome (by rw [hout]; rfl) hafter
          · intro last hgetLast
            rw [List.getLast?_concat, Option.some.injEq] at hgetLast
            refine ⟨trace, (o, d), [], rfl, by rw [hout]; rfl, ?_, hgetLast⟩
            exact fun x hx => absurd hx List.not_mem_nil

end Emitted

/-! ### What the gate is fed -/

namespace Ros

open ContactStreamPolicy

/-- The reasons that the outputs of the aggregator can stop the gate for. -/
def GateDetail.stopping : List GateDetail :=
  [.activePairs, .activeRecords, .activeStrings, .nonRobotPair, .unknownRobot, .malformedName]

theorem lastRawStampNs_finalizePending {policy : ContactStreamPolicy F64} :
  policy.finalizePending.2.lastRawStampNs = policy.lastRawStampNs
  := by
  have hpublish : ∀ (policy : ContactStreamPolicy F64) completed decision,
      (policy.publish completed decision).2.lastRawStampNs = policy.lastRawStampNs := by
    intro policy completed decision
    unfold publish
    split
    · rfl
    · split
      · rfl
      · rfl
  have hcomplete : ∀ (policy : ContactStreamPolicy F64) batch completed,
      (policy.complete batch completed).2.lastRawStampNs = policy.lastRawStampNs := by
    intro policy batch completed
    unfold complete
    split
    · rfl
    · dsimp only
      split
      · rfl
      · split
        · rfl
        · split
          · rfl
          · rw [hpublish]
  unfold finalizePending
  split
  · rfl
  · dsimp only
    split
    · rfl
    · split
      · rw [hcomplete]
      · split
        · rfl
        · rfl

theorem exists_fatalDetail {message : Contacts F64} (h : (batchOf message).semanticFatal = true) :
  ∃ detail, (batchOf message).fatalDetail = some detail
  := by
  obtain ⟨contact, hcontact, hsome⟩ := List.any_eq_true.mp h
  rw [← Option.isSome_iff_exists]
  exact List.findSome?_isSome_iff.mpr ⟨contact, hcontact, hsome⟩

variable [Binary64Tests F64] {trace : GateTrace F64} {policy : ContactStreamPolicy F64}

/-- A failure to finalize has one of the reasons. -/
theorem Gated.finalize_fatal
    (h : Gated trace policy) (hfatal : policy.finalizePending.1.fatal = true) :
  messages trace ≠ [] ∧ ∃ detail ∈ GateDetail.stopping,
    policy.finalizePending.1.detail = some detail
  := by
  have hdetail : ∀ detail, policy.finalizePending.1.detail = some detail →
      ∃ detail ∈ GateDetail.stopping, policy.finalizePending.1.detail = some detail := by
    intro detail hdetail
    exact ⟨detail, h.finalize_detail hdetail, hdetail⟩
  rcases h.finalize_cases with ⟨-, heq⟩ | ⟨first, hfirst, heq⟩ |
    ⟨init, last, -, hmessages, hlast, heq⟩
  · rw [heq] at hfatal
    cases hfatal
  · refine ⟨by rw [hfirst]; exact List.cons_ne_nil _ _, ?_⟩
    rw [heq] at hfatal
    split at hfatal
    · rename_i hsemantic
      obtain ⟨detail, hfatalDetail⟩ := exists_fatalDetail hsemantic
      apply hdetail detail
      rw [heq, if_pos hsemantic]
      exact hfatalDetail
    · cases hfatal
  · refine ⟨by rw [hmessages]; simp, ?_⟩
    rcases @complete_cases F64 _ { policy with pendingBatch := none } last hlast
      (h.near hmessages) with ⟨detail, -, hcomplete⟩ | ⟨hsemantic, -, hsame⟩ | ⟨-, hquiet, -⟩
    · apply hdetail detail
      rw [heq, hcomplete]
      rfl
    · obtain ⟨detail, hfatalDetail⟩ := exists_fatalDetail hsemantic
      apply hdetail detail
      rw [heq, hsame]
      exact hfatalDetail
    · rw [heq, hquiet] at hfatal
      cases hfatal

/-- A message that passes all checks except those against the message before it. -/
structure Contacts.Ready (message : Contacts F64) : Prop where
  received : message.Received
  positive : 0 < message.stamp
  frameId : message.header.frameId = ""

/-- The state of a gate that is fed: every message was accepted, or its last stamp is that of a
message before the one that it stopped at. -/
def Fed (trace : GateTrace F64) (policy : ContactStreamPolicy F64) : Prop :=
  Accepted trace ∧ Gated trace policy ∨
  (∃ e ∈ trace, e.2.fatal = true) ∧ ∃ raw last, policy.lastRawStampNs = some raw ∧
    (messages trace).getLast? = some last ∧ raw < last.stamp

/-- The answer to a message that the gate is fed. -/
def FedAnswer (trace : GateTrace F64) (d : ContactGateDecision F64) : Prop :=
  Accepted trace ∧ (d.fatal = true → ∃ detail ∈ GateDetail.stopping, d.detail = some detail) ∨
  (∃ e ∈ trace, e.2.fatal = true) ∧ d.fatal = true ∧
    ∃ previous incoming, d.detail = some (.sequenceGap previous incoming)

theorem Fed.observe {policy policy' : ContactStreamPolicy F64}
    {message : Contacts F64} {d : ContactGateDecision F64} (h : Fed trace policy)
    (hready : message.Ready) (hspaced : ∀ last, (messages trace).getLast? = some last →
      message.stamp = last.stamp + kPrivateContactAggregatePeriodNs)
    (hcall : policy.observe message = (d, policy')) :
  FedAnswer trace d ∧ Fed (trace ++ [(.observe message, d)]) policy'
  := by
  have hperiod : 0 < kPrivateContactAggregatePeriodNs := by decide
  have hstamp := hready.received.stamp
  rcases h with ⟨haccepted, hgated⟩ | ⟨⟨e, he, hfatal⟩, raw, last, hraw, hlast, hlt⟩
  · have hheader : policy.checkHeader message = .ok message.stamp := by
      rw [checkHeader_eq_ok_iff]
      refine ⟨hstamp, hready.positive, ?_, hready.frameId⟩
      intro raw hraw
      rw [hgated.raw] at hraw
      obtain ⟨last, hlast, rfl⟩ := Option.map_eq_some_iff.mp hraw
      have := hspaced last hlast
      omega
    have hvalidate : validateMessage message = .ok (validatedOf message message.contacts) := by
      rw [validateMessage_eq_ok_iff]
      · exact ⟨hready.received.admissible, rfl⟩
      · rw [hready.frameId]
        exact Nat.zero_le _
    have hcall' := hcall
    unfold ContactStreamPolicy.observe at hcall'
    rw [hheader, hvalidate] at hcall'
    dsimp only at hcall'
    cases hd : d.fatal with
    | false =>
        refine ⟨.inl ⟨haccepted, fun hfatal => ?_⟩, .inl ⟨?_, hgated.observe hcall hd⟩⟩
        · rw [hd] at hfatal
          cases hfatal
        · rw [accepted_append]
          refine ⟨haccepted, ?_⟩
          intro e he message' _
          rw [List.mem_singleton.mp he]
          exact hd
    | true =>
        have hfinalize : policy.finalizePending = (d, policy') := by
          split at hcall'
          · exact hcall'
          · rename_i hquiet
            rw [(Prod.mk.inj hcall').1] at hquiet
            exact absurd hd hquiet
        have hfatal : policy.finalizePending.1.fatal = true := by
          rw [hfinalize]
          exact hd
        obtain ⟨hne, hdetail⟩ := hgated.finalize_fatal hfatal
        rw [hfinalize] at hdetail
        refine ⟨.inl ⟨haccepted, fun _ => hdetail⟩,
          .inr ⟨⟨_, List.mem_append_right _ List.mem_cons_self, hd⟩, ?_⟩⟩
        have hlast := List.getLast?_eq_some_getLast hne
        generalize (messages trace).getLast hne = last at hlast
        refine ⟨last.stamp, message, ?_, ?_, ?_⟩
        · have hkeep := @lastRawStampNs_finalizePending F64 policy
          rw [hfinalize, hgated.raw, hlast] at hkeep
          exact hkeep
        · rw [messages_observe, List.getLast?_concat]
        · rw [hspaced last hlast]
          omega
  · have hgap := hspaced last hlast
    have hcheck : policy.checkHeader message = .error (.sequenceGap raw message.stamp) := by
      unfold checkHeader
      rw [hstamp]
      dsimp only
      rw [if_neg (not_le.mpr hready.positive), hraw]
      dsimp only
      rw [if_neg (by omega), if_pos (by omega)]
      rfl
    unfold ContactStreamPolicy.observe at hcall
    rw [hcheck] at hcall
    obtain ⟨rfl, rfl⟩ := Prod.mk.inj hcall
    refine ⟨.inr ⟨⟨e, he, hfatal⟩, rfl, _, _, rfl⟩,
      .inr ⟨⟨e, List.mem_append_left _ he, hfatal⟩, raw, message, hraw, ?_, ?_⟩⟩
    · rw [messages_observe, List.getLast?_concat]
    · omega

/-- The messages of a trace can be fed to the gate. -/
structure Feeds (trace : GateTrace F64) : Prop where
  observe : ∀ e ∈ trace, ∃ message, e.1 = .observe message
  ready : ∀ message ∈ messages trace, message.Ready
  spaced : (messages trace).IsChain fun message message' =>
    message'.stamp = message.stamp + kPrivateContactAggregatePeriodNs

theorem Feeds.concat {e : GateCall F64 × ContactGateDecision F64} (h : Feeds (trace ++ [e])) :
  Feeds trace ∧ ∃ message, e.1 = .observe message ∧ message.Ready ∧
    ∀ last, (messages trace).getLast? = some last →
      message.stamp = last.stamp + kPrivateContactAggregatePeriodNs
  := by
  obtain ⟨call, d⟩ := e
  obtain ⟨message, hmessage⟩ := h.observe (call, d) (List.mem_append_right _ List.mem_cons_self)
  change call = _ at hmessage
  subst hmessage
  have hready := h.ready
  have hspaced := h.spaced
  rw [messages_observe] at hready hspaced
  rw [List.isChain_append] at hspaced
  refine ⟨⟨?_, ?_, hspaced.1⟩, message, rfl, hready message (by simp), ?_⟩
  · exact fun e he => h.observe e (List.mem_append_left _ he)
  · exact fun message hmem => hready message (List.mem_append_left _ hmem)
  · intro last hlast
    exact hspaced.2.2 last hlast message rfl

theorem Feeds.of_append {trace trace' : GateTrace F64} (h : Feeds (trace ++ trace')) :
  Feeds trace
  := by
  induction trace' using List.reverseRecOn with
  | nil =>
      rw [List.append_nil] at h
      exact h
  | append_singleton trace' e ih =>
      rw [← List.append_assoc] at h
      exact ih h.concat.1

/-- The state of a gate after a run on messages that can be fed. -/
theorem fed_of_run (h : Run ContactStreamPolicy.step {} trace policy) (hfeeds : Feeds trace) :
  Fed trace policy
  := by
  induction trace using List.reverseRecOn generalizing policy with
  | nil =>
      rw [Run.nil_iff] at h
      subst h
      exact .inl ⟨fun e he => absurd he List.not_mem_nil, Gated.initial⟩
  | append_singleton trace e ih =>
      obtain ⟨policy₀, hbefore, hlast⟩ := Run.append_iff.mp h
      obtain ⟨hfeeds₀, message, hmessage, hready, hspaced⟩ := hfeeds.concat
      obtain ⟨call, d⟩ := e
      change call = _ at hmessage
      subst hmessage
      obtain ⟨policy₁, hstep, hnil⟩ := Run.cons_iff.mp hlast
      rw [Run.nil_iff] at hnil
      subst hnil
      exact ((ih hbefore hfeeds₀).observe hready hspaced (Except.ok.inj hstep)).2

/-- The answers of a gate in a run on messages that can be fed. -/
theorem fedAnswer_of_run {before after : GateTrace F64}
    {call : GateCall F64} {d : ContactGateDecision F64}
    (h : Run ContactStreamPolicy.step {} (before ++ (call, d) :: after) policy)
    (hfeeds : Feeds (before ++ (call, d) :: after)) :
  FedAnswer before d
  := by
  obtain ⟨policy₀, hbefore, hrest⟩ := Run.append_iff.mp h
  obtain ⟨policy₁, hstep, -⟩ := Run.cons_iff.mp hrest
  rw [← List.singleton_append, ← List.append_assoc] at hfeeds
  obtain ⟨hfeeds₀, message, hmessage, hready, hspaced⟩ := hfeeds.of_append.concat
  change call = _ at hmessage
  subst hmessage
  exact ((fed_of_run hbefore hfeeds₀).observe hready hspaced (Except.ok.inj hstep)).1

end Ros

section Feeding

open Ros

variable [Binary64Tests F64]

omit [Binary64Tests F64] in
theorem messages_eq_of_calls {trace : GateTrace F64} {targets : List (Ros.Contacts F64)}
    (h : trace.map Prod.fst = targets.map GateCall.observe) :
  messages trace = targets
  := by
  induction trace generalizing targets with
  | nil =>
      cases targets with
      | nil => rfl
      | cons target targets => cases h
  | cons entry trace ih =>
      cases targets with
      | nil => cases h
      | cons target targets =>
          rw [List.map_cons, List.map_cons, List.cons.injEq] at h
          rw [messages, List.filterMap_cons, h.1]
          exact congrArg (target :: ·) (ih h.2)

/-- The messages that the bridge makes of the outputs of a run can be fed to the gate. -/
theorem feeds_of_bridged {policy : ContactAggregatorPolicy F64} {trace : AggregatorTrace F64}
    (h : Run ContactAggregatorPolicy.step {} trace policy) {targets : List (Ros.Contacts F64)}
    (hbridged : List.Forall₂ Bridged (emitted trace) targets) {gateTrace : GateTrace F64}
    (hcalls : gateTrace.map Prod.fst = targets.map GateCall.observe) :
  Feeds gateTrace
  := by
  obtain ⟨stamps, hemits, hspaced, -⟩ := Run.emitted h
  have hready : ∀ (source : Gz.Contacts F64) target stamp, Bridged source target →
      Emits source stamp →
      target.Ready ∧ target.stamp = stamp := by
    rintro source target stamp hbridge ⟨hpositive, seen, rfl, hadmissible, hcontact⟩
    obtain ⟨hstamp, htarget, hframe⟩ := stamp_of_bridged hbridge rfl hpositive.le
    refine ⟨⟨⟨?_, admissible_of_bridged hbridge hadmissible hcontact⟩, ?_, hframe⟩, htarget⟩
    · rw [hstamp, htarget]
    · rw [htarget]
      exact hpositive
  have htargets : targets.map Ros.Contacts.stamp = stamps ∧ ∀ target ∈ targets, target.Ready := by
    clear hspaced hcalls
    generalize emitted trace = outputs at hemits hbridged
    induction hbridged generalizing stamps with
    | nil =>
        rw [List.forall₂_nil_left_iff] at hemits
        subst hemits
        exact ⟨rfl, fun target htarget => absurd htarget List.not_mem_nil⟩
    | cons hhead _ ih =>
        cases hemits with
        | cons hemit hemits =>
            obtain ⟨hmap, hall⟩ := ih _ hemits
            obtain ⟨hfirst, hstamp⟩ := hready _ _ _ hhead hemit
            refine ⟨by rw [List.map_cons, hmap, hstamp], ?_⟩
            intro target htarget
            rcases List.mem_cons.mp htarget with rfl | htarget
            · exact hfirst
            · exact hall target htarget
  have hmessages := messages_eq_of_calls hcalls
  constructor
  · intro e he
    have hmem : e.1 ∈ targets.map GateCall.observe := by
      rw [← hcalls]
      exact List.mem_map_of_mem he
    obtain ⟨message, -, hmessage⟩ := List.mem_map.mp hmem
    exact ⟨message, hmessage.symm⟩
  · rw [hmessages]
    exact htargets.2
  · rw [hmessages]
    rw [← htargets.1, List.isChain_map] at hspaced
    exact hspaced

/-- Whatever the aggregator observes, when the bridge keeps the seconds of stamps: the gate is never
fatal for the shape of an output, so its first fatal answer is about a bound of the active set or
the names of a pair. All answers after it report the gap to the last stamp before it. -/
theorem aggregator_outputs_admitted (policy : ContactAggregatorPolicy F64)
    {policy' : ContactAggregatorPolicy F64} {trace : AggregatorTrace F64}
    (h : Run ContactAggregatorPolicy.step policy.reset trace policy')
    {targets : List (Ros.Contacts F64)}
    (hbridged : List.Forall₂ Bridged (emitted trace) targets)
    {gate : ContactStreamPolicy F64} {gateTrace : GateTrace F64}
    (hgate : Run ContactStreamPolicy.step {} gateTrace gate)
    (hcalls : gateTrace.map Prod.fst = targets.map GateCall.observe) :
  ∀ before call d after, gateTrace = before ++ (call, d) :: after → d.fatal = true →
    ((∀ e ∈ before, e.2.fatal = false) →
      ∃ detail ∈ [GateDetail.activePairs, .activeRecords, .activeStrings, .nonRobotPair,
        .unknownRobot, .malformedName], d.detail = some detail) ∧
    ((∃ e ∈ before, e.2.fatal = true) →
      ∃ previous incoming, d.detail = some (.sequenceGap previous incoming))
  := by
  rintro before call d after rfl hfatal
  rcases fedAnswer_of_run hgate (feeds_of_bridged h hbridged hcalls) with
    ⟨haccepted, hdetail⟩ | ⟨⟨e, he, hstopped⟩, -, hgap⟩
  · refine ⟨fun _ => hdetail hfatal, ?_⟩
    rintro ⟨e, he, hstopped⟩
    have hmem : e.1 ∈ targets.map GateCall.observe := by
      rw [← hcalls]
      exact List.mem_map_of_mem (List.mem_append_left _ he)
    obtain ⟨message, -, hmessage⟩ := List.mem_map.mp hmem
    rw [haccepted e he message hmessage.symm] at hstopped
    cases hstopped
  · refine ⟨?_, fun _ => hgap⟩
    intro hquiet
    rw [hquiet e he] at hstopped
    cases hstopped

end Feeding

/-! ### A run -/

/-- Three intervals with a contact each. -/
def sampleFeed : List (Observation ℚ) :=
  [.single 20000000 {}, .single 30000000 { contact := [sampleContact "wall" "base"] },
    .single 40000000 {}, .single 50000000 { contact := [sampleContact "wall" "base"] },
    .single 60000000 {}, .single 70000000 { contact := [sampleContact "wall" "base"] },
    .single 80000000 {}]

/-- What the aggregator emits at a boundary of the three intervals. -/
def sampleOutput (stamp : Int) : Gz.Contacts ℚ where
  header := Gz.stampHeader stamp
  contact := [{ sampleContact "wall" "base" with header := Gz.stampHeader stamp }]

/-- What the bridge makes of it. -/
def sampleTarget (nanosec : UInt32) : Ros.Contacts ℚ where
  header := { stamp := { sec := 0, nanosec } }
  contacts :=
    [{ collision1 := { name := "wall" }
       collision2 := { name := "base" }
       positions := [{ x := 1, y := 0, z := 0 }] }]

def sampleTargets : List (Ros.Contacts ℚ) :=
  [sampleTarget 40000000, sampleTarget 60000000, sampleTarget 80000000]

theorem bridged_sampleTarget {stamp : Int} {nanosec : UInt32}
    (hsec : (Gz.stampHeader stamp).stamp.sec = 0)
    (hnsec : (Gz.stampHeader stamp).stamp.nsec = nanosec.toNat) :
  Bridged (sampleOutput stamp) (sampleTarget nanosec)
  := by
  constructor
  · exact ⟨hsec.symm, hnsec.symm, rfl⟩
  · refine .cons ⟨rfl, rfl, ?_, .nil, rfl, .nil⟩ .nil
    exact .cons ⟨rfl, rfl, rfl⟩ .nil

/-- The gate stops at the second output for the names of its pair, and at the third one for the gap
to the first. -/
theorem sample_fed :
  ∃ (trace : AggregatorTrace ℚ) (policy : ContactAggregatorPolicy ℚ) (gateTrace : Ros.GateTrace ℚ)
    (gate : Ros.ContactStreamPolicy ℚ),
    Run ContactAggregatorPolicy.step (reset {}) trace policy ∧
    List.Forall₂ Bridged (emitted trace) sampleTargets ∧
    Run Ros.ContactStreamPolicy.step {} gateTrace gate ∧
    gateTrace.map Prod.fst = sampleTargets.map Ros.GateCall.observe ∧
    gateTrace.map (fun e => (e.2.fatal, e.2.detail)) =
      [(false, none), (true, some .malformedName),
        (true, some (.sequenceGap 40000000 80000000))]
  := by
  cases hexec : Run.exec ContactAggregatorPolicy.step (reset {}) sampleFeed with
  | error e => cases e
  | ok r =>
      cases hgate : Run.exec Ros.ContactStreamPolicy.step {}
          (sampleTargets.map Ros.GateCall.observe) with
      | error e => cases e
      | ok g =>
          obtain ⟨trace, policy⟩ := r
          obtain ⟨gateTrace, gate⟩ := g
          have houtputs : (Run.exec ContactAggregatorPolicy.step (reset {})
              sampleFeed).toOption.map (fun r => emitted r.1) =
              some [sampleOutput 40000000, sampleOutput 60000000, sampleOutput 80000000] := by
            decide +kernel
          have hanswers : (Run.exec Ros.ContactStreamPolicy.step {}
              (sampleTargets.map Ros.GateCall.observe)).toOption.map
                (fun g => g.1.map fun e => (e.2.fatal, e.2.detail)) =
              some [(false, none), (true, some .malformedName),
                (true, some (.sequenceGap 40000000 80000000))] := by
            decide +kernel
          rw [hexec] at houtputs
          rw [hgate] at hanswers
          obtain ⟨hrun, hcalls⟩ := Run.of_exec hgate
          refine ⟨trace, policy, gateTrace, gate, (Run.of_exec hexec).1, ?_, hrun, hcalls,
            Option.some.inj hanswers⟩
          change some (emitted trace) = _ at houtputs
          rw [Option.some.inj houtputs]
          refine .cons ?_ (.cons ?_ (.cons ?_ .nil))
          · exact bridged_sampleTarget rfl rfl
          · exact bridged_sampleTarget rfl rfl
          · exact bridged_sampleTarget rfl rfl

/-- Outputs of the aggregator that the gate receives after it has stopped are reported as a gap. -/
theorem gap_after_stop :
  ∃ (trace : AggregatorTrace ℚ) (policy : ContactAggregatorPolicy ℚ)
    (targets : List (Ros.Contacts ℚ)) (gateTrace : Ros.GateTrace ℚ)
    (gate : Ros.ContactStreamPolicy ℚ),
    Run ContactAggregatorPolicy.step (reset {}) trace policy ∧
    List.Forall₂ Bridged (emitted trace) targets ∧
    Run Ros.ContactStreamPolicy.step {} gateTrace gate ∧
    gateTrace.map Prod.fst = targets.map Ros.GateCall.observe ∧
    ∃ e ∈ gateTrace, e.2.fatal = true ∧ e.2.detail = some (.sequenceGap 40000000 80000000)
  := by
  obtain ⟨trace, policy, gateTrace, gate, hrun, hbridged, hgate, hcalls, hanswers⟩ := sample_fed
  refine ⟨trace, policy, sampleTargets, gateTrace, gate, hrun, hbridged, hgate, hcalls, ?_⟩
  have hmem : (true, some (Ros.GateDetail.sequenceGap 40000000 80000000)) ∈
      gateTrace.map fun e => (e.2.fatal, e.2.detail) := by
    rw [hanswers]
    decide
  obtain ⟨e, he, heq⟩ := List.mem_map.mp hmem
  obtain ⟨hfatal, hdetail⟩ := Prod.mk.inj heq
  exact ⟨e, he, hfatal, hdetail⟩

/-- The gate stops at the second output, and reports the third one as a gap. -/
theorem aggregator_outputs_admitted_sample :
  ∃ (trace : AggregatorTrace ℚ) (policy : ContactAggregatorPolicy ℚ) (gateTrace : Ros.GateTrace ℚ)
    (gate : Ros.ContactStreamPolicy ℚ),
    Run ContactAggregatorPolicy.step (reset {}) trace policy ∧
    List.Forall₂ Bridged (emitted trace) sampleTargets ∧
    Run Ros.ContactStreamPolicy.step {} gateTrace gate ∧
    gateTrace.map Prod.fst = sampleTargets.map Ros.GateCall.observe ∧
    (∃ e ∈ gateTrace, e.2.fatal = true) ∧
    ∀ before call d after, gateTrace = before ++ (call, d) :: after → d.fatal = true →
      (∃ e ∈ before, e.2.fatal = true) →
      ∃ previous incoming, d.detail = some (.sequenceGap previous incoming)
  := by
  obtain ⟨trace, policy, gateTrace, gate, hrun, hbridged, hgate, hcalls, hanswers⟩ := sample_fed
  refine ⟨trace, policy, gateTrace, gate, hrun, hbridged, hgate, hcalls, ?_, ?_⟩
  · have hmem : (true, some Ros.GateDetail.malformedName) ∈
        gateTrace.map fun e => (e.2.fatal, e.2.detail) := by
      rw [hanswers]
      decide
    obtain ⟨e, he, heq⟩ := List.mem_map.mp hmem
    exact ⟨e, he, (Prod.mk.inj heq).1⟩
  · intro before call d after hsplit hfatal
    exact (aggregator_outputs_admitted {} hrun hbridged hgate hcalls before call d after hsplit
      hfatal).2

end Collisions

end RobotestLab
