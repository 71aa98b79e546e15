import RobotestLab.Collisions.Aggregator

/-!
# Admissible steps

What the aggregator checks of a contact, of a physics step and of the union of the steps of an
interval, as conditions on the data. The checks return exactly when the conditions hold, and what
they return is a function of the data: the bytes of the texts of a contact, and the groups of the
pairs of a step.
-/

namespace RobotestLab

namespace Collisions

open Gz Binary64Tests

variable {F64 : Type}

/-! ### Contacts -/

namespace Gz

/-- The bytes of the texts of an entry of the arrays of details. -/
def detailBytes (entry : Vector3d F64 × F64 × JointWrench F64) : Nat :=
  (retainedWrenchHeaderStrings entry.2.2.header).elim 0 (·.totalBytes) +
    (entry.2.2.body1Name.utf8ByteSize + entry.2.2.body2Name.utf8ByteSize)

/-- The bytes of the texts of a contact. -/
def Contact.stringBytes (contact : Contact F64) : Nat :=
  contact.collision1.name.utf8ByteSize + contact.collision2.name.utf8ByteSize +
    (contact.details.map detailBytes).sum

variable [Binary64Tests F64]

/-- The conditions on an entry of the arrays of details. -/
structure DetailAdmissible (entry : Vector3d F64 × F64 × JointWrench F64) : Prop where
  normal : finiteVector entry.1 = true
  depth : isFinite entry.2.1 = true
  nonnegative : isNegative entry.2.1 = false
  header : ∃ strings, retainedWrenchHeaderStrings entry.2.2.header = some strings ∧
    strings.frameIdBytes ≤ kMaxFrameIdBytes
  stamp : validStamp entry.2.2.header.stamp = true
  body1Name : entry.2.2.body1Name.utf8ByteSize ≤ kMaxBodyNameBytes
  body2Name : entry.2.2.body2Name.utf8ByteSize ≤ kMaxBodyNameBytes
  body1Wrench : finiteWrench entry.2.2.body1Wrench = true
  body2Wrench : finiteWrench entry.2.2.body2Wrench = true

/-- The conditions on a contact. -/
structure Contact.Admissible (contact : Contact F64) : Prop where
  named : contact.collision1.name ≠ "" ∧ contact.collision2.name ≠ ""
  names : contact.collision1.name.utf8ByteSize ≤ kMaxCollisionNameBytes ∧
    contact.collision2.name.utf8ByteSize ≤ kMaxCollisionNameBytes
  positions : 0 < contact.position.length ∧ contact.position.length ≤ kMaxContactPointsPerRecord
  aligned : contact.normal.length ≤ contact.position.length ∧
    contact.depth.length = contact.normal.length ∧ contact.wrench.length = contact.normal.length
  finite : ∀ v ∈ contact.position, finiteVector v = true
  details : ∀ entry ∈ contact.details, DetailAdmissible entry
  strings : contact.stringBytes ≤ kMaxPairStringBytes

theorem validateDetail_eq_ok_iff {bytes bytes' : Nat} {entry : Vector3d F64 × F64 × JointWrench F64}
    (h : bytes ≤ kMaxPairStringBytes) :
  validateDetail bytes entry = .ok bytes' ↔
    DetailAdmissible entry ∧ bytes + detailBytes entry ≤ kMaxPairStringBytes ∧
      bytes' = bytes + detailBytes entry
  := by
  obtain ⟨normal, depth, wrench⟩ := entry
  have hbytes : ∀ strings, retainedWrenchHeaderStrings wrench.header = some strings →
      detailBytes (normal, depth, wrench) = [strings.totalBytes, wrench.body1Name.utf8ByteSize,
        wrench.body2Name.utf8ByteSize].sum := by
    intro strings hstrings
    simp [detailBytes, hstrings]
  unfold validateDetail
  constructor
  · intro hok
    dsimp only at hok
    split at hok
    · cases hok
    · rename_i hdetail
      split at hok
      · cases hok
      · rename_i strings hstrings
        split at hok
        · cases hok
        · rename_i hwrench
          rw [chargeAll_eq_ok_iff h, ← hbytes strings hstrings] at hok
          simp only [Bool.or_eq_true, Bool.not_eq_eq_eq_not, Bool.not_true, decide_eq_true_eq,
            not_or, Bool.not_eq_false, Bool.not_eq_true, gt_iff_lt, not_lt] at hdetail hwrench
          obtain ⟨⟨hnormal, hdepth⟩, hnonnegative⟩ := hdetail
          obtain ⟨⟨⟨⟨⟨hstamp, hframe⟩, hbody1⟩, hbody2⟩, hwrench1⟩, hwrench2⟩ := hwrench
          exact ⟨⟨hnormal, hdepth, hnonnegative, ⟨strings, hstrings, hframe⟩, hstamp, hbody1,
            hbody2, hwrench1, hwrench2⟩, hok⟩
  · rintro ⟨hadmissible, hsum⟩
    obtain ⟨strings, hstrings, hframe⟩ := hadmissible.header
    dsimp only at hstrings ⊢
    rw [if_neg, hstrings]
    · dsimp only
      rw [if_neg, chargeAll_eq_ok_iff h, ← hbytes strings hstrings]
      · exact hsum
      · simp [hadmissible.stamp, hframe, hadmissible.body1Name, hadmissible.body2Name,
          hadmissible.body1Wrench, hadmissible.body2Wrench]
    · simp [hadmissible.normal, hadmissible.depth, hadmissible.nonnegative]

theorem validateDetails_eq_ok_iff {bytes bytes' : Nat}
    {entries : List (Vector3d F64 × F64 × JointWrench F64)} (h : bytes ≤ kMaxPairStringBytes) :
  entries.foldlM validateDetail bytes = .ok bytes' ↔
    ((∀ entry ∈ entries, DetailAdmissible entry) ∧
      bytes + (entries.map detailBytes).sum ≤ kMaxPairStringBytes) ∧
    bytes' = bytes + (entries.map detailBytes).sum
  := by
  apply Except.foldlM_eq_ok_iff (F := fun entries => bytes + (entries.map detailBytes).sum)
    (P := fun entries => (∀ entry ∈ entries, DetailAdmissible entry) ∧
      bytes + (entries.map detailBytes).sum ≤ kMaxPairStringBytes)
  · exact ⟨fun entry he => absurd he List.not_mem_nil, h⟩
  · rintro l entry ⟨hall, hsum⟩
    rw [List.map_append, List.sum_append] at hsum
    exact ⟨fun e he => hall e (List.mem_append_left _ he), by omega⟩
  · rintro l entry total ⟨hall, hsum⟩
    rw [validateDetail_eq_ok_iff hsum]
    simp only [List.mem_append, List.mem_singleton, List.map_append, List.sum_append, List.map_cons,
      List.map_nil, List.sum_cons, List.sum_nil, Nat.add_zero, Nat.add_assoc]
    constructor
    · rintro ⟨hentry, hle, heq⟩
      refine ⟨⟨?_, hle⟩, heq⟩
      rintro e (he | rfl)
      · exact hall e he
      · exact hentry
    · rintro ⟨⟨hall', hle⟩, heq⟩
      exact ⟨hall' entry (.inr rfl), hle, heq⟩

/-- A contact passes exactly when it is admissible, and then its bytes are returned. -/
theorem validateContact_eq_ok_iff {contact : Contact F64} {bytes : Nat} :
  validateContact contact = .ok bytes ↔ contact.Admissible ∧ bytes = contact.stringBytes
  := by
  unfold validateContact
  constructor
  · intro hok
    dsimp only at hok
    split at hok
    · cases hok
    · rename_i hnamed
      split at hok
      · cases hok
      · rename_i hnames
        obtain ⟨names, hcharge, hok⟩ := Except.bind_eq_ok_iff.mp hok
        obtain ⟨hle, rfl⟩ := (chargeAll_eq_ok_iff (Nat.zero_le _)).mp hcharge
        split at hok
        · cases hok
        · rename_i harrays
          split at hok
          · cases hok
          · rename_i hfinite
            obtain ⟨⟨hdetails, hsum⟩, rfl⟩ := (validateDetails_eq_ok_iff hle).mp hok
            simp only [List.sum_cons, List.sum_nil, Nat.zero_add, Nat.add_zero] at hsum ⊢
            simp only [Bool.or_eq_true, decide_eq_true_eq, not_or, gt_iff_lt, not_lt, ne_eq,
              not_not] at hnamed hnames harrays
            obtain ⟨⟨⟨⟨hpositive, hcount⟩, hnormal⟩, hdepth⟩, hwrench⟩ := harrays
            rw [Bool.not_eq_true', Bool.not_eq_false] at hfinite
            exact ⟨⟨hnamed, hnames, ⟨Nat.pos_of_ne_zero hpositive, hcount⟩,
              ⟨hnormal, hdepth, hwrench⟩, List.all_eq_true.mp hfinite, hdetails, hsum⟩, rfl⟩
  · rintro ⟨hadmissible, rfl⟩
    have hstrings := hadmissible.strings
    unfold Contact.stringBytes at hstrings
    dsimp only
    rw [if_neg, if_neg]
    · apply Except.bind_eq_ok_iff.mpr
      refine ⟨_, (chargeAll_eq_ok_iff (Nat.zero_le _)).mpr ⟨?_, rfl⟩, ?_⟩
      · simp only [List.sum_cons, List.sum_nil]
        omega
      · rw [if_neg, if_neg]
        · simp only [List.sum_cons, List.sum_nil, Nat.zero_add, Nat.add_zero]
          apply (validateDetails_eq_ok_iff (by omega)).mpr
          exact ⟨⟨hadmissible.details, hstrings⟩, rfl⟩
        · rw [Bool.not_eq_true', Bool.not_eq_false]
          exact List.all_eq_true.mpr hadmissible.finite
        · have hpositions := List.ne_nil_of_length_pos hadmissible.positions.1
          simp [hpositions, hadmissible.positions.2, hadmissible.aligned.1,
            hadmissible.aligned.2.1, hadmissible.aligned.2.2]
    · simp [hadmissible.names.1, hadmissible.names.2]
    · simp [hadmissible.named.1, hadmissible.named.2]

end Gz

/-! ### Unions of steps -/

/-- How the contacts of a step are grouped. -/
def stepGrouping : Grouping (Contact F64) (Contact F64) where
  pair := Contact.pair
  bytes := Contact.stringBytes
  keep := rosProjectedContact

/-- The records of a pair in the latest of the steps that has any. -/
def latestRecords (steps : List (List (Contact F64))) (p : ContactPair) : List (Contact F64) :=
  ((steps.map (stepGrouping.recordsOf p)).filter (!·.isEmpty)).getLast?.getD []

/-- The pairs that the steps have records of. -/
def pairsSeen (steps : List (List (Contact F64))) : List ContactPair :=
  (steps.flatten.map Contact.pair).dedup

/-- The records and the bytes of the union of steps are within the bounds of an aggregate. -/
structure UnionWithin (steps : List (List (Contact F64))) : Prop where
  records : ((pairsSeen steps).map fun p => (latestRecords steps p).length).sum ≤
    kMaxAggregateRecords
  strings : ((pairsSeen steps).map fun p => pairKeyStringBytes p +
    ((latestRecords steps p).map Contact.stringBytes).sum).sum ≤ kMaxAggregateStringBytes

/-- The groups of the union of steps: those of each step replace those of the steps before it. -/
def unionGroups (steps : List (List (Contact F64))) : ContactGroups F64 :=
  steps.foldl (fun groups step => SortedMap.assignAll groups (stepGrouping.groups step).toList) ∅

theorem latestRecords_concat {steps : List (List (Contact F64))} {step : List (Contact F64)}
    {p : ContactPair} :
  latestRecords (steps ++ [step]) p =
    if stepGrouping.recordsOf p step = [] then latestRecords steps p
    else stepGrouping.recordsOf p step
  := by
  unfold latestRecords
  rw [List.map_append, List.filter_append, List.map_cons, List.map_nil]
  split
  · rename_i h
    rw [h]
    simp
  · rename_i h
    simp [h]

variable {p : ContactPair} {step : List (Contact F64)}

theorem latestRecords_singleton :
  latestRecords [step] p = stepGrouping.recordsOf p step
  := by
  have h := @latestRecords_concat F64 [] step p
  rw [List.nil_append] at h
  rw [h]
  split
  · rename_i hnil
    rw [hnil]
    rfl
  · rfl

variable {steps : List (List (Contact F64))}

theorem unionGroups_concat :
  unionGroups (steps ++ [step]) =
    SortedMap.assignAll (unionGroups steps) (stepGrouping.groups step).toList
  := by
  unfold unionGroups
  rw [List.foldl_append, List.foldl_cons, List.foldl_nil]

/-- The group of a pair in the union has the latest records of the pair. -/
theorem getElem?_unionGroups :
  (unionGroups steps)[p]? =
    if latestRecords steps p = [] then none else some (stepGrouping.group (latestRecords steps p))
  := by
  induction steps using List.reverseRecOn with
  | nil => rfl
  | append_singleton steps step ih =>
      rw [unionGroups_concat, SortedMap.getElem?_assignAll_toList, Grouping.getElem?_groups, ih,
        latestRecords_concat]
      split
      · rfl
      · rfl

theorem unionGroups_singleton :
  unionGroups [step] = stepGrouping.groups step
  := by
  apply Std.ExtTreeMap.ext_getElem?
  intro p
  rw [getElem?_unionGroups, Grouping.getElem?_groups, latestRecords_singleton]

theorem recordsOf_ne_nil_iff :
  stepGrouping.recordsOf p step ≠ [] ↔ ∃ contact ∈ step, contact.pair = p
  := by
  rw [ne_eq, Grouping.recordsOf_eq_nil_iff]
  simp [stepGrouping]

theorem latestRecords_ne_nil_iff :
  latestRecords steps p ≠ [] ↔ ∃ step ∈ steps, ∃ contact ∈ step, contact.pair = p
  := by
  induction steps using List.reverseRecOn with
  | nil => simp [latestRecords]
  | append_singleton steps step ih =>
      rw [latestRecords_concat]
      simp only [List.mem_append, List.mem_singleton, or_and_right, exists_or, exists_eq_left]
      rw [← recordsOf_ne_nil_iff, ← ih]
      split
      · rename_i h
        simp [h]
      · rename_i h
        simp [h]

theorem mem_pairsSeen :
  p ∈ pairsSeen steps ↔ latestRecords steps p ≠ []
  := by
  rw [latestRecords_ne_nil_iff, pairsSeen, List.mem_dedup, List.mem_map]
  simp only [List.mem_flatten]
  constructor
  · rintro ⟨contact, ⟨step, hstep, hmem⟩, rfl⟩
    exact ⟨step, hstep, contact, hmem, rfl⟩
  · rintro ⟨step, hstep, contact, hmem, rfl⟩
    exact ⟨contact, ⟨step, hstep, hmem⟩, rfl⟩

theorem mem_pairsSeen_iff_isSome :
  p ∈ pairsSeen steps ↔ (unionGroups steps)[p]?.isSome
  := by
  rw [mem_pairsSeen, getElem?_unionGroups]
  split
  · simp_all
  · simp_all

/-- The records of a pair in the union are those of one of the steps. -/
theorem latestRecords_of_step {steps : List (List (Contact F64))} {p : ContactPair} :
  latestRecords steps p = [] ∨
    ∃ step ∈ steps, latestRecords steps p = stepGrouping.recordsOf p step
  := by
  induction steps using List.reverseRecOn with
  | nil => exact .inl rfl
  | append_singleton steps step ih =>
      rw [latestRecords_concat]
      split
      · rcases ih with hnil | ⟨step', hmem, heq⟩
        · exact .inl hnil
        · exact .inr ⟨step', List.mem_append_left _ hmem, heq⟩
      · exact .inr ⟨step, by simp, rfl⟩

/-! ### Complete groups -/

namespace ContactAggregatorPolicy

/-- The bytes of a group with those of its pair. -/
def entryBytes (entry : ContactPair × RecordGroup (Contact F64)) : Nat :=
  pairKeyStringBytes entry.1 + entry.2.stringBytes

/-- The number of records of a group is admissible. -/
def EntryAdmissible (entry : ContactPair × RecordGroup (Contact F64)) : Prop :=
  entry.2.records ≠ [] ∧ entry.2.records.length ≤ kMaxRecordsPerPair

theorem validateGroup_eq_ok_iff {totals totals' : Nat × Nat}
    {entry : ContactPair × RecordGroup (Contact F64)} :
  validateGroup totals entry = .ok totals' ↔
    EntryAdmissible entry ∧
    totals.1 + entry.2.records.length ≤ kMaxAggregateRecords ∧
    totals.2 + entryBytes entry ≤ kMaxAggregateStringBytes ∧
    totals' = (totals.1 + entry.2.records.length, totals.2 + entryBytes entry)
  := by
  unfold validateGroup EntryAdmissible entryBytes
  split
  · rename_i h
    simp only [reduceCtorEq, false_iff]
    simp only [Bool.or_eq_true, List.isEmpty_iff, decide_eq_true_eq] at h
    rintro ⟨⟨hne, hle⟩, -⟩
    rcases h with h | h
    · exact hne h
    · omega
  · rename_i h
    simp only [Bool.or_eq_true, List.isEmpty_iff, decide_eq_true_eq, not_or] at h
    simp only [Except.bind_eq_ok_iff, charge_eq_ok_iff, Except.ok.injEq]
    constructor
    · rintro ⟨count, ⟨hcount, rfl⟩, keys, ⟨hkeys, rfl⟩, bytes, ⟨hbytes, rfl⟩, rfl⟩
      rw [Nat.add_assoc] at hbytes
      refine ⟨⟨h.1, by omega⟩, hcount, hbytes, ?_⟩
      rw [Nat.add_assoc]
    · rintro ⟨-, hcount, hbytes, rfl⟩
      refine ⟨_, ⟨hcount, rfl⟩, _, ⟨by omega, rfl⟩, _, ⟨by omega, rfl⟩, ?_⟩
      rw [Nat.add_assoc]

variable {groups : ContactGroups F64}

theorem validateCompleteGroups_eq_ok_iff :
  validateCompleteGroups groups = .ok () ↔
    (∀ entry ∈ groups.toList, EntryAdmissible entry) ∧
    SortedMap.total (fun e => e.2.records.length) groups ≤ kMaxAggregateRecords ∧
    SortedMap.total entryBytes groups ≤ kMaxAggregateStringBytes
  := by
  have hloop : ∀ totals, groups.toList.foldlM validateGroup (0, 0) = .ok totals ↔
      ((∀ entry ∈ groups.toList, EntryAdmissible entry) ∧
        (groups.toList.map fun e => e.2.records.length).sum ≤ kMaxAggregateRecords ∧
        (groups.toList.map entryBytes).sum ≤ kMaxAggregateStringBytes) ∧
      totals = ((groups.toList.map fun e => e.2.records.length).sum,
        (groups.toList.map entryBytes).sum) := by
    intro totals
    apply Except.foldlM_eq_ok_iff
      (F := fun (l : List (ContactPair × RecordGroup (Contact F64))) =>
        ((l.map fun e => e.2.records.length).sum, (l.map entryBytes).sum))
      (P := fun l => (∀ entry ∈ l, EntryAdmissible entry) ∧
        (l.map fun e => e.2.records.length).sum ≤ kMaxAggregateRecords ∧
        (l.map entryBytes).sum ≤ kMaxAggregateStringBytes)
    · exact ⟨fun entry he => absurd he List.not_mem_nil, Nat.zero_le _, Nat.zero_le _⟩
    · rintro l entry ⟨hall, hrecords, hbytes⟩
      rw [List.map_append, List.sum_append] at hrecords hbytes
      exact ⟨fun e he => hall e (List.mem_append_left _ he), by omega, by omega⟩
    · rintro l entry totals ⟨hall, -, -⟩
      rw [validateGroup_eq_ok_iff]
      simp only [List.mem_append, List.mem_singleton, List.map_append, List.sum_append,
        List.map_cons, List.map_nil, List.sum_cons, List.sum_nil, Nat.add_zero]
      constructor
      · rintro ⟨hentry, hcount, hbytes, heq⟩
        refine ⟨⟨?_, hcount, hbytes⟩, heq⟩
        rintro e (he | rfl)
        · exact hall e he
        · exact hentry
      · rintro ⟨⟨hall', hcount, hbytes⟩, heq⟩
        exact ⟨hall' entry (.inr rfl), hcount, hbytes, heq⟩
  unfold validateCompleteGroups SortedMap.total
  rw [Except.bind_eq_ok_iff]
  constructor
  · rintro ⟨totals, htotals, -⟩
    exact ((hloop totals).mp htotals).1
  · intro h
    exact ⟨_, (hloop _).mpr ⟨h, rfl⟩, rfl⟩

/-- The union of steps that respect the bounds of a group passes exactly when it respects those of
an aggregate. -/
theorem validateCompleteGroups_unionGroups {steps : List (List (Contact F64))}
    (h : ∀ step ∈ steps, stepGrouping.Within kMaxRecordsPerPair kMaxPairStringBytes step) :
  validateCompleteGroups (unionGroups steps) = .ok () ↔ UnionWithin steps
  := by
  have hlatest : ∀ p v, (unionGroups steps)[p]? = some v →
      latestRecords steps p ≠ [] ∧ v = stepGrouping.group (latestRecords steps p) := by
    intro p v hv
    rw [getElem?_unionGroups] at hv
    split at hv
    · cases hv
    · rename_i hne
      exact ⟨hne, (Option.some.inj hv).symm⟩
  have hrecords : SortedMap.total (fun e => e.2.records.length) (unionGroups steps) =
      ((pairsSeen steps).map fun p => (latestRecords steps p).length).sum := by
    apply SortedMap.total_eq_sum (List.nodup_dedup _) (fun p => mem_pairsSeen_iff_isSome)
    intro p v hv
    obtain ⟨-, rfl⟩ := hlatest p v hv
    simp [Grouping.group]
  have hbytes : SortedMap.total entryBytes (unionGroups steps) =
      ((pairsSeen steps).map fun p => pairKeyStringBytes p +
        ((latestRecords steps p).map Contact.stringBytes).sum).sum := by
    apply SortedMap.total_eq_sum (List.nodup_dedup _) (fun p => mem_pairsSeen_iff_isSome)
    intro p v hv
    obtain ⟨-, rfl⟩ := hlatest p v hv
    rfl
  have hentries : ∀ entry ∈ (unionGroups steps).toList, EntryAdmissible entry := by
    rintro ⟨p, v⟩ hmem
    obtain ⟨hne, rfl⟩ := hlatest p v (Std.ExtTreeMap.mem_toList_iff_getElem?_eq_some.mp hmem)
    unfold EntryAdmissible Grouping.group
    rw [List.length_map, ne_eq, List.map_eq_nil_iff]
    refine ⟨hne, ?_⟩
    rcases latestRecords_of_step with hnil | ⟨step, hstep, heq⟩
    · exact absurd hnil hne
    · rw [heq]
      exact (h step hstep p).1
  rw [validateCompleteGroups_eq_ok_iff, hrecords, hbytes]
  constructor
  · rintro ⟨-, hr, hb⟩
    exact ⟨hr, hb⟩
  · rintro ⟨hr, hb⟩
    exact ⟨hentries, hr, hb⟩

/-! ### Steps -/

theorem countRecords_eq_ok_iff {sources : List (Option (Contacts F64))} {count : Nat} :
  sources.foldlM countRecords 0 = .ok count ↔
    ((∀ source ∈ sources, source.isSome = true) ∧
      (sourceContacts sources).length ≤ kMaxAggregateRecords) ∧
    count = (sourceContacts sources).length
  := by
  apply Except.foldlM_eq_ok_iff (F := fun sources => (sourceContacts sources).length)
    (P := fun sources => (∀ source ∈ sources, source.isSome = true) ∧
      (sourceContacts sources).length ≤ kMaxAggregateRecords)
  · exact ⟨fun entry he => absurd he List.not_mem_nil, Nat.zero_le _⟩
  · rintro l source ⟨hall, hlength⟩
    unfold sourceContacts at hlength ⊢
    rw [List.flatMap_append, List.length_append] at hlength
    exact ⟨fun e he => hall e (List.mem_append_left _ he), by omega⟩
  · rintro l source count ⟨hall, hlength⟩
    have hconcat : (sourceContacts (l ++ [source])).length =
        (sourceContacts l).length + (source.elim [] (·.contact)).length := by
      unfold sourceContacts
      simp [List.flatMap_append]
    rw [hconcat]
    cases source with
    | none => simp [countRecords]
    | some contacts =>
        simp only [countRecords, List.mem_append, List.mem_singleton]
        split
        · simp only [reduceCtorEq, false_iff, Option.elim_some]
          omega
        · simp only [Except.ok.injEq, Option.elim_some]
          constructor
          · rintro rfl
            refine ⟨⟨?_, by omega⟩, rfl⟩
            rintro e (he | rfl)
            · exact hall e he
            · rfl
          · rintro ⟨-, rfl⟩
            rfl

variable [Binary64Tests F64]

/-- The conditions on the sources of a physics step. -/
structure StepAdmissible (sources : List (Option (Contacts F64))) : Prop where
  sourceCount : 0 < sources.length ∧ sources.length ≤ kContactAggregateSourceCount
  present : ∀ source ∈ sources, source.isSome = true
  records : (sourceContacts sources).length ≤ kMaxAggregateRecords
  contacts : ∀ contact ∈ sourceContacts sources, contact.Admissible
  pairs : stepGrouping.Within kMaxRecordsPerPair kMaxPairStringBytes (sourceContacts sources)
  union : UnionWithin [sourceContacts sources]

theorem groupContacts_eq_ok_iff {contacts : List (Contact F64)} :
  contacts.foldlM groupContact ∅ = .ok groups ↔
    ((∀ contact ∈ contacts, contact.Admissible) ∧
      stepGrouping.Within kMaxRecordsPerPair kMaxPairStringBytes contacts) ∧
    groups = stepGrouping.groups contacts
  := by
  apply Except.foldlM_eq_ok_iff (F := stepGrouping.groups)
    (P := fun contacts => (∀ contact ∈ contacts, contact.Admissible) ∧
      stepGrouping.Within kMaxRecordsPerPair kMaxPairStringBytes contacts)
  · exact ⟨fun entry he => absurd he List.not_mem_nil, Grouping.Within.nil⟩
  · rintro l contact ⟨hall, hwithin⟩
    exact ⟨fun e he => hall e (List.mem_append_left _ he), hwithin.of_append⟩
  · rintro l contact groups ⟨hall, hwithin⟩
    unfold groupContact
    rw [Except.bind_eq_ok_iff]
    constructor
    · rintro ⟨bytes, hcontact, hadmit⟩
      obtain ⟨hadmissible, rfl⟩ := validateContact_eq_ok_iff.mp hcontact
      obtain ⟨hwithin', heq⟩ := (Grouping.admitRecord_groups hwithin).mp hadmit
      refine ⟨⟨?_, hwithin'⟩, heq⟩
      intro e he
      rcases List.mem_append.mp he with he | he
      · exact hall e he
      · rw [List.mem_singleton.mp he]
        exact hadmissible
    · rintro ⟨⟨hall', hwithin'⟩, heq⟩
      exact ⟨_, validateContact_eq_ok_iff.mpr ⟨hall' contact (by simp), rfl⟩,
        (Grouping.admitRecord_groups hwithin).mpr ⟨hwithin', heq⟩⟩

/-- A step passes exactly when it is admissible, and then its groups are returned. -/
theorem validatedStepGroups_eq_ok_iff {sources : List (Option (Contacts F64))} :
  validatedStepGroups sources = .ok groups ↔
    StepAdmissible sources ∧ groups = stepGrouping.groups (sourceContacts sources)
  := by
  unfold validatedStepGroups
  split
  · rename_i hcount
    simp only [Bool.or_eq_true, decide_eq_true_eq] at hcount
    simp only [reduceCtorEq, false_iff]
    rintro ⟨hadmissible, -⟩
    have := hadmissible.sourceCount
    omega
  · rename_i hcount
    simp only [Bool.or_eq_true, decide_eq_true_eq, not_or] at hcount
    have hunion : stepGrouping.Within kMaxRecordsPerPair kMaxPairStringBytes
        (sourceContacts sources) →
        (validateCompleteGroups (stepGrouping.groups (sourceContacts sources)) = .ok () ↔
          UnionWithin [sourceContacts sources]) := by
      intro hwithin
      rw [← unionGroups_singleton]
      apply validateCompleteGroups_unionGroups
      intro step hstep
      rw [List.mem_singleton.mp hstep]
      exact hwithin
    simp only [Except.bind_eq_ok_iff, Except.ok.injEq]
    constructor
    · rintro ⟨count, hrecords, groups', hgroups, ⟨⟩, hcomplete, rfl⟩
      obtain ⟨⟨hsome, hlength⟩, -⟩ := countRecords_eq_ok_iff.mp hrecords
      obtain ⟨⟨hcontacts, hwithin⟩, rfl⟩ := groupContacts_eq_ok_iff.mp hgroups
      exact ⟨⟨by omega, hsome, hlength, hcontacts, hwithin, (hunion hwithin).mp hcomplete⟩, rfl⟩
    · rintro ⟨hadmissible, rfl⟩
      refine ⟨_, countRecords_eq_ok_iff.mpr ⟨⟨hadmissible.present, hadmissible.records⟩, rfl⟩, _,
        groupContacts_eq_ok_iff.mpr ⟨⟨hadmissible.contacts, hadmissible.pairs⟩, rfl⟩, (), ?_, rfl⟩
      exact (hunion hadmissible.pairs).mpr hadmissible.union

end ContactAggregatorPolicy

end Collisions

end RobotestLab
