import RobotestLab.Collisions.Snapshots

/-!
# The bookkeeping of the gate

The gate projects the numbers of the active set with unsigned sizes before it changes the set. The
projection in checked arithmetic, which is undefined where a size would wrap, is defined in every
state that the gate reaches, and has the totals of the set after the change. A structural failure
leaves the set and the stamp of the last snapshot as they are.
-/

namespace RobotestLab

namespace Collisions

namespace Ros

open ContactStreamPolicy

variable {F64 : Type}

/-! ### Sizes -/

/-- The sum of two sizes, unless it wraps. -/
def sizeAdd (a b : Nat) : Option Nat :=
  if a + b < 2 ^ 64 then some (a + b) else none

/-- The difference of two sizes, unless it wraps. -/
def sizeSub (a b : Nat) : Option Nat :=
  if b ≤ a then some (a - b) else none

theorem sizeAdd_of_lt {a b : Nat} (h : a + b < 2 ^ 64) :
  sizeAdd a b = some (a + b)
  := if_pos h

theorem sizeSub_of_le {a b : Nat} (h : b ≤ a) :
  sizeSub a b = some (a - b)
  := if_pos h

/-- The bytes of an entry of the active set. -/
def activeBytes (entry : ContactPair × ActivePair F64) : Nat :=
  entry.2.stringBytes + pairKeyStringBytes entry.1

/-- Add the records and the bytes of a pair. -/
def addGroup? (projection : Projection) (entry : ContactPair × RecordGroup (Contact F64)) :
    Option Projection := do
  let recordCount ← sizeAdd projection.recordCount entry.2.records.length
  let entryBytes ← sizeAdd entry.2.stringBytes (pairKeyStringBytes entry.1)
  let stringBytes ← sizeAdd projection.stringBytes entryBytes
  some { projection with recordCount, stringBytes }

theorem addGroup?_of_lt {projection : Projection} {entry : ContactPair × RecordGroup (Contact F64)}
    (hrecords : projection.recordCount + entry.2.records.length < 2 ^ 64)
    (hbytes : projection.stringBytes + (entry.2.stringBytes + pairKeyStringBytes entry.1) <
      2 ^ 64) :
  addGroup? projection entry = some
    { projection with
      recordCount := projection.recordCount + entry.2.records.length
      stringBytes := projection.stringBytes + (entry.2.stringBytes + pairKeyStringBytes entry.1) }
  := by
  have hentry : entry.2.stringBytes + pairKeyStringBytes entry.1 < 2 ^ 64 :=
    (Nat.le_add_left _ _).trans_lt hbytes
  unfold addGroup?
  rw [sizeAdd_of_lt hrecords, sizeAdd_of_lt hentry]
  dsimp only [Option.bind_eq_bind, Option.bind_some]
  rw [sizeAdd_of_lt hbytes, Option.bind_some]

/-- Account for an active pair, in sizes that do not wrap. -/
def projectActive? (batch : PendingBatch F64) (completed : Int) (projection : Projection)
    (entry : ContactPair × ActivePair F64) : Option Projection :=
  if releaseProven batch completed entry then do
    let pairCount ← sizeSub projection.pairCount 1
    some { projection with expired := projection.expired ++ [entry.1], pairCount }
  else addGroup? projection (entry.1, entry.2.toRecordGroup)

/-- A pair of the batch is new. -/
def newPair? (projection : Projection) : Option Projection := do
  let pairCount ← sizeAdd projection.pairCount 1
  some { projection with pairCount, pairSetChanged := true }

/-- A pair of the batch replaces a pair that is kept. -/
def replacePair? (projection : Projection) (entry : ContactPair × ActivePair F64) :
    Option Projection := do
  let recordCount ← sizeSub projection.recordCount entry.2.records.length
  let entryBytes ← sizeAdd entry.2.stringBytes (pairKeyStringBytes entry.1)
  let stringBytes ← sizeSub projection.stringBytes entryBytes
  some { projection with recordCount, stringBytes }

/-- Account for a pair of the batch, in sizes that do not wrap. -/
def projectBatch? (active : PairMap (ActivePair F64)) (projection : Projection)
    (entry : ContactPair × RecordGroup (Contact F64)) : Option Projection := do
  let projection ←
    match active[entry.1]? with
    | some old =>
        if projection.expired.contains entry.1 then newPair? projection
        else replacePair? projection (entry.1, old)
    | none => newPair? projection
  addGroup? projection entry

/-- The active set after a completed batch, in sizes that do not wrap. -/
def project? (active : PairMap (ActivePair F64)) (batch : PendingBatch F64) (completed : Int) :
    Option Projection := do
  let projection ←
    active.toList.foldlM (projectActive? batch completed) { pairCount := active.size }
  batch.pairs.toList.foldlM (projectBatch? active)
    { projection with pairSetChanged := !projection.expired.isEmpty }

/-! ### The active pairs -/

section Batch

variable {active : PairMap (ActivePair F64)} {batch : PendingBatch F64} {completed : Int}

/-- The numbers of a projection are the totals of a set. -/
structure Counts (projection : Projection) (current : PairMap (ActivePair F64)) : Prop where
  pairs : projection.pairCount = SortedMap.total (fun _ => 1) current
  records : projection.recordCount = SortedMap.total (fun e => e.2.records.length) current
  bytes : projection.stringBytes = SortedMap.total activeBytes current

theorem size_eq_total (current : PairMap (ActivePair F64)) :
  current.size = SortedMap.total (fun _ => 1) current
  := by
  unfold SortedMap.total
  rw [List.map_const', List.sum_replicate_nat, Nat.mul_one, Std.ExtTreeMap.length_toList]

/-- The numbers after some of the active pairs. -/
structure PassedActive (active : PairMap (ActivePair F64)) (batch : PendingBatch F64)
    (completed : Int)
    (passed : List (ContactPair × ActivePair F64)) (projection : Projection) : Prop where
  pairs : projection.pairCount + (passed.filter (releaseProven batch completed)).length =
    active.size
  records : projection.recordCount =
    ((passed.filter fun e => !releaseProven batch completed e).map fun e => e.2.records.length).sum
  bytes : projection.stringBytes =
    ((passed.filter fun e => !releaseProven batch completed e).map activeBytes).sum

/-- A measure of the pairs that are not released is no more than the total. -/
theorem sum_filter_le (f : ContactPair × ActivePair F64 → Nat)
    (keep : ContactPair × ActivePair F64 → Bool) {passed rest : List (ContactPair × ActivePair F64)}
    (h : active.toList = passed ++ rest) :
  ((passed.filter keep).map f).sum ≤ SortedMap.total f active
  := by
  unfold SortedMap.total
  rw [h]
  apply List.Sublist.sum_le_sum
  · apply List.Sublist.map
    exact List.filter_sublist.trans (List.sublist_append_left passed rest)
  · intro n _
    exact Nat.zero_le n

/-- One more active pair. -/
theorem PassedActive.step {passed rest : List (ContactPair × ActivePair F64)}
    {entry : ContactPair × ActivePair F64} {projection : Projection}
    (h : PassedActive active batch completed passed projection)
    (hlist : active.toList = passed ++ entry :: rest)
    (hrecords : SortedMap.total (fun e => e.2.records.length) active < 2 ^ 64)
    (hbytes : SortedMap.total activeBytes active < 2 ^ 64) :
  projectActive? batch completed projection entry =
      some (projectActive batch completed projection entry) ∧
    PassedActive active batch completed (passed ++ [entry])
      (projectActive batch completed projection entry)
  := by
  have hlist' : active.toList = (passed ++ [entry]) ++ rest := by
    rw [hlist, List.append_assoc, List.singleton_append]
  unfold projectActive? projectActive
  by_cases hreleased : releaseProven batch completed entry = true
  · rw [if_pos hreleased, if_pos hreleased]
    have hcount : (passed.filter (releaseProven batch completed)).length + 1 ≤ active.size := by
      rw [← Std.ExtTreeMap.length_toList, hlist, List.length_append, List.length_cons]
      have := List.length_filter_le (releaseProven batch completed) passed
      omega
    have hpairs := h.pairs
    constructor
    · rw [sizeSub_of_le (by omega)]
      rfl
    · constructor
      · simp only [List.filter_append, List.length_append, List.filter_cons_of_pos hreleased,
          List.filter_nil, List.length_singleton]
        omega
      · rw [List.filter_append, List.filter_cons_of_neg (by simp [hreleased]), List.filter_nil,
          List.append_nil]
        exact h.records
      · rw [List.filter_append, List.filter_cons_of_neg (by simp [hreleased]), List.filter_nil,
          List.append_nil]
        exact h.bytes
  · rw [if_neg hreleased, if_neg hreleased]
    have hkept : (passed ++ [entry]).filter (fun e => !releaseProven batch completed e) =
        passed.filter (fun e => !releaseProven batch completed e) ++ [entry] := by
      rw [List.filter_append, List.filter_cons_of_pos (by simp [hreleased]), List.filter_nil]
    have hrecords' := sum_filter_le (fun e => e.2.records.length)
      (fun e => !releaseProven batch completed e) hlist'
    have hbytes' := sum_filter_le activeBytes (fun e => !releaseProven batch completed e) hlist'
    rw [hkept, List.map_append, List.sum_append, List.map_singleton,
      List.sum_singleton] at hrecords' hbytes'
    rw [← h.records] at hrecords'
    rw [← h.bytes] at hbytes'
    constructor
    · exact addGroup?_of_lt (hrecords'.trans_lt hrecords) (hbytes'.trans_lt hbytes)
    · constructor
      · rw [List.filter_append, List.filter_cons_of_neg hreleased, List.filter_nil, List.append_nil]
        exact h.pairs
      · rw [hkept, List.map_append, List.sum_append, List.map_singleton,
          List.sum_singleton, ← h.records]
      · rw [hkept, List.map_append, List.sum_append, List.map_singleton,
          List.sum_singleton, ← h.bytes]
        rfl

variable (active batch completed) in
/-- All active pairs. -/
theorem passedActive_all (hrecords : SortedMap.total (fun e => e.2.records.length) active < 2 ^ 64)
    (hbytes : SortedMap.total activeBytes active < 2 ^ 64) :
  active.toList.foldlM (projectActive? batch completed) { pairCount := active.size } =
      some (active.toList.foldl (projectActive batch completed) { pairCount := active.size }) ∧
    PassedActive active batch completed active.toList
      (active.toList.foldl (projectActive batch completed) { pairCount := active.size })
  := by
  have hrest : ∀ (rest passed : List (ContactPair × ActivePair F64)) (projection : Projection),
      active.toList = passed ++ rest → PassedActive active batch completed passed projection →
      rest.foldlM (projectActive? batch completed) projection =
          some (rest.foldl (projectActive batch completed) projection) ∧
        PassedActive active batch completed active.toList
          (rest.foldl (projectActive batch completed) projection) := by
    intro rest
    induction rest with
    | nil =>
        intro passed projection hlist h
        rw [List.append_nil] at hlist
        rw [hlist]
        exact ⟨rfl, h⟩
    | cons entry rest ih =>
        intro passed projection hlist h
        obtain ⟨hchecked, hpassed⟩ := h.step hlist hrecords hbytes
        rw [List.foldlM_cons, hchecked, List.foldl_cons]
        apply ih (passed ++ [entry])
        · rw [hlist, List.append_assoc, List.singleton_append]
        · exact hpassed
  apply hrest active.toList [] { pairCount := active.size } rfl
  constructor
  · rfl
  · rfl
  · rfl

/-- After all active pairs the numbers are the totals of the pairs that are kept. -/
theorem PassedActive.counts {projection : Projection}
    (h : PassedActive active batch completed active.toList projection) :
  Counts projection (keptPairs active batch completed)
  := by
  constructor
  · have hpairs := h.pairs
    have hsplit := List.length_eq_length_filter_add (l := active.toList)
      (releaseProven batch completed)
    rw [Std.ExtTreeMap.length_toList] at hsplit
    rw [total_keptPairs, List.map_const', List.sum_replicate_nat, Nat.mul_one]
    omega
  · rw [total_keptPairs]
    exact h.records
  · rw [total_keptPairs]
    exact h.bytes

/-! ### The pairs of the batch -/

section Step

variable {kept current : PairMap (ActivePair F64)} {projection : Projection} {p : ContactPair}
  {group : RecordGroup (Contact F64)}

/-- There is room for one more pair. -/
structure Room (projection : Projection)
    (entry : ContactPair × RecordGroup (Contact F64)) : Prop where
  pairs : projection.pairCount + 1 < 2 ^ 64
  records : projection.recordCount + entry.2.records.length < 2 ^ 64
  bytes : projection.stringBytes + (entry.2.stringBytes + pairKeyStringBytes entry.1) < 2 ^ 64

theorem projectBatch_new (h : p ∈ projection.expired ∨ active[p]? = none) :
  projectBatch active projection (p, group) =
    { projection with
      pairCount := projection.pairCount + 1
      pairSetChanged := true
      recordCount := projection.recordCount + group.records.length
      stringBytes := projection.stringBytes + (group.stringBytes + pairKeyStringBytes p) }
  := by
  unfold projectBatch
  cases hp : active[p]? with
  | none => rfl
  | some old =>
      rw [hp] at h
      have hmem : p ∈ projection.expired := by
        simpa using h
      simp [hmem]

theorem projectBatch?_new (h : p ∈ projection.expired ∨ active[p]? = none) :
  projectBatch? active projection (p, group) =
    (newPair? projection).bind fun projection => addGroup? projection (p, group)
  := by
  unfold projectBatch?
  cases hp : active[p]? with
  | none => rfl
  | some old =>
      rw [hp] at h
      have hmem : p ∈ projection.expired := by
        simpa using h
      simp [hmem]

theorem projectBatch_replaced {old : ActivePair F64} (hmem : p ∉ projection.expired)
    (hactive : active[p]? = some old) :
  projectBatch active projection (p, group) =
    { projection with
      recordCount := projection.recordCount - old.records.length + group.records.length
      stringBytes := projection.stringBytes - (old.stringBytes + pairKeyStringBytes p) +
        (group.stringBytes + pairKeyStringBytes p) }
  := by
  unfold projectBatch
  simp [hactive, hmem]

theorem projectBatch?_replaced {old : ActivePair F64} (hmem : p ∉ projection.expired)
    (hactive : active[p]? = some old) :
  projectBatch? active projection (p, group) =
    (replacePair? projection (p, old)).bind fun projection => addGroup? projection (p, group)
  := by
  unfold projectBatch?
  simp [hactive, hmem]

variable (completed) in
/-- A pair of the batch is accounted for: no size wraps, the numbers are again the totals, and they
grow by the pair at most. -/
theorem Counts.step (h : Counts projection current) (hroom : Room projection (p, group))
    (hkept : kept[p]? = if p ∈ projection.expired then none else active[p]?)
    (hcurrent : current[p]? = kept[p]?) :
  projectBatch? active projection (p, group) = some (projectBatch active projection (p, group)) ∧
    Counts (projectBatch active projection (p, group))
      (current.insert p { toRecordGroup := group, lastSeenStampNs := completed }) ∧
    (projectBatch active projection (p, group)).expired = projection.expired ∧
    (projectBatch active projection (p, group)).pairCount ≤ projection.pairCount + 1 ∧
    (projectBatch active projection (p, group)).recordCount ≤
      projection.recordCount + group.records.length ∧
    (projectBatch active projection (p, group)).stringBytes ≤
      projection.stringBytes + (group.stringBytes + pairKeyStringBytes p)
  := by
  have hinsert := fun f => SortedMap.total_insert (f := f) current p
    ({ toRecordGroup := group, lastSeenStampNs := completed } : ActivePair F64)
  have hpairs := hinsert fun _ => 1
  have hrecords := hinsert fun e => e.2.records.length
  have hbytes := hinsert activeBytes
  rw [← h.pairs, hcurrent] at hpairs
  rw [← h.records, hcurrent] at hrecords
  rw [← h.bytes, hcurrent] at hbytes
  cases hold : kept[p]? with
  | none =>
      rw [hold, Option.elim_none, Nat.add_zero] at hpairs hrecords hbytes
      have hnew : p ∈ projection.expired ∨ active[p]? = none := by
        rw [hkept] at hold
        by_cases hmem : p ∈ projection.expired
        · exact .inl hmem
        · rw [if_neg hmem] at hold
          exact .inr hold
      rw [projectBatch_new hnew]
      refine ⟨?_, ⟨hpairs.symm, hrecords.symm, hbytes.symm⟩, rfl, Nat.le_refl _, Nat.le_refl _,
        Nat.le_refl _⟩
      rw [projectBatch?_new hnew, newPair?, sizeAdd_of_lt hroom.pairs]
      exact addGroup?_of_lt hroom.records hroom.bytes
  | some old =>
      rw [hold, Option.elim_some] at hpairs hrecords hbytes
      have hmem : p ∉ projection.expired := by
        intro hmem
        rw [hkept, if_pos hmem] at hold
        cases hold
      have hactive : active[p]? = some old := by
        rw [← hold, hkept, if_neg hmem]
      have hleRecords := SortedMap.le_total (f := fun (e : ContactPair × ActivePair F64) =>
        e.2.records.length) (hcurrent.trans hold)
      have hleBytes := SortedMap.le_total (f := activeBytes) (hcurrent.trans hold)
      rw [← h.records] at hleRecords
      rw [← h.bytes] at hleBytes
      unfold activeBytes at hbytes hleBytes
      dsimp only at hpairs hrecords hbytes hleRecords hleBytes
      have hroomRecords := hroom.records
      have hroomBytes := hroom.bytes
      dsimp only at hroomRecords hroomBytes
      rw [projectBatch_replaced hmem hactive]
      refine ⟨?_, ⟨?_, ?_, ?_⟩, rfl, Nat.le_succ _, ?_, ?_⟩
      · rw [projectBatch?_replaced hmem hactive, replacePair?, sizeSub_of_le hleRecords,
          sizeAdd_of_lt (by dsimp only; omega)]
        dsimp only [Option.bind_eq_bind, Option.bind_some]
        rw [sizeSub_of_le hleBytes]
        apply addGroup?_of_lt
        · dsimp only
          omega
        · dsimp only
          omega
      · dsimp only
        omega
      · dsimp only
        omega
      · unfold activeBytes
        dsimp only
        omega
      · dsimp only
        omega
      · dsimp only
        omega

end Step

/-- The records and the bytes of the entries of a batch. -/
def groupBytes (entry : ContactPair × RecordGroup (Contact F64)) : Nat :=
  entry.2.stringBytes + pairKeyStringBytes entry.1

/-- The pairs of a batch are accounted for one after the other. -/
theorem Counts.steps {entries : List (ContactPair × RecordGroup (Contact F64))}
    (kept : PairMap (ActivePair F64)) {current : PairMap (ActivePair F64)} {projection : Projection}
    (h : Counts projection current) (hnodup : (entries.map Prod.fst).Nodup)
    (hkept : ∀ p, kept[p]? = if p ∈ projection.expired then none else active[p]?)
    (hcurrent : ∀ p ∈ entries.map Prod.fst, current[p]? = kept[p]?)
    (hpairs : projection.pairCount + entries.length < 2 ^ 64)
    (hrecords : projection.recordCount + (entries.map fun e => e.2.records.length).sum < 2 ^ 64)
    (hbytes : projection.stringBytes + (entries.map groupBytes).sum < 2 ^ 64) :
  entries.foldlM (projectBatch? active) projection =
      some (entries.foldl (projectBatch active) projection) ∧
    Counts (entries.foldl (projectBatch active) projection)
      (SortedMap.assignAll current (entries.map fun entry =>
        (entry.1, { toRecordGroup := entry.2, lastSeenStampNs := completed })))
  := by
  induction entries generalizing current projection with
  | nil => exact ⟨rfl, h⟩
  | cons entry entries ih =>
      obtain ⟨p, group⟩ := entry
      rw [List.map_cons, List.nodup_cons] at hnodup
      rw [List.length_cons] at hpairs
      rw [List.map_cons, List.sum_cons] at hrecords hbytes
      unfold groupBytes at hbytes ih
      dsimp only at hrecords hbytes
      have hroom : Room projection (p, group) := by
        constructor
        · omega
        · dsimp only
          omega
        · dsimp only
          omega
      obtain ⟨hchecked, hcounts, hexpired, hlePairs, hleRecords, hleBytes⟩ :=
        h.step completed hroom (hkept p) (hcurrent p (by simp))
      have hcurrent' : ∀ q ∈ entries.map Prod.fst,
          (current.insert p { toRecordGroup := group, lastSeenStampNs := completed })[q]? =
            kept[q]? := by
        intro q hq
        rw [SortedMap.getElem?_insert_eq, if_neg]
        · exact hcurrent q (List.mem_cons_of_mem _ hq)
        · rintro rfl
          exact hnodup.1 hq
      rw [List.foldlM_cons, hchecked, List.foldl_cons]
      apply ih hcounts hnodup.2
      · rw [hexpired]
        exact hkept
      · exact hcurrent'
      · omega
      · omega
      · omega

/-- No size of the projection wraps, and it has the totals of the active set after the batch. -/
theorem project?_eq
    (hpairs : active.size + batch.pairs.size < 2 ^ 64)
    (hrecords : SortedMap.total (fun e => e.2.records.length) active +
      SortedMap.total (fun e => e.2.records.length) batch.pairs < 2 ^ 64)
    (hbytes : SortedMap.total activeBytes active +
      SortedMap.total groupBytes batch.pairs < 2 ^ 64) :
  project? active batch completed = some (project active batch completed) ∧
    Counts (project active batch completed)
      (updateActive active batch completed (expiredPairs active batch completed))
  := by
  obtain ⟨hchecked, hpassed⟩ := passedActive_all active batch completed (by omega) (by omega)
  obtain ⟨hexpired, -⟩ := @foldl_projectActive F64 batch completed active.toList
    { pairCount := active.size }
  have hall : active.toList = active.toList ++ [] := (List.append_nil _).symm
  have hlePairs := hpassed.pairs
  have hleRecords := sum_filter_le (fun e => e.2.records.length)
    (fun e => !releaseProven batch completed e) hall
  have hleBytes := sum_filter_le activeBytes (fun e => !releaseProven batch completed e) hall
  rw [← hpassed.records] at hleRecords
  rw [← hpassed.bytes] at hleBytes
  have hcounts := hpassed.counts
  rw [← Std.ExtTreeMap.length_toList (t := batch.pairs)] at hpairs
  unfold project? project
  rw [hchecked, updateActive_eq]
  dsimp only [Option.bind_eq_bind, Option.bind_some]
  refine Counts.steps (keptPairs active batch completed) ?_ (SortedMap.nodup_keys batch.pairs) ?_
    (fun p _ => rfl) ?_ ?_ ?_
  · exact ⟨hcounts.pairs, hcounts.records, hcounts.bytes⟩
  · intro p
    dsimp only
    rw [hexpired]
    exact getElem?_eraseAll
  · dsimp only
    omega
  · unfold SortedMap.total at hrecords hleRecords
    dsimp only
    omega
  · unfold SortedMap.total at hbytes hleBytes
    dsimp only
    omega

end Batch

/-! ### The states of the gate -/

/-- The active set is within its limits and knows the bytes of its records, and the pending batch is
that of an admissible message. -/
structure Tidy [Binary64Tests F64] (policy : ContactStreamPolicy F64) : Prop where
  pairs : policy.activePairs.size ≤ kMaxActiveContactPairs
  records : SortedMap.total (fun e => e.2.records.length) policy.activePairs ≤
    kMaxActiveContactRecords
  bytes : SortedMap.total activeBytes policy.activePairs ≤ kMaxActiveStringBytes
  exact : ∀ (p : ContactPair) (a : ActivePair F64), policy.activePairs[p]? = some a →
    a.stringBytes = (a.records.map Contact.stringBytes).sum
  pending : ∀ batch, policy.pendingBatch = some batch →
    ∃ message : Contacts F64, message.Admissible ∧ batch = batchOf message

section States

variable [Binary64Tests F64] {policy : ContactStreamPolicy F64} {message : Contacts F64}
  {completed : Int}

/-- The totals of the batch of an admissible message. -/
theorem batch_totals (h : message.Admissible) :
  (batchOf message).pairs.size ≤ kMaxRawContactRecords ∧
    SortedMap.total (fun e => e.2.records.length) (batchOf message).pairs ≤ kMaxRawContactRecords ∧
    SortedMap.total groupBytes (batchOf message).pairs ≤ kMaxMessageStringBytes
  := by
  have hgroups : (batchOf message).pairs = messageGrouping.groups message.contacts := rfl
  have hrecords : SortedMap.total (fun e => e.2.records.length) (batchOf message).pairs =
      message.contacts.length := by
    rw [hgroups, Grouping.total_records]
  have hsize : (batchOf message).pairs.size ≤
      SortedMap.total (fun e => e.2.records.length) (batchOf message).pairs := by
    have hone : (batchOf message).pairs.size =
        SortedMap.total (fun _ => 1) (batchOf message).pairs := by
      unfold SortedMap.total
      rw [List.map_const', List.sum_replicate_nat, Nat.mul_one, Std.ExtTreeMap.length_toList]
    rw [hone]
    apply SortedMap.total_le_total
    intro p group hgroup
    rw [hgroups, Grouping.getElem?_groups] at hgroup
    split at hgroup
    · cases hgroup
    · rename_i hown
      rw [← Option.some.inj hgroup]
      unfold Grouping.group
      rw [List.length_map]
      exact List.length_pos_of_ne_nil hown
  have hbytes : SortedMap.total groupBytes (batchOf message).pairs =
      (message.contacts.map Contact.stringBytes).sum + keyBytes message.contacts := by
    rw [hgroups]
    unfold keyBytes
    have hstrings := Grouping.total_stringBytes (G := messageGrouping) (l := message.contacts)
    change _ = (message.contacts.map Contact.stringBytes).sum at hstrings
    rw [← hstrings]
    unfold SortedMap.total groupBytes
    apply List.sum_map_add
  have hlimit := h.records
  have hstrings := h.strings
  refine ⟨?_, ?_, ?_⟩
  · omega
  · omega
  · omega

/-- The projection of the batch of an admissible message against a tidy active set. -/
theorem Tidy.projected (h : Tidy policy) (hmessage : message.Admissible) (completed : Int) :
  project? policy.activePairs (batchOf message) completed =
      some (project policy.activePairs (batchOf message) completed) ∧
    Counts (project policy.activePairs (batchOf message) completed)
      (updateActive policy.activePairs (batchOf message) completed
        (expiredPairs policy.activePairs (batchOf message) completed))
  := by
  obtain ⟨hsize, hrecords, hbytes⟩ := batch_totals hmessage
  have hpairs := h.pairs
  have hactiveRecords := h.records
  have hactiveBytes := h.bytes
  unfold kMaxRawContactRecords at hsize hrecords
  unfold kMaxMessageStringBytes at hbytes
  unfold kMaxActiveContactPairs at hpairs
  unfold kMaxActiveContactRecords at hactiveRecords
  unfold kMaxActiveStringBytes at hactiveBytes
  apply project?_eq
  · omega
  · omega
  · omega

/-- The new active pairs know the bytes of their records. -/
theorem Tidy.exact_next (h : Tidy policy) (completed : Int) {p : ContactPair} {a : ActivePair F64}
    (ha : (updateActive policy.activePairs (batchOf message) completed
      (expiredPairs policy.activePairs (batchOf message) completed))[p]? = some a) :
  a.stringBytes = (a.records.map Contact.stringBytes).sum
  := by
  have hgroups : (batchOf message).pairs = messageGrouping.groups message.contacts := rfl
  rw [getElem?_updateActive, hgroups, Grouping.getElem?_groups] at ha
  split at ha
  · rename_i group hgroup
    split at hgroup
    · cases hgroup
    · rw [← Option.some.inj ha, ← Option.some.inj hgroup]
      unfold Grouping.group messageGrouping
      rw [List.map_id]
  · obtain ⟨hold, -⟩ := Option.filter_eq_some_iff.mp ha
    exact h.exact p a hold

omit [Binary64Tests F64] in
/-- The gate publishes the active set or nothing, and not for a structural failure. -/
theorem forward_output (policy : ContactStreamPolicy F64) (batch : PendingBatch F64)
    (completed : Int) (projection : Projection) :
  (policy.forward batch completed projection).reason ≠ .fatalStructuralInput ∧
    ((policy.forward batch completed projection).output = none ∨
      (policy.forward batch completed projection).output = some (policy.snapshot batch.header))
  := by
  unfold ContactStreamPolicy.forward
  dsimp only
  split
  · exact ⟨nofun, .inr rfl⟩
  · split
    · exact ⟨nofun, .inr rfl⟩
    · split
      · exact ⟨nofun, .inr rfl⟩
      · split
        · exact ⟨nofun, .inr rfl⟩
        · exact ⟨nofun, .inl rfl⟩

/-- Finalizing a batch: the active set and the stamp of the last snapshot stay as they are and the
failure is structural, or the active set has the totals of the projection, which are within the
limits. -/
theorem Tidy.complete (h : Tidy policy) (hmessage : message.Admissible)
    (hstamp : stampNs message.header = some completed) :
  ((policy.complete (batchOf message) completed).1.reason = .fatalStructuralInput ∧
    (policy.complete (batchOf message) completed).2 = policy) ∨
  ((policy.complete (batchOf message) completed).1.reason ≠ .fatalStructuralInput ∧
    (policy.complete (batchOf message) completed).2.activePairs =
      updateActive policy.activePairs (batchOf message) completed
        (expiredPairs policy.activePairs (batchOf message) completed) ∧
    (policy.complete (batchOf message) completed).2.pendingBatch = policy.pendingBatch ∧
    (project policy.activePairs (batchOf message) completed).pairCount ≤ kMaxActiveContactPairs ∧
    (project policy.activePairs (batchOf message) completed).recordCount ≤
      kMaxActiveContactRecords ∧
    (project policy.activePairs (batchOf message) completed).stringBytes ≤ kMaxActiveStringBytes)
  := by
  have hreceived : message.Received := by
    constructor
    · unfold Contacts.stamp
      rw [hstamp, Option.getD_some]
    · exact hmessage
  have hcompleted : message.stamp = completed := by
    unfold Contacts.stamp
    rw [hstamp, Option.getD_some]
  obtain ⟨hchecked, hcounts⟩ := h.projected hmessage completed
  unfold ContactStreamPolicy.complete
  split
  · exact .inl ⟨rfl, rfl⟩
  · dsimp only
    split
    · exact .inl ⟨rfl, rfl⟩
    · split
      · exact .inl ⟨rfl, rfl⟩
      · split
        · exact .inl ⟨rfl, rfl⟩
        · rename_i hpairs hrecords hbytes
          rw [gt_iff_lt, not_lt] at hpairs hrecords hbytes
          rw [project_expired]
          have hnonempty : (nextActive policy message).toList.flatMap (fun e => e.2.records) ≠ [] :=
            nextActive_records_ne_nil hreceived
          have hcount : ((nextActive policy message).toList.flatMap fun e => e.2.records).length ≤
              kMaxActiveContactRecords := by
            rw [length_flatMap_records, nextActive, hcompleted, ← hcounts.records]
            exact hrecords
          unfold nextActive at hnonempty hcount
          rw [hcompleted] at hnonempty hcount
          right
          obtain ⟨hreason, houtput⟩ := forward_output
            { policy with
              activePairs := updateActive policy.activePairs (batchOf message) completed
                (expiredPairs policy.activePairs (batchOf message) completed) }
            (batchOf message) completed (project policy.activePairs (batchOf message) completed)
          rcases houtput with hnone | hsome
          · rw [publish_of_none hnone]
            exact ⟨hreason, rfl, rfl, hpairs, hrecords, hbytes⟩
          · rw [publish_of_some hsome hnonempty hcount]
            exact ⟨hreason, rfl, rfl, hpairs, hrecords, hbytes⟩

/-- The active set stays within its limits when a batch is finalized. -/
theorem Tidy.complete_tidy (h : Tidy policy) (hmessage : message.Admissible)
    (hstamp : stampNs message.header = some completed) (hpending : policy.pendingBatch = none) :
  Tidy (policy.complete (batchOf message) completed).2
  := by
  obtain ⟨-, hcounts⟩ := h.projected hmessage completed
  rcases h.complete hmessage hstamp with
    ⟨-, hsame⟩ | ⟨-, hactive, hbatch, hpairs, hrecords, hbytes⟩
  · rw [hsame]
    exact h
  · constructor
    · rw [hactive, size_eq_total, ← hcounts.pairs]
      exact hpairs
    · rw [hactive, ← hcounts.records]
      exact hrecords
    · rw [hactive, ← hcounts.bytes]
      exact hbytes
    · rw [hactive]
      intro p a ha
      exact h.exact_next completed ha
    · rw [hbatch, hpending]
      intro batch hnone
      cases hnone

/-- A policy without its pending batch. -/
theorem Tidy.take (h : Tidy policy) :
  Tidy { policy with pendingBatch := none }
  where
  pairs := h.pairs
  records := h.records
  bytes := h.bytes
  exact := h.exact
  pending _ hnone := nomatch hnone

theorem Tidy.finalize (h : Tidy policy) :
  Tidy policy.finalizePending.2
  := by
  have htake := h.take
  unfold ContactStreamPolicy.finalizePending
  split
  · exact h
  · rename_i batch hbatch
    obtain ⟨message, hmessage, rfl⟩ := h.pending batch hbatch
    dsimp only
    split
    · exact htake
    · rename_i completed hstamp
      split
      · exact htake.complete_tidy hmessage hstamp rfl
      · split
        · exact htake
        · exact ⟨h.pairs, h.records, h.bytes, h.exact, htake.pending⟩

theorem tidy_initial :
  Tidy ({} : ContactStreamPolicy F64)
  where
  pairs := Nat.zero_le _
  records := by
    rw [SortedMap.total_empty]
    apply Nat.zero_le
  bytes := by
    rw [SortedMap.total_empty]
    apply Nat.zero_le
  exact p a ha := by simp at ha
  pending _ hnone := nomatch hnone

theorem Tidy.observe (h : Tidy policy) (message : Contacts F64) :
  Tidy (policy.observe message).2
  := by
  unfold ContactStreamPolicy.observe
  split
  · exact h
  · rename_i incoming hheader
    split
    · exact h
    · rename_i validated hvalidated
      obtain ⟨-, -, -, hframe⟩ := checkHeader_eq_ok_iff.mp hheader
      rw [validateMessage_eq_ok_iff] at hvalidated
      · obtain ⟨hmessage, rfl⟩ := hvalidated
        have hfinalized := h.finalize
        dsimp only
        split
        · exact hfinalized
        · refine ⟨hfinalized.pairs, hfinalized.records, hfinalized.bytes, hfinalized.exact, ?_⟩
          intro batch hbatch
          exact ⟨message, hmessage, (Option.some.inj hbatch).symm⟩
      · rw [hframe]
        exact Nat.zero_le _

theorem Tidy.clock (h : Tidy policy) (stamp : Int) :
  Tidy (policy.observeClock stamp).2
  := by
  unfold ContactStreamPolicy.observeClock
  split
  · exact h
  · split
    · exact h
    · dsimp only
      split
      · exact ⟨h.pairs, h.records, h.bytes, h.exact, h.pending⟩
      · exact ⟨h.pairs, h.records, h.bytes, h.exact, h.pending⟩

/-- Every state that the gate reaches, whether it has failed or not. -/
theorem tidy_of_run {trace : GateTrace F64} (h : Run ContactStreamPolicy.step {} trace policy) :
  Tidy policy
  := by
  have hstep : ∀ (policy : ContactStreamPolicy F64) call d policy', Tidy policy →
      policy.step call = .ok (d, policy') → Tidy policy' := by
    intro policy call d policy' htidy hcall
    cases call with
    | observe message =>
        have hobserve := htidy.observe message
        rw [Except.ok.inj hcall] at hobserve
        exact hobserve
    | clock stamp =>
        have hclock := htidy.clock stamp
        rw [Except.ok.inj hcall] at hclock
        exact hclock
  exact Run.invariant hstep h tidy_initial

end States

/-! ### Exact bookkeeping -/

section Bookkeeping

variable [Binary64Tests F64]

/-- The bytes of the texts of an active pair, counted in its records. -/
def recordedBytes (entry : ContactPair × ActivePair F64) : Nat :=
  (entry.2.records.map Contact.stringBytes).sum + pairKeyStringBytes entry.1

/-- The bookkeeping of finalizing the pending batch. No size wraps in the projection; when the batch
is committed the projected numbers are the totals of the active set, also when the bytes are counted
in the records; the totals are within the limits; and a structural failure changes neither the
active set nor the stamp of the last snapshot. -/
structure Bookkeeping (policy : ContactStreamPolicy F64) : Prop where
  noWrap : ∀ batch completed, policy.pendingBatch = some batch →
    stampNs batch.header = some completed →
    project? policy.activePairs batch completed = some (project policy.activePairs batch completed)
  committed : ∀ batch completed, policy.pendingBatch = some batch →
    stampNs batch.header = some completed → policy.synchronized = true →
    policy.finalizePending.1.reason ≠ .fatalStructuralInput →
    (project policy.activePairs batch completed).pairCount =
      policy.finalizePending.2.activePairs.size ∧
    (project policy.activePairs batch completed).recordCount =
      SortedMap.total (fun e => e.2.records.length) policy.finalizePending.2.activePairs ∧
    (project policy.activePairs batch completed).stringBytes =
      SortedMap.total activeBytes policy.finalizePending.2.activePairs ∧
    (project policy.activePairs batch completed).stringBytes =
      SortedMap.total recordedBytes policy.finalizePending.2.activePairs
  bounded : policy.finalizePending.2.activePairs.size ≤ 16 ∧
    SortedMap.total (fun e => e.2.records.length) policy.finalizePending.2.activePairs ≤ 16 ∧
    SortedMap.total recordedBytes policy.finalizePending.2.activePairs ≤ 65536
  atomic : policy.finalizePending.1.reason = .fatalStructuralInput →
    policy.finalizePending.2.activePairs = policy.activePairs ∧
      policy.finalizePending.2.lastForwardStampNs = policy.lastForwardStampNs

variable {policy : ContactStreamPolicy F64}

/-- The stored bytes are those counted in the records. -/
theorem Tidy.total_recordedBytes (h : Tidy policy) :
  SortedMap.total recordedBytes policy.activePairs = SortedMap.total activeBytes policy.activePairs
  := by
  apply Nat.le_antisymm
  · apply SortedMap.total_le_total
    intro p a ha
    unfold recordedBytes activeBytes
    rw [h.exact p a ha]
  · apply SortedMap.total_le_total
    intro p a ha
    unfold recordedBytes activeBytes
    rw [h.exact p a ha]

/-- The bookkeeping is exact in every state that the gate reaches. -/
theorem gate_bookkeeping {trace : GateTrace F64}
    (h : Run ContactStreamPolicy.step {} trace policy) :
  Bookkeeping policy
  := by
  have htidy := tidy_of_run h
  have hfinalized := htidy.finalize
  constructor
  · intro batch completed hbatch _
    obtain ⟨message, hmessage, rfl⟩ := htidy.pending batch hbatch
    exact (htidy.projected hmessage completed).1
  · intro batch completed hbatch hstamp hsynchronized hreason
    obtain ⟨message, hmessage, rfl⟩ := htidy.pending batch hbatch
    have hcounts := (htidy.projected hmessage completed).2
    rw [hfinalized.total_recordedBytes, size_eq_total]
    have hfinalize : policy.finalizePending =
        ContactStreamPolicy.complete { policy with pendingBatch := none }
          (batchOf message) completed := by
      unfold ContactStreamPolicy.finalizePending
      rw [hbatch]
      dsimp only
      rw [hstamp]
      dsimp only
      rw [if_pos hsynchronized]
    rw [hfinalize] at hreason ⊢
    rcases htidy.take.complete hmessage hstamp with ⟨hstructural, -⟩ | ⟨-, hactive, -⟩
    · exact absurd hstructural hreason
    · rw [hactive]
      exact ⟨hcounts.pairs, hcounts.records, hcounts.bytes, hcounts.bytes⟩
  · rw [hfinalized.total_recordedBytes]
    exact ⟨hfinalized.pairs, hfinalized.records, hfinalized.bytes⟩
  · intro hreason
    unfold ContactStreamPolicy.finalizePending at hreason ⊢
    split
    · exact ⟨rfl, rfl⟩
    · rename_i batch hbatch
      obtain ⟨message, hmessage, rfl⟩ := htidy.pending batch hbatch
      rw [hbatch] at hreason
      dsimp only at hreason ⊢
      split
      · exact ⟨rfl, rfl⟩
      · rename_i completed hstamp
        rw [hstamp] at hreason
        dsimp only at hreason
        split
        · rename_i hsynchronized
          rw [if_pos hsynchronized] at hreason
          rcases htidy.take.complete hmessage hstamp with ⟨-, hsame⟩ | ⟨hother, -⟩
          · rw [hsame]
            exact ⟨rfl, rfl⟩
          · exact absurd hreason hother
        · split
          · exact ⟨rfl, rfl⟩
          · exact ⟨rfl, rfl⟩

end Bookkeeping

/-- A run that ends with a pending batch after the gate has synchronized. -/
theorem gate_bookkeeping_sample :
  ∃ (trace : GateTrace ℚ) (policy : ContactStreamPolicy ℚ),
    Run ContactStreamPolicy.step {} trace policy ∧
    policy.pendingBatch.isSome = true ∧ policy.synchronized = true ∧ Bookkeeping policy
  := by
  cases hexec : Run.exec ContactStreamPolicy.step ({} : ContactStreamPolicy ℚ) sampleCalls with
  | error e => cases e
  | ok r =>
      obtain ⟨trace, policy⟩ := r
      have hrun := (Run.of_exec hexec).1
      have hstate : (Run.exec ContactStreamPolicy.step ({} : ContactStreamPolicy ℚ)
          sampleCalls).toOption.map (fun r => (r.2.pendingBatch.isSome, r.2.synchronized)) =
          some (true, true) := by
        decide +kernel
      rw [hexec] at hstate
      obtain ⟨hpending, hsynchronized⟩ := Prod.mk.inj (Option.some.inj hstate)
      exact ⟨trace, policy, hrun, hpending, hsynchronized, gate_bookkeeping hrun⟩

end Ros

end Collisions

end RobotestLab
