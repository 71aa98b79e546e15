import RobotestLab.Collisions.Messages
import RobotestLab.Library.Checked

/-!
# Records grouped by pair

Contact records are collected into one group for each pair of collisions. A group keeps the bytes of
its texts and its records in the order of their arrival. A group admits no more than a number of
records and of bytes, so collecting a list of records succeeds exactly when no pair has too many of
either in the whole list.
-/

namespace RobotestLab

namespace Collisions

/-- The records of one pair: `ContactGroup` of the aggregator and `ContactRecords` of the gate. -/
structure RecordGroup (R : Type) where
  stringBytes : Nat := 0
  records : List R := []
  deriving DecidableEq, Repr

variable {ε A R : Type}

/-- Add a record to the group of its pair, which is created by its first record. -/
def admitRecord (tooMany tooLong : ε) (maxRecords maxBytes : Nat) (groups : PairMap (RecordGroup R))
    (pair : ContactPair) (bytes : Nat) (record : R) : Except ε (PairMap (RecordGroup R)) :=
  let group := groups[pair]?.getD {}
  if group.records.length ≥ maxRecords then .error tooMany
  else do
    let stringBytes ← charge tooLong maxBytes group.stringBytes bytes
    .ok (groups.insert pair { stringBytes, records := group.records ++ [record] })

/-! ### Groups of a list -/

/-- How records are collected: the pair, the bytes, and what is kept of a record. -/
structure Grouping (A R : Type) where
  pair : A → ContactPair
  bytes : A → Nat
  keep : A → R

namespace Grouping

variable (G : Grouping A R)

/-- The records of a pair, in order. -/
def recordsOf (p : ContactPair) (l : List A) : List A :=
  l.filter (fun a => G.pair a = p)

/-- The group of a list of records of one pair. -/
def group (own : List A) : RecordGroup R where
  stringBytes := (own.map G.bytes).sum
  records := own.map G.keep

/-- The groups of the pairs of a list. -/
def groups (l : List A) : PairMap (RecordGroup R) :=
  l.foldl (fun groups a =>
    groups.insert (G.pair a) (G.group (G.recordsOf (G.pair a) l))) ∅

variable {G} {p : ContactPair} {l l' : List A} {a : A}

@[simp]
theorem recordsOf_append :
  G.recordsOf p (l ++ l') = G.recordsOf p l ++ G.recordsOf p l'
  := by
  apply List.filter_append

theorem recordsOf_eq_nil_iff :
  G.recordsOf p l = [] ↔ ∀ a ∈ l, G.pair a ≠ p
  := by
  simp [recordsOf]

theorem recordsOf_singleton :
  G.recordsOf p [a] = if G.pair a = p then [a] else []
  := by
  simp [recordsOf, List.filter_cons]

/-- A pair has a group when a record of the list is about it, and the group has all these
records. -/
theorem getElem?_groups :
  (G.groups l)[p]? =
    if G.recordsOf p l = [] then none else some (G.group (G.recordsOf p l))
  := by
  have hfold : ∀ (seen : List A) (m : PairMap (RecordGroup R)),
      (seen.foldl (fun groups a =>
        groups.insert (G.pair a) (G.group (G.recordsOf (G.pair a) l))) m)[p]? =
      if G.recordsOf p seen = [] then m[p]? else some (G.group (G.recordsOf p l)) := by
    intro seen
    induction seen using List.reverseRecOn with
    | nil =>
        intro m
        rfl
    | append_singleton seen a ih =>
        intro m
        rw [List.foldl_append, List.foldl_cons, List.foldl_nil, SortedMap.getElem?_insert_eq, ih,
          recordsOf_append, recordsOf_singleton]
        split
        · subst p
          simp
        · simp
  unfold groups
  rw [hfold]
  simp

theorem groups_nil :
  G.groups [] = ∅
  := rfl

theorem groups_concat :
  G.groups (l ++ [a]) =
    (G.groups l).insert (G.pair a) (G.group (G.recordsOf (G.pair a) l ++ [a]))
  := by
  apply Std.ExtTreeMap.ext_getElem?
  intro p
  rw [SortedMap.getElem?_insert_eq, getElem?_groups, getElem?_groups, recordsOf_append,
    recordsOf_singleton]
  split
  · subst p
    simp
  · simp

theorem getElem?_groups_getD :
  (G.groups l)[p]?.getD {} = G.group (G.recordsOf p l)
  := by
  rw [getElem?_groups]
  split
  · rename_i h
    rw [h]
    rfl
  · rfl

theorem group_concat :
  G.group (l ++ [a]) =
    { stringBytes := (G.group l).stringBytes + G.bytes a,
      records := (G.group l).records ++ [G.keep a] }
  := by
  simp [group]

/-! ### Bounded groups -/

/-- No pair has more records or more bytes than a group admits. -/
def Within (G : Grouping A R) (maxRecords maxBytes : Nat) (l : List A) : Prop :=
  ∀ p, (G.recordsOf p l).length ≤ maxRecords ∧ ((G.recordsOf p l).map G.bytes).sum ≤ maxBytes

variable {maxRecords maxBytes : Nat}

theorem Within.nil :
  G.Within maxRecords maxBytes []
  := by
  intro p
  simp [recordsOf]

theorem Within.of_append (h : G.Within maxRecords maxBytes (l ++ l')) :
  G.Within maxRecords maxBytes l
  := by
  intro p
  obtain ⟨hrecords, hbytes⟩ := h p
  rw [recordsOf_append, List.length_append] at hrecords
  rw [recordsOf_append, List.map_append, List.sum_append] at hbytes
  omega

theorem Within.concat_iff :
  G.Within maxRecords maxBytes (l ++ [a]) ↔
    G.Within maxRecords maxBytes l ∧
    (G.recordsOf (G.pair a) l).length < maxRecords ∧
    ((G.recordsOf (G.pair a) l).map G.bytes).sum + G.bytes a ≤ maxBytes
  := by
  constructor
  · intro h
    have hpair := h (G.pair a)
    simp only [recordsOf_append, recordsOf_singleton, if_true, List.length_append,
      List.length_singleton, List.map_append, List.sum_append, List.map_cons, List.map_nil,
      List.sum_cons, List.sum_nil] at hpair
    exact ⟨h.of_append, by omega, by omega⟩
  · rintro ⟨hl, hrecords, hbytes⟩ p
    rw [recordsOf_append, recordsOf_singleton]
    split
    · subst p
      simp only [List.length_append, List.length_singleton, List.map_append, List.sum_append,
        List.map_cons, List.map_nil, List.sum_cons, List.sum_nil]
      omega
    · simpa using hl p

/-- A record is admitted exactly when no pair then has too many records or bytes. -/
theorem admitRecord_groups {tooMany tooLong : ε} {m : PairMap (RecordGroup R)}
    (h : G.Within maxRecords maxBytes l) :
  admitRecord tooMany tooLong maxRecords maxBytes (G.groups l) (G.pair a) (G.bytes a) (G.keep a)
      = .ok m ↔
    G.Within maxRecords maxBytes (l ++ [a]) ∧ m = G.groups (l ++ [a])
  := by
  unfold admitRecord
  simp only [getElem?_groups_getD]
  rw [Within.concat_iff, groups_concat, group_concat]
  split
  · rename_i hfull
    rw [group, List.length_map] at hfull
    simp only [reduceCtorEq, false_iff]
    omega
  · rename_i hroom
    rw [group, List.length_map, Nat.not_le] at hroom
    simp only [Except.bind_eq_ok_iff, charge_eq_ok_iff, Except.ok.injEq]
    constructor
    · rintro ⟨bytes, ⟨hbytes, rfl⟩, rfl⟩
      exact ⟨⟨h, hroom, hbytes⟩, rfl⟩
    · rintro ⟨⟨-, -, hbytes⟩, rfl⟩
      exact ⟨_, ⟨hbytes, rfl⟩, rfl⟩

/-! ### Totals -/

/-- A measure that adds up over the records of a group adds up over the whole list. -/
theorem total_groups {f : ContactPair × RecordGroup R → Nat} {weight : A → Nat}
    (hf : ∀ p own, f (p, G.group own) = (own.map weight).sum) :
  SortedMap.total f (G.groups l) = (l.map weight).sum
  := by
  induction l using List.reverseRecOn with
  | nil =>
      rw [groups_nil]
      exact SortedMap.total_empty
  | append_singleton l a ih =>
      have hinsert := SortedMap.total_insert (f := f) (G.groups l) (G.pair a)
        (G.group (G.recordsOf (G.pair a) l ++ [a]))
      have hold : (G.groups l)[G.pair a]?.elim 0 (fun v => f (G.pair a, v)) =
          ((G.recordsOf (G.pair a) l).map weight).sum := by
        rw [getElem?_groups]
        split
        · rename_i hnil
          rw [hnil]
          rfl
        · exact hf _ _
      rw [← groups_concat, hold, ih, hf] at hinsert
      simp only [List.map_append, List.sum_append, List.map_cons, List.map_nil, List.sum_cons,
        List.sum_nil] at hinsert ⊢
      omega

theorem total_records :
  SortedMap.total (fun e => e.2.records.length) (G.groups l) = l.length
  := by
  have htotal : SortedMap.total (fun e => e.2.records.length) (G.groups l) =
      (l.map fun _ => 1).sum := by
    apply total_groups
    intro p own
    simp [group]
  rw [htotal]
  simp

theorem total_stringBytes :
  SortedMap.total (fun e => e.2.stringBytes) (G.groups l) = (l.map G.bytes).sum
  := by
  apply total_groups
  intro p own
  rfl

end Grouping

end Collisions

end RobotestLab
