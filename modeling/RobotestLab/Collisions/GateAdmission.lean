import RobotestLab.Collisions.Gate

/-!
# Admissible messages

What the gate checks of a message, as conditions on its data. The gate accepts exactly the messages
that meet them, and what it retains of a message is a function of the message: the groups of its
pairs, the bytes of its texts, and the first reason against one of its pairs.
-/

namespace RobotestLab

namespace Collisions

namespace Ros

open Binary64Tests

variable {F64 : Type}

/-! ### Contacts -/

/-- The bytes of the texts of an entry of the arrays of details. -/
def detailBytes (entry : Vector3 F64 × F64 × JointWrench F64) : Nat :=
  entry.2.2.header.frameId.utf8ByteSize +
    (entry.2.2.body1Name.utf8ByteSize + entry.2.2.body2Name.utf8ByteSize)

/-- The bytes of the texts of a contact. -/
def Contact.stringBytes (contact : Contact F64) : Nat :=
  contact.collision1.name.utf8ByteSize + contact.collision2.name.utf8ByteSize +
    (contact.details.map detailBytes).sum

/-- Both totals grow by a size. -/
def StringBytes.plus (bytes : StringBytes) (size : Nat) : StringBytes where
  contact := bytes.contact + size
  message := bytes.message + size

theorem StringBytes.plus_plus (bytes : StringBytes) (size size' : Nat) :
  (bytes.plus size).plus size' = bytes.plus (size + size')
  := by
  simp only [plus, Nat.add_assoc]

variable {bytes bytes' : StringBytes}

theorem chargeStrings_eq_ok_iff {error : GateDetail} {sizes : List Nat}
    (hcontact : bytes.contact ≤ kMaxContactStringBytes)
    (hmessage : bytes.message ≤ kMaxMessageStringBytes) :
  sizes.foldlM (chargeString error) bytes = .ok bytes' ↔
    (bytes.contact + sizes.sum ≤ kMaxContactStringBytes ∧
      bytes.message + sizes.sum ≤ kMaxMessageStringBytes) ∧
    bytes' = bytes.plus sizes.sum
  := by
  apply Except.foldlM_eq_ok_iff
    (F := fun sizes => bytes.plus sizes.sum)
    (P := fun sizes => bytes.contact + sizes.sum ≤ kMaxContactStringBytes ∧
      bytes.message + sizes.sum ≤ kMaxMessageStringBytes)
  · exact ⟨hcontact, hmessage⟩
  · intro l size h
    rw [List.sum_append] at h
    omega
  · intro l size bytes' h
    unfold chargeString
    simp only [Except.bind_eq_ok_iff, charge_eq_ok_iff, Except.ok.injEq, List.sum_append,
      List.sum_cons, List.sum_nil, Nat.add_zero, StringBytes.plus, Nat.add_assoc]
    constructor
    · rintro ⟨contact, ⟨hcontact, rfl⟩, message, ⟨hmessage, rfl⟩, rfl⟩
      exact ⟨⟨hcontact, hmessage⟩, rfl⟩
    · rintro ⟨⟨hcontact, hmessage⟩, rfl⟩
      exact ⟨_, ⟨hcontact, rfl⟩, _, ⟨hmessage, rfl⟩, rfl⟩

theorem chargeKey_eq_ok_iff {inserted : Bool} {bytes total : Nat} {pair : ContactPair}
    (h : bytes ≤ kMaxMessageStringBytes) :
  chargeKey inserted bytes pair = .ok total ↔
    bytes + (if inserted then pairKeyStringBytes pair else 0) ≤ kMaxMessageStringBytes ∧
    total = bytes + (if inserted then pairKeyStringBytes pair else 0)
  := by
  unfold chargeKey
  cases inserted with
  | false =>
      simp only [Bool.false_eq_true, if_false, Except.ok.injEq, Nat.add_zero]
      exact ⟨fun heq => ⟨h, heq.symm⟩, fun heq => heq.2.symm⟩
  | true => exact charge_eq_ok_iff

variable [Binary64Tests F64]

/-- The conditions on an entry of the arrays of details. -/
structure DetailAdmissible (entry : Vector3 F64 × F64 × JointWrench F64) : Prop where
  normal : finiteVector entry.1 = true
  depth : isFinite entry.2.1 = true
  nonnegative : isNegative entry.2.1 = false
  stamp : validStamp entry.2.2.header.stamp = true
  frameId : entry.2.2.header.frameId.utf8ByteSize ≤ kMaxFrameIdBytes
  body1Name : entry.2.2.body1Name.utf8ByteSize ≤ kMaxBodyNameBytes
  body2Name : entry.2.2.body2Name.utf8ByteSize ≤ kMaxBodyNameBytes
  body1Wrench : finiteWrench entry.2.2.body1Wrench = true
  body2Wrench : finiteWrench entry.2.2.body2Wrench = true

/-- The conditions on a contact. -/
structure Contact.Admissible (contact : Contact F64) : Prop where
  names : contact.collision1.name.utf8ByteSize ≤ kMaxCollisionNameBytes ∧
    contact.collision2.name.utf8ByteSize ≤ kMaxCollisionNameBytes
  positions : 0 < contact.positions.length ∧
    contact.positions.length ≤ kMaxContactPointsPerRecord
  aligned : contact.normals.length ≤ contact.positions.length ∧
    contact.depths.length = contact.normals.length ∧
    contact.wrenches.length = contact.normals.length
  finite : ∀ v ∈ contact.positions, finiteVector v = true
  details : ∀ entry ∈ contact.details, DetailAdmissible entry
  strings : contact.stringBytes ≤ kMaxContactStringBytes

theorem validateDetail_eq_ok_iff {entry : Vector3 F64 × F64 × JointWrench F64}
    (hcontact : bytes.contact ≤ kMaxContactStringBytes)
    (hmessage : bytes.message ≤ kMaxMessageStringBytes) :
  validateDetail bytes entry = .ok bytes' ↔
    DetailAdmissible entry ∧
    (bytes.contact + detailBytes entry ≤ kMaxContactStringBytes ∧
      bytes.message + detailBytes entry ≤ kMaxMessageStringBytes) ∧
    bytes' = bytes.plus (detailBytes entry)
  := by
  obtain ⟨normal, depth, wrench⟩ := entry
  have hbytes : detailBytes (normal, depth, wrench) = [wrench.header.frameId.utf8ByteSize,
      wrench.body1Name.utf8ByteSize, wrench.body2Name.utf8ByteSize].sum := by
    simp [detailBytes]
  unfold validateDetail
  constructor
  · intro hok
    dsimp only at hok
    split at hok
    · cases hok
    · rename_i hpoint
      split at hok
      · cases hok
      · rename_i hwrench
        rw [chargeStrings_eq_ok_iff hcontact hmessage, ← hbytes] at hok
        simp only [Bool.or_eq_true, Bool.not_eq_eq_eq_not, Bool.not_true, decide_eq_true_eq,
          not_or, Bool.not_eq_false, Bool.not_eq_true, gt_iff_lt, not_lt] at hpoint hwrench
        obtain ⟨⟨hnormal, hdepth⟩, hnonnegative⟩ := hpoint
        obtain ⟨⟨⟨⟨⟨hstamp, hframe⟩, hbody1⟩, hbody2⟩, hwrench1⟩, hwrench2⟩ := hwrench
        exact ⟨⟨hnormal, hdepth, hnonnegative, hstamp, hframe, hbody1, hbody2, hwrench1, hwrench2⟩,
          hok⟩
  · rintro ⟨hadmissible, hsum⟩
    dsimp only
    rw [if_neg, if_neg, chargeStrings_eq_ok_iff hcontact hmessage, ← hbytes]
    · exact hsum
    · simp [hadmissible.stamp, hadmissible.frameId, hadmissible.body1Name, hadmissible.body2Name,
        hadmissible.body1Wrench, hadmissible.body2Wrench]
    · simp [hadmissible.normal, hadmissible.depth, hadmissible.nonnegative]

theorem validateDetails_eq_ok_iff {entries : List (Vector3 F64 × F64 × JointWrench F64)}
    (hcontact : bytes.contact ≤ kMaxContactStringBytes)
    (hmessage : bytes.message ≤ kMaxMessageStringBytes) :
  entries.foldlM validateDetail bytes = .ok bytes' ↔
    ((∀ entry ∈ entries, DetailAdmissible entry) ∧
      bytes.contact + (entries.map detailBytes).sum ≤ kMaxContactStringBytes ∧
      bytes.message + (entries.map detailBytes).sum ≤ kMaxMessageStringBytes) ∧
    bytes' = bytes.plus (entries.map detailBytes).sum
  := by
  apply Except.foldlM_eq_ok_iff
    (F := fun entries => bytes.plus (entries.map detailBytes).sum)
    (P := fun entries => (∀ entry ∈ entries, DetailAdmissible entry) ∧
      bytes.contact + (entries.map detailBytes).sum ≤ kMaxContactStringBytes ∧
      bytes.message + (entries.map detailBytes).sum ≤ kMaxMessageStringBytes)
  · exact ⟨fun entry he => absurd he List.not_mem_nil, hcontact, hmessage⟩
  · rintro l entry ⟨hall, hsum⟩
    rw [List.map_append, List.sum_append] at hsum
    exact ⟨fun e he => hall e (List.mem_append_left _ he), by omega, by omega⟩
  · rintro l entry bytes' ⟨hall, hcontact', hmessage'⟩
    rw [validateDetail_eq_ok_iff hcontact' hmessage', StringBytes.plus_plus]
    simp only [StringBytes.plus, List.mem_append, List.mem_singleton, List.map_append,
      List.sum_append, List.map_cons, List.map_nil, List.sum_cons, List.sum_nil, Nat.add_zero,
      Nat.add_assoc]
    constructor
    · rintro ⟨hentry, hle, heq⟩
      refine ⟨⟨?_, hle⟩, heq⟩
      rintro e (he | rfl)
      · exact hall e he
      · exact hentry
    · rintro ⟨⟨hall', hle⟩, heq⟩
      exact ⟨hall' entry (.inr rfl), hle, heq⟩

variable {contact : Contact F64}

/-- A contact passes exactly when it is admissible and its texts fit into the message. -/
theorem validateContact_eq_ok_iff {messageBytes : Nat}
    {bytes : StringBytes} (h : messageBytes ≤ kMaxMessageStringBytes) :
  validateContact messageBytes contact = .ok bytes ↔
    contact.Admissible ∧ messageBytes + contact.stringBytes ≤ kMaxMessageStringBytes ∧
    bytes = StringBytes.plus ⟨0, messageBytes⟩ contact.stringBytes
  := by
  unfold validateContact
  constructor
  · intro hok
    dsimp only at hok
    split at hok
    · cases hok
    · rename_i hnames
      obtain ⟨names, hcharge, hok⟩ := Except.bind_eq_ok_iff.mp hok
      obtain ⟨⟨hcontact, hmessage⟩, rfl⟩ := (chargeStrings_eq_ok_iff (Nat.zero_le _) h).mp hcharge
      split at hok
      · cases hok
      · rename_i harrays
        split at hok
        · cases hok
        · rename_i hfinite
          obtain ⟨⟨hdetails, hcontact', hmessage'⟩, rfl⟩ :=
            (validateDetails_eq_ok_iff hcontact hmessage).mp hok
          simp only [StringBytes.plus, List.sum_cons, List.sum_nil, Nat.zero_add,
            Nat.add_zero] at hcontact' hmessage'
          simp only [Bool.or_eq_true, decide_eq_true_eq, not_or, gt_iff_lt, not_lt, ne_eq,
            not_not] at hnames harrays
          obtain ⟨⟨⟨⟨hpositive, hcount⟩, hnormal⟩, hdepth⟩, hwrench⟩ := harrays
          rw [Bool.not_eq_true', Bool.not_eq_false] at hfinite
          refine ⟨⟨hnames, ⟨Nat.pos_of_ne_zero hpositive, hcount⟩, ⟨hnormal, hdepth, hwrench⟩,
            List.all_eq_true.mp hfinite, hdetails, hcontact'⟩, ?_, ?_⟩
          · unfold Contact.stringBytes
            omega
          · rw [StringBytes.plus_plus]
            simp only [List.sum_cons, List.sum_nil, Nat.add_zero, Contact.stringBytes]
  · rintro ⟨hadmissible, hmessage, rfl⟩
    have hstrings := hadmissible.strings
    unfold Contact.stringBytes at hstrings hmessage
    dsimp only
    rw [if_neg]
    · apply Except.bind_eq_ok_iff.mpr
      refine ⟨_, (chargeStrings_eq_ok_iff (Nat.zero_le _) h).mpr ⟨⟨?_, ?_⟩, rfl⟩, ?_⟩
      · simp only [List.sum_cons, List.sum_nil]
        omega
      · simp only [List.sum_cons, List.sum_nil]
        omega
      · rw [if_neg, if_neg]
        · simp only [List.sum_cons, List.sum_nil, Nat.add_zero]
          have hcontact' := Nat.le_trans (Nat.le_add_right _ _) hstrings
          apply (validateDetails_eq_ok_iff ?_ ?_).mpr
          · refine ⟨⟨hadmissible.details, ?_, ?_⟩, ?_⟩
            · simp only [StringBytes.plus]
              omega
            · simp only [StringBytes.plus]
              omega
            · rw [StringBytes.plus_plus]
              rfl
          · simp only [StringBytes.plus]
            omega
          · simp only [StringBytes.plus]
            omega
        · rw [Bool.not_eq_true', Bool.not_eq_false]
          exact List.all_eq_true.mpr hadmissible.finite
        · have hpositions := List.ne_nil_of_length_pos hadmissible.positions.1
          simp [hpositions, hadmissible.positions.2, hadmissible.aligned.1,
            hadmissible.aligned.2.1, hadmissible.aligned.2.2]
    · simp [hadmissible.names.1, hadmissible.names.2]

/-! ### Messages -/

/-- How the contacts of a message are grouped. -/
def messageGrouping : Grouping (Contact F64) (Contact F64) where
  pair := Contact.pair
  bytes := Contact.stringBytes
  keep := id

/-- The bytes of the pairs of a list of contacts. -/
def keyBytes (contacts : List (Contact F64)) : Nat :=
  SortedMap.total (fun e => pairKeyStringBytes e.1) (messageGrouping.groups contacts)

/-- The reason against the pair of a contact. -/
def Contact.semanticDetail (contact : Contact F64) : Option GateDetail :=
  Ros.semanticDetail (classifyPair contact.collision1.name contact.collision2.name)

/-- What is retained of the contacts of a message. -/
def validatedOf (message : Contacts F64) (contacts : List (Contact F64)) :
    ValidatedMessage F64 where
  pairs := messageGrouping.groups contacts
  recordCount := message.contacts.length
  stringBytes := message.header.frameId.utf8ByteSize +
    ((contacts.map Contact.stringBytes).sum + keyBytes contacts)
  semanticFatal := contacts.any fun contact => contact.semanticDetail.isSome
  fatalDetail := contacts.findSome? Contact.semanticDetail

/-- The conditions on a message. -/
structure Contacts.Admissible (message : Contacts F64) : Prop where
  nonempty : message.contacts ≠ []
  records : message.contacts.length ≤ kMaxRawContactRecords
  contacts : ∀ contact ∈ message.contacts, contact.Admissible
  pairs : messageGrouping.Within kMaxContactRecordsPerPair kMaxContactStringBytes message.contacts
  strings : message.header.frameId.utf8ByteSize + ((message.contacts.map Contact.stringBytes).sum +
    keyBytes message.contacts) ≤ kMaxMessageStringBytes

variable {contacts : List (Contact F64)}

omit [Binary64Tests F64] in
theorem keyBytes_concat :
  keyBytes (contacts ++ [contact]) = keyBytes contacts +
    if (messageGrouping.groups contacts)[contact.pair]?.isNone then pairKeyStringBytes contact.pair
    else 0
  := by
  have hinsert := SortedMap.total_insert
    (f := fun (e : ContactPair × RecordGroup (Contact F64)) => pairKeyStringBytes e.1)
    (messageGrouping.groups contacts) contact.pair
    (messageGrouping.group (messageGrouping.recordsOf contact.pair contacts ++ [contact]))
  unfold keyBytes
  rw [Grouping.groups_concat]
  change _ = _ at hinsert
  cases hold : (messageGrouping.groups contacts)[contact.pair]? with
  | none =>
      rw [hold, Option.elim_none, Nat.add_zero] at hinsert
      exact hinsert
  | some old =>
      rw [hold, Option.elim_some] at hinsert
      exact Nat.add_right_cancel hinsert

/-- The bytes that a contact adds to those of the contacts before it. -/
def Contact.addedBytes (contacts : List (Contact F64)) (contact : Contact F64) : Nat :=
  contact.stringBytes +
    if (messageGrouping.groups contacts)[contact.pair]?.isNone then pairKeyStringBytes contact.pair
    else 0

variable {message : Contacts F64}

omit [Binary64Tests F64] in
theorem validatedOf_concat :
  validatedOf message (contacts ++ [contact]) =
    { validatedOf message contacts with
      pairs := messageGrouping.groups (contacts ++ [contact])
      stringBytes := (validatedOf message contacts).stringBytes + contact.addedBytes contacts
      semanticFatal := (validatedOf message contacts).semanticFatal || contact.semanticDetail.isSome
      fatalDetail := (validatedOf message contacts).fatalDetail.or contact.semanticDetail }
  := by
  have hstring : (validatedOf message (contacts ++ [contact])).stringBytes =
      (validatedOf message contacts).stringBytes + contact.addedBytes contacts := by
    simp only [validatedOf, Contact.addedBytes, keyBytes_concat, List.map_append, List.sum_append,
      List.map_cons, List.map_nil, List.sum_cons, List.sum_nil]
    omega
  rw [← hstring]
  simp [validatedOf]

/-- A contact is added exactly when it is admissible, its pair has room for it, and its texts fit
into the message. -/
theorem validateRecord_eq_ok_iff {validated : ValidatedMessage F64}
    (hwithin : messageGrouping.Within kMaxContactRecordsPerPair kMaxContactStringBytes contacts)
    (hsum : (validatedOf message contacts).stringBytes ≤ kMaxMessageStringBytes) :
  validateRecord (validatedOf message contacts) contact = .ok validated ↔
    contact.Admissible ∧
    (validatedOf message contacts).stringBytes + contact.addedBytes contacts ≤
      kMaxMessageStringBytes ∧
    messageGrouping.Within kMaxContactRecordsPerPair kMaxContactStringBytes
      (contacts ++ [contact]) ∧
    validated = validatedOf message (contacts ++ [contact])
  := by
  have hpairs : (validatedOf message contacts).pairs = messageGrouping.groups contacts := rfl
  unfold validateRecord
  rw [validatedOf_concat, hpairs]
  simp only [Except.bind_eq_ok_iff, validateContact_eq_ok_iff hsum]
  constructor
  · rintro ⟨bytes, ⟨hadmissible, hmessage, rfl⟩, total, hkey, pairs, hadmit, heq⟩
    obtain ⟨htotal, rfl⟩ := (chargeKey_eq_ok_iff hmessage).mp hkey
    simp only [StringBytes.plus, Nat.zero_add] at hadmit
    obtain ⟨hwithin', rfl⟩ := (Grouping.admitRecord_groups hwithin).mp hadmit
    rw [Nat.add_assoc] at htotal
    refine ⟨hadmissible, htotal, hwithin', ?_⟩
    rw [← Except.ok.inj heq]
    simp only [Contact.addedBytes, Nat.add_assoc]
    rfl
  · rintro ⟨hadmissible, htotal, hwithin', rfl⟩
    have hmessage : (validatedOf message contacts).stringBytes + contact.stringBytes ≤
        kMaxMessageStringBytes := by
      unfold Contact.addedBytes at htotal
      omega
    refine ⟨_, ⟨hadmissible, hmessage, rfl⟩, _, (chargeKey_eq_ok_iff hmessage).mpr ⟨?_, rfl⟩,
      messageGrouping.groups (contacts ++ [contact]), ?_, ?_⟩
    · unfold Contact.addedBytes at htotal
      rw [Nat.add_assoc]
      exact htotal
    · simp only [StringBytes.plus, Nat.zero_add]
      exact (Grouping.admitRecord_groups hwithin).mpr ⟨hwithin', rfl⟩
    · simp only [Contact.addedBytes, Nat.add_assoc]
      rfl

/-- The messages that pass are the admissible ones. -/
theorem validateMessage_eq_ok_iff {validated : ValidatedMessage F64}
    (hframe : message.header.frameId.utf8ByteSize ≤ kMaxMessageStringBytes) :
  validateMessage message = .ok validated ↔
    message.Admissible ∧ validated = validatedOf message message.contacts
  := by
  have hloop : message.contacts.foldlM validateRecord (validatedOf message []) = .ok validated ↔
      ((∀ contact ∈ message.contacts, contact.Admissible) ∧
        messageGrouping.Within kMaxContactRecordsPerPair kMaxContactStringBytes message.contacts ∧
        (validatedOf message message.contacts).stringBytes ≤ kMaxMessageStringBytes) ∧
      validated = validatedOf message message.contacts := by
    apply Except.foldlM_eq_ok_iff (F := validatedOf message)
      (P := fun contacts => (∀ contact ∈ contacts, contact.Admissible) ∧
        messageGrouping.Within kMaxContactRecordsPerPair kMaxContactStringBytes contacts ∧
        (validatedOf message contacts).stringBytes ≤ kMaxMessageStringBytes)
    · exact ⟨fun entry he => absurd he List.not_mem_nil, Grouping.Within.nil, hframe⟩
    · rintro l contact ⟨hall, hwithin, hsum⟩
      rw [validatedOf_concat] at hsum
      exact ⟨fun e he => hall e (List.mem_append_left _ he), hwithin.of_append,
        Nat.le_trans (Nat.le_add_right _ _) hsum⟩
    · rintro l contact validated ⟨hall, hwithin, hsum⟩
      rw [validateRecord_eq_ok_iff hwithin hsum]
      simp only [List.mem_append, List.mem_singleton]
      constructor
      · rintro ⟨hadmissible, htotal, hwithin', heq⟩
        refine ⟨⟨?_, hwithin', ?_⟩, heq⟩
        · rintro e (he | rfl)
          · exact hall e he
          · exact hadmissible
        · rw [validatedOf_concat]
          exact htotal
      · rintro ⟨⟨hall', hwithin', hsum'⟩, heq⟩
        rw [validatedOf_concat] at hsum'
        exact ⟨hall' contact (.inr rfl), hsum', hwithin', heq⟩
  have hinitial : validatedOf message [] =
      { recordCount := message.contacts.length
        stringBytes := message.header.frameId.utf8ByteSize } := rfl
  rw [hinitial] at hloop
  unfold validateMessage
  split
  · rename_i hempty
    rw [List.isEmpty_iff] at hempty
    simp only [reduceCtorEq, false_iff]
    rintro ⟨hadmissible, -⟩
    exact hadmissible.nonempty hempty
  · rename_i hempty
    rw [List.isEmpty_iff] at hempty
    split
    · rename_i hrecords
      simp only [reduceCtorEq, false_iff]
      rintro ⟨hadmissible, -⟩
      exact absurd hadmissible.records (Nat.not_le.mpr hrecords)
    · rename_i hrecords
      rw [hloop]
      constructor
      · rintro ⟨⟨hcontacts, hpairs, hstrings⟩, heq⟩
        exact ⟨⟨hempty, Nat.not_lt.mp hrecords, hcontacts, hpairs, hstrings⟩, heq⟩
      · rintro ⟨hadmissible, heq⟩
        exact ⟨⟨hadmissible.contacts, hadmissible.pairs, hadmissible.strings⟩, heq⟩

end Ros

end Collisions

end RobotestLab
