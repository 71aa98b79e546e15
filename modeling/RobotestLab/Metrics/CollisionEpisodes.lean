import RobotestLab.Metrics.Collisions
import RobotestLab.Library.Checked
import RobotestLab.Library.Occurrence

/-!
# The episodes of the delivered snapshots

The analysis opens an episode with a counterpart model at the first snapshot that has the model
after one that has not, and it opens none after the terminal stamp. Closing an episode moves it and
changes neither its counterpart nor its start, so the episodes that are counted are exactly those
that start during the action.
-/

namespace RobotestLab

namespace Metrics

variable {F64 : Type}

/-! ### Snapshots as evidence -/

/-- The stamp of a delivered snapshot. -/
def messageStamp (message : Evidence) : Int :=
  (PyValue.item "stamp_ns" message).asInteger.getD 0

/-- The counterpart model of a delivered contact that is counted. -/
def contactModel (names : CollisionNames) (contact : PyValue) : Option String :=
  contact.asMapping.bind fun contact =>
    match classifyContactPairResolved names (PyValue.item "collision1" contact)
        (PyValue.item "collision2" contact) with
    | .ok (.counted _ _ counterpartModel) => some counterpartModel
    | _ => none

/-- The contacts of a delivered snapshot. -/
def contactsOf (message : Evidence) : List PyValue :=
  match PyValue.item "contacts" message with
  | .list contacts => contacts
  | _ => []

/-- The counterpart models of a delivered snapshot. -/
def modelsOf (names : CollisionNames) (message : Evidence) : List String :=
  (contactsOf message).filterMap (contactModel names)

/-- An episode starts at the first snapshot with the model after one without it. -/
def SnapshotStart (names : CollisionNames) (messages : List Evidence) (model : String)
    (stamp : Int) : Prop :=
  messages |> Occurs fun before message => messageStamp message = stamp ∧
    model ∈ modelsOf names message ∧
    ∀ previous, before.getLast? = some previous → model ∉ modelsOf names previous

theorem SnapshotStart.mem {names : CollisionNames} {messages : List Evidence}
    {model : String} {stamp : Int}
    (h : SnapshotStart names messages model stamp) :
  ∃ message ∈ messages, messageStamp message = stamp
  := by
  obtain ⟨before, message, after, rfl, hstamp, -⟩ := h
  exact ⟨message, by simp, hstamp⟩

/-! ### The groups of a snapshot -/

section Loop

variable [PyFloat F64] {names : CollisionNames}

/-- A contact adds the model that it counts for. -/
theorem groupContact_keys {index : Nat} {grouped grouped' : Grouped F64} {entry : PyValue × Nat}
    (h : groupContact names index grouped entry = .ok grouped') (model : String) :
  model ∈ grouped'.groups.keys ↔
    contactModel names entry.1 = some model ∨ model ∈ grouped.groups.keys
  := by
  obtain ⟨contact, contactIndex⟩ := entry
  unfold groupContact at h
  dsimp only at h
  split at h
  · cases h
  · rename_i items hitems
    rw [Option.filter_eq_some_iff] at hitems
    obtain ⟨classification, hclassification, h⟩ := Except.bind_eq_ok_iff.mp h
    have hmodel : contactModel names contact =
        match (Except.ok classification : Except MetricError ContactClassification) with
        | .ok (.counted _ _ counterpartModel) => some counterpartModel
        | _ => none := by
      unfold contactModel
      rw [hitems.1, Option.bind_some, hclassification]
    change _ ↔ contactModel names contact = some model ∨ _
    rw [hmodel]
    cases classification with
    | excluded reason =>
        rw [← Except.ok.inj h]
        simp
    | counted robotCollision counterpartCollision counterpartModel =>
        obtain ⟨group, -, h⟩ := Except.bind_eq_ok_iff.mp h
        rw [← Except.ok.inj h]
        dsimp only
        rw [Dict.mem_keys_set, Option.some.injEq, eq_comm]

/-- The models of the groups are those of the contacts. -/
theorem groupContacts_keys {index : Nat} {grouped grouped' : Grouped F64}
    {entries : List (PyValue × Nat)}
    (h : entries.foldlM (groupContact names index) grouped = .ok grouped') (model : String) :
  model ∈ grouped'.groups.keys ↔
    model ∈ (entries.map Prod.fst).filterMap (contactModel names) ∨ model ∈ grouped.groups.keys
  := by
  induction entries generalizing grouped with
  | nil =>
      rw [List.foldlM_nil, Except.pure_eq_ok, Except.ok.injEq] at h
      rw [h]
      simp
  | cons entry entries ih =>
      rw [List.foldlM_cons] at h
      obtain ⟨next, hnext, h⟩ := Except.bind_eq_ok_iff.mp h
      rw [ih h, groupContact_keys hnext]
      simp only [List.map_cons, List.mem_filterMap, List.mem_cons, exists_eq_or_imp]
      rw [or_left_comm, or_assoc]

/-! ### Episodes of the loop -/

/-- The counterpart and the start of an episode. -/
def ContactEvent.key (event : ContactEvent F64) : String × Int :=
  (event.counterpartModel, event.startStampNs)

namespace CollisionLoop

/-- The episodes that were opened, whether they are closed or not. -/
def opened (loop : CollisionLoop F64) : List (String × Int) :=
  loop.events.map (fun event => event.key) ++ loop.active.values.map ContactEvent.key

/-- The loop without its episodes. -/
def frame (loop : CollisionLoop F64) : Option Int × Bool :=
  (loop.previousStamp, loop.drainSnapshotObserved)

variable {loop loop' : CollisionLoop F64}

theorem closeAbsent_spec {stamp : Int} {counterpart : String}
    (h : closeAbsent stamp loop counterpart = .ok loop') :
  loop'.opened.Perm loop.opened ∧ loop'.frame = loop.frame ∧
    ∀ model, model ∈ loop'.active.keys ↔ model ≠ counterpart ∧ model ∈ loop.active.keys
  := by
  unfold closeAbsent at h
  split at h
  · rename_i hnone
    cases h
    refine ⟨.refl _, rfl, ?_⟩
    intro model
    constructor
    · intro hmem
      refine ⟨?_, hmem⟩
      rintro rfl
      exact Dict.get?_eq_none_iff.mp hnone hmem
    · exact fun hmem => hmem.2
  · rename_i event hsome
    unfold closeEvent at h
    obtain ⟨duration, -, h⟩ := Except.bind_eq_ok_iff.mp h
    rw [← Except.ok.inj h]
    refine ⟨?_, rfl, fun model => Dict.mem_keys_erase⟩
    unfold opened
    dsimp only
    rw [List.map_append, List.append_assoc]
    apply List.Perm.append_left
    exact ((Dict.values_perm_erase hsome).map ContactEvent.key).symm

theorem closeAbsents_spec {stamp : Int} {absent : List String}
    (h : absent.foldlM (closeAbsent stamp) loop = .ok loop') :
  loop'.opened.Perm loop.opened ∧ loop'.frame = loop.frame ∧
    ∀ model, model ∈ loop'.active.keys ↔ model ∉ absent ∧ model ∈ loop.active.keys
  := by
  induction absent generalizing loop with
  | nil =>
      rw [List.foldlM_nil, Except.pure_eq_ok, Except.ok.injEq] at h
      subst h
      exact ⟨.refl _, rfl, fun model => by simp⟩
  | cons counterpart absent ih =>
      rw [List.foldlM_cons] at h
      obtain ⟨next, hnext, h⟩ := Except.bind_eq_ok_iff.mp h
      obtain ⟨hopened, hframe, hkeys⟩ := closeAbsent_spec hnext
      obtain ⟨hopened', hframe', hkeys'⟩ := ih h
      refine ⟨hopened'.trans hopened, hframe'.trans hframe, ?_⟩
      intro model
      rw [hkeys', hkeys, List.mem_cons]
      tauto

/-- The models of a snapshot for which an episode is opened. -/
def newModels (loop : CollisionLoop F64) (terminal stamp : Int) (models : List String) :
    List String :=
  if stamp ≤ terminal then models.filter fun model => (loop.active.get? model).isNone else []

theorem applyGroup_spec {terminal stamp : Int} {loop : CollisionLoop F64} {counterpart : String}
    {group : SnapshotGroup F64} :
  (loop.applyGroup terminal stamp (counterpart, group)).opened.Perm
    (loop.opened ++ (loop.newModels terminal stamp [counterpart]).map fun model => (model, stamp)) ∧
  (loop.applyGroup terminal stamp (counterpart, group)).frame = loop.frame ∧
  ∀ model, model ∈ (loop.applyGroup terminal stamp (counterpart, group)).active.keys ↔
    model ∈ loop.active.keys ∨ model ∈ loop.newModels terminal stamp [counterpart]
  := by
  have hkey : ∀ event : ContactEvent F64, ∀ records,
      (countPostTerminal event stamp terminal records).key = event.key := by
    intro event records
    unfold countPostTerminal
    split
    · rfl
    · rfl
  unfold applyGroup newModels
  dsimp only
  cases hget : loop.active.get? counterpart with
  | some event =>
      rw [if_neg (by simp)]
      have hnil : (if stamp ≤ terminal then
          [counterpart].filter fun model => (loop.active.get? model).isNone else []) = [] := by
        simp [hget]
      rw [hnil]
      have hset : ((loop.active.set counterpart (countPostTerminal
          (extendEvent (some event) stamp counterpart group) stamp terminal
          group.recordCount)).values.map ContactEvent.key) =
            loop.active.values.map ContactEvent.key :=
        Dict.map_values_set_of_some hget (hkey _ _)
      refine ⟨?_, rfl, ?_⟩
      · unfold opened
        dsimp only
        rw [hset, List.map_nil, List.append_nil]
      · intro model
        dsimp only
        rw [Dict.mem_keys_set, List.mem_nil_iff, or_false]
        constructor
        · rintro (rfl | hmem)
          · rw [Dict.mem_keys_iff, hget]
            rfl
          · exact hmem
        · exact .inr
  | none =>
      by_cases hstamp : stamp ≤ terminal
      · rw [if_neg (by simp [hstamp]), if_pos hstamp]
        have hfilter : ([counterpart].filter fun model => (loop.active.get? model).isNone) =
            [counterpart] := by
          simp [hget]
        rw [hfilter]
        refine ⟨?_, rfl, ?_⟩
        · unfold opened
          dsimp only
          rw [Dict.values_set_of_none hget, List.map_append, List.map_singleton, hkey,
            List.append_assoc]
          exact .refl _
        · intro model
          dsimp only
          rw [Dict.mem_keys_set, List.mem_singleton, or_comm]
      · rw [if_pos (by simpa using hstamp), if_neg hstamp]
        refine ⟨?_, rfl, fun model => by simp⟩
        rw [List.map_nil, List.append_nil]
        exact .refl _

theorem foldl_applyGroup_spec {terminal stamp : Int} {loop : CollisionLoop F64}
    {items : List (String × SnapshotGroup F64)} (hnodup : (items.map Prod.fst).Nodup) :
  (items.foldl (applyGroup terminal stamp) loop).opened.Perm
    (loop.opened ++
      (loop.newModels terminal stamp (items.map Prod.fst)).map fun model => (model, stamp)) ∧
  (items.foldl (applyGroup terminal stamp) loop).frame = loop.frame ∧
  ∀ model, model ∈ (items.foldl (applyGroup terminal stamp) loop).active.keys ↔
    model ∈ loop.active.keys ∨ model ∈ loop.newModels terminal stamp (items.map Prod.fst)
  := by
  induction items generalizing loop with
  | nil =>
      have hnil : loop.newModels terminal stamp [] = [] := by
        unfold newModels
        split
        · rfl
        · rfl
      rw [List.map_nil, hnil]
      refine ⟨?_, rfl, fun model => by simp⟩
      rw [List.map_nil, List.append_nil]
      exact .refl _
  | cons item items ih =>
      obtain ⟨counterpart, group⟩ := item
      rw [List.map_cons, List.nodup_cons] at hnodup
      obtain ⟨hopened, hframe, hkeys⟩ :=
        @applyGroup_spec F64 _ terminal stamp loop counterpart group
      obtain ⟨hopened', hframe', hkeys'⟩ :=
        @ih (loop.applyGroup terminal stamp (counterpart, group)) hnodup.2
      -- the other models are new after the first group exactly when they were before it
      have hrest : (loop.applyGroup terminal stamp (counterpart, group)).newModels terminal stamp
          (items.map Prod.fst) = loop.newModels terminal stamp (items.map Prod.fst) := by
        unfold newModels at hkeys ⊢
        split
        · rename_i hstamp
          apply List.filter_congr
          intro model hmodel
          have hne : model ≠ counterpart := by
            rintro rfl
            exact hnodup.1 hmodel
          have hsame := hkeys model
          rw [if_pos hstamp, List.mem_filter, List.mem_singleton] at hsame
          simp only [hne, false_and, or_false] at hsame
          exact Dict.isNone_get?_congr hsame
        · rfl
      have hcons : loop.newModels terminal stamp (((counterpart, group) :: items).map Prod.fst) =
          loop.newModels terminal stamp [counterpart] ++
            loop.newModels terminal stamp (items.map Prod.fst) := by
        unfold newModels
        rw [List.map_cons, ← List.singleton_append]
        split
        · rw [List.filter_append]
        · rfl
      rw [List.foldl_cons, hcons]
      rw [hrest] at hopened' hkeys'
      refine ⟨?_, hframe'.trans hframe, ?_⟩
      · rw [List.map_append, ← List.append_assoc]
        exact hopened'.trans (hopened.append_right _)
      · intro model
        rw [hkeys', hkeys, List.mem_append, or_assoc]

/-- What a snapshot does to the episodes: those of models that it has not are closed, and one is
opened for each of its models without one, up to the terminal stamp. -/
theorem applyGroups_spec {start terminal stamp : Int} {groups : Dict String (SnapshotGroup F64)}
    (h : loop.applyGroups start terminal stamp groups = .ok loop') :
  loop'.opened.Perm
    (loop.opened ++ (loop.newModels terminal stamp groups.keys).map fun model => (model, stamp)) ∧
  loop'.frame = loop.frame ∧
  ∀ model, model ∈ loop'.active.keys ↔ model ∈ groups.keys ∧ (model ∈ loop.active.keys ∨
    stamp ≤ terminal)
  := by
  unfold applyGroups at h
  obtain ⟨closed, hclosed, h⟩ := Except.bind_eq_ok_iff.mp h
  obtain ⟨hopened, hframe, hkeys⟩ := closeAbsents_spec hclosed
  simp only [List.mem_mergeSort, List.mem_filter, ← Option.not_isSome, Bool.not_eq_true',
    not_and, Bool.not_eq_false, ← Dict.mem_keys_iff] at hkeys
  generalize hcounted : (if stamp < start then
      { closed with
        preActionSnapshotRecords :=
          closed.preActionSnapshotRecords + (groups.values.map (·.recordCount)).sum }
    else closed) = counted at h
  have hsame : counted.opened = closed.opened ∧ counted.frame = closed.frame ∧
      counted.active = closed.active := by
    rw [← hcounted]
    split
    · exact ⟨rfl, rfl, rfl⟩
    · exact ⟨rfl, rfl, rfl⟩
  obtain ⟨hopened', hframe', hkeys'⟩ :=
    @foldl_applyGroup_spec F64 _ terminal stamp counted groups.items groups.nodup
  rw [← Except.ok.inj h]
  have hactive : ∀ model, model ∈ counted.active.keys ↔
      model ∈ groups.keys ∧ model ∈ loop.active.keys := by
    intro model
    rw [hsame.2.2, hkeys]
    tauto
  have hnew : counted.newModels terminal stamp (groups.items.map Prod.fst) =
      loop.newModels terminal stamp groups.keys := by
    unfold newModels
    split
    · apply List.filter_congr
      intro model hmodel
      have hiff := hactive model
      change model ∈ groups.keys at hmodel
      simp only [hmodel, true_and] at hiff
      exact Dict.isNone_get?_congr hiff
    · rfl
  rw [hnew] at hopened' hkeys'
  refine ⟨?_, ?_, ?_⟩
  · rw [hsame.1] at hopened'
    exact hopened'.trans (hopened.append_right _)
  · rw [hframe', hsame.2.1, hframe]
  · intro model
    rw [hkeys', hactive]
    unfold newModels
    split
    · rename_i hstamp
      rw [List.mem_filter]
      simp only [Dict.mem_keys_iff, ← Option.not_isSome]
      cases (loop.active.get? model).isSome <;> simp [hstamp]
    · rename_i hstamp
      simp [hstamp]

variable {message : Evidence} {index : Nat}

omit [PyFloat F64] in
/-- What the checks on a snapshot establish. -/
theorem checkSnapshot_spec {start drain stamp : Int} {contacts : List PyValue}
    (h : loop.checkSnapshot start drain index message = .ok (stamp, contacts, loop')) :
  messageStamp message = stamp ∧ contactsOf message = contacts ∧
    (∀ previous, loop.previousStamp = some previous → previous < stamp) ∧
    loop'.frame = (some stamp, loop.drainSnapshotObserved || stamp = drain) ∧
    loop'.opened = loop.opened ∧ loop'.active = loop.active
  := by
  unfold checkSnapshot at h
  obtain ⟨stamp', hstamp, h⟩ := Except.bind_eq_ok_iff.mp h
  obtain ⟨sequence, -, h⟩ := Except.bind_eq_ok_iff.mp h
  split at h
  · cases h
  · obtain ⟨gap, hgap, h⟩ := Except.bind_eq_ok_iff.mp h
    split at h
    · cases h
    · obtain ⟨clock, -, h⟩ := Except.bind_eq_ok_iff.mp h
      obtain ⟨offset, -, h⟩ := Except.bind_eq_ok_iff.mp h
      split at h
      · cases h
      · split at h
        · rename_i contacts' hcontacts
          split at h
          · cases h
          · split at h
            · cases h
            · cases h
              refine ⟨?_, ?_, ?_, rfl, rfl, rfl⟩
              · unfold messageStamp
                rw [requireInt_eq_ok_iff.mp hstamp]
                rfl
              · unfold contactsOf
                rw [hcontacts]
              · intro previous hprevious
                unfold checkGap at hgap
                rw [hprevious] at hgap
                dsimp only at hgap
                split at hgap
                · cases hgap
                · exact not_le.mp ‹_›
        · cases h

variable {start terminal drain : Int}

/-- What one snapshot does. -/
theorem observe_spec (h : loop.observe names start terminal drain (message, index) = .ok loop') :
  (∀ previous, loop.previousStamp = some previous → previous < messageStamp message) ∧
  loop'.frame = (some (messageStamp message), loop.drainSnapshotObserved ||
    messageStamp message = drain) ∧
  (drain < messageStamp message ∧ loop'.opened.Perm loop.opened ∨
    ∃ models : List String, models.Nodup ∧
      (∀ model, model ∈ models ↔ model ∈ modelsOf names message) ∧
      loop'.opened.Perm (loop.opened ++
        (loop.newModels terminal (messageStamp message) models).map fun model =>
          (model, messageStamp message)) ∧
      ∀ model, model ∈ loop'.active.keys ↔ model ∈ models ∧ (model ∈ loop.active.keys ∨
        messageStamp message ≤ terminal))
  := by
  unfold observe at h
  obtain ⟨⟨stamp, contacts, checked⟩, hcheck, h⟩ := Except.bind_eq_ok_iff.mp h
  obtain ⟨hstamp, hcontacts, hlater, hframe, hopened, hactive⟩ := checkSnapshot_spec hcheck
  dsimp only at h
  rw [hstamp]
  split at h
  · rename_i hafter
    cases h
    refine ⟨hlater, hframe, .inl ⟨hafter, ?_⟩⟩
    rw [hopened]
  · generalize hentered : (if (start ≤ stamp && stamp ≤ terminal) = true then
        { checked with inActionSnapshotCount := checked.inActionSnapshotCount + 1 }
      else checked) = entered at h
    have hsame : entered.opened = checked.opened ∧ entered.frame = checked.frame ∧
        entered.active = checked.active := by
      rw [← hentered]
      split
      · exact ⟨rfl, rfl, rfl⟩
      · exact ⟨rfl, rfl, rfl⟩
    obtain ⟨grouped, hgrouped, h⟩ := Except.bind_eq_ok_iff.mp h
    obtain ⟨hopened', hframe', hkeys'⟩ := applyGroups_spec h
    have hmodels : ∀ model, model ∈ grouped.groups.keys ↔ model ∈ modelsOf names message := by
      intro model
      rw [groupContacts_keys hgrouped]
      unfold modelsOf
      rw [hcontacts, List.zipIdx_map_fst]
      change _ ∨ model ∈ [] ↔ _
      simp
    refine ⟨hlater, ?_, .inr ⟨grouped.groups.keys, grouped.groups.nodup_keys, hmodels, ?_, ?_⟩⟩
    · rw [hframe']
      exact hsame.2.1.trans hframe
    · have hnew : newModels { entered with exclusions := grouped.exclusions } terminal stamp
          grouped.groups.keys = loop.newModels terminal stamp grouped.groups.keys := by
        unfold newModels
        dsimp only
        rw [hsame.2.2, hactive]
      rw [hnew] at hopened'
      refine hopened'.trans ?_
      change ((entered.opened ++ _ : List (String × Int)).Perm _)
      rw [hsame.1, hopened]
    · intro model
      rw [hkeys']
      dsimp only
      rw [hsame.2.2, hactive]

/-- The state of the loop after the snapshots that were seen. -/
structure Counted (names : CollisionNames) (terminal drain : Int) (seen : List Evidence)
    (loop : CollisionLoop F64) : Prop where
  last : loop.previousStamp = seen.getLast?.map messageStamp
  ordered : seen.Pairwise fun message message' => messageStamp message < messageStamp message'
  drained : loop.drainSnapshotObserved = true ↔ ∃ message ∈ seen, messageStamp message = drain
  active : (∀ message ∈ seen, messageStamp message ≤ terminal) → ∀ model, model ∈ loop.active.keys ↔
    ∃ message, seen.getLast? = some message ∧ model ∈ modelsOf names message
  distinct : loop.opened.Nodup
  opened : ∀ model stamp, (model, stamp) ∈ loop.opened ↔
    stamp ≤ terminal ∧ SnapshotStart names seen model stamp

omit [PyFloat F64] in
theorem Counted.initial {terminal drain : Int} :
  Counted names terminal drain [] ({} : CollisionLoop F64)
  := by
  constructor
  · rfl
  · exact .nil
  · simp
  · intro _ model
    change model ∈ [] ↔ _
    simp
  · exact List.nodup_nil
  · intro model stamp
    change (model, stamp) ∈ [] ↔ _
    simp [SnapshotStart, Occurs.not_nil]

theorem Counted.concat (hdrain : terminal < drain) {seen : List Evidence}
    (hcounted : Counted names terminal drain seen loop)
    (h : loop.observe names start terminal drain (message, index) = .ok loop') :
  Counted names terminal drain (seen ++ [message]) loop'
  := by
  obtain ⟨hlater, hframe, hepisodes⟩ := observe_spec h
  obtain ⟨hprevious, hobserved⟩ := Prod.mk.inj hframe
  have hbefore : ∀ m ∈ seen, messageStamp m < messageStamp message := by
    intro m hm
    have hne := List.ne_nil_of_mem hm
    have hlast := hlater (messageStamp (seen.getLast hne)) (by
      rw [hcounted.last, List.getLast?_eq_some_getLast hne]
      rfl)
    rcases List.eq_nil_or_concat seen with rfl | ⟨init, last, rfl⟩
    · cases hm
    · simp only [List.concat_eq_append, List.getLast_append_singleton] at hlast hm
      rcases List.mem_append.mp hm with hm | hm
      · have hpair := hcounted.ordered
        rw [List.concat_eq_append, List.pairwise_append] at hpair
        exact (hpair.2.2 m hm last (by simp)).trans hlast
      · rw [List.mem_singleton.mp hm]
        exact hlast
  have hmodels : messageStamp message ≤ terminal → ∀ model, model ∈ loop.active.keys ↔
      ∃ m, seen.getLast? = some m ∧ model ∈ modelsOf names m := by
    intro hle
    exact hcounted.active fun m hm => (hbefore m hm).le.trans hle
  have hfresh : ∀ model, (model, messageStamp message) ∉ loop.opened := by
    intro model hmem
    obtain ⟨-, hstart⟩ := (hcounted.opened model _).mp hmem
    obtain ⟨m, hm, hstamp⟩ := hstart.mem
    exact absurd hstamp (hbefore m hm).ne
  constructor
  · rw [hprevious, List.getLast?_concat]
    rfl
  · rw [List.pairwise_append]
    refine ⟨hcounted.ordered, List.pairwise_singleton _ _, ?_⟩
    intro m hm m' hm'
    rw [List.mem_singleton.mp hm']
    exact hbefore m hm
  · rw [hobserved, Bool.or_eq_true, hcounted.drained, decide_eq_true_eq]
    simp only [List.mem_append, List.mem_singleton, or_and_right, exists_or, exists_eq_left]
  · intro hall model
    have hle := hall message (by simp)
    rcases hepisodes with ⟨hafter, -⟩ | ⟨models, -, hmem, -, hkeys⟩
    · omega
    · rw [hkeys, hmem, List.getLast?_concat]
      simp [hle]
  · rcases hepisodes with ⟨-, hperm⟩ | ⟨models, hnodup, -, hperm, -⟩
    · exact hperm.nodup_iff.mpr hcounted.distinct
    · rw [hperm.nodup_iff, List.nodup_append']
      refine ⟨hcounted.distinct, ?_, ?_⟩
      · apply List.Nodup.map
        · intro model model' heq
          exact (Prod.mk.inj heq).1
        · unfold newModels
          split
          · exact hnodup.filter _
          · exact List.nodup_nil
      · intro key hkey hnew
        obtain ⟨model, -, rfl⟩ := List.mem_map.mp hnew
        exact hfresh model hkey
  · intro model stamp
    unfold SnapshotStart
    rw [Occurs.concat_iff]
    rcases hepisodes with ⟨hafter, hperm⟩ | ⟨models, -, hmem, hperm, -⟩
    · rw [hperm.mem_iff, hcounted.opened]
      constructor
      · rintro ⟨hle, hstart⟩
        exact ⟨hle, .inl hstart⟩
      · rintro ⟨hle, hstart | ⟨rfl, -⟩⟩
        · exact ⟨hle, hstart⟩
        · omega
    · rw [hperm.mem_iff, List.mem_append, hcounted.opened, List.mem_map]
      unfold newModels
      by_cases hle : messageStamp message ≤ terminal
      · simp only [if_pos hle, List.mem_filter, hmem, Option.isNone_iff_eq_none,
          Dict.get?_eq_none_iff, hmodels hle, Prod.mk.injEq, not_exists, not_and]
        constructor
        · rintro (⟨hstamp, hstart⟩ | ⟨model', ⟨hmodel, hnew⟩, rfl, rfl⟩)
          · exact ⟨hstamp, .inl hstart⟩
          · exact ⟨hle, .inr ⟨rfl, hmodel, hnew⟩⟩
        · rintro ⟨hstamp, hstart | ⟨rfl, hmodel, hnew⟩⟩
          · exact .inl ⟨hstamp, hstart⟩
          · exact .inr ⟨model, ⟨hmodel, hnew⟩, rfl, rfl⟩
      · simp only [if_neg hle, List.not_mem_nil, false_and, exists_false, or_false]
        constructor
        · rintro ⟨hstamp, hstart⟩
          exact ⟨hstamp, .inl hstart⟩
        · rintro ⟨hstamp, hstart | ⟨rfl, -⟩⟩
          · exact ⟨hstamp, hstart⟩
          · exact absurd hstamp hle

theorem counted_of_foldlM (hdrain : terminal < drain)
    {entries : List (Evidence × Nat)} {loop : CollisionLoop F64}
    (h : entries.foldlM (observe names start terminal drain) {} = .ok loop) :
  Counted names terminal drain (entries.map Prod.fst) loop
  := by
  induction entries using List.reverseRecOn generalizing loop with
  | nil =>
      rw [List.foldlM_nil, Except.pure_eq_ok, Except.ok.injEq] at h
      rw [← h]
      exact Counted.initial
  | append_singleton entries entry ih =>
      rw [Except.foldlM_concat] at h
      obtain ⟨before, hbefore, hlast⟩ := Except.bind_eq_ok_iff.mp h
      rw [List.map_append, List.map_singleton]
      exact (ih hbefore).concat hdrain hlast

/-- Closing the episodes at the drain opens none. -/
theorem closeActive_spec {drain : Int} (h : loop.closeActive drain = .ok loop') :
  loop'.events.map (fun event => event.key) = loop.opened
  := by
  have hfold : ∀ (events : List (ContactEvent F64)) (loop loop' : CollisionLoop F64),
      events.foldlM (fun loop event => loop.closeEvent event drain true) loop = .ok loop' →
      loop'.events.map (fun event => event.key) =
        loop.events.map (fun event => event.key) ++ events.map ContactEvent.key := by
    intro events
    induction events with
    | nil =>
        intro loop loop' h
        rw [List.foldlM_nil, Except.pure_eq_ok, Except.ok.injEq] at h
        rw [h, List.map_nil, List.append_nil]
    | cons event events ih =>
        intro loop loop' h
        rw [List.foldlM_cons] at h
        obtain ⟨next, hnext, h⟩ := Except.bind_eq_ok_iff.mp h
        unfold closeEvent at hnext
        obtain ⟨duration, -, hnext⟩ := Except.bind_eq_ok_iff.mp hnext
        rw [ih next loop' h, ← Except.ok.inj hnext, List.map_append, List.append_assoc]
        rfl
  exact hfold _ _ _ h

end CollisionLoop

omit [PyFloat F64] in
theorem key_normalizedEvents (events : List (ClosedContactEvent F64)) (start terminal : Int) :
  ((normalizedEvents events start terminal).map fun event => event.key).Perm
    ((events.map fun event => event.key).filter fun key => start ≤ key.2 && key.2 ≤ terminal)
  := by
  unfold normalizedEvents
  rw [List.map_map, List.filter_map]
  have hfilter : (fun event : ClosedContactEvent F64 =>
      !(decide (event.startStampNs < start) || decide (event.startStampNs > terminal))) =
      (fun key : String × Int => decide (start ≤ key.2) && decide (key.2 ≤ terminal)) ∘
        fun event => event.key := by
    funext event
    change _ = (decide (start ≤ event.startStampNs) && decide (event.startStampNs ≤ terminal))
    rw [Bool.not_or, ← decide_not, ← decide_not]
    simp only [gt_iff_lt, not_lt]
  rw [hfilter]
  exact ((List.mergeSort_perm _ _).filter _).map _

/-- The events of the analysis are the episodes that start at a snapshot during the action. -/
theorem analyzeCollisions_spec {Q : Type} {qualification : Except MetricError Q}
    {messages : List Evidence} {start terminal drain : Int} {analysis : CollisionAnalysis F64 Q}
    (h : analyzeCollisions qualification (.ok names) messages (.int start) (.int terminal)
      (.int drain) = .ok analysis) :
  analysis.collisionCount = analysis.events.length ∧
  (analysis.events.map fun event => event.key).Nodup ∧
  (∀ model stamp, (model, stamp) ∈ (analysis.events.map fun event => event.key) ↔
    (start ≤ stamp ∧ stamp ≤ terminal) ∧ SnapshotStart names messages model stamp) ∧
  terminal < drain ∧ ∃ message ∈ messages, messageStamp message = drain
  := by
  unfold analyzeCollisions at h
  obtain ⟨qualified, -, h⟩ := Except.bind_eq_ok_iff.mp h
  obtain ⟨names', hnames, h⟩ := Except.bind_eq_ok_iff.mp h
  cases hnames
  obtain ⟨start', hstart, h⟩ := Except.bind_eq_ok_iff.mp h
  cases hstart
  obtain ⟨terminal', hterminal, h⟩ := Except.bind_eq_ok_iff.mp h
  cases hterminal
  obtain ⟨drain', hdrain, h⟩ := Except.bind_eq_ok_iff.mp h
  cases hdrain
  obtain ⟨_, hstamps, h⟩ := Except.bind_eq_ok_iff.mp h
  obtain ⟨loop, hloop, h⟩ := Except.bind_eq_ok_iff.mp h
  obtain ⟨_, hcoverage, h⟩ := Except.bind_eq_ok_iff.mp h
  obtain ⟨closed, hclosed, h⟩ := Except.bind_eq_ok_iff.mp h
  have hlt : terminal < drain := by
    unfold checkStamps CONTACT_RELEASE_GAP_NS unavailable at hstamps
    grind
  have hcounted := CollisionLoop.counted_of_foldlM hlt hloop
  rw [List.zipIdx_map_fst] at hcounted
  have hobserved : loop.drainSnapshotObserved = true := by
    unfold checkCoverage unavailable at hcoverage
    by_contra hnot
    rw [if_pos (by simpa using hnot)] at hcoverage
    cases hcoverage
  have hkeys := key_normalizedEvents closed.events start terminal
  rw [CollisionLoop.closeActive_spec hclosed] at hkeys
  rw [← Except.ok.inj h]
  refine ⟨rfl, ?_, ?_, hlt, hcounted.drained.mp hobserved⟩
  · rw [hkeys.nodup_iff]
    exact hcounted.distinct.filter _
  · intro model stamp
    rw [hkeys.mem_iff, List.mem_filter, hcounted.opened]
    simp only [Bool.and_eq_true, decide_eq_true_eq]
    tauto

end Loop

end Metrics

end RobotestLab
