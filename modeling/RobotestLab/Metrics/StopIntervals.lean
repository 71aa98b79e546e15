import RobotestLab.Library.Changes
import RobotestLab.Library.Spans
import RobotestLab.Metrics.CollectorPrefix
import RobotestLab.Metrics.StopSafety

/-!
# The messages of the collision monitor

The collector retains a message of the collision monitor when the action of its polygon changed, and
the metrics read the intervals with STOP from the retained messages of all polygons together. A
message that is dropped may then be one with which STOP begins again, or ends: the intervals are
exact just when none of them is (`stopIntervals_exact_iff`).
-/

namespace RobotestLab

namespace Metrics

/-! ### The callback -/

/-- `CollisionMonitorState`, with the stamp of its callback. -/
structure MonitorMessage where
  stampNs : Int
  polygonName : String
  actionType : UInt8
  deriving DecidableEq

namespace MonitorMessage

/-- A state without a polygon has a subject of its own. -/
def subject (message : MonitorMessage) : String :=
  if message.polygonName = "" then "<none>" else message.polygonName

def action (message : MonitorMessage) : Int := message.actionType.toNat

def isStop (message : MonitorMessage) : Bool := message.action = STOP_ACTION

end MonitorMessage

/-- The other changes of state that are recorded. -/
inductive OtherKind where
  | waypointFeedback
  | actionStatus
  | lifecycle
  deriving DecidableEq

def OtherKind.text : OtherKind → String
  | .waypointFeedback => "waypoint_feedback"
  | .actionStatus => "action_status"
  | .lifecycle => "lifecycle"

/-- A callback that records a change of state. -/
inductive StateCallback where
  | collisionMonitor (message : MonitorMessage)
  | other (kind : OtherKind) (subject : String) (value : PyValue) (stampNs : Int)
      (details : Evidence)

namespace StateCallback

def stampNs : StateCallback → Int
  | .collisionMonitor message => message.stampNs
  | .other _ _ _ stampNs _ => stampNs

def message? : StateCallback → Option MonitorMessage
  | .collisionMonitor message => some message
  | .other _ _ _ _ _ => none

end StateCallback

/-- The messages of the collision monitor among the callbacks. -/
def monitorMessages (callbacks : List StateCallback) : List MonitorMessage :=
  callbacks.filterMap StateCallback.message?

section Callback

variable (inspection : Inspection)

def onCollisionMonitor (core : CollectorCore) (message : MonitorMessage) : CollectorCore :=
  (core.recordStateTransition inspection "collision_monitor" message.subject (.int message.action)
    (.int message.stampNs) none).2

def onState (core : CollectorCore) : StateCallback → CollectorCore
  | .collisionMonitor message => onCollisionMonitor inspection core message
  | .other kind subject value stampNs details =>
      (core.recordStateTransition inspection kind.text subject value (.int stampNs)
        (some details)).2

/-- The collector after the callbacks. -/
def afterStates (callbacks : List StateCallback) : CollectorCore :=
  callbacks.foldl (onState inspection) CollectorCore.initial

end Callback

/-- No item was turned away, and none was refused. -/
def PrefixBuffer.Clean (buffer : PrefixBuffer) : Prop :=
  buffer.quality.overflowCount = 0 ∧ buffer.quality.invalidCount = 0

/-! ### Exact intervals -/

/-- The messages that change the action of their polygon. -/
def monitorChanges (messages : List MonitorMessage) : List MonitorMessage :=
  changes MonitorMessage.subject MonitorMessage.action messages

/-- The last message at the instant or before it says STOP. -/
def CurrentlyStop (messages : List MonitorMessage) (t : Int) : Prop :=
  ∃ message, held MonitorMessage.stampNs messages t = some message ∧ message.isStop = true

/-- At the instant STOP begins, or it goes on for another polygon. -/
def BeginsStop (messages : List MonitorMessage) (t : Int) : Prop :=
  ∃ before message after, messages = before ++ message :: after ∧ message.stampNs = t
    ∧ message.isStop = true ∧ ∀ previous, before.getLast? = some previous →
      previous.isStop = true → previous.polygonName ≠ message.polygonName

/-- The intervals are those during which the current action is STOP, before the terminal stamp. An
interval may be split where STOP goes on for another polygon. -/
structure ExactStops (messages : List MonitorMessage) (terminal : Int)
    (intervals : List (Int × Int)) : Prop where
  nonempty : ∀ interval ∈ intervals, interval.1 < interval.2
  ordered : intervals.Pairwise fun a b => a.2 ≤ b.1
  covers : ∀ t, (∃ interval ∈ intervals, interval.1 ≤ t ∧ t < interval.2) ↔
    t < terminal ∧ CurrentlyStop messages t
  begins : ∀ interval ∈ intervals, BeginsStop messages interval.1

/-- A message that repeats the last action of its polygon, and stays the last message for a while
before the terminal stamp, says STOP just when the last message before it that changed the action of
its polygon does. A change to STOP before another change does not last beyond the terminal stamp. -/
structure StopsKept (messages : List MonitorMessage) (terminal : Int) : Prop where
  repeated : ∀ before message after, messages = before ++ message :: after →
    Repeats MonitorMessage.subject MonitorMessage.action before message →
      message.stampNs < terminal →
    (∀ next, after.head? = some next → message.stampNs < next.stampNs) →
    (message.isStop = true ↔
      ∃ change, (monitorChanges before).getLast? = some change ∧ change.isStop = true)
  ended : ∀ l change next l', monitorChanges messages = l ++ change :: next :: l' →
    change.isStop = true → change.stampNs < next.stampNs → next.stampNs ≤ terminal

section Intervals

variable {messages : List MonitorMessage} {terminal t : Int}

/-- The changes do not go back in time. -/
theorem monitorChanges_order (h : InStampOrder MonitorMessage.stampNs messages) :
  InStampOrder MonitorMessage.stampNs (monitorChanges messages)
  := h.sublist Changes.sublist_changes

/-- A change to STOP begins an interval. -/
theorem beginsStop_of_change {l l' : List MonitorMessage} {change : MonitorMessage}
    (h : monitorChanges messages = l ++ change :: l') (hstop : change.isStop = true) :
  BeginsStop messages change.stampNs
  := by
  obtain ⟨before, after, rfl, hrepeats, -, -⟩ := Changes.exists_split h
  refine ⟨before, change, after, rfl, rfl, hstop, ?_⟩
  intro previous hprevious hprevious' hname
  apply hrepeats
  obtain ⟨init, rfl⟩ := List.getLast?_eq_some_iff.mp hprevious
  have hsubject : previous.subject = change.subject := by
    rw [MonitorMessage.subject, MonitorMessage.subject, hname]
  rw [Repeats, Changes.latest_concat, if_pos hsubject, of_decide_eq_true hprevious',
    of_decide_eq_true hstop]

/-- What the messages and their changes hold at an instant. -/
theorem held_at {before after : List MonitorMessage}
    (hbefore : ∀ message ∈ before, message.stampNs ≤ t)
    (hafter : ∀ message ∈ after, t < message.stampNs) :
  held MonitorMessage.stampNs (before ++ after) t = before.getLast?
    ∧ held MonitorMessage.stampNs (monitorChanges (before ++ after)) t =
      (monitorChanges before).getLast?
  := ⟨Held.held_append hbefore hafter, Held.held_changes hbefore hafter⟩

theorem StopsKept.of_exact (h : InStampOrder MonitorMessage.stampNs messages)
    (hcovers : ∀ t, (∃ interval ∈ spans MonitorMessage.stampNs MonitorMessage.isStop terminal
      (monitorChanges messages), interval.1 ≤ t ∧ t < interval.2) ↔
        t < terminal ∧ CurrentlyStop messages t) :
  StopsKept messages terminal
  where
  repeated before message after hsplit hrepeats hterminal hnext := by
    subst hsplit
    obtain ⟨-, hlater, hbefore⟩ := List.pairwise_append.mp h
    have hafter : ∀ m ∈ after, message.stampNs < m.stampNs := by
      cases after with
      | nil => nofun
      | cons next after =>
          have hlt := hnext next rfl
          intro m hm
          rcases List.mem_cons.mp hm with rfl | hm
          · exact hlt
          · exact hlt.trans_le ((List.pairwise_cons.mp (List.pairwise_cons.mp hlater).2).1 m hm)
    have huntil : ∀ m ∈ before ++ [message], m.stampNs ≤ message.stampNs := by
      intro m hm
      rcases List.mem_append.mp hm with hm | hm
      · apply hbefore m hm message List.mem_cons_self
      · rw [List.mem_singleton.mp hm]
    obtain ⟨hheld, hchange⟩ := held_at huntil hafter
    have hdropped : monitorChanges (before ++ [message]) = monitorChanges before := by
      rw [monitorChanges, Changes.changes_concat, if_pos hrepeats, List.append_nil, monitorChanges]
    have hcover := hcovers message.stampNs
    rw [Spans.mem_spans_iff (monitorChanges_order h), CurrentlyStop, List.append_cons, hheld,
      hchange, hdropped, List.getLast?_concat] at hcover
    constructor
    · intro hstop
      apply (hcover.mpr ⟨hterminal, message, rfl, hstop⟩).1
    · intro hlast
      obtain ⟨-, m, hm, hstop⟩ := hcover.mp ⟨hlast, .inl hterminal⟩
      rw [Option.some.inj hm]
      exact hstop
  ended l change next l' hsplit hstop hlt := by
    by_contra hterminal
    rw [not_le] at hterminal
    have horder := monitorChanges_order h
    have hbetween : max change.stampNs terminal < next.stampNs := max_lt hlt hterminal
    have hheld : held MonitorMessage.stampNs (monitorChanges messages) (max change.stampNs terminal)
        = some change := by
      rw [Held.held_eq_some_iff]
      refine ⟨l, next :: l', hsplit, le_max_left _ _, ?_⟩
      rw [hsplit] at horder
      have hrest := (List.pairwise_cons.mp (List.pairwise_append.mp horder).2.1).2
      rintro m hm
      rcases List.mem_cons.mp hm with rfl | hm
      · exact hbetween
      · exact hbetween.trans_le ((List.pairwise_cons.mp hrest).1 m hm)
    have hcover := hcovers (max change.stampNs terminal)
    rw [Spans.mem_spans_iff horder] at hcover
    have hnext : next ∈ monitorChanges messages := by
      rw [hsplit]
      exact List.mem_append_right l (List.mem_cons_of_mem change List.mem_cons_self)
    have hbefore := (hcover.mp ⟨⟨change, hheld, hstop⟩, .inr ⟨next, hnext, hbetween⟩⟩).1
    exact absurd hbefore (not_lt.mpr (le_max_right _ _))

theorem StopsKept.covers (hkept : StopsKept messages terminal)
    (h : InStampOrder MonitorMessage.stampNs messages) (t : Int) :
  (∃ interval ∈ spans MonitorMessage.stampNs MonitorMessage.isStop terminal
    (monitorChanges messages),
      interval.1 ≤ t ∧ t < interval.2)
    ↔ t < terminal ∧ CurrentlyStop messages t
  := by
  rw [Spans.mem_spans_iff (monitorChanges_order h)]
  obtain ⟨before, after, rfl, hbefore, hafter⟩ := Held.exists_split h t
  obtain ⟨hheld, hchange⟩ := held_at hbefore hafter
  rw [CurrentlyStop, hheld, hchange]
  rcases lt_or_ge t terminal with hlt | hge
  · rw [and_iff_left (.inl hlt), and_iff_right hlt]
    rcases List.eq_nil_or_concat before with rfl | ⟨init, message, rfl⟩
    · exact Iff.rfl
    · rw [List.concat_eq_append] at hbefore hkept ⊢
      rw [monitorChanges, Changes.changes_concat, List.getLast?_concat]
      split
      case isTrue hrepeats =>
        have hle := hbefore message (List.mem_append_right init List.mem_cons_self)
        have hiff := hkept.repeated init message after
          (by rw [List.append_assoc, List.singleton_append]) hrepeats (hle.trans_lt hlt)
            (fun next hnext => hle.trans_lt (hafter next (List.mem_of_head? hnext)))
        rw [List.append_nil, ← monitorChanges, ← hiff]
        constructor
        · intro hstop
          exact ⟨message, rfl, hstop⟩
        · rintro ⟨m, hm, hstop⟩
          exact Option.some.inj hm ▸ hstop
      case isFalse =>
        rw [List.getLast?_concat]
  · refine ⟨?_, fun hboth => absurd hboth.1 (not_lt.mpr hge)⟩
    rintro ⟨⟨change, hlast, hstop⟩, hlater⟩
    obtain ⟨l, hl⟩ := List.getLast?_eq_some_iff.mp hlast
    have hsplit : monitorChanges (before ++ after) = l ++ change
        :: changesFrom MonitorMessage.subject MonitorMessage.action before after := by
      rw [monitorChanges, Changes.changes_append, ← monitorChanges, hl, List.append_assoc,
        List.singleton_append]
    have hchanges : ∀ m ∈ monitorChanges before, m.stampNs ≤ t :=
      fun m hm => hbefore m (Changes.sublist_changes.subset hm)
    have hle := hchanges change (List.mem_of_getLast? hlast)
    cases hrest : changesFrom MonitorMessage.subject MonitorMessage.action before after with
    | nil =>
        rw [hrest] at hsplit
        rcases hlater with hlt | ⟨m, hm, hlt⟩
        · exact absurd hlt (not_lt.mpr hge)
        · rw [hsplit, ← hl] at hm
          exact absurd hlt (not_lt.mpr (hchanges m hm))
    | cons next l' =>
        rw [hrest] at hsplit
        have hnext : next ∈ changesFrom MonitorMessage.subject MonitorMessage.action
            before after := by
          rw [hrest]
          apply List.mem_cons_self
        have hlt := hafter next (Changes.sublist_changesFrom.subset hnext)
        have hended := hkept.ended l change next l' hsplit hstop (hle.trans_lt hlt)
        exact absurd (hlt.trans_le (hended.trans hge)) (lt_irrefl t)

/-- The intervals between the changes are exact just when every STOP is kept. -/
theorem exactStops_spans_iff (h : InStampOrder MonitorMessage.stampNs messages) :
  ExactStops messages terminal (spans MonitorMessage.stampNs MonitorMessage.isStop terminal
      (monitorChanges messages))
    ↔ StopsKept messages terminal
  := by
  constructor
  · exact fun hexact => .of_exact h hexact.covers
  · intro hkept
    constructor
    · intro interval hmem
      obtain ⟨-, -, -, -, -, -, hlt⟩ := Spans.exists_of_mem hmem
      exact hlt
    · apply Spans.pairwise_spans (monitorChanges_order h)
    · apply hkept.covers h
    · intro interval hmem
      obtain ⟨l, change, l', hsplit, hstop, rfl, -⟩ := Spans.exists_of_mem hmem
      apply beginsStop_of_change hsplit hstop

end Intervals

/-! ### What is retained -/

def sequenceItem (item : Evidence) : PyValue := PyValue.item "collector_sequence" item

/-- The item of a change, at its place in the sequence. -/
def transitionItem (kind subject : String) (previous : Option PyValue) (value : PyValue)
    (stampNs : Int) (details : Option Evidence) (sequence : Nat) : Evidence :=
  normalized (CollectorCore.stateEvent kind subject previous value (.int stampNs) details) sequence

section Items

variable {kind subject : String} {previous : Option PyValue} {value : PyValue} {stampNs : Int}
  {details : Option Evidence} {sequence : Nat}

theorem sequenceItem_transitionItem :
  sequenceItem (transitionItem kind subject previous value stampNs details sequence) = .int sequence
  := PyValue.item_setItem_self

theorem stampItem_transitionItem :
  stampItem (transitionItem kind subject previous value stampNs details sequence) = .int stampNs
  := by
  rw [stampItem, transitionItem, normalized, PyValue.item_setItem_of_ne (by decide)]
  rfl

theorem isCollisionMonitor_transitionItem :
  isCollisionMonitor (transitionItem kind subject previous value stampNs details sequence)
    = decide (kind = "collision_monitor")
  := by
  rw [isCollisionMonitor, transitionItem, normalized, PyValue.item_setItem_of_ne (by decide)]
  rfl

theorem isStop_transitionItem :
  isStop (transitionItem kind subject previous value stampNs details sequence) =
    value.equalsInt STOP_ACTION
  := by
  rw [isStop, transitionItem, normalized, PyValue.item_setItem_of_ne (by decide)]
  rfl

end Items

/-- The item is one of the message. -/
structure Describes (item : Evidence) (message : MonitorMessage) : Prop where
  value : isStop item = message.isStop
  stamp : stampItem item = .int message.stampNs

/-- The items have stamps and places in the sequence, in the order of both. -/
structure InPlace (callbacks : List StateCallback) (last : Nat) (items : List Evidence) : Prop where
  stamped : ∀ item ∈ items, ∃ callback ∈ callbacks, stampItem item = .int callback.stampNs
  numbered : ∀ item ∈ items, ∃ n : Nat, sequenceItem item = .int n ∧ n ≤ last
  ordered : items.Pairwise fun a b => stampOf a ≤ stampOf b
    ∧ ∃ m n : Nat, sequenceItem a = .int m ∧ sequenceItem b = .int n ∧ m < n

section Collector

variable {inspection : Inspection} {core : CollectorCore} {buffer : PrefixBuffer}
  {message : MonitorMessage}
  {messages : List MonitorMessage}

/-- An item is turned away, or it is the last one. -/
theorem PrefixBuffer.append_cases {item : Evidence} {sequence : Nat} {stampNs : PyValue}
    (buffer : PrefixBuffer) :
  (∃ buffer', buffer.append item sequence stampNs = (false, buffer') ∧ ¬ buffer'.Clean)
    ∨ ∃ buffer', buffer.append item sequence stampNs = (true, buffer')
      ∧ buffer'.items = buffer.items ++ [item] ∧ (buffer'.Clean ↔ buffer.Clean)
  := by
  unfold PrefixBuffer.append
  split
  case isTrue =>
    left
    refine ⟨_, rfl, ?_⟩
    rintro ⟨hoverflow, -⟩
    cases hoverflow
  case isFalse =>
    right
    exact ⟨_, rfl, rfl, Iff.rfl⟩

/-- The collector after a change of state that is retained or refused, or a state that is
dropped. -/
theorem recordStateTransition_cases {kind subject : String} {value : PyValue} {stampNs : Int}
    {details : Option Evidence} (hget : core.buffers.get? "state_events" = some buffer) :
  ((core.lastState.get? (kind, subject)).any (inspection.equal · value) = true
    ∧ (core.recordStateTransition inspection kind subject value (.int stampNs) details).2
      = core.nextSequence.2.setBuffer "state_events" buffer.observeWithoutRetaining)
  ∨ (core.lastState.get? (kind, subject)).any (inspection.equal · value) = false
    ∧ ((∃ buffer', ¬ buffer'.Clean
        ∧ (core.recordStateTransition inspection kind subject value (.int stampNs) details).2
          = core.nextSequence.2.setBuffer "state_events" buffer')
      ∨ ∃ buffer' previous, buffer'.items = buffer.items
          ++ [transitionItem kind subject previous value stampNs details (core.sequence + 1)]
        ∧ (buffer'.Clean ↔ buffer.Clean)
        ∧ (core.recordStateTransition inspection kind subject value (.int stampNs) details).2
          = { core.nextSequence.2.setBuffer "state_events" buffer' with
              lastState := core.lastState.set (kind, subject) value })
  := by
  unfold CollectorCore.recordStateTransition
  dsimp only
  split
  case isTrue hsame =>
    left
    rw [hget]
    exact ⟨hsame, rfl⟩
  case isFalse hchanged =>
    right
    refine ⟨Bool.eq_false_of_not_eq_true hchanged, ?_⟩
    unfold CollectorCore.record CollectorCore.recordValid
    rw [hget]
    dsimp only
    rw [if_neg (by decide)]
    cases CollectorCore.rejection inspection "state_events" (CollectorCore.stateEvent kind subject
        (core.lastState.get? (kind, subject)) value (.int stampNs) details) with
    | some reason =>
        left
        refine ⟨buffer.reject reason, ?_, rfl⟩
        rintro ⟨-, hinvalid⟩
        cases hinvalid
    | none =>
        dsimp only
        rcases buffer.append_cases with ⟨buffer', happend, hclean⟩ | ⟨buffer', happend,
          hitems, hclean⟩
        · left
          refine ⟨buffer', hclean, ?_⟩
          rw [happend]
          rfl
        · right
          refine ⟨buffer', _, hitems, hclean, ?_⟩
          rw [happend]
          rfl

end Collector

/-! ### The order of what is retained -/

section Order

variable {callbacks : List StateCallback} {callback : StateCallback} {items : List Evidence}
  {item : Evidence}
  {last : Nat}

theorem InPlace.skip (h : InPlace callbacks last items) :
  InPlace (callbacks ++ [callback]) (last + 1) items
  where
  stamped item hitem := by
    obtain ⟨c, hc, heq⟩ := h.stamped item hitem
    exact ⟨c, List.mem_append_left _ hc, heq⟩
  numbered item hitem := by
    obtain ⟨n, hn, hle⟩ := h.numbered item hitem
    exact ⟨n, hn, hle.trans (Nat.le_succ last)⟩
  ordered := h.ordered

/-- The item of the last callback comes after the other ones. -/
theorem InPlace.concat (h : InPlace callbacks last items)
    (horder : InStampOrder StateCallback.stampNs (callbacks ++ [callback]))
    (hstamp : stampItem item = .int callback.stampNs)
    (hsequence : sequenceItem item = .int (last + 1 : Nat)) :
  InPlace (callbacks ++ [callback]) (last + 1) (items ++ [item])
  where
  stamped item' hitem := by
    rcases List.mem_append.mp hitem with hitem | hitem
    · have hskip : InPlace (callbacks ++ [callback]) (last + 1) items := h.skip
      apply hskip.stamped item' hitem
    · rw [List.mem_singleton.mp hitem]
      exact ⟨callback, List.mem_append_right _ List.mem_cons_self, hstamp⟩
  numbered item' hitem := by
    rcases List.mem_append.mp hitem with hitem | hitem
    · have hskip : InPlace (callbacks ++ [callback]) (last + 1) items := h.skip
      apply hskip.numbered item' hitem
    · rw [List.mem_singleton.mp hitem]
      exact ⟨last + 1, hsequence, le_refl _⟩
  ordered := by
    rw [List.pairwise_append]
    refine ⟨h.ordered, List.pairwise_singleton _ item, ?_⟩
    intro item' hitem' _ hlast
    rw [List.mem_singleton.mp hlast]
    obtain ⟨c, hc, hstamp'⟩ := h.stamped item' hitem'
    obtain ⟨n, hn, hle⟩ := h.numbered item' hitem'
    constructor
    · have hle := (List.pairwise_append.mp horder).2.2 c hc callback List.mem_cons_self
      rw [stampOf, stampOf, hstamp, hstamp']
      exact hle
    · exact ⟨n, last + 1, hn, hsequence, Nat.lt_succ_of_le hle⟩

/-- Items with stamps and places in the sequence, in the order of both, are ordered. -/
theorem orderedFrom_ok {name complaint : String} {previous : Option (Int × Int)} {index : Nat}
    (h : InPlace callbacks last items)
    (hprevious : ∀ order ∈ previous, ∀ item ∈ items, order.1 ≤ stampOf item
      ∧ ∃ n : Nat, sequenceItem item = .int n ∧ order.2 < n) :
  orderedFrom name complaint previous index items = .ok ()
  := by
  induction items generalizing previous index with
  | nil => rfl
  | cons item items ih =>
      obtain ⟨c, -, hstamp⟩ := h.stamped item List.mem_cons_self
      obtain ⟨n, hn, -⟩ := h.numbered item List.mem_cons_self
      have horder : collectorOrder name index item = .ok (stampOf item, n) := by
        rw [collectorOrder, requireInt_stampOf hstamp, Except.ok_bind]
        rw [sequenceItem] at hn
        rw [hn]
        rfl
      obtain ⟨hfirst, hrest⟩ := List.pairwise_cons.mp h.ordered
      rw [orderedFrom, horder, Except.ok_bind]
      have hafter : previous.any (notAfter (stampOf item, (n : Int))) = false := by
        cases previous with
        | none => rfl
        | some order =>
            obtain ⟨hle, m, hm, hlt⟩ := hprevious order rfl item List.mem_cons_self
            have heq : (n : Int) = m := PyValue.int.inj (hn.symm.trans hm)
            simp only [Option.any_some, notAfter, Bool.or_eq_false_iff, Bool.and_eq_false_iff,
              decide_eq_false_iff_not]
            omega
      rw [hafter, if_neg (by decide)]
      apply ih
      · exact ⟨fun item' hitem => h.stamped item' (List.mem_cons_of_mem item hitem),
          fun item' hitem => h.numbered item' (List.mem_cons_of_mem item hitem), hrest⟩
      · intro order horder' item' hitem'
        obtain rfl := Option.mem_some_iff.mp horder'
        obtain ⟨hle, m, n', hm, hn', hlt⟩ := hfirst item' hitem'
        have heq : (n : Int) = m := PyValue.int.inj (hn.symm.trans hm)
        refine ⟨hle, n', hn', ?_⟩
        dsimp only
        omega

theorem ordered_ok {name : String} (h : InPlace callbacks last items) :
  ordered items name = .ok items
  := by
  rw [ordered, orderedFrom_ok h fun _ hnone => absurd hnone (Option.not_mem_none _)]
  rfl

end Order

/-! ### The run of the collector -/

/-- What the collector has after the callbacks. -/
structure Collected (callbacks : List StateCallback) (core : CollectorCore)
    (buffer : PrefixBuffer) :
    Prop where
  remembered : ∀ subject, core.lastState.get? ("collision_monitor", subject)
    = (latest MonitorMessage.subject MonitorMessage.action
      (monitorMessages callbacks) subject).map .int
  inPlace : InPlace callbacks core.sequence buffer.items
  kept : List.Forall₂ Describes (buffer.items.filter isCollisionMonitor)
    (monitorChanges (monitorMessages callbacks))

section Run

variable {inspection : Inspection} {core : CollectorCore} {buffer : PrefixBuffer}
  {callbacks : List StateCallback} {callback : StateCallback}

theorem monitorMessages_collisionMonitor {message : MonitorMessage} :
  monitorMessages (callbacks ++ [.collisionMonitor message]) =
    monitorMessages callbacks ++ [message]
  := List.filterMap_append

theorem monitorMessages_other {kind : OtherKind} {subject : String} {value : PyValue}
    {stampNs : Int} {details : Evidence} :
  monitorMessages (callbacks ++ [.other kind subject value stampNs details]) =
    monitorMessages callbacks
  := by
  rw [monitorMessages, List.filterMap_append]
  apply List.append_nil

theorem OtherKind.text_ne (kind : OtherKind) :
  kind.text ≠ "collision_monitor"
  := by
  cases kind with
  | waypointFeedback => decide
  | actionStatus => decide
  | lifecycle => decide

/-- The collector drops a message just when it repeats the last action of its polygon. -/
theorem Collected.repeats_iff (h : Collected callbacks core buffer)
    (hequal : ∀ m n : Int, inspection.equal (.int m) (.int n) = decide (m = n))
    (message : MonitorMessage) :
  (core.lastState.get? ("collision_monitor", message.subject)).any
    (inspection.equal · (.int message.action))
      = true
    ↔ Repeats MonitorMessage.subject MonitorMessage.action (monitorMessages callbacks) message
  := by
  rw [h.remembered, Repeats]
  cases latest MonitorMessage.subject MonitorMessage.action
    (monitorMessages callbacks) message.subject with
  | none => simp
  | some action => simp [hequal]

/-- A message is collected, unless the buffer is not clean any more. -/
theorem Collected.onCollisionMonitor (hget : core.buffers.get? "state_events" = some buffer)
    (hequal : ∀ m n : Int, inspection.equal (.int m) (.int n) = decide (m = n))
    (h : buffer.Clean → Collected callbacks core buffer) {message : MonitorMessage}
    (horder : InStampOrder StateCallback.stampNs (callbacks ++ [.collisionMonitor message])) :
  ∃ buffer', (onCollisionMonitor inspection core message).buffers.get? "state_events" = some buffer'
    ∧ (buffer'.Clean → Collected (callbacks ++ [.collisionMonitor message])
      (onCollisionMonitor inspection core message) buffer')
  := by
  rw [Metrics.onCollisionMonitor]
  rcases recordStateTransition_cases hget with
    ⟨hsame, heq⟩ | ⟨hchanged, ⟨buffer', hclean, heq⟩ | ⟨buffer', _, hitems, hclean, heq⟩⟩
  · rw [heq]
    refine ⟨_, by rw [CollectorCore.setBuffer, Dict.get?_set, if_pos rfl], ?_⟩
    intro hclean
    have hbefore := h hclean
    have hrepeats := (hbefore.repeats_iff hequal message).mp hsame
    constructor
    · intro subject
      rw [monitorMessages_collisionMonitor, Changes.latest_concat]
      split
      case isTrue hsubject =>
        rw [← hsubject, ← hrepeats]
        apply hbefore.remembered
      case isFalse => apply hbefore.remembered
    · apply hbefore.inPlace.skip
    · rw [monitorMessages_collisionMonitor, monitorChanges, Changes.changes_concat, if_pos hrepeats,
        List.append_nil]
      apply hbefore.kept
  · rw [heq]
    refine ⟨_, by rw [CollectorCore.setBuffer, Dict.get?_set, if_pos rfl], ?_⟩
    intro hclean'
    exact absurd hclean' hclean
  · rw [heq]
    refine ⟨_, by rw [CollectorCore.setBuffer, Dict.get?_set, if_pos rfl], ?_⟩
    intro hclean'
    have hbefore := h (hclean.mp hclean')
    have hrepeats :
        ¬ Repeats MonitorMessage.subject MonitorMessage.action
          (monitorMessages callbacks) message := by
      rw [← hbefore.repeats_iff hequal message, hchanged]
      decide
    constructor
    · intro subject
      rw [monitorMessages_collisionMonitor, Changes.latest_concat, Dict.get?_set]
      by_cases hsubject : message.subject = subject
      · rw [if_pos hsubject, if_pos (by rw [hsubject])]
        rfl
      · rw [if_neg hsubject, if_neg (fun hkey => hsubject (Prod.mk.inj hkey).2.symm)]
        apply hbefore.remembered
    · rw [hitems]
      apply hbefore.inPlace.concat horder stampItem_transitionItem sequenceItem_transitionItem
    · rw [hitems, List.filter_append, monitorMessages_collisionMonitor, monitorChanges,
        Changes.changes_concat, if_neg hrepeats]
      apply List.rel_append hbefore.kept
      rw [List.filter_cons_of_pos (by rw [isCollisionMonitor_transitionItem]; decide)]
      apply List.Forall₂.cons _ List.Forall₂.nil
      constructor
      · rw [isStop_transitionItem]
        rfl
      · apply stampItem_transitionItem

/-- A change of another kind leaves the messages as they are. -/
theorem Collected.other (hget : core.buffers.get? "state_events" = some buffer)
    (h : buffer.Clean → Collected callbacks core buffer) {kind : OtherKind} {subject : String}
    {value : PyValue} {stampNs : Int} {details : Evidence}
    (horder : InStampOrder StateCallback.stampNs
      (callbacks ++ [.other kind subject value stampNs details])) :
  ∃ buffer', (onState inspection core (.other kind subject value stampNs details)).buffers.get?
    "state_events"
      = some buffer'
    ∧ (buffer'.Clean → Collected (callbacks ++ [.other kind subject value stampNs details])
      (onState inspection core (.other kind subject value stampNs details)) buffer')
  := by
  rw [onState]
  rcases recordStateTransition_cases hget with
    ⟨-, heq⟩ | ⟨-, ⟨buffer', hclean, heq⟩ | ⟨buffer', _, hitems, hclean, heq⟩⟩
  · rw [heq]
    refine ⟨_, by rw [CollectorCore.setBuffer, Dict.get?_set, if_pos rfl], ?_⟩
    intro hclean
    have hbefore := h hclean
    constructor
    · rw [monitorMessages_other]
      apply hbefore.remembered
    · apply hbefore.inPlace.skip
    · rw [monitorMessages_other]
      apply hbefore.kept
  · rw [heq]
    refine ⟨_, by rw [CollectorCore.setBuffer, Dict.get?_set, if_pos rfl], ?_⟩
    intro hclean'
    exact absurd hclean' hclean
  · rw [heq]
    refine ⟨_, by rw [CollectorCore.setBuffer, Dict.get?_set, if_pos rfl], ?_⟩
    intro hclean'
    have hbefore := h (hclean.mp hclean')
    constructor
    · intro subject'
      rw [monitorMessages_other, Dict.get?_set,
        if_neg (fun hkey => kind.text_ne (Prod.mk.inj hkey).1.symm)]
      apply hbefore.remembered
    · rw [hitems]
      apply hbefore.inPlace.concat horder stampItem_transitionItem sequenceItem_transitionItem
    · rw [hitems, List.filter_append, monitorMessages_other, List.filter_cons_of_neg,
        List.filter_nil, List.append_nil]
      · apply hbefore.kept
      · rw [isCollisionMonitor_transitionItem, decide_eq_true_eq]
        apply kind.text_ne

/-- What the collector has after any callbacks, as long as its buffer is clean. -/
theorem collected (hequal : ∀ m n : Int, inspection.equal (.int m) (.int n) = decide (m = n))
    (callbacks : List StateCallback) (horder : InStampOrder StateCallback.stampNs callbacks) :
  ∃ buffer, (afterStates inspection callbacks).buffers.get? "state_events" = some buffer
    ∧ (buffer.Clean → Collected callbacks (afterStates inspection callbacks) buffer)
  := by
  induction callbacks using List.reverseRecOn with
  | nil =>
      refine ⟨{ name := "state_events", capacity := 1024 }, rfl, ?_⟩
      intro _
      exact ⟨fun _ => rfl, ⟨nofun, nofun, List.Pairwise.nil⟩, List.Forall₂.nil⟩
  | append_singleton callbacks callback ih =>
      obtain ⟨buffer, hget, hbefore⟩ := ih (List.pairwise_append.mp horder).1
      rw [afterStates, List.foldl_concat]
      cases callback with
      | collisionMonitor message => apply Collected.onCollisionMonitor hget hequal hbefore horder
      | other kind subject value stampNs details => apply Collected.other hget hbefore horder

end Run

/-- The intervals from the retained events are the spans between the messages they are of. -/
theorem intervalsOf_eq {terminal : Int} {items : List Evidence} {messages : List MonitorMessage}
    (h : List.Forall₂ Describes items messages) :
  intervalsOf terminal items
    = .ok (spans MonitorMessage.stampNs MonitorMessage.isStop terminal messages)
  := by
  induction h with
  | nil => rfl
  | @cons item message items messages hitem hrest ih =>
      have hnext : nextStamp terminal items =
          .ok (nextOr MonitorMessage.stampNs terminal messages) := by
        cases hrest with
        | nil => rfl
        | cons hnext _ =>
            rw [nextStamp, hnext.stamp]
            rfl
      rw [intervalsOf, spans, hitem.value, hitem.stamp, hnext, ih]
      cases hstop : message.isStop with
      | false => rfl
      | true =>
          by_cases hlt : message.stampNs < nextOr MonitorMessage.stampNs terminal messages
          · simp [hlt, requireInt, PyValue.toInteger, PyValue.asInteger]
          · simp [hlt, requireInt, PyValue.toInteger, PyValue.asInteger]

/-- The messages are in the order of their stamps as the callbacks are. -/
theorem monitorMessages_order {callbacks : List StateCallback}
    (h : InStampOrder StateCallback.stampNs callbacks) :
  InStampOrder MonitorMessage.stampNs (monitorMessages callbacks)
  := by
  rw [monitorMessages, InStampOrder, List.pairwise_filterMap]
  apply h.imp
  intro a b hle message hmessage message' hmessage'
  cases a with
  | other kind subject value stampNs details => cases hmessage
  | collisionMonitor m =>
      cases b with
      | other kind subject value stampNs details => cases hmessage'
      | collisionMonitor m' =>
          rw [← Option.some.inj hmessage, ← Option.some.inj hmessage']
          exact hle

/-- The intervals from the retained events are the intervals of STOP just when every STOP is
kept. -/
theorem stopIntervals_exact_iff {inspection : Inspection}
    (hequal : ∀ m n : Int, inspection.equal (.int m) (.int n) = decide (m = n))
    {callbacks : List StateCallback} (horder : InStampOrder StateCallback.stampNs callbacks)
    {buffer : PrefixBuffer}
    (hbuffer : (afterStates inspection callbacks).buffers.get? "state_events" = some buffer)
    (hoverflow : buffer.quality.overflowCount = 0) (hinvalid : buffer.quality.invalidCount = 0)
    (terminal : Int) :
  ∃ intervals, stopIntervals buffer.items terminal = .ok intervals
    ∧ (ExactStops (monitorMessages callbacks) terminal intervals
      ↔ StopsKept (monitorMessages callbacks) terminal)
  := by
  obtain ⟨buffer', hget, hcollected⟩ := collected hequal callbacks horder
  obtain rfl := Option.some.inj (hbuffer.symm.trans hget)
  obtain ⟨-, hinPlace, hkept⟩ := hcollected ⟨hoverflow, hinvalid⟩
  refine ⟨_, ?_, exactStops_spans_iff (monitorMessages_order horder)⟩
  rw [stopIntervals, ordered_ok hinPlace, Except.ok_bind, intervalsOf_eq hkept]

section Sample

/-- Values that are equal as integers. -/
def integerInspection : Inspection where
  equal
    | .int m, .int n => m = n
    | _, _ => false
  typeName _ := "object"

/-- One polygon says STOP twice, with a cleared state of another one between them. -/
def clearedBetween : List StateCallback :=
  [.collisionMonitor ⟨1, "stop", 1⟩, .collisionMonitor ⟨2, "", 0⟩, .collisionMonitor ⟨3, "stop", 1⟩]

def clearedBuffer : PrefixBuffer :=
  ((afterStates integerInspection clearedBetween).buffers.get? "state_events").getD
    { name := "state_events", capacity := 1024 }

/-- Two polygons, each of which changes its action. -/
def alternating : List StateCallback :=
  [.collisionMonitor ⟨1, "stop", 1⟩, .collisionMonitor ⟨2, "slowdown", 2⟩]

def alternatingBuffer : PrefixBuffer :=
  ((afterStates integerInspection alternating).buffers.get? "state_events").getD
    { name := "state_events", capacity := 1024 }

/-- The polygons change their actions in turn. -/
theorem stopIntervals_exact_iff_alternating :
  ∃ intervals, stopIntervals alternatingBuffer.items 10 = .ok intervals
    ∧ (ExactStops (monitorMessages alternating) 10 intervals ↔
      StopsKept (monitorMessages alternating) 10)
  := @stopIntervals_exact_iff integerInspection (fun _ _ => rfl) alternating
    (by unfold InStampOrder; decide) alternatingBuffer rfl rfl rfl 10

/-- The second STOP of the polygon is lost. -/
theorem stopIntervals_reentry_lost :
  InStampOrder StateCallback.stampNs clearedBetween
    ∧ (afterStates integerInspection clearedBetween).buffers.get? "state_events" =
      some clearedBuffer
    ∧ clearedBuffer.quality.overflowCount = 0 ∧ clearedBuffer.quality.invalidCount = 0
    ∧ stopIntervals clearedBuffer.items 10 = .ok [(1, 2)]
    ∧ CurrentlyStop (monitorMessages clearedBetween) 3
    ∧ ¬ ExactStops (monitorMessages clearedBetween) 10 [(1, 2)]
  := by
  have hcurrently : CurrentlyStop (monitorMessages clearedBetween) 3 :=
    ⟨⟨3, "stop", 1⟩, by decide, by decide⟩
  refine ⟨by unfold InStampOrder; decide, rfl, rfl, rfl, by decide, hcurrently, ?_⟩
  intro hexact
  obtain ⟨interval, hmem, -, hlt⟩ := (hexact.covers 3).mpr ⟨by decide, hcurrently⟩
  obtain rfl := List.mem_singleton.mp hmem
  exact absurd hlt (by decide)

end Sample

end Metrics

end RobotestLab
