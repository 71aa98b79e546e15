import RobotestLab.Supervisor.Circuit
import RobotestLab.Supervisor.Turns

/-!
# The order of the restarts

The restarts of the children in the events of a run. A child owes a start from the event that
schedules its restart until the event of its next start. The restarts that are counted by the
manager are the starts of children that owe one, but for a start that was just committed
(`Manages.turns`).
-/

namespace RobotestLab

namespace Supervisor

/-! ### Starts that are owed -/

/-- The children that owe a start, after one more event. -/
def oweAfter (owed : String → Bool) (event : Event) : String → Bool :=
  match event.mark with
  | .scheduled => Function.update owed event.child true
  | .started => Function.update owed event.child false
  | _ => owed

/-- The children that owe a start after the events. -/
def owedAfter (events : List Event) : String → Bool := events.foldl oweAfter fun _ => false

/-- The children that are restarted by the events, one by one. -/
def restartsFrom (owed : String → Bool) : List Event → List String
  | [] => []
  | event :: events =>
      (if event.mark = .started ∧ owed event.child = true then [event.child] else []) ++
        restartsFrom (oweAfter owed event) events

def restartsOf (events : List Event) : List String := restartsFrom (fun _ => false) events

/-- A child is only started while no other child owes a start. -/
def InTurnFrom (owed : String → Bool) : List Event → Prop
  | [] => True
  | event :: events =>
      (event.mark = .started → ∀ name, name ≠ event.child → owed name = false) ∧
        InTurnFrom (oweAfter owed event) events

def StartsInTurn (events : List Event) : Prop := InTurnFrom (fun _ => false) events

section Owed

variable {owed : String → Bool} {events events' : List Event} {event : Event}

theorem restartsFrom_append :
  restartsFrom owed (events ++ events') =
    restartsFrom owed events ++ restartsFrom (events.foldl oweAfter owed) events'
  := by
  induction events generalizing owed with
  | nil => rfl
  | cons event events ih =>
      rw [List.cons_append, restartsFrom, restartsFrom, ih, List.append_assoc]
      rfl

theorem inTurnFrom_append :
  InTurnFrom owed (events ++ events') ↔
    InTurnFrom owed events ∧ InTurnFrom (events.foldl oweAfter owed) events'
  := by
  induction events generalizing owed with
  | nil => simp [InTurnFrom]
  | cons event events ih =>
      rw [List.cons_append, InTurnFrom, InTurnFrom, ih, and_assoc]
      rfl

theorem owedAfter_concat : owedAfter (events ++ [event]) = oweAfter (owedAfter events) event
  := List.foldl_append

theorem restartsOf_concat :
  restartsOf (events ++ [event]) = restartsOf events ++
    if event.mark = .started ∧ owedAfter events event.child = true then [event.child] else []
  := by
  rw [restartsOf, restartsFrom_append, restartsFrom, restartsFrom, List.append_nil]
  rfl

/-- Other events owe nothing and start nothing. -/
theorem oweAfter_of_ne (h : event.mark ≠ .scheduled) (h' : event.mark ≠ .started) :
  oweAfter owed event = owed
  := by
  unfold oweAfter
  cases hmark : event.mark with
  | scheduled => exact absurd hmark h
  | started => exact absurd hmark h'
  | _ => rfl

/-- Without a schedule nothing is owed, nothing is restarted and every start is in turn. -/
theorem nothing_owed (h : ∀ event ∈ events, event.mark ≠ .scheduled) :
  events.foldl oweAfter (fun _ => false) = (fun _ => false) ∧
    restartsFrom (fun _ => false) events = [] ∧ InTurnFrom (fun _ => false) events
  := by
  induction events with
  | nil => exact ⟨rfl, rfl, trivial⟩
  | cons event events ih =>
      have hsame : oweAfter (fun _ => false) event = fun _ => false := by
        unfold oweAfter
        cases hmark : event.mark with
        | scheduled => exact absurd hmark (h event List.mem_cons_self)
        | started => exact Function.update_eq_self (f := fun _ => false) event.child
        | _ => rfl
      obtain ⟨howed, hrestarts, hturn⟩ := ih fun e he => h e (List.mem_cons_of_mem _ he)
      rw [List.foldl_cons, hsame, restartsFrom, hsame, InTurnFrom, hsame]
      refine ⟨howed, ?_, fun _ _ _ => rfl, hturn⟩
      rw [if_neg nofun, hrestarts]
      rfl

end Owed

/-! ### Restarts that the manager counts -/

/-- The child whose restart an action counts. -/
def countedRestart : Performed managerActions Goroutine → Option String
  | ⟨_, .commitStart name _ _ restarted, committed⟩ =>
      if restarted = true ∧ committed = true then some name else none
  | _ => none

/-- The children whose restarts were counted, one by one. -/
def countedRestarts (history : History) : List String := history.filterMap countedRestart

/-- The manager counts the restarts of a child one by one. -/
theorem restartCount_perform {i : Goroutine} {a : Action} {c : a.Choice} {r : a.Answer}
    {w w' : World}
    (h : w.perform i a c = some (r, w')) (name : String) :
  (w'.children name).state.restartCount =
    if countedRestart ⟨i, a, r⟩ = some name then (w.children name).state.restartCount + 1
    else (w.children name).state.restartCount
  := by
  have hkeeps : ∀ (n : String) (f : ChildRuntime → ChildRuntime),
      (∀ runtime, (f runtime).state.restartCount = runtime.state.restartCount) →
      ((w.updateChild n f).children name).state.restartCount =
        (w.children name).state.restartCount :=
    fun n f hf => children_updateChild (fun runtime => runtime.state.restartCount) w n hf name
  cases a with
  | commitStart n startedAt pid restarted =>
      simp only [World.perform] at h
      split at h
      · obtain ⟨rfl, rfl⟩ := Prod.mk.inj (Option.some.inj h)
        by_cases hn : name = n
        · subst hn
          cases restarted with
          | _ => simp [World.updateChild, countedRestart, ChildRuntime.startCommitted]
        · have hne : ¬ n = name := fun heq => hn heq.symm
          simp [World.updateChild, countedRestart, hn, hne]
      · obtain ⟨rfl, rfl⟩ := Prod.mk.inj (Option.some.inj h)
        simp [countedRestart]
  | commitFailure n kind code now processExited =>
      rw [if_neg (by simp [countedRestart])]
      simp only [World.perform] at h
      split at h
      · obtain ⟨-, rfl⟩ := Prod.mk.inj (Option.some.inj h)
        apply hkeeps
        intro runtime
        rfl
      · obtain ⟨-, rfl⟩ := Prod.mk.inj (Option.some.inj h)
        rfl
  | commitRestart n now continuousReady =>
      rw [if_neg (by simp [countedRestart])]
      simp only [World.perform] at h
      split at h
      · obtain ⟨-, rfl⟩ := Prod.mk.inj (Option.some.inj h)
        apply hkeeps
        intro runtime
        rfl
      · obtain ⟨-, rfl⟩ := Prod.mk.inj (Option.some.inj h)
        rfl
  | publishIncomplete n pgid cleanup now =>
      rw [if_neg (by simp [countedRestart])]
      obtain ⟨-, rfl⟩ := Prod.mk.inj (Option.some.inj h)
      exact hkeeps n (fun runtime => runtime.cleanupIncomplete pgid cleanup now) fun _ => rfl
  | publishStopped n code =>
      rw [if_neg (by simp [countedRestart])]
      obtain ⟨-, rfl⟩ := Prod.mk.inj (Option.some.inj h)
      apply hkeeps
      intro runtime
      rfl
  | publishHeartbeat n fresh age =>
      rw [if_neg (by simp [countedRestart])]
      obtain ⟨-, rfl⟩ := Prod.mk.inj (Option.some.inj h)
      apply hkeeps
      intro runtime
      rfl
  | _ =>
      rw [children_perform h rfl, if_neg (by simp [countedRestart])]

/-! ### Turns in a run -/

/-- The turn of a goroutine after a history. -/
def turnOf (i : Goroutine) (history : History) : Turn := (turning i).after ({} : Turn) i history

/-- The child of an event that was appended. -/
theorem append_child {store : EventStore} {now : Utc} {event : Event} {d d' : Directory}
    {u : List ioSignature.Interaction} {appended : Appended}
    (h : Program.Runs (append store now event) d u (.ok appended) d') :
  appended.event.child = event.child
  := by
  obtain ⟨⟨-, hevent⟩ | ⟨-, hevent⟩, -⟩ := append_returns h
  · rw [hevent]
  · rw [hevent]
    rfl

section Runs

variable {cfg : Config} {store : EventStore} {directory : Directory} {history : History}
  {p : Pool managerActions Goroutine World} {i j : Goroutine} {a : Action} {r : a.Answer}

theorem turnOf_snoc :
  turnOf j (history ++ [⟨i, a, r⟩]) =
    if j = i then (turnOf i history).next a r else turnOf j history
  := by
  split
  · rename_i hj
    rw [hj]
    apply Protocol.after_own (P := turning i) a r
  · rename_i hj
    apply Protocol.after_other (P := turning j)
    exact fun hi => hj hi.symm

/-- A property that every action of the protocol of the turns keeps holds in every run. -/
theorem Manages.turning_invariant (Inv : History → World → Prop)
    (hinit : Inv [] (World.new cfg store directory))
    (hstep : ∀ history p i a r w, Manages cfg store directory history p → Inv history p.shared →
      (turnOf i history).Allows i a → managerSemantics i a p.shared r w →
      Inv (history ++ [⟨i, a, r⟩]) w)
    (h : Manages cfg store directory history p) :
  Inv history p.shared
  := by
  apply Pool.Reaches.invariant (P := turning) (q := fun _ => ({} : Turn)) Inv _ _ hinit hstep h
  · apply turns_goroutine
  · intro i a w r w' _
    trivial

/-- What the events of a run tell about the turns of the children. -/
structure Turns (history : History) : Prop where
  owed : ∀ name, owedAfter (recorded history) name = (turnOf (.child name) history).owed
  committed : ∀ i, ∀ restarted ∈ (turnOf i history).committed, (turnOf i history).owed = restarted
  failed : ∀ i, (turnOf i history).failed = true →
    ∃ event ∈ recorded history, ∃ b, event.mark = .failed b
  scheduled : (∀ event ∈ recorded history, ∀ b, event.mark ≠ .failed b) →
    ∀ event ∈ recorded history, event.mark ≠ .scheduled
  counts : ∀ name, (countedRestarts history).count name =
    (restartsOf (recorded history)).count name +
    if (turnOf (.child name) history).committed = some true then 1 else 0

theorem countedRestarts_snoc (e : Performed managerActions Goroutine) :
  countedRestarts (history ++ [e]) = countedRestarts history ++ (countedRestart e).toList
  := by
  rw [countedRestarts, List.filterMap_append, countedRestarts]
  cases hcounted : countedRestart e with
  | _ => simp [hcounted]

/-- An action that is not an event and commits no start. -/
theorem Turns.skip (h : Turns history) (ha : ∀ now event, a ≠ .append now event)
    (hnext : (turnOf i history).next a r = turnOf i history)
    (hcounted : countedRestart ⟨i, a, r⟩ = none) :
  Turns (history ++ [⟨i, a, r⟩])
  := by
  have hturn : ∀ j, turnOf j (history ++ [⟨i, a, r⟩]) = turnOf j history := by
    intro j
    rw [turnOf_snoc, hnext]
    apply ite_eq_right_iff.mpr
    rintro rfl
    rfl
  constructor
  · intro name
    rw [recorded_snoc_of_ne ha, hturn]
    apply h.owed
  · intro j
    rw [hturn]
    apply h.committed
  · intro j
    rw [recorded_snoc_of_ne ha, hturn]
    apply h.failed
  · rw [recorded_snoc_of_ne ha]
    apply h.scheduled
  · intro name
    rw [countedRestarts_snoc, hcounted, recorded_snoc_of_ne ha, hturn, Option.toList_none,
      List.append_nil]
    apply h.counts

/-- A start that is committed. -/
theorem Turns.commit (h : Turns history) {name : String} {startedAt : Time} {pid : Int64}
    {restarted : Bool} (hnone : (turnOf (.child name) history).committed = none)
    (howed : restarted = (turnOf (.child name) history).owed) :
  Turns (history ++ [⟨.child name, .commitStart name startedAt pid restarted, true⟩])
  := by
  have hrecorded : recorded (history ++
      [⟨.child name, .commitStart name startedAt pid restarted, true⟩]) = recorded history :=
    recorded_snoc_of_ne nofun
  constructor
  · intro name'
    rw [hrecorded, turnOf_snoc, h.owed]
    split
    · rename_i hname
      rw [hname]
      rfl
    · rfl
  · intro j
    rw [turnOf_snoc]
    split
    · rintro b hb
      rw [← Option.some.inj hb, howed]
      rfl
    · apply h.committed
  · intro j
    rw [hrecorded, turnOf_snoc]
    split
    · apply h.failed
    · apply h.failed
  · rw [hrecorded]
    apply h.scheduled
  · intro name'
    have hbefore := h.counts name'
    rw [countedRestarts_snoc, hrecorded, turnOf_snoc, List.count_append, hbefore]
    by_cases hname : name' = name
    · subst hname
      rw [hnone]
      cases restarted with
      | _ => simp [countedRestart, Turn.next]
    · have hne : ¬ name = name' := fun heq => hname heq.symm
      cases restarted with
      | _ => simp [countedRestart, hname, hne]

section Tell

variable {now : Time} {event : Event} {answer : Event × Err}

theorem turnOf_told :
  turnOf j (history ++ [⟨i, .append now event, answer⟩]) =
    if j = i then (turnOf i history).tell event.mark else turnOf j history
  := turnOf_snoc

theorem countedRestarts_told :
  countedRestarts (history ++ [⟨i, .append now event, answer⟩]) = countedRestarts history
  := by
  rw [countedRestarts_snoc]
  apply List.append_nil

/-- An event that is neither a start nor a schedule. -/
theorem Turns.other (h : Turns history) (hmark : answer.1.mark = event.mark)
    (hstarted : event.mark ≠ .started) (hscheduled : event.mark ≠ .scheduled) :
  Turns (history ++ [⟨i, .append now event, answer⟩])
  := by
  have howes : ∀ owed, oweAfter owed answer.1 = owed := by
    intro owed
    apply oweAfter_of_ne
    · rw [hmark]
      exact hscheduled
    · rw [hmark]
      exact hstarted
  have hsame : ∀ q : Turn, (q.tell event.mark).owed = q.owed ∧
      (q.tell event.mark).committed = q.committed := by
    intro q
    cases hm : event.mark with
    | started => exact absurd hm hstarted
    | scheduled => exact absurd hm hscheduled
    | _ => exact ⟨rfl, rfl⟩
  have hkeeps : ∀ j, (turnOf j (history ++ [⟨i, .append now event, answer⟩])).owed =
      (turnOf j history).owed ∧ (turnOf j (history ++ [⟨i, .append now event, answer⟩])).committed =
      (turnOf j history).committed := by
    intro j
    rw [turnOf_told]
    split
    · rename_i hj
      rw [hj]
      apply hsame
    · exact ⟨rfl, rfl⟩
  constructor
  · intro name
    rw [recorded_snoc_append, owedAfter_concat, howes, (hkeeps _).1]
    apply h.owed
  · intro j
    rw [(hkeeps j).1, (hkeeps j).2]
    apply h.committed
  · intro j hfailed
    rw [recorded_snoc_append]
    have hmem : (turnOf j history).failed = true ∨ ∃ b, event.mark = .failed b := by
      rw [turnOf_told] at hfailed
      split at hfailed
      · rename_i hj
        rw [hj]
        cases hm : event.mark with
        | failed b => exact Or.inr ⟨b, rfl⟩
        | _ =>
            rw [hm] at hfailed
            exact Or.inl hfailed
      · exact Or.inl hfailed
    rcases hmem with hold | ⟨b, hb⟩
    · obtain ⟨e, he, hb⟩ := h.failed j hold
      exact ⟨e, List.mem_append_left _ he, hb⟩
    · exact ⟨answer.1, List.mem_append_right _ List.mem_cons_self, b, hmark.trans hb⟩
  · rw [recorded_snoc_append]
    intro hnever e he
    rcases List.mem_append.mp he with he | he
    · apply h.scheduled _ e he
      intro e he
      apply hnever e (List.mem_append_left _ he)
    · rw [List.mem_singleton.mp he, hmark]
      exact hscheduled
  · intro name
    rw [countedRestarts_told, recorded_snoc_append, restartsOf_concat, (hkeeps _).2, hmark,
      if_neg fun hboth => hstarted hboth.1, List.append_nil]
    apply h.counts

/-- A restart that is scheduled. -/
theorem Turns.schedule (h : Turns history) (hmark : answer.1.mark = event.mark)
    (hchild : answer.1.child = event.child) (hscheduled : event.mark = .scheduled)
    (hfailed : (turnOf (.child event.child) history).failed = true)
    (hnone : (turnOf (.child event.child) history).committed = none) :
  Turns (history ++ [⟨.child event.child, .append now event, answer⟩])
  := by
  have hanswer : answer.1.mark = .scheduled := hmark.trans hscheduled
  have htold : ∀ j, turnOf j (history ++ [⟨.child event.child, .append now event, answer⟩]) =
      if j = .child event.child then { turnOf (.child event.child) history with owed := true }
      else turnOf j history := by
    intro j
    rw [turnOf_told, hscheduled]
    rfl
  have hcommitted : ∀ j,
      (turnOf j (history ++ [⟨.child event.child, .append now event, answer⟩])).committed =
        (turnOf j history).committed := by
    intro j
    rw [htold]
    split
    · rename_i hj
      rw [hj]
    · rfl
  constructor
  · intro name
    rw [recorded_snoc_append, owedAfter_concat, oweAfter, hanswer, hchild, htold]
    by_cases hname : name = event.child
    · rw [hname, if_pos rfl]
      apply Function.update_self
    · rw [if_neg fun hj => hname (Goroutine.child.inj hj)]
      exact (Function.update_of_ne hname _ _).trans (h.owed name)
  · intro j b hb
    rw [hcommitted] at hb
    rw [htold]
    split
    · rename_i hj
      rw [hj, hnone] at hb
      cases hb
    · apply h.committed j b hb
  · intro j hj
    rw [recorded_snoc_append]
    have hold : (turnOf j history).failed = true := by
      rw [htold] at hj
      split at hj
      · rename_i heq
        rw [heq]
        exact hfailed
      · exact hj
    obtain ⟨e, he, hb⟩ := h.failed j hold
    exact ⟨e, List.mem_append_left _ he, hb⟩
  · rw [recorded_snoc_append]
    intro hnever
    obtain ⟨e, he, b, hb⟩ := h.failed _ hfailed
    exact absurd hb (hnever e (List.mem_append_left _ he) b)
  · intro name
    rw [countedRestarts_told, recorded_snoc_append, restartsOf_concat, hcommitted, hanswer,
      if_neg nofun, List.append_nil]
    apply h.counts

/-- A start that was committed is recorded. -/
theorem Turns.start (h : Turns history) (hmark : answer.1.mark = event.mark)
    (hchild : answer.1.child = event.child) (hstarted : event.mark = .started)
    (hsome : (turnOf (.child event.child) history).committed.isSome = true) :
  Turns (history ++ [⟨.child event.child, .append now event, answer⟩])
  := by
  have hanswer : answer.1.mark = .started := hmark.trans hstarted
  have htold : ∀ j, turnOf j (history ++ [⟨.child event.child, .append now event, answer⟩]) =
      if j = .child event.child then
        { turnOf (.child event.child) history with owed := false, committed := none }
      else turnOf j history := by
    intro j
    rw [turnOf_told, hstarted]
    rfl
  constructor
  · intro name
    rw [recorded_snoc_append, owedAfter_concat, oweAfter, hanswer, hchild, htold]
    by_cases hname : name = event.child
    · rw [hname, if_pos rfl]
      apply Function.update_self
    · rw [if_neg fun hj => hname (Goroutine.child.inj hj)]
      exact (Function.update_of_ne hname _ _).trans (h.owed name)
  · intro j b hb
    rw [htold] at hb ⊢
    split
    · rename_i hj
      rw [if_pos hj] at hb
      cases hb
    · rename_i hj
      rw [if_neg hj] at hb
      apply h.committed j b hb
  · intro j hj
    rw [recorded_snoc_append]
    have hold : (turnOf j history).failed = true := by
      rw [htold] at hj
      split at hj
      · rename_i heq
        rw [heq]
        exact hj
      · exact hj
    obtain ⟨e, he, hb⟩ := h.failed j hold
    exact ⟨e, List.mem_append_left _ he, hb⟩
  · rw [recorded_snoc_append]
    intro hnever e he
    rcases List.mem_append.mp he with he | he
    · apply h.scheduled _ e he
      intro e he
      apply hnever e (List.mem_append_left _ he)
    · rw [List.mem_singleton.mp he, hanswer]
      nofun
  · intro name
    have hbefore := h.counts name
    rw [countedRestarts_told, recorded_snoc_append, restartsOf_concat, hanswer, hchild, htold,
      hbefore, h.owed, List.count_append]
    obtain ⟨restarted, hrestarted⟩ := Option.isSome_iff_exists.mp hsome
    rw [h.committed _ restarted hrestarted]
    by_cases hname : name = event.child
    · rw [hname, hrestarted]
      cases restarted with
      | _ => simp
    · have hne : ¬ event.child = name := fun heq => hname heq.symm
      cases restarted with
      | _ => simp [hname, hne]

end Tell

theorem Manages.turns (h : Manages cfg store directory history p) :
  Turns history
  := by
  apply Manages.turning_invariant (fun history _ => Turns history) _ _ h
  · exact ⟨fun _ => rfl, nofun, nofun, nofun, fun _ => rfl⟩
  · intro history p i a r w _ hturns hallows hexec
    cases a with
    | append now event =>
        obtain ⟨appended, directory', u, hruns, rfl, -⟩ := perform_append hexec
        have hmark := (append_mark hruns).1
        have hchild := append_child hruns
        change (turnOf i history).CanTell i event at hallows
        unfold Turn.CanTell at hallows
        cases hm : event.mark with
        | started =>
            rw [hm] at hallows
            obtain ⟨rfl, hsome⟩ := hallows
            apply hturns.start hmark hchild hm hsome
        | scheduled =>
            rw [hm] at hallows
            obtain ⟨rfl, hfailed, hnone⟩ := hallows
            apply hturns.schedule hmark hchild hm hfailed hnone
        | _ =>
            apply hturns.other hmark
            · rw [hm]
              nofun
            · rw [hm]
              nofun
    | commitStart name startedAt pid restarted =>
        obtain ⟨rfl, hnone, howed⟩ := hallows
        cases r with
        | true => apply hturns.commit hnone howed
        | false =>
            apply hturns.skip (fun _ _ h => by cases h) rfl
            exact if_neg nofun
    | _ => apply hturns.skip (fun _ _ h => by cases h) rfl rfl

/-- When nobody owes a start, the restarts that were counted are those in the events. -/
theorem Turns.counted (h : Turns history)
    (hnobody : ∀ name, owedAfter (recorded history) name = false) :
  (countedRestarts history).length = (restartsOf (recorded history)).length
  := by
  apply List.Perm.length_eq
  rw [List.perm_iff_count]
  intro name
  rw [h.counts, if_neg, Nat.add_zero]
  intro hcommitted
  have howed := h.committed _ true hcommitted
  rw [← h.owed, hnobody] at howed
  cases howed

/-- As long as no failure is recorded, no restart is counted and no start is owed. -/
theorem Turns.unfailed (h : Turns history)
    (hnever : ∀ event ∈ recorded history, ∀ b, event.mark ≠ .failed b) :
  owedAfter (recorded history) = (fun _ => false) ∧ restartsOf (recorded history) = [] ∧
    StartsInTurn (recorded history) ∧ countedRestarts history = []
  := by
  obtain ⟨howed, hrestarts, hturn⟩ := nothing_owed (h.scheduled hnever)
  refine ⟨howed, hrestarts, hturn, ?_⟩
  rw [← List.length_eq_zero_iff, h.counted, restartsOf, hrestarts]
  · rfl
  · intro name
    rw [owedAfter, howed]

/-- The state of a child counts its restarts. -/
theorem Manages.restartCount (h : Manages cfg store directory history p) (name : String) :
  (p.shared.children name).state.restartCount = Int64.ofNat ((countedRestarts history).count name)
  := by
  apply Manages.turning_invariant (fun history w =>
    (w.children name).state.restartCount = Int64.ofNat ((countedRestarts history).count name)) _ _ h
  · rfl
  · intro history p i a r w _ hcount _ hexec
    obtain ⟨c, hperform⟩ := hexec
    rw [restartCount_perform hperform, hcount, countedRestarts_snoc, List.count_append,
      Int64.ofNat_add]
    cases hcounted : countedRestart ⟨i, a, r⟩ with
    | none => simp
    | some name' =>
        by_cases hname : name' = name
        · simp [hname]
        · simp [hname]

/-- The restart count of a child is the number of its restarts in the recorded events, and one more
from the moment a restart is committed to the moment its start is recorded. -/
theorem restart_count_recorded (h : Manages cfg store directory history p) (name : String) :
  (p.shared.children name).state.restartCount =
    Int64.ofNat ((restartsOf (recorded history)).count name +
      if (turnOf (.child name) history).committed = some true then 1 else 0)
  := by
  rw [h.restartCount, h.turns.counts]

/-- The restart count of the child is one. -/
def restartedOnce (_ : History) (p : Pool managerActions Goroutine World) : Bool :=
  (p.shared.children "stack").state.restartCount == 1

/-- The child was restarted once before its circuit opened. -/
theorem restart_count_recorded_sample :
  ∃ history p, Manages sampleConfig sampleStore {} history p ∧
    (p.shared.children "stack").state.restartCount = 1 ∧
    (p.shared.children "stack").state.restartCount =
      Int64.ofNat ((restartsOf (recorded history)).count "stack" +
        if (turnOf (.child "stack") history).committed = some true then 1 else 0)
  := by
  obtain ⟨history, p, hmanages, hcheck⟩ := manages_of_simulate sampleConfig sampleStore {}
    circuitTurns restartedOnce (by decide +kernel)
  exact ⟨history, p, hmanages, eq_of_beq hcheck, restart_count_recorded hmanages "stack"⟩

/-- As long as no failure is recorded, no restart is scheduled and no child is restarted. -/
theorem no_restart_unfailed (h : Manages cfg store directory history p)
    (hnever : ∀ event ∈ recorded history, ∀ b, event.mark ≠ .failed b) :
  (∀ event ∈ recorded history, event.mark ≠ .scheduled) ∧
    ∀ name, (p.shared.children name).state.restartCount = 0
  := by
  obtain ⟨-, -, -, hcounted⟩ := h.turns.unfailed hnever
  refine ⟨h.turns.scheduled hnever, ?_⟩
  intro name
  rw [h.restartCount, hcounted]
  rfl

/-- The event reports a failure. -/
def reportsFailure (event : Event) : Bool :=
  match event.mark with
  | .failed _ => true
  | _ => false

/-- The child is started and stopped without a failure. -/
theorem no_restart_unfailed_sample :
  ∃ history p, Manages sampleConfig sampleStore {} history p ∧
    (∃ event ∈ recorded history, event.mark = .started) ∧
    (∀ event ∈ recorded history, event.mark ≠ .scheduled) ∧
    ∀ name, (p.shared.children name).state.restartCount = 0
  := by
  obtain ⟨history, p, hmanages, hcheck⟩ :=
    manages_of_simulate sampleConfig sampleStore {} sampleTurns
    (fun history _ => (recorded history).any (fun event => event.mark == .started) &&
      !(recorded history).any reportsFailure) (by decide +kernel)
  rw [Bool.and_eq_true, List.any_eq_true, Bool.not_eq_true', List.any_eq_false] at hcheck
  obtain ⟨⟨event, hmem, hstarted⟩, hfailures⟩ := hcheck
  refine ⟨history, p, hmanages, ⟨event, hmem, eq_of_beq hstarted⟩, no_restart_unfailed hmanages ?_⟩
  intro event hmem b hmark
  apply hfailures event hmem
  unfold reportsFailure
  rw [hmark]

end Runs

end Supervisor

end RobotestLab
