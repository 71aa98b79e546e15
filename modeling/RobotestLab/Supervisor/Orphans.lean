import RobotestLab.Supervisor.Groups

/-!
# No orphaned process group

`Run` waits for the goroutines of all children. A child ends only when its last process group is
cleaned up, or after it left an error for the run. So when `Run` returns without an error, every
process group that was started is cleaned up, whatever the processes and the goroutines did.
-/

namespace RobotestLab

namespace Supervisor

/-! ### What an action leaves unchanged -/

section Frame

variable {i : Goroutine} {a : Action} {c : a.Choice} {r : a.Answer} {w w' : World} {q : Progress}

theorem wg_perform (h : w.perform i a c = some (r, w')) (hspawn : ∀ g, a ≠ .spawn g)
    (hdone : a ≠ .wgDone) :
  w'.wg = w.wg
  := by
  cases a with
  | spawn g => cases hspawn g rfl
  | wgDone => cases hdone rfl
  | _ =>
      simp only [World.perform] at h
      grind [World.updateChild]

theorem done_perform (h : w.perform i a c = some (r, w')) (hclose : a ≠ .closeDone) :
  w'.done = w.done
  := by
  cases a with
  | closeDone => cases hclose rfl
  | _ =>
      simp only [World.perform] at h
      grind [World.updateChild]

/-- The goroutines that `Run` started. -/
theorem spawned_next (hspawn : ∀ g, a ≠ .spawn g) :
  (q.next a r).spawned = q.spawned ∧ (q.next a r).isSealed = q.isSealed
  := by
  cases a with
  | spawn g => cases hspawn g rfl
  | _ =>
      unfold Progress.next
      grind [Progress.updateGroup, Progress.start, Progress.hold]

theorem begun_next (hbegin : a ≠ .begin) :
  (q.next a r).begun = q.begun
  := by
  cases a with
  | begin => cases hbegin rfl
  | _ =>
      unfold Progress.next
      grind [Progress.updateGroup, Progress.start, Progress.hold]

theorem finished_next (hdone : a ≠ .wgDone) :
  (q.next a r).finished = q.finished
  := by
  cases a with
  | wgDone => cases hdone rfl
  | _ =>
      unfold Progress.next
      grind [Progress.updateGroup, Progress.start, Progress.hold]

theorem waited_next (hwait : a ≠ .wgWait) :
  (q.next a r).waited = q.waited
  := by
  cases a with
  | wgWait => cases hwait rfl
  | _ =>
      unfold Progress.next
      grind [Progress.updateGroup, Progress.start, Progress.hold]

theorem joined_next (h : (q.next a r).joined = true) (hjoined : q.joined = false) :
  ∃ timeout, (⟨i, a, r⟩ : Performed managerActions Goroutine) =
    ⟨i, .selectShutdown timeout, .done⟩
  := by
  cases a with
  | selectShutdown timeout =>
      cases r with
      | done => exact ⟨timeout, rfl⟩
      | timeout =>
          rw [Progress.next, hjoined] at h
          cases h
  | _ =>
      unfold Progress.next at h
      grind [Progress.updateGroup, Progress.start, Progress.hold]

theorem incomplete_next
    (hpublish : ∀ name pgid cleanup now, a ≠ .publishIncomplete name pgid cleanup now) :
  (q.next a r).incomplete = q.incomplete
  := by
  cases a with
  | publishIncomplete name pgid cleanup now => cases hpublish name pgid cleanup now rfl
  | _ =>
      unfold Progress.next
      grind [Progress.updateGroup, Progress.start, Progress.hold]

theorem clean_next (hterminal : a ≠ .terminalError) :
  (q.next a r).clean = q.clean
  := by
  cases a with
  | terminalError => cases hterminal rfl
  | _ =>
      unfold Progress.next
      grind [Progress.updateGroup, Progress.start, Progress.hold]

end Frame

/-! ### The wait group -/

/-- The children that `Run` started. -/
def spawnedChildren (history : History) : List String := (progress .run history).spawned

/-- The goroutine of the child ended. -/
def Finished (history : History) (name : String) : Prop :=
  (progress (.child name) history).finished = true

instance (history : History) (name : String) : Decidable (Finished history name) :=
  inferInstanceAs (Decidable (_ = true))

/-- `Run` starts no more children, and the goroutines of all children ended. -/
structure Over (history : History) : Prop where
  isSealed : (progress .run history).isSealed = true
  finished : ∀ name ∈ spawnedChildren history, Finished history name

section WaitGroup

variable {cfg : Config} {store : EventStore} {directory : Directory} {history : History}
  {p : Pool managerActions Goroutine World} {i : Goroutine} {a : Action} {r : a.Answer}

/-- An action that starts no goroutine. -/
theorem spawnedChildren_snoc (history : History) (hspawn : ∀ g, a ≠ .spawn g) :
  spawnedChildren (history ++ [⟨i, a, r⟩]) = spawnedChildren history ∧
    (progress .run (history ++ [⟨i, a, r⟩])).isSealed = (progress .run history).isSealed
  := by
  unfold spawnedChildren
  rw [progress_snoc]
  split
  · exact spawned_next hspawn
  · exact ⟨rfl, rfl⟩

/-- `Run` starts a goroutine. -/
theorem spawnedChildren_spawn (history : History) (g : Goroutine) :
  spawnedChildren (history ++ [⟨.run, .spawn g, ()⟩]) = spawnedChildren history ++ (match g with
    | .child name => [name]
    | _ => []) ∧
    (progress .run (history ++ [⟨.run, .spawn g, ()⟩])).isSealed =
      ((progress .run history).isSealed || g = .waiter)
  := by
  unfold spawnedChildren
  rw [progress_own]
  cases g with
  | _ => simp [Progress.next]

theorem Finished.snoc {name : String} (h : Finished history name) :
  Finished (history ++ [⟨i, a, r⟩]) name
  := by
  unfold Finished
  rw [progress_snoc]
  split
  · by_cases hdone : a = .wgDone
    · subst hdone
      rfl
    · rw [finished_next hdone]
      exact h
  · exact h

/-- A goroutine ends by its own last action. -/
theorem finished_snoc_iff (history : History) (name : String) (h : a ≠ .wgDone ∨ i ≠ .child name) :
  Finished (history ++ [⟨i, a, r⟩]) name ↔ Finished history name
  := by
  unfold Finished
  rw [progress_snoc]
  split
  · rename_i hi
    rw [finished_next (h.resolve_right (not_not_intro hi))]
  · exact Iff.rfl

/-- The end of the children lasts. -/
theorem Over.snoc (h : Over history) (hallowed : AllowedAction i (progress i history) a) :
  Over (history ++ [⟨i, a, r⟩])
  := by
  by_cases hspawn : ∃ g, a = .spawn g
  · obtain ⟨g, rfl⟩ := hspawn
    obtain ⟨rfl, hfresh⟩ := hallowed
    obtain ⟨hspawned, hsealed⟩ := spawnedChildren_spawn history g
    constructor
    · exact hsealed.trans (by rw [h.isSealed]; rfl)
    · intro name hname
      rw [hspawned] at hname
      cases g with
      | child n =>
          have hopen := (hfresh n rfl).1
          rw [h.isSealed] at hopen
          cases hopen
      | _ => exact (h.finished name (by simpa using hname)).snoc
  · obtain ⟨hspawned, hsealed⟩ := spawnedChildren_snoc history (i := i) (r := r)
      (fun g hg => hspawn ⟨g, hg⟩)
    constructor
    · exact hsealed.trans h.isSealed
    · intro name hname
      rw [hspawned] at hname
      exact (h.finished name hname).snoc

/-- What the shared state says about the goroutines that `Run` started. -/
structure Spawns (history : History) (w : World) : Prop where
  children : ∀ name, .child name ∈ w.spawned → name ∈ spawnedChildren history
  waiter : .waiter ∈ w.spawned → (progress .run history).isSealed = true
  nodup : (spawnedChildren history).Nodup
  begun : ∀ name, (progress (.child name) history).begun = true → name ∈ spawnedChildren history
  began : (progress .waiter history).begun = true → (progress .run history).isSealed = true
  finished : ∀ name, Finished history name → (progress (.child name) history).begun = true

variable {j : Goroutine}

/-- A goroutine begins when it was started. -/
theorem begun_snoc {w w' : World} (hexec : managerSemantics i a w r w')
    (h : (progress j (history ++ [⟨i, a, r⟩])).begun = true) :
  (progress j history).begun = true ∨ j ∈ w.spawned
  := by
  rw [progress_snoc] at h
  split at h
  · rename_i hij
    subst hij
    by_cases hbegin : a = .begin
    · subst hbegin
      obtain ⟨c, hperform⟩ := hexec
      simp only [World.perform] at hperform
      right
      by_contra hmem
      rw [if_neg hmem] at hperform
      cases hperform
    · rw [begun_next hbegin] at h
      exact Or.inl h
  · exact Or.inl h

/-- A goroutine that began stays so. -/
theorem begun_mono (h : (progress j history).begun = true) :
  (progress j (history ++ [⟨i, a, r⟩])).begun = true
  := by
  rw [progress_snoc]
  split
  · by_cases hbegin : a = .begin
    · subst hbegin
      rfl
    · rw [begun_next hbegin]
      exact h
  · exact h

theorem begun_append (h : (progress j history).begun = true) (history' : History) :
  (progress j (history ++ history')).begun = true
  := by
  induction history' using List.reverseRecOn with
  | nil =>
      rw [List.append_nil]
      exact h
  | append_singleton history' e ih =>
      rw [← List.append_assoc]
      exact begun_mono ih

theorem Spawns.spawn {w : World} {g : Goroutine} {wg : Nat} (h : Spawns history w)
    (hfresh : ∀ name, g = .child name → name ∉ spawnedChildren history) :
  Spawns (history ++ [⟨.run, .spawn g, ()⟩])
    { w with spawned := w.spawned ++ [g], wg := wg }
  := by
  obtain ⟨hspawned, hsealed⟩ := spawnedChildren_spawn history g
  have hother : ∀ j, j ≠ .run → progress j (history ++ [⟨.run, .spawn g, ()⟩]) =
      progress j history := fun j hj => progress_other (Ne.symm hj)
  constructor
  · intro name hname
    rw [hspawned]
    rcases List.mem_append.mp hname with hname | hname
    · exact List.mem_append_left _ (h.children name hname)
    · rw [← List.mem_singleton.mp hname]
      simp
  · intro hwaiter
    rw [hsealed]
    rcases List.mem_append.mp hwaiter with hwaiter | hwaiter
    · rw [h.waiter hwaiter]
      rfl
    · rw [← List.mem_singleton.mp hwaiter]
      simp
  · rw [hspawned]
    cases g with
    | child name =>
        rw [List.nodup_append]
        refine ⟨h.nodup, by simp, ?_⟩
        rintro x hx y hy rfl
        rw [List.mem_singleton.mp hy] at hx
        exact hfresh name rfl hx
    | _ => simpa using h.nodup
  · intro name hname
    rw [hother (.child name) nofun] at hname
    rw [hspawned]
    exact List.mem_append_left _ (h.begun name hname)
  · intro hwaiter
    rw [hother .waiter nofun] at hwaiter
    rw [hsealed, h.began hwaiter]
    rfl
  · intro name hname
    unfold Finished at hname
    rw [hother (.child name) nofun] at hname ⊢
    exact h.finished name hname

theorem Spawns.keep {w w' : World} (h : Spawns history w) (hspawn : ∀ g, a ≠ .spawn g)
    (hallowed : AllowedAction i (progress i history) a) (hexec : managerSemantics i a w r w') :
  Spawns (history ++ [⟨i, a, r⟩]) w'
  := by
  obtain ⟨hspawned, hsealed⟩ := spawnedChildren_snoc history (i := i) (r := r) hspawn
  have hworld : w'.spawned = w.spawned := by
    obtain ⟨c, hperform⟩ := hexec
    exact spawned_perform hperform hspawn
  constructor
  · rw [hworld, hspawned]
    exact h.children
  · rw [hworld, hsealed]
    exact h.waiter
  · rw [hspawned]
    exact h.nodup
  · intro name hname
    rw [hspawned]
    rcases begun_snoc hexec hname with hbegun | hmem
    · exact h.begun name hbegun
    · exact h.children name hmem
  · intro hwaiter
    rw [hsealed]
    rcases begun_snoc hexec hwaiter with hbegun | hmem
    · exact h.began hbegun
    · exact h.waiter hmem
  · intro name hname
    apply begun_mono
    by_cases hdone : a ≠ .wgDone ∨ i ≠ .child name
    · exact h.finished name ((finished_snoc_iff history name hdone).mp hname)
    · rw [not_or, not_not, not_not] at hdone
      obtain ⟨rfl, rfl⟩ := hdone
      exact hallowed.2.1

theorem Manages.spawns (h : Manages cfg store directory history p) :
  Spawns history p.shared
  := by
  apply Manages.invariant Spawns _ _ h
  · exact ⟨nofun, nofun, List.nodup_nil, nofun, nofun, nofun⟩
  · intro history p i a r w _ hinv _ hallowed hexec
    by_cases hspawn : ∃ g, a = .spawn g
    · obtain ⟨g, rfl⟩ := hspawn
      obtain ⟨c, hperform⟩ := hexec
      obtain ⟨rfl, hfresh⟩ := hallowed
      obtain ⟨-, rfl⟩ := Prod.mk.inj (Option.some.inj hperform)
      exact hinv.spawn fun name hname => (hfresh name hname).2
    · exact hinv.keep (fun g hg => hspawn ⟨g, hg⟩) hallowed hexec

/-- The wait group counts the children whose goroutines have not ended. -/
def unfinished (history : History) : List String :=
  (spawnedChildren history).filter fun name => ¬ Finished history name

theorem unfinished_congr {history' : History}
    (hspawned : spawnedChildren history' = spawnedChildren history)
    (hfinished : ∀ name, Finished history' name ↔ Finished history name) :
  unfinished history' = unfinished history
  := by
  unfold unfinished
  rw [hspawned]
  apply List.filter_congr
  intro name _
  simp [hfinished name]

/-- The goroutine of a child ends. -/
theorem unfinished_done {name : String} (hname : name ∈ spawnedChildren history)
    (hnodup : (spawnedChildren history).Nodup) (hfinished : ¬ Finished history name) :
  (unfinished (history ++ [⟨.child name, .wgDone, ()⟩])).length + 1 = (unfinished history).length
  := by
  have hspawned := (spawnedChildren_snoc history (i := .child name)
    (a := .wgDone) (r := ()) nofun).1
  have herase : unfinished (history ++ [⟨.child name, .wgDone, ()⟩]) =
      (unfinished history).erase name := by
    unfold unfinished
    rw [List.Nodup.erase_eq_filter (hnodup.filter _), List.filter_filter, hspawned]
    apply List.filter_congr
    intro n _
    by_cases hn : n = name
    · subst hn
      have hdone : Finished (history ++ [⟨.child n, .wgDone, ()⟩]) n := by
        unfold Finished
        rw [progress_own]
        rfl
      simp [hdone]
    · have hsame := finished_snoc_iff history n (i := .child name)
        (a := .wgDone) (r := ()) (Or.inr fun h => hn (Goroutine.child.inj h).symm)
      simp [hsame, hn]
  have hmem : name ∈ unfinished history := by
    simp [unfinished, hname, hfinished]
  rw [herase, List.length_erase_of_mem hmem]
  have := List.length_pos_of_mem hmem
  omega

theorem Manages.count (h : Manages cfg store directory history p) :
  p.shared.wg = (unfinished history).length
  := by
  apply Manages.invariant (fun history w => w.wg = (unfinished history).length) _ _ h
  · rfl
  · intro history p i a r w hmanages hinv hunfinished hallowed hexec
    obtain ⟨c, hperform⟩ := hexec
    have hspawns := hmanages.spawns
    by_cases hspawn : ∃ g, a = .spawn g
    · obtain ⟨g, rfl⟩ := hspawn
      obtain ⟨rfl, hfresh⟩ := hallowed
      obtain ⟨-, rfl⟩ := Prod.mk.inj (Option.some.inj hperform)
      obtain ⟨hspawned, -⟩ := spawnedChildren_spawn history g
      have hfinished : ∀ name, Finished (history ++ [⟨.run, .spawn g, ()⟩]) name ↔
          Finished history name := fun name => finished_snoc_iff history name (Or.inr nofun)
      cases g with
      | child name =>
          have hnew : ¬ Finished history name := fun hdone =>
            (hfresh name rfl).2 (hspawns.begun name (hspawns.finished name hdone))
          simp only [unfinished, hspawned, List.filter_append, hfinished] at hinv ⊢
          simp [hinv, hnew]
      | _ =>
          rw [List.append_nil] at hspawned
          rw [unfinished_congr hspawned hfinished]
          exact hinv
    · have hspawn : ∀ g, a ≠ .spawn g := fun g hg => hspawn ⟨g, hg⟩
      have hspawned := (spawnedChildren_snoc history (i := i) (r := r) hspawn).1
      by_cases hdone : a = .wgDone
      · subst hdone
        obtain ⟨⟨name, rfl⟩, hbegun, -⟩ := hallowed
        have hcount := unfinished_done (hspawns.begun name hbegun) hspawns.nodup
          (by unfold Finished; rw [hunfinished]; decide)
        simp only [World.perform] at hperform
        split at hperform
        · cases hperform
        · obtain ⟨rfl, rfl⟩ := Prod.mk.inj (Option.some.inj hperform)
          simp only
          omega
      · rw [wg_perform hperform hspawn hdone,
          unfinished_congr hspawned fun name => finished_snoc_iff history name (Or.inl hdone)]
        exact hinv

end WaitGroup

/-! ### The end of the run -/

section Returned

variable {cfg : Config} {store : EventStore} {directory : Directory} {history : History}
  {p : Pool managerActions Goroutine World}

/-- The goroutines of all children ended when the wait group was waited for. -/
structure Joins (history : History) (w : World) : Prop where
  waited : (progress .waiter history).waited = true → Over history
  done : w.done = true → Over history
  joined : (progress .run history).joined = true → Over history

/-- The wait group is empty when all children ended. -/
theorem over_of_count (h : Spawns history p.shared)
    (hcount : p.shared.wg = (unfinished history).length)
    (hbegun : (progress .waiter history).begun = true) (hzero : p.shared.wg = 0) :
  Over history
  := by
  refine ⟨h.began hbegun, ?_⟩
  intro name hname
  rw [hzero, eq_comm, List.length_eq_zero_iff, unfinished, List.filter_eq_nil_iff] at hcount
  simpa using hcount name hname

theorem Manages.waits (h : Manages cfg store directory history p) :
  Joins history p.shared
  := by
  apply Manages.invariant Joins _ _ h
  · exact ⟨nofun, nofun, nofun⟩
  · intro history p i a r w hmanages hinv _ hallowed hexec
    have hover : Over history → Over (history ++ [⟨i, a, r⟩]) := fun h => h.snoc hallowed
    obtain ⟨c, hperform⟩ := hexec
    constructor
    · intro hwaited
      apply hover
      rw [progress_snoc] at hwaited
      split at hwaited
      · rename_i hi
        subst hi
        by_cases hwait : a = .wgWait
        · subst hwait
          apply over_of_count hmanages.spawns hmanages.count hallowed.2
          simp only [World.perform] at hperform
          by_contra hne
          rw [if_neg hne] at hperform
          cases hperform
        · rw [waited_next hwait] at hwaited
          exact hinv.waited hwaited
      · exact hinv.waited hwaited
    · intro hdone
      apply hover
      by_cases hclose : a = .closeDone
      · subst hclose
        obtain ⟨rfl, hwaited⟩ := hallowed
        exact hinv.waited hwaited
      · rw [done_perform hperform hclose] at hdone
        exact hinv.done hdone
    · intro hjoined
      apply hover
      rw [progress_snoc] at hjoined
      split at hjoined
      · rename_i hi
        subst hi
        cases hbefore : (progress .run history).joined with
        | true => exact hinv.joined hbefore
        | false =>
            obtain ⟨timeout, hshutdown⟩ := joined_next (i := .run) hjoined hbefore
            cases hshutdown
            apply hinv.done
            simp only [World.perform] at hperform
            grind
      · exact hinv.joined hjoined

/-- A child with an incomplete cleanup left an error for the run. -/
theorem Manages.terminalErr (h : Manages cfg store directory history p) {i : Goroutine}
    (hi : (progress i history).incomplete = true) :
  p.shared.terminalErr ≠ []
  := by
  apply Manages.invariant (fun history w =>
    ∀ i, (progress i history).incomplete = true → w.terminalErr ≠ []) _ _ h i hi
  · intro i hi
    cases hi
  · intro history p j a r w _ hinv _ _ hexec i hi
    obtain ⟨c, hperform⟩ := hexec
    by_cases hpublish : ∃ name pgid cleanup now, a = .publishIncomplete name pgid cleanup now
    · obtain ⟨name, pgid, cleanup, now, rfl⟩ := hpublish
      obtain ⟨-, rfl⟩ := Prod.mk.inj (Option.some.inj hperform)
      exact List.append_ne_nil_of_right_ne_nil _ (List.cons_ne_nil _ _)
    · have hbefore : (progress i history).incomplete = true := by
        rw [progress_snoc] at hi
        split at hi
        · rwa [incomplete_next] at hi
          intro name pgid cleanup now ha
          exact hpublish ⟨name, pgid, cleanup, now, ha⟩
        · exact hi
      obtain ⟨err, herr⟩ := terminalErr_perform hperform
      rw [herr]
      exact List.append_ne_nil_of_left_ne_nil (hinv i hbefore) _

/-- A child that ended has an incomplete cleanup, or its groups are gone. -/
theorem Manages.settled (h : Manages cfg store directory history p) {name : String}
    (hfinished : Finished history name) :
  (progress (.child name) history).incomplete = true ∨ (progress (.child name) history).Gone
  := by
  apply Manages.invariant (fun history _ => ∀ name, Finished history name →
    (progress (.child name) history).incomplete = true ∨ (progress (.child name) history).Gone)
    _ _ h name hfinished
  · intro name hname
    cases hname
  · intro history p i a r w _ hinv hunfinished hallowed _ name hname
    by_cases hi : i = .child name
    · subst hi
      by_cases hdone : a = .wgDone
      · subst hdone
        rw [progress_own]
        exact hallowed.2.2
      · have hbefore := (finished_snoc_iff history name (Or.inl hdone)).mp hname
        rw [Finished, hunfinished] at hbefore
        cases hbefore
    · rw [progress_other hi]
      exact hinv name ((finished_snoc_iff history name (Or.inr hi)).mp hname)

/-- All children ended, and none of them has an incomplete cleanup. -/
structure Complete (history : History) : Prop extends Over history where
  complete : ∀ name ∈ spawnedChildren history,
    (progress (.child name) history).incomplete = false

/-- The goroutine of a child that ended performs nothing, so the end lasts. -/
theorem Complete.snoc {i : Goroutine} {a : Action} {r : a.Answer} (h : Complete history)
    (hunfinished : (progress i history).finished = false)
    (hallowed : AllowedAction i (progress i history) a) :
  Complete (history ++ [⟨i, a, r⟩])
  := by
  have hover := h.toOver.snoc (r := r) hallowed
  have hspawned : ∀ name ∈ spawnedChildren (history ++ [⟨i, a, r⟩]),
      name ∈ spawnedChildren history := by
    intro name hname
    by_cases hspawn : ∃ g, a = .spawn g
    · obtain ⟨g, rfl⟩ := hspawn
      obtain ⟨rfl, hfresh⟩ := hallowed
      rw [(spawnedChildren_spawn history g).1] at hname
      cases g with
      | child n =>
          have hopen := (hfresh n rfl).1
          rw [h.isSealed] at hopen
          cases hopen
      | _ => simpa using hname
    · rw [(spawnedChildren_snoc history fun g hg => hspawn ⟨g, hg⟩).1] at hname
      exact hname
  refine ⟨hover, ?_⟩
  intro name hname
  have hfinished := h.finished name (hspawned name hname)
  have hi : i ≠ .child name := by
    rintro rfl
    rw [Finished, hunfinished] at hfinished
    cases hfinished
  rw [progress_other hi]
  exact h.complete name (hspawned name hname)

/-- When `Run` returned without an error, all children ended and none of them has an incomplete
cleanup. -/
theorem Manages.complete (h : Manages cfg store directory history p)
    (hreturn : ⟨.run, .returns [], ()⟩ ∈ history) :
  Complete history
  := by
  have hinv : ((progress .run history).clean = true → Complete history) ∧
      (⟨.run, .returns [], ()⟩ ∈ history → Complete history) := by
    apply Manages.invariant (fun history _ => ((progress .run history).clean = true →
      Complete history) ∧ (⟨.run, .returns [], ()⟩ ∈ history → Complete history)) _ _ h
    · exact ⟨nofun, fun h => absurd h List.not_mem_nil⟩
    · intro history p i a r w hmanages hinv hunfinished hallowed hexec
      constructor
      · intro hclean
        rw [progress_snoc] at hclean
        split at hclean
        · rename_i hi
          subst hi
          by_cases hterminal : a = .terminalError
          · subst hterminal
            simp only [Progress.next, Bool.and_eq_true, List.isEmpty_iff] at hclean
            have hover := hmanages.waits.joined hclean.1
            have hcomplete : Complete history := by
              refine ⟨hover, ?_⟩
              intro name _
              obtain ⟨c, hperform⟩ := hexec
              obtain ⟨hr, -⟩ := Prod.mk.inj (Option.some.inj hperform)
              rw [← Bool.not_eq_true]
              intro hincomplete
              exact hmanages.terminalErr hincomplete (hr.trans hclean.2)
            exact hcomplete.snoc hunfinished hallowed
          · rw [clean_next hterminal] at hclean
            exact (hinv.1 hclean).snoc hunfinished hallowed
        · exact (hinv.1 hclean).snoc hunfinished hallowed
      · intro hreturn
        rcases List.mem_append.mp hreturn with hreturn | hreturn
        · exact (hinv.2 hreturn).snoc hunfinished hallowed
        · cases List.mem_singleton.mp hreturn
          exact (hinv.1 (hallowed.2 rfl)).snoc hunfinished hallowed
  exact hinv.2 hreturn

/-- When `Run` returned without an error, the status of the leader of every process group that was
started was received, and a probe found the group empty after that. -/
theorem no_orphaned_group {i : Goroutine} {spec : Child} {process : StartedProcess}
    {before after : History}
    (h : Manages cfg store directory (before ++ ⟨i, .start spec, .ok process⟩ :: after) p)
    (hreturn : ⟨.run, .returns [], ()⟩ ∈ before ++ ⟨i, .start spec, .ok process⟩ :: after) :
  CleanedUp i process after
  := by
  have hcomplete := h.complete hreturn
  obtain rfl := h.starter
  obtain ⟨-, -, -, -, hcan⟩ := h.allowed
  have hspawned := h.spawns.begun spec.name (begun_append hcan.begun _)
  have hgone := (h.settled (hcomplete.finished _ hspawned)).resolve_left (by
    rw [hcomplete.complete _ hspawned]
    decide)
  rcases h.knows rfl with hcleaned | ⟨g, hg, hknows⟩
  · exact hcleaned
  · exact hknows.proven (hgone g hg)

/-- `Run` returns without an error. -/
def isReturn : Performed managerActions Goroutine → Bool
  | ⟨.run, .returns [], _⟩ => true
  | _ => false

/-- A child is started and stopped, and the supervisor returns without an error. -/
theorem no_orphaned_group_sample :
  ∃ i spec process before after p,
    Manages sampleConfig sampleStore {} (before ++ ⟨i, .start spec, .ok process⟩ :: after) p ∧
    ⟨.run, .returns [], ()⟩ ∈ before ++ ⟨i, .start spec, .ok process⟩ :: after ∧
    CleanedUp i process after
  := by
  obtain ⟨history, p, hmanages, hcheck⟩ := manages_of_simulate sampleConfig sampleStore {}
    sampleTurns (fun history _ => history.any isStart && history.any isReturn) (by decide +kernel)
  rw [Bool.and_eq_true, List.any_eq_true, List.any_eq_true] at hcheck
  obtain ⟨⟨e, he, hstart⟩, ⟨e', he', hreturn⟩⟩ := hcheck
  unfold isStart at hstart
  split at hstart
  · rename_i i spec process
    unfold isReturn at hreturn
    split at hreturn
    · obtain ⟨before, after, rfl⟩ := List.append_of_mem he
      exact ⟨i, spec, process, before, after, p, hmanages, he', no_orphaned_group hmanages he'⟩
    · cases hreturn
  · cases hstart

end Returned

end Supervisor

end RobotestLab
