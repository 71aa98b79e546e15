import RobotestLab.Supervisor.Circuit
import RobotestLab.Supervisor.Records

/-!
# The outages of a single child

The events of a run with one required child come in the order of the outage automaton, whatever the
other goroutines do in between: the last word on the readiness is the one that the manager
remembers, the phase of the child is the one that its goroutine has reported, and the supervisor is
only ready while the child is committed to be running.
-/

namespace RobotestLab

namespace Supervisor

/-! ### What an action leaves unchanged -/

/-- The action commits that the child is running or that it is not. -/
def Action.commits (name : String) : Action → Bool
  | .commitStart n _ _ _ | .commitFailure n _ _ _ _ => n = name
  | .publishIncomplete n _ _ _ | .publishStopped n _ => n = name
  | _ => false

section Frame

variable {i : Goroutine} {a : Action} {c : a.Choice} {r : a.Answer} {w w' : World} {q : Reporting}

theorem running_perform (h : w.perform i a c = some (r, w')) {name : String}
    (ha : a.commits name = false) :
  (w'.children name).state.running = (w.children name).state.running
  := by
  cases a with
  | commitRestart n now continuousReady =>
      simp only [World.perform] at h
      split at h
      · obtain ⟨-, rfl⟩ := Prod.mk.inj (Option.some.inj h)
        apply children_updateChild fun runtime => runtime.state.running
        intro runtime
        rfl
      · obtain ⟨-, rfl⟩ := Prod.mk.inj (Option.some.inj h)
        rfl
  | publishHeartbeat n fresh age =>
      obtain ⟨-, rfl⟩ := Prod.mk.inj (Option.some.inj h)
      apply children_updateChild fun runtime => runtime.state.running
      intro runtime
      rfl
  | commitStart | commitFailure | publishIncomplete | publishStopped =>
      rw [children_perform h ha]
  | _ => rw [children_perform h rfl]

/-- The supervisor is ready only while its required children are running. -/
theorem running_of_ready {spec : Child} (hname : spec.name ∈ w.names)
    (hspec : (w.children spec.name).spec = spec) (hrequired : spec.required = true)
    (hready : w.ready = true) :
  (w.children spec.name).state.running = true
  := by
  unfold World.ready at hready
  rw [Bool.and_eq_true, Bool.not_eq_true', List.any_eq_false] at hready
  have hchild := hready.2 spec.name hname
  simp only [hspec, hrequired] at hchild
  by_contra hrunning
  rw [Bool.not_eq_true] at hrunning
  simp [hrunning] at hchild

end Frame

/-! ### The trace of a child -/

/-- The marks of the child are in order, and agree with what its goroutine has reported and with the
shared state. -/
structure Told (name : String) (q : Reporting) (marks : List Mark) (w : World) : Prop where
  traced : ∃ s, Traced {} marks s ∧ s.phase = q.report.phase ∧
    s.published = (q.report.announced.elim w.lastReady fun b => !b)
  announced : ∀ b ∈ q.report.announced, w.lastReady = b ∧ (b = true → q.report.phase = .running)
  up : (w.children name).state.running = q.report.up
  seen : q.seen = true → q.report.up = true

/-- The marks of the events after the first one. -/
def marksOf (history : History) : List Mark := (recorded history).tail.map Event.mark

section Told

variable {cfg : Config} {i : Goroutine} {a : Action} {c : a.Choice} {r : a.Answer} {w w' : World}
  {q q' : Reporting} {name : String} {marks : List Mark}

/-- Nothing that is told changes. -/
theorem Told.keep (h : Told name q marks w) (hphase : q'.report.phase = q.report.phase)
    (hannounced : q'.report.announced = q.report.announced) (hup : q'.report.up = q.report.up)
    (hseen : q'.seen = true → q.report.up = true) (hlast : w'.lastReady = w.lastReady)
    (hrunning : (w'.children name).state.running = (w.children name).state.running) :
  Told name q' marks w'
  where
  traced := by
    rw [hphase, hannounced, hlast]
    exact h.traced
  announced := by
    rw [hphase, hannounced, hlast]
    exact h.announced
  up := by
    rw [hrunning, hup]
    exact h.up
  seen := by
    rw [hup]
    exact hseen

/-- The goroutine changes what is remembered of the readiness. -/
theorem Told.swap (h : Told name q marks w) {ready changed : Bool}
    (hannounced : q.report.announced = none) (hseen : ready = true → q.seen = true)
    (hphase : q.report.up = true → q.report.phase = .running)
    (hperform : w.perform i (.swapReady ready) () = some (changed, w')) :
  Told name (q.next (.swapReady ready) changed) marks w'
  := by
  obtain ⟨hchanged, rfl⟩ := Prod.mk.inj (Option.some.inj hperform)
  obtain ⟨s, htraced, hs, hpublished⟩ := h.traced
  rw [hannounced] at hpublished
  subst hchanged
  refine ⟨⟨s, htraced, hs, ?_⟩, ?_, h.up, h.seen⟩
  · rw [hpublished]
    cases ready <;> cases hlast : w.lastReady <;> simp [Reporting.next]
  · intro b hb
    simp only [Reporting.next] at hb
    split at hb
    · obtain rfl := Option.some.inj hb
      exact ⟨rfl, fun htrue => hphase (h.seen (hseen htrue))⟩
    · cases hb

/-- The readiness is recorded. -/
theorem Told.ready (h : Told name q marks w) {b : Bool} (hannounced : q.report.announced = some b)
    (hreport : q'.report = q.report.marked (.ready b)) (hseen : q'.seen = q.seen)
    (hlast : w'.lastReady = w.lastReady)
    (hrunning : (w'.children name).state.running = (w.children name).state.running) :
  Told name q' (marks ++ [.ready b]) w'
  := by
  obtain ⟨s, htraced, hs, hpublished⟩ := h.traced
  obtain ⟨hready, hphase⟩ := h.announced b hannounced
  rw [hannounced] at hpublished
  have hstep : s.step (.ready b) = some { phase := s.phase, published := b } := by
    rw [Outage.step_eq_some_iff, hpublished]
    refine ⟨?_, ?_, rfl⟩
    · cases b with
      | _ => nofun
    · rw [hs]
      exact if_pos hphase
  constructor
  · refine ⟨_, traced_append.mpr ⟨s, htraced, traced_cons.mpr ⟨_, hstep, traced_nil.mpr rfl⟩⟩, ?_,
      ?_⟩
    · rw [hreport]
      exact hs
    · rw [hreport, hlast]
      exact hready.symm
  · rw [hreport]
    exact nofun
  · rw [hreport, hrunning]
    exact h.up
  · rw [hreport, hseen]
    exact h.seen

/-- An event of the child that is no change of the readiness. -/
theorem Told.append (h : Told name q marks w) {m : Mark} (hm : ∀ b, m ≠ .ready b)
    (hannounced : q.report.announced = none) (hnext : (q.report.phase.next m).isSome = true)
    (hreport : q'.report = q.report.marked m) (hseen : q'.seen = q.seen)
    (hlast : w'.lastReady = w.lastReady)
    (hrunning : (w'.children name).state.running = (w.children name).state.running) :
  Told name q' (marks ++ [m]) w'
  := by
  obtain ⟨s, htraced, hs, hpublished⟩ := h.traced
  obtain ⟨phase, hphase⟩ := Option.isSome_iff_exists.mp hnext
  rw [hannounced] at hpublished
  have hmarked : q'.report = { q.report with phase := phase } := by
    rw [hreport]
    cases m with
    | opened => cases hphase
    | ready b => exact absurd rfl (hm b)
    | _ => simp only [Report.marked, hphase, Option.getD_some]
  have hstep : s.step m = some { phase := phase, published := s.published } := by
    rw [Outage.step_eq_some_iff, hs]
    refine ⟨hm _, hphase, ?_⟩
    cases m with
    | ready b => exact absurd rfl (hm b)
    | _ => rfl
  constructor
  · refine ⟨_, traced_append.mpr ⟨s, htraced, traced_cons.mpr ⟨_, hstep, traced_nil.mpr rfl⟩⟩, ?_,
      ?_⟩
    · rw [hmarked]
    · rw [hmarked, hlast, hannounced]
      exact hpublished
  · rw [hmarked, hannounced]
    intro up hup
    cases hup
  · rw [hmarked, hrunning]
    exact h.up
  · rw [hmarked, hseen]
    exact h.seen

/-- An event that says nothing about the outages. -/
theorem Told.append_other (h : Told name q marks w) (hlast : w'.lastReady = w.lastReady)
    (hrunning : (w'.children name).state.running = (w.children name).state.running) :
  Told name q (marks ++ [.other]) w'
  where
  traced := by
    obtain ⟨s, htraced, hs, hpublished⟩ := h.traced
    have hstep : s.step .other = some s := Outage.step_eq_some_iff.mpr ⟨nofun, rfl, rfl⟩
    refine ⟨s, traced_append.mpr ⟨s, htraced, traced_cons.mpr ⟨s, hstep, traced_nil.mpr rfl⟩⟩, hs,
      ?_⟩
    rw [hlast]
    exact hpublished
  announced := by
    rw [hlast]
    exact h.announced
  up := by
    rw [hrunning]
    exact h.up
  seen := h.seen

/-- The child is committed to be running, or not to be running any more. -/
theorem Told.commit (h : Told name q marks w) (up : Bool) (hannounced : q.report.announced = none)
    (hlast : w'.lastReady = w.lastReady) (hrunning : (w'.children name).state.running = up) :
  Told name (q.commit up) marks w'
  where
  traced := by
    rw [hlast]
    exact h.traced
  announced := by
    rw [Reporting.commit, hannounced]
    intro up hup
    cases hup
  up := hrunning
  seen := by
    intro hseen
    cases hseen

theorem running_updateChild (w : World) (name : String) (f : ChildRuntime → ChildRuntime) :
  ((w.updateChild name f).children name).state.running = (f (w.children name)).state.running
  := by
  rw [show (w.updateChild name f).children name = f (w.children name) from
    Function.update_self _ _ _]

/-- An action of the child that records nothing. -/
theorem Told.act (h : Told name q marks w) (hi : i = .child name)
    (hspec : w.ready = true → (w.children name).state.running = true)
    (hallows : q.Allows cfg i a) (happend : ∀ now event, a ≠ .append now event)
    (hperform : w.perform i a c = some (r, w')) :
  Told name (q.next a r) marks w'
  := by
  cases a with
  | append now event => exact absurd rfl (happend now event)
  | swapReady ready =>
      obtain ⟨-, hannounced, hseen, hphase⟩ := hallows
      exact h.swap hannounced hseen hphase hperform
  | commitStart n startedAt pid restarted =>
      obtain ⟨hn, hannounced⟩ := hallows
      obtain rfl := Goroutine.child.inj (hi.symm.trans hn)
      simp only [World.perform] at hperform
      split at hperform
      · obtain ⟨rfl, rfl⟩ := Prod.mk.inj (Option.some.inj hperform)
        refine h.commit true hannounced (by rfl) ?_
        rw [running_updateChild]
        rfl
      · obtain ⟨rfl, rfl⟩ := Prod.mk.inj (Option.some.inj hperform)
        exact h
  | commitFailure n kind code now processExited =>
      obtain ⟨hn, hannounced⟩ := hallows
      obtain rfl := Goroutine.child.inj (hi.symm.trans hn)
      simp only [World.perform] at hperform
      split at hperform
      · obtain ⟨rfl, rfl⟩ := Prod.mk.inj (Option.some.inj hperform)
        refine h.commit false hannounced (by rfl) ?_
        rw [running_updateChild]
        rfl
      · obtain ⟨rfl, rfl⟩ := Prod.mk.inj (Option.some.inj hperform)
        exact h
  | publishIncomplete n pgid cleanup now =>
      obtain ⟨hn, hannounced⟩ := hallows
      obtain rfl := Goroutine.child.inj (hi.symm.trans hn)
      obtain ⟨-, rfl⟩ := Prod.mk.inj (Option.some.inj hperform)
      refine h.commit false hannounced (by rfl) ?_
      exact running_updateChild w name fun runtime => runtime.cleanupIncomplete pgid cleanup now
  | publishStopped n code =>
      obtain ⟨hn, hannounced⟩ := hallows
      obtain rfl := Goroutine.child.inj (hi.symm.trans hn)
      obtain ⟨-, rfl⟩ := Prod.mk.inj (Option.some.inj hperform)
      refine h.commit false hannounced (by rfl) ?_
      exact running_updateChild w name fun runtime => runtime.stopped code
  | readReady =>
      obtain ⟨rfl, rfl⟩ := Prod.mk.inj (Option.some.inj hperform)
      exact h.keep rfl rfl rfl (fun hready => h.up ▸ hspec hready) rfl rfl
  | _ =>
      exact h.keep rfl rfl rfl h.seen (lastReady_perform hperform nofun)
        (running_perform hperform rfl)

/-- An action of another goroutine that records nothing. -/
theorem Told.other (h : Told name q marks w) {q₁ : Reporting} (hi : i ≠ .child name)
    (hlisted : ∀ n ∈ cfg.children.map Child.name, n = name) (hallows : q₁.Allows cfg i a)
    (hperform : w.perform i a c = some (r, w')) :
  Told name q marks w'
  := by
  have hswap : ∀ ready, a ≠ .swapReady ready := by
    rintro ready rfl
    obtain ⟨⟨n, hn, rfl⟩, -⟩ := hallows
    exact hi (congrArg Goroutine.child (hlisted n hn))
  have hcommits : a.commits name = false := by
    rw [← Bool.not_eq_true]
    intro hcommits
    cases a with
    | commitStart n | commitFailure n | publishIncomplete n | publishStopped n =>
        exact hi (hallows.1.trans (congrArg Goroutine.child (of_decide_eq_true hcommits)))
    | _ => cases hcommits
  exact h.keep rfl rfl rfl h.seen (lastReady_perform hperform hswap)
    (running_perform hperform hcommits)

end Told

/-! ### Runs with a single child -/

section Runs

variable {cfg : Config} {store : EventStore} {directory : Directory} {history : History}
  {p : Pool managerActions Goroutine World} {spec : Child}

/-- The goroutines of a run with one child that may append an event are the run and the child. -/
theorem appends_of_single (hcfg : cfg.children = [spec]) {i : Goroutine}
    {q : Reporting} {m : Mark} (h : q.report.CanMark cfg m i) :
  i = .run ∨ i = .child spec.name
  := by
  cases i with
  | run => exact Or.inl rfl
  | child name =>
      have hname := h.1
      rw [hcfg] at hname
      rw [List.mem_singleton.mp hname]
      exact Or.inr rfl
  | _ => cases h

variable {answer : Event × Err}

/-- An event after the first one. -/
theorem marksOf_snoc {i : Goroutine} {now : Time} {event : Event}
    (hne : recorded history ≠ []) (hmark : answer.1.mark = event.mark) :
  marksOf (history ++ [⟨i, .append now event, answer⟩]) = marksOf history ++ [event.mark]
  := by
  rw [marksOf, recorded_snoc_append, List.tail_append_of_ne_nil hne, List.map_append,
    List.map_singleton, hmark, marksOf]

theorem Opens.ne_nil {events : List Event} (h : Opens events) :
  events ≠ []
  := by
  obtain ⟨first, rest, rfl, -⟩ := h
  apply List.cons_ne_nil

/-- An event of the child. -/
theorem Told.event {name : String} {q : Reporting} {marks : List Mark} {w w' : World} {now : Time}
    {event : Event} (h : Told name q marks w)
    (hcan : q.report.CanMark cfg event.mark (.child name)) (hlast : w'.lastReady = w.lastReady)
    (hchildren : w'.children = w.children) :
  Told name (q.next (.append now event) answer) (marks ++ [event.mark]) w'
  := by
  have hrunning : (w'.children name).state.running = (w.children name).state.running := by
    rw [hchildren]
  obtain ⟨-, hmatch⟩ := hcan
  cases hmark : event.mark with
  | ready b =>
      rw [hmark] at hmatch
      refine h.ready hmatch ?_ rfl hlast hrunning
      rw [← hmark]
      rfl
  | _ =>
      rw [hmark] at hmatch
      refine h.append nofun hmatch.1 hmatch.2 ?_ rfl hlast hrunning
      rw [← hmark]
      rfl

/-- An event of a run with one child. -/
theorem Manages.told_append (hcfg : cfg.children = [spec]) {i : Goroutine}
    {now : Time} {event : Event} {w : World} (hreach : Manages cfg store directory history p)
    (h : Told spec.name (reported cfg (.child spec.name) history) (marksOf history) p.shared)
    (hallows : (reported cfg i history).Allows cfg i (.append now event))
    (hmark : answer.1.mark = event.mark) (hlast : w.lastReady = p.shared.lastReady)
    (hchildren : w.children = p.shared.children) :
  Told spec.name (reported cfg (.child spec.name) (history ++ [⟨i, .append now event, answer⟩]))
    (marksOf (history ++ [⟨i, .append now event, answer⟩])) w
  := by
  have hopening := hreach.opening
  have hevents := hopening.events
  obtain ⟨-, ⟨startedAt, hbase, -⟩, hcan⟩ := hallows
  have hrunning : (w.children spec.name).state.running =
      (p.shared.children spec.name).state.running := by
    rw [hchildren]
  rw [reported_snoc]
  rcases appends_of_single hcfg hcan with rfl | rfl
  · rw [if_neg nofun]
    change if (reported cfg .run history).report.opened then event.mark = .other
      else event.mark = .opened at hcan
    split at hcan
    · rename_i hopened
      rw [if_pos hopened] at hevents
      rw [marksOf_snoc hevents.ne_nil hmark, hcan]
      apply h.append_other hlast hrunning
    · rename_i hclosed
      rw [if_neg hclosed] at hevents
      have hsame : marksOf (history ++ [⟨.run, .append now event, answer⟩]) = marksOf history := by
        rw [marksOf, marksOf, recorded_snoc_append, hevents]
        rfl
      rw [hsame]
      apply h.keep rfl rfl rfl h.seen hlast hrunning
  · have hopened := hopening.base (.child spec.name) nofun (by rw [hbase, Option.isSome_some])
    rw [if_pos hopened] at hevents
    rw [if_pos rfl, marksOf_snoc hevents.ne_nil hmark]
    apply h.event hcan hlast hchildren

/-- What a run with one required child tells of its outages. -/
theorem Manages.told (h : Manages cfg store directory history p)
    (hcfg : cfg.children = [spec]) (hrequired : spec.required = true) :
  Told spec.name (reported cfg (.child spec.name) history) (marksOf history) p.shared
  := by
  have hspec : spec ∈ cfg.children := by
    rw [hcfg]
    exact List.mem_singleton_self spec
  apply Manages.reporting_invariant (fun history w =>
    Told spec.name (reported cfg (.child spec.name) history) (marksOf history) w) _ _ h
  · refine ⟨⟨{}, traced_nil.mpr rfl, rfl, rfl⟩, nofun, rfl, nofun⟩
  · intro history p i a r w hreach htold hallows hexec
    by_cases ha : ∃ now event, a = .append now event
    · obtain ⟨now, event, rfl⟩ := ha
      obtain ⟨appended, directory', u, hruns, rfl, rfl⟩ := perform_append hexec
      have hmark := (append_mark hruns).1
      refine hreach.told_append hcfg htold hallows ?_ rfl rfl
      exact hmark
    · push Not at ha
      have hmarks : marksOf (history ++ [⟨i, a, r⟩]) = marksOf history := by
        rw [marksOf, recorded_snoc_of_ne ha, marksOf]
      obtain ⟨c, hperform⟩ := hexec
      rw [hmarks, reported_snoc]
      split
      · rename_i hi
        subst hi
        apply htold.act rfl _ hallows ha hperform
        intro hready
        obtain ⟨hname, hidentity⟩ := hreach.identity hspec
        exact running_of_ready hname (congrArg Prod.fst hidentity) hrequired hready
      · rename_i hi
        apply htold.other hi _ hallows hperform
        intro n hn
        rw [hcfg] at hn
        exact List.mem_singleton.mp hn

end Runs

end Supervisor

end RobotestLab
