import RobotestLab.Scenarios.Tracking

/-!
# Rules for the cleanup

What the parts of the cleanup establish, for conditions on the interactions that the calls without
callbacks keep (`Stable`). No part makes the record say that the entity is absent, so this holds of
every exception (`Pending`). A wait establishes its predicate and keeps what the spins keep.
-/

namespace RobotestLab

namespace Scenarios

open Program

variable {F X : Type}

/-- The record does not say that the entity is absent. -/
def Pending (s : Session F X) : Prop := s.cleanup.actorAbsent = false

/-- The calls that deliver nothing keep the condition. -/
def Stable (I : List (cleanupSignature F).Interaction → Prop) : Prop :=
  ∀ (h : List (cleanupSignature F).Interaction) (i : (cleanupSignature F).Interaction),
    i.1.isIdle = true → I h → I (h ++ [i])

section Checks

variable {env : (cleanupSignature F).Environment} {s : Session F X}
  {h : List (cleanupSignature F).Interaction} {I : List (cleanupSignature F).Interaction → Prop}

/-- A call that delivers nothing. -/
theorem obtains_idle {c : Call F} (hI : Stable I) (hc : c.isIdle = true) (hh : I h)
    (hs : Pending s) :
  Obtains env (ask c) s h (fun a s' h' => s' = s ∧ I h' ∧ (env h c).result = .ok a ∧
    h' = h ++ [⟨c, .ok a⟩]) Pending
  := by
  apply Obtains.ask _ hs
  intro a ha
  exact ⟨rfl, hI h ⟨c, .ok a⟩ hc hh, ha, rfl⟩

theorem obtains_requireWallBudget [PoseFloat F] {elapsed : Session F X → String}
    (hI : Stable I) (hh : I h)
    (hs : Pending s) :
  Obtains env (requireWallBudget elapsed) s h (fun _ s' h' => s' = s ∧ I h') Pending
  := by
  unfold requireWallBudget
  refine Obtains.bind (Obtains.mono (obtains_idle hI rfl hh hs) ?_)
  rintro now _ h' ⟨rfl, hh', -⟩
  simp only [getSession, obtains_getState_bind]
  split
  · exact obtains_raise.mpr hs
  · exact obtains_pure.mpr ⟨rfl, hh'⟩

theorem obtains_checkDeadline [PoseFloat F] {deadline : F} {text : String}
    (hI : Stable I) (hh : I h)
    (hs : Pending s) :
  Obtains env (checkDeadline deadline text) s h (fun _ s' h' => s' = s ∧ I h') Pending
  := by
  unfold checkDeadline
  refine Obtains.bind (Obtains.mono (obtains_idle hI rfl hh hs) ?_)
  rintro now _ h' ⟨rfl, hh', -⟩
  split
  · exact obtains_raise.mpr hs
  · exact obtains_pure.mpr ⟨rfl, hh'⟩

theorem obtains_checkCleanupFatal (hs : Pending s) :
  Obtains env checkCleanupFatal s h
    (fun _ s' h' => s' = s ∧ h' = h ∧ s.node.cleanupFatalError = none) Pending
  := by
  unfold checkCleanupFatal
  simp only [getSession, obtains_getState_bind]
  split
  · exact obtains_raise.mpr hs
  · rename_i hnone
    exact obtains_pure.mpr ⟨rfl, rfl, hnone⟩

variable {reason : String} {deadline : Int}

theorem obtains_checkPast (hh : I h) (hs : Pending s) :
  Obtains env (checkPast reason deadline) s h (fun _ s' h' => s' = s ∧ I h') Pending
  := by
  unfold checkPast
  simp only [getSession, obtains_getState_bind]
  split
  · exact obtains_raise.mpr hs
  · exact obtains_pure.mpr ⟨rfl, hh⟩

theorem obtains_checkReached (hh : I h) (hs : Pending s) :
  Obtains env (checkReached reason deadline) s h (fun _ s' h' => s' = s ∧ I h') Pending
  := by
  unfold checkReached
  simp only [getSession, obtains_getState_bind]
  split
  · exact obtains_raise.mpr hs
  · exact obtains_pure.mpr ⟨rfl, hh⟩

theorem obtains_testPredicate [PoseFloat F] {app : Application F X} {predicate : Node F X → Bool}
    (hI : Stable I) (hh : I h) (hs : Pending s) :
  Obtains env (testPredicate app predicate reason deadline) s h
    (fun satisfied s' h' => s' = s ∧ I h' ∧ satisfied = predicate s.node) Pending
  := by
  unfold testPredicate
  simp only [getSession, obtains_getState_bind]
  refine Obtains.bind (Obtains.mono (obtains_requireWallBudget hI hh hs) ?_)
  rintro _ _ h' ⟨rfl, hh'⟩
  refine Obtains.bind (Obtains.mono (obtains_checkPast hh' hs) ?_)
  rintro _ _ h'' ⟨rfl, hh''⟩
  exact obtains_pure.mpr ⟨rfl, hh'', rfl⟩

/-- A retained failure leaves the record pending. -/
theorem obtains_retaining {α : Type} {handler : Failure → Option (String × Failure)}
    {m : Cleanup F X α} {Q : α → Session F X → List (cleanupSignature F).Interaction → Prop}
    (hm : Obtains env m s h Q Pending) :
  Obtains env (retaining handler m) s h Q Pending
  := by
  unfold retaining
  apply Obtains.attempt hm
  intro e s' h' hs'
  cases e with
  | baseException text => exact obtains_raise.mpr hs'
  | exception e =>
      simp only
      split
      · simp only [retainFailure, modifyTransaction, modifySession, obtains_modifyState_bind]
        apply obtains_raise.mpr
        unfold Pending at hs' ⊢
        split
        · apply hs'
        · apply hs'
      · exact obtains_raise.mpr hs'

end Checks

/-! ### Spins -/

/-- The callbacks that a spin delivers to the node. -/
def Session.deliver (receive : Callback F → Node F X → Node F X) (s : Session F X)
    (callbacks : List (Callback F)) : Session F X :=
  { s with node := callbacks.foldl (fun node k => receive k node) s.node }

theorem foldl_deliver (receive : Callback F → Node F X → Node F X) (callbacks : List (Callback F))
    (s : Session F X) :
  callbacks.foldl (fun s k => { s with node := receive k s.node }) s = s.deliver receive callbacks
  := by
  induction callbacks generalizing s with
  | nil => rfl
  | cons k ks ih =>
      rw [List.foldl_cons, ih]
      rfl

/-- A spin of the application is a spin of the executor among calls that deliver nothing, and it is
refused when an error of the cleanup is latched. -/
def Spins (app : Application F X) : Prop :=
  ∀ {env : (cleanupSignature F).Environment} {s : Session F X}
    {h : List (cleanupSignature F).Interaction} {I : List (cleanupSignature F).Interaction → Prop}
    {J : Session F X → List (cleanupSignature F).Interaction → Prop} (timeoutS : F),
    Stable I → (∀ s, Stable (J s)) → I h → Pending s →
    (∀ h' t, I h' → (s.deliver app.receive
      (env h' (.spinOnce t)).callbacks).node.cleanupFatalError = none →
      J (s.deliver app.receive (env h' (.spinOnce t)).callbacks) (h' ++ [⟨.spinOnce t, .ok ()⟩])) →
    Obtains env (app.spinOnce timeoutS) s h (fun _ s' h' => J s' h') Pending

section Spins

variable {env : (cleanupSignature F).Environment} {s : Session F X}
  {h : List (cleanupSignature F).Interaction} {I : List (cleanupSignature F).Interaction → Prop}

theorem obtains_executorSpin [PoseFloat F] {elapsed : Session F X → String}
    {receive : Callback F → Node F X → Node F X} {failed : String} {timeoutS : F} (hI : Stable I)
    (hh : I h) (hs : Pending s) :
  Obtains env (executorSpin elapsed receive failed timeoutS) s h
    (fun _ s' h' => ∃ h₀ t, I h₀ ∧ s' = s.deliver receive (env h₀ (.spinOnce t)).callbacks ∧
      h' = h₀ ++ [⟨.spinOnce t, .ok ()⟩]) Pending
  := by
  unfold executorSpin
  refine Obtains.bind (Obtains.mono (obtains_requireWallBudget hI hh hs) ?_)
  rintro _ _ h₁ ⟨rfl, hh₁⟩
  refine Obtains.bind (Obtains.mono (obtains_idle hI rfl hh₁ hs) ?_)
  rintro now _ h₂ ⟨rfl, hh₂, -⟩
  simp only [getSession, obtains_getState_bind]
  apply Obtains.attempt (D := Pending)
  · refine Obtains.call ?_ ?_
    · intro a ha
      rw [foldl_deliver]
      exact ⟨h₂, _, hh₂, rfl, rfl⟩
    · rw [foldl_deliver]
      apply hs
  · intro e s' h' hs'
    cases e with
    | baseException text => exact obtains_raise.mpr hs'
    | exception e =>
        simp only
        split <;> exact obtains_raise.mpr hs'

theorem ScenarioController.spins [PoseFloat F] : Spins (F := F) ScenarioController.application := by
  intro env s h I J timeoutS hI hJ hh hs hspin
  unfold ScenarioController.application
  simp only [ScenarioController.spinOnce]
  refine Obtains.bind (Obtains.mono (obtains_executorSpin hI hh hs) ?_)
  rintro _ s' h' ⟨h₀, t, hh₀, rfl, rfl⟩
  have hs' : Pending (s.deliver ScenarioController.receive (env h₀ (.spinOnce t)).callbacks) := hs
  have hdone := hspin h₀ t hh₀
  refine Obtains.bind (Obtains.mono (obtains_requireWallBudget
    (I := fun h' => (s.deliver ScenarioController.receive
      (env h₀ (.spinOnce t)).callbacks).node.cleanupFatalError = none → J _ h') ?_ hdone hs') ?_)
  · intro h' i hi hJ' hfatal
    apply hJ _ h' i hi (hJ' hfatal)
  · rintro _ _ h' ⟨rfl, hdone⟩
    refine Obtains.mono (obtains_checkCleanupFatal hs') ?_
    rintro _ _ _ ⟨rfl, rfl, hfatal⟩
    apply hdone hfatal

theorem ContactControl.spins [PoseFloat F] : Spins (F := F) ContactControl.application := by
  intro env s h I J timeoutS hI hJ hh hs hspin
  unfold ContactControl.application
  simp only [ContactControl.spinOnce]
  refine Obtains.bind (Obtains.mono (obtains_executorSpin hI hh hs) ?_)
  rintro _ s' h' ⟨h₀, t, hh₀, rfl, rfl⟩
  have hs' : Pending (s.deliver ContactControl.receive (env h₀ (.spinOnce t)).callbacks) := hs
  refine Obtains.bind (Obtains.mono (obtains_checkCleanupFatal hs') ?_)
  rintro _ _ _ ⟨rfl, rfl, hfatal⟩
  refine Obtains.bind (Obtains.mono (obtains_idle (hJ _) rfl (hspin h₀ t hh₀ hfatal) hs') ?_)
  rintro now _ h' ⟨rfl, hdone, -⟩
  refine Obtains.mono (obtains_requireWallBudget (hJ _) hdone hs') ?_
  rintro _ _ h' ⟨rfl, hdone⟩
  apply hdone

end Spins

/-! ### Waiting -/

section Waiting

variable {env : (cleanupSignature F).Environment} {s : Session F X}
  {h : List (cleanupSignature F).Interaction} {app : Application F X}
  {J : Session F X → List (cleanupSignature F).Interaction → Prop}

/-- The spins that begin with the condition on the state keep the other one. -/
def KeptBySpins (env : (cleanupSignature F).Environment) (app : Application F X)
    (P : Node F X → Prop) (J : Session F X → List (cleanupSignature F).Interaction → Prop) : Prop :=
  ∀ s h t, J s h → P s.node →
    (s.deliver app.receive (env h (.spinOnce t)).callbacks).node.cleanupFatalError = none →
    J (s.deliver app.receive (env h (.spinOnce t)).callbacks) (h ++ [⟨.spinOnce t, .ok ()⟩])

/-- A wait keeps what the spins keep while the predicate fails, and ends with the predicate. -/
theorem obtains_waitFor [PoseFloat F] {predicate : Node F X → Bool} {reason : String}
    {deadline : Int}
    (hspins : Spins app) (hJ : ∀ s, Stable (J s)) (hpending : ∀ s h, J s h → Pending s)
    (hspin : KeptBySpins env app (fun node => predicate node = false) J) (hstart : J s h) :
  Obtains env (waitFor app predicate reason deadline) s h
    (fun _ s' h' => J s' h' ∧ predicate s'.node = true) Pending
  := by
  unfold waitFor
  refine Obtains.loop (I := fun _ s h => J s h) ?_ hstart
  rintro - s h hs
  refine Obtains.bind (Obtains.mono (obtains_requireWallBudget (hJ s) hs (hpending s h hs)) ?_)
  rintro _ _ h₁ ⟨rfl, hs₁⟩
  refine Obtains.bind (Obtains.mono (obtains_checkCleanupFatal (hpending _ _ hs₁)) ?_)
  rintro _ _ _ ⟨rfl, rfl, -⟩
  refine Obtains.bind (Obtains.mono (obtains_checkPast hs₁ (hpending _ _ hs₁)) ?_)
  rintro _ _ h₂ ⟨rfl, hs₂⟩
  refine Obtains.bind (Obtains.mono (obtains_testPredicate (hJ _) hs₂ (hpending _ _ hs₂)) ?_)
  rintro satisfied _ h₃ ⟨rfl, hs₃, rfl⟩
  split
  · rename_i hsatisfied
    exact obtains_pure.mpr ⟨hs₃, hsatisfied⟩
  · rename_i hunsatisfied
    rw [Bool.not_eq_true] at hunsatisfied
    refine Obtains.bind (Obtains.mono (obtains_checkReached hs₃ (hpending _ _ hs₃)) ?_)
    rintro _ _ h₄ ⟨rfl, hs₄⟩
    refine Obtains.bind (Obtains.mono (hspins _ (hJ _) hJ hs₄ (hpending _ _ hs₄) ?_) ?_)
    · intro h' t hs' hfatal
      apply hspin _ h' t hs' hunsatisfied hfatal
    · rintro _ s' h' hs'
      refine Obtains.bind (Obtains.mono
        (obtains_requireWallBudget (hJ s') hs' (hpending _ _ hs')) ?_)
      rintro _ _ h₁ ⟨rfl, hs₁⟩
      refine Obtains.bind (Obtains.mono (obtains_checkPast hs₁ (hpending _ _ hs₁)) ?_)
      rintro _ _ h₂ ⟨rfl, hs₂⟩
      refine Obtains.bind (Obtains.mono (obtains_testPredicate (hJ _) hs₂ (hpending _ _ hs₂)) ?_)
      rintro satisfied _ h₃ ⟨rfl, hs₃, rfl⟩
      split
      · rename_i hsatisfied
        exact obtains_pure.mpr ⟨hs₃, hsatisfied⟩
      · refine Obtains.bind (Obtains.mono (obtains_checkReached hs₃ (hpending _ _ hs₃)) ?_)
        rintro _ _ h₄ ⟨rfl, hs₄⟩
        exact obtains_pure.mpr hs₄

theorem obtains_waitService [PoseFloat F] {name : String} (hspins : Spins app)
    (hJ : ∀ s, Stable (J s))
    (hpending : ∀ s h, J s h → Pending s) (hspin : KeptBySpins env app (fun _ => True) J)
    (hstart : J s h) :
  Obtains env (waitService app name) s h (fun _ s' h' => J s' h') Pending
  := by
  unfold waitService
  refine Obtains.bind (Obtains.mono (obtains_idle (hJ s) rfl hstart (hpending s h hstart)) ?_)
  rintro now _ h₀ ⟨rfl, hs₀, -⟩
  simp only [getSession, obtains_getState_bind]
  refine Obtains.loop (I := fun _ s h => J s h) ?_ hs₀
  rintro - s h hs
  refine Obtains.bind (Obtains.mono (obtains_requireWallBudget (hJ s) hs (hpending s h hs)) ?_)
  rintro _ _ h₁ ⟨rfl, hs₁⟩
  refine Obtains.bind (Obtains.mono (obtains_checkCleanupFatal (hpending _ _ hs₁)) ?_)
  rintro _ _ _ ⟨rfl, rfl, -⟩
  refine Obtains.bind (Obtains.mono (obtains_checkDeadline (hJ _) hs₁ (hpending _ _ hs₁)) ?_)
  rintro _ _ h₂ ⟨rfl, hs₂⟩
  refine Obtains.bind (Obtains.mono (obtains_idle (hJ _) rfl hs₂ (hpending _ _ hs₂)) ?_)
  rintro ready _ h₃ ⟨rfl, hs₃, -⟩
  refine Obtains.bind (Obtains.mono (obtains_requireWallBudget (hJ _) hs₃ (hpending _ _ hs₃)) ?_)
  rintro _ _ h₄ ⟨rfl, hs₄⟩
  refine Obtains.bind (Obtains.mono (obtains_checkDeadline (hJ _) hs₄ (hpending _ _ hs₄)) ?_)
  rintro _ _ h₅ ⟨rfl, hs₅⟩
  split
  · exact obtains_pure.mpr hs₅
  · refine Obtains.bind (Obtains.mono (hspins _ (hJ _) hJ hs₅ (hpending _ _ hs₅) ?_) ?_)
    · intro h' t hs' hfatal
      apply hspin _ h' t hs' trivial hfatal
    · rintro _ s' h' hs'
      exact obtains_pure.mpr hs'

theorem obtains_waitResponse [PoseFloat F] {name : String} {deadline : F} (hspins : Spins app)
    (hJ : ∀ s, Stable (J s)) (hpending : ∀ s h, J s h → Pending s)
    (hspin : KeptBySpins env app (fun _ => True) J) (hstart : J s h) :
  Obtains env (waitResponse app name deadline) s h (fun _ s' h' => J s' h') Pending
  := by
  unfold waitResponse
  refine Obtains.loop (I := fun _ s h => J s h) ?_ hstart
  rintro - s h hs
  refine Obtains.bind (Obtains.mono (obtains_retaining
    (Q := fun _ s' h' => s' = s ∧ J s h') ?_) ?_)
  · refine Obtains.bind (Obtains.mono (obtains_requireWallBudget (hJ s) hs (hpending s h hs)) ?_)
    rintro _ _ h₁ ⟨rfl, hs₁⟩
    refine Obtains.bind (Obtains.mono (obtains_checkDeadline (hJ _) hs₁ (hpending _ _ hs₁)) ?_)
    rintro _ _ h₂ ⟨rfl, hs₂⟩
    refine Obtains.bind (Obtains.mono (obtains_idle (hJ _) rfl hs₂ (hpending _ _ hs₂)) ?_)
    rintro done _ h₃ ⟨rfl, hs₃, -⟩
    refine Obtains.bind (Obtains.mono (obtains_requireWallBudget (hJ _) hs₃ (hpending _ _ hs₃)) ?_)
    rintro _ _ h₄ ⟨rfl, hs₄⟩
    refine Obtains.bind (Obtains.mono (obtains_checkDeadline (hJ _) hs₄ (hpending _ _ hs₄)) ?_)
    rintro _ _ h₅ ⟨rfl, hs₅⟩
    exact obtains_pure.mpr ⟨rfl, hs₅⟩
  · rintro done _ h₆ ⟨rfl, hs₆⟩
    split
    · exact obtains_pure.mpr hs₆
    · refine Obtains.bind (Obtains.mono (obtains_retaining
        (hspins _ (hJ _) hJ hs₆ (hpending _ _ hs₆) ?_)) ?_)
      · intro h' t hs' hfatal
        apply hspin _ h' t hs' trivial hfatal
      · rintro _ s' h' hs'
        exact obtains_pure.mpr hs'

end Waiting

/-! ### Listening -/

/-- A session whose node tracks what is collected. -/
structure Listening (Own : X → Prop) (c : Collected) (s : Session F X) : Prop where
  mode : s.node.cleanupMode = true
  own : Own s.node.own
  tracks : Tracks c s.node
  pending : Pending s

section Listening

variable {Own : X → Prop} {name : String} {receive : Callback F → Node F X → Node F X}

/-- A spin that latches no error takes the node along with the collector. -/
theorem Listening.deliver (hlistens : Listens Own name receive) {callbacks : List (Callback F)}
    {c : Collected} {s : Session F X} (hs : Listening Own c s)
    (hfatal : (s.deliver receive callbacks).node.cleanupFatalError = none) :
  Listening Own (callbacks.foldl (Collected.callback name) c) (s.deliver receive callbacks) ∧
    c.clockNs ≤ (callbacks.foldl (Collected.callback name) c).clockNs
  := by
  have hcallbacks : ∀ (callbacks : List (Callback F)) (node : Node F X) (c : Collected),
      node.cleanupMode = true → Own node.own →
      (callbacks.foldl (fun node k => receive k node) node).cleanupFatalError = none →
      node.cleanupFatalError = none ∧
      (callbacks.foldl (fun node k => receive k node) node).cleanupMode = true ∧
      Own (callbacks.foldl (fun node k => receive k node) node).own ∧
      (Tracks c node → Tracks (callbacks.foldl (Collected.callback name) c)
        (callbacks.foldl (fun node k => receive k node) node) ∧
        c.clockNs ≤ (callbacks.foldl (Collected.callback name) c).clockNs) := by
    intro callbacks
    induction callbacks with
    | nil =>
        intro node c hmode hown hfatal
        exact ⟨hfatal, hmode, hown, fun htracks => ⟨htracks, le_refl _⟩⟩
    | cons k ks ih =>
        intro node c hmode hown hfatal
        obtain ⟨hmode', hown', hlisten⟩ := hlistens k node hmode hown
        obtain ⟨hnone, hmode'', hown'', htracks⟩ :=
          ih (receive k node) (c.callback name k) hmode' hown' hfatal
        obtain ⟨hnone', hadvance⟩ := hlisten hnone
        refine ⟨hnone', hmode'', hown'', ?_⟩
        intro hc
        obtain ⟨hk, hclock⟩ := hadvance c hc
        obtain ⟨hks, hclock'⟩ := htracks hk
        exact ⟨hks, le_trans hclock hclock'⟩
  obtain ⟨-, hmode, hown, htracks⟩ := hcallbacks callbacks s.node c hs.mode hs.own hfatal
  obtain ⟨hdone, hclock⟩ := htracks hs.tracks
  exact ⟨⟨hmode, hown, hdone, hs.pending⟩, hclock⟩

end Listening

/-! ### The delete request -/

namespace Collected

variable {name : String} {c : Collected}

theorem observe_of_none (h : c.response = none) (r : Reception) :
  (c.observe r).response = none ∧ (c.observe r).after = c.after ∧ c.number ≤ (c.observe r).number
  := by
  unfold observe
  cases r.origin with
  | heartbeat => simp [h]
  | pose => simp [h]

/-- Before the response, nothing is observed after it. -/
theorem spin_of_none (h : c.response = none) (callbacks : List (Callback F)) :
  (callbacks.foldl (callback name) c).response = none ∧
    (callbacks.foldl (callback name) c).after = c.after ∧
    c.number ≤ (callbacks.foldl (callback name) c).number
  := by
  have hreceptions : ∀ (rs : List Reception) (c : Collected), c.response = none →
      (rs.foldl observe c).response = none ∧ (rs.foldl observe c).after = c.after ∧
        c.number ≤ (rs.foldl observe c).number := by
    intro rs
    induction rs with
    | nil => exact fun c h => ⟨h, rfl, le_refl _⟩
    | cons r rs ih =>
        intro c h
        obtain ⟨h₁, h₂, h₃⟩ := observe_of_none h r
        obtain ⟨h₄, h₅, h₆⟩ := ih (c.observe r) h₁
        exact ⟨h₄, h₅.trans h₂, le_trans h₃ h₆⟩
  induction callbacks generalizing c with
  | nil => exact ⟨h, rfl, le_refl _⟩
  | cons k ks ih =>
      obtain ⟨h₁, h₂, h₃⟩ := hreceptions (k.receptions name) (c.clock k) (by simpa using h)
      obtain ⟨h₄, h₅, h₆⟩ := ih (c := c.callback name k) h₁
      rw [clock_after] at h₂
      rw [clock_number] at h₃
      exact ⟨h₄, h₅.trans h₂, le_trans h₃ h₆⟩

end Collected

/-- A session that awaits the response of a request with the given number and stamp. -/
structure Awaiting (Own : X → Prop) (c : Collected) (n : Nat) (t : Int) (s : Session F X) : Prop
    extends Listening Own c s where
  response : c.response = none
  after : c.after = []
  number : n ≤ c.number
  clock : t ≤ c.clockNs

section Request

variable {Own : X → Prop} {name : String} {env : (cleanupSignature F).Environment}
  {start : Collected}
  {app : Application F X} {s : Session F X} {h : List (cleanupSignature F).Interaction} {n : Nat}
  {t : Int}

theorem stable_collected {P : Collected → Prop} :
    Stable fun h => P (collected name env start h) := by
  intro h i hi hP
  rw [collected_idle hi]
  apply hP

theorem Awaiting.spins (hlistens : Listens Own name app.receive) :
  KeptBySpins env app (fun _ => True) fun s h => Awaiting Own (collected name env start h) n t s
  := by
  intro s h timeout hs _ hfatal
  obtain ⟨hlistening, hclock⟩ := hs.toListening.deliver hlistens hfatal
  obtain ⟨hresponse, hafter, hnumber⟩ := @Collected.spin_of_none _ name _ hs.response
    (env h (.spinOnce timeout)).callbacks
  rw [collected_concat]
  exact ⟨hlistening, hresponse, hafter.trans hs.after, le_trans hs.number hnumber,
    le_trans hs.clock hclock⟩

/-- Evidence of the request changes neither the node nor whether the record is pending. -/
theorem obtains_modifyTransaction {f : TransactionProof → TransactionProof}
    {Q : Unit → Session F X → List (cleanupSignature F).Interaction → Prop}
    (hQ : ∀ record, record.actorAbsent = s.cleanup.actorAbsent →
      Q () { s with cleanup := record } h) :
  Obtains env (modifyTransaction f) s h Q Pending
  := by
  unfold modifyTransaction modifySession
  rw [obtains_modifyState]
  split
  · exact hQ _ rfl
  · exact hQ s.cleanup rfl

theorem Awaiting.record {c : Collected} (hs : Awaiting Own c n t s) {record : CleanupRecord}
    (hrecord : record.actorAbsent = s.cleanup.actorAbsent) :
  Awaiting Own c n t { s with cleanup := record }
  := ⟨⟨hs.mode, hs.own, hs.tracks, hrecord.trans hs.pending⟩, hs.response, hs.after,
    hs.number, hs.clock⟩

/-- The request and the response take their numbers in the order of the observations. -/
theorem obtains_callService [PoseFloat F] {entityName service : String} (hspins : Spins app)
    (hlistens : Listens Own name app.receive)
    (hs : Awaiting Own (collected name env start h) 0 0 s) :
  Obtains env (callService app entityName service) s h
    (fun r s' h' => 1 ≤ r.2.1 ∧ 0 ≤ r.2.2 ∧ ∃ c, Awaiting Own c r.2.1 r.2.2 s' ∧
      collected name env start h' = c.respond) Pending
  := by
  have hstable : ∀ (n : Nat) (t : Int) (s : Session F X),
      Stable fun h => Awaiting Own (collected name env start h) n t s :=
    fun n t s => stable_collected (P := fun c => Awaiting Own c n t s)
  unfold callService
  -- The service is awaited before the request takes its number.
  refine Obtains.bind (Obtains.mono (obtains_retaining
    (Q := fun _ s h => Awaiting Own (collected name env start h) 0 0 s) ?_) ?_)
  · refine Obtains.bind (Obtains.mono (obtains_waitService hspins (hstable 0 0)
      (fun s h hs => hs.pending) (Awaiting.spins hlistens) hs) ?_)
    rintro deadline s h hs
    refine Obtains.bind (Obtains.mono (obtains_requireWallBudget (hstable 0 0 s) hs hs.pending) ?_)
    rintro _ _ h₁ ⟨rfl, hs₁⟩
    refine Obtains.bind (Obtains.mono (obtains_checkDeadline (hstable 0 0 _) hs₁ hs₁.pending) ?_)
    rintro _ _ h₂ ⟨rfl, hs₂⟩
    exact obtains_pure.mpr hs₂
  rintro deadline s h hs
  simp only [modifySession, getSession, obtains_modifyState_bind, obtains_getState_bind]
  refine Obtains.bind (obtains_modifyTransaction ?_)
  rintro record hrecord
  have hs := hs.record hrecord
  -- Until the request is sent, the node is one number ahead.
  refine Obtains.bind (Obtains.mono (obtains_retaining
    (Q := fun _ s' h => s' = { s with node := s.node.nextSequence, cleanup := record } ∧
      Awaiting Own (collected name env start h) 0 0 { s with cleanup := record }) ?_) ?_)
  · have hI := hstable 0 0 { s with cleanup := record }
    refine Obtains.bind (Obtains.mono (obtains_requireWallBudget hI hs hs.pending) ?_)
    rintro _ _ h₁ ⟨rfl, hs₁⟩
    refine Obtains.mono (obtains_checkDeadline hI hs₁ hs₁.pending) ?_
    rintro _ _ h₂ ⟨rfl, hs₂⟩
    exact ⟨rfl, hs₂⟩
  rintro _ _ h₁ ⟨rfl, hs₁⟩
  refine Obtains.bind (obtains_retaining ?_)
  refine Obtains.ask ?_ hs₁.pending
  rintro _ -
  have hrequest : Awaiting Own (collected name env start (h₁ ++ [⟨.callAsync entityName, .ok ()⟩]))
      (s.node.sequence + 1) s.node.currentSimStampNs
      { s with node := s.node.nextSequence, cleanup := record } := by
    rw [collected_concat]
    refine ⟨⟨hs₁.mode, hs₁.own, hs₁.tracks.next, hs₁.pending⟩, hs₁.response, hs₁.after, ?_, ?_⟩
    · rw [hs₁.tracks.sequence]
      apply le_refl
    · rw [hs₁.tracks.clock]
      apply le_refl
  have hstamp : 0 ≤ s.node.currentSimStampNs := by
    rw [hs₁.tracks.clock]
    apply hs₁.tracks.clock_nonneg
  have hI := hstable (s.node.sequence + 1) s.node.currentSimStampNs
  refine Obtains.bind (Obtains.mono (obtains_idle (hI _) rfl hrequest hrequest.pending) ?_)
  rintro now _ h₂ ⟨rfl, hs₂, -⟩
  simp only [obtains_getState_bind]
  refine Obtains.bind (Obtains.mono (obtains_waitResponse hspins hI (fun s h hs => hs.pending)
    (Awaiting.spins hlistens) hs₂) ?_)
  rintro _ s h hs
  -- The response takes its number when the future has it.
  refine Obtains.bind (obtains_retaining ?_)
  refine Obtains.ask ?_ hs.pending
  rintro response -
  have hresponse : Awaiting Own (collected name env start h) _ _ s ∧
      collected name env start (h ++ [⟨.futureResult, .ok response⟩]) =
        (collected name env start h).respond := ⟨hs, collected_concat _⟩
  generalize collected name env start h = c at hresponse
  obtain ⟨hs, hc⟩ := hresponse
  have hC : Stable fun h' => collected name env start h' = c.respond :=
    stable_collected (P := fun c' => c' = c.respond)
  refine Obtains.bind (Obtains.mono (obtains_retaining
    (Q := fun _ s' h' => s' = s ∧ collected name env start h' = c.respond) ?_) ?_)
  · refine Obtains.bind (Obtains.mono (obtains_requireWallBudget hC hc hs.pending) ?_)
    rintro _ _ h₁ ⟨rfl, hc₁⟩
    exact obtains_checkDeadline hC hc₁ hs.pending
  rintro _ _ h₃ ⟨rfl, hc₃⟩
  split
  · refine Obtains.bind (obtains_modifyTransaction ?_)
    intro record hrecord
    exact obtains_raise.mpr (hrecord.trans hs.pending)
  · exact obtains_pure.mpr ⟨Nat.le_add_left 1 _, hstamp, c, hs, hc₃⟩

end Request

end Scenarios

end RobotestLab
