import Mathlib.Data.List.Induction
import RobotestLab.Scenarios.Tracking

/-!
# Anchors

A heartbeat is an anchor of the observations when it is newer than every pose before it and no pose
comes after it (`Anchored`). Between two spins the cleanup watches for an anchor, or it holds a
heartbeat for one (`Watch`). The last heartbeat of a spin passes for an anchor when it is newer than
every pose, also when an older pose came behind it in the same spin, and it is held until the next
pose. What is held at the end is an anchor when the deliveries are fair (`FairDeliveries.anchored`),
and only then (`Anchored.fairDeliveries`).
-/

namespace RobotestLab

namespace Scenarios

/-- A heartbeat with the stamp is newer than all poses before it, and no pose comes after it. -/
def Anchored (stampNs : Int) (os : List Observation) : Prop :=
  ∃ b n e, os = b ++ ⟨⟨.heartbeat, stampNs⟩, n⟩ :: e ∧
    (∀ o ∈ b, o.origin = .pose → o.stampNs < stampNs) ∧ ∀ o ∈ e, o.origin = .heartbeat

/-- A heartbeat has reached the stamp. -/
def Spanned (stampNs : Int) (os : List Observation) : Prop :=
  ∃ o ∈ os, o.origin = .heartbeat ∧ stampNs ≤ o.stampNs

/-- The stamp of the last heartbeat, when it is past the floor and newer than every pose. -/
def passing (floor : Int) (os : List Observation) : Option Int :=
  ((latest .heartbeat os).map (·.stampNs)).filter fun ns =>
    floor < ns ∧ ∀ pose ∈ os, pose.origin = .pose → pose.stampNs < ns

/-- The stamp that passes, when the last observation is a heartbeat. -/
def settled (floor : Int) (os : List Observation) : Option Int :=
  if os.getLast?.any (·.origin = .heartbeat) then passing floor os else none

/-- What the cleanup watches for between two spins: the stamp that it held before the last pose, and
the stamp that it holds for the one of an anchor. -/
structure Watch where
  former : Option Int := none
  anchor : Option Int := none
  deriving DecidableEq, Repr

namespace Watch

/-- The stamp that an anchor has to pass. -/
def floor (responseStampNs : Int) (watch : Watch) : Int := watch.former.getD responseStampNs

/-- A spin delivers more observations. While nothing is held, its last heartbeat only has to pass. A
pose ends what is held, and then the last heartbeat is held only if it comes behind the pose. -/
def spin (responseStampNs : Int) (os news : List Observation) (watch : Watch) : Watch :=
  match watch.anchor with
  | none =>
      if ∃ o ∈ news, o.origin = .heartbeat then
        { watch with anchor := passing (watch.floor responseStampNs) (os ++ news) }
      else watch
  | some anchor =>
      if ∃ o ∈ news, o.origin = .pose then ⟨some anchor, settled anchor (os ++ news)⟩ else watch

end Watch

variable {os news : List Observation} {o : Observation} {origin : Origin}

theorem Origin.eq_pose (h : origin ≠ .heartbeat) : origin = .pose := by
  cases origin with
  | heartbeat => exact absurd rfl h
  | pose => rfl

theorem Origin.eq_heartbeat (h : origin ≠ .pose) : origin = .heartbeat := by
  cases origin with
  | heartbeat => rfl
  | pose => exact absurd rfl h

/-- After the last observation of an origin there are only others. -/
theorem latest_eq_some (h : latest origin os = some o) :
  ∃ b e, os = b ++ o :: e ∧ o.origin = origin ∧ ∀ o' ∈ e, o'.origin ≠ origin
  := by
  induction os using List.reverseRecOn with
  | nil => cases h
  | append_singleton os last ih =>
      by_cases horigin : last.origin = origin
      · subst horigin
        rw [latest, ofOrigin_concat_self, List.getLast?_concat] at h
        obtain rfl := Option.some.inj h
        exact ⟨os, [], rfl, rfl, by simp⟩
      · rw [latest, ofOrigin_concat_other os horigin] at h
        obtain ⟨b, e, rfl, ho, he⟩ := ih h
        refine ⟨b, e ++ [last], by simp, ho, ?_⟩
        intro o' ho'
        rcases List.mem_append.mp ho' with ho' | ho'
        · apply he o' ho'
        · rw [List.mem_singleton.mp ho']
          apply horigin

theorem latest_mem (h : latest origin os = some o) : o ∈ os ∧ o.origin = origin := by
  obtain ⟨b, e, rfl, ho, -⟩ := latest_eq_some h
  exact ⟨by simp, ho⟩

theorem latest_eq_none (h : latest origin os = none) : ∀ o ∈ os, o.origin ≠ origin := by
  intro o ho horigin
  have hmem : o ∈ ofOrigin origin os := by simpa [ofOrigin] using ⟨ho, horigin⟩
  rw [latest, List.getLast?_eq_none_iff] at h
  rw [h] at hmem
  cases hmem

theorem latest_append_of_none (h : ∀ o ∈ news, o.origin ≠ origin) :
  latest origin (os ++ news) = latest origin os
  := by
  have hnews : ofOrigin origin news = [] := by
    apply List.filter_eq_nil_iff.mpr
    intro o ho
    simpa using h o ho
  unfold latest ofOrigin at *
  rw [List.filter_append, hnews, List.append_nil]

theorem latest_append_of_mem (h : ∃ o ∈ news, o.origin = origin) :
  latest origin (os ++ news) = latest origin news
  := by
  obtain ⟨o, ho, horigin⟩ := h
  have hmem : o ∈ ofOrigin origin news := by simpa [ofOrigin] using ⟨ho, horigin⟩
  unfold latest ofOrigin at *
  rw [List.filter_append, List.getLast?_append_of_ne_nil _ (List.ne_nil_of_mem hmem)]

/-! ### Order -/

variable {F X : Type} {response : Nat} {node : Node F X}

/-- The last observation of an origin has the greatest stamp and number of that origin. -/
theorem InOrder.le_latest (h : InOrder response os node) (hlatest : latest origin os = some o)
    {o' : Observation} (ho' : o' ∈ os) (horigin : o'.origin = origin) :
  o'.stampNs ≤ o.stampNs ∧ o'.sequence ≤ o.sequence
  := by
  obtain ⟨b, e, rfl, ho, he⟩ := latest_eq_some hlatest
  have hstamps := h.stamps
  have hsequences := h.sequences
  rw [List.pairwise_append] at hstamps hsequences
  rcases List.mem_append.mp ho' with hb | hb
  · have hlt := hsequences.2.2 o' hb o List.mem_cons_self
    exact ⟨hstamps.2.2 o' hb o List.mem_cons_self (horigin.trans ho.symm), le_of_lt hlt⟩
  · rcases List.mem_cons.mp hb with rfl | hb
    · exact ⟨le_refl _, le_refl _⟩
    · exact absurd horigin (he o' hb)

/-- The last observation has the greatest number. -/
theorem InOrder.le_last (h : InOrder response os node) (hlast : os.getLast? = some o)
    {o' : Observation} (ho' : o' ∈ os) :
  o' = o ∨ o'.sequence < o.sequence
  := by
  obtain ⟨b, rfl⟩ := List.getLast?_eq_some_iff.mp hlast
  have hsequences := h.sequences
  rw [List.pairwise_append] at hsequences
  rcases List.mem_append.mp ho' with hb | hb
  · exact Or.inr (hsequences.2.2 o' hb o List.mem_cons_self)
  · exact Or.inl (List.mem_singleton.mp hb)

/-- The numbers of the poses grow at least as their count. -/
theorem InOrder.count_le (h : InOrder response os node) {first last : Observation}
    (hfirst : earliest origin os = some first) (hlast : latest origin os = some last) :
  first.sequence + ((ofOrigin origin os).length - 1) ≤ last.sequence ∧ first.stampNs ≤ last.stampNs
  := by
  have hsorted : (ofOrigin origin os).Pairwise fun a b => a.sequence < b.sequence :=
    h.sequences.filter _
  have hgrow : ∀ (l : List Observation) (a b : Observation),
      l.Pairwise (fun a b => a.sequence < b.sequence) → l.head? = some a → l.getLast? = some b →
      a.sequence + (l.length - 1) ≤ b.sequence := by
    intro l
    induction l with
    | nil => simp
    | cons x l ih =>
        intro a b hl ha hb
        obtain rfl : x = a := by simpa using ha
        cases l with
        | nil =>
            obtain rfl : x = b := by simpa using hb
            simp
        | cons y l =>
            rw [List.pairwise_cons] at hl
            have hxy := hl.1 y List.mem_cons_self
            have hyb := ih y b hl.2 rfl (by simpa using hb)
            simp only [List.length_cons] at hyb ⊢
            omega
  refine ⟨hgrow _ _ _ hsorted hfirst hlast, ?_⟩
  have hmem : first ∈ ofOrigin origin os := List.mem_of_mem_head? hfirst
  simp only [ofOrigin, List.mem_filter, decide_eq_true_eq] at hmem
  apply (h.le_latest hlast hmem.1 hmem.2).1

/-! ### Passing heartbeats -/

section Passing

variable {floor q : Int}

theorem passing_eq_some :
  passing floor os = some q ↔ (∃ o, latest .heartbeat os = some o ∧ o.stampNs = q) ∧ floor < q ∧
    ∀ pose ∈ os, pose.origin = .pose → pose.stampNs < q
  := by
  unfold passing
  rw [Option.filter_eq_some_iff, Option.map_eq_some_iff, decide_eq_true_eq]

theorem settled_eq_some :
  settled floor os = some q ↔ (∃ o ∈ os.getLast?, o.origin = .heartbeat) ∧
    passing floor os = some q
  := by
  have hlast : os.getLast?.any (·.origin = .heartbeat) = true ↔
      ∃ o ∈ os.getLast?, o.origin = .heartbeat := by
    rw [Option.any_eq_true]
    simp only [decide_eq_true_eq, Option.mem_def]
  unfold settled
  split
  · rename_i hheartbeat
    exact (and_iff_right (hlast.mp hheartbeat)).symm
  · rename_i hheartbeat
    constructor
    · rintro ⟨⟩
    · intro h
      exact absurd (hlast.mpr h.1) hheartbeat

theorem settled_of_heartbeat (h : ∃ o ∈ os.getLast?, o.origin = .heartbeat) :
  settled floor os = passing floor os
  := by
  ext q
  exact settled_eq_some.trans (and_iff_right h)

theorem latest_of_getLast? (h : os.getLast? = some o) :
  latest o.origin os = some o
  := by
  obtain ⟨b, rfl⟩ := List.getLast?_eq_some_iff.mp h
  rw [latest, ofOrigin_concat_self, List.getLast?_concat]

/-- A heartbeat that passes is an anchor when it is the last observation. -/
theorem Anchored.of_passing (hpassing : passing floor os = some q)
    (hlast : ∃ o ∈ os.getLast?, o.origin = .heartbeat) :
  Anchored q os
  := by
  obtain ⟨⟨anchor, hanchor, rfl⟩, -, hposes⟩ := passing_eq_some.mp hpassing
  obtain ⟨⟨⟨origin, stampNs⟩, n⟩, hlast, horigin⟩ := hlast
  obtain rfl : origin = .heartbeat := horigin
  obtain rfl := Option.some.inj ((latest_of_getLast? hlast).symm.trans hanchor)
  obtain ⟨b, rfl⟩ := List.getLast?_eq_some_iff.mp hlast
  refine ⟨b, n, [], rfl, ?_, ?_⟩
  · intro pose hpose
    exact hposes pose (List.mem_append_left _ hpose)
  · intro o ho
    cases ho

/-- An anchor stays one when no pose comes. -/
theorem Anchored.append (h : Anchored q os) (hnews : ∀ o ∈ news, o.origin ≠ .pose) :
  Anchored q (os ++ news)
  := by
  obtain ⟨b, n, e, rfl, hb, he⟩ := h
  refine ⟨b, n, e ++ news, by simp, hb, ?_⟩
  intro o ho
  rcases List.mem_append.mp ho with ho | ho
  · exact he o ho
  · exact Origin.eq_heartbeat (hnews o ho)

/-- A heartbeat with a stamp that passed is an anchor when no pose came since. -/
theorem Anchored.of_later (hpassing : passing floor os = some q)
    (hnews : ∀ o ∈ news, o.origin ≠ .pose)
    (hlater : ∃ o ∈ news, o.origin = .heartbeat ∧ o.stampNs = q) :
  Anchored q (os ++ news)
  := by
  obtain ⟨-, -, hposes⟩ := passing_eq_some.mp hpassing
  obtain ⟨⟨⟨origin, stampNs⟩, n⟩, ho, horigin, hstamp⟩ := hlater
  obtain rfl : origin = .heartbeat := horigin
  obtain rfl : stampNs = q := hstamp
  obtain ⟨b, e, rfl⟩ := List.append_of_mem ho
  refine ⟨os ++ b, n, e, by simp, ?_, ?_⟩
  · intro pose hpose horigin
    rcases List.mem_append.mp hpose with hpose | hpose
    · exact hposes pose hpose horigin
    · exact absurd horigin (hnews pose (by simp [hpose]))
  · intro o ho
    exact Origin.eq_heartbeat (hnews o (by simp [ho]))

/-- An anchor is at the end of the observations, or after them, when a pose is their last. -/
theorem Anchored.exists_later (h : Anchored q (os ++ news)) (hlast : os.getLast? = some o)
    (hpose : o.origin = .pose) :
  ∃ o ∈ news, o.origin = .heartbeat ∧ o.stampNs = q
  := by
  obtain ⟨b, n, e, heq, -, he⟩ := h
  rcases List.append_eq_append_iff.mp heq with ⟨y, rfl, rfl⟩ | ⟨x, rfl, hx⟩
  · exact ⟨⟨⟨.heartbeat, q⟩, n⟩, by simp, rfl, rfl⟩
  · cases x with
    | nil =>
        rw [List.nil_append] at hx
        exact ⟨⟨⟨.heartbeat, q⟩, n⟩, by simp [← hx], rfl, rfl⟩
    | cons a x =>
        -- The anchor and only heartbeats are at the end of the observations.
        obtain ⟨rfl, rfl⟩ := List.cons.inj hx
        rw [List.getLast?_append_of_ne_nil _ (List.cons_ne_nil _ _)] at hlast
        rcases List.mem_cons.mp (List.mem_of_getLast? hlast) with rfl | ho
        · cases hpose
        · rw [he o (List.mem_append_left _ ho)] at hpose
          cases hpose

theorem Spanned.append {stampNs : Int} (h : Spanned stampNs os) :
  Spanned stampNs (os ++ news)
  := by
  obtain ⟨o, ho, hspanned⟩ := h
  exact ⟨o, List.mem_append_left news ho, hspanned⟩

end Passing

/-! ### Holding -/

namespace Watch

variable {responseStampNs q : Int} {watch : Watch}

theorem spin_nil (responseStampNs : Int) (os : List Observation) (watch : Watch) :
  watch.spin responseStampNs os [] = watch
  := by
  unfold spin
  split <;> simp

/-- What is held stays when no pose comes. -/
theorem spin_of_anchor (h : watch.anchor = some q) (hnews : ∀ o ∈ news, o.origin ≠ .pose) :
  watch.spin responseStampNs os news = watch
  := by
  have hnone : ¬ ∃ o ∈ news, o.origin = .pose := by
    rintro ⟨o, ho, hpose⟩
    exact hnews o ho hpose
  unfold spin
  simp only [h]
  rw [if_neg hnone]

/-- While nothing is held, the last heartbeat of the spin only has to pass. -/
theorem spin_of_none (h : watch.anchor = none) (hnews : ∃ o ∈ news, o.origin = .heartbeat) :
  watch.spin responseStampNs os news =
    { watch with anchor := passing (watch.floor responseStampNs) (os ++ news) }
  := by
  unfold spin
  simp only [h]
  rw [if_pos hnews]

theorem spin_of_none_of_poses (h : watch.anchor = none)
    (hnews : ∀ o ∈ news, o.origin ≠ .heartbeat) :
  watch.spin responseStampNs os news = watch
  := by
  have hnone : ¬ ∃ o ∈ news, o.origin = .heartbeat := by
    rintro ⟨o, ho, hheartbeat⟩
    exact hnews o ho hheartbeat
  unfold spin
  simp only [h]
  rw [if_neg hnone]

/-- A pose ends what is held. -/
theorem spin_of_pose (h : watch.anchor = some q) (hnews : ∃ o ∈ news, o.origin = .pose) :
  watch.spin responseStampNs os news = ⟨some q, settled q (os ++ news)⟩
  := by
  unfold spin
  simp only [h]
  rw [if_pos hnews]

/-- What is held was held before, or it passes with a spin that brings a heartbeat. -/
theorem anchor_spin (h : (watch.spin responseStampNs os news).anchor = some q) :
  watch.anchor = some q ∧ (∀ o ∈ news, o.origin ≠ .pose) ∨
    (∃ o ∈ news, o.origin = .heartbeat) ∧ ∃ floor, passing floor (os ++ news) = some q
  := by
  cases hanchor : watch.anchor with
  | none =>
      unfold spin at h
      simp only [hanchor] at h
      split at h
      · rename_i hheartbeat
        exact Or.inr ⟨hheartbeat, _, h⟩
      · rw [hanchor] at h
        cases h
  | some anchor =>
      by_cases hpose : ∃ o ∈ news, o.origin = .pose
      · rw [spin_of_pose hanchor hpose] at h
        obtain ⟨⟨o, hlast, horigin⟩, hpassing⟩ := settled_eq_some.mp h
        obtain ⟨pose, hmem, -⟩ := hpose
        rw [List.getLast?_append_of_ne_nil _ (List.ne_nil_of_mem hmem)] at hlast
        exact Or.inr ⟨⟨o, List.mem_of_getLast? hlast, horigin⟩, anchor, hpassing⟩
      · have hnews : ∀ o ∈ news, o.origin ≠ .pose := fun o ho horigin => hpose ⟨o, ho, horigin⟩
        rw [spin_of_anchor hanchor hnews] at h
        exact Or.inl ⟨hanchor.symm.trans h, hnews⟩

end Watch

/-! ### What is held in a run -/

variable {F : Type}

namespace Watch

/-- The collector and the watch take a delivery. -/
def follow (name : String) (p : Collected × Watch)
    (delivery : List (Callback F) × (cleanupSignature F).Interaction) : Collected × Watch :=
  let c := p.1.interact name delivery
  match c.response with
  | none => (c, p.2)
  | some response => (c, p.2.spin response.2 p.1.after (c.after.drop p.1.after.length))

end Watch

/-- What the cleanup holds for an anchor after the interactions of a run. It goes by the deliveries
alone. -/
def watched (name : String) (env : (cleanupSignature F).Environment) (start : Collected)
    (history : List (cleanupSignature F).Interaction) : Watch :=
  ((Program.deliveries env history).foldl (Watch.follow name) (start, {})).2

section Watched

variable {name : String} {env : (cleanupSignature F).Environment} {start : Collected}
  {h : List (cleanupSignature F).Interaction} {i : (cleanupSignature F).Interaction} {q : Int}

theorem collected_follow (h : List (cleanupSignature F).Interaction) :
  ((Program.deliveries env h).foldl (Watch.follow name) (start, {})).1 = collected name env start h
  := by
  unfold collected
  generalize ({} : Watch) = watch
  generalize Program.deliveries env h = ds
  induction ds generalizing start watch with
  | nil => rfl
  | cons d ds ih =>
      rw [List.foldl_cons, List.foldl_cons]
      have hfst : (Watch.follow name (start, watch) d).1 = start.interact name d := by
        unfold Watch.follow
        simp only
        split <;> rfl
      rw [← Prod.mk.eta (p := Watch.follow name (start, watch) d), hfst]
      apply ih

/-- An interaction adds observations after the response only. -/
theorem after_concat (h : List (cleanupSignature F).Interaction)
    (i : (cleanupSignature F).Interaction) :
  ∃ news, (collected name env start (h ++ [i])).after = (collected name env start h).after ++ news ∧
    ((collected name env start (h ++ [i])).response = none → news = [])
  := by
  rw [collected_concat]
  generalize collected name env start h = c
  obtain ⟨call, r⟩ := i
  cases call with
  | spinOnce t =>
      cases hresponse : c.response with
      | none =>
          refine ⟨[], ?_, fun _ => rfl⟩
          rw [List.append_nil]
          exact Collected.spin_before hresponse _
      | some response =>
          have hsome : c.response.isSome := by
            rw [hresponse]
            rfl
          obtain ⟨hkept, -, hafter⟩ := @Collected.spin_after _ name _ hsome
            (env h (.spinOnce t)).callbacks
          refine ⟨_, hafter, ?_⟩
          intro hnone
          have hcontra := hresponse.symm.trans (hkept.symm.trans hnone)
          cases hcontra
  | futureResult =>
      cases r with
      | ok x => exact ⟨[], (List.append_nil _).symm, fun _ => rfl⟩
      | error e => exact ⟨[], (List.append_nil _).symm, fun _ => rfl⟩
  | _ => exact ⟨[], (List.append_nil _).symm, fun _ => rfl⟩

/-- What a run observes after its first interactions. -/
def later (name : String) (env : (cleanupSignature F).Environment) (start : Collected)
    (v h : List (cleanupSignature F).Interaction) : List Observation :=
  (collected name env start h).after.drop (collected name env start v).after.length

/-- The watch takes what an interaction adds, after the response. -/
theorem watched_concat (h : List (cleanupSignature F).Interaction)
    (i : (cleanupSignature F).Interaction) :
  watched name env start (h ++ [i]) =
    match (collected name env start (h ++ [i])).response with
    | none => watched name env start h
    | some response => (watched name env start h).spin response.2 (collected name env start h).after
        (later name env start h (h ++ [i]))
  := by
  have hdeliveries : Program.deliveries env (h ++ [i]) =
      Program.deliveries env h ++ [((env h i.1).callbacks, i)] := by
    simp
  unfold watched later
  rw [hdeliveries, List.foldl_append, List.foldl_cons, List.foldl_nil, collected_concat,
    ← collected_follow h]
  generalize (Program.deliveries env h).foldl (Watch.follow name) (start, {}) = p
  unfold Watch.follow
  simp only
  split <;> rfl

theorem watched_idle (hi : i.1.isIdle = true) :
  watched name env start (h ++ [i]) = watched name env start h
  := by
  rw [watched_concat, later, collected_idle hi, List.drop_length]
  split
  · rfl
  · apply Watch.spin_nil

theorem after_append (v w : List (cleanupSignature F).Interaction) :
  (collected name env start (v ++ w)).after =
    (collected name env start v).after ++ later name env start v (v ++ w)
  := by
  suffices h : ∃ news, (collected name env start (v ++ w)).after =
      (collected name env start v).after ++ news by
    obtain ⟨news, hnews⟩ := h
    rw [later, hnews, List.drop_left]
  induction w using List.reverseRecOn with
  | nil =>
      rw [List.append_nil]
      exact ⟨[], (List.append_nil _).symm⟩
  | append_singleton w i ih =>
      obtain ⟨news, hnews⟩ := ih
      obtain ⟨added, hadded, -⟩ := @after_concat _ name env start (v ++ w) i
      rw [← List.append_assoc, hadded, hnews, List.append_assoc]
      exact ⟨_, rfl⟩

theorem later_concat (v w : List (cleanupSignature F).Interaction)
    (i : (cleanupSignature F).Interaction) :
  later name env start v (v ++ (w ++ [i])) =
    later name env start v (v ++ w) ++ later name env start (v ++ w) (v ++ w ++ [i])
  := by
  apply @List.append_cancel_left _ (collected name env start v).after
  rw [← after_append, ← List.append_assoc v, ← List.append_assoc, ← after_append v w,
    ← after_append]

/-- What is held after some interactions is held at the end, when no pose comes after them. -/
theorem anchor_append {v w : List (cleanupSignature F).Interaction}
    (hanchor : (watched name env start v).anchor = some q)
    (hposes : ∀ o ∈ later name env start v (v ++ w), o.origin ≠ .pose) :
  (watched name env start (v ++ w)).anchor = some q
  := by
  induction w using List.reverseRecOn with
  | nil =>
      rw [List.append_nil]
      exact hanchor
  | append_singleton w i ih =>
      rw [later_concat, List.forall_mem_append] at hposes
      have hheld := ih hposes.1
      rw [← List.append_assoc, watched_concat]
      split
      · exact hheld
      · rw [Watch.spin_of_anchor hheld hposes.2]
        exact hheld

/-- Nothing is held before the first observation. -/
theorem watched_of_after (hafter : (collected name env start h).after = []) :
  watched name env start h = {}
  := by
  induction h using List.reverseRecOn with
  | nil => rfl
  | append_singleton h i ih =>
      have hconcat := @after_append _ name env start h [i]
      rw [hafter] at hconcat
      obtain ⟨hnil, hnews⟩ := List.append_eq_nil_iff.mp hconcat.symm
      rw [watched_concat, hnews, ih hnil]
      split
      · rfl
      · apply Watch.spin_nil

/-- The deliveries are fair: when a heartbeat is held after an interaction, and no pose comes later,
the heartbeat is newer than every pose before the response, and no pose came behind the last
heartbeat of the interaction, unless a later heartbeat has the same stamp. -/
def FairDeliveries (name : String) (env : (cleanupSignature F).Environment) (start : Collected)
    (h : List (cleanupSignature F).Interaction) : Prop :=
  ∀ v i, v ++ [i] <+: h → (∀ o ∈ later name env start (v ++ [i]) h, o.origin ≠ .pose) →
    ∀ q, (watched name env start (v ++ [i])).anchor = some q →
      (∀ pose ∈ (collected name env start h).before, pose.origin = .pose → pose.stampNs < q) ∧
      ((∀ last ∈ (later name env start v (v ++ [i])).getLast?, last.origin = .heartbeat) ∨
        ∃ o ∈ later name env start (v ++ [i]) h, o.origin = .heartbeat ∧ o.stampNs = q)

/-- What is held at the end passed with the interaction, and no pose came since. -/
structure Passed (name : String) (env : (cleanupSignature F).Environment) (start : Collected)
    (h v : List (cleanupSignature F).Interaction) (i : (cleanupSignature F).Interaction) (q : Int) :
    Prop where
  split : v ++ [i] <+: h
  quiet : ∀ o ∈ later name env start (v ++ [i]) h, o.origin ≠ .pose
  anchor : (watched name env start (v ++ [i])).anchor = some q
  passes : ∃ floor, passing floor (collected name env start (v ++ [i])).after = some q
  heartbeat : ∃ o ∈ later name env start v (v ++ [i]), o.origin = .heartbeat

theorem Passed.concat {v : List (cleanupSignature F).Interaction}
    {j : (cleanupSignature F).Interaction} (hpassed : Passed name env start h v i q)
    (hnews : ∀ o ∈ later name env start h (h ++ [j]), o.origin ≠ .pose) :
  Passed name env start (h ++ [j]) v i q
  := by
  obtain ⟨w, rfl⟩ := hpassed.split
  refine { hpassed with split := ⟨w ++ [j], (List.append_assoc _ _ _).symm⟩, quiet := ?_ }
  rw [List.append_assoc _ w, later_concat, List.forall_mem_append]
  exact ⟨hpassed.quiet, hnews⟩

theorem exists_passed (hanchor : (watched name env start h).anchor = some q) :
  ∃ v i, Passed name env start h v i q
  := by
  induction h using List.reverseRecOn with
  | nil => cases hanchor
  | append_singleton h i ih =>
      have hconcat := hanchor
      have hnone : ∀ o ∈ later name env start (h ++ [i]) (h ++ [i]), o.origin ≠ .pose := by
        rw [later, List.drop_length]
        intro o ho
        cases ho
      rw [watched_concat] at hconcat
      split at hconcat
      · -- Nothing is observed before the response.
        rename_i hresponse
        obtain ⟨news, hafter, hnil⟩ := @after_concat _ name env start h i
        obtain ⟨v, j, hpassed⟩ := ih hconcat
        refine ⟨v, j, hpassed.concat ?_⟩
        rw [later, hafter, List.drop_left, hnil hresponse]
        intro o ho
        cases ho
      · rcases Watch.anchor_spin hconcat with ⟨hheld, hnews⟩ | ⟨hheartbeat, floor, hpassing⟩
        · obtain ⟨v, j, hpassed⟩ := ih hheld
          exact ⟨v, j, hpassed.concat hnews⟩
        · rw [← after_append] at hpassing
          exact ⟨h, i, List.prefix_rfl, hnone, hanchor, ⟨floor, hpassing⟩, hheartbeat⟩

/-- What is held at the end of a fair run is an anchor, and it is newer than the poses before the
response. -/
theorem FairDeliveries.anchored (hfair : FairDeliveries name env start h)
    (hanchor : (watched name env start h).anchor = some q) :
  Anchored q (collected name env start h).after ∧
    ∀ pose ∈ (collected name env start h).before, pose.origin = .pose → pose.stampNs < q
  := by
  obtain ⟨v, i, hpassed⟩ := exists_passed hanchor
  obtain ⟨hbefore, hlast⟩ := hfair v i hpassed.split hpassed.quiet q hpassed.anchor
  obtain ⟨floor, hpassing⟩ := hpassed.passes
  obtain ⟨w, rfl⟩ := hpassed.split
  refine ⟨?_, hbefore⟩
  rw [after_append (v ++ [i]) w]
  rcases hlast with hlast | hlater
  · obtain ⟨o, ho, -⟩ := hpassed.heartbeat
    have hne := List.ne_nil_of_mem ho
    have hgetLast := List.getLast?_eq_some_getLast hne
    apply Anchored.append _ hpassed.quiet
    apply Anchored.of_passing hpassing
    rw [after_append, List.getLast?_append_of_ne_nil _ hne, hgetLast]
    exact ⟨_, rfl, hlast _ hgetLast⟩
  · exact Anchored.of_later hpassing hpassed.quiet hlater

/-- A run that holds an anchor at its end is fair. -/
theorem Anchored.fairDeliveries (hanchored : Anchored q (collected name env start h).after)
    (hbefore : ∀ pose ∈ (collected name env start h).before, pose.origin = .pose →
      pose.stampNs < q)
    (hanchor : (watched name env start h).anchor = some q) :
  FairDeliveries name env start h
  := by
  rintro v i ⟨w, rfl⟩ hquiet q' hheld
  obtain rfl := Option.some.inj ((anchor_append hheld hquiet).symm.trans hanchor)
  refine ⟨hbefore, ?_⟩
  by_cases hlast : ∀ last ∈ (later name env start v (v ++ [i])).getLast?, last.origin = .heartbeat
  · exact Or.inl hlast
  · right
    push Not at hlast
    obtain ⟨last, hlast, horigin⟩ := hlast
    have hne := List.ne_nil_of_mem (List.mem_of_getLast? hlast)
    rw [after_append (v ++ [i]) w] at hanchored
    apply hanchored.exists_later _ (Origin.eq_pose horigin)
    rw [after_append, List.getLast?_append_of_ne_nil _ hne]
    exact hlast

end Watched

end Scenarios

end RobotestLab
