import RobotestLab.Metrics.Plans

/-!
# Legs of the plans

The legs of a mission as a function of time: at an instant, the leg is the waypoint of the last
feedback that is not later. The legs that the analysis cuts from the feedback are the segments of
this function (`legIndexOf_eq`).
-/

namespace RobotestLab

namespace Metrics

/-! ### Instants -/

def sequenceOf (items : Evidence) : Int :=
    (PyValue.item "collector_sequence" items).asInteger.getD 0

def waypointOf (items : Evidence) : Int := (PyValue.item "current_waypoint" items).asInteger.getD 0

/-- The instant of a sample. -/
def orderOf (items : Evidence) : Int ×ₗ Int := toLex (stampOf items, sequenceOf items)

/-- The stamp and the collector sequence are integers. -/
structure HasOrder (items : Evidence) : Prop where
  stamp : ∃ n, stampItem items = .int n
  sequence : ∃ n, PyValue.item "collector_sequence" items = .int n

theorem requireInt_getD {value : PyValue} {name : String} {n : Int}
    (h : requireInt value name = .ok n) :
  value.asInteger.getD 0 = n
  := by
  rw [requireInt_eq_ok_iff.mp h]
  rfl

theorem eventOrder_eq_ok_iff {name : String} {index : Nat} {sample : Evidence}
    {order : Int ×ₗ Int} :
  eventOrder name index sample = .ok order ↔ HasOrder sample ∧ order = orderOf sample
  := by
  unfold eventOrder collectorOrder
  constructor
  · intro h
    obtain ⟨pair, hpair, h⟩ := Except.bind_eq_ok_iff.mp h
    obtain rfl := Except.ok.inj h
    obtain ⟨stamp, hstamp, hpair⟩ := Except.bind_eq_ok_iff.mp hpair
    obtain ⟨sequence, hsequence, hpair⟩ := Except.bind_eq_ok_iff.mp hpair
    obtain rfl := Except.ok.inj hpair
    refine ⟨⟨⟨stamp, requireInt_eq_ok_iff.mp hstamp⟩, sequence, requireInt_eq_ok_iff.mp hsequence⟩,
      ?_⟩
    unfold orderOf stampOf sequenceOf
    rw [requireInt_getD hstamp, requireInt_getD hsequence]
  · rintro ⟨⟨⟨stamp, hstamp⟩, sequence, hsequence⟩, rfl⟩
    unfold orderOf stampOf sequenceOf
    rw [hstamp, hsequence]
    rfl

/-- An instant between the bounds of the action lies between the ends of the legs. -/
theorem bounds_of_stamp {start stop : Int} {sample : Evidence} (hstart : start ≤ stampOf sample)
    (hstop : stampOf sample ≤ stop) (hlow : 0 ≤ sequenceOf sample)
    (hhigh : sequenceOf sample < TERMINAL_SEQUENCE) :
  toLex (start, -1) ≤ orderOf sample ∧ orderOf sample < toLex (stop, TERMINAL_SEQUENCE)
  := by
  unfold orderOf
  rw [Prod.Lex.toLex_le_toLex, Prod.Lex.toLex_lt_toLex]
  dsimp only
  omega

/-- The converse. -/
theorem stamp_of_bounds {start stop : Int} {sample : Evidence}
    (hstart : ¬ orderOf sample < toLex (start, -1))
    (hstop : ¬ toLex (stop, TERMINAL_SEQUENCE) < orderOf sample) :
  start ≤ stampOf sample ∧ stampOf sample ≤ stop
  := by
  unfold orderOf at hstart hstop
  rw [Prod.Lex.toLex_lt_toLex] at hstart hstop
  dsimp only at hstart hstop
  omega

/-! ### The leg at an instant -/

/-- The sample is stamped in the interval of the action. -/
def inInterval (start stop : Int) (sample : Evidence) : Bool :=
  start ≤ stampOf sample && stampOf sample ≤ stop

/-- The waypoint of the last feedback in the interval that is not after the instant, or the first
waypoint. -/
def feedbackLeg (feedback : List Evidence) (start stop : Int) (order : Int ×ₗ Int) : Int :=
  ((held orderOf (feedback.filter (inInterval start stop)) order).map waypointOf).getD 0

/-- The instants of the transitions that begin a new leg. -/
def cutsOf (transitions : List Transition) : List (Int ×ₗ Int) :=
  (transitions.filter fun transition => 0 < transition.currentWaypoint).map Transition.order

theorem cutsOf_cons_of_pos {transition : Transition} {transitions : List Transition}
    (h : 0 < transition.currentWaypoint) :
  cutsOf (transition :: transitions) = transition.order :: cutsOf transitions
  := by
  unfold cutsOf
  rw [List.filter_cons_of_pos (by simpa using h), List.map_cons]

theorem cutsOf_cons_of_zero {transition : Transition} {transitions : List Transition}
    (h : transition.currentWaypoint = 0) :
  cutsOf (transition :: transitions) = cutsOf transitions
  := by
  unfold cutsOf
  rw [List.filter_cons_of_neg (by simp [h])]

/-- What is read of the entry that is held, when an entry is put in front. -/
theorem held_cons_getD {entries : List Evidence} {sample : Evidence} {t : Int ×ₗ Int} {k : Int}
    (h : InStampOrder orderOf (sample :: entries)) :
  ((held orderOf (sample :: entries) t).map waypointOf).getD k =
    if orderOf sample ≤ t then ((held orderOf entries t).map waypointOf).getD (waypointOf sample)
      else k
  := by
  split
  · rename_i hle
    rw [Held.held_cons_of_le hle]
    cases held orderOf entries t with
    | none => rfl
    | some e => rfl
  · rename_i hle
    rw [Held.held_cons_of_lt h (not_le.mp hle)]
    rfl

/-- The feedback follows the last waypoint: its samples are ordered, and at every instant the
waypoint is the last one advanced by the cuts so far, up to the final waypoint. -/
structure FollowsFrom (waypointCount : Nat) (start stop : Int) (k : Int) (feedback : List Evidence)
    (transitions : List Transition) : Prop where
  ordered : feedback.Pairwise fun sample sample' => orderOf sample < orderOf sample'
  cuts : (cutsOf transitions).Sublist (feedback.map orderOf)
  leg : ∀ t, ((held orderOf (feedback.filter (inInterval start stop)) t).map waypointOf).getD k =
    k + (cutsOf transitions).countP (· ≤ t)
  final : k + (cutsOf transitions).length = waypointCount - 1

namespace FollowsFrom

variable {waypointCount : Nat} {start stop k : Int} {feedback : List Evidence}
  {transitions : List Transition} {sample : Evidence}

theorem nil (hk : k = waypointCount - 1) : FollowsFrom waypointCount start stop k [] []
  := by
  constructor
  · apply List.Pairwise.nil
  · apply List.Sublist.slnil
  · intro t
    simp [cutsOf]
  · simp [cutsOf, hk]

/-- Feedback outside the interval changes nothing. -/
theorem skip (h : FollowsFrom waypointCount start stop k feedback transitions)
    (hafter : ∀ sample' ∈ feedback, orderOf sample < orderOf sample')
    (hout : inInterval start stop sample = false) :
  FollowsFrom waypointCount start stop k (sample :: feedback) transitions
  := by
  constructor
  · apply List.pairwise_cons.mpr ⟨hafter, h.ordered⟩
  · apply List.Sublist.cons _ h.cuts
  · intro t
    rw [List.filter_cons_of_neg (by simp [hout])]
    apply h.leg
  · apply h.final

/-- At an instant before all the feedback there is no cut. -/
theorem countP_eq_zero (h : FollowsFrom waypointCount start stop k feedback transitions)
    {t : Int ×ₗ Int} (ht : ∀ sample ∈ feedback, t < orderOf sample) :
  (cutsOf transitions).countP (· ≤ t) = 0
  := by
  rw [List.countP_eq_zero]
  intro cut hcut
  obtain ⟨sample, hsample, rfl⟩ := List.mem_map.mp (h.cuts.subset hcut)
  simpa using ht sample hsample

theorem inStampOrder (h : FollowsFrom waypointCount start stop k feedback transitions)
    (hafter : ∀ sample' ∈ feedback, orderOf sample < orderOf sample') :
  InStampOrder orderOf (sample :: feedback.filter (inInterval start stop))
  := by
  apply List.pairwise_cons.mpr
  constructor
  · intro sample' hsample'
    apply le_of_lt (hafter sample' (List.mem_filter.mp hsample').1)
  · apply (h.ordered.filter _).imp
    intro a b hab
    apply le_of_lt hab

/-- Feedback in the interval with the last waypoint changes nothing. -/
theorem repeated (h : FollowsFrom waypointCount start stop k feedback transitions)
    (hafter : ∀ sample' ∈ feedback, orderOf sample < orderOf sample')
    (hin : inInterval start stop sample = true) (hk : waypointOf sample = k) :
  FollowsFrom waypointCount start stop k (sample :: feedback) transitions
  := by
  constructor
  · apply List.pairwise_cons.mpr ⟨hafter, h.ordered⟩
  · apply List.Sublist.cons _ h.cuts
  · intro t
    rw [List.filter_cons_of_pos hin, held_cons_getD (h.inStampOrder hafter)]
    split
    · rw [hk]
      apply h.leg
    · rename_i hle
      rw [h.countP_eq_zero fun sample' hsample' =>
        lt_trans (not_le.mp hle) (hafter sample' hsample')]
      simp
  · apply h.final

/-- Feedback in the interval with the next waypoint cuts a leg. -/
theorem advance (h : FollowsFrom waypointCount start stop (k + 1) feedback transitions)
    (hafter : ∀ sample' ∈ feedback, orderOf sample < orderOf sample')
    (hin : inInterval start stop sample = true) (hk : waypointOf sample = k + 1) (hpos : 0 ≤ k)
    {transition : Transition} (horder : transition.order = orderOf sample)
    (hcurrent : transition.currentWaypoint = k + 1) :
  FollowsFrom waypointCount start stop k (sample :: feedback) (transition :: transitions)
  := by
  have hcuts : cutsOf (transition :: transitions) = orderOf sample :: cutsOf transitions := by
    rw [cutsOf_cons_of_pos (by omega), horder]
  constructor
  · apply List.pairwise_cons.mpr ⟨hafter, h.ordered⟩
  · rw [hcuts, List.map_cons]
    apply List.Sublist.cons_cons _ h.cuts
  · intro t
    rw [List.filter_cons_of_pos hin, held_cons_getD (h.inStampOrder hafter), hcuts]
    split
    · rename_i hle
      rw [hk, h.leg, Segments.countP_cons_of_le hle]
      omega
    · rename_i hle
      rw [List.countP_cons_of_neg (by simpa using hle), h.countP_eq_zero fun sample' hsample' =>
        lt_trans (not_le.mp hle) (hafter sample' hsample')]
      simp
  · rw [hcuts, List.length_cons, ← h.final]
    omega

/-- The first feedback in the interval, with the first waypoint, begins the first leg. -/
theorem begins (h : FollowsFrom waypointCount start stop 0 feedback transitions)
    (hafter : ∀ sample' ∈ feedback, orderOf sample < orderOf sample')
    (hin : inInterval start stop sample = true) (hk : waypointOf sample = 0)
    {transition : Transition}
    (hcurrent : transition.currentWaypoint = 0) :
  FollowsFrom waypointCount start stop 0 (sample :: feedback) (transition :: transitions)
  := by
  have hrepeated := h.repeated hafter hin hk
  constructor
  · apply hrepeated.ordered
  · rw [cutsOf_cons_of_zero hcurrent]
    apply hrepeated.cuts
  · rw [cutsOf_cons_of_zero hcurrent]
    apply hrepeated.leg
  · rw [cutsOf_cons_of_zero hcurrent]
    apply hrepeated.final

/-- The cuts are in order. -/
theorem sorted (h : FollowsFrom waypointCount start stop k feedback transitions) :
  (cutsOf transitions).Pairwise (· < ·)
  := (List.pairwise_map.mpr h.ordered).sublist h.cuts

end FollowsFrom

/-- Feedback that is accepted follows the last waypoint. -/
theorem transitionsFrom_eq_ok {waypointCount : Nat} {start stop : Int}
    {previous : Option (Int ×ₗ Int)}
    {lastIndex : Option Int} {position : Nat} {feedback : List Evidence}
    {transitions : List Transition}
    (hlast : 0 ≤ lastIndex.getD 0)
    (h : transitionsFrom waypointCount start stop previous lastIndex position feedback =
      .ok transitions) :
  FollowsFrom waypointCount start stop (lastIndex.getD 0) feedback transitions ∧
    ∀ order ∈ previous, ∀ sample ∈ feedback, order < orderOf sample
  := by
  induction feedback generalizing previous lastIndex position transitions with
  | nil =>
      unfold transitionsFrom at h
      split at h
      · cases h
      · rename_i hindex
        obtain rfl := Except.ok.inj h
        obtain rfl := not_not.mp hindex
        exact ⟨FollowsFrom.nil rfl, nofun⟩
  | cons sample feedback ih =>
      unfold transitionsFrom at h
      obtain ⟨order, horder, h⟩ := Except.bind_eq_ok_iff.mp h
      obtain ⟨-, rfl⟩ := eventOrder_eq_ok_iff.mp horder
      split at h
      · cases h
      · rename_i hprevious
        have hbefore : ∀ order ∈ previous, order < orderOf sample := by
          intro order horder
          rw [Option.mem_def] at horder
          subst horder
          simpa using hprevious
        have hconclude (hafter : ∀ sample' ∈ feedback, orderOf sample < orderOf sample') :
            ∀ order ∈ previous, ∀ sample' ∈ sample :: feedback, order < orderOf sample' := by
          intro order hmem sample' hsample'
          rcases List.mem_cons.mp hsample' with rfl | hsample'
          · apply hbefore order hmem
          · apply lt_trans (hbefore order hmem) (hafter sample' hsample')
        split at h
        · rename_i hout
          obtain ⟨hfollows, hafter⟩ := ih hlast h
          have hafter := hafter (orderOf sample) rfl
          refine ⟨hfollows.skip hafter ?_, hconclude hafter⟩
          change stampOf sample < start ∨ stop < stampOf sample at hout
          unfold inInterval
          rcases hout with hout | hout
          · simp [not_le.mpr hout]
          · simp [not_le.mpr hout]
        · rename_i hin
          have hin : inInterval start stop sample = true := by
            change ¬ (stampOf sample < start ∨ stop < stampOf sample) at hin
            unfold inInterval
            simpa [not_or] using hin
          obtain ⟨waypoint, hwaypoint, h⟩ := Except.bind_eq_ok_iff.mp h
          have hof : waypointOf sample = waypoint := requireInt_getD hwaypoint
          split at h
          · cases h
          · cases lastIndex with
            | none =>
                dsimp only at h
                split at h
                · cases h
                · rename_i hzero
                  obtain rfl := not_not.mp hzero
                  obtain ⟨rest, hrest, h⟩ := Except.bind_eq_ok_iff.mp h
                  obtain rfl := Except.ok.inj h
                  obtain ⟨hfollows, hafter⟩ := ih (le_refl 0) hrest
                  have hafter := hafter (orderOf sample) rfl
                  exact ⟨hfollows.begins hafter hin hof rfl, hconclude hafter⟩
            | some last =>
                dsimp only at h
                split at h
                · rename_i hsame
                  obtain ⟨hfollows, hafter⟩ := ih hlast h
                  have hafter := hafter (orderOf sample) rfl
                  exact ⟨hfollows.repeated hafter hin (hof.trans hsame), hconclude hafter⟩
                · split at h
                  · cases h
                  · rename_i hnext
                    obtain rfl := not_not.mp hnext
                    obtain ⟨rest, hrest, h⟩ := Except.bind_eq_ok_iff.mp h
                    obtain rfl := Except.ok.inj h
                    have hlast : 0 ≤ last := hlast
                    have hpos : 0 ≤ (some (last + 1)).getD 0 := by
                      rw [Option.getD_some]
                      omega
                    obtain ⟨hfollows, hafter⟩ := ih hpos hrest
                    have hafter := hafter (orderOf sample) rfl
                    exact ⟨hfollows.advance hafter hin hof hlast rfl rfl, hconclude hafter⟩

theorem feedbackTransitions_eq_ok {feedback : List Evidence} {waypointCount : Nat}
    {start stop : Int} {transitions : List Transition}
    (h : feedbackTransitions feedback waypointCount start stop = .ok transitions) :
  0 < waypointCount ∧ FollowsFrom waypointCount start stop 0 feedback transitions
  := by
  unfold feedbackTransitions at h
  split at h
  · cases h
  · rename_i hcount
    exact ⟨Nat.pos_of_ne_zero hcount, (transitionsFrom_eq_ok (le_refl 0) h).1⟩

/-! ### The legs -/

/-- In accepted feedback, an instant of the action lies in exactly one leg, the one of the waypoint
at the instant. -/
theorem legIndexOf_eq {feedback : List Evidence} {waypointCount : Nat} {start stop : Int}
    {transitions : List Transition} {order : Int ×ₗ Int}
    (h : feedbackTransitions feedback waypointCount start stop = .ok transitions)
    (hstart : toLex (start, -1) ≤ order) (hstop : order < toLex (stop, TERMINAL_SEQUENCE)) :
  ∃ leg : Nat, (leg : Int) = feedbackLeg feedback start stop order ∧ leg < waypointCount ∧
    legIndexOf (legsOf transitions start stop) order = some leg ∧
    ∀ i bounds, (legsOf transitions start stop)[i]? = some bounds → bounds.1 ≤ order →
      order < bounds.2 → i = leg
  := by
  obtain ⟨hcount, hfollows⟩ := feedbackTransitions_eq_ok h
  refine ⟨(cutsOf transitions).countP (· ≤ order), ?_, ?_, ?_, ?_⟩
  · have hleg := hfollows.leg order
    rw [zero_add] at hleg
    exact hleg.symm
  · have hlength := List.countP_le_length (p := (· ≤ order)) (l := cutsOf transitions)
    have hfinal := hfollows.final
    omega
  · apply Segments.findIdx?_eq hfollows.sorted hstart hstop
  · intro i bounds hi hfrom hto
    apply Segments.eq_countP hfollows.sorted hi hfrom hto

/-- Without feedback in between, the leg stays. -/
theorem feedbackLeg_eq {feedback : List Evidence} {start stop : Int}
    {s t : Int ×ₗ Int} (hst : s ≤ t)
    (h : ∀ sample ∈ feedback, inInterval start stop sample = true →
      orderOf sample ≤ s ∨ t < orderOf sample) :
  feedbackLeg feedback start stop t = feedbackLeg feedback start stop s
  := by
  unfold feedbackLeg
  rcases @Held.held_eq_or _ _ _ orderOf (feedback.filter (inInterval start stop)) _ _ hst with
    heq | ⟨e, he, -, hse, het⟩
  · rw [heq]
  · obtain ⟨he, hin⟩ := List.mem_filter.mp he
    rcases h e he hin with hle | hlt
    · exact absurd hle (not_le.mpr hse)
    · exact absurd het (not_le.mpr hlt)

end Metrics

end RobotestLab
