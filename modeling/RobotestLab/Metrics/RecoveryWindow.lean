import RobotestLab.Library.Related
import RobotestLab.Metrics.SensorRecovery

/-!
# What a recovery window shows

The rules that the metrics contract has for a recovery window, over the samples themselves, and how
far the windows that are accepted follow them. Two of the conditions are weaker in the code: it does
not look at the scan after the window, and it takes a success of the mission before the window for
progress in it.
-/

namespace RobotestLab

namespace Metrics

open PyFloat PyArithmetic

/-! ### Scans -/

section Scans

variable {stamps : List Int} {start stop gap : Int}

/-- A scan at the start or before it, a recent scan at the end, and no long gap before a scan of the
window. -/
structure ScansWithin (stamps : List Int) (start stop gap : Int) : Prop where
  anchored : ∃ s ∈ stamps, s ≤ start
  recent : ∃ s ∈ stamps, s ≤ stop ∧ stop - s ≤ gap
  gaps : ∀ l a b l', stamps = l ++ a :: b :: l' → start < b → b ≤ stop → b - a ≤ gap

/-- Sorted stamps split at an instant. -/
theorem eq_append_filter (h : stamps.Pairwise (· < ·)) (x : Int) :
  stamps = stamps.filter (· ≤ x) ++ stamps.filter (x < ·)
  := by
  induction stamps with
  | nil => rfl
  | cons s stamps ih =>
      obtain ⟨hs, hstamps⟩ := List.pairwise_cons.mp h
      rcases le_or_gt s x with hle | hgt
      · rw [List.filter_cons_of_pos (by simpa using hle),
          List.filter_cons_of_neg (by simpa using hle), List.cons_append, ← ih hstamps]
      · have hnil : stamps.filter (· ≤ x) = [] := by
          rw [List.filter_eq_nil_iff]
          intro t ht
          have := hs t ht
          simp only [decide_eq_true_eq]
          omega
        have hall : stamps.filter (x < ·) = stamps := by
          rw [List.filter_eq_self]
          intro t ht
          have := hs t ht
          simp only [decide_eq_true_eq]
          omega
        rw [List.filter_cons_of_neg (by simpa using hgt),
          List.filter_cons_of_pos (by simpa using hgt), hnil, hall, List.nil_append]

theorem take_bisectRight (h : stamps.Pairwise (· < ·)) (x : Int) :
  stamps.take (bisectRight stamps x) = stamps.filter (· ≤ x)
  := by
  have hlength : bisectRight stamps x = (stamps.filter (· ≤ x)).length :=
    List.countP_eq_length_filter
  rw [hlength]
  conv_lhs =>
    rw [eq_append_filter h x]
  rw [List.take_left']
  rw [← eq_append_filter h x]

/-- The last scan up to the start of a window, and the ones in the window. -/
structure Around (stamps : List Int) (start stop : Int) (u : List Int) (a : Int) (m v : List Int) :
    Prop where
  split : stamps = u ++ a :: (m ++ v)
  start_le : a ≤ start
  within : ∀ s ∈ m, start < s ∧ s ≤ stop
  after : ∀ s ∈ v, stop < s

/-- The scans that are relevant for a window, among all of them. -/
theorem exists_relevant (h : stamps.Pairwise (· < ·)) (hle : start ≤ stop)
    (hbefore : bisectRight stamps start ≠ 0) :
  ∃ u a m v, Around stamps start stop u a m v ∧
    (stamps.take (bisectRight stamps stop)).drop (bisectRight stamps start - 1) = a :: m
  := by
  have hne : stamps.filter (· ≤ start) ≠ [] := by
    intro hnil
    apply hbefore
    unfold bisectRight
    rw [List.countP_eq_length_filter, hnil, List.length_nil]
  obtain ⟨u, a, hua⟩ := List.eq_nil_or_concat (stamps.filter (· ≤ start)) |>.resolve_left hne
  have ha : a ∈ stamps.filter (· ≤ start) := by simp [hua]
  have htake : stamps.filter (· ≤ stop) =
      stamps.filter (· ≤ start) ++ (stamps.filter (· ≤ stop)).filter (start < ·) := by
    conv_lhs =>
      rw [eq_append_filter (h.filter _) start]
    congr 1
    rw [List.filter_filter]
    apply List.filter_congr
    intro s _
    rw [Bool.and_eq_left_iff_imp]
    simp only [decide_eq_true_eq]
    exact fun hs => le_trans hs hle
  have hm : ∀ s ∈ (stamps.filter (· ≤ stop)).filter (start < ·), start < s ∧ s ≤ stop := by
    intro s hs
    simp only [List.mem_filter, decide_eq_true_eq] at hs
    exact ⟨hs.2, hs.1.2⟩
  generalize (stamps.filter (· ≤ stop)).filter (start < ·) = m at htake hm
  rw [hua, List.concat_eq_append] at htake
  refine ⟨u, a, m, stamps.filter (stop < ·), ⟨?_, ?_, hm, ?_⟩, ?_⟩
  · conv_lhs =>
      rw [eq_append_filter h stop, htake]
    simp
  · simpa using (List.mem_filter.mp ha).2
  · intro s hs
    simpa using (List.mem_filter.mp hs).2
  · have hcount : bisectRight stamps start - 1 = u.length := by
      unfold bisectRight
      rw [List.countP_eq_length_filter, hua]
      simp
    rw [take_bisectRight h stop, htake, hcount]
    simp

/-- The differences of neighbours, as pairs of neighbours. -/
theorem any_gapsOf {p : Int → Bool} :
  (gapsOf stamps).any p = false ↔
    ∀ l a b l', stamps = l ++ a :: b :: l' → p (b - a) = false
  := by
  induction stamps with
  | nil => simp [gapsOf]
  | cons s stamps ih =>
      cases stamps with
      | nil =>
          simp only [gapsOf, List.tail_cons, List.zipWith_nil_right, List.any_nil, true_iff]
          intro l a b l' hsplit
          have := congrArg List.length hsplit
          simp at this
          omega
      | cons t stamps =>
          rw [show gapsOf (s :: t :: stamps) = (t - s) :: gapsOf (t :: stamps) from rfl,
            List.any_cons, Bool.or_eq_false_iff, ih]
          constructor
          · rintro ⟨hfirst, hrest⟩ l a b l' hsplit
            cases l with
            | nil =>
                obtain ⟨rfl, htail⟩ := List.cons.inj hsplit
                obtain ⟨rfl, -⟩ := List.cons.inj htail
                apply hfirst
            | cons _ l =>
                obtain ⟨-, htail⟩ := List.cons.inj hsplit
                apply hrest l a b l' htail
          · intro hall
            constructor
            · apply hall [] s t stamps rfl
            · intro l a b l' hsplit
              apply hall (s :: l) a b l'
              rw [hsplit, List.cons_append]

section Around

variable {u m v : List Int} {a : Int}

theorem Around.pairwise (hw : Around stamps start stop u a m v) (h : stamps.Pairwise (· < ·)) :
  (a :: m).Pairwise (· < ·)
  := by
  rw [hw.split, List.pairwise_append, ← List.cons_append] at h
  exact (List.pairwise_append.mp h.2.1).1

/-- The scans after the start and up to the end are the ones in the window. -/
theorem Around.mem_within (hw : Around stamps start stop u a m v) (h : stamps.Pairwise (· < ·))
    {s : Int} (hs : s ∈ stamps) (hstart : start < s) (hstop : s ≤ stop) :
  s ∈ m
  := by
  have ha := hw.start_le
  rw [hw.split] at hs h
  simp only [List.mem_append, List.mem_cons] at hs
  rcases hs with hs | rfl | hs | hs
  · have hlt := (List.pairwise_append.mp h).2.2 s hs a List.mem_cons_self
    omega
  · omega
  · exact hs
  · have hlt := hw.after s hs
    omega

/-- The last relevant scan is the last one up to the end. -/
theorem Around.recent_iff (hw : Around stamps start stop u a m v) (h : stamps.Pairwise (· < ·))
    (hle : start ≤ stop) {last : Int} (hlast : (a :: m).getLast? = some last) :
  (∃ s ∈ stamps, s ≤ stop ∧ stop - s ≤ gap) ↔ stop - last ≤ gap
  := by
  have hmem : last ∈ a :: m := List.mem_of_getLast? hlast
  constructor
  · rintro ⟨s, hs, hstop, hgap⟩
    have hs' : s ≤ last := by
      obtain ⟨init, hinit⟩ := List.getLast?_eq_some_iff.mp hlast
      rw [hw.split, ← List.cons_append, hinit] at hs h
      simp only [List.mem_append, List.mem_singleton] at hs
      rw [List.pairwise_append, List.pairwise_append, List.pairwise_append] at h
      rcases hs with hs | (hs | rfl) | hs
      · exact le_of_lt (h.2.2 s hs last (by simp))
      · exact le_of_lt (h.2.1.1.2.2 s hs last List.mem_cons_self)
      · apply le_refl
      · have hlt := hw.after s hs
        omega
    omega
  · intro hgap
    rcases List.mem_cons.mp hmem with rfl | hmem
    · exact ⟨last, by simp [hw.split], le_trans hw.start_le hle, hgap⟩
    · exact ⟨last, by simp [hw.split, hmem], (hw.within last hmem).2, hgap⟩

/-- Two neighbours, the later one of which is in the window, are relevant. -/
theorem Around.neighbours (hw : Around stamps start stop u a m v) (h : stamps.Pairwise (· < ·))
    {l l' : List Int} {x y : Int} (hpair : stamps = l ++ x :: y :: l') (hy : y ∈ m) :
  ∃ q q', a :: m = q ++ x :: y :: q'
  := by
  obtain ⟨m₁, m₂, hm⟩ := List.append_of_mem hy
  have hsorted := h
  rw [hpair, List.pairwise_append, List.pairwise_cons, List.pairwise_cons] at hsorted
  have hxy : x < y := hsorted.2.1.1 y List.mem_cons_self
  have hbefore : y ∉ l ++ [x] := by
    intro hmem
    rcases List.mem_append.mp hmem with hmem | hmem
    · have hlt := hsorted.2.2 y hmem y (by simp)
      omega
    · rw [List.mem_singleton.mp hmem] at hxy
      exact absurd hxy (lt_irrefl x)
  have hafter : y ∉ l' := fun hmem => absurd (hsorted.2.1.2.1 y hmem) (lt_irrefl y)
  have heq : (l ++ [x]) ++ y :: l' = (u ++ a :: m₁) ++ y :: (m₂ ++ v) := by
    rw [List.append_assoc, List.singleton_append, ← hpair, hw.split, hm]
    simp
  obtain ⟨hinit, -, -⟩ := (List.append_cons_inj_of_notMem hbefore hafter).mp heq
  obtain ⟨q, z, hq⟩ := List.eq_nil_or_concat (a :: m₁) |>.resolve_left (List.cons_ne_nil a m₁)
  rw [hq, List.concat_eq_append, ← List.append_assoc] at hinit
  obtain ⟨-, hz⟩ := List.append_inj' hinit rfl
  obtain rfl := List.cons.inj hz |>.1
  refine ⟨q, m₂, ?_⟩
  rw [hm, ← List.cons_append, hq]
  simp

/-- The gaps of the relevant scans are the gaps before the scans of the window. -/
theorem Around.gaps_iff (hw : Around stamps start stop u a m v) (h : stamps.Pairwise (· < ·)) :
  ((gapsOf (a :: m)).any fun g => g ≤ 0 || gap < g) = false ↔
    ∀ l x y l', stamps = l ++ x :: y :: l' → start < y → y ≤ stop → y - x ≤ gap
  := by
  rw [any_gapsOf]
  constructor
  · intro hall l x y l' hpair hstart hstop
    have hy := hw.mem_within h (by simp [hpair]) hstart hstop
    obtain ⟨q, q', hq⟩ := hw.neighbours h hpair hy
    have hgap := hall q x y q' hq
    simp only [Bool.or_eq_false_iff, decide_eq_false_iff_not, not_lt] at hgap
    exact hgap.2
  · intro hall l x y l' hpair
    have hx : x < y := by
      have hincreasing := hw.pairwise h
      rw [hpair, List.pairwise_append, List.pairwise_cons] at hincreasing
      apply hincreasing.2.1.1 y List.mem_cons_self
    have hy : y ∈ m := by
      cases l with
      | nil =>
          obtain ⟨rfl, rfl⟩ := List.cons.inj hpair
          exact List.mem_cons_self
      | cons _ l =>
          obtain ⟨rfl, rfl⟩ := List.cons.inj hpair
          simp
    have hgap := hall (u ++ l) x y (l' ++ v) (by
      rw [hw.split, ← List.cons_append, hpair]
      simp) (hw.within y hy).1 (hw.within y hy).2
    simp only [Bool.or_eq_false_iff, decide_eq_false_iff_not, not_le, not_lt]
    omega

end Around

/-- The window is accepted for its scans exactly when they satisfy the conditions. -/
theorem scanWindow_ok_iff (h : stamps.Pairwise (· < ·)) (hle : start ≤ stop) :
  (∃ evidence, scanWindow stamps start stop gap = .ok evidence) ↔ ScansWithin stamps start stop gap
  := by
  unfold scanWindow
  by_cases hbefore : bisectRight stamps start = 0
  · simp only [hbefore, if_true]
    constructor
    · rintro ⟨evidence, hevidence⟩
      cases hevidence
    · rintro ⟨⟨s, hs, hstart⟩, -, -⟩
      have hnone := List.countP_eq_zero.mp hbefore s hs
      simp only [decide_eq_true_eq] at hnone
      exact absurd hstart hnone
  · obtain ⟨u, a, m, v, hw, hrelevant⟩ := exists_relevant h hle hbefore
    obtain ⟨last, hlast⟩ : ∃ last, (a :: m).getLast? = some last := ⟨_, List.getLast?_cons⟩
    have hrecent := @Around.recent_iff _ _ _ gap _ _ _ _ hw h hle _ hlast
    have hgaps := @Around.gaps_iff _ _ _ gap _ _ _ _ hw h
    simp only [hbefore, if_false, hrelevant, hlast, Option.all_some]
    constructor
    · rintro ⟨evidence, hevidence⟩
      split at hevidence
      · cases hevidence
      rename_i hstale
      split at hevidence
      · cases hevidence
      rename_i hgap
      refine ⟨⟨a, by simp [hw.split], hw.start_le⟩, hrecent.mpr (by simpa using hstale), ?_⟩
      apply hgaps.mp (by simpa using hgap)
    · rintro ⟨-, hr, hg⟩
      rw [hrecent] at hr
      have hg := hgaps.mpr hg
      rw [if_neg (by simpa using hr),
        if_neg (by simp only [hg, Bool.false_eq_true, not_false_eq_true])]
      exact ⟨_, rfl⟩

end Scans

/-! ### Lifecycle -/

section Lifecycle

variable {samples : List Evidence} {node : String} {start stop margin : Int}

def samplesOf (samples : List Evidence) (node : String) : List Evidence :=
  samples.filter fun sample => (PyValue.item "node" sample).equalsText node

/-- An active snapshot shortly before the window, one shortly after it, and no sample in between
that is not active. -/
def ActiveThrough (samples : List Evidence) (start stop margin : Int) : Prop :=
  ∃ u first mid last v, samples = u ++ first :: (mid ++ last :: v) ∧
    (start - margin ≤ stampOf first ∧ stampOf first ≤ start ∧ isActive first = true) ∧
    (stop ≤ stampOf last ∧ stampOf last ≤ stop + margin ∧ isActive last = true) ∧
    ∀ sample ∈ mid, isActive sample = true

/-- What the code checks: the snapshots are the last one at the start and the first one at the
end. -/
structure NodeActive (samples : List Evidence) (start stop margin : Int) : Prop where
  first : ∃ sample, held stampOf samples start = some sample ∧ start - margin ≤ stampOf sample ∧
    isActive sample = true
  last : ∃ sample, upcoming stampOf samples stop = some sample ∧ stampOf sample ≤ stop + margin ∧
    isActive sample = true
  between : ∀ sample ∈ samples, start ≤ stampOf sample → stampOf sample ≤ stop →
    isActive sample = true

theorem NodeActive.activeThrough (h : NodeActive samples start stop margin)
    (hordered : InStampOrder stampOf samples) (hlt : start < stop) :
  ActiveThrough samples start stop margin
  := by
  obtain ⟨first, hfirst, hmargin, hactive⟩ := h.first
  obtain ⟨last, hlast, hmargin', hactive'⟩ := h.last
  obtain ⟨u, mid, v, hsplit, hmid⟩ := Held.exists_between hordered hlt hfirst hlast
  refine ⟨u, first, mid, last, v, hsplit, ⟨hmargin, (Held.mem_of_held hfirst).2, hactive⟩,
    ⟨?_, hmargin', hactive'⟩, ?_⟩
  · obtain ⟨l, l', -, hle, -⟩ := Held.upcoming_eq_some_iff.mp hlast
    apply hle
  · intro sample hsample
    obtain ⟨hstart, hstop⟩ := hmid sample hsample
    apply h.between sample _ (le_of_lt hstart) (le_of_lt hstop)
    simp [hsplit, hsample]

/-- The window is accepted for the node exactly when the node satisfies the conditions. -/
theorem nodeWindow_ok_iff (hstamped : Stamped samples) (hordered : InStampOrder stampOf samples) :
  (∃ snapshots, nodeWindow samples node start stop margin = .ok (.ok snapshots)) ↔
    NodeActive (samplesOf samples node) start stop margin
  := by
  have hstamped' : Stamped (samplesOf samples node) :=
    fun s hs => hstamped s (List.mem_filter.mp hs).1
  have hordered' : InStampOrder stampOf (samplesOf samples node) := hordered.filter _
  unfold nodeWindow
  rw [show (samples.filter fun sample => (PyValue.item "node" sample).equalsText node) =
    samplesOf samples node from rfl]
  generalize samplesOf samples node = nodeSamples at hstamped' hordered'
  simp only [filterStamp_eq hstamped', Except.ok_bind, Held.getLast?_within hordered',
    Held.head?_within hordered']
  constructor
  · rintro ⟨snapshots, h⟩
    split at h
    · cases h
    rename_i first hfirst
    split at h
    · cases h
    rename_i hactive
    split at h
    · cases h
    rename_i last hlast
    split at h
    · cases h
    rename_i hactive'
    split at h
    · cases h
    rename_i hbetween
    obtain ⟨hfirst, hmargin⟩ := Option.filter_eq_some_iff.mp hfirst
    obtain ⟨hlast, hmargin'⟩ := Option.filter_eq_some_iff.mp hlast
    refine ⟨⟨first, hfirst, by simpa using hmargin, by simpa using hactive⟩,
      ⟨last, hlast, by simpa using hmargin', by simpa using hactive'⟩, ?_⟩
    intro sample hsample hstart hstop
    by_contra hinactive
    apply hbetween
    rw [List.any_eq_true]
    exact ⟨sample, by simp [hsample, hstart, hstop], by simpa using hinactive⟩
  · rintro ⟨⟨first, hfirst, hmargin, hactive⟩, ⟨last, hlast, hmargin', hactive'⟩, hbetween⟩
    have hfirst' : (held stampOf nodeSamples start).filter (fun e => start - margin ≤ stampOf e) =
        some first := Option.filter_eq_some_iff.mpr ⟨hfirst, by simpa using hmargin⟩
    have hlast' : (upcoming stampOf nodeSamples stop).filter (fun e => stampOf e ≤ stop + margin) =
        some last := Option.filter_eq_some_iff.mpr ⟨hlast, by simpa using hmargin'⟩
    have hnone : ((nodeSamples.filter fun s => start ≤ stampOf s && stampOf s ≤ stop).any
        fun sample => !isActive sample) = false := by
      rw [List.any_eq_false]
      intro sample hsample
      simp only [List.mem_filter, Bool.and_eq_true, decide_eq_true_eq] at hsample
      simp [hbetween sample hsample.1 hsample.2.1 hsample.2.2]
    obtain ⟨n, hn⟩ := hstamped' first (Held.mem_of_held hfirst).1
    obtain ⟨m, hm⟩ := hstamped' last (by
      obtain ⟨l, l', hsplit, -⟩ := Held.upcoming_eq_some_iff.mp hlast
      simp [hsplit])
    simp only [hfirst', hlast', hactive, hactive', hnone, requireInt_stampOf hn,
      requireInt_stampOf hm, Except.ok_bind, Bool.not_true, Bool.false_eq_true, if_false]
    exact ⟨_, rfl⟩

/-- The window is accepted for the nodes exactly when it is for each of them. -/
theorem nodesWindow_ok_iff (hstamped : Stamped samples) (hordered : InStampOrder stampOf samples)
    {nodes : List String} {evidence : Dict String Snapshots} :
  (∃ evidence', nodesWindow samples start stop margin evidence nodes = .ok (.ok evidence')) ↔
    ∀ node ∈ nodes, NodeActive (samplesOf samples node) start stop margin
  := by
  induction nodes generalizing evidence with
  | nil =>
      simp only [List.not_mem_nil, false_implies, implies_true, iff_true]
      exact ⟨evidence, rfl⟩
  | cons node nodes ih =>
      rw [List.forall_mem_cons, ← nodeWindow_ok_iff hstamped hordered]
      unfold nodesWindow
      constructor
      · rintro ⟨evidence', h⟩
        obtain ⟨result, hresult, h⟩ := Except.bind_eq_ok_iff.mp h
        cases result with
        | error rejection => cases h
        | ok snapshots => exact ⟨⟨snapshots, hresult⟩, ih.mp ⟨evidence', h⟩⟩
      · rintro ⟨⟨snapshots, hresult⟩, hrest⟩
        rw [hresult]
        exact ih.mpr hrest

end Lifecycle

/-! ### Collisions -/

/-- No collision starts in the window. -/
def NoCollision (events : List Evidence) (start stop : Int) : Prop :=
  ∀ event ∈ events, ∃ n, PyValue.item "start_stamp_ns" event = .int n ∧ ¬ (start ≤ n ∧ n ≤ stop)

theorem collisionWithin_ok_false_iff {events : List Evidence} {start stop : Int} :
  collisionWithin start stop events = .ok false ↔ NoCollision events start stop
  := by
  induction events with
  | nil => exact ⟨fun _ => nofun, fun _ => rfl⟩
  | cons event events ih =>
      unfold collisionWithin NoCollision
      rw [List.forall_mem_cons, Except.bind_eq_ok_iff]
      constructor
      · rintro ⟨n, hn, h⟩
        split at h
        · cases h
        · rename_i hout
          exact ⟨⟨n, requireInt_eq_ok_iff.mp hn, hout⟩, ih.mp h⟩
      · rintro ⟨⟨n, hn, hout⟩, hrest⟩
        refine ⟨n, requireInt_eq_ok_iff.mpr hn, ?_⟩
        rw [if_neg hout]
        apply ih.mpr hrest

/-! ### Progress -/

section Progress

variable {F64 : Type} [PyArithmetic F64] {groundTruth feedback : List Evidence}
  {missionTerminal : Option Evidence} {start stop : Int}

/-- The poses at the start and at the end are far enough apart, or the robot turned far enough. -/
def Moved (F64 : Type) [PyArithmetic F64] (groundTruth : List Evidence) (start stop : Int) : Prop :=
  ∃ first last : InterpolatedPose F64,
    interpolatePose groundTruth start ALIGNMENT_GAP_NS = .ok first ∧
    interpolatePose groundTruth stop ALIGNMENT_GAP_NS = .ok last ∧
    ((∃ displacement, planarDistance first.toPlanarPose last.toPlanarPose = .ok displacement ∧
        le (literal RECOVERY_PROGRESS_METRES) displacement = true) ∨
      ∃ yawDelta, normalizeAngle (sub (last.yaw.getD zero) (first.yaw.getD zero)) = .ok yawDelta ∧
        le (literal RECOVERY_PROGRESS_YAW_RAD) (abs yawDelta) = true)

/-- A sample of the window has a greater waypoint than it says the one before was, or than an
earlier sample of the window has. -/
def AdvancesWithin (feedback : List Evidence) (start stop : Int) : Prop :=
  ∃ l sample l' current prior, feedback = l ++ sample :: l' ∧ start ≤ stampOf sample ∧
    stampOf sample ≤ stop ∧ PyValue.item "current_waypoint" sample = .int current ∧
      prior < current ∧
    (previousWaypoint sample = .int prior ∨
      ∃ earlier ∈ l, start ≤ stampOf earlier ∧ stampOf earlier ≤ stop ∧
        PyValue.item "current_waypoint" earlier = .int prior)

def hasSucceeded (terminal : Evidence) : Bool :=
  (PyValue.item "status" terminal).equalsText "SUCCEEDED"

/-- The mission succeeds in the window. -/
def SucceedsWithin (missionTerminal : Option Evidence) (start stop : Int) : Prop :=
  ∃ terminal ∈ missionTerminal, hasSucceeded terminal = true ∧
    ∃ n, stampItem terminal = .int n ∧ start ≤ n ∧ n ≤ stop

/-- The waypoints are integers that do not decrease. -/
def WaypointsOrdered (feedback : List Evidence) : Prop :=
  feedback.Pairwise fun sample sample' => ∀ n n', PyValue.item "current_waypoint" sample = .int n →
    PyValue.item "current_waypoint" sample' = .int n' → n ≤ n'

theorem checkWaypoints_eq_ok {last : Option Int} (h : checkWaypoints last feedback = .ok ()) :
  WaypointsOrdered feedback ∧
    ∀ n ∈ last, ∀ sample ∈ feedback, ∀ n', PyValue.item "current_waypoint" sample = .int n' → n ≤ n'
  := by
  induction feedback generalizing last with
  | nil => exact ⟨List.Pairwise.nil, nofun⟩
  | cons sample feedback ih =>
      unfold checkWaypoints at h
      obtain ⟨current, hcurrent, h⟩ := Except.bind_eq_ok_iff.mp h
      have hitem := requireInt_eq_ok_iff.mp hcurrent
      split at h
      · cases h
      rename_i hlast
      obtain ⟨hordered, hle⟩ := ih h
      constructor
      · refine List.pairwise_cons.mpr ⟨?_, hordered⟩
        intro sample' hsample' n n' hn hn'
        obtain rfl := PyValue.int.inj (hitem.symm.trans hn)
        apply hle current rfl sample' hsample' n' hn'
      · intro n hn sample' hsample' n' hn'
        have hfirst : n ≤ current := by
          obtain rfl := hn
          simpa using hlast
        rcases List.mem_cons.mp hsample' with rfl | hsample'
        · obtain rfl := PyValue.int.inj (hitem.symm.trans hn')
          apply hfirst
        · apply le_trans hfirst (hle current rfl sample' hsample' n' hn')

variable {progress : Progress F64}

omit [PyArithmetic F64] in
theorem terminalProgress_eq_some (h : terminalProgress missionTerminal stop = .ok (some progress)) :
  ∃ terminal ∈ missionTerminal, hasSucceeded terminal = true ∧
    ∃ n, stampItem terminal = .int n ∧ n ≤ stop
  := by
  cases missionTerminal with
  | none => cases h
  | some terminal =>
      unfold terminalProgress at h
      obtain ⟨n, hn, h⟩ := Except.bind_eq_ok_iff.mp h
      split at h
      · rename_i hsucceeded
        rw [Bool.and_eq_true, decide_eq_true_eq] at hsucceeded
        exact ⟨terminal, rfl, hsucceeded.1, n, requireInt_eq_ok_iff.mp hn, hsucceeded.2⟩
      · cases h

theorem poseProgress_eq_some (h : poseProgress groundTruth start stop = .ok (some progress)) :
  Moved F64 groundTruth start stop
  := by
  unfold poseProgress at h
  obtain ⟨first, hfirst, h⟩ := Except.bind_eq_ok_iff.mp h
  obtain ⟨last, hlast, h⟩ := Except.bind_eq_ok_iff.mp h
  obtain ⟨displacement, hdisplacement, h⟩ := Except.bind_eq_ok_iff.mp h
  obtain ⟨yawDelta, hyawDelta, h⟩ := Except.bind_eq_ok_iff.mp h
  refine ⟨first, last, hfirst, hlast, ?_⟩
  split at h
  · rename_i hle
    exact Or.inl ⟨displacement, hdisplacement, hle⟩
  · split at h
    · rename_i hle
      exact Or.inr ⟨yawDelta, hyawDelta, hle⟩
    · cases h

theorem whenAvailable_eq_some {α : Type} {m : Except MetricError (Option α)} {a : α}
    (h : whenAvailable m = .ok (some a)) :
  m = .ok (some a)
  := by
  unfold whenAvailable at h
  split at h
  · cases h
  · apply h

omit [PyArithmetic F64] in
theorem reportedAdvance_eq_some {transitions : List Evidence}
    (h : reportedAdvance transitions = .ok (some progress)) :
  ∃ sample ∈ transitions, ∃ current prior, PyValue.item "current_waypoint" sample = .int current ∧
    previousWaypoint sample = .int prior ∧ prior < current
  := by
  induction transitions with
  | nil => cases h
  | cons sample transitions ih =>
      unfold reportedAdvance at h
      obtain ⟨current, hcurrent, h⟩ := Except.bind_eq_ok_iff.mp h
      have hrest : (∃ s ∈ transitions, ∃ current prior,
          PyValue.item "current_waypoint" s = .int current ∧ previousWaypoint s = .int prior ∧
            prior < current) → ∃ s ∈ sample :: transitions, ∃ current prior,
          PyValue.item "current_waypoint" s = .int current ∧ previousWaypoint s = .int prior ∧
            prior < current := by
        rintro ⟨s, hs, hadvance⟩
        exact ⟨s, List.mem_cons_of_mem _ hs, hadvance⟩
      split at h
      · apply hrest (ih h)
      · obtain ⟨prior, hprior, h⟩ := Except.bind_eq_ok_iff.mp h
        split at h
        · rename_i hlt
          exact ⟨sample, List.mem_cons_self, current, prior, requireInt_eq_ok_iff.mp hcurrent,
            requireInt_eq_ok_iff.mp hprior, hlt⟩
        · apply hrest (ih h)

omit [PyArithmetic F64] in
theorem observedAdvance_eq_some {transitions : List Evidence}
    (h : observedAdvance transitions = .ok (some progress)) :
  ∃ earlier ∈ transitions, ∃ sample ∈ transitions, ∃ prior current,
    PyValue.item "current_waypoint" earlier = .int prior ∧
      PyValue.item "current_waypoint" sample = .int current ∧ prior < current
  := by
  unfold observedAdvance at h
  obtain ⟨indices, hindices, h⟩ := Except.bind_eq_ok_iff.mp h
  have hforall := Except.mapM_eq_ok_iff.mp hindices
  split at h
  · rename_i largest least hlargest hleast
    split at h
    · rename_i hlt
      obtain ⟨sample, hsample, hcurrent⟩ := hforall.exists_mem (List.max?_mem hlargest)
      obtain ⟨earlier, hearlier, hprior⟩ := hforall.exists_mem (List.min?_mem hleast)
      exact ⟨earlier, hearlier, sample, hsample, least, largest, requireInt_eq_ok_iff.mp hprior,
        requireInt_eq_ok_iff.mp hcurrent, hlt⟩
    · cases h
  · cases h

omit [PyArithmetic F64] in
theorem feedbackProgress_eq_some (hstamped : Stamped feedback)
    (hwaypoints : WaypointsOrdered feedback)
    (h : feedbackProgress feedback start stop = .ok (some progress)) :
  AdvancesWithin feedback start stop
  := by
  unfold feedbackProgress at h
  rw [filterStamp_eq hstamped, Except.ok_bind] at h
  obtain ⟨reported, hreported, h⟩ := Except.bind_eq_ok_iff.mp h
  have hwithin : ∀ sample ∈ feedback.filter (fun s => start ≤ stampOf s && stampOf s ≤ stop),
      sample ∈ feedback ∧ start ≤ stampOf sample ∧ stampOf sample ≤ stop := by
    intro sample hsample
    simpa using hsample
  cases reported with
  | some progress' =>
      obtain ⟨sample, hsample, current, prior, hcurrent, hprior, hlt⟩ :=
        reportedAdvance_eq_some hreported
      obtain ⟨hmem, hstart, hstop⟩ := hwithin sample hsample
      obtain ⟨l, l', hsplit⟩ := List.append_of_mem hmem
      exact ⟨l, sample, l', current, prior, hsplit, hstart, hstop, hcurrent, hlt, Or.inl hprior⟩
  | none =>
      obtain ⟨earlier, hearlier, sample, hsample, prior, current, hprior, hcurrent, hlt⟩ :=
        observedAdvance_eq_some h
      obtain ⟨hmem, hstart, hstop⟩ := hwithin sample hsample
      obtain ⟨hmem', hstart', hstop'⟩ := hwithin earlier hearlier
      obtain ⟨l, l', hsplit⟩ := List.append_of_mem hmem
      refine ⟨l, sample, l', current, prior, hsplit, hstart, hstop, hcurrent, hlt,
        Or.inr ⟨earlier, ?_, hstart', hstop', hprior⟩⟩
      -- The sample with the lesser waypoint comes first.
      rw [hsplit] at hmem'
      rcases List.mem_append.mp hmem' with hmem' | hmem'
      · apply hmem'
      · rcases List.mem_cons.mp hmem' with rfl | hmem'
        · obtain rfl := PyValue.int.inj (hprior.symm.trans hcurrent)
          exact absurd hlt (lt_irrefl _)
        · unfold WaypointsOrdered at hwaypoints
          rw [hsplit, List.pairwise_append, List.pairwise_cons] at hwaypoints
          have := hwaypoints.2.1.1 earlier hmem' current prior hcurrent hprior
          omega

/-- An accepted window shows progress, but the mission may have succeeded before it. -/
theorem progressWindow_eq_ok (hstamped : Stamped feedback) (hwaypoints : WaypointsOrdered feedback)
    (h : progressWindow groundTruth feedback missionTerminal start stop = .ok (.ok progress)) :
  (∃ terminal ∈ missionTerminal, hasSucceeded terminal = true ∧
      ∃ n, stampItem terminal = .int n ∧ n ≤ stop) ∨
    Moved F64 groundTruth start stop ∨ AdvancesWithin feedback start stop
  := by
  unfold progressWindow at h
  obtain ⟨terminal, hterminal, h⟩ := Except.bind_eq_ok_iff.mp h
  cases terminal with
  | some progress' => exact Or.inl (terminalProgress_eq_some hterminal)
  | none =>
      obtain ⟨pose, hpose, h⟩ := Except.bind_eq_ok_iff.mp h
      cases pose with
      | some progress' =>
          exact Or.inr (Or.inl (poseProgress_eq_some (whenAvailable_eq_some hpose)))
      | none =>
          obtain ⟨advance, hadvance, h⟩ := Except.bind_eq_ok_iff.mp h
          cases advance with
          | some progress' =>
              exact Or.inr (Or.inr (feedbackProgress_eq_some hstamped hwaypoints hadvance))
          | none => cases h

end Progress

end Metrics

end RobotestLab
