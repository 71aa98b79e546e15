import Mathlib.Data.List.Basic
import Mathlib.Order.Lattice
import Mathlib.Order.Nat

/-!
# Ordered matching

Requests are matched to observations, in the order of the requests. A request takes the first
observation that is numbered after the request itself and after the observation of the request
before it, and whose stamp has reached the target (`greedy`). When a further observation or a
further request is numbered after all that there is, the matching changes at its end only
(`greedy_concat`, `greedy_request`).
-/

/-- When no item before a place is accepted, and none after it unless the one at the place is, then
the item at the place is found or none is. -/
theorem List.find?_eq_filter {A : Type} {items : List A} {p : A → Bool} {k : Nat}
    (hbefore : ∀ j a, j < k → items[j]? = some a → p a = false)
    (hafter : ∀ j a b, k < j → items[k]? = some a → items[j]? = some b → p b = true → p a = true) :
  items.find? p = items[k]?.filter p
  := by
  induction items generalizing k with
  | nil => rfl
  | cons first items ih =>
      cases k with
      | zero =>
          rw [List.getElem?_cons_zero, Option.filter_some]
          cases hfirst : p first with
          | true => rw [List.find?_cons_of_pos hfirst, if_pos rfl]
          | false =>
              rw [List.find?_cons_of_neg (by rw [hfirst]; exact Bool.noConfusion),
                if_neg Bool.false_ne_true, List.find?_eq_none]
              intro b hb haccepted
              obtain ⟨j, hj⟩ := List.mem_iff_getElem?.mp hb
              have htrue := hafter (j + 1) first b (Nat.succ_pos j) rfl hj haccepted
              rw [hfirst] at htrue
              cases htrue
      | succ k =>
          have hfirst := hbefore 0 first (Nat.succ_pos k) rfl
          rw [List.find?_cons_of_neg (by rw [hfirst]; exact Bool.noConfusion),
            List.getElem?_cons_succ]
          apply ih
          · exact fun j a hj ha => hbefore (j + 1) a (Nat.succ_lt_succ hj) ha
          · exact fun j a b hj ha hb => hafter (j + 1) a b (Nat.succ_lt_succ hj) ha hb

namespace OrderedMatching

/-- A request takes a number, and waits for a stamp. -/
structure Request (N T : Type) where
  number : N
  target : T
deriving DecidableEq

variable {A N T : Type} [LinearOrder N] [LinearOrder T] (number : A → N) (stamp : A → T)

/-- The observation is numbered after the request and after the given number, and has reached the
target. -/
def Request.admits (request : Request N T) (after : Option N) (a : A) : Bool :=
  request.number < number a && after.all (· < number a) && request.target ≤ stamp a

/-- Match one request after another, each after the given number, until one has no observation. -/
def greedy (observed : List A) : Option N → List (Request N T) → List A
  | _, [] => []
  | after, request :: requests =>
      match observed.find? (request.admits number stamp after) with
      | none => []
      | some a => a :: greedy observed (some (number a)) requests

/-- The observations are numbered in order, and their stamps do not decrease. -/
def Chronological (observed : List A) : Prop :=
  observed.Pairwise fun a b => number a < number b ∧ stamp a ≤ stamp b

variable {number stamp} {observed : List A} {after : Option N} {request : Request N T}
  {requests : List (Request N T)} {a b : A}

theorem admits_iff :
  request.admits number stamp after a = true
    ↔ request.number < number a ∧ (∀ n, after = some n → n < number a) ∧ request.target ≤ stamp a
  := by
  rw [Request.admits, Bool.and_eq_true, Bool.and_eq_true, decide_eq_true_eq, decide_eq_true_eq,
    and_assoc, Option.all_eq_true]
  simp only [decide_eq_true_eq]

theorem greedy_cons_of_none (h : observed.find? (request.admits number stamp after) = none) :
  greedy number stamp observed after (request :: requests) = []
  := by
  rw [greedy, h]

theorem greedy_cons_of_some (h : observed.find? (request.admits number stamp after) = some a) :
  greedy number stamp observed after (request :: requests)
    = a :: greedy number stamp observed (some (number a)) requests
  := by
  rw [greedy, h]

/-! ### What is matched -/

theorem mem_of_mem_greedy (h : a ∈ greedy number stamp observed after requests) : a ∈ observed
  := by
  induction requests generalizing after with
  | nil => cases h
  | cons request requests ih =>
      cases hfind : observed.find? (request.admits number stamp after) with
      | none =>
          rw [greedy_cons_of_none hfind] at h
          cases h
      | some b =>
          rw [greedy_cons_of_some hfind] at h
          rcases List.mem_cons.mp h with rfl | h
          · apply List.mem_of_find?_eq_some hfind
          · apply ih h

theorem lt_of_mem_greedy {n : N} (h : a ∈ greedy number stamp observed (some n) requests) :
    n < number a
  := by
  induction requests generalizing n with
  | nil => cases h
  | cons request requests ih =>
      cases hfind : observed.find? (request.admits number stamp (some n)) with
      | none =>
          rw [greedy_cons_of_none hfind] at h
          cases h
      | some b =>
          have hb := (admits_iff.mp (List.find?_some hfind)).2.1 n rfl
          rw [greedy_cons_of_some hfind] at h
          rcases List.mem_cons.mp h with rfl | h
          · exact hb
          · apply hb.trans (ih h)

/-- The matched observations are numbered in order. -/
theorem pairwise_greedy :
  (greedy number stamp observed after requests).Pairwise fun a b => number a < number b
  := by
  induction requests generalizing after with
  | nil => exact .nil
  | cons request requests ih =>
      cases hfind : observed.find? (request.admits number stamp after) with
      | none =>
          rw [greedy_cons_of_none hfind]
          exact .nil
      | some b =>
          rw [greedy_cons_of_some hfind, List.pairwise_cons]
          exact ⟨fun a ha => lt_of_mem_greedy ha, ih⟩

theorem length_greedy_le : (greedy number stamp observed after requests).length ≤ requests.length
  := by
  induction requests generalizing after with
  | nil => exact Nat.le_refl 0
  | cons request requests ih =>
      cases hfind : observed.find? (request.admits number stamp after) with
      | none =>
          rw [greedy_cons_of_none hfind]
          apply Nat.zero_le
      | some b =>
          rw [greedy_cons_of_some hfind]
          apply Nat.succ_le_succ ih

/-- Two observations that are numbered in order have stamps that do not decrease. -/
theorem Chronological.stamp_le (h : Chronological number stamp observed) (ha : a ∈ observed)
    (hb : b ∈ observed) (hlt : number a < number b) :
  stamp a ≤ stamp b
  := by
  obtain ⟨i, hi, rfl⟩ := List.mem_iff_getElem.mp ha
  obtain ⟨j, hj, rfl⟩ := List.mem_iff_getElem.mp hb
  rw [Chronological, List.pairwise_iff_getElem] at h
  rcases lt_trichotomy i j with hij | rfl | hij
  · apply (h i j hi hj hij).2
  · exact absurd hlt (lt_irrefl _)
  · exact absurd hlt (lt_asymm (h j i hj hi hij).1)

/-- The stamps of the matched observations do not decrease. -/
theorem Chronological.pairwise_greedy (h : Chronological number stamp observed) :
  Chronological number stamp (greedy number stamp observed after requests)
  := by
  apply OrderedMatching.pairwise_greedy.imp_of_mem
  intro a b ha hb hlt
  exact ⟨hlt, h.stamp_le (mem_of_mem_greedy ha) (mem_of_mem_greedy hb) hlt⟩

/-- The number after which a request is matched: the one of the observation of the request before
it. -/
def previous (number : A → N) (after : Option N) (matched : List A) : Nat → Option N
  | 0 => after
  | i + 1 => matched[i]?.map number

/-- Up to the first request without an observation, every request has the first one that it
admits. -/
theorem getElem?_greedy {i : Nat} (hrequest : requests[i]? = some request)
    (hi : i ≤ (greedy number stamp observed after requests).length) :
  (greedy number stamp observed after requests)[i]?
    = observed.find? (request.admits number stamp
      (previous number after (greedy number stamp observed after requests) i))
  := by
  induction requests generalizing after i with
  | nil => cases hrequest
  | cons first requests ih =>
      cases hfind : observed.find? (first.admits number stamp after) with
      | none =>
          rw [greedy_cons_of_none hfind] at hi ⊢
          obtain rfl := Nat.le_zero.mp hi
          cases hrequest
          exact hfind.symm
      | some a =>
          rw [greedy_cons_of_some hfind] at hi ⊢
          cases i with
          | zero =>
              cases hrequest
              exact hfind.symm
          | succ i =>
              rw [List.getElem?_cons_succ] at hrequest ⊢
              rw [ih hrequest (Nat.le_of_succ_le_succ hi)]
              cases i with
              | zero => rfl
              | succ i => rfl

/-! ### What comes later -/

/-- No observation is numbered after the given number. -/
theorem greedy_eq_nil {n : N} (h : ∀ b ∈ observed, number b ≤ n) :
  greedy number stamp observed (some n) requests = []
  := by
  rw [List.eq_nil_iff_forall_not_mem]
  intro a ha
  exact absurd (lt_of_mem_greedy ha) (h a (mem_of_mem_greedy ha)).not_gt

/-- More observations extend the matching. -/
theorem greedy_prefix {more : List A} :
  greedy number stamp observed after requests <+: greedy number stamp
    (observed ++ more) after requests
  := by
  induction requests generalizing after with
  | nil => exact List.prefix_refl []
  | cons request requests ih =>
      cases hfind : observed.find? (request.admits number stamp after) with
      | none =>
          rw [greedy_cons_of_none hfind]
          apply List.nil_prefix
      | some a =>
          have hfind' : (observed ++ more).find? (request.admits number stamp after) = some a := by
            rw [List.find?_append, hfind]
            rfl
          rw [greedy_cons_of_some hfind, greedy_cons_of_some hfind', List.prefix_cons_inj]
          apply ih

/-- The observation has reached the target of the request at the given place. -/
def reaches (stamp : A → T) (requests : List (Request N T)) (k : Nat) (a : A) : Bool :=
  requests[k]?.any (·.target ≤ stamp a)

/-- A new observation is matched to the first request without one, if it has reached the target. -/
theorem greedy_concat (hobserved : ∀ b ∈ observed, number b < number a)
    (hrequests : ∀ r ∈ requests, r.number < number a)
    (hafter : ∀ n, after = some n → n < number a) :
  greedy number stamp (observed ++ [a]) after requests
    = greedy number stamp observed after requests
      ++ if reaches stamp requests (greedy number stamp observed after requests).length a
        then [a] else []
  := by
  induction requests generalizing after with
  | nil => rfl
  | cons request requests ih =>
      rw [List.forall_mem_cons] at hrequests
      cases hfind : observed.find? (request.admits number stamp after) with
      | some b =>
          have hb : number b < number a := hobserved b (List.mem_of_find?_eq_some hfind)
          have hfind' : (observed ++ [a]).find? (request.admits number stamp after) = some b := by
            rw [List.find?_append, hfind]
            rfl
          rw [greedy_cons_of_some hfind, greedy_cons_of_some hfind',
            ih hrequests.2 (by rintro n ⟨⟩; exact hb)]
          rfl
      | none =>
          have hfind' : (observed ++ [a]).find? (request.admits number stamp after)
              = if request.target ≤ stamp a then some a else none := by
            rw [List.find?_append, hfind, Option.none_or, List.find?_singleton]
            apply if_congr _ rfl rfl
            rw [admits_iff]
            exact ⟨fun h => h.2.2, fun h => ⟨hrequests.1, hafter, h⟩⟩
          rw [greedy_cons_of_none hfind]
          by_cases htarget : request.target ≤ stamp a
          · rw [if_pos htarget] at hfind'
            rw [greedy_cons_of_some hfind', greedy_eq_nil]
            · rw [reaches, List.length_nil, List.getElem?_cons_zero, Option.any_some,
                if_pos (decide_eq_true htarget), List.nil_append]
            · intro b hb
              rcases List.mem_append.mp hb with hb | hb
              · apply (hobserved b hb).le
              · rw [List.mem_singleton.mp hb]
          · rw [if_neg htarget] at hfind'
            rw [greedy_cons_of_none hfind', reaches, List.length_nil, List.getElem?_cons_zero,
              Option.any_some, if_neg (by simpa using htarget), List.nil_append]

/-- A new request has no observation yet. -/
theorem greedy_request (h : ∀ b ∈ observed, number b < request.number) :
  greedy number stamp observed after (requests ++ [request]) =
    greedy number stamp observed after requests
  := by
  induction requests generalizing after with
  | nil =>
      apply greedy_cons_of_none
      rw [List.find?_eq_none]
      intro b hb hadmits
      exact absurd (admits_iff.mp hadmits).1 (h b hb).not_gt
  | cons first requests ih =>
      rw [List.cons_append]
      cases hfind : observed.find? (first.admits number stamp after) with
      | none => rw [greedy_cons_of_none hfind, greedy_cons_of_none hfind]
      | some a => rw [greedy_cons_of_some hfind, greedy_cons_of_some hfind, ih]

end OrderedMatching
