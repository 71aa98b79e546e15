import RobotestLab.Library.Threads

/-!
# Threads restricted to some actions

A thread that performs only actions of some kind, whatever the answers are. It obeys every protocol
that allows these actions in a state and does not remember them (`Only.obeys`).
-/

namespace Thread

variable {A : Actions} {α β L : Type} {p : A.Action → Prop}

/-- The protocol that allows the actions and remembers nothing. -/
def restriction (p : A.Action → Prop) : Protocol A where
  State := Unit
  Allows _ a := p a
  Possible _ _ := True
  next _ _ _ := ()

/-- The thread performs only the given actions. -/
def Only (p : A.Action → Prop) (t : Thread A α) : Prop :=
  Obeys (restriction p) t () fun _ _ => True

namespace Only

theorem pure (x : α) : Only p (Pure.pure x : Thread A α) := trivial

variable {t : Thread A α}

theorem bind {f : α → Thread A β} (ht : Only p t) (hf : ∀ x, Only p (f x)) :
  Only p (t >>= f)
  := Obeys.bind ht fun x _ _ => hf x

theorem perform {a : A.Action} (ha : p a) : Only p (perform a) := ⟨ha, fun _ _ => trivial⟩

/-- One of the actions, and then the rest. -/
theorem act {a : A.Action} {f : A.Answer a → Thread A β} (ha : p a) (hf : ∀ x, Only p (f x)) :
  Only p (Thread.perform a >>= f)
  := (perform ha).bind hf

theorem ite {c : Prop} [Decidable c] {t e : Thread A α} (ht : Only p t) (he : Only p e) :
  Only p (if c then t else e)
  := by
  split
  · apply ht
  · apply he

theorem repeatUntil {body : L → Thread A (L ⊕ β)} (hbody : ∀ l, Only p (body l)) (l : L) :
  Only p (Thread.repeatUntil body l)
  := by
  apply Obeys.repeatUntil (P := restriction p) (fun _ _ => True) trivial
  intro l q _
  apply (hbody l).mono
  intro x q' _
  cases x with
  | inl l' => trivial
  | inr b => trivial

/-- What such a thread leaves, in a protocol that does not remember its actions. -/
theorem obeys_and {P : Protocol A} {q : P.State} {post : α → Unit → Prop}
    (h : Obeys (restriction p) t () post) (hallows : ∀ a, p a → P.Allows q a)
    (hnext : ∀ a r, p a → P.next q a r = q) :
  Obeys P t q fun x q' => q' = q ∧ post x ()
  := by
  induction t with
  | pure x => exact ⟨rfl, h⟩
  | act a k ih =>
      refine ⟨hallows a h.1, ?_⟩
      intro r _
      rw [hnext a r h.1]
      apply ih r (h.2 r trivial)
  | loop body l k ihbody ihk =>
      obtain ⟨inv, hinv, hround⟩ := h
      refine ⟨fun l q' => inv l () ∧ q' = q, ⟨hinv, rfl⟩, ?_⟩
      rintro l _ ⟨hl, rfl⟩
      apply (ihbody l (hround l () hl)).mono
      rintro x _ ⟨rfl, hx⟩
      cases x with
      | inl l' => exact ⟨hx, rfl⟩
      | inr b => exact ihk b hx

/-- Such a thread leaves the state of a protocol that does not remember its actions. -/
theorem obeys {P : Protocol A} {q : P.State} (h : Only p t)
    (hallows : ∀ a, p a → P.Allows q a) (hnext : ∀ a r, p a → P.next q a r = q) :
  Obeys P t q fun _ q' => q' = q
  := (obeys_and h hallows hnext).mono fun _ _ hx => hx.1

end Only

end Thread
