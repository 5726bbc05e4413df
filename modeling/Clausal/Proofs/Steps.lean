import Clausal.Error
import Mathlib.Data.List.Forall2
/-!
# Steps that can fail

A chain of steps ends at the first that fails, and so does a traversal of a list. Two chains are
tied when they fail with the same error or succeed with related values.
-/

namespace Clausal

variable {α β γ δ : Type}

/-! ## One step after another -/

/-- A sequence of steps succeeds exactly when each of them does. -/
theorem bind_eq_ok_iff {ε : Type} {x : Except ε α} {f : α → Except ε β} {b : β} :
    (x >>= f) = .ok b ↔ ∃ a, x = .ok a ∧ f a = .ok b := by
  cases x with
  | error e => simp [bind, Except.bind]
  | ok a => simp [bind, Except.bind]

/-- It fails with the error of the first step that fails. -/
theorem bind_eq_error_iff {ε : Type} {x : Except ε α} {f : α → Except ε β} {e : ε} :
    (x >>= f) = .error e ↔ x = .error e ∨ ∃ a, x = .ok a ∧ f a = .error e := by
  cases x with
  | error e => simp [bind, Except.bind]
  | ok a => simp [bind, Except.bind]

theorem map_eq_ok_iff {x : Except Error α} {f : α → β} {b : β} :
    x.map f = .ok b ↔ ∃ a, x = .ok a ∧ f a = b := by
  cases x with
  | error e => simp [Except.map]
  | ok a => simp [Except.map]

/-- Steps on a state go on where the first succeeds and end where it fails. The state is kept either
way. -/
theorem bind_apply {ε σ : Type} (x : ExceptT ε (StateM σ) α) (f : α → ExceptT ε (StateM σ) β)
    (state : σ) : (x >>= f) state =
      match x state with
      | (.ok a, state') => f a state'
      | (.error e, state') => (.error e, state') := by
  change (match x state with
    | (outcome, state') => (ExceptT.bindCont f outcome : StateM σ (Except ε β)) state') = _
  rcases x state with ⟨outcome, state'⟩
  cases outcome <;> rfl

/-! ## One item after another -/

/-- A traversal succeeds exactly when each item does. -/
theorem mapM_eq_ok_iff {f : α → Except Error β} {xs : List α} {ys : List β} :
    xs.mapM f = .ok ys ↔ List.Forall₂ (fun x y => f x = .ok y) xs ys := by
  induction xs generalizing ys with
  | nil => simp [pure, Except.pure, eq_comm]
  | cons x rest ih =>
    rw [List.mapM_cons, List.forall₂_cons_left_iff, bind_eq_ok_iff]
    constructor
    · rintro ⟨y, here, made⟩
      obtain ⟨others, later, joined⟩ := bind_eq_ok_iff.mp made
      cases joined
      exact ⟨y, others, here, ih.mp later, rfl⟩
    · rintro ⟨y, others, here, later, rfl⟩
      exact ⟨y, here, bind_eq_ok_iff.mpr ⟨others, ih.mpr later, rfl⟩⟩

/-- It fails with the error of the first item that fails. -/
theorem mapM_eq_error_iff {f : α → Except Error β} {xs : List α} {e : Error} :
    xs.mapM f = .error e ↔ ∃ before x after, xs = before ++ x :: after ∧
      (∀ earlier ∈ before, ∃ y, f earlier = .ok y) ∧ f x = .error e := by
  induction xs with
  | nil => simp [pure, Except.pure]
  | cons x rest ih =>
    rw [List.mapM_cons, bind_eq_error_iff]
    constructor
    · rintro (here | ⟨y, here, failed⟩)
      · exact ⟨[], x, rest, rfl, by simp, here⟩
      · rcases bind_eq_error_iff.mp failed with later | ⟨others, -, failed⟩
        · obtain ⟨before, first, after, rfl, passed, fails⟩ := ih.mp later
          have all := List.forall_mem_cons.mpr ⟨⟨y, here⟩, passed⟩
          exact ⟨x :: before, first, after, rfl, all, fails⟩
        · cases failed
    · rintro ⟨before, first, after, split, passed, fails⟩
      cases before with
      | nil =>
        cases split
        exact .inl fails
      | cons earlier others =>
        cases split
        obtain ⟨⟨y, here⟩, passed⟩ := List.forall_mem_cons.mp passed
        have later := ih.mpr ⟨others, first, after, rfl, passed, fails⟩
        exact .inr ⟨y, here, bind_eq_error_iff.mpr (.inl later)⟩

/-- A traversal succeeds when no item fails. -/
theorem exists_mapM_eq_ok_iff {f : α → Except Error β} {xs : List α} :
    (∃ ys, xs.mapM f = .ok ys) ↔ ∀ x ∈ xs, ∃ y, f x = .ok y := by
  constructor
  · rintro ⟨ys, made⟩
    have each := mapM_eq_ok_iff.mp made
    clear made
    induction each with
    | nil => simp
    | cons here _ ih => exact List.forall_mem_cons.mpr ⟨⟨_, here⟩, ih⟩
  · intro passed
    cases made : xs.mapM f with
    | ok ys => exact ⟨ys, rfl⟩
    | error e =>
      obtain ⟨before, x, after, rfl, -, failed⟩ := mapM_eq_error_iff.mp made
      obtain ⟨y, succeeded⟩ := passed x (by simp)
      rw [failed] at succeeded
      cases succeeded

theorem mapM_comp_map {f : α → Except Error β} (g : β → γ) (xs : List α) :
    xs.mapM (fun x => (f x).map g) = (xs.mapM f).map (List.map g) := by
  induction xs with
  | nil => rfl
  | cons x rest ih =>
    rw [List.mapM_cons, List.mapM_cons, ih]
    cases f x with
    | error e => rfl
    | ok y => cases rest.mapM f <;> rfl

/-- An item that becomes the same may stand in the place of another. -/
theorem mapM_append_cons_congr {f : α → Except Error β} {x x' : α} (same : f x' = f x)
    (before after : List α) :
    (before ++ x' :: after).mapM f = (before ++ x :: after).mapM f := by
  rw [List.mapM_append, List.mapM_append, List.mapM_cons, List.mapM_cons, same]

/-! ## Tied results -/

/-- Two results that fail with the same error, or succeed with related values. -/
inductive Tied {α β : Type} (R : α → β → Prop) : Except Error α → Except Error β → Prop
  | error (e : Error) : Tied R (.error e) (.error e)
  | ok {a : α} {b : β} : R a b → Tied R (.ok a) (.ok b)

namespace Tied

variable {R : α → β → Prop} {S : γ → δ → Prop} {x : Except Error α} {y : Except Error β}

theorem bind {f : α → Except Error γ} {g : β → Except Error δ} (tied : Tied R x y)
    (next : ∀ a b, R a b → Tied S (f a) (g b)) : Tied S (x >>= f) (y >>= g) := by
  cases tied with
  | error e => exact .error e
  | ok related => exact next _ _ related

theorem map {T : α → δ → Prop} {g : β → δ} (tied : Tied R x y)
    (next : ∀ a b, R a b → T a (g b)) : Tied T x (y >>= fun b => pure (g b)) := by
  cases tied with
  | error e => exact .error e
  | ok related => exact .ok (next _ _ related)

theorem exists_ok_iff (tied : Tied R x y) : (∃ a, x = .ok a) ↔ ∃ b, y = .ok b := by
  cases tied <;> simp

theorem error_iff (tied : Tied R x y) (e : Error) : x = .error e ↔ y = .error e := by
  cases tied <;> simp

theorem exists_of_eq_ok {b : β} (tied : Tied R x y) (made : y = .ok b) :
    ∃ a, x = .ok a ∧ R a b := by
  cases tied with
  | error e => cases made
  | ok related =>
    cases made
    exact ⟨_, rfl, related⟩

theorem symm (tied : Tied R x y) : Tied (fun b a => R a b) y x := by
  cases tied with
  | error e => exact .error e
  | ok related => exact .ok related

theorem trans {S : β → γ → Prop} {T : α → γ → Prop} {z : Except Error γ} (first : Tied R x y)
    (second : Tied S y z) (both : ∀ a b c, R a b → S b c → T a c) : Tied T x z := by
  cases first with
  | error e =>
    cases second
    exact .error e
  | ok related =>
    cases second with
    | ok related' => exact .ok (both _ _ _ related related')

end Tied

/-- Two results that are related where both succeed. -/
def Agree {α β : Type} (R : α → β → Prop) (x : Except Error α) (y : Except Error β) : Prop :=
  ∀ a b, x = .ok a → y = .ok b → R a b

namespace Agree

variable {R : α → β → Prop} {S : γ → δ → Prop} {x : Except Error α} {y : Except Error β}

theorem ok {a : α} {b : β} (related : R a b) : Agree R (.ok a) (.ok b) := by
  intro _ _ first second
  cases first
  cases second
  exact related

theorem error_left (e : Error) : Agree R (.error e) y := by
  intro _ _ first
  cases first

theorem bind {f : α → Except Error γ} {g : β → Except Error δ} (agree : Agree R x y)
    (next : ∀ a b, R a b → Agree S (f a) (g b)) : Agree S (x >>= f) (y >>= g) := by
  intro c d first second
  obtain ⟨a, hereLeft, laterLeft⟩ := bind_eq_ok_iff.mp first
  obtain ⟨b, hereRight, laterRight⟩ := bind_eq_ok_iff.mp second
  exact next a b (agree a b hereLeft hereRight) c d laterLeft laterRight

theorem map {f : α → γ} {g : β → δ} (agree : Agree R x y) (next : ∀ a b, R a b → S (f a) (g b)) :
    Agree S (x >>= fun a => pure (f a)) (y >>= fun b => pure (g b)) :=
  agree.bind fun a b related => .ok (next a b related)

end Agree

/-! ## Items in each other's places -/

/-- Items may stand in the place of others when they fail alike, and otherwise what they become makes
no difference to what is made of all. -/
theorem mapM_append_congr {f : α → Except Error β} {g : List β → γ} {middle others : List α}
    (tied : Tied (fun ys zs => ∀ front back, g (front ++ ys ++ back) = g (front ++ zs ++ back))
      (middle.mapM f) (others.mapM f)) (before after : List α) :
    ((before ++ middle ++ after).mapM f >>= fun ys => pure (g ys)) =
      (before ++ others ++ after).mapM f >>= fun ys => pure (g ys) := by
  rw [List.mapM_append, List.mapM_append, List.mapM_append, List.mapM_append]
  generalize middle.mapM f = first at tied ⊢
  generalize others.mapM f = second at tied ⊢
  cases before.mapM f with
  | error e => rfl
  | ok front =>
    cases tied with
    | error e => rfl
    | ok same =>
      cases after.mapM f with
      | error e => rfl
      | ok back => exact congrArg Except.ok (same front back)

/-- An item may be left out when what it becomes makes no difference to what is made of all. -/
theorem mapM_append_of_neutral {f : α → Except Error β} {g : List β → γ} {x : α} {y : β}
    (made : f x = .ok y) (neutral : ∀ front back, g (front ++ y :: back) = g (front ++ back))
    (before after : List α) : ((before ++ after).mapM f >>= fun ys => pure (g ys)) =
      (before ++ x :: after).mapM f >>= fun ys => pure (g ys) := by
  have single : [x].mapM f = .ok [y] := by
    rw [List.mapM_cons, made]
    rfl
  have left : before ++ [] ++ after = before ++ after := by rw [List.append_nil]
  have whole : before ++ [x] ++ after = before ++ x :: after := by simp
  rw [← left, ← whole]
  refine mapM_append_congr ?_ before after
  rw [single]
  exact .ok fun front back => by simp [neutral]

end Clausal
