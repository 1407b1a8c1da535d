import BoardQuery.Api.Handler
import Mathlib.Tactic.SplitIfs

/-!
# Outcomes that succeed

What it takes for an operation in steps to succeed: each of its steps succeeds, and none of its
checks refuses. By these lemmas a success is taken apart into the successes it is made of.
-/

namespace BoardQuery

section

variable {ε ε' α β : Type}

@[simp]
theorem bind_eq_ok {x : Except ε α} {f : α → Except ε β} {b : β} :
    (x >>= f) = .ok b ↔ ∃ a, x = .ok a ∧ f a = .ok b := by
  rcases x with e | a <;> simp [bind, Except.bind]

theorem bind_eq_error {x : Except ε α} {f : α → Except ε β} {e : ε} :
    (x >>= f) = .error e ↔ x = .error e ∨ ∃ a, x = .ok a ∧ f a = .error e := by
  rcases x with e' | a <;> simp [bind, Except.bind]

@[simp]
theorem pure_eq_ok {a b : α} : (pure a : Except ε α) = .ok b ↔ a = b := by
  simp [pure, Except.pure]

@[simp]
theorem map_eq_ok {x : Except ε α} {f : α → β} {b : β} :
    x.map f = .ok b ↔ ∃ a, x = .ok a ∧ f a = b := by
  rcases x with e | a <;> simp [Except.map]

theorem map_eq_error {x : Except ε α} {f : α → β} {e : ε} :
    x.map f = .error e ↔ x = .error e := by
  rcases x with e' | a <;> simp [Except.map]

@[simp]
theorem mapError_eq_ok {x : Except ε α} {f : ε → ε'} {a : α} :
    x.mapError f = .ok a ↔ x = .ok a := by
  rcases x with e | a <;> simp [Except.mapError]

theorem mapError_eq_error {x : Except ε α} {f : ε → ε'} {e' : ε'} :
    x.mapError f = .error e' ↔ ∃ e, x = .error e ∧ f e = e' := by
  rcases x with e | a <;> simp [Except.mapError]

@[simp]
theorem orFault_eq_ok {x : Except Fault α} {a : α} : orFault x = .ok a ↔ x = .ok a :=
  mapError_eq_ok

theorem orFault_eq_error {x : Except Fault α} {e : Refusal} :
    orFault x = .error e ↔ ∃ f, x = .error f ∧ .fault f = e :=
  mapError_eq_error

@[simp]
theorem orReply_eq_ok {status : Nat} {x : Outcome α} {a : α} :
    orReply status x = .ok a ↔ x = .ok a :=
  mapError_eq_ok

@[simp]
theorem refuse_ne_ok {r : Reason} {a : α} : refuse r ≠ .ok a := by
  simp [refuse]

@[simp]
theorem refuse_bind {r : Reason} {f : α → Outcome β} : (refuse r >>= f) = refuse r := rfl

@[simp]
theorem error_bind {e : ε} {f : α → Except ε β} : (Except.error e >>= f) = .error e := rfl

@[simp]
theorem ok_bind {a : α} {f : α → Except ε β} : (Except.ok a >>= f) = f a := rfl

theorem exists_eq_ok {x : Except ε α} (h : x.isOk = true) : ∃ a, x = .ok a := by
  rcases x with e | a
  · exact absurd h Bool.false_ne_true
  · exact ⟨a, rfl⟩

/-- After the same first step, the image of what follows is what follows otherwise. -/
theorem bind_eq_map_bind {γ : Type} {x : Except ε α} {f : α → Except ε β} {f' : α → Except ε γ}
    {g : β → γ} (h : ∀ a, x = .ok a → f' a = (f a).map g) : (x >>= f') = (x >>= f).map g := by
  rcases x with e | a
  · rfl
  · exact h a rfl

theorem map_bind_eq_map_bind {α' γ : Type} {x : Except ε α} {k : α → α'} {f : α → Except ε β}
    {f' : α' → Except ε γ} {g : β → γ} (h : ∀ a, x = .ok a → f' (k a) = (f a).map g) :
    (x.map k >>= f') = (x >>= f).map g := by
  rcases x with e | a
  · rfl
  · exact h a rfl

/-- After the same first step, rests that come to the same in some respect. -/
theorem bind_map_congr {β' γ : Type} {x : Except ε α} {f : α → Except ε β} {f' : α → Except ε β'}
    {g : β → γ} {g' : β' → γ} (h : ∀ a, x = .ok a → (f' a).map g' = (f a).map g) :
    (x >>= f').map g' = (x >>= f).map g := by
  rcases x with e | a
  · rfl
  · exact h a rfl

/-- Steps that fail alike, and rests that come to the same in some respect. -/
theorem map_bind_congr {α' β' γ : Type} {x : Except ε α} {x' : Except ε α'} {f : α → Except ε β}
    {f' : α' → Except ε β'} {g : β → γ} {g' : β' → γ}
    (hx : (x'.map fun _ => ()) = x.map fun _ => ())
    (h : ∀ a a', x = .ok a → x' = .ok a' → (f' a').map g' = (f a).map g) :
    (x' >>= f').map g' = (x >>= f).map g := by
  rcases x with e | a <;> rcases x' with e' | a'
  · exact congrArg Except.error (Except.error.inj hx)
  · exact absurd hx (by simp [Except.map])
  · exact absurd hx (by simp [Except.map])
  · exact h a a' rfl rfl

theorem orReply_map {status : Nat} {x : Outcome α} {f : α → β} :
    orReply status (x.map f) = (orReply status x).map f := by
  rcases x with e | a <;> rfl

/-- A check that refuses, and what follows it. -/
@[simp]
theorem ite_refuse_eq_ok {p : Prop} [Decidable p] {r : Reason} {x : Outcome α} {a : α} :
    (if p then refuse r else x) = .ok a ↔ ¬ p ∧ x = .ok a := by
  split_ifs with h <;> simp [h]

/-- A check that fails, and what follows it. -/
@[simp]
theorem ite_error_eq_ok {p : Prop} [Decidable p] {e : ε} {x : Except ε α} {a : α} :
    (if p then .error e else x) = .ok a ↔ ¬ p ∧ x = .ok a := by
  split_ifs with h <;> simp [h]

end

namespace Validated

variable {ε α β γ : Type} {f : Validated ε (α → β)} {x : Validated ε α}

theorem map_seq (k : β → γ) (f : Validated ε (α → β)) (x : Validated ε α) :
    k <$> (f <*> x) = (fun h a => k (h a)) <$> f <*> x := by
  cases f <;> cases x <;> rfl

theorem seq_eq_valid {b : β} :
    f <*> x = .valid b ↔ ∃ g a, f = .valid g ∧ x = .valid a ∧ g a = b := by
  cases f <;> cases x <;> simp [Seq.seq]

theorem map_eq_valid {f : α → β} {b : β} : f <$> x = .valid b ↔ ∃ a, x = .valid a ∧ f a = b := by
  cases x <;> simp [Functor.map]

theorem errors_seq : (f <*> x).errors = f.errors ++ x.errors := by
  cases f <;> cases x <;> simp [Seq.seq, errors]

theorem errors_map (f : α → β) : (f <$> x).errors = x.errors := by
  cases x <;> simp [Functor.map, errors]

end Validated

end BoardQuery
