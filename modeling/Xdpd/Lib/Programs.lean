import Mathlib.Tactic.Common

/-!
# Programs that return, throw or block

A program takes a state.  It returns a value or throws an exception, and leaves a state either way;
or it waits for ever.  `wp p R E s` says that the program `p` does not block in the state `s`, that
`R` holds of what it returns and of the state it leaves then, and `E` when it throws.

A program is written as it stands in its source, and `simp` computes the condition on the state that
it starts in: there is one rule for each construct.
-/

namespace Xdpd.Lib

variable {ε σ α β : Type}

/-- A program with the states `σ`, which returns an `α`, throws an `ε`, or blocks. -/
def Program (ε σ α : Type) : Type := σ → Option (Except ε α × σ)

namespace Program

instance : Monad (Program ε σ) where
  pure a := fun s => some (.ok a, s)
  bind p f := fun s =>
    match p s with
    | none => none
    | some (.error e, s') => some (.error e, s')
    | some (.ok a, s') => f a s'

instance : LawfulMonad (Program ε σ) := by
  refine LawfulMonad.mk' _ ?_ ?_ ?_
  · intro α p
    funext s
    simp only [Functor.map]
    cases p s with
    | none => rfl
    | some q =>
        obtain ⟨r, s'⟩ := q
        cases r <;> rfl
  · intro α β a f
    rfl
  · intro α β γ p f g
    funext s
    simp only [bind]
    cases p s with
    | none => rfl
    | some q =>
        obtain ⟨r, s'⟩ := q
        cases r <;> rfl

instance : MonadExceptOf ε (Program ε σ) where
  throw e := fun s => some (.error e, s)
  tryCatch p handler := fun s =>
    match p s with
    | none => none
    | some (.error e, s') => handler e s'
    | some (.ok a, s') => some (.ok a, s')

/-- Reads from the state. -/
def read (f : σ → α) : Program ε σ α := fun s => some (.ok (f s), s)

/-- Changes the state. -/
def update (f : σ → σ) : Program ε σ Unit := fun s => some (.ok (), f s)

/-- Goes on where the condition holds, and waits for ever where it does not. -/
def await (P : σ → Prop) [DecidablePred P] : Program ε σ Unit :=
  fun s => if P s then some (.ok (), s) else none

/-- What is to hold at the end holds of a result. -/
def Ends (R : α → σ → Prop) (E : ε → σ → Prop) : Option (Except ε α × σ) → Prop
  | none => False
  | some (.error e, s) => E e s
  | some (.ok a, s) => R a s

/-- The weakest precondition. -/
def wp (p : Program ε σ α) (R : α → σ → Prop) (E : ε → σ → Prop) (s : σ) : Prop :=
  Ends R E (p s)

section Rules

variable {R : α → σ → Prop} {E : ε → σ → Prop} {s : σ}

@[simp]
lemma wp_pure (a : α) : wp (pure a : Program ε σ α) R E s ↔ R a s := Iff.rfl

@[simp]
lemma wp_throw (e : ε) : wp (throw e : Program ε σ α) R E s ↔ E e s := Iff.rfl

@[simp]
lemma wp_read (f : σ → α) : wp (read f : Program ε σ α) R E s ↔ R (f s) s := Iff.rfl

@[simp]
lemma wp_update {R : Unit → σ → Prop} (f : σ → σ) :
    wp (update f : Program ε σ Unit) R E s ↔ R () (f s) := Iff.rfl

@[simp]
lemma wp_await {R : Unit → σ → Prop} (P : σ → Prop) [DecidablePred P] :
    wp (await P : Program ε σ Unit) R E s ↔ P s ∧ R () s := by
  by_cases h : P s
  · simp [wp, await, h, Ends]
  · simp [wp, await, h, Ends]

@[simp]
lemma wp_bind {R : β → σ → Prop} (p : Program ε σ α) (f : α → Program ε σ β) :
    wp (p >>= f) R E s ↔ wp p (fun a => wp (f a) R E) E s := by
  show Ends R E ((p >>= f) s) ↔ Ends (fun a => wp (f a) R E) E (p s)
  cases h : p s with
  | none => simp [Bind.bind, h, Ends]
  | some q =>
      obtain ⟨r, s'⟩ := q
      cases r with
      | error e => simp [Bind.bind, h, Ends]
      | ok a => simp [Bind.bind, h, Ends, wp]

@[simp]
lemma wp_map {R : β → σ → Prop} (f : α → β) (p : Program ε σ α) :
    wp (f <$> p) R E s ↔ wp p (fun a => R (f a)) E s := by
  rw [map_eq_pure_bind, wp_bind]
  rfl

@[simp]
lemma wp_tryCatch (p : Program ε σ α) (handler : ε → Program ε σ α) :
    wp (tryCatch p handler) R E s ↔ wp p R (fun e => wp (handler e) R E) s := by
  show Ends R E (tryCatch p handler s) ↔ Ends R (fun e => wp (handler e) R E) (p s)
  cases h : p s with
  | none => simp [tryCatch, tryCatchThe, MonadExceptOf.tryCatch, h, Ends]
  | some q =>
      obtain ⟨r, s'⟩ := q
      cases r with
      | error e => simp [tryCatch, tryCatchThe, MonadExceptOf.tryCatch, h, Ends, wp]
      | ok a => simp [tryCatch, tryCatchThe, MonadExceptOf.tryCatch, h, Ends]

@[simp]
lemma wp_ite (c : Prop) [Decidable c] (p q : Program ε σ α) :
    wp (if c then p else q) R E s ↔ (c → wp p R E s) ∧ (¬ c → wp q R E s) := by
  by_cases h : c
  · simp [h]
  · simp [h]

/-- What holds at the end may be weakened. -/
lemma wp_mono {R' : α → σ → Prop} {E' : ε → σ → Prop} {p : Program ε σ α} (h : wp p R E s)
    (hR : ∀ a s', R a s' → R' a s') (hE : ∀ e s', E e s' → E' e s') : wp p R' E' s := by
  unfold wp at h ⊢
  cases hp : p s with
  | none =>
      rw [hp] at h
      exact h
  | some q =>
      obtain ⟨r, s'⟩ := q
      rw [hp] at h
      cases r with
      | error e => exact hE e s' h
      | ok a => exact hR a s' h

/-- What holds at the end holds of what the program returns. -/
lemma of_eq_ok {p : Program ε σ α} (h : wp p R E s) {a : α} {s' : σ}
    (hp : p s = some (.ok a, s')) : R a s' := by
  rw [wp, hp] at h
  exact h

/-- What is known of the end decides a condition on it. -/
lemma wp_iff {R' : α → σ → Prop} {E' : ε → σ → Prop} {p : Program ε σ α} {c : Prop}
    (h : wp p R E s) (hR : ∀ a s', R a s' → (R' a s' ↔ c))
    (hE : ∀ e s', E e s' → (E' e s' ↔ c)) : wp p R' E' s ↔ c := by
  unfold wp at h ⊢
  cases hp : p s with
  | none =>
      rw [hp] at h
      exact h.elim
  | some q =>
      obtain ⟨r, s'⟩ := q
      rw [hp] at h
      cases r with
      | error e => exact hE e s' h
      | ok a => exact hR a s' h

/-- What a program returns after another one, the second one returns from where the first one has
left the state. -/
lemma bind_eq_ok {p : Program ε σ α} {f : α → Program ε σ β} {b : β} {s' : σ} :
    (p >>= f) s = some (.ok b, s') ↔
      ∃ a s₁, p s = some (.ok a, s₁) ∧ f a s₁ = some (.ok b, s') := by
  show (match p s with
    | none => none
    | some (.error e, s') => some (.error e, s')
    | some (.ok a, s') => f a s') = some (.ok b, s') ↔ _
  rcases p s with - | ⟨e | a, s₁⟩ <;> simp

end Rules

/-! ### Invariants -/

/-- The program does not block, and the invariant holds afterwards, whether it returns or throws. -/
def Maintains (I : σ → Prop) (p : Program ε σ α) : Prop :=
  ∀ s, I s → wp p (fun _ => I) (fun _ => I) s

namespace Maintains

variable {I : σ → Prop} {p q : Program ε σ α}

lemma pure (a : α) : Maintains I (Pure.pure a : Program ε σ α) := fun _ h => h

lemma throw (e : ε) : Maintains I (MonadExceptOf.throw e : Program ε σ α) := fun _ h => h

lemma read (f : σ → α) : Maintains I (Program.read f : Program ε σ α) := fun _ h => h

lemma update {f : σ → σ} (hf : ∀ s, I s → I (f s)) :
    Maintains I (Program.update f : Program ε σ Unit) := hf

lemma bind {f : α → Program ε σ β} (hp : Maintains I p) (hf : ∀ a, Maintains I (f a)) :
    Maintains I (p >>= f) := by
  intro s h
  rw [wp_bind]
  exact wp_mono (hp s h) (fun a s' h' => hf a s' h') fun _ _ h' => h'

lemma ite {c : Prop} [Decidable c] (hp : Maintains I p) (hq : Maintains I q) :
    Maintains I (if c then p else q) := by
  intro s h
  rw [wp_ite]
  exact ⟨fun _ => hp s h, fun _ => hq s h⟩

lemma tryCatch {handler : ε → Program ε σ α} (hp : Maintains I p)
    (hhandler : ∀ e, Maintains I (handler e)) : Maintains I (MonadExcept.tryCatch p handler) := by
  intro s h
  rw [wp_tryCatch]
  exact wp_mono (hp s h) (fun _ _ h' => h') fun e s' h' => hhandler e s' h'

end Maintains

end Program

end Xdpd.Lib
