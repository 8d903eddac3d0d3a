import Mathlib.Logic.Function.Basic

/-! # Stateful computations with exceptions

An `Action` runs on a state and either returns a value or raises an exception; the state
reached is kept in both cases, as it is when an exception unwinds through a program with
mutable objects. The monad and exception instances give the usual notation; the lemmas invert
a sequenced run into the runs of its parts. `Keeps` is the frame rule: an observation of the
state that each part leaves alone is left alone by the whole. `Raises` is the same for exceptions,
and `RaisesFrom` takes a sequence apart at one state.
-/

namespace Machine

theorem map_eq_ok_iff {ε α β : Type} {f : α → β} {result : Except ε α} {b : β} :
    result.map f = .ok b ↔ ∃ a, result = .ok a ∧ f a = b := by
  cases result <;> simp [Except.map]

theorem bind_eq_ok_iff {ε α β : Type} {result : Except ε α} {f : α → Except ε β} {b : β} :
    result >>= f = .ok b ↔ ∃ a, result = .ok a ∧ f a = .ok b := by
  cases result <;> simp [bind, Except.bind]

/-- A pure computation fails with allowed exceptions only. -/
def ErrorsAmong {ε α : Type} (allowed : ε → Prop) (result : Except ε α) : Prop :=
  ∀ e, result = .error e → allowed e

section ErrorsAmong

variable {ε α β : Type} {allowed : ε → Prop}

@[simp] theorem errorsAmong_ok (a : α) : ErrorsAmong allowed (.ok a : Except ε α) := by
  simp [ErrorsAmong]

@[simp] theorem errorsAmong_error_iff {e : ε} :
    ErrorsAmong allowed (.error e : Except ε α) ↔ allowed e := by
  simp [ErrorsAmong]

@[simp] theorem errorsAmong_map_iff {f : α → β} {result : Except ε α} :
    ErrorsAmong allowed (result.map f) ↔ ErrorsAmong allowed result := by
  cases result <;> simp [Except.map]

/-- A sequence fails as its first part does, or as its second part does from there. -/
theorem errorsAmong_bind_iff {result : Except ε α} {f : α → Except ε β} :
    ErrorsAmong allowed (result >>= f) ↔
      ErrorsAmong allowed result ∧ ∀ a, result = .ok a → ErrorsAmong allowed (f a) := by
  cases result with
  | error e => simp [bind, Except.bind]
  | ok a => simp [bind, Except.bind]

theorem ErrorsAmong.mono {other : ε → Prop} {result : Except ε α}
    (errors : ErrorsAmong allowed result) (weaken : ∀ e, allowed e → other e) :
    ErrorsAmong other result := fun e failed => weaken e (errors e failed)

end ErrorsAmong

/-- A computation over a state that may raise an exception, keeping the state reached. -/
def Action (σ ε α : Type) := σ → Except ε α × σ

namespace Action

variable {σ ε α β γ : Type}

def pure (a : α) : Action σ ε α := fun s => (.ok a, s)

def bind (x : Action σ ε α) (f : α → Action σ ε β) : Action σ ε β := fun s =>
  match x s with
  | (.ok a, t) => f a t
  | (.error e, t) => (.error e, t)

def raise (e : ε) : Action σ ε α := fun s => (.error e, s)

/-- Run a handler in the state the exception left behind. -/
def handle (x : Action σ ε α) (f : ε → Action σ ε α) : Action σ ε α := fun s =>
  match x s with
  | (.ok a, t) => (.ok a, t)
  | (.error e, t) => f e t

instance : Monad (Action σ ε) where
  pure := pure
  bind := bind

instance : MonadExceptOf ε (Action σ ε) where
  throw := raise
  tryCatch := handle

instance : MonadStateOf σ (Action σ ε) where
  get := fun s => (.ok s, s)
  set s := fun _ => (.ok (), s)
  modifyGet f := fun s => (.ok (f s).1, (f s).2)

/-- A pure computation that may raise an exception. -/
def ofExcept (result : Except ε α) : Action σ ε α := fun s => (result, s)

/-- Run an action and return how it ended. -/
def attempt (x : Action σ ε α) : Action σ ε (Except ε α) := fun s => (.ok (x s).1, (x s).2)

/-- Run an action on a component of a larger state. -/
def zoom {τ : Type} (get : τ → σ) (set : σ → τ → τ) (x : Action σ ε α) : Action τ ε α := fun t =>
  ((x (get t)).1, set (x (get t)).2 t)

@[simp] theorem pure_apply (a : α) (s : σ) : (Pure.pure a : Action σ ε α) s = (.ok a, s) := rfl

@[simp] theorem throw_apply (e : ε) (s : σ) : (throw e : Action σ ε α) s = (.error e, s) := rfl

@[simp] theorem get_apply (s : σ) : (MonadState.get : Action σ ε σ) s = (.ok s, s) := rfl

@[simp] theorem modify_apply (f : σ → σ) (s : σ) :
    (modify f : Action σ ε PUnit) s = (.ok (), f s) := rfl

@[simp] theorem ofExcept_apply (result : Except ε α) (s : σ) :
    (ofExcept result : Action σ ε α) s = (result, s) := rfl

@[simp] theorem attempt_apply (x : Action σ ε α) (s : σ) :
    (attempt x) s = (.ok (x s).1, (x s).2) := rfl

theorem eq_of_fst {x : Action σ ε α} {s : σ} {result : Except ε α} (first : (x s).1 = result) :
    x s = (result, (x s).2) := by
  rw [← first]

theorem bind_apply (x : Action σ ε α) (f : α → Action σ ε β) (s : σ) :
    (x >>= f) s = match x s with
      | (.ok a, t) => f a t
      | (.error e, t) => (.error e, t) := rfl

theorem bind_apply_ok {x : Action σ ε α} {f : α → Action σ ε β} {s t : σ} {a : α}
    (ran : x s = (.ok a, t)) : (x >>= f) s = f a t := by
  rw [bind_apply, ran]

theorem bind_apply_error {x : Action σ ε α} {f : α → Action σ ε β} {s t : σ} {e : ε}
    (raised : x s = (.error e, t)) : (x >>= f) s = (.error e, t) := by
  rw [bind_apply, raised]

/-- An exception raised at the end does not change the state reached. -/
theorem bind_throw_snd (x : Action σ ε α) (e : ε) (s : σ) :
    ((x >>= fun _ => (throw e : Action σ ε β)) s).2 = (x s).2 := by
  rw [bind_apply]
  rcases x s with ⟨e' | a, t⟩ <;> rfl

/-- A sequence returns exactly when both parts do, the second from the state of the first. -/
theorem bind_ok_iff {x : Action σ ε α} {f : α → Action σ ε β} {s t : σ} {b : β} :
    (x >>= f) s = (.ok b, t) ↔ ∃ a m, x s = (.ok a, m) ∧ f a m = (.ok b, t) := by
  constructor
  · intro success
    rcases ran : x s with ⟨e | a, m⟩
    · rw [bind_apply_error ran] at success
      cases success
    · exact ⟨a, m, rfl, (bind_apply_ok ran).symm.trans success⟩
  · rintro ⟨a, m, ran, rest⟩
    rw [bind_apply_ok ran, rest]

theorem bind_error_iff {x : Action σ ε α} {f : α → Action σ ε β} {s t : σ} {e : ε} :
    (x >>= f) s = (.error e, t) ↔
      x s = (.error e, t) ∨ ∃ a m, x s = (.ok a, m) ∧ f a m = (.error e, t) := by
  constructor
  · intro failure
    rcases ran : x s with ⟨e' | a, m⟩
    · rw [bind_apply_error ran] at failure
      cases failure
      exact .inl rfl
    · exact .inr ⟨a, m, rfl, (bind_apply_ok ran).symm.trans failure⟩
  · rintro (raised | ⟨a, m, ran, rest⟩)
    · exact bind_apply_error raised
    · rw [bind_apply_ok ran, rest]

theorem tryCatch_apply (x : Action σ ε α) (f : ε → Action σ ε α) (s : σ) :
    (tryCatch x f) s = match x s with
      | (.ok a, t) => (.ok a, t)
      | (.error e, t) => f e t := rfl

/-- The action leaves an observation of the state alone, also when it raises. -/
def Keeps (observe : σ → β) (x : Action σ ε α) : Prop := ∀ s, observe (x s).2 = observe s

namespace Keeps

variable {observe : σ → γ}

theorem of_run {x : Action σ ε α} (keeps : Keeps observe x) {s t : σ} {r : Except ε α}
    (ran : x s = (r, t)) : observe t = observe s := by
  have kept := keeps s
  rwa [ran] at kept

theorem pure (a : α) : Keeps observe (Pure.pure a : Action σ ε α) := fun _ => rfl

theorem throw (e : ε) : Keeps observe (MonadExcept.throw e : Action σ ε α) := fun _ => rfl

theorem get : Keeps observe (MonadState.get : Action σ ε σ) := fun _ => rfl

theorem ofExcept (result : Except ε α) : Keeps observe (Action.ofExcept result : Action σ ε α) :=
  fun _ => rfl

theorem modify {f : σ → σ} (same : ∀ s, observe (f s) = observe s) :
    Keeps observe (MonadState.modifyGet fun s => ((), f s) : Action σ ε Unit) := same

theorem bind {x : Action σ ε α} {f : α → Action σ ε β} (left : Keeps observe x)
    (right : ∀ a, Keeps observe (f a)) : Keeps observe (x >>= f) := by
  intro s
  have first := left s
  rcases ran : x s with ⟨e | a, m⟩ <;> rw [ran] at first
  · rw [bind_apply_error ran]
    exact first
  · rw [bind_apply_ok ran]
    exact (right a m).trans first

theorem tryCatch {x : Action σ ε α} {f : ε → Action σ ε α} (body : Keeps observe x)
    (handler : ∀ e, Keeps observe (f e)) : Keeps observe (MonadExcept.tryCatch x f) := by
  intro s
  have first := body s
  rcases ran : x s with ⟨e | a, m⟩ <;> rw [ran] at first <;> rw [tryCatch_apply, ran]
  · exact (handler e m).trans first
  · exact first

theorem attempt {x : Action σ ε α} (keeps : Keeps observe x) : Keeps observe (attempt x) := keeps

theorem ite {p : Prop} [Decidable p] {x y : Action σ ε α} (left : Keeps observe x)
    (right : Keeps observe y) : Keeps observe (if p then x else y) := by
  split
  · exact left
  · exact right

end Keeps

/-- Every exception the action raises is among the allowed ones. -/
def Raises (allowed : ε → Prop) (x : Action σ ε α) : Prop :=
  ∀ s t e, x s = (.error e, t) → allowed e

namespace Raises

variable {allowed : ε → Prop}

theorem pure (a : α) : Raises allowed (Pure.pure a : Action σ ε α) := by
  rintro s t e raised
  cases raised

theorem get : Raises allowed (MonadState.get : Action σ ε σ) := by
  rintro s t e raised
  cases raised

theorem modify (f : σ → σ) : Raises allowed (modify f : Action σ ε PUnit) := by
  rintro s t e raised
  cases raised

theorem modifyGet (f : σ → α × σ) : Raises allowed (MonadState.modifyGet f : Action σ ε α) := by
  rintro s t e raised
  cases raised

theorem throw {e : ε} (permitted : allowed e) :
    Raises allowed (MonadExcept.throw e : Action σ ε α) := by
  rintro s t e' raised
  cases raised
  exact permitted

theorem ofExcept {result : Except ε α} (permitted : ∀ e, result = .error e → allowed e) :
    Raises allowed (Action.ofExcept result : Action σ ε α) :=
  fun _ _ e raised => permitted e (Prod.mk.inj raised).1

theorem bind {x : Action σ ε α} {f : α → Action σ ε β} (left : Raises allowed x)
    (right : ∀ a, Raises allowed (f a)) : Raises allowed (x >>= f) := by
  intro s t e raised
  rcases bind_error_iff.mp raised with first | ⟨a, m, -, second⟩
  · exact left _ _ _ first
  · exact right a _ _ _ second

theorem tryCatch {x : Action σ ε α} {f : ε → Action σ ε α}
    (handler : ∀ e, Raises allowed (f e)) : Raises allowed (MonadExcept.tryCatch x f) := by
  intro s t e raised
  rw [tryCatch_apply] at raised
  rcases ran : x s with ⟨e' | a, m⟩ <;> rw [ran] at raised
  · exact handler e' _ _ _ raised
  · cases raised

theorem ite {p : Prop} [Decidable p] {x y : Action σ ε α} (left : Raises allowed x)
    (right : Raises allowed y) : Raises allowed (if p then x else y) := by
  split
  · exact left
  · exact right

end Raises

/-- Every exception the action raises from one state is among the allowed ones. -/
def RaisesFrom (allowed : ε → Prop) (x : Action σ ε α) (s : σ) : Prop :=
  ∀ t e, x s = (.error e, t) → allowed e

section RaisesFrom

variable {allowed : ε → Prop}

theorem RaisesFrom.of_fst {x : Action σ ε α} {s : σ} (raises : RaisesFrom allowed x s) {e : ε}
    (raised : (x s).1 = .error e) : allowed e := raises (x s).2 e (eq_of_fst raised)

@[simp] theorem raisesFrom_pure (a : α) (s : σ) :
    RaisesFrom allowed (Pure.pure a : Action σ ε α) s := Raises.pure a s

@[simp] theorem raisesFrom_throw_iff {e : ε} {s : σ} :
    RaisesFrom allowed (throw e : Action σ ε α) s ↔ allowed e := by
  simp [RaisesFrom]

@[simp] theorem raisesFrom_ofExcept_iff {result : Except ε α} {s : σ} :
    RaisesFrom allowed (ofExcept result) s ↔ ∀ e, result = .error e → allowed e := by
  constructor
  · exact fun raises e raised => raises s e (by rw [ofExcept_apply, raised])
  · exact fun permitted => Raises.ofExcept permitted s

/-- A sequence raises what its first part does, and what its second part does from there. -/
theorem raisesFrom_bind_iff {x : Action σ ε α} {f : α → Action σ ε β} {s : σ} :
    RaisesFrom allowed (x >>= f) s ↔
      RaisesFrom allowed x s ∧ ∀ a t, x s = (.ok a, t) → RaisesFrom allowed (f a) t := by
  constructor
  · intro raises
    constructor
    · exact fun t e raised => raises t e (bind_apply_error raised)
    · exact fun a t ran u e raised => raises u e ((bind_apply_ok ran).trans raised)
  · rintro ⟨first, second⟩ t e raised
    rcases bind_error_iff.mp raised with early | ⟨a, m, ran, late⟩
    · exact first t e early
    · exact second a m ran t e late

@[simp] theorem raisesFrom_get_bind_iff {f : σ → Action σ ε β} {s : σ} :
    RaisesFrom allowed (MonadState.get >>= f) s ↔ RaisesFrom allowed (f s) s := Iff.rfl

@[simp] theorem raisesFrom_modifyGet_bind_iff {g : σ → α × σ} {f : α → Action σ ε β} {s : σ} :
    RaisesFrom allowed (MonadState.modifyGet g >>= f) s ↔ RaisesFrom allowed (f (g s).1) (g s).2 :=
  Iff.rfl

@[simp] theorem raisesFrom_modify_bind_iff {g : σ → σ} {f : PUnit → Action σ ε β} {s : σ} :
    RaisesFrom allowed (modify g >>= f) s ↔ RaisesFrom allowed (f ()) (g s) := Iff.rfl

@[simp] theorem raisesFrom_attempt_bind_iff {x : Action σ ε α} {f : Except ε α → Action σ ε β}
    {s : σ} :
    RaisesFrom allowed (attempt x >>= f) s ↔ RaisesFrom allowed (f (x s).1) (x s).2 := Iff.rfl

end RaisesFrom

end Action

end Machine
