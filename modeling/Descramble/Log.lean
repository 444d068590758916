import Descramble.Text.Basic

namespace Descramble

inductive Level
  | error
  | warn
  | info
  | debug
  | trace
  deriving DecidableEq

namespace Level

def name : Level → Text
  | error => "error".toList
  | warn => "warn".toList
  | info => "info".toList
  | debug => "debug".toList
  | trace => "trace".toList

def rank : Level → Nat
  | error => 1
  | warn => 2
  | info => 3
  | debug => 4
  | trace => 5

/-- A level is named by its word, in capitals or not, or by its rank. -/
def ofName? (s : Text) : Option Level :=
  [error, warn, info, debug, trace].find? fun l =>
    l.name == s.map Char.toLower || Text.decimal l.rank == s

end Level

structure Record where
  level : Level
  message : Text
  deriving DecidableEq

abbrev Filter := Record → Bool

def Filter.ofLevel (level : Level) : Filter := fun r => r.level.rank ≤ level.rank

/-- A filter without a name lets errors pass, and one that names no level lets nothing pass. -/
def Filter.ofName (s : Text) : Filter :=
  if s.isEmpty then .ofLevel .error else fun r => (Level.ofName? s).any (Filter.ofLevel · r)

section

variable {ε ε' α : Type}

@[simp] theorem mapError_ok (f : ε → ε') (a : α) : (.ok a : Except ε α).mapError f = .ok a := rfl

@[simp] theorem mapError_error (f : ε → ε') (e : ε) :
    (.error e : Except ε α).mapError f = .error (f e) := rfl

theorem mapError_eq_ok {f : ε → ε'} {x : Except ε α} {a : α} :
    x.mapError f = .ok a ↔ x = .ok a := by
  cases x <;> simp

theorem mapError_eq_error {f : ε → ε'} {x : Except ε α} {e' : ε'} :
    x.mapError f = .error e' ↔ ∃ e, x = .error e ∧ f e = e' := by
  cases x <;> simp

/-- A success is recognised without a look at faults. -/
theorem eq_ok_of_toOption {x : Except ε α} {a : α} (h : x.toOption = some a) : x = .ok a := by
  cases x with
  | error fault => cases h
  | ok b => exact congrArg Except.ok (Option.some.inj h)

end

/-- Work that may fail, and its messages until then. -/
structure Logged (ε α : Type) where
  log : List Record
  result : Except ε α

namespace Logged

variable {ε ε' α β : Type}

def tell (level : Level) (message : Text) : Logged ε Unit := ⟨[⟨level, message⟩], .ok ()⟩

def ofExcept (x : Except ε α) : Logged ε α := ⟨[], x⟩

def mapError (f : ε → ε') (x : Logged ε α) : Logged ε' α := ⟨x.log, x.result.mapError f⟩

/-- What follows a failure is not done. -/
def andThen (x : Logged ε α) (f : α → Logged ε β) : Logged ε β :=
  match x.result with
  | .ok a => ⟨x.log ++ (f a).log, (f a).result⟩
  | .error e => ⟨x.log, .error e⟩

instance : Monad (Logged ε) where
  pure a := ofExcept (.ok a)
  bind := andThen

instance : MonadLift (Except ε) (Logged ε) := ⟨ofExcept⟩

@[simp] theorem result_pure (a : α) : (pure a : Logged ε α).result = pure a := rfl

@[simp] theorem result_tell (level : Level) (message : Text) :
    (tell level message : Logged ε Unit).result = pure () := rfl

@[simp] theorem result_liftM (x : Except ε α) : (liftM x : Logged ε α).result = x := rfl

@[simp] theorem result_mapError (f : ε → ε') (x : Logged ε α) :
    (x.mapError f).result = x.result.mapError f := rfl

@[simp] theorem result_ofExcept (x : Except ε α) : (ofExcept x).result = x := rfl

theorem pure_eq_ok {a b : α} : (pure a : Except ε α) = .ok b ↔ a = b := by
  simp [pure, Except.pure]

@[simp] theorem log_pure (a : α) : (pure a : Logged ε α).log = [] := rfl

/-- Without its log, work in several parts is what the parts are without theirs. -/
@[simp] theorem result_bind (x : Logged ε α) (f : α → Logged ε β) :
    (x >>= f).result = x.result >>= fun a => (f a).result := by
  cases h : x.result <;> simp [bind, andThen, Except.bind, h]

theorem result_bind_eq_ok {x : Logged ε α} {f : α → Logged ε β} {b : β} :
    (x >>= f).result = .ok b ↔ ∃ a, x.result = .ok a ∧ (f a).result = .ok b := by
  rw [result_bind]
  cases x.result <;> simp [bind, Except.bind]

theorem result_bind_eq_error {x : Logged ε α} {f : α → Logged ε β} {e : ε} :
    (x >>= f).result = .error e ↔
      x.result = .error e ∨ ∃ a, x.result = .ok a ∧ (f a).result = .error e := by
  rw [result_bind]
  cases x.result <;> simp [bind, Except.bind]

end Logged
end Descramble
