namespace ScenarioCompiler

/-- A computation that keeps a log and may fail; what was logged before a failure is kept. -/
structure Traced (ω ε α : Type) where
  log : List ω
  outcome : Except ε α

namespace Traced

variable {ω ε α β : Type}

def pure (x : α) : Traced ω ε α := ⟨[], .ok x⟩

def bind (x : Traced ω ε α) (f : α → Traced ω ε β) : Traced ω ε β :=
  match x.outcome with
  | .ok a => ⟨x.log ++ (f a).log, (f a).outcome⟩
  | .error e => ⟨x.log, .error e⟩

instance : Monad (Traced ω ε) where
  pure := Traced.pure
  bind := Traced.bind

/-- A computation that logs nothing. -/
def ofExcept (x : Except ε α) : Traced ω ε α := ⟨[], x⟩

instance : MonadLift (Except ε) (Traced ω ε) where
  monadLift := ofExcept

def fail (e : ε) : Traced ω ε α := ⟨[], .error e⟩

def record (entry : ω) : Traced ω ε Unit := ⟨[entry], .ok ()⟩

theorem id_map (x : Traced ω ε α) : id <$> x = x := by
  rcases x with ⟨log, _ | _⟩ <;> simp [Functor.map, Traced.bind, Traced.pure]

theorem pure_bind (x : α) (f : α → Traced ω ε β) : Pure.pure x >>= f = f x := by
  simp [Pure.pure, Bind.bind, Traced.bind, Traced.pure]

theorem bind_assoc {γ : Type} (x : Traced ω ε α) (f : α → Traced ω ε β) (g : β → Traced ω ε γ) :
    x >>= f >>= g = x >>= fun a => f a >>= g := by
  rcases x with ⟨log, _ | a⟩
  · simp [Bind.bind, Traced.bind]
  · rcases h : f a with ⟨log', _ | b⟩ <;> simp [Bind.bind, Traced.bind, h]

instance : LawfulMonad (Traced ω ε) := LawfulMonad.mk' _ id_map pure_bind bind_assoc

end Traced

end ScenarioCompiler
