import BridgeTypings.Error

namespace BridgeTypings

inductive Level where
  | trace
  | debug
  | info
  | warn
deriving DecidableEq, Repr

def Level.name : Level → String
  | .trace => "TRACE"
  | .debug => "DEBUG"
  | .info => "INFO"
  | .warn => "WARN"

def Level.rank : Level → Nat
  | .trace => 0
  | .debug => 1
  | .info => 2
  | .warn => 3

structure Event where
  level : Level
  message : String
  fields : List (String × String)
deriving DecidableEq, Repr

structure Run (α : Type) where
  events : List Event
  result : Except Error α

namespace Run

variable {α β : Type}

def bind (x : Run α) (f : α → Run β) : Run β :=
  match x.result with
  | .error e => ⟨x.events, .error e⟩
  | .ok a =>
      let y := f a
      ⟨x.events ++ y.events, y.result⟩

instance : Monad Run where
  pure := fun a => ⟨[], .ok a⟩
  bind := bind

def ofExcept (x : Except Error α) : Run α :=
  ⟨[], x⟩

def fail (e : Error) : Run α :=
  ⟨[], .error e⟩

def report (level : Level) (message : String) (fields : List (String × String)) : Run Unit :=
  ⟨[⟨level, message, fields⟩], .ok ()⟩

def mapError (f : Error → Error) (x : Run α) : Run α :=
  ⟨x.events, x.result.mapError f⟩

theorem mapError_ok {ε ε' : Type} (f : ε → ε') (a : α) :
    (Except.ok a : Except ε α).mapError f = .ok a :=
  rfl

theorem result_bind (x : Run α) (f : α → Run β) :
    (x >>= f).result = x.result.bind (fun a => (f a).result) := by
  show (bind x f).result = _
  unfold bind
  split <;> simp_all [Except.bind]

end Run

end BridgeTypings
