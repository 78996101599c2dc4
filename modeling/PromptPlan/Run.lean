import PromptPlan.Error
import PromptPlan.Variables

/-!
# Runs

A run takes the limits it is under and the world as it finds it, and returns how it ended and
the world as it leaves it, so the effects of a function that fails afterwards are not undone.
Part of the world belongs to the host and is opaque here; the rest is the time, the
cancellation flag, and the turn a run takes with whatever else the host does.
-/

namespace PromptPlan

/-- How many waits can end in one turn. -/
def turnRoom : Nat := 128

/-- What a run finds and leaves: the host's own state, the time in seconds, whether
cancellation has been asked for, the number of the turn, and the room left in it. -/
structure World (σ : Type) where
  host : σ
  now : Nat
  cancelled : Bool
  turn : Nat
  room : Nat

namespace World

variable {σ : Type}

def start (host : σ) : World σ := ⟨host, 0, false, 0, turnRoom⟩

def nextTurn (w : World σ) : World σ := { w with turn := w.turn + 1, room := turnRoom }

/-- The world after a wait that ended in this turn. -/
def take (w : World σ) : World σ := { w with room := w.room - 1 }

def wake (w : World σ) (now : Nat) : World σ := { w.nextTurn.take with now := now }

end World

/-- A limit on time: the number of seconds it was given as, the time at which it runs out,
and the turn from which on it is looked at. -/
structure TimeLimit where
  seconds : Nat
  deadline : Nat
  seenFrom : Nat
deriving DecidableEq, Repr

/-- Thirty years. -/
def farFuture : Nat := 946080000

/-- A limit of a number of seconds that is set now. -/
def TimeLimit.set {σ : Type} (w : World σ) (seconds : Nat) : TimeLimit where
  seconds := seconds
  -- A clock of 63 bits does not reach the end of a longer limit.
  deadline := w.now + if w.now + seconds < Nat.pow 2 63 - 1 then seconds else farFuture
  -- Without room the clock is not asked again before the next turn.
  seenFrom := if w.room = 0 then w.turn + 1 else w.turn

def TimeLimit.hasPassed {σ : Type} (limit : TimeLimit) (w : World σ) : Bool :=
  limit.deadline ≤ w.now && limit.seenFrom ≤ w.turn

/-- The limits a run is under: those on time, the innermost first, and whether anyone above it
watches the cancellation flag. -/
structure Limits where
  times : List TimeLimit
  watched : Bool

namespace Limits

def none : Limits := ⟨[], false⟩

def within (limits : Limits) (limit : Option TimeLimit) : Limits :=
  { limits with times := limit.toList ++ limits.times }

def watching (limits : Limits) (cancellable : Bool) : Limits :=
  { limits with watched := limits.watched || cancellable }

def deadline? (limits : Limits) : Option Nat := (limits.times.map TimeLimit.deadline).min?

/-- The world in which a run is interrupted if it suspends itself now, if it is. -/
def interrupt? {σ : Type} (limits : Limits) (w : World σ) : Option (World σ) :=
  if limits.times.any (·.hasPassed w) then some w.take
  else if limits.watched && w.cancelled then some w
  else .none

@[simp] theorem within_none (limits : Limits) : limits.within .none = limits := rfl

@[simp] theorem watching_false (limits : Limits) : limits.watching false = limits := by
  simp [watching]

end Limits

/-- How a run ends. A run is stuck when it waits for something that never comes, or calls
functions within functions without end. -/
inductive Exit (α : Type) where
  | done (value : α)
  | failed (error : Error)
  | interrupted
  | stuck
deriving DecidableEq, Repr

namespace Exit

variable {α β : Type}

def map (f : α → β) : Exit α → Exit β
  | done a => done (f a)
  | failed e => failed e
  | interrupted => interrupted
  | stuck => stuck

def mapError (f : Error → Error) : Exit α → Exit α
  | failed e => failed (f e)
  | x => x

end Exit

/-- A computation with effects on a world whose host state is `σ`. -/
def Run (σ α : Type) : Type := Limits → World σ → Exit α × World σ

namespace Run

variable {σ α β : Type}

def pure (a : α) : Run σ α := fun _ w => (.done a, w)

def fail (e : Error) : Run σ α := fun _ w => (.failed e, w)

def stuck : Run σ α := fun _ w => (.stuck, w)

def bind (x : Run σ α) (f : α → Run σ β) : Run σ β := fun limits w =>
  match x limits w with
  | (.done a, w) => f a limits w
  | (.failed e, w) => (.failed e, w)
  | (.interrupted, w) => (.interrupted, w)
  | (.stuck, w) => (.stuck, w)

instance : Monad (Run σ) where
  pure := Run.pure
  bind := Run.bind

def host (f : σ → α × σ) : Run σ α := fun _ w =>
  let (a, s) := f w.host
  (.done a, { w with host := s })

def cancel : Run σ Unit := fun _ w => (.done (), { w with cancelled := true })

def mapError (f : Error → Error) (x : Run σ α) : Run σ α := fun limits w =>
  let (exit, w) := x limits w
  (exit.mapError f, w)

/-! ### Waiting

A run can be interrupted where it suspends itself, and at no other point. -/

/-- Makes sure that the turn has room, by going on in a new one if it has none left. -/
def makeRoom : Run σ Unit := fun limits w =>
  if w.room ≠ 0 then (.done (), w)
  else
    match limits.interrupt? w with
    | some w => (.interrupted, w)
    | none => (.done (), w.nextTurn)

/-- Suspends until the time `wake`, or without end. -/
def suspend (wake : Option Nat) : Run σ Unit := fun limits w =>
  match limits.interrupt? w with
  | some w => (.interrupted, w)
  | none =>
    match limits.deadline?, wake with
    | some deadline, some wake =>
      -- Who is to wake exactly at the deadline wakes.
      if wake ≤ deadline then (.done (), w.wake wake) else (.interrupted, w.wake deadline)
    | some deadline, none => (.interrupted, w.wake deadline)
    | none, some wake => (.done (), w.wake wake)
    | none, none => (.stuck, w)

/-- Waits for a number of seconds, and for thirty years at most. -/
def sleep (seconds : Nat) : Run σ Unit := do
  makeRoom
  fun limits w =>
    if seconds = 0 then (.done (), w.take)
    else suspend (some (w.now + min seconds farFuture)) limits w

def stall : Run σ Unit := do
  makeRoom
  suspend none

/-! ### How runs are put together -/

@[simp] theorem fail_apply (e : Error) (limits : Limits) (w : World σ) :
    (fail e : Run σ α) limits w = (.failed e, w) := rfl

@[simp] theorem mapError_apply (g : Error → Error) (x : Run σ α) (limits : Limits)
    (w : World σ) :
    mapError g x limits w = ((x limits w).1.mapError g, (x limits w).2) := rfl

theorem bind_of_done {x : Run σ α} {f : α → Run σ β} {limits : Limits} {w w' : World σ} {a : α}
    (h : x limits w = (.done a, w')) : (x >>= f) limits w = f a limits w' := by
  simp [Bind.bind, bind, h]

theorem bind_of_failed {x : Run σ α} {f : α → Run σ β} {limits : Limits} {w w' : World σ}
    {e : Error} (h : x limits w = (.failed e, w')) : (x >>= f) limits w = (.failed e, w') := by
  simp [Bind.bind, bind, h]

theorem bind_of_interrupted {x : Run σ α} {f : α → Run σ β} {limits : Limits} {w w' : World σ}
    (h : x limits w = (.interrupted, w')) : (x >>= f) limits w = (.interrupted, w') := by
  simp [Bind.bind, bind, h]

theorem bind_of_stuck {x : Run σ α} {f : α → Run σ β} {limits : Limits} {w w' : World σ}
    (h : x limits w = (.stuck, w')) : (x >>= f) limits w = (.stuck, w') := by
  simp [Bind.bind, bind, h]

theorem bind_pure_eq (x : Run σ α) : x.bind Run.pure = x := by
  funext limits w
  rcases h : x limits w with ⟨exit, w'⟩
  cases exit <;> simp [bind, Run.pure, h]

theorem bind_bind_eq {γ : Type} (x : Run σ α) (f : α → Run σ β) (g : β → Run σ γ) :
    (x.bind f).bind g = x.bind fun a => (f a).bind g := by
  funext limits w
  rcases h : x limits w with ⟨exit, w'⟩
  cases exit <;> simp [bind, h]

instance : LawfulMonad (Run σ) :=
  LawfulMonad.mk' (Run σ) bind_pure_eq (fun _ _ => rfl) bind_bind_eq

end Run

/-! ### Time limits -/

/-- The end of what ran inside a time limit, seen from outside: an interruption once the
limit has run out is a timeout. -/
def Exit.expire {σ α : Type} (limit : Option TimeLimit) (w : World σ) : Exit α → Exit α
  | .interrupted =>
    -- An interruption that is not ours goes on to the layer whose limit it was.
    match limit with
    | some limit => if limit.hasPassed w then .failed (.timeout limit.seconds) else .interrupted
    | none => .interrupted
  | exit => exit

@[simp] theorem Exit.expire_none {σ α : Type} (w : World σ) (exit : Exit α) :
    exit.expire none w = exit := by
  cases exit <;> rfl

/-! ### Calls -/

structure Callee (σ : Type) where
  qualifiedName : String
  call : Variables → Run σ Variables

/-- What a template or a plan can call, by skill and name; no skill means the global
functions. -/
abbrev Scope (σ : Type) : Type := Option String → String → Option (Callee σ)

def Callee.invoke {σ : Type} (f : Callee σ) (vars : Variables) : Run σ Variables :=
  (f.call vars).mapError (·.inFunction f.qualifiedName)

end PromptPlan
