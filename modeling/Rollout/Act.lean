import Rollout.Message

/-!
Acts: computations that leave a trace.

An act starts from a state. It ends with an answer or a fault, and either way it leaves the events
that happened, in order, and the state after them; so what was done before a fault stays done.
-/

set_option autoImplicit false
set_option relaxedAutoImplicit false

namespace Rollout

def rootLogger : String := "root"

structure Record where
  logger : String
  message : Message
  deriving DecidableEq, Repr

/-- The record of a message; a logger without a name is the one above all others. -/
def Record.of (logger : String) (message : Message) : Record :=
  ⟨if logger.isEmpty then rootLogger else logger, message⟩

inductive Event
  | call (call : Call)
  | log (record : Record)
  | out (text : String)
  | err (text : String)
  deriving DecidableEq, Repr

/-- What an act leaves: its answer, its events and the state after it. -/
structure Ran (σ α : Type) where
  answer : Except Fault α
  events : List Event
  state : σ

def Act (σ α : Type) : Type := σ → Ran σ α

namespace Act

variable {σ τ α β : Type}

def run (act : Act σ α) (s : σ) : Ran σ α := act s

protected def pure (a : α) : Act σ α := fun s => ⟨.ok a, [], s⟩

/-- One act, then the one that its answer chooses; a fault ends both. -/
protected def bind (act : Act σ α) (next : α → Act σ β) : Act σ β := fun s =>
  match act s with
  | ⟨.ok a, events, s'⟩ =>
    let ran := next a s'
    ⟨ran.answer, events ++ ran.events, ran.state⟩
  | ⟨.error fault, events, s'⟩ => ⟨.error fault, events, s'⟩

instance : Monad (Act σ) where
  pure := Act.pure
  bind := Act.bind

def fail (fault : Fault) : Act σ α := fun s => ⟨.error fault, [], s⟩

def ofExcept (answer : Except Fault α) : Act σ α := fun s => ⟨answer, [], s⟩

def emit (event : Event) : Act σ Unit := fun s => ⟨.ok (), [event], s⟩

def attempt (act : Act σ α) : Act σ (Except Fault α) := fun s =>
  let ran := act s
  ⟨.ok ran.answer, ran.events, ran.state⟩

def get : Act σ σ := fun s => ⟨.ok s, [], s⟩

def modify (f : σ → σ) : Act σ Unit := fun s => ⟨.ok (), [], f s⟩

def focus (view : τ → σ) (set : σ → τ → τ) (act : Act σ α) : Act τ α := fun t =>
  let ran := act (view t)
  ⟨ran.answer, ran.events, set ran.state t⟩

def log (logger : String) (message : Message) : Act σ Unit := emit (.log (.of logger message))

def printLine (text : String) : Act σ Unit := emit (.out (text ++ "\n"))

def complain (text : String) : Act σ Unit := emit (.err (text ++ "\n"))

theorem pure_apply (a : α) (s : σ) : (pure a : Act σ α) s = ⟨.ok a, [], s⟩ := rfl

theorem bind_apply (act : Act σ α) (next : α → Act σ β) (s : σ) :
    (act >>= next) s =
      match act s with
      | ⟨.ok a, events, s'⟩ =>
        let ran := next a s'
        ⟨ran.answer, events ++ ran.events, ran.state⟩
      | ⟨.error fault, events, s'⟩ => ⟨.error fault, events, s'⟩ := rfl

end Act

/-- What the running of one command leaves: its result or a fault, log records, and the world after
it. -/
structure Launch (σ : Type) where
  answer : Except Fault Result
  records : List Record
  world : σ

structure Host (σ : Type) where
  launch : Call → σ → Launch σ
  tick : σ → Number.Binary64 × σ

namespace Host

variable {σ : Type}

/-- Run a command; that it was run is the first event. -/
def perform (host : Host σ) (call : Call) : Act σ Result := fun s =>
  let launch := host.launch call s
  ⟨launch.answer, .call call :: launch.records.map .log, launch.world⟩

def clock (host : Host σ) : Act σ Number.Binary64 := fun s =>
  let (now, s') := host.tick s
  ⟨.ok now, [], s'⟩

end Host

end Rollout
