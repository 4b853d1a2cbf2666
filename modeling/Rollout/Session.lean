import Rollout.Sequence

/-!
Sessions: one context, one catalogue of stages and one sequencer through a row of operations.

Every operation answers or fails, and a failed operation does not end the session; what it changed
before it failed stays changed.
-/

set_option autoImplicit false
set_option relaxedAutoImplicit false

namespace Rollout

structure Session (σ : Type) where
  catalogue : Catalogue σ
  bench : Bench σ

/-- What can be done in a session. -/
inductive Operation (σ : Type)
  | run
  | runFresh
  | renewSequencer
  | runStage (name : String)
  | resolve (names : List String)
  | find (name : String)
  | contains (name : String)
  | names
  | missing (names : List String)
  | describe
  | register (name : String) (stage : Stage σ)
  | setOutcome (name : String) (outcome : Outcome)
  | dropOutcome (name : String)
  | setTimeout (timeout : Option Number.Binary64)
  | setPlan (plan : Plan)

inductive Reply
  | done
  | report (report : Report)
  | outcome (outcome : Option Outcome)
  | truth (b : Bool)
  | texts (texts : List String)
  | stage (name description logger : String)
  deriving DecidableEq, Repr

namespace Session

variable {σ α : Type}

def atBench (act : Act (Bench σ) α) : Act (Session σ) α :=
  Act.focus (·.bench) (fun bench session => { session with bench := bench }) act

def atDesk (act : Act (Desk σ) α) : Act (Session σ) α := atBench (Bench.atDesk act)

def alter (f : Context → Context) : Act (Session σ) Reply := do
  atDesk (Act.modify fun desk => { desk with context := f desk.context })
  pure .done

def perform (host : Host σ) : Operation σ → Act (Session σ) Reply
  | .run => do
    let session ← Act.get
    return .report (← atBench (Bench.run host session.catalogue))
  | .runFresh => return .report (← atDesk (Desk.runSequence host))
  | .renewSequencer => do
    atBench (Act.modify fun bench => { bench with sequencer := .fresh })
    return .done
  | .runStage name => do
    let session ← Act.get
    return .outcome (← atDesk (Desk.runStage host session.catalogue name))
  | .resolve names => do
    let session ← Act.get
    return .texts (← Act.ofExcept (session.catalogue.resolve names))
  | .find name => do
    let session ← Act.get
    let stage ← Act.ofExcept (session.catalogue.find name)
    return .stage name stage.description stage.logger
  | .contains name => return .truth ((← Act.get).catalogue.has name)
  | .names => return .texts (← Act.get).catalogue.names
  | .missing names => return .texts ((← Act.get).catalogue.missing names)
  | .describe => return .texts (← Act.get).catalogue.describe
  | .register name stage => do
    let session ← Act.get
    let catalogue ← Act.ofExcept (session.catalogue.register name stage)
    Act.modify fun session => { session with catalogue := catalogue }
    return .done
  | .setOutcome name outcome => alter (·.record name outcome)
  | .dropOutcome name =>
    alter fun context => { context with outcomes := context.outcomes.erase name }
  | .setTimeout timeout => alter fun context =>
    { context with settings := { context.settings with timeout := timeout } }
  | .setPlan plan => alter fun context => { context with plan := plan }

end Session

end Rollout
