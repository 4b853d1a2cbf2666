import Rollout.Log.Handler

/-!
Where log records go.

Loggers have dotted names and stand below the loggers whose names start theirs, at last below the
root. A logger without a weight of its own has that of the nearest logger above it. A record that
its logger lets pass goes to the handlers of the logger and of those above it. Where there is no
handler at all, heavy records are shown by their message.
-/

set_option autoImplicit false
set_option relaxedAutoImplicit false

namespace Rollout.Log

/-- A logger. A weight of zero is that of the logger above; handlers are given by their numbers. -/
structure Logger where
  weight : Int
  handlers : List Nat
  filters : List Filter
  passesUp : Bool
  silent : Bool
  deriving DecidableEq, Repr

def Logger.fresh : Logger := ⟨0, [], [], true, false⟩

def Logger.addHandler (logger : Logger) (number : Nat) : Logger :=
  if logger.handlers.contains number then logger
  else { logger with handlers := logger.handlers ++ [number] }

/-- The loggers, which are the root and those with names, and all handlers. -/
structure Console where
  root : Logger
  loggers : Entries Logger
  handlers : List Handler

namespace Console

/-- The weight below which the root lets nothing pass at first. -/
def usualWeight : Int := 30

def programLoggers : List String := [
  "sequencer.cli", "sequencer.core.runner", "sequencer.deploy", "sequencer.process",
  "sequencer.sequence", "sequencer.verify"]

def start : Console where
  root := { Logger.fresh with weight := usualWeight }
  loggers := programLoggers.map fun name => (name, .fresh)
  handlers := []

/-- Add a handler; its number is told. -/
def add (console : Console) (handler : Handler) : Nat × Console :=
  (console.handlers.length, { console with handlers := console.handlers ++ [handler] })

def alterHandler (console : Console) (number : Nat) (f : Handler → Handler) : Console :=
  { console with handlers := console.handlers.modify number f }

/-- The loggers above a name, the nearest first, without the root. -/
def above (console : Console) (name : String) : List Logger :=
  let higher := console.loggers.filter fun entry => entry.1 != name && isBelow name entry.1
  (higher.mergeSort fun a b => a.1.length ≥ b.1.length).map (·.2)

def logger (console : Console) (name : String) : Logger :=
  (console.loggers.get? name).getD .fresh

/-- Change a logger, the root where no name is given; a logger that is not there is made first. -/
def alter (console : Console) (name : Option String) (f : Logger → Logger) : Console :=
  match name with
  | none => { console with root := f console.root }
  | some name => { console with loggers := console.loggers.put name (f (console.logger name)) }

/-- Settle the loggers that new settings do not name: those below a named one start afresh, all
others are silenced or not. -/
def settleOthers (console : Console) (named : List String) (silence : Bool) : Console :=
  { console with
    loggers := console.loggers.map fun (name, logger) =>
      if named.contains name then (name, logger)
      else if named.any (isBelow name ·) then
        (name, { logger with weight := 0, handlers := [], passesUp := true })
      else (name, { logger with silent := silence }) }

def chain (console : Console) (name : String) : List Logger :=
  console.logger name :: console.above name ++ [console.root]

def weightOf (chain : List Logger) : Int :=
  ((chain.find? (·.weight != 0)).map (·.weight)).getD 0

def handlersOf : List Logger → List Nat
  | [] => []
  | logger :: rest => logger.handlers ++ if logger.passesUp then handlersOf rest else []

def usualLayout : Layout :=
  ⟨.percent, some "%(asctime)s - %(name)s - %(levelname)s - %(message)s", []⟩

/-- Set up the root where it has no handler: one handler with the usual layout, and a weight. -/
def basic (console : Console) (level : String) : Except Rollout.Fault Console :=
  if console.root.handlers.isEmpty then
    match weight? level with
    | none => .error (.unknownLevel level)
    | some weight =>
      let handler := { Handler.plain (.write .err) with layout := usualLayout }
      let (number, console) := console.add handler
      .ok { console with root := { console.root with weight := weight, handlers := [number] } }
  else .ok console

end Console

/-! ### Records on their way -/

/-- What records have left: the loggers after them, and what was written where. -/
structure Trail where
  console : Console
  pieces : List (Sink × String)

abbrev Passage := ExceptT Rollout.Fault (StateM Trail)

namespace Passage

def ofMisuse {α : Type} (answer : Except Misuse α) : Passage α :=
  match answer with
  | .ok a => pure a
  | .error misuse => throw (.setup (.misuse misuse))

def write (handler : Handler) (wording : Wording) (sink : Sink) (record : Record) : Passage Unit :=
  match handler.written? wording record with
  | none => pure ()
  | some text => modify fun trail => { trail with pieces := trail.pieces ++ [(sink, text)] }

def hold (number : Nat) (store : Store) (records : List Record) : Passage Unit :=
  modify fun trail => { trail with
    console := trail.console.alterHandler number
      ({ · with work := .hold { store with held := records } }) }

/-- Whether a store has enough with a record that is its last. -/
def isFull (store : Store) (record : Record) : Except Misuse Bool := do
  if ← Thing.isAtLeast (.whole store.held.length) store.capacity then return true
  match store.weight? with
  | none => return false
  | some weight => Thing.isAtLeast (.whole record.message.level.weight) weight

/-- A handler takes a record. `depth` bounds how often it is handed on. -/
def handle (wording : Wording) : Nat → Nat → Record → Passage Unit
  | 0, _, _ => throw (.setup .endless)
  | depth + 1, number, record => do
    let some handler := (← get).console.handlers[number]? | return ()
    if !(← ofMisuse (passesAll handler.filters record)) then return ()
    match handler.work with
    | .pass => return ()
    | .write sink => write handler wording sink record
    | .bare => throw (.setup .bareHandler)
    | .blocked fault => throw fault
    | .foreign kind => throw (.setup (.noPart s!"'{kind}' object" "handle"))
    | .hold store =>
      let store := { store with held := store.held ++ [record] }
      hold number store store.held
      if ← ofMisuse (isFull store record) then
        match store.target with
        | .nowhere => if store.weight?.isNone then hold number store []
        | .unusable kind => throw (.setup (.noPart s!"'{kind}' object" "handle"))
        | .handler target =>
          for held in store.held do
            handle wording depth target held
          hold number store []

def depthFor (console : Console) : Nat := console.handlers.length + 1

def emit (wording : Wording) (record : Record) : Passage Unit := do
  let console := (← get).console
  let chain := console.chain record.logger
  let own := console.logger record.logger
  let level := record.message.level.weight
  if own.silent || level < Console.weightOf chain then return ()
  if !(← ofMisuse (passesAll own.filters record)) then return ()
  match Console.handlersOf chain with
  | [] =>
    if Console.usualWeight ≤ level then write (Handler.plain .pass) wording .err record
  | numbers =>
    for number in numbers do
      let some handler := console.handlers[number]? | continue
      if let .foreign kind := handler.work then
        throw (.setup (.noPart s!"'{kind}' object" "level"))
      if ← ofMisuse (Thing.isAtLeast (.whole level) handler.weight) then
        handle wording (depthFor console) number record

end Passage

end Rollout.Log
