/-!
Signals, by number and by name.
-/

set_option autoImplicit false
set_option relaxedAutoImplicit false

namespace Rollout.Machine

/-- The names of the signals, the first has the number one. Some have only their number. -/
def signalNames : List String := [
    "HUP", "INT", "QUIT", "ILL", "TRAP", "ABRT", "BUS", "FPE", "KILL", "USR1", "SEGV", "USR2",
    "PIPE", "ALRM", "TERM", "16", "CHLD", "CONT", "STOP", "TSTP", "TTIN", "TTOU", "URG",
    "XCPU", "XFSZ", "VTALRM", "PROF", "WINCH", "IO", "PWR", "SYS", "32", "33", "RTMIN"] ++
  (List.range 15).map (fun k => s!"RTMIN+{k + 1}") ++
  (List.range 14).map (fun k => s!"RTMAX-{14 - k}") ++ ["RTMAX"]

def maxSignal : Nat := 64

def killSignal : Nat := 9

def endSignal : Nat := 15

def pipeSignal : Nat := 13

def idleSignals : List Nat := [17, 18, 23, 28]

def haltSignals : List Nat := [19, 20, 21, 22]

def signal? (name : String) : Option Nat :=
  match name.toNat? with
  | some n => if n ≤ maxSignal && name.all Char.isDigit then some n else none
  | none =>
    let upper := name.toUpper
    let upper := if upper.startsWith "SIG" then (upper.drop 3).toString else upper
    (signalNames.findIdx? (· == upper)).map (· + 1)

/-- What is said of a process that a signal ended, where anything is said. -/
def signalWords? (signal : Nat) : Option String :=
  let words : List (Nat × String) := [
    (1, "Hangup"), (3, "Quit"), (4, "Illegal instruction"), (5, "Trace/breakpoint trap"),
    (6, "Aborted"), (7, "Bus error"), (8, "Floating point exception"), (9, "Killed"),
    (10, "User defined signal 1"), (11, "Segmentation fault"), (12, "User defined signal 2"),
    (14, "Alarm clock"), (15, "Terminated"), (16, "Stack fault"), (24, "CPU time limit exceeded"),
    (25, "File size limit exceeded"), (26, "Virtual timer expired"),
    (27, "Profiling timer expired"),
    (29, "I/O possible"), (30, "Power failure"), (31, "Bad system call")]
  (words.find? (·.1 = signal)).map (·.2)

example : signal? "SIGTERM" = some 15 ∧ signal? "kill" = some 9 ∧ signal? "11" = some 11 := by
  cbv

end Rollout.Machine
