import Rollout.Act
import Rollout.Context

/-!
Catalogues of stages.

A catalogue holds stages under unique names in the order of their registration. A request for stages
is resolved against it: every name must be there, and repeats are dropped.
-/

set_option autoImplicit false
set_option relaxedAutoImplicit false

namespace Rollout

/-- A stage: its texts, the part of the program that it logs for, and what it does. It may read the
context and act on the world. -/
structure Stage (σ : Type) where
  description : String
  logger : String
  action : Context → Act σ (Option Outcome)

abbrev Catalogue (σ : Type) := Entries (Stage σ)

namespace Catalogue

variable {σ : Type}

def register (catalogue : Catalogue σ) (name : String) (stage : Stage σ) :
    Except Fault (Catalogue σ) :=
  if catalogue.has name then .error (.stageTaken name) else .ok (catalogue ++ [(name, stage)])

def find (catalogue : Catalogue σ) (name : String) : Except Fault (Stage σ) :=
  match catalogue.get? name with
  | some stage => .ok stage
  | none => .error (.stageMissing name)

/-- The names that have no stage, in the order of the request. -/
def missing (catalogue : Catalogue σ) (requested : List String) : List String :=
  requested.filter fun name => !catalogue.has name

/-- One line for each stage: its name, its description and the part of the program that it logs
for. -/
def describe (catalogue : Catalogue σ) : List String :=
  catalogue.map fun (name, stage) => s!"{name}: {stage.description} ({stage.logger})"

def firsts : List String → List String
  | [] => []
  | name :: rest => name :: (firsts rest).filter (· != name)

/-- The requested stages, each once, in the order of their first request. -/
def resolve (catalogue : Catalogue σ) (requested : List String) : Except Fault (List String) :=
  match catalogue.missing requested with
  | [] => .ok (firsts requested)
  | names => .error (.stagesUnknown names)

example : firsts ["a", "b", "a", "c", "b"] = ["a", "b", "c"] := by decide

end Catalogue

end Rollout
