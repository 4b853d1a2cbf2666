import Rollout.Text.Blank

/-!
Program ids in the output of a deploy command.

A deploy command tells the id of the program that it deployed in a token, an opening brace, the word
programId, a colon, a space, the id and a closing brace. The id holds no brace and is taken as it
stands. An output names a program when it holds exactly one token and the id is not blank.
-/

set_option autoImplicit false
set_option relaxedAutoImplicit false

namespace Rollout.Token

def opening : List Char := "\x7bprogramId: ".toList

def openBrace : Char := '\x7b'

def closeBrace : Char := '\x7d'

def cut? : List Char → List Char → Option (List Char)
  | [], rest => some rest
  | _ :: _, [] => none
  | p :: ps, c :: cs => if p = c then cut? ps cs else none

/-- The part of a text before its first closing brace and the part after it, if no opening brace
comes first. -/
def value? : List Char → Option (List Char × List Char)
  | [] => none
  | c :: rest =>
    if c = closeBrace then some ([], rest)
    else if c = openBrace then none
    else (value? rest).map fun (value, after) => (c :: value, after)

def head? (cs : List Char) : Option (List Char × List Char) := (cut? opening cs).bind value?

theorem length_cut? : ∀ {ps cs rest : List Char}, cut? ps cs = some rest →
    cs.length = ps.length + rest.length
  | [], _, _, h => by simp_all [cut?]
  | _ :: _, [], _, h => by simp [cut?] at h
  | p :: ps, c :: cs, rest, h => by
    by_cases hp : p = c
    · simp only [cut?, hp, if_true] at h
      have := length_cut? h
      simp only [List.length_cons]
      omega
    · simp [cut?, hp] at h

theorem length_value? : ∀ {cs value after : List Char}, value? cs = some (value, after) →
    after.length < cs.length
  | [], _, _, h => by simp [value?] at h
  | c :: cs, value, after, h => by
    unfold value? at h
    split at h
    · simp only [Option.some.injEq, Prod.mk.injEq] at h
      simp [h.2]
    · split at h
      · simp at h
      · obtain ⟨⟨v, a⟩, hv, heq⟩ := Option.map_eq_some_iff.1 h
        simp only [Prod.mk.injEq] at heq
        have := length_value? hv
        simp only [List.length_cons, ← heq.2]
        omega

theorem length_head? {cs value after : List Char} (h : head? cs = some (value, after)) :
    after.length < cs.length := by
  obtain ⟨rest, hcut, hvalue⟩ := Option.bind_eq_some_iff.1 h
  have := length_cut? hcut
  have := length_value? hvalue
  omega

/-- The ids of the tokens of a text, found from left to right; the search goes on behind each
token. -/
def scan : List Char → List (List Char)
  | [] => []
  | c :: cs =>
    match _found : head? (c :: cs) with
    | some (value, after) => value :: scan after
    | none => scan cs
  termination_by cs => cs.length
  decreasing_by
    · exact length_head? _found
    · simp

/-- The ids of the tokens that stand anywhere in a text, one for each position at which the text
continues with a token. -/
def occurrences : List Char → List (List Char)
  | [] => []
  | c :: cs => ((head? (c :: cs)).map (·.1)).toList ++ occurrences cs

/-- Why an output names no program. -/
inductive Fault
  | missing
  | several (count : Nat)
  | blank
  deriving DecidableEq, Repr

def form : String := "'\x7bprogramId: ...\x7d'"

def Fault.message : Fault → String
  | .missing => s!"no {form} token in deployment output"
  | .several count => s!"expected one {form} token, found {count}"
  | .blank => "deployment output reported an empty programId"

def extract (output : String) : Except Fault String :=
  match scan output.toList with
  | [] => .error .missing
  | [value] =>
    if value.all Text.isBlank then .error .blank else .ok (String.ofList value)
  | values => .error (.several values.length)

end Rollout.Token
