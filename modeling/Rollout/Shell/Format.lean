import Rollout.Shell.Arithmetic
import Rollout.Text.Utf8

/-!
The output of `echo` and `printf`.

The shell has both as commands of its own, and both are programs as well; the two dialects differ in
a few escapes and in their words for what is wrong. `printf` repeats its format until its arguments
are used up.
-/

set_option autoImplicit false
set_option relaxedAutoImplicit false

namespace Rollout.Shell

inductive Dialect
  | shell
  | program
  deriving DecidableEq, Repr

namespace Format

def bytesOf (text : String) : List UInt8 := Text.Utf8.encode text.toList

def letters : List (Char × UInt8) := [
  ('a', 7), ('b', 8), ('e', 27), ('f', 12), ('n', 10), ('r', 13), ('t', 9), ('v', 11), ('\\', 92)]

/-- The number that the first digits of a text spell, at most so many. -/
def leadingDigits (base limit : Nat) (cs : List Char) : Nat × List Char :=
  let isDigit (c : Char) : Bool := ((Arithmetic.digit? c).map fun d => decide (d < base)).getD false
  let digits := (cs.take limit).takeWhile isDigit
  (digits.foldl (fun n c => n * base + (Arithmetic.digit? c).getD 0) 0, cs.drop digits.length)

/-- What a backslash and the text behind it stand for; the last answer is whether output ends.
`free` is set in arguments, where an octal number may start with an extra zero and output may be
ended. -/
def escape (dialect : Dialect) (free : Bool) (cs : List Char) : List UInt8 × List Char × Bool :=
  match cs with
  | [] => ([92], [], false)
  | c :: rest =>
    if c == 'c' && (free || dialect = .program) then ([], [], true)
    else match letters.find? (·.1 == c) with
      | some (_, byte) => ([byte], rest, false)
      | none =>
        if c == '"' && !free then ([34], rest, false)
        else if c == 'x' && dialect = .program then
          let (n, after) := leadingDigits 16 2 rest
          if after.length = rest.length then ([92, 120], rest, false)
          else ([n.toUInt8], after, false)
        else if (c == 'u' || c == 'U') && dialect = .program then
          let (n, after) := leadingDigits 16 (if c == 'u' then 4 else 8) rest
          (bytesOf (String.singleton (Char.ofNat n)), after, false)
        else
          let digits := if free && c == '0' then rest else cs
          let (n, after) := leadingDigits 8 3 digits
          if after.length = cs.length then (92 :: bytesOf (String.singleton c), rest, false)
          else ([n.toUInt8], after, false)

def escaped (dialect : Dialect) (room : Nat) (cs : List Char) : List UInt8 × Bool :=
  match room with
  | 0 => ([], false)
  | room + 1 =>
    match cs with
    | [] => ([], false)
    | '\\' :: rest =>
      let (bytes, rest, ends) := escape dialect true rest
      if ends then (bytes, true)
      else
        let (more, ends) := escaped dialect room rest
        (bytes ++ more, ends)
    | c :: rest =>
      let (more, ends) := escaped dialect room rest
      (bytesOf (String.singleton c) ++ more, ends)

def escapedText (dialect : Dialect) (text : String) : List UInt8 × Bool :=
  escaped dialect (text.length + 1) text.toList

/-- The switches in front of what a program prints: whether a line end follows, whether escapes are
replaced. -/
def echoSwitches (lineEnd escapes : Bool) : List String → Bool × Bool × List String
  | [] => (lineEnd, escapes, [])
  | word :: rest =>
    let cs := word.toList.drop 1
    if word.startsWith "-" && !cs.isEmpty && cs.all "neE".toList.contains then
      echoSwitches (lineEnd && !cs.contains 'n')
        ((cs.reverse.find? (· != 'n')).elim escapes (· == 'e')) rest
    else (lineEnd, escapes, word :: rest)

def echo (dialect : Dialect) (arguments : List String) : List UInt8 :=
  let (lineEnd, escapes, words) :=
    match dialect, arguments with
    | .shell, "-n" :: rest => (false, true, rest)
    | .shell, words => (true, true, words)
    | .program, words => echoSwitches true false words
  let text := " ".intercalate words
  let (bytes, ended) := if escapes then escapedText dialect text else (bytesOf text, false)
  bytes ++ if lineEnd && !ended then [10] else []

structure Printed where
  backwards : List UInt8
  arguments : List String
  complaints : List String
  ended : Bool
  asked : Bool
  refused : Bool

structure Form where
  flags : List Char
  width : Nat
  precision : Option Nat

def Form.pad (form : Form) (bytes : List UInt8) : List UInt8 :=
  let blanks := List.replicate (form.width - bytes.length) 32
  if form.flags.contains '-' then bytes ++ blanks else blanks ++ bytes

/-- A number in a form: a sign, a mark for its base, and digits. -/
def Form.number (form : Form) (sign mark : String) (digits : String) : List UInt8 :=
  let digits :=
    match form.precision with
    | some least => String.ofList (List.replicate (least - digits.length) '0') ++ digits
    | none =>
      if form.flags.contains '0' && !form.flags.contains '-' then
        let taken := sign.length + mark.length + digits.length
        String.ofList (List.replicate (form.width - taken) '0') ++ digits
      else digits
  form.pad (bytesOf (sign ++ mark ++ digits))

def digitsIn (base n : Nat) : String := String.ofList (Nat.toDigits base n)

def Form.integer (form : Form) (letter : Char) (i : Int) : List UInt8 :=
  let n := Arithmetic.bits i
  let marked (mark : String) : String := if form.flags.contains '#' && n != 0 then mark else ""
  match letter with
  | 'x' => form.number "" (marked "0x") (digitsIn 16 n)
  | 'X' => form.number "" (marked "0X") (digitsIn 16 n).toUpper
  | 'o' => form.number "" (marked "0") (digitsIn 8 n)
  | 'u' => form.number "" "" (digitsIn 10 n)
  | _ =>
    let sign :=
      if i < 0 then "-" else if form.flags.contains '+' then "+"
      else if form.flags.contains ' ' then " " else ""
    form.number sign "" (digitsIn 10 i.natAbs)

/-- The number that an argument spells below a limit, and a complaint where it does not, or not as a
whole. -/
def numberOf (dialect : Dialect) (limit : Int) (text : String) : Int × List String :=
  let complain (what : String × String) : List String :=
    match dialect with
    | .shell => [s!"{text}: {what.1}"]
    | .program => [s!"\u2018{text}\u2019: {what.2}"]
  match text.toList with
  | [] => (0, [])
  | '\x27' :: c :: _ | '"' :: c :: _ => (c.toNat, [])
  | cs =>
    let cs := cs.dropWhile (·.isWhitespace)
    let negative := cs.head? = some '-'
    let cs := if negative || cs.head? = some '+' then cs.drop 1 else cs
    let (n, rest) :=
      match cs with
      | '0' :: 'x' :: rest | '0' :: 'X' :: rest => leadingDigits 16 rest.length rest
      | '0' :: _ => leadingDigits 8 cs.length cs
      | _ => leadingDigits 10 cs.length cs
    let i : Int := if negative then -(n : Int) else n
    if rest.length = cs.length then
      (0, complain ("expected numeric value", "expected a numeric value"))
    else if i < -Nat.pow 2 63 || limit ≤ i then
      (if negative then -Nat.pow 2 63 else limit - 1,
        complain ("Numerical result out of range", "Numerical result out of range"))
    else if rest.isEmpty then (i, [])
    else (i, complain ("not completely converted", "value not completely converted"))

def Printed.next (printed : Printed) : Option String × Printed :=
  match printed.arguments with
  | [] => (none, { printed with asked := true })
  | word :: rest => (some word, { printed with arguments := rest, asked := true })

def Printed.add (printed : Printed) (bytes : List UInt8) (complaints : List String) : Printed :=
  { printed with
    backwards := bytes.reverse ++ printed.backwards
    complaints := printed.complaints ++ complaints }

def formNumber (dialect : Dialect) (printed : Printed) (cs : List Char) :
    Option Int × List Char × Printed :=
  match cs with
  | '*' :: rest =>
    let (word, printed) := printed.next
    let (i, complaints) := numberOf dialect (Nat.pow 2 31) (word.getD "")
    (some i, rest, printed.add [] complaints)
  | _ =>
    let (n, rest) := leadingDigits 10 cs.length cs
    (if rest.length = cs.length then none else some n, rest, printed)

def convert (dialect : Dialect) (printed : Printed) (form : Form) (letter : Char) :
    Option Printed :=
  let (word, after) := printed.next
  let text := word.getD ""
  let cut (bytes : List UInt8) : List UInt8 :=
    match form.precision with
    | some n => bytes.take n
    | none => bytes
  if letter == 's' then some (after.add (form.pad (cut (bytesOf text))) [])
  else if letter == 'b' then
    let (bytes, ended) := escapedText dialect text
    some { after.add (form.pad (cut bytes)) [] with ended := ended }
  else if letter == 'c' then
    some (after.add (form.pad (if text.isEmpty then [0] else (bytesOf text).take 1)) [])
  else if "diuoxX".toList.contains letter then
    let limit : Int := if letter == 'd' || letter == 'i' then Nat.pow 2 63 else Nat.pow 2 64
    let (i, complaints) := numberOf dialect limit text
    some (after.add (form.integer letter i) complaints)
  else none

def Printed.refuse (printed : Printed) (dialect : Dialect) (text : List Char) : Printed :=
  let shown := String.ofList text
  let complaint :=
    match dialect with
    | .shell =>
      if text.length = 1 then "missing format character"
      else s!"{shown}: invalid directive"
    | .program => s!"{shown}: invalid conversion specification"
  { printed.add [] [complaint] with ended := true, refused := true }

def once (dialect : Dialect) (room : Nat) (printed : Printed) (cs : List Char) : Printed :=
  match room with
  | 0 => printed
  | room + 1 =>
    if printed.ended then printed
    else match cs with
      | [] => printed
      | '\\' :: rest =>
        let (bytes, rest, ended) := escape dialect false rest
        once dialect room { printed.add bytes [] with ended := ended } rest
      | '%' :: '%' :: rest => once dialect room (printed.add [37] []) rest
      | '%' :: rest =>
        let flags := rest.takeWhile "-+ #0".toList.contains
        let (width, rest', printed) := formNumber dialect printed (rest.drop flags.length)
        let (precision, rest', printed) :=
          match rest' with
          | '.' :: rest' =>
            let (n, rest', printed) := formNumber dialect printed rest'
            (some (n.getD 0).toNat, rest', printed)
          | _ => (none, rest', printed)
        let width := width.getD 0
        let flags := if width < 0 then '-' :: flags else flags
        match rest' with
        | [] => printed.refuse dialect cs
        | letter :: rest' =>
          match convert dialect printed ⟨flags, width.natAbs, precision⟩ letter with
          | some printed => once dialect room printed rest'
          | none => printed.refuse dialect (cs.take (cs.length - rest'.length))
      | c :: rest => once dialect room (printed.add (bytesOf (String.singleton c)) []) rest

def repeated (dialect : Dialect) (room : Nat) (printed : Printed) (cs : List Char) : Printed :=
  match room with
  | 0 => printed
  | room + 1 =>
    let after := once dialect (cs.length + 1) { printed with asked := false } cs
    if after.ended || after.arguments.isEmpty || !after.asked then after
    else repeated dialect room after cs

def Printed.bytes (printed : Printed) : List UInt8 := printed.backwards.reverse

def printf (dialect : Dialect) (form : String) (arguments : List String) : Printed :=
  let printed :=
    repeated dialect (arguments.length + 1) ⟨[], arguments, [], false, false, false⟩ form.toList
  match dialect, printed.arguments with
  | .program, word :: _ =>
    if printed.ended then printed
    else printed.add []
      [s!"warning: ignoring excess arguments, starting with \u2018{word}\u2019"]
  | _, _ => printed

example : (printf .shell "%s-%03d|" ["a", "7", "b", "x"]).bytes = bytesOf "a-007|b-000|" := by
  decide +kernel

example : echo .shell ["-n", "a\\tb\\0101\\c", "x"] = bytesOf "a\tbA" := by decide +kernel

end Format

end Rollout.Shell
