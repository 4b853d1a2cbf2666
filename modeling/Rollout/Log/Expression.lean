import Rollout.Value

/-!
Expressions: texts of settings that stand for things.
-/

set_option autoImplicit false
set_option relaxedAutoImplicit false

namespace Rollout.Log

inductive Joint
  | plus
  | minus
  | times
  | over
  | floor
  | rest
  | power
  | left
  | right
  | both
  | either
  | differing
  | matrix
  deriving DecidableEq, Repr

namespace Joint

def sign : Joint → String
  | .plus => "+"
  | .minus => "-"
  | .times => "*"
  | .over => "/"
  | .floor => "//"
  | .rest => "%"
  | .power => "**"
  | .left => "<<"
  | .right => ">>"
  | .both => "&"
  | .either => "|"
  | .differing => "^"
  | .matrix => "@"

def toldSign : Joint → String
  | .power => "** or pow()"
  | j => j.sign

end Joint

inductive Sign
  | plus
  | minus
  | flip
  deriving DecidableEq, Repr

def Sign.text : Sign → String
  | .plus => "+"
  | .minus => "-"
  | .flip => "~"

inductive Relation
  | equal
  | unequal
  | less
  | atMost
  | greater
  | atLeast
  | same
  | notSame
  | isMember
  | notMember
  deriving DecidableEq, Repr

def Relation.sign : Relation → String
  | .equal => "=="
  | .unequal => "!="
  | .less => "<"
  | .atMost => "<="
  | .greater => ">"
  | .atLeast => ">="
  | .same => "is"
  | .notSame => "is not"
  | .isMember => "in"
  | .notMember => "not in"

inductive Expression
  | constant (v : Value)
  | ellipsis
  | identifier (s : String)
  | tuple (items : List Expression)
  | list (items : List Expression)
  | set (items : List Expression)
  | map (entries : List (Option Expression × Expression))
  | members (e : Expression)
  | part (e : Expression) (name : String)
  | item (e index : Expression)
  | call (callee : Expression) (row : List Expression) (named : List (Option String × Expression))
  | choice (condition yes no : Expression)
  | first (a b : Expression)
  | second (a b : Expression)
  | negation (e : Expression)
  | comparison (e : Expression) (rest : List (Relation × Expression))
  | signed (sign : Sign) (e : Expression)
  | joined (joint : Joint) (a b : Expression)
  deriving Inhabited

/-- What faults call the kind of an expression that something is assigned to. -/
def Expression.told : Expression → String
  | .constant .null => "None"
  | .constant (.bool true) => "True"
  | .constant (.bool false) => "False"
  | .constant _ => "literal"
  | .ellipsis => "ellipsis"
  | .identifier _ => "name"
  | .tuple _ => "tuple"
  | .list _ => "list"
  | .set _ => "set display"
  | .map _ => "dict literal"
  | .members _ => "starred"
  | .part _ _ => "attribute"
  | .item _ _ => "subscript"
  | .call _ _ _ => "function call"
  | .choice _ _ _ => "conditional expression"
  | .comparison _ _ => "comparison"
  | _ => "expression"

end Rollout.Log
