/-! A JSON text is a value of one of seven kinds. Integers are exact; every number with a
point or an exponent is a real. An object keeps the order of its members, and no two of its
members have one key. -/

namespace TwinNode.Json

/-- A number that was written with a point or an exponent, and the three that have names. -/
inductive Real where
  | notANumber
  | infinity (negative : Bool)
  /-- The digits as one number, times ten to the exponent. -/
  | decimal (negative : Bool) (digits : Nat) (exponent : Int)
  deriving DecidableEq, Repr

inductive Value where
  | null
  | bool (b : Bool)
  | int (n : Int)
  | real (x : Real)
  | str (s : String)
  | list (items : List Value)
  | object (members : List (String × Value))
  deriving Repr, Inhabited

/-- Adds a member. A key that is there keeps its place and gets the new value. -/
def putMember (members : List (String × Value)) (key : String) (value : Value) :
    List (String × Value) :=
  if members.any (·.1 == key) then
    members.map fun m => if m.1 == key then (key, value) else m
  else members ++ [(key, value)]

namespace Value

/-- The object with the given members; of those with one key, the last gives the value. -/
def ofMembers (members : List (String × Value)) : Value :=
  object (members.foldl (fun done m => putMember done m.1 m.2) [])

def member? (key : String) : Value → Option Value
  | object members => (members.find? (·.1 == key)).map (·.2)
  | _ => none

def members? : Value → Option (List (String × Value))
  | object members => some members
  | _ => none

def str? : Value → Option String
  | str s => some s
  | _ => none

def isObject (v : Value) : Bool := v.members?.isSome

end Value

end TwinNode.Json
