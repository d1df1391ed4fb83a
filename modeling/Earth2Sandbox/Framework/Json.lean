import Mathlib.Data.Nat.Notation

/-!
# JSON values

A parsed JSON document.  A number is kept as its literal.  An object is a dictionary in the
order of its members; the first member under a key is the one that counts.
-/

namespace Earth2Sandbox

inductive Json where
  | null
  | bool (b : Bool)
  | number (literal : String)
  | str (s : String)
  | array (items : List Json)
  | object (members : List (String × Json))

namespace Json

/-- `value.get(key)` of a dictionary; other values have no members. -/
def get? (key : String) : Json → Option Json
  | object members => members.lookup key
  | _ => none

end Json

end Earth2Sandbox
