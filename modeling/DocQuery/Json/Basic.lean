import DocQuery.Number.Binary64
/-! JSON values.  An object is a list of members in increasing order of their keys, each key once;
`Json.ofMembers` brings any list of members into that form, the last member of a key winning. -/

namespace DocQuery

/-- A JSON number: an integer that fits 64 bits with or without a sign, or a finite double. -/
inductive Json.Number where
  | integer (value : Int)
  | float (value : Binary64)
  deriving DecidableEq, Repr, Inhabited

/-- A JSON value. -/
inductive Json where
  | null
  | bool (value : Bool)
  | number (value : Json.Number)
  | string (value : String)
  | array (items : List Json)
  | object (members : List (String × Json))
  deriving Repr, Inhabited

namespace Json

/-- Members sorted by key, with one more; it replaces a member of the same key.  Keys are compared
by code points, which is also the order of their UTF-8 bytes. -/
def insertMember (key : String) (value : α) : List (String × α) → List (String × α)
  | [] => [(key, value)]
  | (k, v) :: rest =>
    if key < k then (key, value) :: (k, v) :: rest
    else if key = k then (key, value) :: rest
    else (k, v) :: insertMember key value rest

/-- Members sorted by key; of equal keys the last member stays. -/
def sortMembers (members : List (String × α)) : List (String × α) :=
  members.foldl (fun sorted (k, v) => insertMember k v sorted) []

/-- An object with the given members. -/
def ofMembers (members : List (String × Json)) : Json :=
  object (sortMembers members)

def isNull : Json → Bool
  | null => true
  | _ => false

end Json

end DocQuery
