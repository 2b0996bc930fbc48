import DocQuery.Css.Token
/-! Selectors.  A selector asks for an element that meets some tests and, through its combinators,
stands below or behind elements that meet others. -/

namespace DocQuery.Css

/-- How the elements on the two sides of a combinator stand to each other. -/
inductive Combinator where
  | descendant
  | child
  | nextSibling
  | laterSibling
  deriving DecidableEq, Repr

/-- How the value of an attribute is compared. -/
inductive AttributeOperator where
  | equal
  | includes
  | dashMatch
  | startsWith
  | endsWith
  | substring
  deriving DecidableEq, Repr

/-- Whether the case of the letters of ASCII in a value counts. -/
inductive CaseRule where
  | exact
  | ignored
  /-- It counts outside of HTML only. -/
  | ignoredInHtml
  deriving DecidableEq, Repr

/-- The value that an attribute is compared with. -/
structure AttributeValue where
  operator : AttributeOperator
  value : String
  caseRule : CaseRule
  deriving DecidableEq, Repr

/-- A test of an attribute: that it is there, and what its value is. -/
structure AttributeTest where
  /-- Whether an attribute of any namespace will do. -/
  anySpace : Bool
  /-- The name as it was written; elements of HTML have it in lower case. -/
  name : String
  value : Option AttributeValue
  deriving DecidableEq, Repr

/-- Positions `step * n + offset` among siblings, for all `n` from zero on; the first is `1`. -/
structure Positions where
  fromEnd : Bool
  /-- Whether only siblings of the same name count. -/
  ofType : Bool
  step : Int
  offset : Int
  deriving DecidableEq, Repr

/-- Whether a position is one of `step * n + offset`.  A distance beyond 32 bits is never met. -/
def Positions.contains (p : Positions) (position : Nat) : Bool :=
  let distance := position - p.offset
  distance ≤ Numeral.maxInteger &&
    if p.step = 0 then distance == 0
    else 0 ≤ distance.tdiv p.step && distance.tmod p.step == 0

mutual

/-- A test of one element. -/
inductive Simple where
  /-- Met by every element. -/
  | universal
  /-- Met by elements outside every namespace. -/
  | noSpace
  /-- The name as it was written; elements of HTML have it in lower case. -/
  | name (name : String)
  | id (value : String)
  | class (name : String)
  | attribute (test : AttributeTest)
  | position (positions : Positions)
  /-- The outermost element. -/
  | root
  /-- An element with neither elements nor text in it. -/
  | empty
  /-- The element from which the search started. -/
  | scope
  /-- The element whose relatives are asked for. -/
  | anchor
  /-- The host of a shadow tree, of which there is none. -/
  | host
  | is (alternatives : List Selector)
  | not (alternatives : List Selector)
  /-- Some element meets a selector that starts at this one. -/
  | has (relatives : List Selector)

/-- A selector: the tests of the last element, and what stands before its combinator. -/
inductive Selector where
  | simple (tests : List Simple)
  | combined (left : Selector) (combinator : Combinator) (tests : List Simple)

end

end DocQuery.Css
