import DocQuery.Unicode.Ranges
/-! Named sets of code points.  Names are compared without regard to case, blanks, hyphens and
underscores. -/

namespace DocQuery.Unicode

/-- A set with its names in their plain form. -/
structure Entry where
  names : List String
  text : String

/-- The set of an entry. -/
def Entry.ranges (e : Entry) : Ranges := .ofText e.text

/-- Named sets. -/
abbrev Table : Type := List Entry

/-- The set of a name in its plain form. -/
def Table.find? (t : Table) (name : String) : Option Ranges :=
  (List.find? (fun e : Entry => e.names.contains name) t).map Entry.ranges

/-- The union of the sets of the given names. -/
def Table.union (t : Table) (names : List String) : Ranges :=
  .ofBounds <| (names.filterMap t.find?).flatMap fun r => r.bounds.toList

end DocQuery.Unicode
