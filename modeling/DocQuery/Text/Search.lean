/-! Searching a text for another text.  Occurrences are found from the left and do not overlap. -/

namespace DocQuery.Text

/-- Whether `pattern` occurs in the characters. -/
def occursIn (pattern : List Char) : List Char → Bool
  | [] => pattern.isEmpty
  | c :: cs => pattern.isPrefixOf (c :: cs) || occursIn pattern cs

/-- Replaces the occurrences of `pattern`; `skip` characters belong to the occurrence before.  An
empty pattern occurs before every character and at the end. -/
def replaceFrom (pattern replacement : List Char) (skip : Nat) : List Char → List Char
  | [] => if pattern.isEmpty then replacement else []
  | c :: cs =>
    match skip with
    | skip + 1 => replaceFrom pattern replacement skip cs
    | 0 =>
      if pattern.isEmpty then replacement ++ c :: replaceFrom pattern replacement 0 cs
      else if pattern.isPrefixOf (c :: cs) then
        replacement ++ replaceFrom pattern replacement (pattern.length - 1) cs
      else c :: replaceFrom pattern replacement 0 cs

/-- Whether `pattern` occurs in `text`. -/
def contains (text pattern : String) : Bool :=
  occursIn pattern.toList text.toList

/-- Replaces every occurrence of `pattern` in `text`. -/
def replaceAll (text pattern replacement : String) : String :=
  String.ofList (replaceFrom pattern.toList replacement.toList 0 text.toList)

end DocQuery.Text
