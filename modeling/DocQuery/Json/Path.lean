import DocQuery.Json.Writer
import DocQuery.Number.Index
/-! Paths into a JSON value.  A path is written with dots between its segments, and a backslash
takes the character after it literally.  A segment is a key of an object or an index of an array;
in an array `#` means its length, or, with more segments behind it, all its items that have them.
-/

namespace DocQuery.Json

/-- Splits a path; `current` holds the characters of the open segment in reverse. -/
def splitPath (current : List Char) : List Char → List String
  | [] => [String.ofList current.reverse]
  | ['\\'] => [String.ofList current.reverse]
  | '\\' :: c :: cs => splitPath (c :: current) cs
  | c :: cs =>
    if c = '.' then String.ofList current.reverse :: splitPath [] cs
    else splitPath (c :: current) cs

/-- Segments of a path. -/
def segments (path : String) : List String := splitPath [] path.toList

/-- The value of a key. -/
def member? (key : String) (members : List (String × Json)) : Option Json :=
  (members.find? fun m => m.1 == key).map Prod.snd

/-- The value that segments lead to. -/
def resolve (value : Json) : List String → Option Json
  | [] => some value
  | segment :: rest =>
    match value with
    | object members => (member? segment members).bind fun v => resolve v rest
    | array items =>
      if segment = "#" then
        if rest.isEmpty then some (number (.integer items.length))
        else some (array (items.filterMap fun item => resolve item rest))
      else
        match readIndex segment.toList with
        | .ok index => items[index]?.bind fun v => resolve v rest
        | .error _ => none
    | _ => none

/-- The value that a path leads to. -/
def get? (value : Json) (path : String) : Option Json :=
  value.resolve (segments path)

/-- The value as text: a string by its characters, null by nothing, all else as JSON. -/
def render : Json → String
  | null => ""
  | string s => s
  | value => value.compact

end DocQuery.Json
