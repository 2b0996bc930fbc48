import DocQuery.Regex.Automaton
import DocQuery.Regex.Size
import Std.Data.HashSet
/-! Searching a text.  The ways through the automaton are tried in the order of preference, and a
way that comes to a state at a position where another has been before is given up, since that one
failed; so a search takes at most one step for every state at every position.  Of all matches the
leftmost is found, and of those the preferred one. -/

namespace DocQuery

/-- A regular expression ready for searching. -/
structure Regex where
  automaton : Regex.Automaton

namespace Regex

open Unicode (Ranges)

/-- Reads a regular expression. -/
def ofText (flags : Flags) (text : String) : Except RegexError Regex :=
  match Expr.ofText flags text with
  | .error fault => .error (.fault fault)
  | .ok e =>
    if e.fits then .ok { automaton := .of e } else .error (.tooLarge sizeLimit)

namespace Search

/-- Whether the character at a position is one of a word. -/
def isWordAt (text : Array Char) (unicode : Bool) (position : Nat) : Bool :=
  text[position]?.any fun c => (LetterClass.word.ranges unicode).contains c.toNat

/-- Whether a place is at a position. -/
def holds (text : Array Char) (position : Nat) : Look → Bool
  | .textStart => position == 0
  | .textEnd => position == text.size
  | .lineStart crlf =>
    let before := text[position - 1]?
    position == 0 || before == some '\n' ||
      (crlf && before == some '\r' && text[position]? != some '\n')
  | .lineEnd crlf =>
    let after := text[position]?
    if crlf then
      after.isNone || after == some '\r' ||
        (after == some '\n' && (position == 0 || text[position - 1]? != some '\r'))
    else after.isNone || after == some '\n'
  | .word border unicode =>
    let before := position != 0 && isWordAt text unicode (position - 1)
    let after := isWordAt text unicode position
    match border with
    | .notWordBoundary => before == after
    | .wordStart => !before && after
    | .wordEnd => before && !after
    | .wordStartHalf => !before
    | .wordEndHalf => !after
    | _ => before != after

/-- Positions noted on a way: by slot, an even slot for the start of a group and the odd slot after
it for its end. -/
abbrev Notes : Type := Array (Option Nat)

/-- A way that has been followed up to a state and a position. -/
structure Way where
  state : Nat
  position : Nat
  notes : Notes

/-- Follows the ways in order; `seen` holds the pairs of state and position that were met. -/
def follow (a : Automaton) (text : Array Char) :
    (fuel : Nat) → (seen : Std.HashSet Nat) → List Way → Std.HashSet Nat × Option Notes
  | 0, seen, _ => (seen, none)
  | _, seen, [] => (seen, none)
  | fuel + 1, seen, ⟨state, position, notes⟩ :: ways =>
    let key := state * (text.size + 1) + position
    if seen.contains key then follow a text fuel seen ways
    else
      let seen := seen.insert key
      match a.states[state]? with
      | none => follow a text fuel seen ways
      | some .accept => (seen, some notes)
      | some (.take r next) =>
        match text[position]? with
        | some c =>
          if r.contains c.toNat then follow a text fuel seen (⟨next, position + 1, notes⟩ :: ways)
          else follow a text fuel seen ways
        | none => follow a text fuel seen ways
      | some (.check l next) =>
        if holds text position l then follow a text fuel seen (⟨next, position, notes⟩ :: ways)
        else follow a text fuel seen ways
      | some (.note slot next) =>
        let notes := notes.setIfInBounds slot (some position)
        follow a text fuel seen (⟨next, position, notes⟩ :: ways)
      | some (.branch first second) =>
        follow a text fuel seen (⟨first, position, notes⟩ :: ⟨second, position, notes⟩ :: ways)

/-- Searches from a position on; `count` positions are left to start from. -/
def from? (a : Automaton) (text : Array Char) :
    (count : Nat) → (seen : Std.HashSet Nat) → (position : Nat) → Option Notes
  | 0, _, _ => none
  | count + 1, seen, position =>
    let notes := Array.replicate (2 * a.groups) none
    let fuel := 2 * a.states.size * (text.size + 1) + 1
    match follow a text fuel seen [⟨a.start, position, notes⟩] with
    | (_, some notes) => some notes
    | (seen, none) => from? a text count seen (position + 1)

/-- The first match at or after a position. -/
def next? (a : Automaton) (text : Array Char) (position : Nat) : Option Notes :=
  from? a text (text.size + 1 - position) ∅ position

/-- Start and end of a group in a match. -/
def groupSpan? (notes : Notes) (group : Nat) : Option (Nat × Nat) :=
  match notes.getD (2 * group) none, notes.getD (2 * group + 1) none with
  | some start, some stop => some (start, stop)
  | _, _ => none

/-- All matches from a position on; `last` is the end of the match before.  A match of no character
where the one before ended is passed over. -/
def all (a : Automaton) (text : Array Char) :
    (fuel : Nat) → (last : Option Nat) → (position : Nat) → List Notes
  | 0, _, _ => []
  | fuel + 1, last, position =>
    if text.size < position then []
    else
      match next? a text position with
      | none => []
      | some notes =>
        match groupSpan? notes 0 with
        | none => []
        | some (start, stop) =>
          if start = stop ∧ last = some stop then all a text fuel last (position + 1)
          else notes :: all a text fuel (some stop) stop

end Search

/-- Number of groups, the whole match included. -/
def groups (r : Regex) : Nat := r.automaton.groups

/-- The text of a group in all matches; a group that took no part in a match gives no characters. -/
def captures (r : Regex) (group : Nat) (text : String) : List String :=
  let cs := text.toList.toArray
  (Search.all r.automaton cs (2 * cs.size + 2) none 0).map fun notes =>
    match Search.groupSpan? notes group with
    | some (start, stop) => String.ofList (cs.extract start stop).toList
    | none => ""

end Regex

end DocQuery
