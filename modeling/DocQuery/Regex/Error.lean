import DocQuery.Regex.Pattern
/-! What is wrong with a pattern, and the report about it: the pattern with marks below the parts in
question, and the cause. -/

namespace DocQuery.Regex

/-- What is wrong. -/
inductive Problem where
  | classEscape
  | classRange
  | classRangeEnd
  | classUnclosed
  | decimalEmpty
  | decimalInvalid
  | hexEmpty
  | hexInvalid
  | hexDigit
  | escapeAtEnd
  | unknownEscape
  | danglingNegation
  | duplicateFlag
  | repeatedNegation
  | flagAtEnd
  | unknownFlag
  | duplicateName
  | emptyName
  | nameChar
  | nameAtEnd
  | groupUnclosed
  | groupUnopened
  | tooDeep (limit : Nat)
  | countRange
  | countEmpty
  | countUnclosed
  | nothingToRepeat
  | boundaryUnclosed
  | unknownBoundary
  | boundaryAtEnd
  | unicodeClass
  | backreference
  | lookAround
  | unicodeNotAllowed
  | notUtf8
  | unknownProperty
  | unknownPropertyValue
  deriving DecidableEq, Repr

/-- Wording of a problem. -/
def Problem.message : Problem → String
  | classEscape => "invalid escape sequence found in character class"
  | classRange => "invalid character class range, the start must be <= the end"
  | classRangeEnd => "invalid range boundary, must be a literal"
  | classUnclosed => "unclosed character class"
  | decimalEmpty => "decimal literal empty"
  | decimalInvalid => "decimal literal invalid"
  | hexEmpty => "hexadecimal literal empty"
  | hexInvalid => "hexadecimal literal is not a Unicode scalar value"
  | hexDigit => "invalid hexadecimal digit"
  | escapeAtEnd => "incomplete escape sequence, reached end of pattern prematurely"
  | unknownEscape => "unrecognized escape sequence"
  | danglingNegation => "dangling flag negation operator"
  | duplicateFlag => "duplicate flag"
  | repeatedNegation => "flag negation operator repeated"
  | flagAtEnd => "expected flag but got end of regex"
  | unknownFlag => "unrecognized flag"
  | duplicateName => "duplicate capture group name"
  | emptyName => "empty capture group name"
  | nameChar => "invalid capture group character"
  | nameAtEnd => "unclosed capture group name"
  | groupUnclosed => "unclosed group"
  | groupUnopened => "unopened group"
  | tooDeep limit => s!"exceed the maximum number of nested parentheses/brackets ({limit})"
  | countRange => "invalid repetition count range, the start must be <= the end"
  | countEmpty => "repetition quantifier expects a valid decimal"
  | countUnclosed => "unclosed counted repetition"
  | nothingToRepeat => "repetition operator missing expression"
  | boundaryUnclosed =>
    "special word boundary assertion is either unclosed or contains an invalid character"
  | unknownBoundary =>
    "unrecognized special word boundary assertion, valid choices are: start, end, start-half or " ++
      "end-half"
  | boundaryAtEnd =>
    "found either the beginning of a special word boundary or a bounded repetition on a \\b " ++
      "with an opening brace, but no closing brace"
  | unicodeClass => "invalid Unicode character class"
  | backreference => "backreferences are not supported"
  | lookAround => "look-around, including look-ahead and look-behind, is not supported"
  | unicodeNotAllowed => "Unicode not allowed here"
  | notUtf8 => "pattern can match invalid UTF-8"
  | unknownProperty => "Unicode property not found"
  | unknownPropertyValue => "Unicode property value not found"

/-- A problem with its place, and with an earlier place that it has to do with. -/
structure Fault where
  problem : Problem
  span : Span
  earlier : Option Span := none
  deriving DecidableEq, Repr

/-- Why there is no automaton for a pattern. -/
inductive RegexError where
  | fault (fault : Fault)
  /-- The automaton would be larger than a number of bytes. -/
  | tooLarge (limit : Nat)
  deriving DecidableEq, Repr

/-- Line and column of a character, both from `1`. -/
structure Place where
  line : Nat
  column : Nat
  deriving DecidableEq, Repr

/-- The place of a character of a pattern. -/
def Place.of (pattern : List Char) (offset : Nat) : Place :=
  let before := pattern.take offset
  ⟨before.count '\n' + 1, (before.reverse.takeWhile (· != '\n')).length + 1⟩

/-- A part of a pattern with the places of its ends. -/
structure Mark where
  first : Place
  last : Place
  deriving DecidableEq, Repr

namespace Mark

/-- The mark of a part. -/
def of (pattern : List Char) (span : Span) : Mark :=
  ⟨.of pattern span.start, .of pattern span.stop⟩

/-- Whether a mark is on one line. -/
def oneLine (m : Mark) : Bool := m.first.line == m.last.line

/-- Writes marks below a line; `column` is the number of characters already written. -/
def draw (column : Nat) : List Mark → String
  | [] => ""
  | m :: ms =>
    let gap := m.first.column - 1 - column
    let length := max 1 (m.last.column - m.first.column)
    "".pushn ' ' gap ++ "".pushn '^' length ++ draw (column + gap + length) ms

/-- A mark over several lines in words. -/
def inWords (m : Mark) : String :=
  s!"on line {m.first.line} (column {m.first.column}) through line {m.last.line} " ++
    s!"(column {m.last.column - 1})"

end Mark

/-- The lines of a text without their ends.  A line end at the end of the text starts no line. -/
def linesOf (pattern : List Char) : List (List Char) :=
  let lines := pattern.splitOnP (· == '\n')
  let ended := lines.dropLast.map fun l => if l.getLast? == some '\r' then l.dropLast else l
  ended ++ lines.getLast?.toList.filter (!·.isEmpty)

/-- A line with its number, if lines are numbered, and the marks below it. -/
def notedLine (width : Nat) (marks : List Mark) (number : Nat) (line : List Char) : String :=
  let start :=
    if width = 0 then "    "
    else "".pushn ' ' (width - number.repr.length) ++ number.repr ++ ": "
  let marks := marks.filter fun m => m.oneLine && m.first.line == number
  start ++ String.ofList line ++ "\n" ++
    if marks.isEmpty then "" else "".pushn ' ' start.length ++ Mark.draw 0 marks ++ "\n"

/-- The report about a fault in a pattern. -/
def Fault.message (f : Fault) (text : String) : String :=
  let pattern := text.toList
  let lines := linesOf pattern
  let count := lines.length + if pattern.getLast? == some '\n' then 1 else 0
  let width := if count ≤ 1 then 0 else count.repr.length
  -- the earlier place stands first
  let marks := (f.earlier.toList ++ [f.span]).map (Mark.of pattern)
  let noted := String.join (lines.zipIdx.map fun (l, i) => notedLine width marks (i + 1) l)
  let cause := "error: " ++ f.problem.message
  if pattern.contains '\n' then
    let divider := "".pushn '~' 79 ++ "\n"
    let wide := (marks.filter (!·.oneLine)).map Mark.inWords
    let wide := if wide.isEmpty then "" else "\n".intercalate wide ++ "\n"
    "regex parse error:\n" ++ divider ++ noted ++ divider ++ wide ++ cause
  else "regex parse error:\n" ++ noted ++ cause

/-- What is reported about an error in a pattern. -/
def RegexError.message (pattern : String) : RegexError → String
  | fault f => f.message pattern
  | tooLarge limit => s!"Compiled regex exceeds size limit of {limit} bytes."

end DocQuery.Regex
