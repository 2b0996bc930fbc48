import DocQuery.Number.Index
import DocQuery.Text.Quoted
import DocQuery.Text.Utf8
import DocQuery.XPath.Path
/-! Reading a location path.

    Path      := '/' | ('/' | '//')? Step (('/' | '//') Step)*
    Step      := '..' | '.' | ('@' | Name '::')? Test Condition*
    Test      := '*' | Name | Name '(' ')'
    Condition := '[' (Digits | 'last()' | '@' Name ('=' Literal)?) ']'

Blanks may stand between any two tokens.  An error keeps the text that was left where it arose,
from which its place follows. -/

namespace DocQuery.XPath

/-- What a path should go on with. -/
inductive Wanted where
  | token (token : String)
  | slashOrEnd
  | nodeTest
  | condition
  | attributeName
  | literal
  deriving DecidableEq, Repr

/-- Why a text is no path. -/
inductive PathError where
  | unexpected (wanted : Wanted) (rest : List Char)
  | unknownAxis (name : String)
  | unknownTest (name : String)
  | badPosition (digits : List Char) (cause : IndexError)
  | unterminatedLiteral
  deriving DecidableEq, Repr

namespace PathError

/-- Wording of what should come. -/
def wantedText : Wanted → String
  | .token token => "expected " ++ Text.quoted token
  | .slashOrEnd => "expected \"/\" or end of path"
  | .nodeTest => "expected a node test"
  | .condition => "expected a position or attribute predicate"
  | .attributeName => "expected an attribute name"
  | .literal => "expected a quoted literal"

/-- Number of bytes of a text. -/
def byteLength (cs : List Char) : Nat := (String.ofList cs).utf8ByteSize

/-- The first byte of a character, taken for a character itself. -/
def firstByte (c : Char) : Char :=
  Char.ofNat ((Utf8.encode (String.ofList [c])).headD 0).toNat

/-- Wording of an error of the given text. -/
def message (expression : String) : PathError → String
  | unexpected wanted [] => wantedText wanted ++ ", found end of expression"
  | unexpected wanted (c :: rest) =>
    let offset := byteLength expression.toList - byteLength (c :: rest)
    s!"{wantedText wanted}, found {Text.quotedChar (firstByte c)} at offset {offset}"
  | unknownAxis name => "unsupported axis " ++ Text.quoted name
  | unknownTest name => "unsupported node test " ++ name ++ "()"
  | badPosition digits cause =>
    "invalid position " ++ String.ofList digits ++ ": " ++ cause.message
  | unterminatedLiteral => "unterminated literal"

end PathError

/-- Reading stops at the first error. -/
abbrev Reading : Type → Type := Except PathError

/-- A value with text that comes later. -/
abbrev Ahead (cs : List Char) (α : Type) : Type :=
  { r : α × List Char // r.2.length < cs.length }

/-- A value with text that does not come earlier. -/
abbrev NotBehind (cs : List Char) (α : Type) : Type :=
  { r : α × List Char // r.2.length ≤ cs.length }

/-- Blanks between tokens. -/
def isBlank (c : Char) : Bool :=
  c == ' ' || c == '\t' || c == '\n' || c == '\x0c' || c == '\r'

/-- The text after blanks. -/
def skipBlanks (cs : List Char) : List Char := cs.dropWhile isBlank

theorem length_skipBlanks_le (cs : List Char) : (skipBlanks cs).length ≤ cs.length :=
  (List.dropWhile_sublist isBlank).length_le

/-- Characters that start a name. -/
def isNameStart (c : Char) : Bool := c.isAlpha || c == '_'

/-- Characters of a name. -/
def isNameChar (c : Char) : Bool := c.isAlphanum || c == '_' || c == '-' || c == '.'

/-- Characters that start a name go on with one. -/
theorem isNameChar_of_isNameStart {c : Char} (h : isNameStart c) : isNameChar c := by
  simp only [isNameStart, isNameChar, Char.isAlphanum, Bool.or_eq_true] at h ⊢
  rcases h with h | h <;> simp [h]

/-- The text after a token, if it stands next. -/
def dropToken? (token : List Char) (cs : List Char) : Option (List Char) :=
  match token, cs with
  | [], cs => some cs
  | t :: token, c :: cs => if t = c then dropToken? token cs else none
  | _ :: _, [] => none

/-- A token is as long as the text that it takes. -/
theorem length_dropToken? {token cs rest : List Char} (h : dropToken? token cs = some rest) :
    rest.length + token.length = cs.length := by
  induction token generalizing cs with
  | nil => simp only [dropToken?, Option.some.injEq] at h; simp [h]
  | cons t token ih =>
    cases cs with
    | nil => simp [dropToken?] at h
    | cons c cs =>
      simp only [dropToken?] at h
      split at h
      · have := ih h; simp only [List.length_cons]; omega
      · cases h

/-- Takes a token after blanks, if it stands next. -/
def take? (token : String) (cs : List Char) : Option (List Char) :=
  dropToken? token.toList (skipBlanks cs)

theorem length_take?_le {token : String} {cs rest : List Char} (h : take? token cs = some rest) :
    rest.length + token.length ≤ cs.length := by
  have := length_dropToken? h
  have := length_skipBlanks_le cs
  simp only [String.length_toList] at *
  omega

theorem length_le_of_take? {token : String} {cs rest : List Char} (h : take? token cs = some rest) :
    rest.length ≤ cs.length :=
  Nat.le_trans (Nat.le_add_right _ _) (length_take?_le h)

/-- Takes a token that must stand next. -/
def expect (token : String) (cs : List Char) : Reading (NotBehind cs Unit) :=
  match h : take? token cs with
  | some rest => .ok ⟨((), rest), length_le_of_take? h⟩
  | none => .error (.unexpected (.token token) (skipBlanks cs))

/-- A name takes at least a character. -/
theorem length_afterName_lt {cs rest : List Char} {c : Char} (h : skipBlanks cs = c :: rest)
    (hc : isNameStart c) : ((c :: rest).dropWhile isNameChar).length < cs.length := by
  have hle := length_skipBlanks_le cs
  have : (rest.dropWhile isNameChar).length ≤ rest.length := (List.dropWhile_sublist _).length_le
  simp only [h, List.length_cons] at hle
  simp only [List.dropWhile_cons, isNameChar_of_isNameStart hc, if_true]
  omega

/-- Reads a name after blanks, if one stands next. -/
def readName? (cs : List Char) : Option (Ahead cs String) :=
  match h : skipBlanks cs with
  | [] => none
  | c :: rest =>
    if hc : isNameStart c then
      some ⟨(String.ofList ((c :: rest).takeWhile isNameChar), (c :: rest).dropWhile isNameChar),
        length_afterName_lt h hc⟩
    else none

/-- Reads a node test. -/
def readTest (cs : List Char) : Reading (NotBehind cs NodeTest) :=
  match h : take? "*" cs with
  | some rest => .ok ⟨(.wildcard, rest), length_le_of_take? h⟩
  | none =>
    match readName? cs with
    | none => .error (.unexpected .nodeTest (skipBlanks cs))
    | some ⟨(name, rest), h₁⟩ =>
      match h₂ : take? "(" rest with
      | none =>
        .ok ⟨(.name name, skipBlanks rest),
          Nat.le_trans (length_skipBlanks_le rest) (Nat.le_of_lt h₁)⟩
      | some inside => do
        let ⟨((), after), h₃⟩ ← expect ")" inside
        match NodeTest.ofFunction? name with
        | some test =>
          return ⟨(test, after),
            Nat.le_trans h₃ (Nat.le_trans (length_le_of_take? h₂) (Nat.le_of_lt h₁))⟩
        | none => .error (.unknownTest name)

/-- Reads the value of an attribute in quotes. -/
def readLiteral (cs : List Char) : Reading (NotBehind cs String) :=
  match h : skipBlanks cs with
  | [] => .error (.unexpected .literal [])
  | q :: rest =>
    if q = '\x27' ∨ q = '\x22' then
      match h' : rest.dropWhile (· ≠ q) with
      | [] => .error .unterminatedLiteral
      | _ :: after =>
        .ok ⟨(String.ofList (rest.takeWhile (· ≠ q)), after), by
          have hle := length_skipBlanks_le cs
          have hd : (rest.dropWhile (· ≠ q)).length ≤ rest.length :=
            (List.dropWhile_sublist _).length_le
          rw [h] at hle
          rw [h'] at hd
          simp only [List.length_cons] at hle hd ⊢
          omega⟩
    else .error (.unexpected .literal (q :: rest))

/-- Reads a condition on an attribute after its at sign. -/
def readAttributeCondition (cs : List Char) : Reading (NotBehind cs Condition) :=
  match readName? cs with
  | none => .error (.unexpected .attributeName (skipBlanks cs))
  | some ⟨(name, rest), h₁⟩ =>
    match h₂ : take? "=" rest with
    | none => .ok ⟨(.hasAttribute name, rest), Nat.le_of_lt h₁⟩
    | some after => do
      let ⟨(value, after'), h₃⟩ ← readLiteral after
      return ⟨(.attributeEquals name value, after'),
        Nat.le_trans h₃ (Nat.le_trans (length_le_of_take? h₂) (Nat.le_of_lt h₁))⟩

/-- Reads a condition after its opening bracket. -/
def readCondition (cs : List Char) : Reading (NotBehind cs Condition) :=
  let digits := (skipBlanks cs).takeWhile Char.isDigit
  if !digits.isEmpty then
    match readIndex digits with
    | .ok n =>
      .ok ⟨(.position n, (skipBlanks cs).dropWhile Char.isDigit),
        Nat.le_trans (List.dropWhile_sublist _).length_le (length_skipBlanks_le cs)⟩
    | .error cause => .error (.badPosition digits cause)
  else
    match h : take? "last()" cs with
    | some rest => .ok ⟨(.last, rest), length_le_of_take? h⟩
    | none =>
      match h : take? "@" cs with
      | none => .error (.unexpected .condition (skipBlanks cs))
      | some rest => do
        let ⟨r, h'⟩ ← readAttributeCondition rest
        return ⟨r, Nat.le_trans h' (length_le_of_take? h)⟩

/-- Reads conditions as long as there are some. -/
def readConditions (cs : List Char) : Reading (NotBehind cs (List Condition)) :=
  match h : take? "[" cs with
  | none => .ok ⟨([], cs), Nat.le_refl _⟩
  | some rest => do
    let ⟨(condition, rest₁), h₁⟩ ← readCondition rest
    let ⟨((), rest₂), h₂⟩ ← expect "]" rest₁
    have hlt : rest₂.length < cs.length := by
      have := length_take?_le h
      have : "[".length = 1 := by decide
      simp only at h₁ h₂
      omega
    let ⟨(conditions, rest₃), h₃⟩ ← readConditions rest₂
    return ⟨(condition :: conditions, rest₃), by simp only at h₃ ⊢; omega⟩
termination_by cs.length

/-- Reads an axis, if one is given. -/
def readAxis (cs : List Char) : Reading (NotBehind cs Axis) :=
  match h : take? "@" cs with
  | some rest => .ok ⟨(.attribute, rest), length_le_of_take? h⟩
  | none =>
    match readName? cs with
    | none => .ok ⟨(.child, cs), Nat.le_refl _⟩
    | some ⟨(name, rest), h₁⟩ =>
      match h₂ : take? "::" rest with
      | none => .ok ⟨(.child, cs), Nat.le_refl _⟩
      | some after =>
        match Axis.ofName? name with
        | some axis =>
          .ok ⟨(axis, after), Nat.le_trans (length_le_of_take? h₂) (Nat.le_of_lt h₁)⟩
        | none => .error (.unknownAxis name)

/-- Reads a step. -/
def readStep (cs : List Char) : Reading (NotBehind cs Step) :=
  match h : take? ".." cs with
  | some rest =>
    .ok ⟨({ axis := .parent, test := .node }, rest), length_le_of_take? h⟩
  | none =>
    match h : take? "." cs with
    | some rest =>
      .ok ⟨({ axis := .self, test := .node }, rest), length_le_of_take? h⟩
    | none => do
      let ⟨(axis, rest₁), h₁⟩ ← readAxis cs
      let ⟨(test, rest₂), h₂⟩ ← readTest rest₁
      let ⟨(conditions, rest₃), h₃⟩ ← readConditions rest₂
      return ⟨({ axis, test, conditions }, rest₃), Nat.le_trans h₃ (Nat.le_trans h₂ h₁)⟩

/-- Reads steps up to the end of the text. -/
def readSteps (cs : List Char) : Reading (List Step) := do
  let ⟨(step, rest), h₁⟩ ← readStep cs
  match h₂ : take? "//" rest with
  | some after =>
    have : after.length < cs.length := by
      have := length_take?_le h₂
      have : "//".length = 2 := by decide
      simp only at h₁
      omega
    return step :: .anywhere :: (← readSteps after)
  | none =>
    match h₂ : take? "/" rest with
    | some after =>
      have : after.length < cs.length := by
        have := length_take?_le h₂
        have : "/".length = 1 := by decide
        simp only at h₁
        omega
      return step :: (← readSteps after)
    | none =>
      if (skipBlanks rest).isEmpty then return [step]
      else .error (.unexpected .slashOrEnd (skipBlanks rest))
termination_by cs.length

/-- Reads a path. -/
def readPath (text : String) : Reading Path :=
  let cs := text.toList
  match take? "//" cs with
  | some rest => do return { isAbsolute := true, steps := .anywhere :: (← readSteps rest) }
  | none =>
    match take? "/" cs with
    | some rest =>
      if (skipBlanks rest).isEmpty then .ok { isAbsolute := true, steps := [] }
      else do return { isAbsolute := true, steps := ← readSteps rest }
    | none => do return { isAbsolute := false, steps := ← readSteps cs }

end DocQuery.XPath
