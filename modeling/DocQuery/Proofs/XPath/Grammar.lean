import Mathlib
import DocQuery.XPath.Path

/-! The grammar of location paths, apart from any reader.  A construct is given by its texts, with
what they stand for: it relates the characters where a text of it starts to the characters after
that text.  Blanks may stand on both sides of a token. -/

namespace DocQuery.XPath

/-- `L s r` says that `s` is a text of `L` followed by `r`. -/
abbrev Construct : Type := List Char → List Char → Prop

namespace Grammar

/-- Space, tab, line feed, form feed and carriage return only. -/
def Blanks (cs : List Char) : Prop := ∀ c ∈ cs, c ∈ [' ', '\t', '\n', '\x0c', '\r']

def StartsName (c : Char) : Prop := c.isAlpha ∨ c = '_'

def GoesOnName (c : Char) : Prop := c.isAlphanum ∨ c = '_' ∨ c = '-' ∨ c = '.'

instance : DecidablePred StartsName := fun c => inferInstanceAs (Decidable (c.isAlpha ∨ c = '_'))

instance : DecidablePred GoesOnName := fun c =>
  inferInstanceAs (Decidable (c.isAlphanum ∨ c = '_' ∨ c = '-' ∨ c = '.'))

def IsName (name : String) : Prop :=
  ∃ c more, name.toList = c :: more ∧ StartsName c ∧ ∀ d ∈ more, GoesOnName d

/-- The names of the axes. -/
def axes : List (String × Axis) :=
  [("child", .child), ("descendant", .descendant), ("descendant-or-self", .descendantOrSelf),
    ("self", .self), ("parent", .parent), ("attribute", .attribute)]

/-- The names that parentheses stand behind. -/
def functions : List (String × NodeTest) :=
  [("text", .text), ("node", .node), ("comment", .comment)]

/-- The given characters between blanks. -/
def token (cs : List Char) : Construct := fun s r =>
  ∃ before after, Blanks before ∧ Blanks after ∧ s = before ++ (cs ++ (after ++ r))

/-- A name between blanks, as long as it can be. -/
def name (n : String) : Construct := fun s r =>
  IsName n ∧ ∃ before after, Blanks before ∧ Blanks after ∧
    s = before ++ (n.toList ++ (after ++ r)) ∧ ∀ c ∈ (after ++ r).head?, ¬GoesOnName c

/-- `'*' | Name | ('text' | 'node' | 'comment') '(' ')'`, where no parenthesis follows the name. -/
inductive Test : NodeTest → Construct
  | wildcard {s r} : token ['*'] s r → Test .wildcard s r
  | name {n s r} : name n s r → (¬∃ inside, token ['('] r inside) → Test (.name n) s r
  | function {n test s m inside r} : (n, test) ∈ functions → token n.toList s m →
      token ['('] m inside → token [')'] inside r → Test test s r

/-- `('@' | Axis '::')?` -/
inductive Lead : Axis → Construct
  | none {s} : Lead .child s s
  | at {s r} : token ['@'] s r → Lead .attribute s r
  | axis {n axis s m r} : (n, axis) ∈ axes → token n.toList s m → token [':', ':'] m r →
      Lead axis s r

/-- `Digits | 'last()' | '@' Name | '@' Name '=' Literal`, the value of the digits being below
`2 ^ 64`. -/
inductive Condition : XPath.Condition → Construct
  | position {digits s r} : digits ≠ [] → (∀ c ∈ digits, c.isDigit) →
      Nat.ofDigitChars 10 digits 0 < 2 ^ 64 → token digits s r →
      Condition (.position (Nat.ofDigitChars 10 digits 0)) s r
  | last {s r} : token "last()".toList s r → Condition .last s r
  | hasAttribute {n s m r} : token ['@'] s m → Grammar.name n m r → Condition (.hasAttribute n) s r
  | attributeEquals {n value q s m behind m' r} : token ['@'] s m → Grammar.name n m behind →
      token ['='] behind m' → q = '\x27' ∨ q = '\x22' → q ∉ value.toList →
      token (q :: (value.toList ++ [q])) m' r → Condition (.attributeEquals n value) s r

/-- `('[' Condition ']')*` -/
inductive Conditions : List XPath.Condition → Construct
  | nil {s} : Conditions [] s s
  | cons {condition conditions s inside behind m r} : token ['['] s inside →
      Condition condition inside behind → token [']'] behind m → Conditions conditions m r →
      Conditions (condition :: conditions) s r

/-- `'..' | '.' | Lead Test Conditions` -/
inductive Step : XPath.Step → Construct
  | parent {s r} : token ['.', '.'] s r → Step { axis := .parent, test := .node } s r
  | self {s r} : token ['.'] s r → Step { axis := .self, test := .node } s r
  | full {axis test conditions s m m' r} : Lead axis s m → Test test m m' →
      Conditions conditions m' r → Step { axis, test, conditions } s r

/-- `Step (('/' | '//') Step)*` up to the end of the text.  A double slash is a step of its own. -/
inductive Steps : List XPath.Step → List Char → Prop
  | last {step s r} : Step step s r → Blanks r → Steps [step] s
  | slash {step steps s m r} : Step step s m → token ['/'] m r → Steps steps r →
      Steps (step :: steps) s
  | slashes {step steps s m r} : Step step s m → token ['/', '/'] m r → Steps steps r →
      Steps (step :: { axis := .descendantOrSelf, test := .node } :: steps) s

/-- `'/' | ('/' | '//')? Steps` -/
inductive Path : XPath.Path → List Char → Prop
  | root {s r} : token ['/'] s r → Blanks r → Path ⟨true, []⟩ s
  | absolute {steps s r} : token ['/'] s r → Steps steps r → Path ⟨true, steps⟩ s
  | anywhere {steps s r} : token ['/', '/'] s r → Steps steps r →
      Path ⟨true, { axis := .descendantOrSelf, test := .node } :: steps⟩ s
  | relative {steps s} : Steps steps s → Path ⟨false, steps⟩ s

end Grammar

end DocQuery.XPath
