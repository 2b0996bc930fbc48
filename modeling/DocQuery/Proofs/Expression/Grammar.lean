import Mathlib
import DocQuery.Expression.Field
import DocQuery.Expression.Signal
import DocQuery.Text.Utf8

/-! The grammar of expressions, apart from any reader.  A construct is given by its texts: it
relates the bytes where a text of it starts to the bytes after that text.  What follows matters in
one place only, at the end of a name, so the bytes behind a text can be cut off, and others can be
put there as long as something follows already. -/

namespace DocQuery.Expression

/-- A construct: `L s r` says that `s` is a text of `L` followed by `r`. -/
abbrev Construct : Type := List UInt8 → List UInt8 → Prop

namespace Construct

/-- The empty text. -/
def empty : Construct := fun s r => s = r

/-- A text of one construct, then a text of another. -/
def append (L M : Construct) : Construct := fun s r => ∃ m, L s m ∧ M m r

instance : Append Construct := ⟨append⟩

/-- A text of a construct, or nothing. -/
def optional (L : Construct) : Construct := fun s r => s = r ∨ L s r

end Construct

/-- Space, tab, carriage return and line feed only. -/
def Blanks (bytes : List UInt8) : Prop := ∀ b ∈ bytes, isBlankByte b

instance : DecidablePred Blanks := fun bytes => List.decidableBAll _ bytes

/-- One letter, digit or underscore at least, and nothing else. -/
def IsName (name : String) : Prop :=
  name ≠ "" ∧ ∀ b ∈ Utf8.encode name, isNameByte b

namespace Grammar

/-- The given bytes after blanks. -/
def token (bytes : List UInt8) : Construct := fun s r =>
  ∃ blanks, Blanks blanks ∧ s = blanks ++ (bytes ++ r)

/-- A field's name, which ends before a blank, a bracket, a backtick, a semicolon or at the end. -/
def fieldName (name : String) : Construct := fun s r =>
  IsName name ∧ token (Utf8.encode name) s r ∧
    ∀ b, r.head? = some b → isBlankByte b ∨
      b ∈ [backtick, openBracket, openBrace, closeBracket, closeBrace, semicolon]

/-- An operation's name, as long as it can be. -/
def functionName (name : String) : Construct := fun s r =>
  IsName name ∧ token (Utf8.encode name) s r ∧ ∀ b, r.head? = some b → ¬isNameByte b

/-- A text in quotes; it has no quote inside. -/
def argument (arg : String) : Construct := fun s r =>
  quote ∉ Utf8.encode arg ∧ token (quote :: (Utf8.encode arg ++ [quote])) s r

/-- Arguments, a comma after each or none. -/
def arguments : List String → Construct
  | [] => .empty
  | arg :: args => argument arg ++ Construct.optional (token [comma]) ++ arguments args

/-- `Name '(' Argument* ')'` -/
def call (c : Call) : Construct :=
  functionName c.name ++ token [openParen] ++ arguments c.args ++ token [closeParen]

/-- Calls and semicolons in any order. -/
inductive Calls : List Call → Construct
  | nil {s} : Calls [] s s
  | semicolon {calls s m r} : token [semicolon] s m → Calls calls m r → Calls calls s r
  | cons {c calls s m r} : call c s m → Calls calls m r → Calls (c :: calls) s r

/-- Calls between backticks; a field without calls may go without the backticks. -/
def pipeline (calls : List Call) : Construct := fun s r =>
  (calls = [] ∧ s = r) ∨ (token [backtick] ++ Calls calls ++ token [backtick]) s r

/-- The block of a field of a type, `inside` being the texts of its children.  Text has no block
and no children, and no block gives a number. -/
def block (children : Forest Field) (inside : Construct) : FieldType → Construct
  | .text => fun s r => children = .nil ∧ s = r
  | .number => fun _ _ => False
  | .object => token [openBrace] ++ inside ++ token [closeBrace]
  | .array => token [openBracket] ++ inside ++ token [closeBracket]
  | .objects =>
    token [openBracket] ++ token [openBrace] ++ inside ++ token [closeBrace] ++
      token [closeBracket]

/-- `Name Pipeline? Block? ';'?` -/
def tree (field : Field) (children : Forest Field) (inside : Construct) : Construct :=
  fieldName field.name ++ pipeline field.pipeline ++ block children inside field.type ++
    Construct.optional (token [semicolon])

/-- Fields one after another. -/
def fields : Forest Field → Construct
  | .nil => .empty
  | .cons field children rest => tree field children (fields children) ++ fields rest

/-- A block of fields in braces, or one field. -/
def program : Shape → Forest Field → Construct
  | .object, forest => token [openBrace] ++ fields forest ++ token [closeBrace]
  | .atom, .cons field children .nil => tree field children (fields children)
  | .atom, _ => fun _ _ => False

end Grammar

/-- The bytes are a whole expression that declares the fields, blanks at the ends allowed. -/
def Sentence (shape : Shape) (forest : Forest Field) (bytes : List UInt8) : Prop :=
  ∃ blanks, Blanks blanks ∧ Grammar.program shape forest bytes blanks

/-! Texts and what follows them. -/

/-- What follows a text of the construct decides about it by its first byte at most. -/
structure Construct.Local (L : Construct) : Prop where
  /-- Bytes at the end of what follows can be cut off. -/
  cut : ∀ {s r v}, L s (r ++ v) → ∃ s', s = s' ++ v ∧ L s' r
  /-- Bytes can be put there, if something follows already. -/
  extend : ∀ {s r}, L s r → r ≠ [] → ∀ v, L (s ++ v) (r ++ v)

namespace Construct.Local

variable {L M : Construct}

/-- What follows a text is an end of what starts with it. -/
theorem suffix (h : L.Local) {s r : List UInt8} (hs : L s r) : ∃ w, s = w ++ r := by
  obtain ⟨w, hw, _⟩ := h.cut (r := []) (v := r) hs
  exact ⟨w, hw⟩

theorem empty : Construct.empty.Local where
  cut := by
    rintro _ r v rfl
    exact ⟨r, rfl, rfl⟩
  extend := by
    rintro s _ rfl _ v
    rfl

theorem append (hL : L.Local) (hM : M.Local) : (L ++ M).Local where
  cut := by
    rintro s r v ⟨m, hs, hm⟩
    obtain ⟨m', rfl, hm'⟩ := hM.cut hm
    obtain ⟨s', rfl, hs'⟩ := hL.cut hs
    exact ⟨s', rfl, m', hs', hm'⟩
  extend := by
    rintro s r ⟨m, hs, hm⟩ hr v
    obtain ⟨w, rfl⟩ := hM.suffix hm
    exact ⟨w ++ r ++ v, hL.extend hs (by simp [hr]) v, hM.extend hm hr v⟩

theorem optional (h : L.Local) : (Construct.optional L).Local where
  cut := by
    rintro s r v (rfl | hs)
    · exact ⟨r, rfl, .inl rfl⟩
    · obtain ⟨s', rfl, hs'⟩ := h.cut hs
      exact ⟨s', rfl, .inr hs'⟩
  extend := by
    rintro s r (rfl | hs) hr v
    · exact .inl rfl
    · exact .inr (h.extend hs hr v)

/-- A condition on the construct's value and one on the byte that follows keep it local. -/
theorem guarded (h : L.Local) (p : Prop) (follows : UInt8 → Prop) :
    Local fun s r => p ∧ L s r ∧ ∀ b, r.head? = some b → follows b where
  cut := by
    rintro s r v ⟨hp, hs, hr⟩
    obtain ⟨s', rfl, hs'⟩ := h.cut hs
    refine ⟨s', rfl, hp, hs', fun b hb => hr b ?_⟩
    rw [List.head?_append, hb]
    rfl
  extend := by
    rintro s r ⟨hp, hs, hr⟩ hne v
    refine ⟨hp, h.extend hs hne v, fun b hb => hr b ?_⟩
    rwa [List.head?_append, Option.or_of_isSome (List.isSome_head?.mpr hne)] at hb

end Construct.Local

namespace Grammar

/-- Bytes can always be put behind a token. -/
theorem token_append {bytes s r : List UInt8} (h : token bytes s r) (v : List UInt8) :
    token bytes (s ++ v) (r ++ v) := by
  obtain ⟨blanks, hblanks, rfl⟩ := h
  exact ⟨blanks, hblanks, by simp only [List.append_assoc]⟩

theorem local_token (bytes : List UInt8) : (token bytes).Local where
  cut := by
    rintro s r v ⟨blanks, hblanks, rfl⟩
    exact ⟨blanks ++ (bytes ++ r), by simp only [List.append_assoc], blanks, hblanks, rfl⟩
  extend h _ := token_append h

theorem local_argument (arg : String) : (argument arg).Local where
  cut := by
    rintro s r v ⟨harg, hs⟩
    obtain ⟨s', rfl, hs'⟩ := (local_token _).cut hs
    exact ⟨s', rfl, harg, hs'⟩
  extend := by
    rintro s r ⟨harg, hs⟩ _ v
    exact ⟨harg, token_append hs v⟩

theorem local_arguments (args : List String) : (arguments args).Local := by
  induction args with
  | nil => exact .empty
  | cons arg args ih =>
    exact ((local_argument arg).append (local_token _).optional).append ih

theorem local_fieldName (name : String) : (fieldName name).Local :=
  (local_token _).guarded _ _

theorem local_functionName (name : String) : (functionName name).Local :=
  (local_token _).guarded _ _

theorem local_call (c : Call) : (call c).Local :=
  (((local_functionName _).append (local_token _)).append (local_arguments _)).append
    (local_token _)

theorem Calls.cut {calls : List Call} {s r v : List UInt8} (h : Calls calls s (r ++ v)) :
    ∃ s', s = s' ++ v ∧ Calls calls s' r := by
  generalize hr : r ++ v = r' at h
  induction h with
  | nil => exact ⟨r, hr.symm, .nil⟩
  | semicolon ht _ ih =>
    obtain ⟨m, rfl, hm⟩ := ih hr
    obtain ⟨s, rfl, hs⟩ := (local_token _).cut ht
    exact ⟨s, rfl, .semicolon hs hm⟩
  | cons hc _ ih =>
    obtain ⟨m, rfl, hm⟩ := ih hr
    obtain ⟨s, rfl, hs⟩ := (local_call _).cut hc
    exact ⟨s, rfl, .cons hs hm⟩

theorem Calls.extend {calls : List Call} {s r : List UInt8} (h : Calls calls s r) (hr : r ≠ [])
    (v : List UInt8) : Calls calls (s ++ v) (r ++ v) := by
  induction h with
  | nil => exact .nil
  | semicolon ht _ ih => exact .semicolon (token_append ht v) (ih hr)
  | @cons c calls s m r hc hcalls ih =>
    obtain ⟨w, rfl, _⟩ := hcalls.cut (r := []) (v := r)
    exact .cons ((local_call c).extend hc (by simp [hr]) v) (ih hr)

theorem local_calls (calls : List Call) : (Calls calls).Local := ⟨Calls.cut, Calls.extend⟩

theorem local_pipeline (calls : List Call) : (pipeline calls).Local where
  cut := by
    rintro s r v (⟨hcalls, rfl⟩ | h)
    · exact ⟨r, rfl, .inl ⟨hcalls, rfl⟩⟩
    · obtain ⟨s', rfl, h'⟩ :=
        (((local_token _).append (local_calls calls)).append (local_token _)).cut h
      exact ⟨s', rfl, .inr h'⟩
  extend := by
    rintro s r (⟨hcalls, rfl⟩ | h) hr v
    · exact .inl ⟨hcalls, rfl⟩
    · exact .inr
        ((((local_token _).append (local_calls calls)).append (local_token _)).extend h hr v)

theorem local_block {inside : Construct} (h : inside.Local) (children : Forest Field)
    (type : FieldType) : (block children inside type).Local := by
  cases type with
  | text =>
    constructor
    · rintro s r v ⟨hchildren, rfl⟩
      exact ⟨r, rfl, hchildren, rfl⟩
    · rintro s r ⟨hchildren, rfl⟩ _ v
      exact ⟨hchildren, rfl⟩
  | number => exact ⟨False.elim, False.elim⟩
  | object => exact ((local_token _).append h).append (local_token _)
  | array => exact ((local_token _).append h).append (local_token _)
  | objects =>
    exact ((((local_token _).append (local_token _)).append h).append (local_token _)).append
      (local_token _)

theorem local_tree {inside : Construct} (h : inside.Local) (field : Field)
    (children : Forest Field) : (tree field children inside).Local :=
  (((local_fieldName _).append (local_pipeline _)).append (local_block h _ _)).append
    (local_token _).optional

theorem local_fields (forest : Forest Field) : (fields forest).Local := by
  induction forest with
  | nil => exact .empty
  | cons field children rest ihc ihr => exact (local_tree ihc field children).append ihr

/-- What follows a whole expression can be cut off. -/
theorem program_cut {shape : Shape} {forest : Forest Field} {s v : List UInt8}
    (h : program shape forest s v) : ∃ w, s = w ++ v ∧ program shape forest w [] := by
  match shape, forest, h with
  | .object, forest, h =>
    exact (((local_token _).append (local_fields forest)).append (local_token _)).cut h
  | .atom, .cons field children .nil, h => exact (local_tree (local_fields _) _ _).cut h

/-- Anything can be put behind a block in braces. -/
theorem program_append {forest : Forest Field} {s r : List UInt8}
    (h : program .object forest s r) (v : List UInt8) :
    program .object forest (s ++ v) (r ++ v) := by
  obtain ⟨m, hopen, hclose⟩ := h
  have hm : m ≠ [] := by
    obtain ⟨blanks, _, rfl⟩ := hclose
    simp
  exact ⟨m ++ v, ((local_token _).append (local_fields forest)).extend hopen hm v,
    token_append hclose v⟩

end Grammar

end DocQuery.Expression
