import DocQuery.Expression.Cursor
import DocQuery.Expression.Field
/-! Reading an expression.

    Program   := Object | Field
    Object    := '{' Field* '}'
    Field     := Name Pipeline? Block? ';'?
    Pipeline  := '`' (Call | ';')* '`'
    Call      := Name '(' ('"' text '"' ','?)* ')'
    Block     := '{' Field* '}' | '[' Field* ']' | '[' '{' Field* '}' ']'

Blanks may stand between any two tokens, and a field's name ends at a blank, a bracket, a backtick,
a semicolon or the end.  The first error ends the reading.  Every function returns its cursor with
the fact that it has moved forward, or at least not back, which is why the reading ends. -/

namespace DocQuery.Expression

/-- A value read from a cursor, with a later cursor. -/
abbrev Ahead (c : Cursor) (α : Type) : Type :=
  { r : α × Cursor // r.2.rest.length < c.rest.length }

/-- A value read from a cursor, with a cursor that is not earlier. -/
abbrev NotBehind (c : Cursor) (α : Type) : Type :=
  { r : α × Cursor // r.2.rest.length ≤ c.rest.length }

/-- Reading stops at the first error. -/
abbrev Reading : Type → Type := Except CompileError

/-- Takes a byte that must be there. -/
def expect (operation : String) (expected : UInt8) (c : Cursor) : Reading (Ahead c Unit) :=
  match h : c.next? with
  | some (b, c') =>
    if b = expected then .ok ⟨((), c'), Cursor.length_next?_lt h⟩
    else .error (c'.mismatch operation expected (some b))
  | none => .error (c.mismatch operation expected none)

/-- Takes the next byte if it is the given one. -/
def take? (b : UInt8) (c : Cursor) : Option { c' : Cursor // c'.rest.length < c.rest.length } :=
  match h : c.next? with
  | some (b', c') => if b' = b then some ⟨c', Cursor.length_next?_lt h⟩ else none
  | none => none

/-- Moves over the next byte if it is the given one. -/
def skipByte (b : UInt8) (c : Cursor) : { c' : Cursor // c'.rest.length ≤ c.rest.length } :=
  match take? b c with
  | some ⟨c', h⟩ => ⟨c', Nat.le_of_lt h⟩
  | none => ⟨c, Nat.le_refl _⟩

/-- Bytes that may follow a field's name. -/
def endsName (b : UInt8) : Bool :=
  isBlankByte b || b == backtick || b == openBracket || b == openBrace || b == closeBracket ||
    b == closeBrace || b == semicolon

/-- Reads a field's name. -/
def readFieldName (c : Cursor) : Reading (Ahead c String) :=
  match h : c.skipBlanks.current? with
  | none => .error (c.unexpected "read_node" none)
  | some b =>
    if hb : isNameByte b then
      let r := c.skipBlanks.readName
      if r.2.current?.all endsName then
        .ok ⟨r, Nat.lt_of_lt_of_le (Cursor.length_readName_lt h hb) c.length_skipBlanks_le⟩
      else .error ((r.2.seek (r.2.position + 1)).unexpected "read_node_name" r.2.current?)
    else
      .error ((c.skipBlanks.seek (c.skipBlanks.position + 1)).unexpected "read_node" (some b))

/-- Reads arguments after their opening parenthesis, up to the closing one. -/
def readArguments (c : Cursor) : Reading (Ahead c (List String)) :=
  match h : c.next? with
  | none => .error (c.unexpected "read_string_tuple" none)
  | some (b, c1) =>
    have h1 := Cursor.length_next?_lt h
    if b = closeParen then .ok ⟨([], c1), h1⟩
    else if b = quote then
      match h2 : c1.readUntil? quote with
      | none => .error (c1.toEnd.mismatch "read_string_tuple" quote none)
      | some (raw, c2) =>
        have h2 := Cursor.length_readUntil?_lt h2
        match Utf8.decode raw with
        | .error fault => .error (c2.error "read_string_tuple" (.notUtf8 fault))
        | .ok arg => do
          let ⟨c3, h3⟩ := skipByte comma c2
          let ⟨(args, c4), h4⟩ ← readArguments c3
          .ok ⟨(arg :: args, c4), by simp only at h4 ⊢; omega⟩
    else .error (c1.unexpected "read_string_tuple" (some b))
termination_by c.rest.length

/-- Reads a call, at a byte that is not blank. -/
def readCall (c : Cursor) : Reading (Ahead c Call) :=
  match h : c.current? with
  | none => .error (c.unexpected "read_func_name" none)
  | some b =>
    if hb : isNameByte b then do
      have h1 := Cursor.length_readName_lt h hb
      let ⟨(_, c2), h2⟩ ← expect "read_string_tuple" openParen c.readName.2
      let ⟨(args, c3), h3⟩ ← readArguments c2
      .ok ⟨({ name := c.readName.1, args }, c3), by simp only at h2 h3 ⊢; omega⟩
    else .error ((c.seek (c.position + 1)).unexpected "read_func_name" (some b))

/-- Reads calls and semicolons up to the closing backtick. -/
def readCalls (c : Cursor) : Reading (Ahead c (List Call)) :=
  match h : c.next? with
  | none => .error (c.mismatch "read_pipelines" backtick none)
  | some (b, c1) =>
    have h1 := Cursor.length_next?_lt h
    if b = backtick then .ok ⟨([], c1), h1⟩
    else if b = semicolon then do
      let ⟨(calls, c2), h2⟩ ← readCalls c1
      .ok ⟨(calls, c2), by simp only at h2 ⊢; omega⟩
    else do
      let ⟨(call, c2), h2⟩ ← readCall c.skipBlanks
      have h2 : c2.rest.length < c.rest.length := Nat.lt_of_lt_of_le h2 c.length_skipBlanks_le
      let ⟨(calls, c3), h3⟩ ← readCalls c2
      .ok ⟨(call :: calls, c3), by simp only at h3 ⊢; omega⟩
termination_by c.rest.length

/-- Reads a pipeline, if one opens here. -/
def readPipeline (c : Cursor) : Reading (NotBehind c (List Call)) :=
  match take? backtick c with
  | none => .ok ⟨([], c), Nat.le_refl _⟩
  | some ⟨c1, h1⟩ => do
    let ⟨(calls, c2), h2⟩ ← readCalls c1
    .ok ⟨(calls, c2), by simp only at h2 ⊢; omega⟩

mutual

/-- Reads a field with its children. -/
def readTree (c : Cursor) : Reading (Ahead c (Tree Field)) := do
  let ⟨(name, c1), h1⟩ ← readFieldName c
  let ⟨(pipeline, c2), h2⟩ ← readPipeline c1
  have : c2.rest.length < c.rest.length := Nat.lt_of_le_of_lt h2 h1
  let ⟨((type, children), c3), h3⟩ ← readBlock c2
  let ⟨c4, h4⟩ := skipByte semicolon c3
  .ok ⟨({ label := { name, type, pipeline }, children }, c4), by simp only at h3 ⊢; omega⟩
termination_by (c.rest.length, 0)

/-- Reads a field's block of children, if one opens here; its brackets give the field's type. -/
def readBlock (c : Cursor) : Reading (NotBehind c (FieldType × Forest Field)) :=
  match take? openBracket c with
  | some ⟨c1, h1⟩ =>
    match take? openBrace c1 with
    | some ⟨c2, h2⟩ => do
      let ⟨(fields, c3), h3⟩ ← readForest "read_object_array" closeBrace c2
      let ⟨(_, c4), h4⟩ ← expect "read_object_array" closeBracket c3
      .ok ⟨((.objects, fields), c4), by simp only at h3 h4 ⊢; omega⟩
    | none => do
      let ⟨(fields, c3), h3⟩ ← readForest "read_array" closeBracket c1
      .ok ⟨((.array, fields), c3), by simp only at h3 ⊢; omega⟩
  | none =>
    match take? openBrace c with
    | some ⟨c1, h1⟩ => do
      let ⟨(fields, c3), h3⟩ ← readForest "read_object" closeBrace c1
      .ok ⟨((.object, fields), c3), by simp only at h3 ⊢; omega⟩
    | none => .ok ⟨((.text, .nil), c), Nat.le_refl _⟩
termination_by (c.rest.length, 0)

/-- Reads fields up to a closing byte, and that byte. -/
def readForest (operation : String) (close : UInt8) (c : Cursor) :
    Reading (Ahead c (Forest Field)) :=
  match h : c.next? with
  | none => .error (c.mismatch operation close none)
  | some (b, c1) =>
    if b = close then .ok ⟨(.nil, c1), Cursor.length_next?_lt h⟩
    else do
      let ⟨(tree, c2), h2⟩ ← readTree c
      have h2 : c2.rest.length < c.rest.length := h2
      let ⟨(rest, c3), h3⟩ ← readForest operation close c2
      .ok ⟨(tree.consTo rest, c3), by simp only at h3 ⊢; omega⟩
termination_by (c.rest.length, 1)

end

/-- Reads a block of fields in braces. -/
def readObject (c : Cursor) : Reading (Ahead c (Forest Field)) := do
  let ⟨(_, c1), h1⟩ ← expect "read_object" openBrace c
  let ⟨(fields, c2), h2⟩ ← readForest "read_object" closeBrace c1
  .ok ⟨(fields, c2), by simp only at h1 h2 ⊢; omega⟩

/-- Reads a whole expression.  What follows its first field or block is not looked at. -/
def readTop (c : Cursor) : Reading (Ahead c (Shape × Forest Field)) :=
  match c.signal with
  | .object => do
    let ⟨(fields, c1), h1⟩ ← readObject c
    .ok ⟨((.object, fields), c1), h1⟩
  | _ => do
    let ⟨(tree, c1), h1⟩ ← readTree c
    .ok ⟨((.atom, tree.consTo .nil), c1), h1⟩

end DocQuery.Expression
