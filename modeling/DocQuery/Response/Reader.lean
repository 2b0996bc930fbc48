import DocQuery.Json.Reader
import DocQuery.Response.Basic
/-! Reading a response from JSON text: an object with the keys `data` and `errors`, each once, or an
array of the two.  Other keys are skipped with their values. -/

namespace DocQuery.Response

open Json (Reading Ahead Fault faultAt faultAfter next?)

/-! ### Skipping values -/

/-- Skips the characters of a string up to its closing quote. -/
def skipString (cs : List Char) : Reading (Ahead cs Unit) :=
  match cs with
  | [] => .error (faultAfter .endInString [])
  | c :: rest =>
    if c = '\x22' then .ok ⟨((), rest), Nat.lt_succ_self _⟩
    else if c = '\\' then
      match rest with
      | [] => .error (faultAfter .endInString [])
      | e :: rest =>
        if ['\x22', '\\', '/', 'b', 'f', 'n', 'r', 't'].contains e then do
          let ⟨r, h⟩ ← skipString rest
          .ok ⟨r, Nat.lt_succ_of_lt (Nat.lt_succ_of_lt h)⟩
        else if e = 'u' then do
          let ⟨(_, r1), h1⟩ ← Json.readHex rest
          have h1 : r1.length < rest.length := h1
          let ⟨r2, h2⟩ ← skipString r1
          .ok ⟨r2, Nat.lt_succ_of_lt (Nat.lt_succ_of_lt (Nat.lt_trans h2 h1))⟩
        else .error (faultAfter .invalidEscape rest)
    else if c.toNat < 0x20 then .error (faultAfter .controlCharacter rest)
    else do
      let ⟨r, h⟩ ← skipString rest
      .ok ⟨r, Nat.lt_succ_of_lt h⟩
termination_by cs.length

/-- Skips the exponent of a number, if there is one. -/
def skipExponent (cs : List Char) : Reading { r : List Char // r.length ≤ cs.length } :=
  match cs with
  | [] => .ok ⟨[], Nat.le_refl _⟩
  | c :: rest =>
    if c = 'e' ∨ c = 'E' then
      let ⟨(_, r1), h1⟩ := Json.takeSign rest
      match r1 with
      | [] => .error (faultAfter .invalidNumber [])
      | d :: r2 =>
        if d.isDigit then
          let ⟨(_, r3), h3⟩ := Json.dropDigits r2
          .ok ⟨r3, Nat.le_succ_of_le (Nat.le_trans h3 (Nat.le_of_succ_le h1))⟩
        else .error (faultAfter .invalidNumber r2)
    else .ok ⟨c :: rest, Nat.le_refl _⟩

/-- Skips a number after its sign. -/
def skipNumber (cs : List Char) : Reading { r : List Char // r.length < cs.length } :=
  match cs with
  | [] => .error (faultAfter .invalidNumber [])
  | c :: rest =>
    if !c.isDigit then .error (faultAfter .invalidNumber rest)
    else if c = '0' ∧ rest.head?.any Char.isDigit then .error (faultAt .invalidNumber rest)
    else
      let ⟨(_, r1), h1⟩ := Json.dropDigits rest
      match r1 with
      | '.' :: r2 =>
        let ⟨(count, r3), h3⟩ := Json.dropDigits r2
        if count = 0 then .error (faultAt .invalidNumber r3)
        else do
          let ⟨r4, h4⟩ ← skipExponent r3
          .ok ⟨r4, Nat.lt_succ_of_le (Nat.le_trans h4 (Nat.le_trans h3 (Nat.le_of_succ_le h1)))⟩
      | r1 => do
        let ⟨r2, h2⟩ ← skipExponent r1
        .ok ⟨r2, Nat.lt_succ_of_le (Nat.le_trans h2 h1)⟩

mutual

/-- Skips a value inside the open brackets, then all that they enclose. -/
def skipValue (frames : List Char) (cs : List Char) : Reading (Ahead cs Unit) :=
  match next? cs with
  | none => .error (faultAt .endInValue [])
  | some ⟨(c, rest), h⟩ =>
    have h : rest.length < cs.length := h
    let scalar (read : Reading { r : List Char // r.length < cs.length }) :
        Reading (Ahead cs Unit) := do
      let ⟨r, hr⟩ ← read
      let ⟨r', hr'⟩ ← skipRest frames true r
      .ok ⟨r', Nat.lt_of_le_of_lt hr' hr⟩
    let word (w : List Char) : Reading (Ahead cs Unit) :=
      scalar do
        let ⟨r, hr⟩ ← Json.readWord rest w
        .ok ⟨r, Nat.lt_of_le_of_lt hr h⟩
    if c = 'n' then word ['u', 'l', 'l']
    else if c = 't' then word ['r', 'u', 'e']
    else if c = 'f' then word ['a', 'l', 's', 'e']
    else if c = '-' then
      scalar do
        let ⟨r, hr⟩ ← skipNumber rest
        .ok ⟨r, Nat.lt_trans hr h⟩
    else if c.isDigit then
      scalar do
        let ⟨r, hr⟩ ← skipNumber (Json.skipBlanks cs)
        .ok ⟨r, Nat.lt_of_lt_of_le hr (Json.length_skipBlanks_le cs)⟩
    else if c = '\x22' then
      scalar do
        let ⟨(_, r), hr⟩ ← skipString rest
        .ok ⟨r, Nat.lt_trans hr h⟩
    else if c = '[' ∨ c = '\x7b' then do
      let ⟨r, hr⟩ ← skipRest (c :: frames) false rest
      .ok ⟨r, Nat.lt_of_le_of_lt hr h⟩
    else .error (faultAt .expectedValue (c :: rest))
termination_by (cs.length, 0)

/-- Skips what is left inside the open brackets; `comma` tells whether a value came before. -/
def skipRest (frames : List Char) (comma : Bool) (cs : List Char) :
    Reading { r : Unit × List Char // r.2.length ≤ cs.length } :=
  match frames with
  | [] => .ok ⟨((), cs), Nat.le_refl _⟩
  | frame :: outer =>
    let isList := frame == '['
    match next? cs with
    | none => .error (faultAt (if isList then .endInList else .endInObject) [])
    | some ⟨(c, rest), h⟩ =>
      have h : rest.length < cs.length := h
      if c = (if isList then ']' else '\x7d') then do
        let ⟨r, hr⟩ ← skipRest outer true rest
        .ok ⟨r, Nat.le_of_lt (Nat.lt_of_le_of_lt hr h)⟩
      else if comma && c != ',' then
        .error (faultAt (if isList then .expectedCommaOrBracket else .expectedCommaOrBrace)
          (c :: rest))
      else
        have start : { r : List Char // r.length ≤ cs.length } :=
          if comma then ⟨rest, Nat.le_of_lt h⟩ else ⟨cs, Nat.le_refl _⟩
        if isList then do
          let ⟨r, hr⟩ ← skipValue frames start.val
          .ok ⟨r, Nat.le_of_lt (Nat.lt_of_lt_of_le hr start.property)⟩
        else
          match next? start.val with
          | none => .error (faultAt .endInObject [])
          | some ⟨(q, r1), h1⟩ =>
            if q ≠ '\x22' then .error (faultAt .keyNotString (q :: r1))
            else do
              let ⟨(_, r2), h2⟩ ← skipString r1
              let ⟨(_, r3), h3⟩ ← Json.readColon r2
              have h3 : r3.length < cs.length := by
                have := start.property
                simp only at h1 h2 h3; omega
              let ⟨r, hr⟩ ← skipValue frames r3
              .ok ⟨r, Nat.le_of_lt (Nat.lt_trans hr h3)⟩
termination_by (cs.length, 1)
decreasing_by
  all_goals first
    | exact Prod.Lex.left _ _ (by assumption)
    | (have hs := start.property
       rcases Nat.lt_or_eq_of_le hs with h | h
       · exact Prod.Lex.left _ _ h
       · rw [h]; exact Prod.Lex.right _ Nat.zero_lt_one)

end

/-! ### Responses -/

/-- The value is of another form than expected; it is read as far as it is a scalar. -/
def unexpectedValue (expected : String) (cs : List Char) : Fault :=
  let told (value : Json) (rest : List Char) : Fault :=
    faultAfter (.form (invalidType value expected).message) rest
  match next? cs with
  | none => faultAt .endInValue []
  | some ⟨(c, rest), _⟩ =>
    if c = '[' then told (.array []) (c :: rest)
    else if c = '\x7b' then told (.object []) (c :: rest)
    else match Json.readValue 0 cs with
      | .ok ⟨(value, r), _⟩ => told value r
      | .error fault => fault

/-- Reads a text. -/
def readText (cs : List Char) : Reading (Ahead cs String) :=
  match next? cs with
  | none => .error (faultAt .endInValue [])
  | some ⟨(c, rest), h⟩ =>
    if c = '\x22' then do
      let ⟨r, hr⟩ ← Json.readString rest
      .ok ⟨r, Nat.lt_trans hr h⟩
    else .error (unexpectedValue "a string" cs)

/-- Reads a list of texts. -/
def readTexts (cs : List Char) : Reading (Ahead cs (List String)) :=
  match next? cs with
  | none => .error (faultAt .endInValue [])
  | some ⟨(c, rest), h⟩ =>
    if c = '[' then do
      let ⟨r, hr⟩ ← Json.readItems readText true rest
      .ok ⟨r, Nat.lt_trans hr h⟩
    else .error (unexpectedValue "a sequence" cs)

/-- Depth left for the data inside a response. -/
def dataDepth : Nat := Json.maxDepth - 1

/-- Reads the members of a response; `data` and `errors` are what has been read of them. -/
def readFields (data : Option Json) (errors : Option (List String)) (first : Bool)
    (cs : List Char) : Reading (Response × List Char) := do
  let ⟨(more, r1), h1⟩ ← Json.nextKey first cs
  if more then
    let ⟨(key, r2), h2⟩ ← Json.readString r1
    if key = "data" then
      if data.isSome then .error (faultAfter (.form "duplicate field `data`") r2)
      else
        let ⟨(_, r3), h3⟩ ← Json.readColon r2
        let ⟨(value, r4), h4⟩ ← Json.readValue dataDepth r3
        have : r4.length < cs.length := by simp only at h1 h2 h3 h4; omega
        readFields (some value) errors false r4
    else if key = "errors" then
      if errors.isSome then .error (faultAfter (.form "duplicate field `errors`") r2)
      else
        let ⟨(_, r3), h3⟩ ← Json.readColon r2
        let ⟨(value, r4), h4⟩ ← readTexts r3
        have : r4.length < cs.length := by simp only at h1 h2 h3 h4; omega
        readFields data (some value) false r4
    else
      let ⟨(_, r3), h3⟩ ← Json.readColon r2
      let ⟨(_, r4), h4⟩ ← skipValue [] r3
      have : r4.length < cs.length := by simp only at h1 h2 h3 h4; omega
      readFields data errors false r4
  else
    match data, errors with
    | some data, some errors => .ok ({ data, errors }, r1)
    | none, _ => .error (faultAfter (.form "missing field `data`") r1)
    | _, none => .error (faultAfter (.form "missing field `errors`") r1)
termination_by cs.length

/-- Goes to the next item of an array; `none` if the array ends first. -/
def nextItem (first : Bool) (cs : List Char) : Reading (Option (List Char)) :=
  match next? cs with
  | none => .error (faultAt .endInList [])
  | some ⟨(c, r1), _⟩ =>
    if c = ']' then .ok none
    else if first then .ok (some cs)
    else if c = ',' then
      match next? r1 with
      | none => .error (faultAt .endInValue [])
      | some ⟨(c', r2), _⟩ =>
        if c' = ']' then .error (faultAt .trailingComma (c' :: r2)) else .ok (some r1)
    else .error (faultAt .expectedCommaOrBracket (c :: r1))

/-- Ends an array of which all items have been read. -/
def endItems (cs : List Char) : Reading (List Char) :=
  match next? cs with
  | none => .error (faultAt .endInList [])
  | some ⟨(c, r1), _⟩ =>
    if c = ']' then .ok r1
    else if c = ',' then
      match next? r1 with
      | some ⟨(']', r2), _⟩ => .error (faultAt .trailingComma (']' :: r2))
      | some ⟨(c', r2), _⟩ => .error (faultAt .trailingCharacters (c' :: r2))
      | none => .error (faultAt .trailingCharacters [])
    else .error (faultAt .trailingCharacters (c :: r1))

/-- An array with too few items. -/
def tooShort (length : Nat) (cs : List Char) : Fault :=
  let message := s!"invalid length {length}, expected struct Response with 2 elements"
  match endItems cs with
  | .ok rest => faultAfter (.form message) rest
  | .error _ => faultAfter (.form message) cs

/-- Reads the data and the errors of a response written as an array. -/
def readPair (cs : List Char) : Reading (Response × List Char) := do
  match ← nextItem true cs with
  | none => .error (tooShort 0 cs)
  | some r1 =>
    let ⟨(data, r2), _⟩ ← Json.readValue dataDepth r1
    match ← nextItem false r2 with
    | none => .error (tooShort 1 r2)
    | some r3 =>
      let ⟨(errors, r4), _⟩ ← readTexts r3
      return ({ data, errors }, ← endItems r4)

/-- Reads a response. -/
def read (cs : List Char) : Reading Response := do
  let (response, rest) ←
    match next? cs with
    | none => .error (faultAt .endInValue [])
    | some ⟨(c, rest), _⟩ =>
      if c = '\x7b' then readFields none none true rest
      else if c = '[' then readPair rest
      else .error (unexpectedValue "struct Response" cs)
  Json.readEnd rest
  return response

/-- Reads a response from text. -/
def ofText (text : String) : Except ResponseError Response :=
  match read text.toList with
  | .ok response => .ok response
  | .error fault => .error (.form (fault.message text))

end DocQuery.Response
