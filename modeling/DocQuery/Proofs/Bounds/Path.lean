import DocQuery.Proofs.Bounds.Scanner
import DocQuery.Proofs.Text.Bytes
import DocQuery.XPath.Reader

/-! Location paths by position.  The reader of paths keeps a position in the bytes of its text, tries
tokens on the bytes from there on, and takes names, numbers and literals out as slices.  Beside the
reader on characters it stands at a place between two characters, up to blanks that one of the two
has skipped already.  So every slice starts and ends inside the text. -/

namespace DocQuery.Indexed.Path

open Scan Utf8
open XPath (Axis NodeTest Condition Step PathError Reading)

section

variable (input : List UInt8)

def peek? : Scan String (Option UInt8) := do
  return input[← get]?

def skipWhile (p : UInt8 → Bool) : Scan String Unit :=
  modify fun position => position + ((input.drop position).takeWhile p).length

def skipBlanks : Scan String Unit := skipWhile input fun b => XPath.isBlank (asChar b)

/-- The text from an earlier position up to this one. -/
def textSince (start : Nat) : Scan String String := do
  let bytes ← taken (slice? input start (← get))
  return Utf8.decodeLossy bytes

def eat (token : String) : Scan String Bool := do
  skipBlanks input
  let rest ← taken (slice? input (← get) input.length)
  if (Utf8.encode token).isPrefixOf rest then
    modify (· + (Utf8.encode token).length)
    return true
  else return false

def unexpected (context : String) : Scan String α := do
  match ← peek? input with
  | none => throw (context ++ ", found end of expression")
  | some b => throw s!"{context}, found {Text.quotedChar (asChar b)} at offset {← get}"

def expect (token : String) : Scan String Unit := do
  if ← eat input token then return ()
  else unexpected input ("expected " ++ Text.quoted token)

def name? : Scan String (Option String) := do
  skipBlanks input
  let start ← get
  match ← peek? input with
  | none => return none
  | some b =>
    if XPath.isNameStart (asChar b) then
      skipWhile input fun b => XPath.isNameChar (asChar b)
      let name ← textSince input start
      return some name
    else return none

def nodeTest : Scan String NodeTest := do
  if ← eat input "*" then return .wildcard
  else
    match ← name? input with
    | none => unexpected input "expected a node test"
    | some name =>
      if ← eat input "(" then
        expect input ")"
        match NodeTest.ofFunction? name with
        | some test => return test
        | none => throw ("unsupported node test " ++ name ++ "()")
      else return .name name

/-- The text up to the next of a quote, the position behind it. -/
def quotedUntil (quote : UInt8) : Scan String String := do
  let start ← get
  skipWhile input (· != quote)
  match ← peek? input with
  | none => throw "unterminated literal"
  | some _ =>
    let value ← textSince input start
    modify (· + 1)
    return value

def literal : Scan String String := do
  skipBlanks input
  match ← peek? input with
  | none => unexpected input "expected a quoted literal"
  | some q =>
    if asChar q = '\x27' ∨ asChar q = '\x22' then
      modify (· + 1)
      quotedUntil input q
    else unexpected input "expected a quoted literal"

def attributePredicate : Scan String Condition := do
  match ← name? input with
  | none => unexpected input "expected an attribute name"
  | some name =>
    if ← eat input "=" then
      let value ← literal input
      return .attributeEquals name value
    else return .hasAttribute name

def predicate : Scan String Condition := do
  skipBlanks input
  let start ← get
  if (← peek? input).any fun b => (asChar b).isDigit then
    skipWhile input fun b => (asChar b).isDigit
    let digits ← textSince input start
    match readIndex digits.toList with
    | .ok n => return .position n
    | .error cause => throw ("invalid position " ++ digits ++ ": " ++ cause.message)
  else if ← eat input "last()" then return .last
  else if ← eat input "@" then attributePredicate input
  else unexpected input "expected a position or attribute predicate"

def predicates : Nat → Scan String (List Condition)
  | 0 => taken none
  | steps + 1 => do
    if ← eat input "[" then
      let condition ← predicate input
      expect input "]"
      let conditions ← predicates steps
      return condition :: conditions
    else return []

def axis : Scan String Axis := do
  if ← eat input "@" then return .attribute
  else
    let start ← get
    match ← name? input with
    | none =>
      set start
      return .child
    | some name =>
      if ← eat input "::" then
        match Axis.ofName? name with
        | some axis => return axis
        | none => throw ("unsupported axis " ++ Text.quoted name)
      else
        set start
        return .child

def step (steps : Nat) : Scan String Step := do
  if ← eat input ".." then return { axis := .parent, test := .node }
  else if ← eat input "." then return { axis := .self, test := .node }
  else
    let axis ← axis input
    let test ← nodeTest input
    let conditions ← predicates input steps
    return { axis, test, conditions }

def stepsFrom : Nat → Scan String (List Step)
  | 0 => taken none
  | steps + 1 => do
    let step ← step input (steps + 1)
    if ← eat input "//" then
      let more ← stepsFrom steps
      return step :: .anywhere :: more
    else if ← eat input "/" then
      let more ← stepsFrom steps
      return step :: more
    else
      skipBlanks input
      match ← peek? input with
      | none => return [step]
      | some _ => unexpected input "expected \"/\" or end of path"

def path (steps : Nat) : Scan String XPath.Path := do
  skipBlanks input
  let isAbsolute := (← peek? input).any fun b => asChar b = '/'
  if ← eat input "//" then
    let rest ← stepsFrom input steps
    return { isAbsolute, steps := .anywhere :: rest }
  else if ← eat input "/" then
    skipBlanks input
    match ← peek? input with
    | none => return { isAbsolute, steps := [] }
    | some _ =>
      let rest ← stepsFrom input steps
      return { isAbsolute, steps := rest }
  else
    let rest ← stepsFrom input steps
    return { isAbsolute, steps := rest }

end

/-- The path that a text is, read with a step for each of its bytes. -/
def ofText (text : String) : Option (Except String XPath.Path) :=
  let input := Utf8.encode text
  ((path input (input.length + 1)).runAt 0).map fun found => found.map (·.1)

/-! ### Places between characters -/

theorem dropToken?_eq_some_iff {token cs rest : List Char} :
    XPath.dropToken? token cs = some rest ↔ cs = token ++ rest := by
  induction token generalizing cs with
  | nil => simp [XPath.dropToken?]
  | cons t token ih =>
    cases cs with
    | nil => simp [XPath.dropToken?]
    | cons c cs =>
      rw [XPath.dropToken?]
      by_cases htc : t = c
      · simp [htc, ih]
      · simp [htc, Ne.symm htc]

/-- The position stands in the bytes before those of the characters. -/
def Stands (input : List UInt8) (position : Nat) (cs : List Char) : Prop :=
  ∃ front, input = front ++ bytesOf cs ∧ front.length = position

/-- The position stands before the characters, up to blanks. -/
def Near (input : List UInt8) (position : Nat) (cs : List Char) : Prop :=
  ∃ cs', Stands input position cs' ∧ XPath.skipBlanks cs' = XPath.skipBlanks cs

theorem skipBlanks_skipBlanks (cs : List Char) :
    XPath.skipBlanks (XPath.skipBlanks cs) = XPath.skipBlanks cs := List.dropWhile_idempotent _ cs

theorem Stands.near {input : List UInt8} {p : Nat} {cs : List Char} (h : Stands input p cs) :
    Near input p cs := ⟨cs, h, rfl⟩

theorem Stands.near_of_skipBlanks {input : List UInt8} {p : Nat} {cs : List Char}
    (h : Stands input p (XPath.skipBlanks cs)) : Near input p cs :=
  ⟨XPath.skipBlanks cs, h, skipBlanks_skipBlanks cs⟩

section

variable {input : List UInt8} {p : Nat} {cs : List Char}

section

variable (h : Stands input p cs)
include h

theorem drop_eq : input.drop p = bytesOf cs := by
  obtain ⟨front, rfl, rfl⟩ := h
  exact List.drop_left

theorem runAt_peek? : (peek? input).runAt p = some (.ok ((bytesOf cs).head?, p)) := by
  have hbyte : input[p]? = (bytesOf cs).head? := by
    rw [← drop_eq h, List.head?_drop]
  unfold peek?
  rw [runAt_bind_ok (runAt_get _), hbyte]
  rfl

theorem Stands.drop {taken rest : List Char} (hcs : cs = taken ++ rest) :
    Stands input (p + (bytesOf taken).length) rest := by
  obtain ⟨front, rfl, rfl⟩ := h
  refine ⟨front ++ bytesOf taken, ?_, by simp⟩
  rw [hcs, bytesOf_append, List.append_assoc]

theorem runAt_skipWhile {f : UInt8 → Bool} {g : Char → Bool} (hfg : Matches f g) :
    (skipWhile input f).runAt p = some (.ok ((), p + (bytesOf (cs.takeWhile g)).length)) := by
  unfold skipWhile
  rw [runAt_modify, drop_eq h, takeWhile_bytesOf hfg]

theorem runAt_textSince {taken rest : List Char} (hcs : cs = taken ++ rest) :
    (textSince input p).runAt (p + (bytesOf taken).length) =
      some (.ok (String.ofList taken, p + (bytesOf taken).length)) := by
  obtain ⟨front, rfl, rfl⟩ := h
  have hslice := slice?_append front (bytesOf taken) (bytesOf rest)
  have htext : Utf8.decodeLossy (bytesOf taken) = String.ofList taken := by
    rw [bytesOf, ← Utf8.encode_ofList, Utf8.decodeLossy_encode]
  rw [hcs, bytesOf_append]
  unfold textSince
  rw [runAt_bind_ok (runAt_get _), hslice, runAt_bind_ok (runAt_taken _ _), htext]
  rfl

omit h in
theorem message_of_end (text : String) (wanted : XPath.Wanted) :
    (PathError.unexpected wanted []).message text =
      PathError.wantedText wanted ++ ", found end of expression" := rfl

omit h in
theorem message_of_byte (text : String) (wanted : XPath.Wanted) (c : Char) (rest : List Char) :
    (PathError.unexpected wanted (c :: rest)).message text =
      s!"{PathError.wantedText wanted}, found {Text.quotedChar (PathError.firstByte c)} at offset {
        PathError.byteLength text.toList - PathError.byteLength (c :: rest)}" := rfl

theorem runAt_unexpected {text : String} (htext : input = Utf8.encode text) (wanted : XPath.Wanted) :
    (unexpected input (PathError.wantedText wanted) : Scan String α).runAt p =
      some (.error ((PathError.unexpected wanted cs).message text)) := by
  have hpeek := runAt_peek? h
  unfold unexpected
  cases cs with
  | nil =>
    rw [runAt_bind_ok hpeek, message_of_end]
    rfl
  | cons c cs =>
    obtain ⟨b, hb, hhead⟩ := head?_bytesOf_cons c cs
    have hchar : PathError.firstByte c = asChar b := by
      rw [PathError.firstByte, Utf8.encode_ofList]
      simp [List.headD_eq_head?_getD, hhead, asChar]
    have hplace : PathError.byteLength text.toList - PathError.byteLength (c :: cs) = p := by
      obtain ⟨front, hinput, rfl⟩ := h
      have hall : bytesOf text.toList = input := htext.symm
      unfold PathError.byteLength
      rw [← length_bytesOf, ← length_bytesOf, hall, hinput, List.length_append]
      omega
    rw [hb] at hpeek
    rw [runAt_bind_ok hpeek]
    dsimp only
    rw [runAt_bind_ok (runAt_get _), runAt_throw, message_of_byte, hchar, hplace]

end

variable (h : Near input p cs)
include h

theorem runAt_skipBlanks :
    ∃ q, (skipBlanks input).runAt p = some (.ok ((), q)) ∧ Stands input q (XPath.skipBlanks cs) := by
  obtain ⟨cs', hstands, hskip⟩ := h
  have hblank : Matches (fun b => XPath.isBlank (asChar b)) XPath.isBlank := by
    apply matches_of_ascii
    intro c hc
    simp only [XPath.isBlank, Bool.or_eq_true, beq_iff_eq] at hc
    rcases hc with (((rfl | rfl) | rfl) | rfl) | rfl <;> decide
  refine ⟨_, runAt_skipWhile hstands hblank, ?_⟩
  rw [← hskip]
  exact hstands.drop (List.takeWhile_append_dropWhile ..).symm

theorem runAt_eat (token : String) : ∃ q, Stands input q (XPath.skipBlanks cs) ∧
    (eat input token).runAt p = some (.ok (if token.toList <+: XPath.skipBlanks cs
      then (true, q + (bytesOf token.toList).length) else (false, q))) := by
  obtain ⟨q, hskip, hstands⟩ := runAt_skipBlanks h
  refine ⟨q, hstands, ?_⟩
  have hslice : slice? input q input.length = some (bytesOf (XPath.skipBlanks cs)) := by
    obtain ⟨front, rfl, rfl⟩ := hstands
    have hslice := slice?_append front (bytesOf (XPath.skipBlanks cs)) []
    rw [List.append_nil] at hslice
    rw [List.length_append]
    exact hslice
  have hstart : (Utf8.encode token).isPrefixOf (bytesOf (XPath.skipBlanks cs)) ↔
      token.toList <+: XPath.skipBlanks cs := by
    rw [List.isPrefixOf_iff_prefix, ← bytesOf_isPrefixOf_iff]
    rfl
  unfold eat
  rw [runAt_bind_ok hskip, runAt_bind_ok (runAt_get _), hslice, runAt_bind_ok (runAt_taken _ _)]
  by_cases htoken : token.toList <+: XPath.skipBlanks cs
  · rw [if_pos htoken, if_pos (hstart.mpr htoken), runAt_bind_ok (runAt_modify _ _)]
    rfl
  · rw [if_neg htoken, if_neg (mt hstart.mp htoken)]
    rfl

theorem runAt_eat_some {token : String} {rest : List Char} (htake : XPath.take? token cs = some rest) :
    ∃ q, (eat input token).runAt p = some (.ok (true, q)) ∧ Stands input q rest := by
  obtain ⟨q, hstands, heat⟩ := runAt_eat h token
  have hsplit : XPath.skipBlanks cs = token.toList ++ rest := dropToken?_eq_some_iff.mp htake
  rw [if_pos ⟨rest, hsplit.symm⟩] at heat
  exact ⟨_, heat, hstands.drop hsplit⟩

theorem runAt_eat_none {token : String} (htake : XPath.take? token cs = none) :
    ∃ q, (eat input token).runAt p = some (.ok (false, q)) ∧
      Stands input q (XPath.skipBlanks cs) := by
  obtain ⟨q, hstands, heat⟩ := runAt_eat h token
  have htoken : ¬token.toList <+: XPath.skipBlanks cs := by
    rintro ⟨rest, hsplit⟩
    cases htake.symm.trans (dropToken?_eq_some_iff.mpr hsplit.symm)
  rw [if_neg htoken] at heat
  exact ⟨q, heat, hstands⟩

omit h in
theorem matches_isNameChar : Matches (fun b => XPath.isNameChar (asChar b)) XPath.isNameChar := by
  apply matches_of_ascii
  intro c hc
  simp only [XPath.isNameChar, Bool.or_eq_true, beq_iff_eq] at hc
  obtain ((hc | rfl) | rfl) | rfl := hc
  · exact Utf8.toNat_lt_of_isAlphanum hc
  all_goals decide

omit h in
theorem matches_isNameStart : Matches (fun b => XPath.isNameStart (asChar b)) XPath.isNameStart := by
  apply matches_of_ascii
  intro c hc
  simp only [XPath.isNameStart, Bool.or_eq_true, beq_iff_eq] at hc
  obtain hc | rfl := hc
  · exact Utf8.toNat_lt_of_isAlphanum (by simp [Char.isAlphanum, hc])
  · decide

omit h in
theorem matches_isDigit : Matches (fun b => (asChar b).isDigit) Char.isDigit := by
  apply matches_of_ascii
  intro c hc
  exact Utf8.toNat_lt_of_isAlphanum (by simp [Char.isAlphanum, hc])

theorem runAt_name?_none (hname : XPath.readName? cs = none) :
    ∃ q, (name? input).runAt p = some (.ok (none, q)) ∧ Stands input q (XPath.skipBlanks cs) := by
  obtain ⟨q, hskip, hstands⟩ := runAt_skipBlanks h
  refine ⟨q, ?_, hstands⟩
  have hpeek := runAt_peek? hstands
  unfold name?
  rw [runAt_bind_ok hskip, runAt_bind_ok (runAt_get _), runAt_bind_ok hpeek]
  cases hrest : XPath.skipBlanks cs with
  | nil => rfl
  | cons c rest =>
    obtain ⟨b, hb, hhead⟩ := head?_bytesOf_cons c rest
    have hstart : XPath.isNameStart (asChar b) = false := by
      rw [matches_isNameStart.head_eq hhead, Bool.eq_false_iff]
      intro hstart
      unfold XPath.readName? at hname
      split at hname
      · rename_i hnil
        cases hnil.symm.trans hrest
      · rename_i hcons
        cases hcons.symm.trans hrest
        rw [dif_pos hstart] at hname
        cases hname
    rw [hb]
    dsimp only
    rw [hstart, if_neg Bool.false_ne_true]
    rfl

theorem runAt_name?_some {name : String} {rest : List Char} {hlt : rest.length < cs.length}
    (hname : XPath.readName? cs = some ⟨(name, rest), hlt⟩) :
    ∃ q, (name? input).runAt p = some (.ok (some name, q)) ∧ Stands input q rest := by
  obtain ⟨q, hskip, hstands⟩ := runAt_skipBlanks h
  have hpeek := runAt_peek? hstands
  unfold XPath.readName? at hname
  split at hname
  · cases hname
  rename_i c more hrest
  split at hname
  swap
  · cases hname
  rename_i hstart
  cases hname
  obtain ⟨b, hb, hhead⟩ := head?_bytesOf_cons c more
  have hsplit : XPath.skipBlanks cs =
      (c :: more).takeWhile XPath.isNameChar ++ (c :: more).dropWhile XPath.isNameChar := by
    rw [List.takeWhile_append_dropWhile, hrest]
  have hwhile := runAt_skipWhile hstands matches_isNameChar
  rw [hrest] at hwhile
  refine ⟨_, ?_, hstands.drop hsplit⟩
  unfold name?
  rw [runAt_bind_ok hskip, runAt_bind_ok (runAt_get _), runAt_bind_ok hpeek, hrest, hb]
  dsimp only
  rw [matches_isNameStart.head_eq hhead, if_pos hstart, runAt_bind_ok hwhile,
    runAt_bind_ok (runAt_textSince hstands hsplit)]
  rfl

end

/-! ### The reader beside the one on characters -/

/-- The scan gives what the reading gives, and ends near the text that is left. -/
def Follows {P : α × List Char → Prop} (text : String) (scan : Scan String α) (position : Nat)
    (reading : Reading { r // P r }) : Prop :=
  Meets (Near (Utf8.encode text)) (·.message text) scan position reading

/-- The scan gives what the reading gives. -/
def Gives (text : String) (scan : Scan String α) (position : Nat) (reading : Reading α) : Prop :=
  (scan.runAt position).map (·.map (·.1)) = some (reading.mapError (·.message text))

variable {α β : Type} {P : α × List Char → Prop} {Q : β × List Char → Prop} {text : String}
  {p q : Nat}

theorem follows_unexpected {rest : List Char} (wanted : XPath.Wanted)
    (h : Stands (Utf8.encode text) p rest) :
    Follows (P := P) text (Path.unexpected (Utf8.encode text) (PathError.wantedText wanted)) p
      (.error (.unexpected wanted rest)) := runAt_unexpected h rfl wanted

section

variable {cs : List Char} (h : Near (Utf8.encode text) p cs)
include h

theorem follows_expect (token : String) :
    Follows text (expect (Utf8.encode text) token) p (XPath.expect token cs) := by
  unfold expect XPath.expect
  split
  · rename_i rest htake
    obtain ⟨q, heat, hstands⟩ := runAt_eat_some h htake
    exact .step heat (.pure hstands.near)
  · rename_i htake
    obtain ⟨q, heat, hstands⟩ := runAt_eat_none h htake
    exact .step heat (follows_unexpected (.token token) hstands)

theorem follows_nodeTest : Follows text (nodeTest (Utf8.encode text)) p (XPath.readTest cs) := by
  unfold nodeTest XPath.readTest
  split
  · rename_i rest hstar
    obtain ⟨q, heat, hstands⟩ := runAt_eat_some h hstar
    exact .step heat (.pure hstands.near)
  rename_i hstar
  obtain ⟨q, heat, hstands⟩ := runAt_eat_none h hstar
  have hnear := hstands.near_of_skipBlanks
  refine .step heat ?_
  rw [if_neg Bool.false_ne_true]
  split
  · rename_i hname
    obtain ⟨q, hrun, hstands⟩ := runAt_name?_none hnear hname
    refine .step hrun ?_
    exact follows_unexpected .nodeTest hstands
  rename_i name rest hlt hname
  obtain ⟨q, hrun, hstands⟩ := runAt_name?_some hnear hname
  split
  · rename_i hopen
    obtain ⟨q, heat, hstands⟩ := runAt_eat_none hstands.near hopen
    refine .step hrun (.step heat ?_)
    exact .pure hstands.near
  · rename_i inside hopen
    obtain ⟨q, heat, hstands⟩ := runAt_eat_some hstands.near hopen
    refine .step hrun (.step heat ?_)
    refine .bind (follows_expect hstands.near ")") fun r q hnear => ?_
    cases htest : NodeTest.ofFunction? name with
    | none => rfl
    | some test => exact .pure hnear

omit h in
theorem runAt_quotedUntil {rest : List Char} {b : UInt8} (hstands : Stands (Utf8.encode text) p rest)
    (hb : b.toNat < 0x80) : (quotedUntil (Utf8.encode text) b).runAt p =
      some (match rest.dropWhile (· ≠ asChar b) with
        | [] => .error "unterminated literal"
        | _ :: _ => .ok (String.ofList (rest.takeWhile (· ≠ asChar b)),
            p + (bytesOf (rest.takeWhile (· ≠ asChar b))).length + 1)) := by
  have hsplit : rest = rest.takeWhile (· ≠ asChar b) ++ rest.dropWhile (· ≠ asChar b) :=
    List.takeWhile_append_dropWhile.symm
  have hpeek := runAt_peek? (hstands.drop hsplit)
  unfold quotedUntil
  rw [runAt_bind_ok (runAt_get _), runAt_bind_ok (runAt_skipWhile hstands (matches_ne hb)),
    runAt_bind_ok hpeek]
  cases hdrop : rest.dropWhile (· ≠ asChar b) with
  | nil => rfl
  | cons d after =>
    obtain ⟨b', hb', hhead⟩ := head?_bytesOf_cons d after
    rw [hb']
    dsimp only
    rw [runAt_bind_ok (runAt_textSince hstands hsplit), runAt_bind_ok (runAt_modify _ _)]
    rfl

omit h in
theorem Stands.after {c : Char} {rest : List Char} (hstands : Stands (Utf8.encode text) p (c :: rest))
    (hc : c.toNat < 0x80) : Stands (Utf8.encode text) (p + 1) rest := by
  have hlength : (bytesOf [c]).length = 1 := by simp [Utf8.utf8EncodeChar_of_lt hc]
  have hafter := hstands.drop (show c :: rest = [c] ++ rest from rfl)
  rw [hlength] at hafter
  exact hafter

theorem follows_literal : Follows text (literal (Utf8.encode text)) p (XPath.readLiteral cs) := by
  obtain ⟨q, hskip, hstands⟩ := runAt_skipBlanks h
  have hpeek := runAt_peek? hstands
  unfold literal XPath.readLiteral
  split
  · rename_i hrest
    rw [hrest] at hpeek hstands
    refine .step hskip (.step hpeek ?_)
    exact follows_unexpected .literal hstands
  rename_i c rest hrest
  rw [hrest] at hpeek hstands
  obtain ⟨b, hb, hhead⟩ := head?_bytesOf_cons c rest
  rw [hb] at hpeek
  have hquote : (asChar b = '\x27' ∨ asChar b = '\x22') ↔ (c = '\x27' ∨ c = '\x22') :=
    or_congr (asChar_head_iff (by decide) hhead) (asChar_head_iff (by decide) hhead)
  by_cases hc : c = '\x27' ∨ c = '\x22'
  · have hascii : c.toNat < 0x80 := by obtain rfl | rfl := hc <;> decide
    have hchar : asChar b = c := (asChar_head_iff hascii hhead).mpr rfl
    have hinside := hstands.after hascii
    have hscan := runAt_quotedUntil hinside (b := b) (by rw [← toNat_asChar, hchar]; exact hascii)
    rw [hchar] at hscan
    rw [if_pos hc]
    split
    · rename_i hdrop
      rw [hdrop] at hscan
      refine .step hskip (.step hpeek ?_)
      dsimp only
      rw [if_pos (hquote.mpr hc)]
      exact .step (runAt_modify _ _) hscan
    · rename_i d after hdrop
      have hd : d = c := by
        have hnot := List.head?_dropWhile_not (fun d => decide (d ≠ c)) rest
        rw [hdrop] at hnot
        simpa using hnot
      have hclose := hinside.drop (List.takeWhile_append_dropWhile (p := (· ≠ c))).symm
      rw [hdrop, hd] at hclose
      rw [hdrop] at hscan
      refine .step hskip (.step hpeek ?_)
      dsimp only
      rw [if_pos (hquote.mpr hc)]
      exact .step (runAt_modify _ _) ⟨_, hscan, (hclose.after hascii).near⟩
  · rw [if_neg hc]
    refine .step hskip (.step hpeek ?_)
    dsimp only
    rw [if_neg (mt hquote.mp hc)]
    exact follows_unexpected .literal hstands

theorem follows_attributePredicate :
    Follows text (attributePredicate (Utf8.encode text)) p (XPath.readAttributeCondition cs) := by
  unfold attributePredicate XPath.readAttributeCondition
  split
  · rename_i hname
    obtain ⟨q, hrun, hstands⟩ := runAt_name?_none h hname
    refine .step hrun ?_
    exact follows_unexpected .attributeName hstands
  rename_i name rest hlt hname
  obtain ⟨q, hrun, hstands⟩ := runAt_name?_some h hname
  split
  · rename_i hequals
    obtain ⟨q, heat, hstands⟩ := runAt_eat_none hstands.near hequals
    refine .step hrun (.step heat ?_)
    exact .pure hstands.near_of_skipBlanks
  · rename_i after hequals
    obtain ⟨q, heat, hstands⟩ := runAt_eat_some hstands.near hequals
    refine .step hrun (.step heat ?_)
    refine .bind (follows_literal hstands.near) fun r q hnear => ?_
    exact .pure hnear

theorem follows_predicate :
    Follows text (predicate (Utf8.encode text)) p (XPath.readCondition cs) := by
  obtain ⟨q, hskip, hstands⟩ := runAt_skipBlanks h
  have hpeek := runAt_peek? hstands
  have hdigit : ((bytesOf (XPath.skipBlanks cs)).head?.any fun b => (asChar b).isDigit) =
      !((XPath.skipBlanks cs).takeWhile Char.isDigit).isEmpty := by
    cases XPath.skipBlanks cs with
    | nil => rfl
    | cons c rest =>
      obtain ⟨b, hb, hhead⟩ := head?_bytesOf_cons c rest
      rw [hb, Option.any_some, matches_isDigit.head_eq hhead, List.takeWhile_cons]
      cases c.isDigit <;> rfl
  unfold predicate XPath.readCondition
  dsimp only
  by_cases hempty : !((XPath.skipBlanks cs).takeWhile Char.isDigit).isEmpty
  · rw [if_pos hempty]
    have hsplit : XPath.skipBlanks cs = (XPath.skipBlanks cs).takeWhile Char.isDigit ++
        (XPath.skipBlanks cs).dropWhile Char.isDigit := List.takeWhile_append_dropWhile.symm
    refine .step hskip (.step (runAt_get _) (.step hpeek ?_))
    rw [if_pos (hdigit.trans hempty)]
    refine .step (runAt_skipWhile hstands matches_isDigit) (.step (runAt_textSince hstands hsplit) ?_)
    rw [String.toList_ofList]
    cases readIndex ((XPath.skipBlanks cs).takeWhile Char.isDigit) with
    | error cause => rfl
    | ok n => exact .pure (hstands.drop hsplit).near
  rw [if_neg hempty]
  have hnear := hstands.near_of_skipBlanks
  have hpeek' : ¬((bytesOf (XPath.skipBlanks cs)).head?.any fun b => (asChar b).isDigit) := by
    rw [hdigit]
    exact hempty
  split
  · rename_i rest hlast
    obtain ⟨q', heat, hstands⟩ := runAt_eat_some hnear hlast
    refine .step hskip (.step (runAt_get _) (.step hpeek ?_))
    rw [if_neg hpeek']
    exact .step heat (.pure hstands.near)
  rename_i hlast
  obtain ⟨q', heat, hstands'⟩ := runAt_eat_none hnear hlast
  split
  · rename_i hat
    obtain ⟨q'', heat', hstands''⟩ := runAt_eat_none hstands'.near_of_skipBlanks hat
    refine .step hskip (.step (runAt_get _) (.step hpeek ?_))
    rw [if_neg hpeek']
    refine .step heat (.step heat' ?_)
    exact follows_unexpected .condition hstands''
  · rename_i rest hat
    obtain ⟨q'', heat', hstands''⟩ := runAt_eat_some hstands'.near_of_skipBlanks hat
    refine .step hskip (.step (runAt_get _) (.step hpeek ?_))
    rw [if_neg hpeek']
    refine .step heat (.step heat' ?_)
    exact .relax (follows_attributePredicate hstands''.near) _

omit h in
theorem follows_predicates {steps : Nat} {cs : List Char} (h : Near (Utf8.encode text) p cs)
    (hsteps : cs.length < steps) :
    Follows text (predicates (Utf8.encode text) steps) p (XPath.readConditions cs) := by
  induction steps generalizing p cs with
  | zero => omega
  | succ steps ih =>
    unfold predicates
    rw [XPath.readConditions]
    split
    · rename_i hopen
      obtain ⟨q, heat, hstands⟩ := runAt_eat_none h hopen
      exact .step heat (.pure hstands.near_of_skipBlanks)
    · rename_i rest hopen
      obtain ⟨q, heat, hstands⟩ := runAt_eat_some h hopen
      have hlt := XPath.length_take?_le hopen
      have hone : "[".length = 1 := by decide
      refine .step heat ?_
      rw [if_pos rfl]
      refine .bind (follows_predicate hstands.near) ?_
      rintro ⟨⟨condition, rest₁⟩, hle⟩ q hnear
      refine .bind (follows_expect hnear "]") ?_
      rintro ⟨⟨⟨⟩, rest₂⟩, hle'⟩ q hnear
      dsimp only at hle hle' hnear
      refine .bind (ih hnear (by omega)) fun r q hnear => ?_
      exact .pure hnear

theorem follows_axis : Follows text (axis (Utf8.encode text)) p (XPath.readAxis cs) := by
  unfold axis XPath.readAxis
  split
  · rename_i rest hat
    obtain ⟨q, heat, hstands⟩ := runAt_eat_some h hat
    exact .step heat (.pure hstands.near)
  rename_i hat
  obtain ⟨start, heat, hstart⟩ := runAt_eat_none h hat
  have hnear := hstart.near_of_skipBlanks
  split
  · rename_i hname
    obtain ⟨q, hrun, -⟩ := runAt_name?_none hnear hname
    refine .step heat (.step (runAt_get _) (.step hrun (.step (runAt_set _ _) ?_)))
    exact .pure hnear
  rename_i name rest hlt hname
  obtain ⟨q, hrun, hstands⟩ := runAt_name?_some hnear hname
  split
  · rename_i hcolons
    obtain ⟨q', heat', -⟩ := runAt_eat_none hstands.near hcolons
    refine .step heat (.step (runAt_get _) (.step hrun (.step heat' (.step (runAt_set _ _) ?_))))
    exact .pure hnear
  · rename_i after hcolons
    obtain ⟨q', heat', hstands'⟩ := runAt_eat_some hstands.near hcolons
    split
    · rename_i axis haxis
      refine .step heat (.step (runAt_get _) (.step hrun (.step heat' ?_)))
      rw [if_pos rfl, haxis]
      exact .pure hstands'.near
    · rename_i haxis
      refine .step heat (.step (runAt_get _) (.step hrun (.step heat' ?_)))
      rw [if_pos rfl, haxis]
      rfl

theorem follows_step {steps : Nat} (hsteps : cs.length < steps) :
    Follows text (step (Utf8.encode text) steps) p (XPath.readStep cs) := by
  unfold step XPath.readStep
  split
  · rename_i rest hparent
    obtain ⟨q, heat, hstands⟩ := runAt_eat_some h hparent
    exact .step heat (.pure hstands.near)
  rename_i hparent
  obtain ⟨q, heat, hstands⟩ := runAt_eat_none h hparent
  have hnear := hstands.near_of_skipBlanks
  split
  · rename_i rest hself
    obtain ⟨q', heat', hstands'⟩ := runAt_eat_some hnear hself
    exact .step heat (.step heat' (.pure hstands'.near))
  · rename_i hself
    obtain ⟨q', heat', hstands'⟩ := runAt_eat_none hnear hself
    refine .step heat (.step heat' ?_)
    refine .bind (follows_axis hstands'.near_of_skipBlanks) ?_
    rintro ⟨⟨axis, rest₁⟩, hle⟩ q hnear
    refine .bind (follows_nodeTest hnear) ?_
    rintro ⟨⟨test, rest₂⟩, hle'⟩ q hnear
    dsimp only at hle hle' hnear
    refine .bind (follows_predicates hnear (by omega)) fun r q hnear => ?_
    exact .pure hnear

end

/-! ### Whole paths -/

namespace Gives

theorem step {scan : Scan String β} {next : β → Scan String α} {b : β} {reading : Reading α}
    (h : scan.runAt p = some (.ok (b, q))) (hnext : Gives text (next b) q reading) :
    Gives text (scan >>= next) p reading := by
  unfold Gives
  rw [runAt_bind_ok h]
  exact hnext

theorem bind {scan : Scan String α} {next : α → Scan String β} {reading : Reading { r // P r }}
    {more : { r // P r } → Reading β} (h : Follows text scan p reading)
    (hnext : ∀ r q, Near (Utf8.encode text) q r.val.2 → Gives text (next r.val.1) q (more r)) :
    Gives text (scan >>= next) p (reading >>= more) := by
  cases reading with
  | error e =>
    unfold Gives
    rw [runAt_bind_error h]
    rfl
  | ok r =>
    obtain ⟨q, hrun, hnear⟩ := h
    exact step hrun (hnext r q hnear)

theorem map {scan : Scan String α} {reading : Reading α} (h : Gives text scan p reading) (f : α → β) :
    Gives text (do return f (← scan)) p (do return f (← reading)) := by
  unfold Gives at h ⊢
  cases hrun : scan.runAt p with
  | none =>
    rw [hrun] at h
    cases h
  | some found =>
    rw [hrun] at h
    cases reading with
    | error e =>
      obtain _ | found := found
      · rw [runAt_bind_error hrun]
        cases h
        rfl
      · cases h
    | ok a =>
      obtain _ | found := found
      · cases h
      · rw [runAt_bind_ok hrun]
        cases h
        rfl

end Gives

theorem runAt_peek?_eq_none_iff {cs : List Char} (h : Stands (Utf8.encode text) p cs) :
    ∃ found, (peek? (Utf8.encode text)).runAt p = some (.ok (found, p)) ∧
      (found = none ↔ cs.isEmpty) := by
  refine ⟨_, runAt_peek? h, ?_⟩
  cases cs with
  | nil => simp
  | cons c cs =>
    obtain ⟨b, hb, -⟩ := head?_bytesOf_cons c cs
    rw [hb]
    simp

theorem gives_stepsFrom {steps : Nat} {cs : List Char} (h : Near (Utf8.encode text) p cs)
    (hsteps : cs.length < steps) :
    Gives text (stepsFrom (Utf8.encode text) steps) p (XPath.readSteps cs) := by
  induction steps generalizing p cs with
  | zero => omega
  | succ steps ih =>
    unfold stepsFrom
    rw [XPath.readSteps]
    refine .bind (follows_step h hsteps) ?_
    rintro ⟨⟨step, rest⟩, hle⟩ q hnear
    dsimp only at hle hnear ⊢
    split
    · rename_i after hdouble
      obtain ⟨q', heat, hstands⟩ := runAt_eat_some hnear hdouble
      have hlt := XPath.length_take?_le hdouble
      have htwo : "//".length = 2 := by decide
      refine .step heat ?_
      exact (ih hstands.near (by omega)).map _
    rename_i hdouble
    obtain ⟨q', heat, hstands⟩ := runAt_eat_none hnear hdouble
    split
    · rename_i after hsingle
      obtain ⟨q'', heat', hstands'⟩ := runAt_eat_some hstands.near_of_skipBlanks hsingle
      have hlt := XPath.length_take?_le hsingle
      have hone : "/".length = 1 := by decide
      refine .step heat (.step heat' ?_)
      exact (ih hstands'.near (by omega)).map _
    rename_i hsingle
    obtain ⟨q'', heat', hstands'⟩ := runAt_eat_none hstands.near_of_skipBlanks hsingle
    obtain ⟨end', hskip, hend⟩ := runAt_skipBlanks hstands'.near_of_skipBlanks
    obtain ⟨found, hpeek, hfound⟩ := runAt_peek?_eq_none_iff hend
    refine .step heat (.step heat' (.step hskip (.step hpeek ?_)))
    cases found with
    | none =>
      rw [if_pos (hfound.mp rfl)]
      rfl
    | some b =>
      rw [if_neg (mt hfound.mpr (Option.some_ne_none b))]
      have hfail : (unexpected (Utf8.encode text) "expected \"/\" or end of path" :
          Scan String (List Step)).runAt end' = _ := runAt_unexpected hend rfl .slashOrEnd
      exact congrArg (Option.map _) hfail

theorem any_slash_eq (cs : List Char) :
    ((bytesOf cs).head?.any fun b => asChar b = '/') = (cs.head? == some '/') := by
  cases cs with
  | nil => rfl
  | cons c cs =>
    obtain ⟨b, hb, hhead⟩ := head?_bytesOf_cons c cs
    rw [hb, Option.any_some, decide_eq_decide.mpr (asChar_head_iff (by decide) hhead)]
    rfl

theorem gives_path {steps : Nat} (hsteps : text.toList.length < steps) :
    Gives text (path (Utf8.encode text) steps) 0 (XPath.readPath text) := by
  have hstart : Near (Utf8.encode text) 0 text.toList := ⟨text.toList, ⟨[], rfl, rfl⟩, rfl⟩
  obtain ⟨q, hskip, hstands⟩ := runAt_skipBlanks hstart
  have hnear := hstands.near_of_skipBlanks
  have hpeek := runAt_peek? hstands
  unfold path XPath.readPath
  dsimp only
  refine .step hskip (.step hpeek ?_)
  rw [any_slash_eq]
  split
  · rename_i rest hdouble
    obtain ⟨q', heat, hstands'⟩ := runAt_eat_some hnear hdouble
    have hlt := XPath.length_take?_le hdouble
    have hsplit : XPath.skipBlanks text.toList = "//".toList ++ rest :=
      dropToken?_eq_some_iff.mp hdouble
    rw [hsplit]
    refine .step heat ?_
    exact (gives_stepsFrom hstands'.near (by omega)).map _
  rename_i hdouble
  obtain ⟨q', heat, hstands'⟩ := runAt_eat_none hnear hdouble
  split
  · rename_i rest hsingle
    obtain ⟨q'', heat', hstands''⟩ := runAt_eat_some hstands'.near_of_skipBlanks hsingle
    have hlt := XPath.length_take?_le hsingle
    have hsplit : XPath.skipBlanks text.toList = "/".toList ++ rest :=
      dropToken?_eq_some_iff.mp hsingle
    obtain ⟨end', hskip', hend⟩ := runAt_skipBlanks hstands''.near
    obtain ⟨found, hpeek', hfound⟩ := runAt_peek?_eq_none_iff hend
    rw [hsplit]
    refine .step heat (.step heat' (.step hskip' (.step hpeek' ?_)))
    cases found with
    | none =>
      rw [if_pos (hfound.mp rfl)]
      rfl
    | some b =>
      rw [if_neg (mt hfound.mpr (Option.some_ne_none b))]
      exact (gives_stepsFrom hend.near_of_skipBlanks (by omega)).map _
  · rename_i hsingle
    obtain ⟨q'', heat', hstands''⟩ := runAt_eat_none hstands'.near_of_skipBlanks hsingle
    have hslash : ((XPath.skipBlanks text.toList).head? == some '/') = false := by
      rw [beq_eq_false_iff_ne]
      intro hhead
      have hcons := List.eq_cons_of_mem_head? hhead
      cases hsingle.symm.trans (dropToken?_eq_some_iff.mpr hcons)
    rw [hslash]
    refine .step heat (.step heat' ?_)
    exact (gives_stepsFrom hstands''.near_of_skipBlanks hsteps).map _

/-- No slice leaves a text that is read as a path. -/
theorem ofText_eq (text : String) :
    ofText text = some ((XPath.readPath text).mapError (·.message text)) := by
  have hlength := length_le_length_bytesOf text.toList
  exact gives_path (Nat.lt_succ_of_le hlength)

end DocQuery.Indexed.Path
