import DocQuery.Proofs.Expression.Continuation

/-! Scanning by position.  A scanner keeps the bytes of an expression and a position, moves the
position by hand, and takes bytes and slices out of the expression by index.  An index or a slice
outside the expression gives nothing at all, neither a value nor an error.  A scanner that stands
where a cursor stands does what the cursor does, so it never gives nothing. -/

namespace DocQuery.Indexed

/-- The items from one index up to another. -/
def slice? (items : List α) (start stop : Nat) : Option (List α) :=
  if start ≤ stop ∧ stop ≤ items.length then some ((items.take stop).drop start) else none

theorem slice?_append (front middle back : List α) :
    slice? (front ++ (middle ++ back)) front.length (front.length + middle.length) = some middle := by
  have htake : (front ++ (middle ++ back)).take (front.length + middle.length) = front ++ middle := by
    rw [← List.append_assoc, ← List.length_append, List.take_left]
  unfold slice?
  rw [if_pos (by simp), htake, List.drop_left]

/-- A slice must stop inside the list. -/
example : slice? [1, 2, 3] 1 3 = some [2, 3] ∧ slice? [1, 2, 3] 1 4 = none := by decide

/-- A computation at a position.  It ends with a value or an error, unless it indexes out of range. -/
abbrev Scan (ε α : Type) : Type := StateT Nat (ExceptT ε Option) α

namespace Scan

variable {ε α β : Type}

def runAt (scan : Scan ε α) (position : Nat) : Option (Except ε (α × Nat)) :=
  (StateT.run scan position).run

/-- What has been taken by index. -/
def taken (found : Option α) : Scan ε α := fun position =>
  ExceptT.mk (found.map fun a => .ok (a, position))

@[simp] theorem runAt_pure (a : α) (p : Nat) : (pure a : Scan ε α).runAt p = some (.ok (a, p)) := rfl

@[simp] theorem runAt_throw (e : ε) (p : Nat) :
    (throw e : Scan ε α).runAt p = some (.error e) := rfl

@[simp] theorem runAt_get (p : Nat) : (get : Scan ε Nat).runAt p = some (.ok (p, p)) := rfl

@[simp] theorem runAt_set (q p : Nat) : (set q : Scan ε Unit).runAt p = some (.ok ((), q)) := rfl

@[simp] theorem runAt_modify (f : Nat → Nat) (p : Nat) :
    (modify f : Scan ε Unit).runAt p = some (.ok ((), f p)) := rfl

@[simp] theorem runAt_taken (found : Option α) (p : Nat) :
    (taken found : Scan ε α).runAt p = found.map fun a => .ok (a, p) := rfl

theorem runAt_bind_ok {scan : Scan ε α} {next : α → Scan ε β} {p q : Nat} {a : α}
    (h : scan.runAt p = some (.ok (a, q))) : (scan >>= next).runAt p = (next a).runAt q := by
  unfold runAt at h ⊢
  rw [StateT.run_bind, ExceptT.run_bind, h]
  rfl

theorem runAt_bind_error {scan : Scan ε α} {next : α → Scan ε β} {p : Nat} {e : ε}
    (h : scan.runAt p = some (.error e)) : (scan >>= next).runAt p = some (.error e) := by
  unfold runAt at h ⊢
  rw [StateT.run_bind, ExceptT.run_bind, h]
  rfl

/-- The scan gives what the reading gives, and where it ends is right for what the reading leaves. -/
def Meets {δ ρ : Type} {P : α × ρ → Prop} (right : Nat → ρ → Prop) (message : δ → ε)
    (scan : Scan ε α) (position : Nat) (reading : Except δ { r // P r }) : Prop :=
  match reading with
  | .ok r => ∃ q, scan.runAt position = some (.ok (r.val.1, q)) ∧ right q r.val.2
  | .error e => scan.runAt position = some (.error (message e))

namespace Meets

variable {δ ρ : Type} {P : α × ρ → Prop} {Q : β × ρ → Prop} {right : Nat → ρ → Prop}
  {message : δ → ε} {p q : Nat}

theorem pure {a : α} {rest : ρ} {hP : P (a, rest)} (h : right p rest) :
    Meets right message (Pure.pure a) p (.ok ⟨(a, rest), hP⟩) := ⟨p, rfl, h⟩

theorem step {scan : Scan ε β} {next : β → Scan ε α} {b : β} {reading : Except δ { r // P r }}
    (h : scan.runAt p = some (.ok (b, q))) (hnext : Meets right message (next b) q reading) :
    Meets right message (scan >>= next) p reading := by
  unfold Meets
  rw [runAt_bind_ok h]
  exact hnext

theorem bind {scan : Scan ε α} {next : α → Scan ε β} {reading : Except δ { r // P r }}
    {more : { r // P r } → Except δ { r // Q r }} (h : Meets right message scan p reading)
    (hnext : ∀ r q, right q r.val.2 → Meets right message (next r.val.1) q (more r)) :
    Meets right message (scan >>= next) p (reading >>= more) := by
  cases reading with
  | error e => exact runAt_bind_error h
  | ok r =>
    obtain ⟨q, hrun, hright⟩ := h
    exact step hrun (hnext r q hright)

theorem relax {R : α × ρ → Prop} {scan : Scan ε α} {reading : Except δ { r // P r }}
    (h : Meets right message scan p reading) (hR : ∀ r : { r // P r }, R r.val) :
    Meets right message scan p (reading >>= fun r => .ok (⟨r.val, hR r⟩ : { r // R r })) := by
  cases reading with
  | error e => exact h
  | ok r => exact h

end Meets

end Scan

open Scan Expression

/-! ### The scanner -/

section

variable (input : List UInt8)

def firstSignificant : Nat → Nat → Option (Option Nat)
  | 0, _ => some none
  | count + 1, index => do
    let b ← input[index]?
    if isBlankByte b then firstSignificant count (index + 1) else some (some index)

/-- The index of the first byte that is not blank, among those from an index on. -/
def significantFrom (index : Nat) : Option (Option Nat) :=
  firstSignificant input (input.length - index) index

def skipBlanks : Scan CompileError Unit := do
  let found ← taken (significantFrom input (← get))
  set (found.getD input.length)

def next? : Scan CompileError (Option UInt8) := do
  match ← taken (significantFrom input (← get)) with
  | none => return none
  | some index =>
    set (index + 1)
    let b ← taken input[index]?
    return some b

def unread : Scan CompileError Unit := modify (· - 1)

def peek? : Scan CompileError (Option UInt8) := do
  match ← taken (significantFrom input (← get)) with
  | none => return none
  | some index =>
    let b ← taken input[index]?
    return some b

def signal : Scan CompileError Signal := do
  return .ofByte? (← peek? input)

def endOfName : Nat → Nat → Option Nat
  | 0, index => some index
  | count + 1, index => do
    let b ← input[index]?
    if isNameByte b then endOfName count (index + 1) else some index

def readName : Scan CompileError String := do
  let start ← get
  let stop ← taken (endOfName input (input.length - start) start)
  set stop
  let bytes ← taken (slice? input start stop)
  return (Utf8.decode bytes).toOption.getD ""

/-- The byte at the position; the only one that is asked for without being known to exist. -/
def current? : Scan CompileError (Option UInt8) := do
  return input[← get]?

def readUntil? (delimiter : UInt8) : Scan CompileError (Option (List UInt8)) := do
  let rest ← taken (slice? input (← get) input.length)
  match rest.findIdx? (· == delimiter) with
  | none => return none
  | some length =>
    modify (· + length + 1)
    let part ← taken (slice? rest 0 length)
    return some part

def seek (position : Nat) : Scan CompileError Unit := set (min position input.length)

def window (position radius : Nat) : Option (Nat × String) := do
  let start := position - radius
  let stop := min (position + radius) input.length
  let near ← slice? input start stop
  return (position - start, Utf8.decodeLossy near)

def error (operation : String) (cause : CompileCause) (position : Nat) : Option CompileError := do
  let narrow ← window input position 10
  let wide ← window input position 50
  return {
    operation, cause
    offset := position
    column := narrow.1
    parsing := narrow.2
    context := wide.2 }

def fail (operation : String) (cause : CompileCause) : Scan CompileError α := do
  let e ← taken (error input operation cause (← get))
  throw e

end

/-! ### The scanner beside the cursor -/

theorem next?_of_nil {c : Cursor} (h : c.skipBlanks.rest = []) : c.next? = none := by
  unfold Cursor.next?
  split
  · rfl
  · rename_i hskip
    rw [hskip] at h
    cases h

section

variable {input : List UInt8} {c : Cursor} (hc : c.bytes = input)
include hc

theorem length_eq : input.length = c.position + c.rest.length := by
  rw [← hc]
  simp [Cursor.bytes, Cursor.position]

theorem getElem?_add (i : Nat) : input[c.position + i]? = c.rest[i]? := by
  rw [← hc, ← List.getElem?_drop, Cursor.drop_bytes]

theorem firstSignificant_eq (i : Nat) :
    firstSignificant input (c.rest.length - i) (c.position + i) =
      some (((c.rest.drop i).dropWhile isBlankByte).head?.map fun _ =>
        c.position + i + ((c.rest.drop i).takeWhile isBlankByte).length) := by
  induction hn : c.rest.length - i generalizing i with
  | zero =>
    rw [List.drop_eq_nil_of_le (by omega)]
    rfl
  | succ n ih =>
    have hi : i < c.rest.length := by omega
    have hdrop : c.rest.drop i = c.rest[i] :: c.rest.drop (i + 1) := List.drop_eq_getElem_cons hi
    rw [firstSignificant, getElem?_add hc, List.getElem?_eq_getElem hi, hdrop]
    dsimp only [Option.bind_eq_bind, Option.bind_some]
    by_cases hblank : isBlankByte c.rest[i]
    · have hnext := ih (i + 1) (by omega)
      rw [if_pos hblank, List.dropWhile_cons_of_pos hblank, List.takeWhile_cons_of_pos hblank,
        Nat.add_assoc, hnext]
      simp only [List.length_cons]
      congr 2
      funext _
      omega
    · rw [if_neg hblank, List.dropWhile_cons_of_neg hblank, List.takeWhile_cons_of_neg hblank]
      rfl

theorem significantFrom_eq :
    significantFrom input c.position =
      some (c.skipBlanks.rest.head?.map fun _ => c.skipBlanks.position) := by
  have hfirst := firstSignificant_eq hc 0
  have hlength := length_eq hc
  unfold significantFrom
  rw [show input.length - c.position = c.rest.length - 0 by omega]
  rw [Cursor.skipBlanks, Cursor.position_skipWhile]
  exact hfirst

theorem bytes_skipBlanks : c.skipBlanks.bytes = input :=
  (Cursor.bytes_skipWhile c isBlankByte).trans hc

theorem runAt_skipBlanks :
    (skipBlanks input).runAt c.position = some (.ok ((), c.skipBlanks.position)) := by
  have hlength := length_eq (bytes_skipBlanks hc)
  have hfound : ((c.skipBlanks.rest.head?.map fun _ => c.skipBlanks.position).getD input.length) =
      c.skipBlanks.position := by
    cases hrest : c.skipBlanks.rest with
    | nil =>
      rw [hrest] at hlength
      simpa using hlength
    | cons b rest => rfl
  unfold skipBlanks
  rw [runAt_bind_ok (runAt_get _), significantFrom_eq hc]
  exact (runAt_bind_ok (runAt_taken _ _)).trans (by rw [hfound, runAt_set])

theorem runAt_next? : (next? input).runAt c.position =
    some (.ok (c.next?.map (·.1), (c.next?.map (·.2.position)).getD c.position)) := by
  unfold next?
  rw [runAt_bind_ok (runAt_get _), significantFrom_eq hc]
  rw [runAt_bind_ok (runAt_taken _ _)]
  cases hrest : c.skipBlanks.rest with
  | nil =>
    rw [next?_of_nil hrest]
    rfl
  | cons b rest =>
    have hbyte := getElem?_add (bytes_skipBlanks hc) 0
    rw [hrest] at hbyte
    rw [Cursor.next?_of_rest hrest]
    dsimp only [List.head?_cons, Option.map_some, Option.getD_some]
    rw [runAt_bind_ok (runAt_set _ _)]
    simp at hbyte
    rw [hbyte]
    rfl

theorem runAt_peek? : (peek? input).runAt c.position = some (.ok (c.peek?, c.position)) := by
  unfold peek? Cursor.peek?
  rw [runAt_bind_ok (runAt_get _), significantFrom_eq hc]
  rw [runAt_bind_ok (runAt_taken _ _)]
  cases hrest : c.skipBlanks.rest with
  | nil => rfl
  | cons b rest =>
    have hbyte := getElem?_add (bytes_skipBlanks hc) 0
    rw [hrest] at hbyte
    simp at hbyte
    dsimp only [List.head?_cons, Option.map_some]
    rw [hbyte]
    rfl

theorem runAt_signal : (signal input).runAt c.position = some (.ok (c.signal, c.position)) := by
  unfold signal
  rw [runAt_bind_ok (runAt_peek? hc)]
  rfl

theorem runAt_current? : (current? input).runAt c.position = some (.ok (c.current?, c.position)) := by
  have hbyte := getElem?_add hc 0
  simp at hbyte
  unfold current? Cursor.current?
  rw [runAt_bind_ok (runAt_get _), hbyte, List.head?_eq_getElem?]
  rfl

theorem endOfName_eq (i : Nat) :
    endOfName input (c.rest.length - i) (c.position + i) =
      some (c.position + i + ((c.rest.drop i).takeWhile isNameByte).length) := by
  induction hn : c.rest.length - i generalizing i with
  | zero =>
    rw [List.drop_eq_nil_of_le (by omega)]
    rfl
  | succ n ih =>
    have hi : i < c.rest.length := by omega
    have hdrop : c.rest.drop i = c.rest[i] :: c.rest.drop (i + 1) := List.drop_eq_getElem_cons hi
    rw [endOfName, getElem?_add hc, List.getElem?_eq_getElem hi, hdrop]
    dsimp only [Option.bind_eq_bind, Option.bind_some]
    by_cases hname : isNameByte c.rest[i]
    · have hnext := ih (i + 1) (by omega)
      rw [if_pos hname, List.takeWhile_cons_of_pos hname, Nat.add_assoc, hnext]
      simp only [List.length_cons]
      congr 1
      omega
    · rw [if_neg hname, List.takeWhile_cons_of_neg hname]
      rfl

omit hc in
theorem findIdx?_eq (delimiter : UInt8) (bytes : List UInt8) :
    bytes.findIdx? (· == delimiter) = (bytes.dropWhile (· != delimiter)).head?.map fun _ =>
      (bytes.takeWhile (· != delimiter)).length := by
  induction bytes with
  | nil => rfl
  | cons b bytes ih =>
    rw [List.findIdx?_cons, List.dropWhile_cons, List.takeWhile_cons]
    by_cases hb : b = delimiter
    · simp [hb]
    · simp [hb, ih]
      rfl

/-- The bytes up to a later place of the expression. -/
theorem slice?_skipWhile (p : UInt8 → Bool) :
    slice? input c.position (c.skipWhile p).position = some (c.rest.takeWhile p) := by
  have hinput : input = c.before.reverse ++ (c.rest.takeWhile p ++ c.rest.dropWhile p) := by
    rw [List.takeWhile_append_dropWhile, ← hc]
    rfl
  have hslice := slice?_append c.before.reverse (c.rest.takeWhile p) (c.rest.dropWhile p)
  rw [← hinput, List.length_reverse] at hslice
  rw [Cursor.position_skipWhile]
  exact hslice

theorem runAt_readName :
    (readName input).runAt c.position = some (.ok (c.readName.1, c.readName.2.position)) := by
  have hstop : endOfName input (input.length - c.position) c.position =
      some c.readName.2.position := by
    have hlength := length_eq hc
    have hend := endOfName_eq hc 0
    rw [show input.length - c.position = c.rest.length - 0 by omega]
    rw [show c.readName.2 = c.skipWhile isNameByte from rfl, Cursor.position_skipWhile]
    exact hend
  have hname : Utf8.decode (c.rest.takeWhile isNameByte) = .ok c.readName.1 := by
    rw [Utf8.decode_eq_ok_iff]
    exact encode_ofList_of_isNameByte fun b hb => List.all_eq_true.mp List.all_takeWhile b hb
  have hslice : slice? input c.position c.readName.2.position = some (c.rest.takeWhile isNameByte) :=
    slice?_skipWhile hc isNameByte
  unfold readName
  rw [runAt_bind_ok (runAt_get _), hstop]
  rw [runAt_bind_ok (runAt_taken _ _), runAt_bind_ok (runAt_set _ _), hslice]
  rw [runAt_bind_ok (runAt_taken _ _), hname]
  rfl

theorem runAt_readUntil? (delimiter : UInt8) :
    (readUntil? input delimiter).runAt c.position =
      some (.ok ((c.readUntil? delimiter).map (·.1),
        ((c.readUntil? delimiter).map (·.2.position)).getD c.position)) := by
  have hrest : slice? input c.position input.length = some c.rest := by
    have hslice := slice?_append c.before.reverse c.rest []
    rw [List.append_nil, List.length_reverse] at hslice
    rw [length_eq hc, ← hc]
    exact hslice
  unfold readUntil?
  rw [runAt_bind_ok (runAt_get _), hrest]
  rw [runAt_bind_ok (runAt_taken _ _), findIdx?_eq]
  unfold Cursor.readUntil? Cursor.skipWhile
  cases hdrop : c.rest.dropWhile (· != delimiter) with
  | nil => rfl
  | cons b rest =>
    have hsplit : c.rest = c.rest.takeWhile (· != delimiter) ++ b :: rest := by
      rw [← hdrop, List.takeWhile_append_dropWhile]
    have hpart : slice? c.rest 0 (c.rest.takeWhile (· != delimiter)).length =
        some (c.rest.takeWhile (· != delimiter)) := by
      have hslice := slice?_append [] (c.rest.takeWhile (· != delimiter)) (b :: rest)
      rw [List.nil_append, ← hsplit, List.length_nil, Nat.zero_add] at hslice
      exact hslice
    dsimp only [List.head?_cons, Option.map_some, Option.getD_some]
    rw [runAt_bind_ok (runAt_modify _ _), hpart, runAt_bind_ok (runAt_taken _ _), runAt_pure]
    simp [Cursor.position]
    omega

theorem runAt_seek (position p : Nat) :
    (seek input position).runAt p = some (.ok ((), (c.seek position).position)) := by
  have hlength : (c.seek position).position = min position input.length := by
    rw [← hc]
    simp [Cursor.seek, Cursor.position]
  rw [hlength]
  rfl

/-- The bytes around a place, as far as there are some. -/
theorem window_eq (radius : Nat) : window input c.position radius = some (c.window radius) := by
  have hlength := length_eq hc
  have hfront : (c.before.drop radius).reverse.length = c.position - radius := by
    simp [Cursor.position]
  have hmiddle : ((c.before.take radius).reverse ++ c.rest.take radius).length =
      min radius c.position + min radius c.rest.length := by
    simp [Cursor.position]
  have hinput : input = (c.before.drop radius).reverse ++
      (((c.before.take radius).reverse ++ c.rest.take radius) ++ c.rest.drop radius) := by
    rw [List.append_assoc, List.take_append_drop, ← List.append_assoc, ← List.reverse_append,
      List.take_append_drop, ← hc]
    rfl
  have hslice := slice?_append (c.before.drop radius).reverse
    ((c.before.take radius).reverse ++ c.rest.take radius) (c.rest.drop radius)
  rw [← hinput, hfront, hmiddle] at hslice
  have hstop : c.position - radius + (min radius c.position + min radius c.rest.length) =
      min (c.position + radius) input.length := by omega
  have hcolumn : (c.before.take radius).length = c.position - (c.position - radius) := by
    simp [Cursor.position]
    omega
  rw [hstop] at hslice
  unfold window Cursor.window
  dsimp only
  rw [hslice, hcolumn]
  rfl

theorem error_eq (operation : String) (cause : CompileCause) :
    error input operation cause c.position = some (c.error operation cause) := by
  unfold error
  rw [window_eq hc, window_eq hc]
  rfl

theorem runAt_fail (operation : String) (cause : CompileCause) :
    (fail input operation cause : Scan CompileError α).runAt c.position =
      some (.error (c.error operation cause)) := by
  unfold fail
  rw [runAt_bind_ok (runAt_get _), error_eq hc, runAt_bind_ok (runAt_taken _ _)]
  rfl

end

end DocQuery.Indexed
