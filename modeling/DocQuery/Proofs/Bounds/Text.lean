import DocQuery.Proofs.Text.Bytes
import DocQuery.Proofs.Text.Template
import DocQuery.Selection.Query

/-! Texts by offset.  Offsets in a text count bytes, and a text can be cut at an offset only if that
stands between two of its characters.  The offsets that are cut at come from a search, and one that is
found stands right before what was searched for, so both cuts of a regular expression at its slashes
and those of an argument at its references stand between characters. -/

namespace DocQuery.Indexed

open Utf8

/-- The characters before and behind an offset, if it stands between characters. -/
def splitAt? : List Char → Nat → Option (List Char × List Char)
  | cs, 0 => some ([], cs)
  | [], _ + 1 => none
  | c :: cs, offset + 1 =>
    if c.utf8Size ≤ offset + 1 then do
      let (front, back) ← splitAt? cs (offset + 1 - c.utf8Size)
      return (c :: front, back)
    else none

/-- The characters from one offset up to another. -/
def sliceText? (cs : List Char) (start stop : Nat) : Option (List Char) := do
  let (front, _) ← splitAt? cs stop
  let (_, middle) ← splitAt? front start
  return middle

/-- The offset of the first occurrence. -/
def find? (pattern : List Char) : List Char → Option Nat
  | [] => if pattern.isEmpty then some 0 else none
  | c :: cs =>
    if pattern.isPrefixOf (c :: cs) then some 0 else (find? pattern cs).map (c.utf8Size + ·)

/-- The offset of the last occurrence. -/
def rfind? (wanted : Char) : List Char → Option Nat
  | [] => none
  | c :: cs =>
    match rfind? wanted cs with
    | some offset => some (c.utf8Size + offset)
    | none => if c = wanted then some 0 else none

/-- Pattern and modifiers of a regular expression. -/
def splitExpression? (expression : String) : Option (String × String) :=
  let cs := expression.toList
  match rfind? '/' cs with
  | none => some (expression, "")
  | some tail =>
    if 0 < tail ∧ cs.head? = some '/' then do
      let pattern ← sliceText? cs 1 tail
      let modifiers ← sliceText? cs (tail + 1) (bytesOf cs).length
      return (String.ofList pattern, String.ofList modifiers)
    else some (expression, "")

/-- The first reference: what stands before it, its name, and what stands behind it. -/
def firstReference (rest : List Char) : Option (Option (List Char × List Char × List Char)) :=
  match find? ['\x7b', '$'] rest with
  | none => some none
  | some start => do
    let inside ← sliceText? rest (start + 2) (bytesOf rest).length
    match find? ['\x7d'] inside with
    | none => return none
    | some length =>
      let reference ← sliceText? rest start (start + 2 + length + 1)
      let name ← sliceText? rest (start + 2) (start + 2 + length)
      let before ← sliceText? rest 0 start
      let after ← sliceText? rest (start + (bytesOf reference).length) (bytesOf rest).length
      return some (before, name, after)

/-- Cuts what is left of a text at its references. -/
def cut : Nat → List Char → Option Template
  | 0, _ => none
  | steps + 1, rest => do
    match ← firstReference rest with
    | none => return { references := [], tail := String.ofList rest }
    | some (before, name, after) =>
      let more ← cut steps after
      return {
        references := (String.ofList before, String.ofList name) :: more.references
        tail := more.tail }

/-! ### Cuts between characters -/

theorem length_bytesOf_cons (c : Char) (cs : List Char) :
    (bytesOf (c :: cs)).length = c.utf8Size + (bytesOf cs).length := by
  rw [bytesOf_cons, List.length_append, String.length_utf8EncodeChar]

theorem splitAt?_append (front back : List Char) :
    splitAt? (front ++ back) (bytesOf front).length = some (front, back) := by
  induction front with
  | nil =>
    unfold splitAt?
    cases back <;> rfl
  | cons c front ih =>
    have hpos := c.utf8Size_pos
    have hlength := length_bytesOf_cons c front
    obtain ⟨offset, hoffset⟩ : ∃ offset, (bytesOf (c :: front)).length = offset + 1 :=
      ⟨c.utf8Size + (bytesOf front).length - 1, by omega⟩
    have hrest : offset + 1 - c.utf8Size = (bytesOf front).length := by omega
    rw [hoffset, List.cons_append, splitAt?, if_pos (by omega), hrest, ih]
    rfl

/-- No cut goes through a character of two bytes. -/
example : splitAt? "é!".toList 2 = some (['é'], ['!']) ∧ splitAt? "é!".toList 1 = none := by decide

theorem sliceText?_append (front middle back : List Char) :
    sliceText? (front ++ (middle ++ back)) (bytesOf front).length
      ((bytesOf front).length + (bytesOf middle).length) = some middle := by
  have hstop := splitAt?_append (front ++ middle) back
  rw [bytesOf_append, List.length_append, List.append_assoc] at hstop
  unfold sliceText?
  rw [hstop]
  dsimp only [Option.bind_eq_bind, Option.bind_some]
  rw [splitAt?_append]
  rfl

theorem sliceText?_to_end (front back : List Char) :
    sliceText? (front ++ back) (bytesOf front).length (bytesOf (front ++ back)).length =
      some back := by
  have hslice := sliceText?_append front back []
  rw [List.append_nil] at hslice
  rw [bytesOf_append, List.length_append]
  exact hslice

theorem rfind?_eq_none {wanted : Char} {cs : List Char} (h : rfind? wanted cs = none) :
    wanted ∉ cs := by
  induction cs with
  | nil => exact List.not_mem_nil
  | cons c cs ih =>
    unfold rfind? at h
    cases hrest : rfind? wanted cs with
    | some n =>
      rw [hrest] at h
      cases h
    | none =>
      rw [hrest] at h
      dsimp only at h
      by_cases hc : c = wanted
      · rw [if_pos hc] at h
        cases h
      · simp [ih hrest, Ne.symm hc]

theorem rfind?_eq_some {wanted : Char} {cs : List Char} {offset : Nat}
    (h : rfind? wanted cs = some offset) :
    ∃ front back, cs = front ++ wanted :: back ∧ wanted ∉ back ∧ (bytesOf front).length = offset := by
  induction cs generalizing offset with
  | nil => cases h
  | cons c cs ih =>
    unfold rfind? at h
    cases hrest : rfind? wanted cs with
    | some n =>
      rw [hrest] at h
      cases h
      obtain ⟨front, back, hsplit, hback, hlength⟩ := ih hrest
      refine ⟨c :: front, back, by rw [hsplit]; rfl, hback, ?_⟩
      rw [length_bytesOf_cons, hlength]
    | none =>
      rw [hrest] at h
      dsimp only at h
      by_cases hc : c = wanted
      · rw [if_pos hc] at h
        cases h
        exact ⟨[], cs, by rw [hc]; rfl, rfind?_eq_none hrest, rfl⟩
      · rw [if_neg hc] at h
        cases h

/-! ### Regular expressions -/

theorem split_of_slashes {expression : String} {front back : List Char}
    (h : expression.toList = '/' :: (front ++ '/' :: back)) (hback : '/' ∉ back) :
    RegexQuery.split expression = (String.ofList front, String.ofList back) := by
  have hmodifiers : ((front ++ '/' :: back).reverse.takeWhile (· != '/')).reverse = back := by
    have hall : ∀ c ∈ back.reverse, (c != '/') = true := by
      intro c hc
      rw [bne_iff_ne]
      rintro rfl
      exact hback (List.mem_reverse.mp hc)
    rw [List.reverse_append, List.reverse_cons, List.append_assoc,
      List.takeWhile_append_of_pos hall]
    simp
  have hlength : (front ++ '/' :: back).length - back.length - 1 = front.length := by
    simp
    omega
  simp only [RegexQuery.split, h]
  rw [if_pos (by simp), hmodifiers, hlength, List.take_left]

theorem split_of_plain {expression : String}
    (h : ∀ cs, expression.toList = '/' :: cs → '/' ∉ cs) :
    RegexQuery.split expression = (expression, "") := by
  unfold RegexQuery.split
  split
  · rename_i cs hcs
    rw [if_neg (by simpa using h cs hcs)]
  · rfl

/-- Both slashes of an expression stand between characters. -/
theorem splitExpression?_eq (expression : String) :
    splitExpression? expression = some (RegexQuery.split expression) := by
  unfold splitExpression?
  dsimp only
  cases htail : rfind? '/' expression.toList with
  | none =>
    have hnone := rfind?_eq_none htail
    rw [split_of_plain]
    intro cs hcs
    simp [hcs] at hnone
  | some tail =>
    obtain ⟨front, back, hsplit, hback, hlength⟩ := rfind?_eq_some htail
    dsimp only
    by_cases hslashes : 0 < tail ∧ expression.toList.head? = some '/'
    · rw [if_pos hslashes]
      obtain ⟨hpos, hhead⟩ := hslashes
      obtain ⟨front', rfl⟩ : ∃ front', front = '/' :: front' := by
        cases front with
        | nil =>
          rw [← hlength] at hpos
          exact absurd hpos (Nat.lt_irrefl 0)
        | cons c front' =>
          rw [hsplit] at hhead
          cases hhead
          exact ⟨front', rfl⟩
      have hone : (bytesOf ['/']).length = 1 := by decide
      have hpattern : sliceText? expression.toList 1 tail = some front' := by
        have hslice := sliceText?_append ['/'] front' ('/' :: back)
        rw [← List.length_append, ← bytesOf_append, hone] at hslice
        rw [hsplit, ← hlength]
        exact hslice
      have hmodifiers : sliceText? expression.toList (tail + 1) (bytesOf expression.toList).length =
          some back := by
        have hslice := sliceText?_to_end ('/' :: front' ++ ['/']) back
        rw [bytesOf_append ('/' :: front'), List.length_append, hlength, hone, List.append_assoc]
          at hslice
        rw [hsplit]
        exact hslice
      rw [split_of_slashes hsplit hback, hpattern, hmodifiers]
      rfl
    · rw [if_neg hslashes, split_of_plain]
      intro cs hcs hmem
      apply hslashes
      refine ⟨?_, by rw [hcs]; rfl⟩
      cases front with
      | nil =>
        rw [hcs] at hsplit
        cases hsplit
        exact absurd hmem hback
      | cons c front =>
        have hpos := c.utf8Size_pos
        rw [length_bytesOf_cons] at hlength
        omega

/-! ### Searches -/

theorem find?_eq_none {pattern cs : List Char} (h : find? pattern cs = none)
    (front back : List Char) : cs ≠ front ++ (pattern ++ back) := by
  induction cs generalizing front with
  | nil =>
    intro heq
    simp only [List.nil_eq, List.append_eq_nil_iff] at heq
    rw [heq.2.1] at h
    cases h
  | cons c cs ih =>
    unfold find? at h
    by_cases hstart : pattern.isPrefixOf (c :: cs)
    · rw [if_pos hstart] at h
      cases h
    · rw [if_neg hstart, Option.map_eq_none_iff] at h
      intro heq
      cases front with
      | nil => exact hstart (List.isPrefixOf_iff_prefix.mpr ⟨back, heq.symm⟩)
      | cons d front =>
        rw [List.cons_append, List.cons.injEq] at heq
        exact ih h front heq.2

/-- What is found is the first occurrence. -/
theorem find?_eq_some {pattern cs : List Char} {offset : Nat} (h : find? pattern cs = some offset) :
    ∃ front back, cs = front ++ (pattern ++ back) ∧ (bytesOf front).length = offset ∧
      ∀ front' back', cs = front' ++ (pattern ++ back') → front.length ≤ front'.length := by
  induction cs generalizing offset with
  | nil =>
    unfold find? at h
    by_cases hempty : pattern.isEmpty
    · rw [if_pos hempty] at h
      cases h
      rw [List.isEmpty_iff] at hempty
      exact ⟨[], [], by rw [hempty]; rfl, rfl, fun _ _ _ => Nat.zero_le _⟩
    · rw [if_neg hempty] at h
      cases h
  | cons c cs ih =>
    unfold find? at h
    by_cases hstart : pattern.isPrefixOf (c :: cs)
    · rw [if_pos hstart] at h
      cases h
      obtain ⟨back, hback⟩ := List.isPrefixOf_iff_prefix.mp hstart
      exact ⟨[], back, hback.symm, rfl, fun _ _ _ => Nat.zero_le _⟩
    · rw [if_neg hstart] at h
      obtain ⟨n, hn, rfl⟩ := Option.map_eq_some_iff.mp h
      obtain ⟨front, back, rfl, hlength, hfirst⟩ := ih hn
      refine ⟨c :: front, back, rfl, by rw [length_bytesOf_cons, hlength], ?_⟩
      intro front' back' heq
      cases front' with
      | nil => exact absurd (List.isPrefixOf_iff_prefix.mpr ⟨back', heq.symm⟩) hstart
      | cons d front' =>
        rw [List.cons_append, List.cons.injEq] at heq
        exact Nat.succ_le_succ (hfirst front' back' heq.2)

theorem not_mem_of_find?_eq_none {c : Char} {cs : List Char} (h : find? [c] cs = none) :
    c ∉ cs := by
  intro hmem
  obtain ⟨front, back, heq⟩ := List.append_of_mem hmem
  exact find?_eq_none h front back heq

/-! ### References -/

theorem length_bytesOf_open : (bytesOf ['\x7b', '$']).length = 2 := by decide

theorem length_bytesOf_close : (bytesOf ['\x7d']).length = 1 := by decide

theorem slice_inside {rest before inside : List Char}
    (htext : rest = before ++ (['\x7b', '$'] ++ inside)) :
    sliceText? rest ((bytesOf before).length + 2) (bytesOf rest).length = some inside := by
  have hslice := sliceText?_to_end (before ++ ['\x7b', '$']) inside
  rw [bytesOf_append, List.length_append, length_bytesOf_open, List.append_assoc] at hslice
  rw [htext]
  exact hslice

section

variable {rest before name after : List Char}
  (htext : rest = before ++ '\x7b' :: '$' :: (name ++ '\x7d' :: after))
include htext

theorem slice_before : sliceText? rest 0 (bytesOf before).length = some before := by
  have hslice := sliceText?_append [] before ('\x7b' :: '$' :: (name ++ '\x7d' :: after))
  rw [bytesOf_nil, List.length_nil, Nat.zero_add] at hslice
  rw [htext]
  exact hslice

theorem slice_name : sliceText? rest ((bytesOf before).length + 2)
    ((bytesOf before).length + 2 + (bytesOf name).length) = some name := by
  have hslice := sliceText?_append (before ++ ['\x7b', '$']) name ('\x7d' :: after)
  rw [bytesOf_append, List.length_append, length_bytesOf_open] at hslice
  rw [htext]
  simpa using hslice

theorem slice_reference : sliceText? rest (bytesOf before).length
    ((bytesOf before).length + 2 + (bytesOf name).length + 1) =
      some (['\x7b', '$'] ++ name ++ ['\x7d']) := by
  have hslice := sliceText?_append before (['\x7b', '$'] ++ name ++ ['\x7d']) after
  rw [bytesOf_append, bytesOf_append, List.length_append, List.length_append, length_bytesOf_open,
    length_bytesOf_close, ← Nat.add_assoc, ← Nat.add_assoc] at hslice
  rw [htext]
  simpa using hslice

theorem slice_after : sliceText? rest
    ((bytesOf before).length + (bytesOf (['\x7b', '$'] ++ name ++ ['\x7d'])).length)
      (bytesOf rest).length = some after := by
  have hslice := sliceText?_to_end (before ++ (['\x7b', '$'] ++ name ++ ['\x7d'])) after
  rw [bytesOf_append before, List.length_append] at hslice
  rw [htext]
  simpa using hslice

end

/-- Every cut at a reference stands between characters. -/
theorem firstReference_eq (rest : List Char) :
    firstReference rest = some (Template.nextReference? rest) := by
  unfold firstReference
  cases hstart : find? ['\x7b', '$'] rest with
  | none =>
    have hnone : Template.nextReference? rest = none :=
      Template.nextReference?_eq_none_iff.mpr fun before _ _ => find?_eq_none hstart before _
    rw [hnone]
  | some start =>
    obtain ⟨before, inside, hrest, rfl, hfirst⟩ := find?_eq_some hstart
    dsimp only
    rw [slice_inside hrest]
    dsimp only [Option.bind_eq_bind, Option.bind_some]
    cases hlength : find? ['\x7d'] inside with
    | none =>
      have hclose := not_mem_of_find?_eq_none hlength
      rw [Template.nextReference?_of_not_closed hrest hfirst hclose]
      rfl
    | some length =>
      obtain ⟨name, after, hsplit, rfl, hshort⟩ := find?_eq_some hlength
      have hclose : '\x7d' ∉ name := by
        intro hmem
        obtain ⟨start, stop, rfl⟩ := List.append_of_mem hmem
        have hle := hshort start (stop ++ '\x7d' :: after) (by rw [hsplit]; simp)
        rw [List.length_append, List.length_cons] at hle
        omega
      have htext : rest = before ++ '\x7b' :: '$' :: (name ++ '\x7d' :: after) := by
        rw [hrest, hsplit]
        rfl
      have hnext : Template.nextReference? rest = some (before, name, after) :=
        Template.nextReference?_eq_some_iff.mpr ⟨htext, hfirst, hclose⟩
      dsimp only
      rw [slice_reference htext]
      dsimp only [Option.bind_some]
      rw [slice_name htext, slice_before htext, slice_after htext, hnext]
      rfl

theorem cut_eq {steps : Nat} {rest : List Char} (h : rest.length < steps) :
    cut steps rest = some (Template.ofChars rest) := by
  induction steps generalizing rest with
  | zero => exact absurd h (Nat.not_lt_zero _)
  | succ steps ih =>
    rw [cut, firstReference_eq]
    dsimp only [Option.bind_eq_bind, Option.bind_some]
    cases hnext : Template.nextReference? rest with
    | none =>
      rw [Template.ofChars_of_plain hnext]
      rfl
    | some found =>
      obtain ⟨before, name, after⟩ := found
      have hshorter := Template.length_nextReference?_lt hnext
      dsimp only
      rw [ih (Nat.lt_of_lt_of_le hshorter (Nat.le_of_lt_succ h)),
        Template.ofChars_of_reference hnext]
      rfl

end DocQuery.Indexed
