import Mathlib
import DocQuery.Proofs.Json.Members

/-! Addresses of values inside a JSON value.  A value is reached by moves, each to the member of a
key or to the item at an index.  The address of the moves is a path: the keys with a backslash
before every dot and every backslash, the indices in decimal, and dots between them.  Splitting the
address gives the keys and the indices back, whatever the keys hold, so the address leads to the
value that the moves reach, and to nothing where the last move is to no member and no item. -/

namespace DocQuery

/-! Indices in decimal. -/

theorem le_ofDigitChars (digits : List Char) (n : Nat) : n ≤ Nat.ofDigitChars 10 digits n := by
  induction digits generalizing n with
  | nil => rw [Nat.ofDigitChars_nil]
  | cons c digits ih =>
    rw [Nat.ofDigitChars_cons]
    have hle := ih (10 * n + (c.toNat - '0'.toNat))
    omega

theorem addDigits_eq {digits : List Char} (hdigits : ∀ c ∈ digits, c.isDigit) {n : Nat}
    (hn : n < 2 ^ 64) :
    addDigits n digits =
      if Nat.ofDigitChars 10 digits n < 2 ^ 64 then .ok (Nat.ofDigitChars 10 digits n)
      else .error .tooLarge := by
  induction digits generalizing n with
  | nil => rw [addDigits, Nat.ofDigitChars_nil, if_pos hn]
  | cons c digits ih =>
    rw [List.forall_mem_cons] at hdigits
    have hzero : '0'.toNat = 48 := rfl
    rw [addDigits, hdigits.1, Nat.ofDigitChars_cons, hzero]
    generalize 10 * n + (c.toNat - 48) = next
    -- Once a value is too large, more digits do not make it smaller.
    by_cases hnext : next < 2 ^ 64
    · rw [← ih hdigits.2 hnext]
      exact if_pos hnext
    · have hbig : ¬Nat.ofDigitChars 10 digits next < 2 ^ 64 := fun hlt =>
        hnext (Nat.lt_of_le_of_lt (le_ofDigitChars digits next) hlt)
      rw [if_neg hbig]
      exact if_neg hnext

/-- Digits are an index if a machine word can hold their value, and else they are too large. -/
theorem readIndex_digits {digits : List Char} (hne : digits ≠ [])
    (hdigits : ∀ c ∈ digits, c.isDigit) :
    readIndex digits =
      if Nat.ofDigitChars 10 digits 0 < 2 ^ 64 then .ok (Nat.ofDigitChars 10 digits 0)
      else .error .tooLarge := by
  have hplus : '+' ∉ digits := fun hmem => absurd (hdigits _ hmem) (by decide)
  rw [← addDigits_eq hdigits (by decide), readIndex.eq_def]
  split
  · exact absurd rfl hne
  · exact absurd List.mem_cons_self hplus
  · exact absurd List.mem_cons_self hplus
  · rfl

/-- A number in decimal is an index if a machine word can hold it, and else it is too large. -/
theorem readIndex_toDigits (n : Nat) :
    readIndex (Nat.toDigits 10 n) = if n < 2 ^ 64 then .ok n else .error .tooLarge := by
  have hdigits : ∀ c ∈ Nat.toDigits 10 n, c.isDigit := fun c hc =>
    Nat.isDigit_of_mem_toDigits (by decide) (by decide) hc
  rw [readIndex_digits Nat.toDigits_ne_nil hdigits, Nat.ofDigitChars_ten_toDigits]

namespace Json

/-- A move inside a value: to the member of a key, or to the item at an index. -/
inductive Move where
  | key (name : String)
  | index (n : Nat)
  deriving DecidableEq, Repr

/-- The characters of a key as an address writes them. -/
def escapeChars (key : List Char) : List Char :=
  key.flatMap fun c => if c = '.' ∨ c = '\\' then ['\\', c] else [c]

namespace Move

/-- The segment of a path that stands for a move. -/
def segment : Move → String
  | key name => name
  | index n => n.repr

/-- A move as an address writes it. -/
def written : Move → String
  | key name => String.ofList (escapeChars name.toList)
  | index n => n.repr

/-- The move is possible in the first value and leads to the second one. -/
inductive Leads : Json → Move → Json → Prop
  | member {members : List (String × Json)} {name : String} {value : Json}
      (h : members.lookup name = some value) : Leads (.object members) (.key name) value
  | item {items : List Json} {n : Nat} {value : Json}
      (h : items[n]? = some value) : Leads (.array items) (.index n) value

/-- The move is to a key that the object does not have, or to an index past the end of the array. -/
inductive Misses : Json → Move → Prop
  | member {members : List (String × Json)} {name : String}
      (h : name ∉ members.map Prod.fst) : Misses (.object members) (.key name)
  | item {items : List Json} {n : Nat} (h : items.length ≤ n) : Misses (.array items) (.index n)

end Move

/-- The path of moves. -/
def address (moves : List Move) : String := ".".intercalate (moves.map Move.written)

/-- The moves lead from the first value to the second one. -/
inductive Reaches : Json → List Move → Json → Prop
  | here (value : Json) : Reaches value [] value
  | move {value next target : Json} {move : Move} {moves : List Move}
      (h : move.Leads value next) (hmoves : Reaches next moves target) :
      Reaches value (move :: moves) target

/-- No array inside a value has more items than a machine word can number. -/
def Numbered (value : Json) : Prop :=
  ∀ moves items, Reaches value moves (.array items) → items.length ≤ 2 ^ 64

theorem numbered_of_leads {value : Json}
    (hlength : ∀ items, value = .array items → items.length ≤ 2 ^ 64)
    (hnext : ∀ move next, Move.Leads value move next → Numbered next) : Numbered value := by
  intro moves items hreaches
  cases hreaches with
  | here => exact hlength items rfl
  | move hmove hmoves => exact hnext _ _ hmove _ items hmoves

/-! Splitting an address. -/

theorem splitPath_escapeChars (current key rest : List Char) :
    splitPath current (escapeChars key ++ rest) = splitPath (key.reverse ++ current) rest := by
  induction key generalizing current with
  | nil => rfl
  | cons c key ih =>
    rw [List.reverse_cons, List.append_assoc, escapeChars, List.flatMap_cons, ← escapeChars]
    -- The backslash in front makes the next character part of the key.
    by_cases hc : c = '.' ∨ c = '\\'
    · rw [if_pos hc]
      exact ih (c :: current)
    · rw [if_neg hc, not_or] at *
      have hstep : splitPath current (c :: (escapeChars key ++ rest)) =
          splitPath (c :: current) (escapeChars key ++ rest) := by
        rw [splitPath.eq_def]
        split
        · rename_i heq
          cases heq
        · rename_i heq
          exact absurd (List.cons.inj heq).1 hc.2
        · rename_i heq
          exact absurd (List.cons.inj heq).1 hc.2
        · rename_i heq
          obtain ⟨rfl, rfl⟩ := List.cons.inj heq
          exact if_neg hc.1
      exact hstep.trans (ih (c :: current))

/-- A text without dots and backslashes is written as it is. -/
theorem escapeChars_eq_self {key : List Char} (h : ∀ c ∈ key, c ≠ '.' ∧ c ≠ '\\') :
    escapeChars key = key := by
  induction key with
  | nil => rfl
  | cons c key ih =>
    rw [List.forall_mem_cons] at h
    rw [escapeChars, List.flatMap_cons, ← escapeChars, ih h.2, if_neg (not_or.mpr h.1)]
    rfl

namespace Move

theorem toList_written (move : Move) : move.written.toList = escapeChars move.segment.toList := by
  cases move with
  | key name => exact String.toList_ofList
  | index n =>
    rw [written, segment, Nat.toList_repr]
    refine (escapeChars_eq_self fun c hc => ?_).symm
    have hdigit := Nat.isDigit_of_mem_toDigits (by decide) (by decide) hc
    constructor
    · rintro rfl
      exact absurd hdigit (by decide)
    · rintro rfl
      exact absurd hdigit (by decide)

end Move

theorem segments_address {moves : List Move} (h : moves ≠ []) :
    segments (address moves) = moves.map Move.segment := by
  induction moves with
  | nil => exact absurd rfl h
  | cons move moves ih =>
    have hsplit (rest : List Char) :
        splitPath [] (move.written.toList ++ rest) = splitPath move.segment.toList.reverse rest := by
      rw [move.toList_written, splitPath_escapeChars, List.append_nil]
    cases moves with
    | nil =>
      have hlast := hsplit []
      rw [List.append_nil] at hlast
      rw [segments, address, List.map_singleton, String.intercalate_singleton, hlast, splitPath,
        List.reverse_reverse, String.ofList_toList]
      rfl
    | cons next moves =>
      have hrest := ih (List.cons_ne_nil _ _)
      have haddress : (address (move :: next :: moves)).toList =
          move.written.toList ++ '.' :: (address (next :: moves)).toList := by
        rw [address, List.map_cons, List.map_cons, String.intercalate_cons_cons,
          String.toList_append, String.toList_append, ← List.map_cons, ← address]
        rw [List.append_assoc]
        rfl
      rw [segments] at hrest
      rw [segments, haddress, hsplit, splitPath, if_pos rfl, hrest, List.reverse_reverse,
        String.ofList_toList]
      · rfl
      · exact fun h => absurd h (by decide)
      · exact fun _ _ h => absurd h (by decide)

/-! Following the segments. -/

theorem repr_ne_hash (n : Nat) : n.repr ≠ "#" := by
  intro h
  have hmem : '#' ∈ Nat.toDigits 10 n := by
    rw [← Nat.toList_repr, h]
    decide
  exact absurd (Nat.isDigit_of_mem_toDigits (by decide) (by decide) hmem) (by decide)

/-- In an array a decimal segment leads to the item at that index, or nowhere. -/
theorem resolve_array_repr (items : List Json) {n : Nat} (segments : List String)
    (h : n < 2 ^ 64 ∨ items.length ≤ n) :
    resolve (.array items) (n.repr :: segments) = items[n]?.bind fun v => resolve v segments := by
  rw [resolve, if_neg (repr_ne_hash n), Nat.toList_repr, readIndex_toDigits]
  by_cases hn : n < 2 ^ 64
  · rw [if_pos hn]
  · rw [if_neg hn, List.getElem?_eq_none (h.resolve_left hn)]
    rfl

theorem resolve_object (members : List (String × Json)) (key : String) (segments : List String) :
    resolve (.object members) (key :: segments) =
      (members.lookup key).bind fun v => resolve v segments := by
  rw [resolve, member?_eq_lookup]

theorem resolve_of_reaches {value target : Json} {moves : List Move} (h : Reaches value moves target)
    (hnumbered : value.Numbered) (segments : List String) :
    resolve value (moves.map Move.segment ++ segments) = resolve target segments := by
  induction h with
  | here value => rfl
  | @move value next target move moves hmove _ ih =>
    have hnext := ih fun moves' items hitems => hnumbered _ items (.move hmove hitems)
    cases hmove with
    | member hmember =>
      rw [List.map_cons, List.cons_append, Move.segment, resolve_object, hmember]
      exact hnext
    | @item items n value hitem =>
      have hword : n < 2 ^ 64 :=
        Nat.lt_of_lt_of_le (List.getElem?_eq_some_iff.mp hitem).1 (hnumbered [] items (.here _))
      rw [List.map_cons, List.cons_append, Move.segment,
        resolve_array_repr items _ (.inl hword), hitem]
      exact hnext

theorem resolve_of_misses {value : Json} {move : Move} (h : move.Misses value)
    (segments : List String) : resolve value (move.segment :: segments) = none := by
  cases h with
  | @member members name hname =>
    have hnone : members.lookup name = none := by
      rw [List.lookup_eq_none_iff]
      intro m hm
      rw [bne_iff_ne]
      rintro rfl
      exact hname (List.mem_map_of_mem hm)
    rw [Move.segment, resolve_object, hnone]
    rfl
  | item hlength =>
    rw [Move.segment, resolve_array_repr _ _ (.inr hlength), List.getElem?_eq_none hlength]
    rfl

/-- Every value inside a value is found at its address, and nothing is found at the address of a
key that an object inside lacks or of an index past the end of an array inside. -/
theorem get?_address {value : Json} (hnumbered : value.Numbered) :
    (∀ moves target, moves ≠ [] → Reaches value moves target →
      value.get? (address moves) = some target) ∧
    ∀ moves last target, Reaches value moves target → last.Misses target →
      value.get? (address (moves ++ [last])) = none := by
  constructor
  · intro moves target hne hreaches
    have hresolve := resolve_of_reaches hreaches hnumbered []
    rw [List.append_nil] at hresolve
    rw [get?, segments_address hne, hresolve, resolve]
  · intro moves last target hreaches hmisses
    have hne : moves ++ [last] ≠ [] := List.append_ne_nil_of_right_ne_nil _ (List.cons_ne_nil _ _)
    rw [get?, segments_address hne, List.map_append, resolve_of_reaches hreaches hnumbered]
    exact resolve_of_misses hmisses []

/-- An object whose only key is empty, with an array of null and of an object under a key that ends
in a dot and a backslash. -/
def nested : Json := .object [("", .array [.null, .object [("#.\\", .bool true)]])]

theorem numbered_nested : nested.Numbered := by
  refine numbered_of_leads (fun _ h => nomatch h) fun _ _ hmove => ?_
  cases hmove with
  | @member _ name _ h =>
  rw [List.lookup_cons] at h
  split at h
  · cases h
    refine numbered_of_leads (fun _ h => by cases h; decide) fun _ _ hmove => ?_
    cases hmove with
    | @item _ n _ h =>
    match n, h with
    | 0, rfl => exact numbered_of_leads (fun _ h => nomatch h) fun _ _ hmove => nomatch hmove
    | 1, rfl =>
      refine numbered_of_leads (fun _ h => nomatch h) fun _ _ hmove => ?_
      cases hmove with
      | @member _ name _ h =>
      rw [List.lookup_cons] at h
      split at h
      · cases h
        exact numbered_of_leads (fun _ h => nomatch h) fun _ _ hmove => nomatch hmove
      · cases h
  · cases h

theorem get?_address_nested :
    nested.Numbered ∧ nested.get? ".1.#\\.\\\\" = some (.bool true) ∧ nested.get? ".2" = none := by
  obtain ⟨hreach, hmiss⟩ := get?_address numbered_nested
  refine ⟨numbered_nested, ?_, ?_⟩
  · have haddress : address [.key "", .index 1, .key "#.\\"] = ".1.#\\.\\\\" := by decide
    rw [← haddress]
    exact hreach _ _ (List.cons_ne_nil _ _)
      (.move (.member rfl) (.move (.item rfl) (.move (.member rfl) (.here _))))
  · have haddress : address ([.key ""] ++ [.index 2]) = ".2" := by decide
    rw [← haddress]
    exact hmiss _ _ _ (.move (.member rfl) (.here _)) (.item (Nat.le_refl 2))

end Json

end DocQuery
