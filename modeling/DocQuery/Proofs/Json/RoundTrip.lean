import DocQuery.Json.Reader
import DocQuery.Proofs.Json.Members

/-! Reading what was written.  A value without numbers is known where its text ends, so it is read back
whatever stands behind it, in both layouts: the blanks that a layout puts between tokens stand where
the reader skips blanks.  The reader counts the levels of nesting down, and the bound suffices if the
value is nested no deeper. -/

namespace DocQuery.Json

/-- The reading succeeds with the value and leaves the characters. -/
def Reads {P : α × List Char → Prop} (reading : Reading { r // P r }) (a : α) (rest : List Char) :
    Prop :=
  ∃ h, reading = .ok ⟨(a, rest), h⟩

theorem Reads.bind {P : α × List Char → Prop} {Q : β × List Char → Prop} {a : α} {b : β}
    {middle rest : List Char} {reading : Reading { r // P r }}
    {next : { r // P r } → Reading { r // Q r }} (h : Reads reading a middle)
    (hnext : ∀ h, Reads (next ⟨(a, middle), h⟩) b rest) : Reads (reading >>= next) b rest := by
  obtain ⟨hp, rfl⟩ := h
  exact hnext hp

theorem Reads.bind_eq {P : α × List Char → Prop} {a : α} {rest : List Char} {b : β}
    {reading : Reading { r // P r }} {next : { r // P r } → Reading β} (h : Reads reading a rest)
    (hnext : ∀ h, next ⟨(a, rest), h⟩ = .ok b) : reading >>= next = .ok b := by
  obtain ⟨hp, rfl⟩ := h
  exact hnext hp

/-! Blanks. -/

/-- Blanks only. -/
def Blanks (cs : List Char) : Prop := ∀ c ∈ cs, isBlank c

theorem blanks_nil : Blanks [] := fun _ h => nomatch h

theorem blanks_lineBreak (style : Style) (depth : Nat) : Blanks (style.lineBreak depth) := by
  cases style with
  | compact => exact blanks_nil
  | indented =>
    intro c hc
    rcases List.mem_cons.mp hc with rfl | hc
    · decide
    · rw [List.eq_of_mem_replicate hc]
      decide

theorem skipBlanks_append {blanks rest : List Char} {c : Char} (hblanks : Blanks blanks)
    (hc : ¬isBlank c) : skipBlanks (blanks ++ c :: rest) = c :: rest := by
  rw [skipBlanks, List.dropWhile_append_of_pos hblanks, List.dropWhile_cons_of_neg hc]

/-- The next character is the first one behind blanks. -/
theorem next?_eq_some {cs rest : List Char} {c : Char} (h : skipBlanks cs = c :: rest) :
    ∃ hlt, next? cs = some ⟨(c, rest), hlt⟩ := by
  have hlt : rest.length < cs.length := by
    have hle := length_skipBlanks_le cs
    rw [h, List.length_cons] at hle
    omega
  refine ⟨hlt, ?_⟩
  rw [next?]
  split
  · rename_i hnil
    rw [h] at hnil
    cases hnil
  · rename_i c' rest' hcons
    obtain ⟨rfl, rfl⟩ := List.cons.inj (hcons.symm.trans h)
    rfl

theorem next?_append {blanks : List Char} (hblanks : Blanks blanks) {c : Char} (hc : ¬isBlank c)
    (rest : List Char) : ∃ hlt, next? (blanks ++ c :: rest) = some ⟨(c, rest), hlt⟩ :=
  next?_eq_some (skipBlanks_append hblanks hc)

theorem next?_cons {c : Char} (hc : ¬isBlank c) (rest : List Char) :
    ∃ hlt, next? (c :: rest) = some ⟨(c, rest), hlt⟩ :=
  next?_append blanks_nil hc rest

/-! Strings. -/

theorem hexValue?_hexDigit : ∀ n < 0x20,
    hexValue? ['0', '0', hexDigit (n / 16), hexDigit (n % 16)] = some n := by decide +kernel

theorem reads_readEscape_control {c : Char} (hc : c.toNat < 0x20) (tail : List Char) :
    Reads (readEscape ('u' :: '0' :: '0' :: hexDigit (c.toNat / 16) :: hexDigit (c.toNat % 16) :: tail))
      c tail := by
  have hvalue := hexValue?_hexDigit c.toNat hc
  have hhex : Reads (readHex ('0' :: '0' :: hexDigit (c.toNat / 16) ::
      hexDigit (c.toNat % 16) :: tail)) c.toNat tail := by
    rw [readHex]
    split
    · rename_i n hn
      rw [hvalue] at hn
      cases hn
      exact ⟨_, rfl⟩
    · rename_i hn
      rw [hvalue] at hn
      cases hn
  have hpoint : Reads (readCodePoint ('0' :: '0' :: hexDigit (c.toNat / 16) ::
      hexDigit (c.toNat % 16) :: tail)) c tail := by
    rw [readCodePoint]
    refine hhex.bind fun h => ?_
    dsimp only
    rw [if_neg (by omega), if_pos (by omega), Char.ofNat_toNat]
    exact ⟨_, rfl⟩
  exact hpoint.bind fun h => ⟨_, rfl⟩

/-- A character is written as an escape that means it, or as itself. -/
theorem escapeChar_cases (c : Char) :
    (∃ cs, escapeChar c = '\\' :: cs ∧ ∀ tail, Reads (readEscape (cs ++ tail)) c tail) ∨
      escapeChar c = [c] ∧ c ≠ '\x22' ∧ c ≠ '\\' ∧ ¬c.toNat < 0x20 := by
  rw [escapeChar]
  split
  · rename_i hc
    refine .inl ⟨[c], rfl, fun tail => ?_⟩
    rcases hc with rfl | rfl
    · exact ⟨_, rfl⟩
    · exact ⟨_, rfl⟩
  split
  · rename_i hc
    subst hc
    exact .inl ⟨['b'], rfl, fun tail => ⟨_, rfl⟩⟩
  split
  · rename_i hc
    subst hc
    exact .inl ⟨['f'], rfl, fun tail => ⟨_, rfl⟩⟩
  split
  · rename_i hc
    subst hc
    exact .inl ⟨['n'], rfl, fun tail => ⟨_, rfl⟩⟩
  split
  · rename_i hc
    subst hc
    exact .inl ⟨['r'], rfl, fun tail => ⟨_, rfl⟩⟩
  split
  · rename_i hc
    subst hc
    exact .inl ⟨['t'], rfl, fun tail => ⟨_, rfl⟩⟩
  split
  · rename_i hc
    exact .inl ⟨_, rfl, reads_readEscape_control hc⟩
  · rename_i hquote _ _ _ _ _ hcontrol
    exact .inr ⟨rfl, fun hc => hquote (.inl hc), fun hc => hquote (.inr hc), hcontrol⟩

/-- A character is read back in front of a string that is. -/
theorem reads_escapeChar (c : Char) {ds tail rest : List Char}
    (h : Reads (readStringTail tail) ds rest) :
    Reads (readStringTail (escapeChar c ++ tail)) (c :: ds) rest := by
  rcases escapeChar_cases c with ⟨cs, hcs, hescape⟩ | ⟨hc, hquote, hslash, hcontrol⟩
  · rw [hcs, List.cons_append, readStringTail, if_neg (by decide), if_pos rfl]
    refine (hescape tail).bind fun _ => ?_
    exact h.bind fun _ => ⟨_, rfl⟩
  · rw [hc, List.singleton_append, readStringTail, if_neg hquote, if_neg hslash, if_neg hcontrol]
    exact h.bind fun _ => ⟨_, rfl⟩

theorem writeString_append (s : String) (rest : List Char) :
    writeString s ++ rest = '\x22' :: (s.toList.flatMap escapeChar ++ '\x22' :: rest) := by
  rw [writeString, List.cons_append, List.cons_append, List.append_assoc, List.singleton_append]

/-- A string is read back behind its opening quote. -/
theorem reads_readString (s : String) (rest : List Char) :
    Reads (readString (s.toList.flatMap escapeChar ++ '\x22' :: rest)) s rest := by
  have htail : ∀ cs : List Char,
      Reads (readStringTail (cs.flatMap escapeChar ++ '\x22' :: rest)) cs rest := by
    intro cs
    induction cs with
    | nil =>
      rw [List.flatMap_nil, List.nil_append, readStringTail, if_pos rfl]
      exact ⟨_, rfl⟩
    | cons c cs ih =>
      rw [List.flatMap_cons, List.append_assoc]
      exact reads_escapeChar c ih
  rw [readString]
  refine (htail s.toList).bind fun h => ?_
  dsimp only
  rw [String.ofList_toList]
  exact ⟨_, rfl⟩

/-! Lists. -/

/-- The text starts with a character that is neither a blank nor a closing bracket. -/
def Opens (cs : List Char) : Prop := ∃ c rest, cs = c :: rest ∧ ¬isBlank c ∧ c ≠ ']'

theorem Opens.exists_next? {cs blanks : List Char} (h : Opens cs) (hblanks : Blanks blanks)
    (rest : List Char) :
    ∃ c more hlt, next? (blanks ++ (cs ++ rest)) = some ⟨(c, more), hlt⟩ ∧ c ≠ ']' := by
  obtain ⟨c, more, rfl, hc, hbracket⟩ := h
  obtain ⟨hlt, hnext⟩ := next?_append hblanks hc (more ++ rest)
  exact ⟨c, more ++ rest, hlt, hnext, hbracket⟩

section Items

variable {readItem : (cs : List Char) → Reading (Ahead cs α)} {text : α → List Char}
  {breaks close : List Char}

theorem reads_readItems_end (hclose : Blanks close) (first : Bool) (rest : List Char) :
    Reads (readItems readItem first (close ++ ']' :: rest)) [] rest := by
  obtain ⟨hlt, hnext⟩ :=
    next?_append hclose (by decide : ¬isBlank ']') rest
  rw [readItems, hnext]
  exact ⟨_, rfl⟩

variable (hbreaks : Blanks breaks) (hclose : Blanks close) (rest : List Char)
include hbreaks hclose

/-- The items behind the first are read back, if every single one is. -/
theorem reads_readItems_more {items : List α}
    (hitem : ∀ item ∈ items, Opens (text item) ∧ ∀ blanks rest, Blanks blanks →
      Reads (readItem (blanks ++ (text item ++ rest))) item rest) :
    Reads (readItems readItem false
      (items.flatMap (fun item => ',' :: (breaks ++ text item)) ++ (close ++ ']' :: rest)))
      items rest := by
  induction items with
  | nil =>
    rw [List.flatMap_nil, List.nil_append]
    exact reads_readItems_end hclose false rest
  | cons item items ih =>
    rw [List.forall_mem_cons] at hitem
    obtain ⟨⟨hopens, hread⟩, hitems⟩ := hitem
    let more := items.flatMap (fun item => ',' :: (breaks ++ text item)) ++ (close ++ ']' :: rest)
    have hcs : (item :: items).flatMap (fun item => ',' :: (breaks ++ text item)) ++
        (close ++ ']' :: rest) = ',' :: (breaks ++ (text item ++ more)) := by
      simp only [List.flatMap_cons, List.append_assoc, List.cons_append, more]
    obtain ⟨hcomma, hnext⟩ :=
      next?_cons (by decide : ¬isBlank ',') (breaks ++ (text item ++ more))
    obtain ⟨c, behind, hlt, hnext', hbracket⟩ := hopens.exists_next? hbreaks more
    rw [hcs, readItems, hnext]
    dsimp only
    rw [if_neg (by decide), if_neg Bool.false_ne_true, if_pos rfl, hnext']
    dsimp only
    rw [if_neg hbracket]
    refine (hread breaks more hbreaks).bind fun _ => ?_
    exact (ih hitems).bind fun _ => ⟨_, rfl⟩

/-- A list is read back behind its opening bracket. -/
theorem reads_readItems {item : α} {items : List α}
    (hitem : ∀ i ∈ item :: items, Opens (text i) ∧ ∀ blanks rest, Blanks blanks →
      Reads (readItem (blanks ++ (text i ++ rest))) i rest) :
    Reads (readItems readItem true (breaks ++ (text item ++
      (items.flatMap (fun i => ',' :: (breaks ++ text i)) ++ (close ++ ']' :: rest)))))
      (item :: items) rest := by
  rw [List.forall_mem_cons] at hitem
  obtain ⟨⟨hopens, hread⟩, hitems⟩ := hitem
  let more := items.flatMap (fun i => ',' :: (breaks ++ text i)) ++ (close ++ ']' :: rest)
  obtain ⟨c, behind, hlt, hnext, hbracket⟩ := hopens.exists_next? hbreaks more
  rw [readItems, hnext]
  dsimp only
  rw [if_neg hbracket, if_pos rfl]
  refine (hread breaks more hbreaks).bind fun _ => ?_
  exact (reads_readItems_more hbreaks hclose rest hitems).bind fun _ => ⟨_, rfl⟩

end Items

/-! Objects. -/

theorem reads_nextKey_first {breaks : List Char} (hbreaks : Blanks breaks) (rest : List Char) :
    Reads (nextKey true (breaks ++ '\x22' :: rest)) true rest := by
  obtain ⟨hlt, hnext⟩ :=
    next?_append hbreaks (by decide : ¬isBlank '\x22') rest
  rw [nextKey, hnext]
  exact ⟨_, rfl⟩

theorem reads_nextKey_more {breaks : List Char} (hbreaks : Blanks breaks) (rest : List Char) :
    Reads (nextKey false (',' :: (breaks ++ '\x22' :: rest))) true rest := by
  obtain ⟨hcomma, hnext⟩ := next?_cons (by decide : ¬isBlank ',') (breaks ++ '\x22' :: rest)
  obtain ⟨hlt, hnext'⟩ :=
    next?_append hbreaks (by decide : ¬isBlank '\x22') rest
  rw [nextKey, hnext]
  dsimp only
  rw [if_neg (by decide), if_neg Bool.false_ne_true, if_pos rfl, hnext']
  exact ⟨_, rfl⟩

theorem reads_nextKey_end {close : List Char} (hclose : Blanks close) (first : Bool)
    (rest : List Char) : Reads (nextKey first (close ++ '\x7d' :: rest)) false rest := by
  obtain ⟨hlt, hnext⟩ :=
    next?_append hclose (by decide : ¬isBlank '\x7d') rest
  rw [nextKey, hnext]
  exact ⟨_, rfl⟩

theorem reads_readColon (style : Style) (rest : List Char) :
    Reads (readColon (style.colon ++ rest)) () (style.colon.tail ++ rest) := by
  have hskip : skipBlanks (style.colon ++ rest) = ':' :: (style.colon.tail ++ rest) := by
    cases style <;> exact skipBlanks_append blanks_nil (by decide : ¬isBlank ':')
  obtain ⟨hlt, hnext⟩ := next?_eq_some hskip
  rw [readColon, hnext]
  exact ⟨_, rfl⟩

theorem blanks_colon_tail (style : Style) : Blanks style.colon.tail := by
  cases style with
  | compact => exact blanks_nil
  | indented =>
    intro c hc
    rw [List.mem_singleton.mp hc]
    decide

section Members

variable {readItem : (cs : List Char) → Reading (Ahead cs α)} {text : α → List Char}
  {style : Style}

/-- A member is read back in front of others, the quote of its key being next. -/
theorem reads_readMembers_cons {first : Bool} {cs more rest : List Char} {key : String} {value : α}
    {members : List (String × α)}
    (hkey : Reads (nextKey first cs) true
      (key.toList.flatMap escapeChar ++ '\x22' :: (style.colon ++ (text value ++ more))))
    (hvalue : ∀ blanks, Blanks blanks → Reads (readItem (blanks ++ (text value ++ more))) value more)
    (hmore : Reads (readMembers readItem false more) members rest) :
    Reads (readMembers readItem first cs) ((key, value) :: members) rest := by
  rw [readMembers]
  refine hkey.bind fun _ => ?_
  dsimp only
  rw [if_pos rfl]
  refine (reads_readString key _).bind fun _ => ?_
  refine (reads_readColon style _).bind fun _ => ?_
  refine (hvalue _ (blanks_colon_tail style)).bind fun _ => ?_
  exact hmore.bind fun _ => ⟨_, rfl⟩

variable {breaks close : List Char}

theorem reads_readMembers_end (hclose : Blanks close) (first : Bool) (rest : List Char) :
    Reads (readMembers readItem first (close ++ '\x7d' :: rest)) [] rest := by
  rw [readMembers]
  refine (reads_nextKey_end hclose first rest).bind fun _ => ?_
  exact ⟨_, rfl⟩

variable (hbreaks : Blanks breaks) (hclose : Blanks close) (rest : List Char)
include hbreaks hclose

/-- The members behind the first are read back, if every single value is. -/
theorem reads_readMembers_more {members : List (String × α)}
    (hmember : ∀ m ∈ members, ∀ blanks rest, Blanks blanks →
      Reads (readItem (blanks ++ (text m.2 ++ rest))) m.2 rest) :
    Reads (readMembers readItem false
      (members.flatMap (fun m => ',' :: (breaks ++ (writeString m.1 ++ (style.colon ++ text m.2)))) ++
        (close ++ '\x7d' :: rest))) members rest := by
  induction members with
  | nil =>
    rw [List.flatMap_nil, List.nil_append]
    exact reads_readMembers_end hclose false rest
  | cons m members ih =>
    obtain ⟨key, value⟩ := m
    rw [List.forall_mem_cons] at hmember
    let more := members.flatMap (fun m =>
      ',' :: (breaks ++ (writeString m.1 ++ (style.colon ++ text m.2)))) ++ (close ++ '\x7d' :: rest)
    have hcs : ((key, value) :: members).flatMap (fun m =>
          ',' :: (breaks ++ (writeString m.1 ++ (style.colon ++ text m.2)))) ++
        (close ++ '\x7d' :: rest) =
        ',' :: (breaks ++ (writeString key ++ (style.colon ++ (text value ++ more)))) := by
      simp only [List.flatMap_cons, List.append_assoc, List.cons_append, more]
    have hkey := reads_nextKey_more hbreaks
      (key.toList.flatMap escapeChar ++ '\x22' :: (style.colon ++ (text value ++ more)))
    rw [← writeString_append] at hkey
    rw [hcs]
    exact reads_readMembers_cons hkey (fun blanks => hmember.1 blanks _) (ih hmember.2)

variable (text style) in
/-- An object is read back behind its opening brace. -/
theorem reads_readMembers {key : String} {value : α} {members : List (String × α)}
    (hmember : ∀ m ∈ (key, value) :: members, ∀ blanks rest, Blanks blanks →
      Reads (readItem (blanks ++ (text m.2 ++ rest))) m.2 rest) :
    Reads (readMembers readItem true (breaks ++ (writeString key ++ (style.colon ++ (text value ++
      (members.flatMap (fun m => ',' :: (breaks ++ (writeString m.1 ++ (style.colon ++ text m.2)))) ++
        (close ++ '\x7d' :: rest))))))) ((key, value) :: members) rest := by
  rw [List.forall_mem_cons] at hmember
  have hkey := reads_nextKey_first hbreaks (key.toList.flatMap escapeChar ++ '\x22' ::
    (style.colon ++ (text value ++ (members.flatMap (fun m =>
      ',' :: (breaks ++ (writeString m.1 ++ (style.colon ++ text m.2)))) ++
        (close ++ '\x7d' :: rest)))))
  rw [← writeString_append] at hkey
  exact reads_readMembers_cons hkey (fun blanks => hmember.1 blanks _)
    (reads_readMembers_more hbreaks hclose rest hmember.2)

end Members

/-! Values. -/

/-- A value without numbers; the members of an object are in increasing order of their keys. -/
inductive Textual : Json → Prop where
  | null : Textual .null
  | bool (value : Bool) : Textual (.bool value)
  | string (value : String) : Textual (.string value)
  | array {items : List Json} (hitems : ∀ item ∈ items, Textual item) : Textual (.array items)
  | object {members : List (String × Json)} (hkeys : (members.map Prod.fst).Pairwise (· < ·))
      (hmembers : ∀ m ∈ members, Textual m.2) : Textual (.object members)

mutual

/-- Number of levels that arrays and objects nest. -/
def depth : Json → Nat
  | array items => depthItems items + 1
  | object members => depthMembers members + 1
  | _ => 0

/-- The most levels of an item. -/
def depthItems : List Json → Nat
  | [] => 0
  | item :: items => max item.depth (depthItems items)

/-- The most levels of a member. -/
def depthMembers : List (String × Json) → Nat
  | [] => 0
  | (_, value) :: members => max value.depth (depthMembers members)

end

theorem depth_le_depthItems {item : Json} {items : List Json} (h : item ∈ items) :
    item.depth ≤ depthItems items := by
  induction items with
  | nil => cases h
  | cons i items ih =>
    rw [depthItems]
    rcases List.mem_cons.mp h with rfl | h
    · exact Nat.le_max_left _ _
    · exact (ih h).trans (Nat.le_max_right _ _)

theorem depth_le_depthMembers {m : String × Json} {members : List (String × Json)}
    (h : m ∈ members) : m.2.depth ≤ depthMembers members := by
  induction members with
  | nil => cases h
  | cons m' members ih =>
    obtain ⟨key, value⟩ := m'
    rw [depthMembers]
    rcases List.mem_cons.mp h with rfl | h
    · exact Nat.le_max_left _ _
    · exact (ih h).trans (Nat.le_max_right _ _)

theorem writeItems_eq_flatMap (style : Style) (k : Nat) (items : List Json) :
    writeItems style k items =
      items.flatMap fun item => ',' :: (style.lineBreak k ++ item.write style k) := by
  induction items with
  | nil => rfl
  | cons item items ih =>
    rw [writeItems, ih, List.flatMap_cons, List.cons_append]

theorem writeMembers_eq_flatMap (style : Style) (k : Nat) (members : List (String × Json)) :
    writeMembers style k members = members.flatMap fun m =>
      ',' :: (style.lineBreak k ++ (writeString m.1 ++ (style.colon ++ m.2.write style k))) := by
  induction members with
  | nil => rfl
  | cons m members ih =>
    obtain ⟨key, value⟩ := m
    simp only [writeMembers, ih, List.flatMap_cons, List.cons_append, List.append_assoc]

theorem Textual.opens_write {value : Json} (h : value.Textual) (style : Style) (k : Nat) :
    Opens (value.write style k) := by
  cases h with
  | null => exact ⟨_, _, rfl, by decide, by decide⟩
  | bool value => cases value <;> exact ⟨_, _, rfl, by decide, by decide⟩
  | string value => exact ⟨_, _, rfl, by decide, by decide⟩
  | @array items hitems => cases items <;> exact ⟨_, _, rfl, by decide, by decide⟩
  | @object members hkeys hmembers => cases members <;> exact ⟨_, _, rfl, by decide, by decide⟩

theorem readWord_append (word rest : List Char) :
    ∃ h, readWord (word ++ rest) word = .ok ⟨rest, h⟩ := by
  induction word with
  | nil => exact ⟨Nat.le_refl _, by rw [readWord]; rfl⟩
  | cons c word ih =>
    obtain ⟨h, hread⟩ := ih
    rw [List.cons_append, readWord, if_pos rfl, hread]
    exact ⟨_, rfl⟩

section Values

variable {blanks : List Char} (hblanks : Blanks blanks) (bound : Nat) (rest : List Char)
include hblanks

theorem reads_readValue_null : Reads (readValue bound (blanks ++ (write style k .null ++ rest)))
    .null rest := by
  obtain ⟨hlt, hnext⟩ :=
    next?_append hblanks (by decide : ¬isBlank 'n') (['u', 'l', 'l'] ++ rest)
  obtain ⟨h, hword⟩ := readWord_append ['u', 'l', 'l'] rest
  have hcs : blanks ++ (write style k .null ++ rest) = blanks ++ 'n' :: (['u', 'l', 'l'] ++ rest) :=
    rfl
  rw [hcs, readValue, hnext]
  dsimp only
  rw [if_pos rfl, hword]
  exact ⟨_, rfl⟩

theorem reads_readValue_bool (value : Bool) :
    Reads (readValue bound (blanks ++ (write style k (.bool value) ++ rest))) (.bool value) rest := by
  cases value with
  | true =>
    obtain ⟨hlt, hnext⟩ :=
      next?_append hblanks (by decide : ¬isBlank 't') (['r', 'u', 'e'] ++ rest)
    obtain ⟨h, hword⟩ := readWord_append ['r', 'u', 'e'] rest
    have hcs : blanks ++ (write style k (.bool true) ++ rest) =
        blanks ++ 't' :: (['r', 'u', 'e'] ++ rest) := rfl
    rw [hcs, readValue, hnext]
    dsimp only
    rw [if_neg (by decide), if_pos rfl, hword]
    exact ⟨_, rfl⟩
  | false =>
    obtain ⟨hlt, hnext⟩ :=
      next?_append hblanks (by decide : ¬isBlank 'f') (['a', 'l', 's', 'e'] ++ rest)
    obtain ⟨h, hword⟩ := readWord_append ['a', 'l', 's', 'e'] rest
    have hcs : blanks ++ (write style k (.bool false) ++ rest) =
        blanks ++ 'f' :: (['a', 'l', 's', 'e'] ++ rest) := rfl
    rw [hcs, readValue, hnext]
    dsimp only
    rw [if_neg (by decide), if_neg (by decide), if_pos rfl, hword]
    exact ⟨_, rfl⟩

theorem reads_readValue_string (value : String) :
    Reads (readValue bound (blanks ++ (writeString value ++ rest))) (.string value) rest := by
  rw [writeString_append]
  obtain ⟨hlt, hnext⟩ :=
    next?_append hblanks (by decide : ¬isBlank '\x22') (value.toList.flatMap escapeChar ++ '\x22' :: rest)
  rw [readValue, hnext]
  dsimp only
  rw [if_neg (by decide), if_neg (by decide), if_neg (by decide), if_neg (by decide),
    if_neg (by decide), if_pos rfl]
  exact (reads_readString value rest).bind fun _ => ⟨_, rfl⟩

theorem reads_readValue_array {items : List Json} {text : List Char}
    (h : Reads (readItems (readValue bound) true text) items rest) :
    Reads (readValue (bound + 1) (blanks ++ '[' :: text)) (.array items) rest := by
  obtain ⟨hlt, hnext⟩ :=
    next?_append hblanks (by decide : ¬isBlank '[') text
  rw [readValue, hnext]
  dsimp only
  rw [if_neg (by decide), if_neg (by decide), if_neg (by decide), if_neg (by decide),
    if_neg (by decide), if_neg (by decide), if_pos rfl]
  exact h.bind fun _ => ⟨_, rfl⟩

theorem reads_readValue_object {members : List (String × Json)} {text : List Char}
    (hkeys : (members.map Prod.fst).Pairwise (· < ·))
    (h : Reads (readMembers (readValue bound) true text) members rest) :
    Reads (readValue (bound + 1) (blanks ++ '\x7b' :: text)) (.object members) rest := by
  have hobject : Json.object members = .ofMembers members := by
    rw [ofMembers, sortMembers_of_pairwise hkeys]
  obtain ⟨hlt, hnext⟩ :=
    next?_append hblanks (by decide : ¬isBlank '\x7b') text
  rw [readValue, hnext]
  dsimp only
  rw [if_neg (by decide), if_neg (by decide), if_neg (by decide), if_neg (by decide),
    if_neg (by decide), if_neg (by decide), if_neg (by decide), if_pos rfl, hobject]
  exact h.bind fun _ => ⟨_, rfl⟩

end Values

/-- A value is read back behind blanks. -/
theorem Textual.reads_readValue {value : Json} (hvalue : value.Textual) (style : Style) :
    ∀ (bound k : Nat), value.depth ≤ bound → ∀ blanks rest, Blanks blanks →
      Reads (readValue bound (blanks ++ (value.write style k ++ rest))) value rest := by
  induction hvalue with
  | null => exact fun bound k _ blanks rest hblanks => reads_readValue_null hblanks bound rest
  | bool value =>
    exact fun bound k _ blanks rest hblanks => reads_readValue_bool hblanks bound rest value
  | string value =>
    intro bound k _ blanks rest hblanks
    rw [write]
    exact reads_readValue_string hblanks bound rest value
  | @array items hitems ih =>
    intro bound k hbound blanks rest hblanks
    rw [depth] at hbound
    obtain ⟨bound, rfl⟩ : ∃ d, bound = d + 1 := ⟨bound - 1, by omega⟩
    cases items with
    | nil =>
      exact reads_readValue_array hblanks bound rest (reads_readItems_end blanks_nil true rest)
    | cons item items =>
      have hitem : ∀ i ∈ item :: items, Opens (i.write style (k + 1)) ∧ ∀ blanks rest,
          Blanks blanks → Reads (readValue bound (blanks ++ (i.write style (k + 1) ++ rest))) i rest :=
        by
        intro i hi
        have hdepth := depth_le_depthItems hi
        exact ⟨(hitems i hi).opens_write style (k + 1), ih i hi bound (k + 1) (by omega)⟩
      have hread := reads_readItems (blanks_lineBreak style (k + 1)) (blanks_lineBreak style k) rest
        hitem
      rw [← writeItems_eq_flatMap] at hread
      have htext : (Json.array (item :: items)).write style k ++ rest =
          '[' :: (style.lineBreak (k + 1) ++ (item.write style (k + 1) ++
            (writeItems style (k + 1) items ++ (style.lineBreak k ++ ']' :: rest)))) := by
        simp only [write, List.append_assoc, List.cons_append, List.nil_append]
      rw [htext]
      exact reads_readValue_array hblanks bound rest hread
  | @object members hkeys hmembers ih =>
    intro bound k hbound blanks rest hblanks
    rw [depth] at hbound
    obtain ⟨bound, rfl⟩ : ∃ d, bound = d + 1 := ⟨bound - 1, by omega⟩
    cases members with
    | nil =>
      exact reads_readValue_object hblanks bound rest hkeys
        (reads_readMembers_end blanks_nil true rest)
    | cons m members =>
      obtain ⟨key, value⟩ := m
      have hmember : ∀ m ∈ (key, value) :: members, ∀ blanks rest, Blanks blanks →
          Reads (readValue bound (blanks ++ (m.2.write style (k + 1) ++ rest))) m.2 rest := by
        intro m hm
        have hdepth := depth_le_depthMembers hm
        exact ih m hm bound (k + 1) (by omega)
      have hread := reads_readMembers (write style (k + 1)) style
        (blanks_lineBreak style (k + 1)) (blanks_lineBreak style k) rest hmember
      rw [← writeMembers_eq_flatMap] at hread
      have htext : (Json.object ((key, value) :: members)).write style k ++ rest =
          '\x7b' :: (style.lineBreak (k + 1) ++ (writeString key ++ (style.colon ++
            (value.write style (k + 1) ++ (writeMembers style (k + 1) members ++
              (style.lineBreak k ++ '\x7d' :: rest)))))) := by
        simp only [write, List.append_assoc, List.cons_append, List.nil_append]
      rw [htext]
      exact reads_readValue_object hblanks bound rest hkeys hread

/-- A value that nests as deep as a text may is read back from it, in both layouts. -/
theorem Textual.ofText_write {value : Json} (hvalue : value.Textual) (hdepth : value.depth ≤ maxDepth)
    (style : Style) : ofText (String.ofList (value.write style 0)) = .ok value := by
  have hcs : [] ++ (value.write style 0 ++ []) = (String.ofList (value.write style 0)).toList := by
    rw [List.nil_append, List.append_nil, String.toList_ofList]
  have hread := hvalue.reads_readValue style maxDepth 0 hdepth [] [] blanks_nil
  rw [hcs] at hread
  exact hread.bind_eq fun _ => rfl

end DocQuery.Json
