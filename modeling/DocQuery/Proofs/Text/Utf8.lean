import Mathlib
import DocQuery.Text.Utf8

/-! Decoding is the inverse of encoding: the bytes that decode to a text are its encoding and no
others.  An ASCII byte of a text is a character by itself. -/

namespace DocQuery.Utf8

/-- The bytes of a character decode to it, whatever follows. -/
theorem firstChar?_append (c : Char) (rest : List UInt8) :
    firstChar? (String.utf8EncodeChar c ++ rest) = some c := by
  have hlength : (String.utf8EncodeChar c).length ≤ 4 := by
    rw [String.length_utf8EncodeChar]
    exact c.utf8Size_le_four
  rw [firstChar?, List.take_append, List.take_of_length_le hlength, List.toByteArray_append]
  exact ByteArray.utf8DecodeChar?_utf8EncodeChar_append

/-- Bytes that start with a character start with its bytes. -/
theorem eq_append_of_firstChar? {bytes : List UInt8} {c : Char} (h : firstChar? bytes = some c) :
    ∃ rest, bytes = String.utf8EncodeChar c ++ rest := by
  obtain ⟨l, hl⟩ := ByteArray.exists_of_utf8DecodeChar?_eq_some h
  have hl := congrArg (·.data.toList) hl
  simp only [ByteArray.data_append, List.data_toByteArray, Array.toList_append] at hl
  exact ⟨l.data.toList ++ bytes.drop 4, by rw [← List.append_assoc, ← hl, List.take_append_drop]⟩

/-- Bytes of the character before are skipped. -/
theorem decodeFrom_skip (offset : Nat) (before bytes : List UInt8) :
    decodeFrom offset before.length (before ++ bytes) =
      decodeFrom (offset + before.length) 0 bytes := by
  induction before generalizing offset with
  | nil => rfl
  | cons b before ih =>
    rw [List.length_cons, List.cons_append, decodeFrom, ih]
    congr 1
    omega

/-- One character is decoded off the front. -/
theorem decodeFrom_append (offset : Nat) (c : Char) (rest : List UInt8) :
    decodeFrom offset 0 (String.utf8EncodeChar c ++ rest) =
      (c :: ·) <$> decodeFrom (offset + c.utf8Size) 0 rest := by
  obtain ⟨b, more, hbytes⟩ := List.exists_cons_of_ne_nil (String.utf8EncodeChar_ne_nil (c := c))
  have hlength : more.length + 1 = c.utf8Size := by
    rw [← String.length_utf8EncodeChar, hbytes, List.length_cons]
  have hfirst := firstChar?_append c rest
  rw [hbytes, List.cons_append] at hfirst ⊢
  have hskip : c.utf8Size - 1 = more.length := by omega
  rw [decodeFrom, hfirst]
  dsimp only
  rw [hskip, decodeFrom_skip, ← hlength]
  congr 2
  omega

theorem encode_ofList (cs : List Char) :
    encode (String.ofList cs) = cs.flatMap String.utf8EncodeChar := by
  rw [encode, String.toList_ofList]

@[simp] theorem encode_append (s t : String) : encode (s ++ t) = encode s ++ encode t := by
  simp [encode]

theorem decodeFrom_encode (offset : Nat) (cs : List Char) :
    decodeFrom offset 0 (cs.flatMap String.utf8EncodeChar) = .ok cs := by
  induction cs generalizing offset with
  | nil => rfl
  | cons c cs ih => rw [List.flatMap_cons, decodeFrom_append, ih]; rfl

theorem flatMap_of_decodeFrom {offset : Nat} {bytes : List UInt8} {cs : List Char}
    (h : decodeFrom offset 0 bytes = .ok cs) : cs.flatMap String.utf8EncodeChar = bytes := by
  induction hn : bytes.length using Nat.strongRecOn generalizing offset bytes cs with
  | ind n ih =>
  subst hn
  cases bytes with
  | nil =>
    cases h
    rfl
  | cons b bs =>
  cases hfirst : firstChar? (b :: bs) with
  | none =>
    rw [decodeFrom, hfirst] at h
    cases h
  | some c =>
    obtain ⟨rest, hbytes⟩ := eq_append_of_firstChar? hfirst
    have hlt : rest.length < (b :: bs).length := by
      rw [hbytes, List.length_append, String.length_utf8EncodeChar]
      exact Nat.lt_add_of_pos_left c.utf8Size_pos
    rw [hbytes, decodeFrom_append] at h
    cases hrest : decodeFrom (offset + c.utf8Size) 0 rest with
    | error fault => rw [hrest] at h; cases h
    | ok tail =>
      rw [hrest] at h
      cases h
      rw [List.flatMap_cons, ih _ hlt hrest rfl, hbytes]

/-- Bytes decode to a text exactly if they are its encoding. -/
theorem decode_eq_ok_iff {bytes : List UInt8} {text : String} :
    decode bytes = .ok text ↔ encode text = bytes := by
  constructor
  · intro h
    rw [decode] at h
    cases hchars : decodeFrom 0 0 bytes with
    | error fault => rw [hchars] at h; cases h
    | ok cs =>
      rw [hchars] at h
      cases h
      rw [encode_ofList, flatMap_of_decodeFrom hchars]
  · rintro rfl
    rw [decode, encode, decodeFrom_encode]
    exact congrArg Except.ok (String.ofList_toList ..)

/-- Bytes of the character before are skipped. -/
theorem lossyFrom_skip (before bytes : List UInt8) :
    lossyFrom before.length (before ++ bytes) = lossyFrom 0 bytes := by
  induction before with
  | nil => rfl
  | cons b before ih => rw [List.length_cons, List.cons_append, lossyFrom, ih]

theorem lossyFrom_encode (cs : List Char) :
    lossyFrom 0 (cs.flatMap String.utf8EncodeChar) = cs := by
  induction cs with
  | nil => rfl
  | cons c cs ih =>
    obtain ⟨b, more, hbytes⟩ := List.exists_cons_of_ne_nil (String.utf8EncodeChar_ne_nil (c := c))
    have hskip : c.utf8Size - 1 = more.length := by
      rw [← String.length_utf8EncodeChar, hbytes, List.length_cons, Nat.add_sub_cancel]
    have hfirst := firstChar?_append c (cs.flatMap String.utf8EncodeChar)
    rw [hbytes, List.cons_append] at hfirst
    rw [List.flatMap_cons, hbytes, List.cons_append, lossyFrom, hfirst]
    dsimp only
    rw [hskip, lossyFrom_skip, ih]

/-- Nothing is replaced in the bytes of a text. -/
theorem decodeLossy_encode (text : String) : decodeLossy (encode text) = text := by
  rw [decodeLossy, encode, lossyFrom_encode, String.ofList_toList]

/-- A text is known by its bytes. -/
theorem eq_of_encode_eq {s t : String} (h : encode s = encode t) : s = t :=
  Except.ok.inj ((decode_eq_ok_iff.mpr h).symm.trans (decode_eq_ok_iff.mpr rfl))

/-- An ASCII character is one byte. -/
theorem utf8EncodeChar_of_lt {c : Char} (h : c.toNat < 0x80) :
    String.utf8EncodeChar c = [UInt8.ofNat c.toNat] := by
  have hle : c.val.toNat ≤ 0x7f := Nat.le_of_lt_succ h
  rw [String.utf8EncodeChar]
  rw [if_pos hle]
  rfl

theorem toNat_lt_of_isAlphanum {c : Char} (h : c.isAlphanum) : c.toNat < 0x80 := by
  simp only [Char.isAlphanum, Char.isAlpha, Char.isUpper, Char.isLower, Char.isDigit,
    Bool.or_eq_true, Bool.and_eq_true, decide_eq_true_eq, ge_iff_le, UInt32.le_iff_toNat_le] at h
  simp at h
  omega

/-- No byte of any other character is ASCII. -/
theorem le_of_mem_utf8EncodeChar {c : Char} (h : 0x80 ≤ c.toNat) :
    ∀ b ∈ String.utf8EncodeChar c, 0x80 ≤ b.toNat := by
  have hbyte : ∀ n, 0x80 ≤ n → n < 0x100 → 0x80 ≤ (UInt8.ofNat n).toNat := by
    intro n hlow hhigh
    rw [UInt8.toNat_ofNat', Nat.mod_eq_of_lt hhigh]
    exact hlow
  have hgt : ¬c.val.toNat ≤ 0x7f := Nat.not_le.mpr h
  rw [String.utf8EncodeChar]
  rw [if_neg hgt]
  split
  · simp only [List.forall_mem_cons, List.not_mem_nil, false_imp_iff, implies_true, and_true]
    exact ⟨hbyte _ (by omega) (by omega), hbyte _ (by omega) (by omega)⟩
  split
  · simp only [List.forall_mem_cons, List.not_mem_nil, false_imp_iff, implies_true, and_true]
    exact ⟨hbyte _ (by omega) (by omega), hbyte _ (by omega) (by omega),
      hbyte _ (by omega) (by omega)⟩
  · simp only [List.forall_mem_cons, List.not_mem_nil, false_imp_iff, implies_true, and_true]
    exact ⟨hbyte _ (by omega) (by omega), hbyte _ (by omega) (by omega),
      hbyte _ (by omega) (by omega), hbyte _ (by omega) (by omega)⟩

/-- An ASCII byte of a text is a character of it. -/
theorem mem_encode_iff {text : String} {b : UInt8} (hb : b.toNat < 0x80) :
    b ∈ encode text ↔ Char.ofNat b.toNat ∈ text.toList := by
  have hchar : ∀ c : Char, b ∈ String.utf8EncodeChar c ↔ Char.ofNat b.toNat = c := by
    intro c
    rcases Nat.lt_or_ge c.toNat 0x80 with hc | hc
    · rw [utf8EncodeChar_of_lt hc, List.mem_singleton]
      constructor
      · rintro rfl
        rw [UInt8.toNat_ofNat', Nat.mod_eq_of_lt (by omega), Char.ofNat_toNat]
      · rintro rfl
        rw [Char.toNat_ofNat, if_pos (by left; omega), UInt8.ofNat_toNat]
    · constructor
      · intro hmem
        have := le_of_mem_utf8EncodeChar hc b hmem
        omega
      · rintro rfl
        rw [Char.toNat_ofNat, if_pos (by left; omega)] at hc
        omega
  rw [encode, List.mem_flatMap]
  simp only [hchar, exists_eq_right']

end DocQuery.Utf8
