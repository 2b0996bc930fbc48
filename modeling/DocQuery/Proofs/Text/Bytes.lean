import DocQuery.Proofs.Text.Utf8

/-! Characters among bytes.  A predicate on bytes may say of the bytes of a character what one on
characters says of the character itself.  What it takes off the front of the bytes of a text is then
the bytes of what the other takes off the text, and a text starts with another one exactly if its
bytes do. -/

namespace DocQuery.Utf8

/-- A byte taken for a character. -/
def asChar (b : UInt8) : Char := Char.ofNat b.toNat

def bytesOf (cs : List Char) : List UInt8 := cs.flatMap String.utf8EncodeChar

@[simp] theorem bytesOf_nil : bytesOf [] = [] := rfl

@[simp] theorem bytesOf_cons (c : Char) (cs : List Char) :
    bytesOf (c :: cs) = String.utf8EncodeChar c ++ bytesOf cs := List.flatMap_cons

@[simp] theorem bytesOf_append (cs ds : List Char) : bytesOf (cs ++ ds) = bytesOf cs ++ bytesOf ds :=
  List.flatMap_append

theorem length_bytesOf (cs : List Char) : (bytesOf cs).length = (String.ofList cs).utf8ByteSize := by
  induction cs with
  | nil => rfl
  | cons c cs ih =>
    have hcons : String.ofList (c :: cs) = String.singleton c ++ String.ofList cs := by simp
    rw [bytesOf_cons, List.length_append, String.length_utf8EncodeChar, ih, hcons,
      String.utf8ByteSize_append]
    simp

theorem length_le_length_bytesOf (cs : List Char) : cs.length ≤ (bytesOf cs).length := by
  induction cs with
  | nil => exact Nat.le_refl 0
  | cons c cs ih =>
    have hpos := c.utf8Size_pos
    rw [bytesOf_cons, List.length_append, String.length_utf8EncodeChar, List.length_cons]
    omega

/-- A predicate on bytes that says of the first byte of a character what one on characters says of
the character, and of all its bytes where that holds. -/
structure Matches (p : UInt8 → Bool) (q : Char → Bool) : Prop where
  all_of_true : ∀ c, q c → ∀ b ∈ String.utf8EncodeChar c, p b
  head_of_false : ∀ c, ¬q c → ∀ b ∈ (String.utf8EncodeChar c).head?, ¬p b

theorem asChar_ofNat {n : Nat} (h : n < 0x80) : asChar (UInt8.ofNat n) = Char.ofNat n := by
  unfold asChar
  rw [UInt8.toNat_ofNat', Nat.mod_eq_of_lt (by omega)]

theorem toNat_asChar (b : UInt8) : (asChar b).toNat = b.toNat := by
  have hlt := b.toNat_lt
  unfold asChar
  rw [Char.toNat_ofNat, if_pos (by left; omega)]

theorem matches_of_ascii {q : Char → Bool} (h : ∀ c, q c → c.toNat < 0x80) :
    Matches (fun b => q (asChar b)) q := by
  have hascii : ∀ c : Char, c.toNat < 0x80 → ∀ b ∈ String.utf8EncodeChar c, asChar b = c := by
    intro c hc b hb
    rw [utf8EncodeChar_of_lt hc, List.mem_singleton] at hb
    rw [hb, asChar_ofNat hc, Char.ofNat_toNat]
  constructor
  · intro c hq b hb
    rw [hascii c (h c hq) b hb]
    exact hq
  · intro c hq b hb hp
    have hmem := List.mem_of_mem_head? hb
    rcases Nat.lt_or_ge c.toNat 0x80 with hc | hc
    · rw [hascii c hc b hmem] at hp
      exact hq hp
    · have hge := le_of_mem_utf8EncodeChar hc b hmem
      have hlt := h _ hp
      rw [toNat_asChar] at hlt
      omega

theorem matches_ne {b : UInt8} (h : b.toNat < 0x80) : Matches (· != b) (· ≠ asChar b) := by
  have hchar : String.utf8EncodeChar (asChar b) = [b] := by
    rw [utf8EncodeChar_of_lt (by rw [toNat_asChar]; exact h), toNat_asChar, UInt8.ofNat_toNat]
  constructor
  · intro c hc b' hb'
    rw [bne_iff_ne]
    rintro rfl
    have hne : c ≠ asChar b' := by simpa using hc
    rcases Nat.lt_or_ge c.toNat 0x80 with hlt | hge
    · rw [utf8EncodeChar_of_lt hlt, List.mem_singleton] at hb'
      apply hne
      rw [hb', asChar_ofNat hlt, Char.ofNat_toNat]
    · have := le_of_mem_utf8EncodeChar hge b' hb'
      omega
  · intro c hc b' hb'
    have heq : c = asChar b := by simpa using hc
    rw [heq, hchar] at hb'
    cases hb'
    simp

section

variable {p : UInt8 → Bool} {q : Char → Bool} (h : Matches p q)
include h

theorem takeWhile_bytesOf (cs : List Char) : (bytesOf cs).takeWhile p = bytesOf (cs.takeWhile q) := by
  induction cs with
  | nil => rfl
  | cons c cs ih =>
    rw [bytesOf_cons, List.takeWhile_cons]
    by_cases hc : q c
    · rw [if_pos hc, bytesOf_cons, List.takeWhile_append_of_pos (h.all_of_true c hc), ih]
    · obtain ⟨b, more, hbytes⟩ := List.exists_cons_of_ne_nil (String.utf8EncodeChar_ne_nil (c := c))
      have hb : ¬p b := h.head_of_false c hc b (by simp [hbytes])
      rw [if_neg hc, hbytes, List.cons_append, List.takeWhile_cons_of_neg hb]
      rfl

end

theorem utf8EncodeChar_isPrefixOf_iff {c d : Char} {cs ds : List UInt8} :
    (String.utf8EncodeChar c ++ cs) <+: (String.utf8EncodeChar d ++ ds) ↔ c = d ∧ cs <+: ds := by
  constructor
  · rintro ⟨rest, h⟩
    have hc := firstChar?_append c (cs ++ rest)
    rw [← List.append_assoc, h, firstChar?_append] at hc
    cases hc
    rw [List.append_assoc, List.append_cancel_left_eq] at h
    exact ⟨rfl, rest, h⟩
  · rintro ⟨rfl, h⟩
    exact (List.prefix_append_right_inj _).mpr h

theorem bytesOf_isPrefixOf_iff {token cs : List Char} : bytesOf token <+: bytesOf cs ↔ token <+: cs := by
  induction token generalizing cs with
  | nil => simp
  | cons t token ih =>
    cases cs with
    | nil =>
      have hne := String.utf8EncodeChar_ne_nil (c := t)
      simp [hne]
    | cons c cs => rw [bytesOf_cons, bytesOf_cons, utf8EncodeChar_isPrefixOf_iff, ih, List.cons_prefix_cons]

theorem Matches.head_eq {p : UInt8 → Bool} {q : Char → Bool} (h : Matches p q) {c : Char} {b : UInt8}
    (hb : (String.utf8EncodeChar c).head? = some b) : p b = q c := by
  by_cases hc : q c
  · rw [hc, h.all_of_true c hc b (List.mem_of_mem_head? hb)]
  · rw [Bool.eq_false_iff.mpr hc, Bool.eq_false_iff.mpr (h.head_of_false c hc b hb)]

theorem head?_bytesOf_cons (c : Char) (cs : List Char) :
    ∃ b, (bytesOf (c :: cs)).head? = some b ∧ (String.utf8EncodeChar c).head? = some b := by
  obtain ⟨b, more, hbytes⟩ := List.exists_cons_of_ne_nil (String.utf8EncodeChar_ne_nil (c := c))
  exact ⟨b, by simp [hbytes], by simp [hbytes]⟩

theorem asChar_head_iff {c d : Char} (hd : d.toNat < 0x80) {b : UInt8}
    (hb : (String.utf8EncodeChar c).head? = some b) : asChar b = d ↔ c = d := by
  have hascii : Matches (fun b => asChar b == d) (· == d) :=
    @matches_of_ascii (· == d) fun c hc => by
      rw [show c = d by simpa using hc]
      exact hd
  have hhead := hascii.head_eq hb
  rw [← beq_iff_eq, hhead, beq_iff_eq]

end DocQuery.Utf8
