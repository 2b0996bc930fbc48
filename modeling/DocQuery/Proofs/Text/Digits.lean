import DocQuery.Proofs.Text.Bytes

/-! The bytes of a character as digits.  Its code point is written to the base 64, and the first digit
is marked with how many there are.  So all bytes but the first are continuation bytes, and texts stand
in the order of their bytes. -/

namespace DocQuery.Utf8

/-- A byte that a character can have behind its first one. -/
def isContinuation (b : UInt8) : Bool := 0x80 ≤ b ∧ b ≤ 0xbf

theorem isContinuation_iff (b : UInt8) : isContinuation b ↔ 0x80 ≤ b.toNat ∧ b.toNat ≤ 0xbf := by
  simp [isContinuation, UInt8.le_iff_toNat_le]

/-- The bytes of a character as numbers: the digits of its code point to the base 64, the first of
them marked with how many there are. -/
theorem map_toNat_utf8EncodeChar (c : Char) :
    (String.utf8EncodeChar c).map UInt8.toNat =
      if c.toNat ≤ 0x7f then [c.toNat]
      else if c.toNat ≤ 0x7ff then [c.toNat / 64 + 0xc0, c.toNat % 64 + 0x80]
      else if c.toNat ≤ 0xffff then
        [c.toNat / 4096 + 0xe0, c.toNat / 64 % 64 + 0x80, c.toNat % 64 + 0x80]
      else
        [c.toNat / 262144 + 0xf0, c.toNat / 4096 % 64 + 0x80, c.toNat / 64 % 64 + 0x80,
          c.toNat % 64 + 0x80] := by
  have hvalid : c.toNat < 0x110000 := by
    rcases c.valid with h | h
    · exact Nat.lt_trans h (by decide)
    · exact h.2
  have hval : c.val.toNat = c.toNat := rfl
  rw [String.utf8EncodeChar]
  simp only [hval]
  split
  · simp; omega
  split
  · simp; omega
  split
  · simp; omega
  · simp; omega

/-- A character has one byte that is no continuation, its first, and up to three that are. -/
theorem exists_utf8EncodeChar_eq (c : Char) : ∃ b more, String.utf8EncodeChar c = b :: more ∧
    ¬isContinuation b ∧ (∀ b ∈ more, isContinuation b) ∧ more.length ≤ 3 := by
  have hbytes := map_toNat_utf8EncodeChar c
  obtain ⟨b, more, hchar⟩ := List.exists_cons_of_ne_nil (String.utf8EncodeChar_ne_nil (c := c))
  refine ⟨b, more, hchar, ?_⟩
  have hmore : (∀ b ∈ more, isContinuation b) ↔ ∀ n ∈ more.map UInt8.toNat, 0x80 ≤ n ∧ n ≤ 0xbf := by
    simp only [isContinuation_iff, List.forall_mem_map]
  rw [hchar, List.map_cons] at hbytes
  have hlength : (more.map UInt8.toNat).length = more.length := List.length_map _
  rw [isContinuation_iff, hmore, ← hlength]
  -- In every range the first number is given, and so are those behind it.
  split_ifs at hbytes
  all_goals
    obtain ⟨hfirst, htail⟩ := List.cons.inj hbytes
    rw [hfirst, htail]
    simp
    omega

/-! ### The order of texts -/

theorem digits_lt {c d : Char} (h : c < d) (xs ys : List Nat) :
    (String.utf8EncodeChar c).map UInt8.toNat ++ xs <
      (String.utf8EncodeChar d).map UInt8.toNat ++ ys := by
  have hlt : c.toNat < d.toNat := h
  rw [map_toNat_utf8EncodeChar, map_toNat_utf8EncodeChar]
  split_ifs <;> simp only [List.cons_append, List.nil_append, List.cons_lt_cons_iff] <;> omega

theorem map_toNat_lt_iff {xs ys : List UInt8} :
    xs.map UInt8.toNat < ys.map UInt8.toNat ↔ xs < ys := by
  induction xs generalizing ys with
  | nil => cases ys <;> simp
  | cons x xs ih =>
    cases ys with
    | nil => simp
    | cons y ys =>
      rw [List.map_cons, List.map_cons, List.cons_lt_cons_iff, List.cons_lt_cons_iff, ih,
        UInt8.lt_iff_toNat_lt, UInt8.toNat_inj]

theorem strictMono_digits : StrictMono fun cs => (bytesOf cs).map UInt8.toNat := by
  intro cs ds h
  induction cs generalizing ds with
  | nil =>
    cases ds with
    | nil => exact absurd h (lt_irrefl _)
    | cons d ds =>
      obtain ⟨b, more, hchar, -⟩ := exists_utf8EncodeChar_eq d
      simp [hchar]
  | cons c cs ih =>
    cases ds with
    | nil => exact absurd h (List.not_lt_nil _)
    | cons d ds =>
      simp only [bytesOf_cons, List.map_append]
      rcases List.cons_lt_cons_iff.mp h with hlt | ⟨rfl, hlt⟩
      · exact digits_lt hlt _ _
      · exact List.append_left_lt (ih hlt)

/-- Texts stand in the order of their bytes. -/
theorem encode_lt_encode_iff {s t : String} : encode s < encode t ↔ s < t := by
  rw [String.lt_iff_toList_lt, ← map_toNat_lt_iff]
  exact strictMono_digits.lt_iff_lt

end DocQuery.Utf8
