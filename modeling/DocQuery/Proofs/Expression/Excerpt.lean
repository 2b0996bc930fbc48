import DocQuery.Proofs.Expression.Delimitation
import DocQuery.Proofs.Text.Cut

/-! The narrow excerpt of a compile error.  It starts ten bytes before the place of the error, or with
the expression, whatever the byte there is, and its column is the number of bytes between.  Where the
excerpt starts inside a character, the bytes that are left of it appear as replacement characters,
which are longer.  The column then lies before the place: by two bytes for each of those bytes.  Where
it starts with a character, the column splits it at the place. -/

namespace DocQuery

open Expression Utf8

namespace Expression.Cursor

/-- The narrow excerpt, in terms of the bytes of the expression. -/
theorem error_excerpt (c : Cursor) (operation : String) (cause : CompileCause) :
    (c.error operation cause).column = min 10 c.position ∧
      (c.error operation cause).parsing =
        decodeLossy ((c.bytes.drop (c.position - min 10 c.position)).take (min 10 c.position + 10)) := by
  have hcolumn : (c.before.take 10).length = min 10 c.position := List.length_take
  have hbytes : c.bytes.drop (c.position - min 10 c.position) =
      (c.before.take 10).reverse ++ c.rest := by
    have hfront : (c.before.drop 10).reverse.length = c.position - min 10 c.position := by
      rw [List.length_reverse, List.length_drop, position]
      omega
    rw [bytes, ← List.take_append_drop 10 c.before, List.reverse_append, List.append_assoc,
      ← hfront, List.drop_left, List.take_append_drop]
  refine ⟨hcolumn, ?_⟩
  rw [hbytes, ← hcolumn, ← List.length_reverse, List.take_length_add_append]
  rfl

end Expression.Cursor

namespace CompileError

/-- The bytes of an expression before the place of an error, as many as the column says. -/
def bytesBefore (e : CompileError) (bytes : List UInt8) : List UInt8 :=
  (bytes.take e.offset).drop (e.offset - e.column)

/-- How many bytes of a character these start with, if its first byte is not among them. -/
def cut (e : CompileError) (bytes : List UInt8) : Nat :=
  ((e.bytesBefore bytes).takeWhile isContinuation).length

end CompileError

/-- Up to the place of the error the excerpt shows the bytes of the expression, each one that is left
of a character that is cut being replaced.  So the column splits the excerpt at the place of the error
exactly if no character is cut. -/
theorem compile_error_excerpt {text : String} {e : CompileError}
    (h : compile (encode text) = .error e) :
    e.column = min 10 e.offset ∧ e.offset ≤ (encode text).length ∧
      (encode e.parsing).take (e.column + 2 * e.cut (encode text)) =
        bytesOf (List.replicate (e.cut (encode text)) '\ufffd') ++
          (e.bytesBefore (encode text)).drop (e.cut (encode text)) ∧
      ((encode e.parsing).take e.column = e.bytesBefore (encode text) ↔
        e.cut (encode text) = 0) := by
  obtain ⟨c, hbytes, herror, -⟩ := pointsInto_of_compile h
  obtain ⟨hcolumn, hparsing⟩ := c.error_excerpt e.operation e.cause
  have hoffset : e.offset = c.position := congrArg CompileError.offset herror
  rw [← herror, ← hoffset] at hcolumn hparsing
  rw [← hcolumn, hbytes] at hparsing
  have hlength : e.offset ≤ (encode text).length := by
    rw [hoffset, ← hbytes, Cursor.bytes, List.length_append, List.length_reverse, Cursor.position]
    omega
  -- The excerpt starts with what is left of a character, and has whole ones behind it.
  obtain ⟨front, ds, hdrop, hfront, hshort, hstart⟩ :=
    exists_drop_bytesOf text.toList (e.offset - e.column)
  rw [show bytesOf text.toList = encode text from rfl] at hdrop
  have hle : front.length ≤ e.column := by
    rcases Nat.eq_zero_or_pos (e.offset - e.column) with hzero | hpos
    · simp [hstart hzero]
    · omega
  have hrest : (front ++ bytesOf ds).length = (encode text).length - (e.offset - e.column) := by
    rw [← hdrop, List.length_drop]
  have hbefore : e.bytesBefore (encode text) =
      front ++ (bytesOf ds).take (e.column - front.length) := by
    rw [CompileError.bytesBefore, List.drop_take, hdrop, List.take_append,
      show e.offset - (e.offset - e.column) = e.column by omega, List.take_of_length_le hle]
  have hcut : e.cut (encode text) = front.length := by
    rw [CompileError.cut, hbefore, takeWhile_isContinuation hfront]
  have hshown : (encode (decodeLossy ((front ++ bytesOf ds).take (e.column + 10)))).take
      (e.column + 2 * front.length) = bytesOf (List.replicate front.length '\ufffd') ++
        (bytesOf ds).take (e.column - front.length) :=
    take_encode_decodeLossy hfront hle (by omega) (.inl (by decide))
  rw [← hdrop, ← hparsing] at hshown
  rw [hcut]
  refine ⟨hcolumn, hlength, ?_, fun heq => ?_, fun hnone => ?_⟩
  · rw [hshown, hbefore, List.drop_left]
  · by_contra hne
    have hcolumn : e.column ≠ 0 := fun hzero => hne (by omega)
    obtain ⟨b, front, rfl⟩ := List.exists_cons_of_length_pos (Nat.pos_of_ne_zero hne)
    have hb : isContinuation b := hfront b List.mem_cons_self
    have hhead : ((encode e.parsing).take (e.column + 2 * (b :: front).length)).head? =
        ((encode e.parsing).take e.column).head? := by
      simp [List.head?_take, hcolumn]
    rw [hshown, heq, hbefore] at hhead
    cases hhead
    exact absurd hb (by decide)
  · rw [hnone] at hshown
    rw [hbefore, List.eq_nil_of_length_eq_zero hnone]
    simpa using hshown

/-- A character of four bytes, the first of them eleven bytes before the place of the error. -/
def clef : String := "\x7b a `f(\"𝄞\")` b !"

/-- The error of the text with the clef, its column six bytes before the place in the excerpt. -/
def clefError : CompileError where
  operation := "read_node"
  cause := .unexpected (some 0x21)
  offset := 19
  column := 10
  parsing := "\ufffd\ufffd\ufffd\")` b !"
  context := clef

theorem compile_error_excerpt_clef :
    compile (encode clef) = .error clefError ∧ clefError.cut (encode clef) = 3 ∧
      (encode clefError.parsing).take (clefError.column + 2 * clefError.cut (encode clef)) =
        bytesOf (List.replicate 3 '\ufffd') ++ encode "\")` b !" := by
  have hcompile : compile (encode clef) = .error clefError := by cbv
  have hcut : clefError.cut (encode clef) = 3 := by decide +kernel
  have hexcerpt := (compile_error_excerpt hcompile).2.2.1
  have hbefore : (clefError.bytesBefore (encode clef)).drop 3 = encode "\")` b !" := by
    decide +kernel
  refine ⟨hcompile, hcut, ?_⟩
  rw [hexcerpt, hcut, hbefore]

/-- The column of an error does not always split the excerpt at the place of the error. -/
theorem exists_column_before_place : ∃ (text : String) (e : CompileError),
    compile (encode text) = .error e ∧
      (encode e.parsing).take e.column ≠ e.bytesBefore (encode text) := by
  refine ⟨"\x7b a `f(\"é\")` b c !", ⟨"read_node", .unexpected (some 0x21), 19, 10,
    "\ufffd\")` b c !", "\x7b a `f(\"é\")` b c !"⟩, by cbv, by decide +kernel⟩

end DocQuery
