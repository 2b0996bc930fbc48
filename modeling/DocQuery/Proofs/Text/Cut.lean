import DocQuery.Proofs.Text.Digits

/-! Texts cut between any two bytes.  A cut may leave up to three bytes of a character on either side.
Those at the start of the bytes behind the cut are continuation bytes, and reading with replacement
gives a replacement character for each of them; the characters behind them are read as they are.
What a cut at the other end leaves of a character does not matter for what stands before it. -/

namespace DocQuery.Utf8

/-! ### Reading with replacement -/

/-- What is read does not depend on the characters before. -/
theorem lossyFrom_append (cs : List Char) (bytes : List UInt8) :
    lossyFrom 0 (bytesOf cs ++ bytes) = cs ++ lossyFrom 0 bytes := by
  induction cs with
  | nil => rfl
  | cons c cs ih =>
    obtain ⟨b, more, hbytes⟩ := List.exists_cons_of_ne_nil (String.utf8EncodeChar_ne_nil (c := c))
    have hskip : c.utf8Size - 1 = more.length := by
      rw [← String.length_utf8EncodeChar, hbytes, List.length_cons, Nat.add_sub_cancel]
    have hfirst := firstChar?_append c (bytesOf cs ++ bytes)
    rw [hbytes, List.cons_append] at hfirst
    rw [bytesOf_cons, hbytes, List.append_assoc, List.cons_append, lossyFrom, hfirst]
    dsimp only
    rw [hskip, lossyFrom_skip, ih, List.cons_append]

theorem firstChar?_of_isContinuation {b : UInt8} (h : isContinuation b) (bytes : List UInt8) :
    firstChar? (b :: bytes) = none := by
  rw [Option.eq_none_iff_forall_ne_some]
  intro c hc
  obtain ⟨rest, hrest⟩ := eq_append_of_firstChar? hc
  obtain ⟨b', more, hchar, hb', -⟩ := exists_utf8EncodeChar_eq c
  rw [hchar, List.cons_append] at hrest
  cases hrest
  exact hb' h

theorem followers_of_isContinuation : ∀ b, isContinuation b → followers b = none := by
  decide +kernel

/-- Every continuation byte that no character precedes is replaced by itself. -/
theorem lossyFrom_continuations {front : List UInt8} (h : ∀ b ∈ front, isContinuation b)
    (bytes : List UInt8) :
    lossyFrom 0 (front ++ bytes) = List.replicate front.length '\ufffd' ++ lossyFrom 0 bytes := by
  induction front with
  | nil => rfl
  | cons b front ih =>
    have hb := h b List.mem_cons_self
    have hlength : (truncated (b :: (front ++ bytes))).1 = 1 := by
      simp only [truncated, followers_of_isContinuation b hb]
    rw [List.cons_append, lossyFrom, firstChar?_of_isContinuation hb]
    dsimp only
    rw [hlength, ih fun b hb => h b (List.mem_cons_of_mem _ hb)]
    rfl

/-! ### Cuts -/

/-- Behind a cut there are what is left of a character and whole ones. -/
theorem exists_drop_bytesOf (cs : List Char) (n : Nat) : ∃ front ds,
    (bytesOf cs).drop n = front ++ bytesOf ds ∧ (∀ b ∈ front, isContinuation b) ∧
      front.length ≤ 3 ∧ (n = 0 → front = []) := by
  induction cs generalizing n with
  | nil => exact ⟨[], [], by simp, by simp, by simp, fun _ => rfl⟩
  | cons c cs ih =>
    obtain ⟨b, more, hchar, -, hmore, hlength⟩ := exists_utf8EncodeChar_eq c
    cases n with
    | zero => exact ⟨[], c :: cs, rfl, by simp, by simp, fun _ => rfl⟩
    | succ n =>
      rw [bytesOf_cons, hchar, List.cons_append, List.drop_succ_cons]
      by_cases hn : n ≤ more.length
      · refine ⟨more.drop n, cs, List.drop_append_of_le_length hn,
          fun b hb => hmore b (List.mem_of_mem_drop hb), ?_, fun h => nomatch h⟩
        rw [List.length_drop]
        omega
      · obtain ⟨front, ds, hdrop, hfront, hshort, -⟩ := ih (n - more.length)
        refine ⟨front, ds, ?_, hfront, hshort, fun h => nomatch h⟩
        rw [List.drop_append, List.drop_eq_nil_of_le (by omega), List.nil_append, hdrop]

/-- Before a cut there are whole characters and what is left of one. -/
theorem exists_take_bytesOf (cs : List Char) (n : Nat) : ∃ ds back,
    (bytesOf cs).take n = bytesOf ds ++ back ∧ back.length ≤ 3 ∧
      ((bytesOf cs).length ≤ n → back = []) := by
  induction cs generalizing n with
  | nil => exact ⟨[], [], by simp, by simp, by simp⟩
  | cons c cs ih =>
    obtain ⟨b, more, hchar, -, -, hlength⟩ := exists_utf8EncodeChar_eq c
    have hcharLength : (String.utf8EncodeChar c).length = more.length + 1 := by
      rw [hchar, List.length_cons]
    rw [bytesOf_cons, List.length_append]
    by_cases hn : (String.utf8EncodeChar c).length ≤ n
    · obtain ⟨ds, back, htake, hback, hwhole⟩ := ih (n - (String.utf8EncodeChar c).length)
      refine ⟨c :: ds, back, ?_, hback, fun hle => hwhole (by omega)⟩
      rw [List.take_append, List.take_of_length_le hn, htake, bytesOf_cons, List.append_assoc]
    · refine ⟨[], (String.utf8EncodeChar c).take n, ?_, ?_, fun hle => by omega⟩
      · exact List.take_append_of_le_length (by omega)
      · rw [List.length_take]
        omega

/-! ### Excerpts -/

/-- The continuation bytes in front of characters are those that an excerpt starts with. -/
theorem takeWhile_isContinuation {front : List UInt8} (h : ∀ b ∈ front, isContinuation b)
    (ds : List Char) (n : Nat) :
    (front ++ (bytesOf ds).take n).takeWhile isContinuation = front := by
  rw [List.takeWhile_append_of_pos h]
  cases ds with
  | nil => simp
  | cons d ds =>
    obtain ⟨b, more, hchar, hb, -⟩ := exists_utf8EncodeChar_eq d
    cases n with
    | zero => simp
    | succ n =>
      rw [bytesOf_cons, hchar, List.cons_append, List.take_succ_cons,
        List.takeWhile_cons_of_neg hb, List.append_nil]

theorem length_bytesOf_replacements (k : Nat) :
    (bytesOf (List.replicate k '\ufffd')).length = 3 * k := by
  induction k with
  | zero => rfl
  | succ k ih =>
    rw [List.replicate_succ, bytesOf_cons, List.length_append, ih]
    have hlength : (String.utf8EncodeChar '\ufffd').length = 3 := by decide
    omega

/-- What an excerpt shows up to a place in it, if it goes on for another character or to the end of
the text: a replacement character for every continuation byte at its start, and then the bytes of the
text. -/
theorem take_encode_decodeLossy {front : List UInt8} (hfront : ∀ b ∈ front, isContinuation b)
    {ds : List Char} {column more : Nat} (hcolumn : front.length ≤ column)
    (hlength : column ≤ (front ++ bytesOf ds).length)
    (hmore : 3 ≤ more ∨ (front ++ bytesOf ds).length ≤ column + more) :
    (encode (decodeLossy ((front ++ bytesOf ds).take (column + more)))).take
        (column + 2 * front.length) =
      bytesOf (List.replicate front.length '\ufffd') ++
        (bytesOf ds).take (column - front.length) := by
  have htotal : (front ++ bytesOf ds).length = front.length + (bytesOf ds).length :=
    List.length_append
  obtain ⟨fs, back, htake, hback, hwhole⟩ :=
    exists_take_bytesOf ds (column + more - front.length)
  -- Only the end of the excerpt can cut a character, behind the place.
  have hplace : column - front.length ≤ (bytesOf fs).length := by
    have hshown := congrArg List.length htake
    rw [List.length_take, List.length_append] at hshown
    by_cases hend : (bytesOf ds).length ≤ column + more - front.length
    · have hnil := congrArg List.length (hwhole hend)
      rw [List.length_nil] at hnil
      omega
    · omega
  have hbytes : (bytesOf fs).take (column - front.length) =
      (bytesOf ds).take (column - front.length) := by
    have hback : (bytesOf fs ++ back).take (column - front.length) =
        (bytesOf fs).take (column - front.length) := List.take_append_of_le_length hplace
    rw [← hback, ← htake, List.take_take]
    congr 1
    omega
  have hwindow : (front ++ bytesOf ds).take (column + more) = front ++ (bytesOf fs ++ back) := by
    rw [List.take_append, List.take_of_length_le (by omega), htake]
  have hplaces : column + 2 * front.length =
      (bytesOf (List.replicate front.length '\ufffd')).length + (column - front.length) := by
    rw [length_bytesOf_replacements]
    omega
  rw [hwindow, decodeLossy, lossyFrom_continuations hfront, lossyFrom_append, encode_ofList,
    ← bytesOf, bytesOf_append, bytesOf_append, hplaces, List.take_length_add_append,
    List.take_append_of_le_length hplace, hbytes]

end DocQuery.Utf8
