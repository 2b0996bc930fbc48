import DocQuery.Proofs.Expression.Token

/-! The readers of arguments, calls and pipelines read the texts of their constructs.  Arguments
and calls end with a byte of their own; a pipeline may be left out, so that no backtick may follow
it. -/

namespace DocQuery.Expression

open Grammar

/-! Arguments. -/

/-- The bytes before a delimiter, and those after it. -/
theorem readUntil?_eq_some_iff {c : Cursor} {d : UInt8} {part r : List UInt8} :
    (∃ c', c.readUntil? d = some (part, c') ∧ c'.rest = r) ↔
      d ∉ part ∧ c.rest = part ++ d :: r := by
  have hsplit : c.rest.takeWhile (· != d) ++ (c.skipWhile (· != d)).rest = c.rest :=
    List.takeWhile_append_dropWhile
  have hhead := List.head?_dropWhile_not (· != d) c.rest
  rw [show c.rest.dropWhile (· != d) = (c.skipWhile (· != d)).rest from rfl] at hhead
  rw [Cursor.readUntil?]
  constructor
  · rintro ⟨c', h, rfl⟩
    split at h
    · cases h
    · rename_i before b rest hskip
      cases h
      rw [hskip] at hsplit hhead
      have hb : b = d := by simpa using hhead
      subst hb
      refine ⟨fun hd => ?_, hsplit.symm⟩
      have := List.all_eq_true.mp List.all_takeWhile b hd
      simp at this
  · rintro ⟨hpart, hrest⟩
    have hall : ∀ b ∈ part, (b != d) = true := by
      intro b hb
      simp only [bne_iff_ne, ne_eq]
      rintro rfl
      exact hpart hb
    have htake : c.rest.takeWhile (· != d) = part := by
      rw [hrest, List.takeWhile_append_of_pos hall, List.takeWhile_cons_of_neg (by simp),
        List.append_nil]
    have hdrop : (c.skipWhile (· != d)).rest = d :: r := by
      rw [htake, hrest] at hsplit
      exact List.append_cancel_left hsplit
    split
    · rename_i hskip
      rw [hskip] at hdrop
      cases hdrop
    · rename_i before b rest hskip
      rw [hskip] at hdrop
      cases hdrop
      exact ⟨_, by rw [htake], rfl⟩

/-- An argument is a quote, the bytes of the text and a quote. -/
theorem argument_iff {arg : String} {s r : List UInt8} :
    argument arg s r ↔
      quote ∉ Utf8.encode arg ∧ significant s = quote :: (Utf8.encode arg ++ quote :: r) := by
  rw [argument, token_iff (by decide), List.append_assoc]
  rfl

/-- The byte before which arguments go on or end. -/
theorem head_arguments {args : List String} {s r : List UInt8}
    (h : (arguments args ++ token [closeParen]) s r) :
    (significant s).head? = some quote ∨ (significant s).head? = some closeParen := by
  cases args with
  | nil =>
    obtain ⟨_, rfl, hclose⟩ := h
    rw [token_iff (by decide)] at hclose
    rw [hclose]
    exact .inr rfl
  | cons arg args =>
    obtain ⟨_, ⟨_, ⟨_, harg, _⟩, _⟩, _⟩ := h
    rw [(argument_iff.mp harg).2]
    exact .inl rfl

theorem arguments_of_reads {c : Cursor} {args : List String} {r : List UInt8}
    (h : Reads (readArguments c) args r) : (arguments args ++ token [closeParen]) c.rest r := by
  induction hn : c.rest.length using Nat.strongRecOn generalizing c args with
  | ind n ih =>
  subst hn
  rw [readArguments] at h
  split at h
  · exact absurd h not_reads_error
  rename_i b c1 hnext
  have hlt := Cursor.length_next?_lt hnext
  have hbyte := significant_of_next? hnext
  split at h
  · rename_i hclose
    subst hclose
    obtain ⟨rfl, rfl⟩ := reads_ok.mp h
    exact ⟨c.rest, rfl, (token_iff (by decide)).mpr hbyte⟩
  split at h
  · rename_i hquote
    subst hquote
    split at h
    · exact absurd h not_reads_error
    rename_i raw c2 huntil
    have hlt2 := Cursor.length_readUntil?_lt huntil
    obtain ⟨hraw, hc1⟩ := readUntil?_eq_some_iff.mp ⟨c2, huntil, rfl⟩
    split at h
    · exact absurd h not_reads_error
    rename_i arg hdecode
    rw [Utf8.decode_eq_ok_iff] at hdecode
    subst hdecode
    have hcomma := optional_skipByte (b := comma) (by decide) c2
    generalize skipByte comma c2 = y at h hcomma
    obtain ⟨c3, h3⟩ := y
    obtain ⟨args', c4, h4, hread, hr⟩ := reads_bind.mp h
    obtain ⟨rfl, rfl⟩ := reads_ok.mp hr
    obtain ⟨m, hargs, hclose⟩ := ih _ (by omega) ⟨_, hread, rfl, rfl⟩ rfl
    rw [hc1] at hbyte
    exact ⟨m, ⟨c3.rest, ⟨c2.rest, argument_iff.mpr ⟨hraw, hbyte⟩, hcomma⟩, hargs⟩, hclose⟩
  · exact absurd h not_reads_error

theorem reads_of_arguments {c : Cursor} {args : List String} {r : List UInt8}
    (h : (arguments args ++ token [closeParen]) c.rest r) : Reads (readArguments c) args r := by
  induction args generalizing c with
  | nil =>
    obtain ⟨_, rfl, hclose⟩ := h
    rw [token_iff (by decide)] at hclose
    obtain ⟨c1, hnext, hr⟩ := next?_eq_some_iff.mpr hclose
    rw [readArguments]
    split
    · rename_i hnone
      rw [hnext] at hnone
      cases hnone
    · rename_i hsome
      rw [hnext] at hsome
      cases hsome
      rw [if_pos rfl, reads_ok]
      exact ⟨rfl, hr⟩
  | cons arg args ih =>
    obtain ⟨m, ⟨s2, ⟨s1, harg, hcomma⟩, hargs⟩, hclose⟩ := h
    obtain ⟨hquote, hs⟩ := argument_iff.mp harg
    obtain ⟨c1, hnext, hc1⟩ := next?_eq_some_iff.mpr hs
    obtain ⟨c2, huntil, hc2⟩ := readUntil?_eq_some_iff.mpr ⟨hquote, hc1⟩
    have hhead : (significant s2).head? ≠ some comma := by
      rcases head_arguments ⟨m, hargs, hclose⟩ with hs2 | hs2 <;> rw [hs2] <;> decide
    have hskip : (skipByte comma c2).val.rest = s2 :=
      skipByte_of_optional (by decide) (hc2 ▸ hcomma) hhead
    obtain ⟨⟨⟨args', c4⟩, h4⟩, hread, rfl, rfl⟩ :=
      ih (c := (skipByte comma c2).val) (hskip ▸ ⟨m, hargs, hclose⟩)
    rw [readArguments]
    split
    · rename_i hnone
      rw [hnext] at hnone
      cases hnone
    rename_i hsome
    rw [hnext] at hsome
    cases hsome
    rw [if_neg (by decide), if_pos rfl]
    split
    · rename_i hnone
      rw [huntil] at hnone
      cases hnone
    rename_i hsome
    rw [huntil] at hsome
    cases hsome
    rw [Utf8.decode_eq_ok_iff.mpr rfl]
    dsimp only
    exact reads_bind.mpr ⟨args', c4, h4, hread, reads_ok.mpr ⟨rfl, rfl⟩⟩

/-! Pipelines. -/

/-- A text that starts with a name starts with a name byte, after blanks. -/
theorem IsName.head_significant {name : String} (h : IsName name) {s r : List UInt8}
    (hs : token (Utf8.encode name) s r) : ∃ b, (significant s).head? = some b ∧ isNameByte b := by
  obtain ⟨b, bytes, hencode, hb⟩ := h.exists_cons
  rw [h.token_iff, hencode] at hs
  exact ⟨b, by rw [hs]; rfl, hb⟩

theorem reads_readCall {c : Cursor} {cl : Call} {r : List UInt8} :
    Reads (readCall c.skipBlanks) cl r ↔ call cl c.rest r := by
  have hrest : significant c.rest = c.skipBlanks.rest := rfl
  rw [readCall]
  constructor
  · intro h
    split at h
    · exact absurd h not_reads_error
    rename_i b hcurrent
    split at h
    · rename_i hb
      obtain ⟨_, c2, h2, hopen, h⟩ := reads_bind.mp h
      obtain ⟨args, c3, h3, hargs, h⟩ := reads_bind.mp h
      obtain ⟨rfl, rfl⟩ := reads_ok.mp h
      have hname := isName_readName hcurrent hb
      obtain ⟨_, hleft, hstop⟩ := readName_spec c.skipBlanks
      have htoken : token (Utf8.encode c.skipBlanks.readName.1) c.rest
          c.skipBlanks.readName.2.rest := by
        rwa [hname.token_iff, hrest]
      have hopen := (reads_expect _ (by decide)).mp ⟨_, hopen, rfl, rfl⟩
      obtain ⟨m, hargs, hclose⟩ := arguments_of_reads ⟨_, hargs, rfl, rfl⟩
      exact ⟨m, ⟨_, ⟨_, ⟨hname, htoken, hstop⟩, hopen⟩, hargs⟩, hclose⟩
    · exact absurd h not_reads_error
  · rintro ⟨m, ⟨s2, ⟨s1, ⟨hname, htoken, hstop⟩, hopen⟩, hargs⟩, hclose⟩
    obtain ⟨b, hhead, hb⟩ := hname.head_significant htoken
    rw [hname.token_iff, hrest] at htoken
    obtain ⟨hread, hleft⟩ := readName_eq htoken hname.2 hstop
    subst hleft
    obtain ⟨⟨⟨_, c2⟩, h2⟩, hexpect, _, rfl⟩ :=
      (reads_expect "read_string_tuple" (by decide)).mpr hopen
    obtain ⟨⟨⟨_, c3⟩, h3⟩, hreads, rfl, rfl⟩ := reads_of_arguments ⟨m, hargs, hclose⟩
    split
    · rename_i hnone
      rw [hrest, ← Cursor.current?, hnone] at hhead
      cases hhead
    rename_i hsome
    rw [hrest, ← Cursor.current?, hsome] at hhead
    cases hhead
    rw [dif_pos hb]
    refine reads_bind.mpr ⟨_, c2, h2, hexpect, reads_bind.mpr ⟨_, c3, h3, hreads, ?_⟩⟩
    exact reads_ok.mpr ⟨by rw [hread], rfl⟩

theorem calls_of_reads {c : Cursor} {calls : List Call} {r : List UInt8}
    (h : Reads (readCalls c) calls r) : (Calls calls ++ token [backtick]) c.rest r := by
  induction hn : c.rest.length using Nat.strongRecOn generalizing c calls with
  | ind n ih =>
  subst hn
  rw [readCalls] at h
  split at h
  · exact absurd h not_reads_error
  rename_i b c1 hnext
  have hlt := Cursor.length_next?_lt hnext
  have hbyte := significant_of_next? hnext
  split at h
  · rename_i hclose
    subst hclose
    obtain ⟨rfl, rfl⟩ := reads_ok.mp h
    exact ⟨c.rest, .nil, (token_iff (by decide)).mpr hbyte⟩
  split at h
  · rename_i hsemicolon
    subst hsemicolon
    obtain ⟨calls', c2, h2, hread, h⟩ := reads_bind.mp h
    obtain ⟨rfl, rfl⟩ := reads_ok.mp h
    obtain ⟨m, hcalls, hclose⟩ := ih _ hlt ⟨_, hread, rfl, rfl⟩ rfl
    exact ⟨m, .semicolon ((token_iff (by decide)).mpr hbyte) hcalls, hclose⟩
  · obtain ⟨cl, c2, h2, hcall, h⟩ := reads_bind.mp h
    obtain ⟨calls', c3, h3, hread, h⟩ := reads_bind.mp h
    obtain ⟨rfl, rfl⟩ := reads_ok.mp h
    have hlt2 : c2.rest.length < c.rest.length := Nat.lt_of_lt_of_le h2 c.length_skipBlanks_le
    obtain ⟨m, hcalls, hclose⟩ := ih _ hlt2 ⟨_, hread, rfl, rfl⟩ rfl
    exact ⟨m, .cons (reads_readCall.mp ⟨_, hcall, rfl, rfl⟩) hcalls, hclose⟩

theorem not_separator_of_isNameByte :
    ∀ b, isNameByte b → b ≠ backtick ∧ b ≠ semicolon := by decide +kernel

theorem reads_of_calls {calls : List Call} {s m r : List UInt8} (hcalls : Calls calls s m)
    (hclose : token [backtick] m r) {c : Cursor} (hc : c.rest = s) :
    Reads (readCalls c) calls r := by
  induction hcalls generalizing c with
  | nil =>
    rw [← hc, token_iff (by decide)] at hclose
    obtain ⟨c1, hnext, rfl⟩ := next?_eq_some_iff.mpr hclose
    rw [readCalls]
    split
    · rename_i hnone
      rw [hnext] at hnone
      cases hnone
    rename_i hsome
    rw [hnext] at hsome
    cases hsome
    rw [if_pos rfl]
    exact reads_ok.mpr ⟨rfl, rfl⟩
  | semicolon ht hcalls ih =>
    rw [← hc, token_iff (by decide)] at ht
    obtain ⟨c1, hnext, hc1⟩ := next?_eq_some_iff.mpr ht
    obtain ⟨⟨⟨_, c2⟩, h2⟩, hreads, rfl, rfl⟩ := ih hclose hc1
    rw [readCalls]
    split
    · rename_i hnone
      rw [hnext] at hnone
      cases hnone
    rename_i hsome
    rw [hnext] at hsome
    cases hsome
    rw [if_neg (by decide), if_pos rfl]
    exact reads_bind.mpr ⟨_, c2, h2, hreads, reads_ok.mpr ⟨rfl, rfl⟩⟩
  | cons hcall hcalls ih =>
    rw [← hc] at hcall
    obtain ⟨⟨⟨cl, c2⟩, h2⟩, hread, rfl, hc2⟩ := reads_readCall.mpr hcall
    obtain ⟨⟨⟨calls, c3⟩, h3⟩, hreads, rfl, rfl⟩ := ih hclose hc2
    obtain ⟨_, ⟨_, ⟨_, ⟨hname, htoken, _⟩, _⟩, _⟩, _⟩ := hcall
    obtain ⟨b, hhead, hb⟩ := hname.head_significant htoken
    obtain ⟨hbacktick, hsemicolon⟩ := not_separator_of_isNameByte b hb
    rw [readCalls]
    split
    · rename_i hnone
      rw [significant_of_next?_none hnone] at hhead
      cases hhead
    rename_i hsome
    rw [significant_of_next? hsome] at hhead
    cases hhead
    rw [if_neg hbacktick, if_neg hsemicolon]
    refine reads_bind.mpr ⟨_, c2, h2, hread, reads_bind.mpr ⟨_, c3, h3, hreads, ?_⟩⟩
    exact reads_ok.mpr ⟨rfl, rfl⟩

theorem pipeline_of_reads {c : Cursor} {calls : List Call} {r : List UInt8}
    (h : Reads (readPipeline c) calls r) : pipeline calls c.rest r := by
  rw [readPipeline] at h
  split at h
  · obtain ⟨rfl, rfl⟩ := reads_ok.mp h
    exact .inl ⟨rfl, rfl⟩
  · rename_i c1 h1 htake
    obtain ⟨calls', c2, h2, hread, h⟩ := reads_bind.mp h
    obtain ⟨rfl, rfl⟩ := reads_ok.mp h
    obtain ⟨m, hcalls, hclose⟩ := calls_of_reads ⟨_, hread, rfl, rfl⟩
    exact .inr ⟨m, ⟨c1.rest, token_of_take? (by decide) htake, hcalls⟩, hclose⟩

theorem reads_of_pipeline {c : Cursor} {calls : List Call} {r : List UInt8}
    (h : pipeline calls c.rest r) (hr : (significant r).head? ≠ some backtick) :
    Reads (readPipeline c) calls r := by
  rw [readPipeline]
  rcases h with ⟨rfl, rfl⟩ | ⟨m, ⟨s1, hopen, hcalls⟩, hclose⟩
  · rw [take?_eq_none (by decide) hr]
    exact reads_ok.mpr ⟨rfl, rfl⟩
  · obtain ⟨⟨c1, h1⟩, htake, hc1⟩ := take?_of_token (by decide) hopen
    obtain ⟨⟨⟨_, c2⟩, h2⟩, hreads, rfl, rfl⟩ := reads_of_calls hcalls hclose hc1
    rw [htake]
    exact reads_bind.mpr ⟨_, c2, h2, hreads, reads_ok.mpr ⟨rfl, rfl⟩⟩

end DocQuery.Expression
