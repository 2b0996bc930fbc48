import Mathlib
import DocQuery.Url.Reader
import DocQuery.Proofs.Text.Utf8

/-! Segments of paths.  In an address whose scheme has a usual port a path is read as one segment at
least, none of them with a slash, a blank or a control character in it.  A segment is empty before
another one only where two slashes stand in a row. -/

namespace DocQuery.Url

/-- A character that can stand in a segment as it is written. -/
def IsInner (c : Char) : Prop := 0x20 < c.toNat ∧ isSlash true c = false

instance (c : Char) : Decidable (IsInner c) := inferInstanceAs (Decidable (_ ∧ _))

/-- A segment as it is written. -/
def IsSegment (segment : String) : Prop := ∀ c ∈ segment.toList, IsInner c

/-- The path that is read at the start of a text. -/
def pathOf (cs : List Char) : List Char := (visible cs).takeWhile (!endsPath ·)

/-- No two slashes stand in a row in a path. -/
def SingleSlashes (path : List Char) : Prop :=
  path.IsChain fun c d => ¬(isSlash true c = true ∧ isSlash true d = true)

instance (path : List Char) : Decidable (SingleSlashes path) :=
  inferInstanceAs (Decidable (List.IsChain _ _))

/-! ### Encoded characters -/

theorem exists_digit_of_mem_toDigits {n : Nat} {c : Char} (h : c ∈ Nat.toDigits 16 n) :
    ∃ d < 16, c = Nat.digitChar d := by
  induction n using Nat.strongRecOn with
  | ind n ih =>
  rw [Nat.toDigits_eq_if (by decide)] at h
  split at h
  · rename_i hsmall
    exact ⟨n, hsmall, List.mem_singleton.mp h⟩
  · rename_i hlarge
    rcases List.mem_append.mp h with h | h
    · exact ih (n / 16) (Nat.div_lt_self (by omega) (by decide)) h
    · exact ⟨n % 16, Nat.mod_lt n (by decide), List.mem_singleton.mp h⟩

theorem isInner_byteDigits (b : UInt8) : ∀ c ∈ byteDigits b, IsInner c := by
  have hdigit : ∀ d < 16, IsInner (Nat.digitChar d).toUpper := by decide
  have hdigits : ∀ c ∈ (Nat.toDigits 16 b.toNat).map Char.toUpper, IsInner c := by
    intro c hc
    obtain ⟨c, hdigitOf, rfl⟩ := List.mem_map.mp hc
    obtain ⟨d, hd, rfl⟩ := exists_digit_of_mem_toDigits hdigitOf
    exact hdigit d hd
  rw [byteDigits]
  split
  · exact List.forall_mem_cons.mpr ⟨by decide, hdigits⟩
  · exact hdigits

theorem isInner_percentEncode (c : Char) : ∀ d ∈ percentEncode c, IsInner d := by
  intro d hd
  obtain ⟨b, _, hd⟩ := List.mem_flatMap.mp hd
  rcases List.mem_cons.mp hd with rfl | hd
  · decide
  · exact isInner_byteDigits b d hd

theorem percentEncode_ne_nil (c : Char) : percentEncode c ≠ [] := by
  obtain ⟨b, more, hbytes⟩ := List.exists_cons_of_ne_nil (String.utf8EncodeChar_ne_nil (c := c))
  rw [percentEncode, Utf8.encode_ofList, List.flatMap_singleton, hbytes, List.flatMap_cons,
    List.cons_append]
  exact List.cons_ne_nil _ _

theorem isInner_encodeChar {c : Char} (hc : isSlash true c = false) :
    ∀ d ∈ encodeChar pathSet c, IsInner d := by
  intro d hd
  rw [encodeChar] at hd
  split at hd
  · exact isInner_percentEncode c d hd
  · rename_i hplain
    obtain rfl := List.mem_singleton.mp hd
    simp only [Bool.or_eq_true, decide_eq_true_eq, not_or, Nat.not_lt] at hplain
    obtain ⟨⟨hlow, -⟩, hset⟩ := hplain
    refine ⟨Nat.lt_of_le_of_ne hlow fun hblank => hset ?_, hc⟩
    have hspace : d = ' ' := Char.toNat_inj.mp hblank.symm
    rw [hspace]
    decide

theorem isSegment_encodeText {cs : List Char} (hcs : ∀ c ∈ cs, isSlash true c = false) :
    IsSegment (encodeText pathSet cs) := by
  intro d hd
  rw [encodeText, String.toList_ofList] at hd
  obtain ⟨c, hc, hd⟩ := List.mem_flatMap.mp hd
  exact isInner_encodeChar (hcs c hc) d hd

theorem encodeChar_ne_nil (set : String) (c : Char) : encodeChar set c ≠ [] := by
  rw [encodeChar]
  split
  · exact percentEncode_ne_nil c
  · exact List.cons_ne_nil c []

theorem encodeText_ne_empty (set : String) {cs : List Char} (hcs : cs ≠ []) :
    encodeText set cs ≠ "" := by
  obtain ⟨c, cs, rfl⟩ := List.exists_cons_of_ne_nil hcs
  intro hempty
  rw [encodeText, String.ofList_eq_empty_iff, List.flatMap_cons, List.append_eq_nil_iff] at hempty
  exact encodeChar_ne_nil set c hempty.1

/-! ### Segments one after the other -/

/-- The segments after one more of a path that belongs to no file; `closed` tells whether a slash
follows. -/
def enter (segments : List String) (closed : Bool) (segment : String) : List String :=
  let opened (segments : List String) : List String :=
    if closed then segments else segments ++ [""]
  if isDoubleDot segment then opened (shorten segments)
  else if isSingleDot segment then opened segments
  else segments ++ [segment]

/-- The segments after a whole path.  `segment` holds in reverse the characters of the open one. -/
def enterAll (segments : List String) (segment : List Char) : List Char → List String
  | [] => enter segments false (encodeText pathSet segment.reverse)
  | c :: cs =>
    if isSlash true c then
      enterAll (enter segments true (encodeText pathSet segment.reverse)) [] cs
    else enterAll segments (c :: segment) cs

theorem add_segments (segments : List String) (closed : Bool) (segment : String) :
    PathReading.add { segments } false closed segment =
      { segments := enter segments closed segment } := by
  by_cases hdouble : isDoubleDot segment <;> by_cases hsingle : isSingleDot segment <;>
    simp [PathReading.add, enter, hdouble, hsingle]

theorem mem_of_mem_shorten {segments : List String} {s : String} (h : s ∈ shorten segments) :
    s ∈ segments := by
  rw [shorten] at h
  split at h
  · exact h
  · exact List.mem_of_mem_dropLast h

theorem enter_cases (segments : List String) (closed : Bool) (segment : String) :
    enter segments closed segment = segments ++ [segment] ∨
      ∃ kept, (∀ s ∈ kept, s ∈ segments) ∧
        enter segments closed segment = if closed then kept else kept ++ [""] := by
  rw [enter]
  split
  · exact .inr ⟨shorten segments, fun _ => mem_of_mem_shorten, rfl⟩
  · split
    · exact .inr ⟨segments, fun _ => id, rfl⟩
    · exact .inl rfl

theorem isSegment_empty : IsSegment "" := by
  intro c hc
  simp at hc

theorem isSegment_enter {segments : List String} {closed : Bool} {segment : String}
    (hsegments : ∀ s ∈ segments, IsSegment s) (hsegment : IsSegment segment) :
    ∀ s ∈ enter segments closed segment, IsSegment s := by
  intro s hs
  obtain henter | ⟨kept, hkept, henter⟩ := enter_cases segments closed segment
  · rw [henter, List.mem_append, List.mem_singleton] at hs
    obtain hs | rfl := hs
    · exact hsegments s hs
    · exact hsegment
  · rw [henter] at hs
    split at hs
    · exact hsegments s (hkept s hs)
    · rw [List.mem_append, List.mem_singleton] at hs
      obtain hs | rfl := hs
      · exact hsegments s (hkept s hs)
      · exact isSegment_empty

theorem enter_open_ne_nil (segments : List String) (segment : String) :
    enter segments false segment ≠ [] := by
  obtain henter | ⟨kept, -, henter⟩ := enter_cases segments false segment <;> rw [henter] <;> simp

theorem mem_of_mem_dropLast_enter {segments : List String} {segment s : String}
    (hs : s ∈ (enter segments false segment).dropLast) : s ∈ segments := by
  obtain henter | ⟨kept, hkept, henter⟩ := enter_cases segments false segment
  · rwa [henter, List.dropLast_concat] at hs
  · rw [henter] at hs
    exact hkept s (by simpa using hs)

theorem mem_enter_closed {segments : List String} {segment s : String}
    (hs : s ∈ enter segments true segment) : s ∈ segments ∨ s = segment := by
  obtain henter | ⟨kept, hkept, henter⟩ := enter_cases segments true segment
  · simpa [henter] using hs
  · rw [henter] at hs
    exact .inl (hkept s hs)

/-! ### Whole paths -/

theorem eq_of_isSlash {special : Bool} {c : Char} (h : isSlash special c = true) :
    c = '/' ∨ c = '\\' := by
  rw [isSlash, Bool.or_eq_true, Bool.and_eq_true, beq_iff_eq, beq_iff_eq] at h
  exact h.imp_right And.right

theorem endsPath_of_isSlash {special : Bool} {c : Char} (h : isSlash special c = true) :
    endsPath c = false := by
  obtain rfl | rfl := eq_of_isSlash h <;> decide

theorem pathOf_of_isIgnored {c : Char} (h : isIgnored c = true) (cs : List Char) :
    pathOf (c :: cs) = pathOf cs := by
  simp [pathOf, visible, h]

theorem pathOf_of_endsPath {c : Char} (hc : isIgnored c = false) (h : endsPath c = true)
    (cs : List Char) : pathOf (c :: cs) = [] := by
  simp [pathOf, visible, hc, h]

theorem pathOf_cons {c : Char} (hc : isIgnored c = false) (h : endsPath c = false)
    (cs : List Char) : pathOf (c :: cs) = c :: pathOf cs := by
  simp [pathOf, visible, hc, h]

theorem isSpecial_of_usualPort {scheme : String} (h : (usualPort scheme).isSome) :
    isSpecial scheme = true := by
  rw [isSpecial, h, Bool.or_true]

theorem beq_file_of_usualPort {scheme : String} (h : (usualPort scheme).isSome) :
    (scheme == "file") = false := by
  refine beq_false_of_ne fun hfile => ?_
  subst hfile
  exact absurd h (by decide)

/-- Where a scheme has a usual port, a path is read like this. -/
theorem readSegments_segments {scheme : String} (hport : (usualPort scheme).isSome)
    (segments : List String) (segment : List Char) (ignored : Bool) (cs : List Char) :
    (readSegments scheme { segments } segment ignored cs).1 =
      { segments := enterAll segments segment (pathOf cs) } := by
  have hfile := beq_file_of_usualPort hport
  induction cs generalizing segments segment ignored with
  | nil =>
    rw [readSegments, hfile, add_segments]
    rfl
  | cons c cs ih =>
    rw [readSegments, isSpecial_of_usualPort hport, hfile]
    by_cases hignored : isIgnored c = true
    · rw [if_pos hignored, ih, pathOf_of_isIgnored hignored]
    rw [if_neg hignored]
    rw [Bool.not_eq_true] at hignored
    by_cases hslash : isSlash true c = true
    · rw [if_pos hslash, add_segments, ih, pathOf_cons hignored (endsPath_of_isSlash hslash),
        enterAll, if_pos hslash]
    rw [if_neg hslash]
    by_cases hend : endsPath c = true
    · rw [if_pos hend, add_segments, pathOf_of_endsPath hignored hend]
      rfl
    · have hdrive : PathReading.endsInDrive { segments } false ignored segment = false := rfl
      rw [if_neg hend, hdrive, if_neg Bool.false_ne_true, ih,
        pathOf_cons hignored (Bool.eq_false_of_not_eq_true hend), enterAll, if_neg hslash]

theorem enterAll_ne_nil (segments : List String) (segment path : List Char) :
    enterAll segments segment path ≠ [] := by
  fun_induction enterAll segments segment path with
  | case1 => exact enter_open_ne_nil _ _
  | case2 _ _ _ _ _ ih => exact ih
  | case3 _ _ _ _ _ ih => exact ih

theorem isSegment_enterAll {segments : List String} {segment path : List Char}
    (hsegments : ∀ s ∈ segments, IsSegment s) (hsegment : ∀ c ∈ segment, isSlash true c = false) :
    ∀ s ∈ enterAll segments segment path, IsSegment s := by
  have hencode {cs : List Char} (hcs : ∀ c ∈ cs, isSlash true c = false) :
      IsSegment (encodeText pathSet cs.reverse) :=
    isSegment_encodeText fun c hc => hcs c (List.mem_reverse.mp hc)
  fun_induction enterAll segments segment path with
  | case1 segments segment => exact isSegment_enter hsegments (hencode hsegment)
  | case2 segments segment c cs hslash ih =>
    exact ih (isSegment_enter hsegments (hencode hsegment)) (by simp)
  | case3 segments segment c cs hslash ih =>
    exact ih hsegments (List.forall_mem_cons.mpr ⟨by simpa using hslash, hsegment⟩)

/-- An empty segment before another one comes of two slashes in a row. -/
theorem ne_empty_of_mem_dropLast_enterAll {segments : List String} {segment path : List Char}
    (hsegments : ∀ s ∈ segments, s ≠ "")
    (hsegment : segment = [] → ∀ c ∈ path.head?, isSlash true c = false)
    (hpath : SingleSlashes path) :
    ∀ s ∈ (enterAll segments segment path).dropLast, s ≠ "" := by
  fun_induction enterAll segments segment path with
  | case1 segments segment => exact fun s hs => hsegments s (mem_of_mem_dropLast_enter hs)
  | case2 segments segment c cs hslash ih =>
    -- The slash is not the first of the path, nor one after another: the open segment has a
    -- character, and a character stays one or more when it is encoded.
    have hnil : segment ≠ [] := fun hnil => by simpa [hslash] using hsegment hnil
    obtain ⟨hnext, hpath⟩ := List.isChain_cons.mp hpath
    refine ih (fun s hs => ?_) (fun _ d hd => ?_) hpath
    · obtain hs | rfl := mem_enter_closed hs
      · exact hsegments s hs
      · exact encodeText_ne_empty pathSet (by simpa using hnil)
    · exact Bool.eq_false_of_not_eq_true fun hd' => hnext d hd ⟨hslash, hd'⟩
  | case3 segments segment c cs hslash ih =>
    exact ih hsegments (fun h => (List.cons_ne_nil _ _ h).elim) hpath.tail

end DocQuery.Url
