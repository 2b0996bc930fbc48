import Mathlib
import DocQuery.Text.Search

/-! Texts that are searched.  A pattern occurs in a text if the text holds it as a whole.  Replacing
a pattern that does not occur changes nothing; where it does occur, the first occurrence becomes the
replacement and what follows it is replaced in turn.  So there is one way to cut a text at the
occurrences of a pattern from the left, replacing puts the replacement between the parts, and the
text stays as it is only if every occurrence is replaced by itself. -/

namespace DocQuery.Text

variable {pattern replacement : List Char}

/-- Where a run of items ends inside a list, it ends there with more items behind. -/
theorem takeWhile_append_of_stop {α : Type} {p : α → Bool} {items after : List α} {stop : α}
    (h : items.dropWhile p = stop :: after) (more : List α) :
    (items ++ more).takeWhile p = items.takeWhile p ∧
      (items ++ more).dropWhile p = stop :: (after ++ more) := by
  induction items with
  | nil => cases h
  | cons item items ih =>
    rw [List.dropWhile_cons] at h
    rw [List.cons_append, List.takeWhile_cons, List.takeWhile_cons, List.dropWhile_cons]
    split at h
    · rename_i hitem
      obtain ⟨htake, hdrop⟩ := ih h
      rw [if_pos hitem, if_pos hitem, if_pos hitem, htake]
      exact ⟨rfl, hdrop⟩
    · rename_i hitem
      rw [if_neg hitem, if_neg hitem, if_neg hitem]
      cases h
      exact ⟨rfl, rfl⟩

/-- A run of items ends where an item stands that is not of it. -/
theorem span_append {α : Type} {p : α → Bool} {items behind : List α} (hitems : ∀ a ∈ items, p a)
    (hbehind : ∀ a ∈ behind.head?, p a = false) :
    (items ++ behind).takeWhile p = items ∧ (items ++ behind).dropWhile p = behind := by
  rw [List.takeWhile_append_of_pos hitems, List.dropWhile_append_of_pos hitems]
  cases behind with
  | nil => simp
  | cons a behind => simp [hbehind a rfl]

theorem occursIn_iff {cs : List Char} : occursIn pattern cs = true ↔ pattern <:+: cs := by
  induction cs with
  | nil => rw [occursIn, List.isEmpty_iff, List.infix_nil]
  | cons c cs ih =>
    rw [occursIn, Bool.or_eq_true, List.isPrefixOf_iff_prefix, ih, List.infix_cons_iff]

theorem contains_iff {text pattern : String} :
    contains text pattern = true ↔ pattern.toList <:+: text.toList :=
  occursIn_iff

/-- The characters of the occurrence before are left out. -/
theorem replaceFrom_drop (skip : Nat) (cs : List Char) :
    replaceFrom pattern replacement skip cs =
      replaceFrom pattern replacement 0 (cs.drop skip) := by
  induction cs generalizing skip with
  | nil => rw [List.drop_nil]; rfl
  | cons c cs ih =>
    cases skip with
    | zero => rfl
    | succ skip => rw [replaceFrom, ih, List.drop_succ_cons]

theorem replaceFrom_of_not_occurs {cs : List Char} (h : ¬pattern <:+: cs) :
    replaceFrom pattern replacement 0 cs = cs := by
  have hne : pattern.isEmpty = false := by
    rw [List.isEmpty_eq_false_iff]
    rintro rfl
    exact h List.nil_infix
  induction cs with
  | nil => rw [replaceFrom, hne]; rfl
  | cons c cs ih =>
    rw [List.infix_cons_iff, not_or] at h
    have hprefix : ¬pattern.isPrefixOf (c :: cs) := by
      rw [List.isPrefixOf_iff_prefix]
      exact h.1
    rw [replaceFrom, hne, if_neg Bool.false_ne_true, if_neg hprefix, ih h.2]

/-- The first occurrence of a pattern: what stands before it and what stands behind it. -/
structure FirstOccurrence (pattern cs before after : List Char) : Prop where
  text_eq : cs = before ++ (pattern ++ after)
  first : ∀ front back, cs = front ++ (pattern ++ back) → before.length ≤ front.length

theorem exists_firstOccurrence {cs : List Char} (h : pattern <:+: cs) :
    ∃ before after, FirstOccurrence pattern cs before after := by
  induction cs with
  | nil =>
    obtain rfl := List.infix_nil.mp h
    exact ⟨[], [], rfl, fun _ _ _ => Nat.zero_le _⟩
  | cons c cs ih =>
    by_cases hprefix : pattern <+: c :: cs
    · obtain ⟨after, hafter⟩ := hprefix
      exact ⟨[], after, hafter.symm, fun _ _ _ => Nat.zero_le _⟩
    · obtain ⟨before, after, rfl, hfirst⟩ := ih ((List.infix_cons_iff.mp h).resolve_left hprefix)
      refine ⟨c :: before, after, rfl, fun front back heq => ?_⟩
      cases front with
      | nil => exact absurd ⟨back, heq.symm⟩ hprefix
      | cons d front =>
        rw [List.cons_append, List.cons.injEq] at heq
        exact Nat.succ_le_succ (hfirst front back heq.2)

theorem FirstOccurrence.unique {cs before after before' after' : List Char}
    (h : FirstOccurrence pattern cs before after) (h' : FirstOccurrence pattern cs before' after') :
    before = before' ∧ after = after' := by
  have hlength : before.length = before'.length :=
    Nat.le_antisymm (h.first _ _ h'.text_eq) (h'.first _ _ h.text_eq)
  obtain ⟨rfl, hrest⟩ := List.append_inj (h.text_eq.symm.trans h'.text_eq) hlength
  exact ⟨rfl, List.append_cancel_left hrest⟩

/-- The first occurrence is replaced, and then those behind it. -/
theorem FirstOccurrence.replaceFrom_eq (replacement : List Char) (hne : pattern ≠ [])
    {cs before after : List Char} (h : FirstOccurrence pattern cs before after) :
    replaceFrom pattern replacement 0 cs =
      before ++ (replacement ++ replaceFrom pattern replacement 0 after) := by
  have hempty : pattern.isEmpty = false := List.isEmpty_eq_false_iff.mpr hne
  obtain ⟨rfl, hfirst⟩ := h
  induction before with
  | nil =>
    obtain ⟨p, pattern, rfl⟩ := List.exists_cons_of_ne_nil hne
    have hprefix : (p :: pattern).isPrefixOf (p :: (pattern ++ after)) :=
      List.isPrefixOf_iff_prefix.mpr (List.prefix_append (p :: pattern) after)
    rw [List.nil_append, List.nil_append, List.cons_append, replaceFrom, hempty,
      if_neg Bool.false_ne_true, if_pos hprefix, replaceFrom_drop, List.length_cons,
      Nat.add_sub_cancel, List.drop_left]
  | cons c before ih =>
    have hprefix : ¬pattern.isPrefixOf (c :: (before ++ (pattern ++ after))) := by
      rw [List.isPrefixOf_iff_prefix]
      rintro ⟨back, hback⟩
      exact Nat.not_succ_le_zero _ (hfirst [] back hback.symm)
    rw [List.cons_append, replaceFrom, hempty, if_neg Bool.false_ne_true, if_neg hprefix, ih]
    · rfl
    · intro front back heq
      exact Nat.le_of_succ_le_succ (hfirst (c :: front) back (congrArg (c :: ·) heq))

/-- Induction over the occurrences: a text without any, and a text with a first one. -/
theorem occurrence_induction (hne : pattern ≠ []) {motive : List Char → Prop}
    (none : ∀ cs, ¬pattern <:+: cs → motive cs)
    (first : ∀ cs before after, FirstOccurrence pattern cs before after → motive after → motive cs)
    (cs : List Char) : motive cs := by
  induction hn : cs.length using Nat.strongRecOn generalizing cs with
  | ind n ih =>
  subst hn
  by_cases h : pattern <:+: cs
  · obtain ⟨before, after, hfirst⟩ := exists_firstOccurrence h
    have hpos := List.length_pos_iff.mpr hne
    refine first cs before after hfirst (ih after.length ?_ after rfl)
    rw [hfirst.text_eq]
    simp only [List.length_append]
    omega
  · exact none cs h

/-- Every replacement changes the length by the same number. -/
theorem exists_length_replaceFrom (hne : pattern ≠ []) (replacement cs : List Char) :
    ∃ times, (replaceFrom pattern replacement 0 cs).length + times * pattern.length =
      cs.length + times * replacement.length := by
  induction cs using occurrence_induction hne with
  | none cs h => exact ⟨0, by rw [replaceFrom_of_not_occurs h, Nat.zero_mul, Nat.zero_mul]⟩
  | first cs before after hfirst ih =>
    obtain ⟨times, htimes⟩ := ih
    refine ⟨times + 1, ?_⟩
    rw [hfirst.replaceFrom_eq replacement hne, hfirst.text_eq]
    simp only [List.length_append, Nat.succ_mul]
    omega

theorem replaceFrom_self (hne : pattern ≠ []) (cs : List Char) :
    replaceFrom pattern pattern 0 cs = cs := by
  induction cs using occurrence_induction hne with
  | none cs h => exact replaceFrom_of_not_occurs h
  | first cs before after hfirst ih =>
    rw [hfirst.replaceFrom_eq pattern hne, ih]
    exact hfirst.text_eq.symm

/-- A text stays as it is only if nothing occurs in it or every occurrence is replaced by itself. -/
theorem replaceFrom_eq_self_iff (hne : pattern ≠ []) {cs : List Char} :
    replaceFrom pattern replacement 0 cs = cs ↔ ¬pattern <:+: cs ∨ replacement = pattern := by
  constructor
  · intro h
    rw [or_iff_not_imp_left, not_not]
    intro hoccurs
    obtain ⟨before, after, hfirst⟩ := exists_firstOccurrence hoccurs
    have hreplace := hfirst.replaceFrom_eq replacement hne
    have happend := List.append_cancel_left (hreplace.symm.trans (h.trans hfirst.text_eq))
    obtain ⟨times, htimes⟩ := exists_length_replaceFrom hne replacement after
    have hlength := congrArg List.length happend
    simp only [List.length_append] at hlength
    -- The same number of characters comes and goes with each occurrence, the first one included.
    have hequal : (times + 1) * replacement.length = (times + 1) * pattern.length := by
      rw [Nat.succ_mul, Nat.succ_mul]
      omega
    exact List.append_inj_left happend (Nat.eq_of_mul_eq_mul_left (Nat.succ_pos times) hequal)
  · rintro (h | rfl)
    · exact replaceFrom_of_not_occurs h
    · exact replaceFrom_self hne cs

/-! ### The parts between the occurrences -/

/-- A text cut at the occurrences of a pattern, each the first one behind the one before: what
stands before the first, between them and behind the last. -/
inductive Parts (pattern : List Char) : List Char → List (List Char) → Prop
  | last {cs : List Char} (h : ¬pattern <:+: cs) : Parts pattern cs [cs]
  | first {cs before after : List Char} {parts : List (List Char)}
      (hfirst : FirstOccurrence pattern cs before after) (hrest : Parts pattern after parts) :
      Parts pattern cs (before :: parts)

namespace Parts

theorem ne_nil {cs : List Char} {parts : List (List Char)} (h : Parts pattern cs parts) :
    parts ≠ [] := by
  cases h <;> exact List.cons_ne_nil _ _

theorem unique {cs : List Char} {parts parts' : List (List Char)} (h : Parts pattern cs parts)
    (h' : Parts pattern cs parts') : parts = parts' := by
  induction h generalizing parts' with
  | last hnot =>
    cases h' with
    | last => rfl
    | first hfirst' => exact absurd ⟨_, _, by rw [List.append_assoc, ← hfirst'.text_eq]⟩ hnot
  | first hfirst _ ih =>
    cases h' with
    | last hnot => exact absurd ⟨_, _, by rw [List.append_assoc, ← hfirst.text_eq]⟩ hnot
    | first hfirst' hrest' =>
      obtain ⟨rfl, rfl⟩ := hfirst.unique hfirst'
      rw [ih hrest']

/-- Replacing a pattern puts the replacement between the parts. -/
theorem replaceFrom_eq (replacement : List Char) (hne : pattern ≠ []) {cs : List Char}
    {parts : List (List Char)} (h : Parts pattern cs parts) :
    replaceFrom pattern replacement 0 cs = replacement.intercalate parts := by
  induction h with
  | last hnot => rw [replaceFrom_of_not_occurs hnot, List.intercalate_singleton]
  | first hfirst hrest ih =>
    rw [hfirst.replaceFrom_eq replacement hne, ih, List.intercalate_cons_of_ne_nil hrest.ne_nil,
      List.append_assoc]

end Parts

theorem exists_parts (hne : pattern ≠ []) (cs : List Char) : ∃ parts, Parts pattern cs parts := by
  induction cs using occurrence_induction hne with
  | none cs h => exact ⟨[cs], .last h⟩
  | first cs before after hfirst ih =>
    obtain ⟨parts, hparts⟩ := ih
    exact ⟨before :: parts, .first hfirst hparts⟩

/-- Replacing a pattern leaves a text as it is exactly if the pattern does not occur or is replaced
by itself. -/
theorem replaceAll_eq_self_iff {text pattern replacement : String} (hne : pattern ≠ "") :
    replaceAll text pattern replacement = text ↔
      contains text pattern = false ∨ replacement = pattern := by
  have hlist : pattern.toList ≠ [] := by
    rwa [ne_eq, String.toList_eq_nil_iff]
  rw [replaceAll, ← String.toList_inj, String.toList_ofList, replaceFrom_eq_self_iff hlist,
    ← contains_iff, Bool.not_eq_true, String.toList_inj]

theorem replaceAll_of_not_contains {text pattern replacement : String}
    (h : contains text pattern = false) : replaceAll text pattern replacement = text := by
  have hoccurs : ¬pattern.toList <:+: text.toList := by
    rw [← contains_iff, h]
    exact Bool.false_ne_true
  rw [replaceAll, replaceFrom_of_not_occurs hoccurs, String.ofList_toList]

end DocQuery.Text
