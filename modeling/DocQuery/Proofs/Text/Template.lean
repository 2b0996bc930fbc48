import Mathlib
import DocQuery.Evaluation.Template

/-! How a text is cut at its references.  There is one way from the left: each reference starts at
the first opening behind the one before and ends at the first closing brace behind that, and the
rest holds no opening with a closing brace behind it.  The cut that arguments are expanded by is
that one. -/

namespace DocQuery.Template

/-- The first reference of a text: what stands before it, its name, and what stands behind it. -/
structure FirstReference (cs before name after : List Char) : Prop where
  text_eq : cs = before ++ '\x7b' :: '$' :: (name ++ '\x7d' :: after)
  first : ∀ front inside, cs = front ++ '\x7b' :: '$' :: inside → before.length ≤ front.length
  close : '\x7d' ∉ name

/-- A text cut at its references, from the left. -/
inductive Cuts : List Char → Template → Prop
  | plain {cs : List Char}
      (h : ∀ before name after, cs ≠ before ++ '\x7b' :: '$' :: (name ++ '\x7d' :: after)) :
      Cuts cs { references := [], tail := String.ofList cs }
  | reference {cs before name after : List Char} {rest : Template}
      (hfirst : FirstReference cs before name after) (hrest : Cuts after rest) :
      Cuts cs
        { references := (String.ofList before, String.ofList name) :: rest.references
          tail := rest.tail }

/-- The text with values in the place of its references. -/
def fill (template : Template) (values : List String) : String :=
  String.join (List.zipWith (fun reference value => reference.1 ++ value) template.references
    values) ++ template.tail

/-! ### The first reference -/

theorem splitAtClose?_eq_some_iff {cs name after : List Char} :
    splitAtClose? cs = some (name, after) ↔ cs = name ++ '\x7d' :: after ∧ '\x7d' ∉ name := by
  induction cs generalizing name with
  | nil => simp [splitAtClose?]
  | cons c cs ih =>
    rw [splitAtClose?]
    by_cases hc : c = '\x7d'
    · subst hc
      rw [if_pos rfl]
      constructor
      · rintro ⟨⟩
        exact ⟨rfl, List.not_mem_nil⟩
      · rintro ⟨htext, hname⟩
        cases name with
        | nil => cases htext; rfl
        | cons d name =>
          cases htext
          exact absurd List.mem_cons_self hname
    · rw [if_neg hc, Option.map_eq_some_iff]
      constructor
      · rintro ⟨⟨name', after'⟩, hsplit, heq⟩
        cases heq
        obtain ⟨rfl, hname⟩ := ih.mp hsplit
        exact ⟨rfl, by simp [hname, Ne.symm hc]⟩
      · rintro ⟨htext, hname⟩
        cases name with
        | nil =>
          cases htext
          exact absurd rfl hc
        | cons d name =>
          cases htext
          exact ⟨_, ih.mpr ⟨rfl, fun hmem => hname (List.mem_cons_of_mem _ hmem)⟩, rfl⟩

theorem splitAtClose?_eq_none_iff {cs : List Char} : splitAtClose? cs = none ↔ '\x7d' ∉ cs := by
  induction cs with
  | nil => simp [splitAtClose?]
  | cons c cs ih =>
    rw [splitAtClose?]
    by_cases hc : c = '\x7d'
    · simp [hc]
    · simp [hc, Ne.symm hc, ih]

theorem FirstReference.unique {cs before name after before' name' after' : List Char}
    (h : FirstReference cs before name after) (h' : FirstReference cs before' name' after') :
    before = before' ∧ name = name' ∧ after = after' := by
  have hlength : before.length = before'.length :=
    Nat.le_antisymm (h.first _ _ h'.text_eq) (h'.first _ _ h.text_eq)
  obtain ⟨rfl, hinside⟩ := List.append_inj (h.text_eq.symm.trans h'.text_eq) hlength
  simp only [List.cons.injEq, true_and] at hinside
  have hsplit : splitAtClose? (name ++ '\x7d' :: after) = some (name, after) :=
    splitAtClose?_eq_some_iff.mpr ⟨rfl, h.close⟩
  rw [splitAtClose?_eq_some_iff.mpr ⟨hinside, h'.close⟩] at hsplit
  cases hsplit
  exact ⟨rfl, rfl, rfl⟩

theorem nextReference?_eq_none_iff {cs : List Char} : nextReference? cs = none ↔
    ∀ before name after, cs ≠ before ++ '\x7b' :: '$' :: (name ++ '\x7d' :: after) := by
  induction cs using nextReference?.induct with
  | case1 cs =>
    rw [nextReference?, Option.map_eq_none_iff, splitAtClose?_eq_none_iff]
    constructor
    · rintro hclose before name after htext
      have hmem : '\x7d' ∈ '\x7b' :: '$' :: cs := by
        rw [htext]
        simp
      exact hclose (by simpa using hmem)
    · intro hnone hclose
      obtain ⟨name, after, rfl⟩ := List.append_of_mem hclose
      exact hnone [] name after rfl
  | case2 c cs hopen ih =>
    rw [nextReference?, Option.map_eq_none_iff, ih]
    · constructor
      · rintro hnone (_ | ⟨d, before⟩) name after htext
        · cases htext
          exact hopen _ rfl rfl
        · cases htext
          exact hnone before name after rfl
      · rintro hnone before name after rfl
        exact hnone (c :: before) name after rfl
    · exact hopen
  | case3 => simp [nextReference?]

theorem firstReference_of_nextReference? {cs before name after : List Char}
    (h : nextReference? cs = some (before, name, after)) : FirstReference cs before name after := by
  induction cs using nextReference?.induct generalizing before with
  | case1 cs =>
    rw [nextReference?, Option.map_eq_some_iff] at h
    obtain ⟨⟨name', after'⟩, hsplit, heq⟩ := h
    cases heq
    obtain ⟨rfl, hname⟩ := splitAtClose?_eq_some_iff.mp hsplit
    exact ⟨rfl, fun _ _ _ => Nat.zero_le _, hname⟩
  | case2 c cs hopen ih =>
    rw [nextReference?, Option.map_eq_some_iff] at h
    · obtain ⟨⟨before', rest⟩, hnext, heq⟩ := h
      cases heq
      obtain ⟨htail, hfirst, hname⟩ := ih hnext
      refine ⟨by rw [htail, List.cons_append], ?_, hname⟩
      rintro (_ | ⟨d, front⟩) inside htext
      · cases htext
        exact (hopen _ rfl rfl).elim
      · cases htext
        exact Nat.succ_le_succ (hfirst front inside rfl)
    · exact hopen
  | case3 => cases h

theorem nextReference?_eq_some_iff {cs before name after : List Char} :
    nextReference? cs = some (before, name, after) ↔ FirstReference cs before name after := by
  refine ⟨firstReference_of_nextReference?, fun h => ?_⟩
  cases hnext : nextReference? cs with
  | none => exact absurd h.text_eq (nextReference?_eq_none_iff.mp hnext before name after)
  | some found =>
    obtain ⟨rfl, rfl, rfl⟩ := h.unique (firstReference_of_nextReference? hnext)
    rfl

/-- An opening with no closing brace behind it starts no reference, and neither does one behind. -/
theorem nextReference?_of_not_closed {cs before inside : List Char}
    (htext : cs = before ++ '\x7b' :: '$' :: inside)
    (hfirst : ∀ front back, cs = front ++ '\x7b' :: '$' :: back → before.length ≤ front.length)
    (hclose : '\x7d' ∉ inside) : nextReference? cs = none := by
  rw [nextReference?_eq_none_iff]
  intro front name after heq
  have hle := hfirst front _ heq
  -- The rest from the later opening on is a suffix of the rest from the first one on.
  have hsuffix : '\x7b' :: '$' :: (name ++ '\x7d' :: after) <:+ '\x7b' :: '$' :: inside := by
    refine List.suffix_of_suffix_length_le ⟨front, heq.symm⟩ ⟨before, htext.symm⟩ ?_
    have hlength := congrArg List.length (htext.symm.trans heq)
    rw [List.length_append, List.length_append] at hlength
    omega
  have hmem : '\x7d' ∈ '\x7b' :: '$' :: inside := hsuffix.subset (by simp)
  exact hclose (by simpa using hmem)

/-! ### All references -/

theorem ofChars_of_plain {cs : List Char} (h : nextReference? cs = none) :
    ofChars cs = { references := [], tail := String.ofList cs } := by
  rw [ofChars]
  split
  · rfl
  · rename_i hsome
    cases h.symm.trans hsome

theorem ofChars_of_reference {cs before name after : List Char}
    (h : nextReference? cs = some (before, name, after)) :
    ofChars cs =
      { references := (String.ofList before, String.ofList name) :: (ofChars after).references
        tail := (ofChars after).tail } := by
  rw [ofChars]
  split
  · rename_i hnone
    cases h.symm.trans hnone
  · rename_i hsome
    cases h.symm.trans hsome
    rfl

theorem cuts_ofChars (cs : List Char) : Cuts cs (ofChars cs) := by
  induction hn : cs.length using Nat.strongRecOn generalizing cs with
  | ind n ih =>
  subst hn
  cases hnext : nextReference? cs with
  | none =>
    rw [ofChars_of_plain hnext]
    exact .plain (nextReference?_eq_none_iff.mp hnext)
  | some found =>
    obtain ⟨before, name, after⟩ := found
    rw [ofChars_of_reference hnext]
    exact .reference (nextReference?_eq_some_iff.mp hnext)
      (ih _ (length_nextReference?_lt hnext) after rfl)

/-- There is one way to cut a text at its references. -/
theorem cuts_iff {cs : List Char} {template : Template} :
    Cuts cs template ↔ template = ofChars cs := by
  constructor
  · intro h
    induction h with
    | plain h => rw [ofChars_of_plain (nextReference?_eq_none_iff.mpr h)]
    | reference hfirst _ ih =>
      rw [ofChars_of_reference (nextReference?_eq_some_iff.mpr hfirst), ih]
  · rintro rfl
    exact cuts_ofChars cs

/-- Nothing is lost by the cut. -/
theorem Cuts.fill_references {cs : List Char} {template : Template} (h : Cuts cs template) :
    template.fill (template.references.map fun reference => "\x7b$" ++ reference.2 ++ "\x7d") =
      String.ofList cs := by
  induction h with
  | plain => simp [fill]
  | reference hfirst _ ih =>
    rw [fill] at ih ⊢
    rw [List.map_cons, List.zipWith_cons_cons, String.join_cons, String.append_assoc, ih]
    apply String.toList_inj.mp
    simp [hfirst.text_eq]

end DocQuery.Template
