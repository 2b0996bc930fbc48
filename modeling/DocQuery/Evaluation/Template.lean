/-! Templates.  An argument can refer to fields: a reference is a dollar sign behind an opening
brace, a name, and the first closing brace after it.  Where no closing brace follows, the rest is
plain text. -/

namespace DocQuery

/-- A text cut at its references: each of them with the plain text before it, and the plain text
after the last. -/
structure Template where
  references : List (String × String)
  tail : String
  deriving DecidableEq, Repr

namespace Template

/-- The characters before the first closing brace and those after it. -/
def splitAtClose? : List Char → Option (List Char × List Char)
  | [] => none
  | c :: cs =>
    if c = '\x7d' then some ([], cs)
    else (splitAtClose? cs).map fun (before, after) => (c :: before, after)

/-- The first reference: the characters before it, its name, and the characters after it. -/
def nextReference? : List Char → Option (List Char × List Char × List Char)
  | '\x7b' :: '$' :: cs => (splitAtClose? cs).map fun (name, after) => ([], name, after)
  | c :: cs => (nextReference? cs).map fun (before, rest) => (c :: before, rest)
  | [] => none

theorem length_splitAtClose?_lt {cs before after : List Char}
    (h : splitAtClose? cs = some (before, after)) : after.length < cs.length := by
  induction cs generalizing before with
  | nil => simp [splitAtClose?] at h
  | cons c cs ih =>
    simp only [splitAtClose?] at h
    split at h
    · simp only [Option.some.injEq, Prod.mk.injEq] at h
      simp [← h.2]
    · simp only [Option.map_eq_some_iff, Prod.exists, Prod.mk.injEq] at h
      obtain ⟨b, a, h, _, rfl⟩ := h
      exact Nat.lt_succ_of_lt (ih h)

/-- What follows a reference is shorter than the text. -/
theorem length_nextReference?_lt {cs before name after : List Char}
    (h : nextReference? cs = some (before, name, after)) : after.length < cs.length := by
  induction cs using nextReference?.induct generalizing before with
  | case1 cs =>
    simp only [nextReference?, Option.map_eq_some_iff, Prod.exists, Prod.mk.injEq] at h
    obtain ⟨n, a, h, _, _, rfl⟩ := h
    have := length_splitAtClose?_lt h
    simp only [List.length_cons]
    omega
  | case2 c cs _ ih =>
    simp only [nextReference?, Option.map_eq_some_iff, Prod.exists, Prod.mk.injEq] at h
    obtain ⟨b, n, a, h, _, rfl, rfl⟩ := h
    exact Nat.lt_succ_of_lt (ih h)
  | case3 => simp [nextReference?] at h

/-- Cuts characters at their references. -/
def ofChars (cs : List Char) : Template :=
  match _h : nextReference? cs with
  | none => { references := [], tail := String.ofList cs }
  | some (before, name, after) =>
    let rest := ofChars after
    { rest with references := (String.ofList before, String.ofList name) :: rest.references }
termination_by cs.length
decreasing_by exact length_nextReference?_lt _h

/-- Cuts a text at its references. -/
def ofText (text : String) : Template := ofChars text.toList

end Template

end DocQuery
