import DocQuery.Proofs.Program.Scope
import DocQuery.Proofs.Program.Walk

/-! What a name means.  From a field there are seen its earlier siblings and those of the fields
above it.  A name means the first of them that has it, among the siblings of the innermost field for
which there is one, so that it is never the field itself, one above it, one below it, or one that is
declared after any of those above it. -/

namespace DocQuery.Program

open Layout

variable {program : Program} {name : String} {a f g id p q x y : program.Id}

/-- `a` is `id` or lies above it. -/
def Encloses : program.Id → program.Id → Prop :=
  Relation.ReflTransGen fun q c => (program.tree.slot c).parent = some q

/-- `f` is the first field of a name among the children of the parent of `a` that come before
`a`. -/
def FirstBefore (name : String) (a f : program.Id) : Prop :=
  ∃ p before after, (program.tree.slot a).parent = some p ∧
    (program.tree.slot p).children = before ++ a :: after ∧
    before.find? (fun s => (program.field s).name == name) = some f

/-- Seen from `id`, a name means `f`: it is the first before the innermost enclosing field that has
any before it. -/
def Means (id : program.Id) (name : String) (f : program.Id) : Prop :=
  ∃ a, Encloses a id ∧ FirstBefore name a f ∧
    ∀ b, Encloses b id → (∃ g, FirstBefore name b g) → Encloses b a

namespace Encloses

theorem le (h : Encloses a id) : a ≤ id := by
  induction h with
  | refl => exact le_rfl
  | tail _ hparent ih => exact ih.trans (lt_of_parent hparent).le

theorem stop_le (h : Encloses a id) : program.tree.stop id ≤ program.tree.stop a := by
  induction h with
  | refl => exact le_rfl
  | tail _ hparent ih => exact (stop_le_of_parent hparent).trans ih

theorem lt_stop (h : Encloses a id) : id.val < program.tree.stop a :=
  (Layout.lt_stop id).trans_le h.stop_le

theorem eq_or_parent (h : Encloses a id) (hparent : (program.tree.slot id).parent = some q) :
    a = id ∨ Encloses a q := by
  rcases h.cases_tail with heq | ⟨q', hq, hparent'⟩
  · exact .inl heq.symm
  · obtain rfl : q' = q := Option.some.inj (hparent'.symm.trans hparent)
    exact .inr hq

theorem eq_of_top (h : Encloses a id) (htop : (program.tree.slot id).parent = none) : a = id := by
  rcases h.cases_tail with heq | ⟨q, -, hparent⟩
  · exact heq.symm
  · cases htop.symm.trans hparent

end Encloses

/-- Siblings are in the order of their numbers. -/
theorem pairwise_of_split {before after : List program.Id}
    (h : (program.tree.slot p).children = before ++ x :: after) :
    (∀ s ∈ before, s < x) ∧ ∀ s ∈ after, x < s := by
  have hsorted := pairwise_children p
  rw [h, List.pairwise_append, List.pairwise_cons] at hsorted
  obtain ⟨-, ⟨hafter, -⟩, hbefore⟩ := hsorted
  exact ⟨fun s hs => hbefore s hs x List.mem_cons_self, hafter⟩

theorem findBefore_append {before after : List program.Id} (h : id ∉ before) :
    findBefore id name (before ++ id :: after) =
      before.find? fun s => (program.field s).name == name := by
  induction before with
  | nil => rw [List.nil_append, findBefore, if_pos rfl, List.find?_nil]
  | cons s before ih =>
    rw [List.mem_cons, not_or] at h
    rw [List.cons_append, findBefore, if_neg (Ne.symm h.1), ih h.2, List.find?_cons]
    cases (program.field s).name == name <;> rfl

theorem siblingBefore?_eq_some_iff : siblingBefore? a name = some f ↔ FirstBefore name a f := by
  rw [siblingBefore?]
  constructor
  · intro h
    split at h
    · cases h
    · rename_i p hparent
      obtain ⟨before, after, hsplit⟩ := List.append_of_mem (mem_children_iff.mpr hparent)
      have hbefore : a ∉ before := fun ha => lt_irrefl a ((pairwise_of_split hsplit).1 a ha)
      rw [hsplit, findBefore_append hbefore] at h
      exact ⟨p, before, after, hparent, hsplit, h⟩
  · rintro ⟨p, before, after, hparent, hsplit, hfind⟩
    have hbefore : a ∉ before := fun ha => lt_irrefl a ((pairwise_of_split hsplit).1 a ha)
    rw [hparent]
    dsimp only
    rw [hsplit, findBefore_append hbefore, hfind]

theorem siblingBefore?_eq_none_iff : siblingBefore? a name = none ↔ ∀ f, ¬FirstBefore name a f := by
  simp only [← siblingBefore?_eq_some_iff, Option.eq_none_iff_forall_ne_some, ne_eq]

/-- A name is looked up among the earlier siblings, and then from the parent. -/
theorem map_val_lookup (id : program.Id) (name : String) :
    (program.lookup id name).map Subtype.val =
      (siblingBefore? id name).or
        ((program.tree.slot id).parent.bind fun q => (program.lookup q name).map Subtype.val) := by
  have hwalk : lookupWithin name (id.val + 1) id = _ := lookupWithin_eq (Nat.lt_succ_self _)
  rw [lookupWithin] at hwalk
  split at hwalk
  · rename_i f hf
    rw [hf, ← Option.some.inj hwalk]
    rfl
  · rename_i hnone
    rw [hnone, Option.none_or]
    split at hwalk
    · rename_i hparent
      rw [hparent, ← Option.some.inj hwalk]
      rfl
    · rename_i q hparent
      rw [lookupWithin_eq (lt_of_parent hparent)] at hwalk
      rw [hparent, ← Option.some.inj hwalk]
      rfl

/-- Where a name is not found before a field, it means what it means for the parent. -/
theorem means_iff_of_parent (hnone : ∀ g, ¬FirstBefore name id g)
    (hparent : (program.tree.slot id).parent = some q) : Means id name f ↔ Means q name f := by
  have habove : ∀ {b}, Encloses b id → (∃ g, FirstBefore name b g) → Encloses b q := by
    rintro b hb ⟨g, hg⟩
    rcases hb.eq_or_parent hparent with rfl | hq
    · exact absurd hg (hnone g)
    · exact hq
  constructor
  · rintro ⟨a, ha, hf, hinner⟩
    exact ⟨a, habove ha ⟨f, hf⟩, hf, fun b hb => hinner b (hb.tail hparent)⟩
  · rintro ⟨a, ha, hf, hinner⟩
    exact ⟨a, ha.tail hparent, hf, fun b hb hg => hinner b (habove hb hg) hg⟩

theorem means_iff_of_firstBefore (h : FirstBefore name id g) : Means id name f ↔ g = f := by
  constructor
  · rintro ⟨a, ha, hf, hinner⟩
    obtain rfl : a = id := le_antisymm ha.le (hinner id .refl ⟨g, h⟩).le
    rw [← siblingBefore?_eq_some_iff] at h hf
    exact Option.some.inj (h.symm.trans hf)
  · rintro rfl
    exact ⟨id, .refl, h, fun b hb _ => hb⟩

theorem lookup_eq_some_iff_means :
    (program.lookup id name).map Subtype.val = some f ↔ Means id name f := by
  induction id using WellFoundedLT.induction with
  | ind id ih =>
  rw [map_val_lookup]
  cases hsibling : siblingBefore? id name with
  | some g =>
    rw [Option.some_or, Option.some.injEq,
      means_iff_of_firstBefore (siblingBefore?_eq_some_iff.mp hsibling)]
  | none =>
    rw [siblingBefore?_eq_none_iff] at hsibling
    rw [Option.none_or]
    cases hparent : (program.tree.slot id).parent with
    | none =>
      refine iff_of_false (nomatch ·) ?_
      rintro ⟨a, ha, hf, -⟩
      obtain rfl := ha.eq_of_top hparent
      exact hsibling f hf
    | some q =>
      rw [Option.bind_some, ih q (lt_of_parent hparent), means_iff_of_parent hsibling hparent]

theorem lookup_eq_none_iff_firstBefore :
    program.lookup id name = none ↔ ∀ a, Encloses a id → ∀ f, ¬FirstBefore name a f := by
  rw [← Option.map_eq_none_iff (f := Subtype.val)]
  induction id using WellFoundedLT.induction with
  | ind id ih =>
  rw [map_val_lookup, Option.or_eq_none_iff, siblingBefore?_eq_none_iff]
  cases hparent : (program.tree.slot id).parent with
  | none =>
    constructor
    · rintro ⟨hnone, -⟩ a ha
      obtain rfl := ha.eq_of_top hparent
      exact hnone
    · exact fun h => ⟨h id .refl, rfl⟩
  | some q =>
    rw [Option.bind_some, ih q (lt_of_parent hparent)]
    constructor
    · rintro ⟨hnone, habove⟩ a ha
      rcases ha.eq_or_parent hparent with rfl | hq
      · exact hnone
      · exact habove a hq
    · exact fun h => ⟨h id .refl, fun a ha => h a (ha.tail hparent)⟩

namespace FirstBefore

theorem siblings (h : FirstBefore name a f) :
    ∃ p, (program.tree.slot f).parent = some p ∧ (program.tree.slot a).parent = some p ∧ f < a := by
  obtain ⟨p, before, after, hparent, hsplit, hfind⟩ := h
  have hf := List.mem_of_find?_eq_some hfind
  have hchild : f ∈ (program.tree.slot p).children := by
    rw [hsplit]
    exact List.mem_append_left _ hf
  exact ⟨p, mem_children_iff.mp hchild, hparent, (pairwise_of_split hsplit).1 f hf⟩

theorem stop_le (h : FirstBefore name a f) : program.tree.stop f ≤ a.val := by
  obtain ⟨p, hf, ha, hlt⟩ := h.siblings
  exact stop_le_of_between ha (lt_of_parent hf) hlt

end FirstBefore

/-- What is declared after a field that encloses another one is declared after the latter. -/
theorem lt_of_mem_after {before after : List program.Id} (hx : Encloses x id)
    (hsplit : (program.tree.slot p).children = before ++ x :: after) (hy : y ∈ after) : id < y := by
  have hmem : ∀ s ∈ x :: after, (program.tree.slot s).parent = some p := by
    intro s hs
    rw [← mem_children_iff, hsplit]
    exact List.mem_append_right before hs
  have hstop := stop_le_of_between (hmem y (List.mem_cons_of_mem x hy))
    (lt_of_parent (hmem x List.mem_cons_self)) ((pairwise_of_split hsplit).2 y hy)
  exact Nat.lt_of_lt_of_le hx.lt_stop hstop

/-- A name is looked up in the scopes around a field, from the inside out, and within each in the
order of declaration. -/
theorem lookup_lexical (id : program.Id) (name : String) :
    lookupWithin name (id.val + 1) id = some ((program.lookup id name).map Subtype.val) ∧
    (∀ f, (program.lookup id name).map Subtype.val = some f ↔ Means id name f) ∧
    (program.lookup id name = none ↔ ∀ a, Encloses a id → ∀ f, ¬FirstBefore name a f) ∧
    ∀ f, Means id name f →
      f < id ∧ f ≠ id ∧ ¬Encloses f id ∧ ¬Encloses id f ∧
      ∀ x p before after, Encloses x id →
        (program.tree.slot p).children = before ++ x :: after → f ∉ after := by
  refine ⟨lookupWithin_eq (Nat.lt_succ_self _), fun f => lookup_eq_some_iff_means,
    lookup_eq_none_iff_firstBefore, ?_⟩
  rintro f ⟨a, ha, hf, -⟩
  have hstop := hf.stop_le
  have hlt : f < id := by
    obtain ⟨p, -, -, hfa⟩ := hf.siblings
    exact hfa.trans_le ha.le
  refine ⟨hlt, hlt.ne, fun habove => ?_, fun hbelow => hlt.not_ge hbelow.le, ?_⟩
  · exact absurd (hstop.trans ha.le) (Nat.not_le_of_gt habove.lt_stop)
  · intro x p before after hx hsplit hafter
    exact lt_asymm hlt (lt_of_mem_after hx hsplit hafter)

/-- The fields of `{ a c { a b { d } } }`. -/
def shadowed : Program :=
  .ofFields .object (.cons ⟨"a", .text, []⟩ .nil (.cons ⟨"c", .object, []⟩
    (.cons ⟨"a", .text, []⟩ .nil (.cons ⟨"b", .object, []⟩ (.cons ⟨"d", .text, []⟩ .nil .nil) .nil))
    .nil))

example :
    ([⟨5, by decide⟩, ⟨3, by decide⟩, ⟨1, by decide⟩] : List shadowed.Id).map
      (fun id => (shadowed.lookup id "a").map (·.val.val)) = [some 3, some 1, none] := by cbv

end DocQuery.Program
