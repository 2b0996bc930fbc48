import DocQuery.Program
import DocQuery.Proofs.Tree.Slots

/-! Fields of a program and what names mean among them.  A name means fields that correspond to each
other in two programs, if it is looked up from fields that do: their parents and their earlier
siblings have to correspond, and corresponding fields to have the same name. -/

namespace DocQuery.Program

variable {program : Program}

theorem field_root (program : Program) : program.field program.root = Field.root := by
  rw [← program.root_eq]
  exact program.tree.label_rootId

theorem parent_root (program : Program) : program.parent program.root = none := by
  have hslot : (program.tree.slot program.root).parent = none := by
    rw [root, Layout.slot_eq_getElem]
    rfl
  rw [← Layout.map_val_parent] at hslot
  exact Option.map_eq_none_iff.mp hslot

theorem name_of_lookup {id : program.Id} {name : String} {f : { f : program.Id // f < id }}
    (h : program.lookup id name = some f) : (program.field f.val).name = name := by
  induction hn : id.val using Nat.strongRecOn generalizing id with
  | ind n ih =>
  subst hn
  rw [lookup] at h
  split at h
  · rename_i found hfound
    cases h
    simpa using List.find?_some hfound
  · split at h
    · cases h
    · rename_i q hq _
      obtain ⟨g, hg, rfl⟩ := Option.map_eq_some_iff.mp h
      have hname := ih q.val hq hg rfl
      exact hname

theorem rel_map_iff {α β γ δ : Type} {R : γ → δ → Prop} {f : α → γ} {g : β → δ} {a : Option α}
    {b : Option β} :
    Option.Rel R (a.map f) (b.map g) ↔ Option.Rel (fun x y => R (f x) (g y)) a b := by
  constructor
  · intro h
    cases a <;> cases b <;> cases h
    · exact .none
    · exact .some ‹_›
  · rintro (_ | _)
    · exact .some ‹_›
    · exact .none

theorem rel_find? {α β : Type} {R : α → β → Prop} {p : α → Bool} {q : β → Bool} {xs : List α}
    {ys : List β} (h : List.Forall₂ R xs ys) (hpq : ∀ x y, R x y → p x = q y) :
    Option.Rel R (xs.find? p) (ys.find? q) := by
  induction h with
  | nil => exact .none
  | @cons x y xs ys hxy _ ih =>
    rw [List.find?_cons, List.find?_cons, hpq x y hxy]
    cases q y with
    | true => exact .some hxy
    | false => exact ih

section Correspondence

variable {other : Program}

theorem parent_rel {T : program.Id → other.Id → Prop} {x : program.Id} {y : other.Id}
    (h : ∃ p q, (program.tree.slot x).parent = some p ∧ (other.tree.slot y).parent = some q ∧
      T p q) :
    ∃ p q, program.parent x = some p ∧ other.parent y = some q ∧ T p.val q.val := by
  obtain ⟨p, q, hp, hq, hpq⟩ := h
  rw [← Layout.map_val_parent, Option.map_eq_some_iff] at hp hq
  obtain ⟨p, hp, rfl⟩ := hp
  obtain ⟨q, hq, rfl⟩ := hq
  exact ⟨p, q, hp, hq, hpq⟩

theorem children_rel {R : program.Id → other.Id → Prop} {x : program.Id} {y : other.Id}
    (h : List.Forall₂ R (program.tree.slot x).children (other.tree.slot y).children) :
    List.Forall₂ (fun c d => R c.val d.val) (program.children x) (other.children y) := by
  rw [← Layout.map_val_children, ← Layout.map_val_children] at h
  exact List.forall₂_map_left_iff.mp (List.forall₂_map_right_iff.mp h)

variable {T S : program.Id → other.Id → Prop}

theorem earlierSiblings_rel_of_parent {x : program.Id} {y : other.Id}
    (hparent : Option.Rel (fun p q => T p.val q.val) (program.parent x) (other.parent y))
    (hchildren : ∀ p q, T p q →
      List.Forall₂ (fun c d => S c.val d.val) (program.children p) (other.children q))
    (horder : ∀ c d, S c d → (c < x ↔ d < y)) :
    List.Forall₂ (fun c d => S c.val d.val) (program.earlierSiblings x)
      (other.earlierSiblings y) := by
  rw [earlierSiblings, earlierSiblings]
  generalize program.parent x = p at hparent
  generalize other.parent y = q at hparent
  cases hparent with
  | none => exact .nil
  | @some p q hpq =>
    refine List.rel_filterMap (fun c d hcd => ?_) (hchildren p.val q.val hpq)
    by_cases hlt : c.val < x
    · rw [dif_pos hlt, dif_pos ((horder _ _ hcd).mp hlt)]
      exact .some hcd
    · rw [dif_neg hlt, dif_neg (mt (horder _ _ hcd).mpr hlt)]
      exact .none

/-- Where a name means nothing to two fields, their parents do not matter. -/
theorem lookup_rel_of_parent {name : String}
    (hparent : ∀ x y, T x y →
      (program.lookup x name = none ∧ other.lookup y name = none) ∨
        Option.Rel (fun p q => T p.val q.val) (program.parent x) (other.parent y))
    (hchildren : ∀ x y, T x y →
      List.Forall₂ (fun c d => S c.val d.val) (program.children x) (other.children y))
    (horder : ∀ c d x y, S c d → T x y → (c < x ↔ d < y))
    (hname : ∀ x y, S x y → (program.field x).name = (other.field y).name)
    {x : program.Id} {y : other.Id} (h : T x y) :
    Option.Rel (fun f g => S f.val g.val) (program.lookup x name) (other.lookup y name) := by
  -- Where no earlier sibling has the name, it means what it means for the parent.
  induction hn : x.val using Nat.strongRecOn generalizing x y with
  | ind n ih =>
  subst hn
  rcases hparent x y h with ⟨hx, hy⟩ | hrel
  · rw [hx, hy]
    exact .none
  have hsiblings := earlierSiblings_rel_of_parent hrel hchildren fun c d hcd => horder c d x y hcd h
  have hfind : Option.Rel (fun f g => S f.val g.val)
      ((program.earlierSiblings x).find? fun s => (program.field s.val).name == name)
      ((other.earlierSiblings y).find? fun s => (other.field s.val).name == name) :=
    rel_find? hsiblings fun f g hfg => by rw [hname _ _ hfg]
  rw [lookup, lookup]
  generalize (program.earlierSiblings x).find? _ = found at hfind
  generalize (other.earlierSiblings y).find? _ = found' at hfind
  cases hfind with
  | some hfg => exact .some hfg
  | none =>
  generalize program.parent x = p at hrel
  generalize other.parent y = q at hrel
  cases hrel with
  | none => exact .none
  | @some p q hpq => exact rel_map_iff.mpr (ih p.val.val p.property hpq rfl)

theorem lookup_rel
    (hparent : ∀ x y, T x y →
      Option.Rel (fun p q => T p.val q.val) (program.parent x) (other.parent y))
    (hchildren : ∀ x y, T x y →
      List.Forall₂ (fun c d => S c.val d.val) (program.children x) (other.children y))
    (horder : ∀ c d x y, S c d → T x y → (c < x ↔ d < y))
    (hname : ∀ x y, S x y → (program.field x).name = (other.field y).name)
    (name : String) {x : program.Id} {y : other.Id} (h : T x y) :
    Option.Rel (fun f g => S f.val g.val) (program.lookup x name) (other.lookup y name) :=
  lookup_rel_of_parent (fun x y hxy => .inr (hparent x y hxy)) hchildren horder hname h

end Correspondence

end DocQuery.Program
