import DocQuery.Proofs.Evaluation.Reference
import DocQuery.Proofs.Program.Lookup
import DocQuery.Proofs.Tree.Ancestry

/-! From where a field can be reached.  A name means an earlier sibling of the field that uses it or
of one above that, so that a field is referred to from below its own parent only, and from a field
behind a subtree neither parents nor references lead into that subtree. -/

namespace DocQuery

open Layout

variable {program : Program} {b f n q y z : program.Id}

namespace Program

theorem parent_eq_some_iff :
    (program.tree.slot y).parent = some q ↔ ∃ hq, program.parent y = some ⟨q, hq⟩ := by
  rw [← map_val_parent, Option.map_eq_some_iff]
  constructor
  · rintro ⟨⟨q, hq⟩, hparent, rfl⟩
    exact ⟨hq, hparent⟩
  · rintro ⟨hq, hparent⟩
    exact ⟨⟨q, hq⟩, hparent, rfl⟩

theorem parent_of_mem_children {c : { c : program.Id // y < c }} (hc : c ∈ program.children y) :
    (program.tree.slot c.val).parent = some y := by
  rw [← mem_children_iff, ← map_val_children]
  exact List.mem_map_of_mem hc

/-- A field below another one lies in the subtree of one of its children.  The children before that
one end before it, and those after it begin behind it. -/
theorem exists_split_children (hid : y < n) (hn : n.val < program.tree.stop y) :
    ∃ before c after, program.children y = before ++ c :: after ∧
      (c.val ≤ n ∧ n.val < program.tree.stop c.val) ∧
      (∀ b ∈ before, program.tree.stop b.val ≤ c.val.val) ∧
      ∀ a ∈ after, program.tree.stop c.val ≤ a.val.val := by
  obtain ⟨c, hc, hcn⟩ := exists_child_of_lt hid hn
  have hmem : c ∈ (program.children y).map Subtype.val := by
    rw [children, map_val_children]
    exact mem_children_iff.mpr hc
  obtain ⟨c, hchild, rfl⟩ := List.mem_map.mp hmem
  obtain ⟨before, after, hsplit⟩ := List.append_of_mem hchild
  have hsorted : ((program.children y).map Subtype.val).Pairwise (· < ·) := by
    rw [children, map_val_children]
    exact pairwise_children y
  rw [hsplit, List.pairwise_map, List.pairwise_append, List.pairwise_cons] at hsorted
  obtain ⟨-, ⟨hafter, -⟩, hbefore⟩ := hsorted
  refine ⟨before, c, after, hsplit, hcn, fun b hb => ?_, fun a ha => ?_⟩
  · exact stop_le_of_between hc b.property (hbefore b hb c List.mem_cons_self)
  · have hparent : (program.tree.slot a.val).parent = some y :=
      parent_of_mem_children (hsplit ▸ List.mem_append_right before (List.mem_cons_of_mem c ha))
    exact stop_le_of_between hparent c.property (hafter a ha)

/-- The parent of a field that a name means lies above the field that uses the name. -/
theorem exists_parent_of_lookup {name : String} {f : { f : program.Id // f < y }}
    (h : program.lookup y name = some f) :
    ∃ p, (program.tree.slot f.val).parent = some p ∧ p < y ∧ y.val < program.tree.stop p := by
  induction hn : y.val using Nat.strongRecOn generalizing y with
  | ind k ih =>
  subst hn
  rw [lookup] at h
  split at h
  · rename_i found hfound
    cases h
    have hmem := List.mem_of_find?_eq_some hfound
    rw [earlierSiblings] at hmem
    split at hmem
    · cases hmem
    · rename_i q hq hparent
      obtain ⟨c, hc, hcf⟩ := List.mem_filterMap.mp hmem
      split at hcf
      · cases hcf
        refine ⟨q, parent_of_mem_children hc, hq, ?_⟩
        have hy := parent_eq_some_iff.mpr ⟨hq, hparent⟩
        exact Nat.lt_of_lt_of_le (lt_stop y) (stop_le_of_parent hy)
      · cases hcf
  · split at h
    · cases h
    · rename_i q hq hparent
      obtain ⟨g, hg, rfl⟩ := Option.map_eq_some_iff.mp h
      obtain ⟨p, hp, hpq, hqp⟩ := ih q.val hq hg rfl
      have hy := parent_eq_some_iff.mpr ⟨hq, hparent⟩
      refine ⟨p, hp, hpq.trans hq, ?_⟩
      have hstop := stop_le_stop hpq.le hqp
      exact Nat.lt_of_lt_of_le (lt_stop y) (Nat.le_trans (stop_le_of_parent hy) hstop)

end Program

namespace Reference

/-- A field that an argument refers to has been looked up. -/
theorem exists_lookup_of_mem_references {arg : String} {f : { f : program.Id // f < y }}
    (h : f ∈ references y arg) : ∃ name, program.lookup y name = some f := by
  obtain ⟨⟨before, name⟩, -, hname⟩ := List.mem_filterMap.mp h
  dsimp only at hname
  split at hname
  · cases hname
  · exact ⟨name, hname⟩

theorem exists_lookup_of_mem_callReferences {call : Call} {f : { f : program.Id // f < y }}
    (h : f ∈ callReferences y call) : ∃ name, program.lookup y name = some f := by
  rw [callReferences] at h
  split at h
  · obtain ⟨arg, -, harg⟩ := List.mem_flatMap.mp h
    exact exists_lookup_of_mem_references harg
  · split at h
    · rename_i target _
      split at h
      · cases h
      · exact ⟨target, Option.mem_toList.mp h⟩
    · cases h

end Reference

/-- A reference in the pipeline of a field. -/
def Refers (y f : program.Id) : Prop :=
  ∃ call ∈ (program.field y).pipeline, ∃ h, ⟨f, h⟩ ∈ Reference.callReferences y call

theorem Refers.lt (h : Refers y f) : f < y := by
  obtain ⟨_, _, hlt, _⟩ := h
  exact hlt

/-- A parent does not lie in a subtree that ends before its child. -/
theorem parent_apart (hstop : program.tree.stop b ≤ y.val)
    (hparent : (program.tree.slot y).parent = some q) : q < b ∨ program.tree.stop b ≤ q.val := by
  by_contra hin
  rw [not_or, not_lt, not_le] at hin
  have hle := stop_le_stop hin.1 hin.2
  have hlt := Nat.lt_of_lt_of_le (lt_stop y) (stop_le_of_parent hparent)
  omega

/-- Nor does a field that is referred to, unless it is the root of the subtree. -/
theorem reference_apart (hstop : program.tree.stop b ≤ y.val) (h : Refers y f) :
    f ≤ b ∨ program.tree.stop b ≤ f.val := by
  by_contra hin
  rw [not_or, not_le, not_le] at hin
  obtain ⟨call, -, hf, hmem⟩ := h
  obtain ⟨name, hname⟩ := Reference.exists_lookup_of_mem_callReferences hmem
  obtain ⟨p, hp, hpy, hyp⟩ := Program.exists_parent_of_lookup hname
  obtain ⟨p', hp', hbp, hpf⟩ := exists_parent_of_lt hin.1 hin.2
  obtain rfl : p' = p := Option.some.inj (hp'.symm.trans hp)
  have hle := stop_le_stop hbp (Nat.lt_trans hpf hin.2)
  omega

/-- Fields from which neither parents nor references lead to `n`: those before it, those behind
the subtree of its parent and, if no field refers to it, those behind its own subtree. -/
def Clear (n y : program.Id) : Prop :=
  y < n ∨ (∃ p, (program.tree.slot n).parent = some p ∧ program.tree.stop p ≤ y.val) ∨
    (∀ z, ¬Refers z n) ∧ program.tree.stop n ≤ y.val

namespace Clear

theorem of_le (h : Clear n y) (hny : n ≤ y) (hyz : y ≤ z) : Clear n z := by
  rcases h with hlt | ⟨p, hp, hstop⟩ | ⟨halone, hstop⟩
  · exact absurd hlt (not_lt.mpr hny)
  · exact .inr (.inl ⟨p, hp, Nat.le_trans hstop hyz⟩)
  · exact .inr (.inr ⟨halone, Nat.le_trans hstop hyz⟩)

theorem ne (h : Clear n y) : y ≠ n := by
  rintro rfl
  rcases h with hlt | ⟨p, hp, hstop⟩ | ⟨-, hstop⟩
  · exact lt_irrefl _ hlt
  · have hlt := Nat.lt_of_lt_of_le (lt_stop y) (stop_le_of_parent hp)
    omega
  · have hlt := lt_stop y
    omega

theorem parent (h : Clear n y) (hparent : (program.tree.slot y).parent = some q) : Clear n q := by
  have hqy := lt_of_parent hparent
  rcases h with hlt | ⟨p, hp, hstop⟩ | ⟨halone, hstop⟩
  · exact .inl (hqy.trans hlt)
  · rcases parent_apart hstop hparent with hlt | hle
    · exact .inl (hlt.trans (lt_of_parent hp))
    · exact .inr (.inl ⟨p, hp, hle⟩)
  · rcases parent_apart hstop hparent with hlt | hle
    · exact .inl hlt
    · exact .inr (.inr ⟨halone, hle⟩)

theorem reference (h : Clear n y) (href : Refers y f) : Clear n f := by
  rcases h with hlt | ⟨p, hp, hstop⟩ | ⟨halone, hstop⟩
  · exact .inl (href.lt.trans hlt)
  · rcases reference_apart hstop href with hle | hle
    · exact .inl (lt_of_le_of_lt hle (lt_of_parent hp))
    · exact .inr (.inl ⟨p, hp, hle⟩)
  · rcases reference_apart hstop href with hle | hle
    · rcases hle.eq_or_lt with rfl | hlt
      · exact absurd href (halone y)
      · exact .inl hlt
    · exact .inr (.inr ⟨halone, hle⟩)

end Clear

end DocQuery
