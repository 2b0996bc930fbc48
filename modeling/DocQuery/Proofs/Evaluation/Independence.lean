import DocQuery.Proofs.Evaluation.Likeness
import DocQuery.Proofs.Evaluation.Run
import DocQuery.Proofs.Tree.Replacement
import DocQuery.Proofs.Value.Projection

/-! Fields that do not depend on each other.  Where one top-level field of a program is declared
anew, with another pipeline, another type and other children but the same name, the fields declared
before it keep their values, since a name means a field that is declared earlier.  The fields behind
it keep theirs if nothing in them refers to it. -/

namespace DocQuery

open Evaluating

section Replacement

variable {program other : Program} {before children children' after : Forest Field}
  {field field' : Field} {p m m' : Nat}
  (hprogram : program.tree.below = before ++ .cons field children after)
  (hother : other.tree.below = before ++ .cons field' children' after)
  (hp : p = 1 + before.size) (hm : m = 1 + children.size) (hm' : m' = 1 + children'.size)
include hprogram hother hp hm hm'

/-- A name means corresponding fields in both programs, the field that is declared anew included. -/
theorem lookup_rel_of_anew (hname : field.name = field'.name) (name : String) {x : program.Id}
    {y : other.Id} (h : Before p x.val y.val ∨ Behind p m m' x.val y.val) :
    Option.Rel (fun f g => (Before p f.val.val g.val.val ∨ Behind p m m' f.val.val g.val.val) ∨
      f.val.val = p ∧ g.val.val = p) (program.lookup x name) (other.lookup y name) := by
  let T (x : program.Id) (y : other.Id) : Prop :=
    x.val = 0 ∧ y.val = 0 ∨ Before p x.val y.val ∨ Behind p m m' x.val y.val
  let S (x : program.Id) (y : other.Id) : Prop :=
    (Before p x.val y.val ∨ Behind p m m' x.val y.val) ∨ x.val = p ∧ y.val = p
  have hslots : ∀ x y, Before p x.val y.val ∨ Behind p m m' x.val y.val →
      Slot.Alike T S (program.tree.slot x) (other.tree.slot y) := by
    rintro x y (hxy | hxy)
    · exact (Layout.alike_of_before hprogram hother hp hxy).mono (fun _ _ => Or.imp_right .inl)
        fun _ _ h => .inl (.inl h)
    · exact (Layout.alike_of_behind hprogram hother hp hm hm' hxy).mono
        (fun _ _ => Or.imp_right .inr) fun _ _ h => .inl (.inr h)
  have hroot : ∀ {x : program.Id} {y : other.Id}, x.val = 0 → y.val = 0 →
      x = program.root ∧ y = other.root := fun hx hy => ⟨Fin.ext hx, Fin.ext hy⟩
  refine Program.lookup_rel (T := T) (S := S) ?_ ?_ ?_ ?_ name (.inr h)
  · rintro x y (⟨hx, hy⟩ | hxy)
    · obtain ⟨rfl, rfl⟩ := hroot hx hy
      rw [Program.parent_root, Program.parent_root]
      exact .none
    · obtain ⟨p, q, hp, hq, hpq⟩ := Program.parent_rel (hslots x y hxy).parent
      rw [hp, hq]
      exact .some hpq
  · rintro x y (⟨hx, hy⟩ | hxy)
    · obtain ⟨rfl, rfl⟩ := hroot hx hy
      obtain ⟨front, front', back, back', i, j, hchildren, hchildren', _, hi, hj, hfront, hback⟩ :=
        Layout.forall₂_top hprogram hother hp hm hm'
      refine Program.children_rel ?_
      rw [Program.root, Program.root, hchildren, hchildren']
      exact List.rel_append (hfront.imp fun _ _ h => .inl (.inl h))
        (.cons (.inr ⟨hi, hj⟩) (hback.imp fun _ _ h => .inl (.inr h)))
    · exact Program.children_rel (hslots x y hxy).children
  · intro c d x y hcd hxy
    simp only [S, T, Before, Behind, Fin.lt_def] at *
    omega
  · rintro x y (h | ⟨hx, hy⟩)
    · exact congrArg Field.name (hslots x y h).label
    · rw [Program.field, Program.field, Layout.label_middle hprogram hp hx,
        Layout.label_middle hother hp hy, hname]

/-- Fields that correspond to each other are alike, if the fields that they refer to correspond to
each other too. -/
theorem alike_of_anew (hname : field.name = field'.name) {R : Nat → Nat → Prop}
    (hR : ∀ x y, R x y → Before p x y ∨ Behind p m m' x y)
    (hslots : ∀ (x : program.Id) (y : other.Id), R x.val y.val →
      Slot.Alike (fun x y => x.val = 0 ∧ y.val = 0 ∨ R x.val y.val) (fun x y => R x.val y.val)
        (program.tree.slot x) (other.tree.slot y))
    (hlookup : ∀ (x : program.Id) (y : other.Id), R x.val y.val →
      ∀ call ∈ (program.field x).pipeline, ∀ f ∈ Reference.callReferences x call, ∀ g,
        (Before p f.val.val g ∨ Behind p m m' f.val.val g) ∨ f.val.val = p ∧ g = p →
          R f.val.val g) :
    Alike program.root other.root fun x y => R x.val y.val where
  field {x y} hxy := (hslots x y hxy).label
  unique {x y z w} hxy hzw := by
    have hxy := hR _ _ hxy
    have hzw := hR _ _ hzw
    simp only [Before, Behind, Fin.ext_iff] at *
    omega
  parent {x y} hxy := by
    obtain ⟨q, r, hq, hr, hqr⟩ := Program.parent_rel (hslots x y hxy).parent
    refine ⟨q, r, hq, hr, hqr.symm.imp_right fun h => ⟨Fin.ext h.1, Fin.ext h.2⟩⟩
  children {x y} hxy := Program.children_rel (hslots x y hxy).children
  lookup {x y} hxy call hcall name hmem := by
    have hrel := lookup_rel_of_anew hprogram hother hp hm hm' hname name (hR _ _ hxy)
    have href : ∀ f, program.lookup x name = some f → f ∈ Reference.callReferences x call := by
      intro f hf
      rw [Reference.callReferences_eq]
      exact List.mem_filterMap.mpr ⟨name, hmem, hf⟩
    generalize program.lookup x name = f at hrel href
    generalize other.lookup y name = g at hrel
    cases hrel with
    | none => exact .none
    | @some f g hfg => exact .some (hlookup x y hxy call hcall f (href f rfl) g.val.val hfg)

/-- The fields declared before the new one are alike. -/
theorem alike_before (hname : field.name = field'.name) :
    Alike program.root other.root fun x y => Before p x.val y.val := by
  refine alike_of_anew hprogram hother hp hm hm' hname (fun _ _ => .inl) (fun x y hxy => ?_) ?_
  · exact Layout.alike_of_before hprogram hother hp hxy
  · intro x y hxy call _ f _ g hfg
    -- A name means a field that is declared earlier.
    have hlt : f.val.val < x.val := f.property
    simp only [Before, Behind] at *
    omega

/-- So are those behind it, if nothing in them refers to it. -/
theorem alike_outside (hname : field.name = field'.name)
    (hfree : ∀ x : program.Id, x.val < p ∨ p + m ≤ x.val →
      ∀ call ∈ (program.field x).pipeline, ∀ f ∈ Reference.callReferences x call, f.val.val ≠ p) :
    Alike program.root other.root fun x y => Before p x.val y.val ∨ Behind p m m' x.val y.val := by
  refine alike_of_anew hprogram hother hp hm hm' hname (fun _ _ => id) (fun x y hxy => ?_) ?_
  · rcases hxy with hxy | hxy
    · exact (Layout.alike_of_before hprogram hother hp hxy).mono (fun _ _ => Or.imp_right .inl)
        fun _ _ => .inl
    · exact (Layout.alike_of_behind hprogram hother hp hm hm' hxy).mono
        (fun _ _ => Or.imp_right .inr) fun _ _ => .inr
  · intro x y hxy call hcall f hf g hfg
    have houtside : x.val < p ∨ p + m ≤ x.val := by
      simp only [Before, Behind] at hxy
      omega
    exact hfg.resolve_right fun h => hfree x houtside call hcall f hf h.1

end Replacement

namespace Program

variable (program : Program) (registry : Registry) (document : String)

def topNames : List String := program.topLevel.map fun c => (program.field c.val).name

/-- The names of the top-level fields with the values that a run gives them. -/
def topValues : List (String × Value) :=
  ((topLevelFields registry).run (.start program document)).1

/-- A field's name with its value outside every iteration. -/
def entry (id : program.Id) : String × Value :=
  ((program.field id).name, Reference.value registry (.start program document) id)

theorem topValues_eq : program.topValues registry document =
    (program.topLevel.map (·.val)).map (program.entry registry document) := by
  obtain ⟨_, hrun, _⟩ := computes_topLevelFields registry document (.start program document)
    (coherent_start registry document program.size)
  rw [topValues, hrun, List.map_map]
  rfl

theorem names_topValues :
    (program.topValues registry document).map (·.1) = program.topNames := by
  rw [topValues_eq, List.map_map, List.map_map, topNames]
  rfl

/-- The data of a run is made of the values of the top-level fields. -/
theorem data_eq_topValues : (program.run registry document).data =
    Value.projectTop program.shape (Value.ofFields (program.topValues registry document)) := by
  rw [(run_eq_reference program registry document).1, topValues_eq, List.map_map, Reference.data]
  rfl

end Program

theorem lookup_reverse_middle {front back : List (String × Value)} {name key : String}
    (value : Value) (hkey : key ≠ name) :
    (front ++ (name, value) :: back).reverse.lookup key =
      (back.reverse.lookup key).or (front.reverse.lookup key) := by
  rw [List.reverse_append, List.reverse_cons, List.append_assoc, List.lookup_append,
    List.singleton_append, Value.lookup_cons_eq_ite, if_neg hkey]

section Values

variable {program other : Program} (registry : Registry) (document : String)

theorem Alike.entry_eq {R : program.Id → other.Id → Prop}
    (h : Alike program.root other.root R) {x : program.Id} {y : other.Id} (hxy : R x y) :
    program.entry registry document x = other.entry registry document y := by
  have hagree : Agree registry program.root other.root R (.start program document)
      (.start other document) := by
    refine ⟨?_, fun {z w} hzw => ?_⟩
    · have hroot : Context.start program document program.root = some (.text document) := if_pos rfl
      have hroot' : Context.start other document other.root = some (.text document) := if_pos rfl
      rw [Reference.selection_of_here hroot, Reference.selection_of_here hroot']
    · obtain ⟨hlt, hlt'⟩ := h.base_lt hzw
      rw [Context.start, Context.start, if_neg hlt.ne', if_neg hlt'.ne']
  rw [Program.entry, Program.entry, h.field hxy, h.value_eq hagree hxy]

variable {before children children' after : Forest Field} {field field' : Field}
  (hprogram : program.tree.below = before ++ .cons field children after)
  (hother : other.tree.below = before ++ .cons field' children' after)
  (hname : field.name = field'.name)
include hprogram hother hname

/-- The values of two programs that differ in one top-level field. -/
theorem exists_topValues :
    ∃ front value value' back back',
      program.topValues registry document = front ++ (field.name, value) :: back ∧
      other.topValues registry document = front ++ (field.name, value') :: back' ∧
      front.length = before.width ∧ back.map (·.1) = back'.map (·.1) ∧
      ∀ i, program.topLevel[before.width]? = some i →
        (∀ c ∉ program.tree.subtree i.val, ∀ call ∈ (program.field c).pipeline,
          ∀ f ∈ Reference.callReferences c call, f.val ≠ i.val) → back = back' := by
  obtain ⟨front, front', back, back', i, j, hchildren, hchildren', hlength, hi, hj, hfront,
    hback⟩ := Layout.forall₂_top hprogram hother rfl rfl rfl
  have htop : program.topLevel.map (·.val) = front ++ i :: back :=
    (program.tree.map_val_children program.root).trans hchildren
  have htop' : other.topLevel.map (·.val) = front' ++ j :: back' :=
    (other.tree.map_val_children other.root).trans hchildren'
  have hnamei : (program.field i).name = field.name := by
    rw [Program.field, Layout.label_middle hprogram rfl hi]
  have hnamej : (other.field j).name = field.name := by
    rw [Program.field, Layout.label_middle hother rfl hj, hname]
  have hbefore : front.map (program.entry registry document) =
      front'.map (other.entry registry document) :=
    map_eq_of_forall₂ hfront fun _ _ =>
      (alike_before hprogram hother rfl rfl rfl hname).entry_eq registry document
  refine ⟨front.map (program.entry registry document), (program.entry registry document i).2,
    (other.entry registry document j).2, back.map (program.entry registry document),
    back'.map (other.entry registry document), ?_, ?_, by rw [List.length_map, hlength], ?_, ?_⟩
  · rw [Program.topValues_eq, htop, List.map_append, List.map_cons, ← hnamei]
    rfl
  · rw [Program.topValues_eq, htop', List.map_append, List.map_cons, hbefore, ← hnamej]
    rfl
  · rw [List.map_map, List.map_map]
    exact map_eq_of_forall₂ hback fun x y hxy =>
      congrArg Field.name (Layout.alike_of_behind hprogram hother rfl rfl rfl hxy).label
  · intro c hc hfree
    have hget : (program.topLevel.map (·.val))[before.width]? = some c.val := by
      rw [List.getElem?_map, hc, Option.map_some]
    rw [htop, ← hlength, List.getElem?_append_right (Nat.le_refl _), Nat.sub_self,
      List.getElem?_cons_zero, Option.some.injEq] at hget
    subst hget
    have halike := alike_outside hprogram hother rfl rfl rfl hname fun x hx call hcall f hf heq =>
      hfree x (Layout.not_mem_subtree_middle hprogram rfl hi hx) call hcall f hf
        (Fin.ext (heq.trans hi.symm))
    exact map_eq_of_forall₂ hback fun _ _ hxy => halike.entry_eq registry document (.inr hxy)

end Values

/-- Two programs with the same top-level fields, except that the one at a position has another
pipeline, another type and other children, give the fields before that position the same values.
They give the fields behind it the same values too, if nothing outside its subtree refers to it.
Their data differ in no other member then. -/
theorem values_independent {before after children children' : Forest Field} {field field' : Field}
    (hname : field.name = field'.name)
    (hdistinct : (Program.ofFields .object
      (before ++ .cons field children after)).topNames.Nodup)
    (registry : Registry) (document : String) :
    let program := Program.ofFields .object (before ++ .cons field children after)
    let other := Program.ofFields .object (before ++ .cons field' children' after)
    let values (program : Program) := program.topValues registry document
    let member (program : Program) (key : String) :=
      (program.run registry document).data.resolve [key]
    ((values program).take before.width = (values other).take before.width ∧
      ∀ key ∈ program.topNames.take before.width, member program key = member other key) ∧
    ∀ i, program.topLevel[before.width]? = some i →
      (∀ c ∉ program.tree.subtree i.val, ∀ call ∈ (program.field c).pipeline,
        ∀ f ∈ Reference.callReferences c call, f.val ≠ i.val) →
      (values program).drop (before.width + 1) = (values other).drop (before.width + 1) ∧
        ∀ key ≠ field.name, member program key = member other key := by
  intro program other values member
  have hprogram : program.tree.below = before ++ .cons field children after := rfl
  have hother : other.tree.below = before ++ .cons field' children' after := rfl
  obtain ⟨front, value, value', back, back', hvalues, hvalues', hlength, hnames, hback⟩ :=
    exists_topValues registry document hprogram hother hname
  have hmember : ∀ key, (values program).reverse.lookup key = (values other).reverse.lookup key →
      member program key = member other key := by
    intro key hkey
    simp only [member]
    rw [Program.data_eq_topValues, Program.data_eq_topValues]
    change (Value.projectTop .object _).resolve [key] = (Value.projectTop .object _).resolve [key]
    rw [Value.resolve_projectTop_object, Value.resolve_projectTop_object, hkey]
  have htop : program.topNames = front.map (·.1) ++ field.name :: back.map (·.1) := by
    rw [← Program.names_topValues program registry document, hvalues, List.map_append,
      List.map_cons]
  have htake : program.topNames.take before.width = front.map (·.1) := by
    rw [htop, ← hlength, ← List.length_map (·.1), List.take_left]
  refine ⟨⟨?_, fun key hkey => hmember key ?_⟩,
    fun i hi hfree => ⟨?_, fun key hkey => hmember key ?_⟩⟩
  · simp only [values]
    rw [hvalues, hvalues', ← hlength, List.take_left, List.take_left]
  · rw [htake] at hkey
    have hdisjoint := (List.nodup_append.mp (htop ▸ hdistinct)).2.2 key hkey
    have hne : key ≠ field.name := hdisjoint field.name List.mem_cons_self
    have hnone : ∀ fields : List (String × Value), fields.map (·.1) = back.map (·.1) →
        fields.reverse.lookup key = none := by
      intro fields hfields
      rw [List.lookup_eq_none_iff]
      intro f hf
      have hmem : f.1 ∈ back.map (·.1) := hfields ▸ List.mem_map_of_mem (List.mem_reverse.mp hf)
      exact bne_iff_ne.mpr (hdisjoint f.1 (List.mem_cons_of_mem _ hmem))
    simp only [values]
    rw [hvalues, hvalues', lookup_reverse_middle _ hne, lookup_reverse_middle _ hne, hnone _ rfl,
      hnone _ hnames.symm]
  · simp only [values]
    rw [hvalues, hvalues', hback i hi hfree, ← hlength]
    simp
  · simp only [values]
    rw [hvalues, hvalues', hback i hi hfree, lookup_reverse_middle _ hkey,
      lookup_reverse_middle _ hkey]

/-- The field between two others is broken, and the one behind it keeps its value. -/
theorem values_independent_broken :
    let first : Forest Field := .cons ⟨"a", .text, [⟨"text", []⟩]⟩ .nil .nil
    let last : Forest Field := .cons ⟨"c", .text, [⟨"link", ["a"]⟩]⟩ .nil .nil
    let program := Program.ofFields .object
      (first ++ .cons ⟨"b", .text, [⟨"link", ["a"]⟩]⟩ .nil last)
    let other := Program.ofFields .object
      (first ++ .cons ⟨"b", .object, [⟨"missing", []⟩]⟩ first last)
    (program.run .builtin "x").data.resolve ["c"] =
      (other.run .builtin "x").data.resolve ["c"] := by
  intro first last program other
  have hdistinct : program.topNames.Nodup := by decide
  have htop : program.topLevel[first.width]? = some ⟨⟨2, by decide⟩, by decide⟩ := by decide
  have hfree : ∀ c ∉ program.tree.subtree ⟨2, by decide⟩, ∀ call ∈ (program.field c).pipeline,
      ∀ f ∈ Reference.callReferences c call, f.val ≠ ⟨2, by decide⟩ := by
    intro c _ call hcall
    refine Reference.callReferences_ne ?_
    revert c call
    decide
  have hindependent := @values_independent first last .nil first ⟨"b", .text, [⟨"link", ["a"]⟩]⟩
    ⟨"b", .object, [⟨"missing", []⟩]⟩ rfl hdistinct .builtin "x"
  exact (hindependent.2 _ htop hfree).2 "c" (by decide)

end DocQuery
