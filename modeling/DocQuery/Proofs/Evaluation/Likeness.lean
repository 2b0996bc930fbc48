import DocQuery.Proofs.Evaluation.Coherence
import DocQuery.Proofs.Program.Lookup

/-! Fields that are alike in two programs.  Fields correspond to each other if they are declared
alike, below parents and above children that correspond, and if the names in their calls mean fields
that correspond.  The parents may also be two given fields that have the same selection.  Then they
have the same selection and the same value, under contexts that agree about them: what an evaluation
finds depends on nothing else. -/

namespace DocQuery

/-- The names in an argument that mean other fields than the one it belongs to. -/
def argumentNames (own : String) (arg : String) : List String :=
  ((Template.ofText arg).references.map (·.2)).filter fun name => !(name.isEmpty || name == own)

/-- The names of the fields whose texts a call needs. -/
def Call.names (own : String) (call : Call) : List String :=
  if call.name != "link" then call.args.flatMap (argumentNames own)
  else
    match call.args with
    | [target] => if target == own then [] else [target]
    | _ => []

namespace Reference

variable {program : Program} {id : program.Id}

theorem references_eq (arg : String) : references id arg =
    (argumentNames (program.field id).name arg).filterMap (program.lookup id) := by
  rw [references, argumentNames, List.filterMap_filter, List.filterMap_map]
  refine List.filterMap_congr fun ⟨before, name⟩ _ => ?_
  dsimp only [Function.comp]
  cases name.isEmpty || name == (program.field id).name <;> rfl

theorem callReferences_eq (call : Call) : callReferences id call =
    (call.names (program.field id).name).filterMap (program.lookup id) := by
  obtain ⟨name, args⟩ := call
  rw [callReferences, Call.names]
  cases name != "link" with
  | true =>
    rw [if_pos rfl, if_pos rfl, List.filterMap_flatMap]
    exact List.flatMap_congr fun arg _ => references_eq arg
  | false =>
    rcases args with _ | ⟨target, _ | _⟩
    · rfl
    · cases hown : target == (program.field id).name <;>
        cases hlookup : program.lookup id target <;> simp [hown, hlookup]
    · rfl

/-- A call needs the text of no field that it does not name. -/
theorem callReferences_ne {call : Call} {i : program.Id}
    (h : (program.field i).name ∉ call.names (program.field id).name) :
    ∀ f ∈ callReferences id call, f.val ≠ i := by
  rintro f hf rfl
  rw [callReferences_eq] at hf
  obtain ⟨name, hname, hlookup⟩ := List.mem_filterMap.mp hf
  rw [Program.name_of_lookup hlookup] at h
  exact h hname

section Resolving

variable {other : Program} {x : program.Id} {y : other.Id}
  {text : (f : program.Id) → f < x → String} {text' : (f : other.Id) → f < y → String}
  (hname : (program.field x).name = (other.field y).name)
include hname

theorem render_eq {arg : String} (h : ∀ name ∈ argumentNames (program.field x).name arg,
    (program.lookup x name).map (fun f => text f.val f.property) =
      (other.lookup y name).map fun f => text' f.val f.property) :
    render x text arg = render y text' arg := by
  rw [render, render]
  dsimp only
  congr 2
  refine List.map_congr_left fun ⟨before, name⟩ hmem => ?_
  dsimp only
  rw [← hname]
  cases hown : name.isEmpty || name == (program.field x).name with
  | true => rfl
  | false =>
    have hnames : name ∈ argumentNames (program.field x).name arg :=
      List.mem_filter.mpr ⟨List.mem_map_of_mem hmem, by rw [hown]; rfl⟩
    have htext := h name hnames
    cases hx : program.lookup x name <;> cases hy : other.lookup y name <;>
      simp_all

theorem resolveCall_eq {call : Call} (h : ∀ name ∈ call.names (program.field x).name,
    (program.lookup x name).map (fun f => text f.val f.property) =
      (other.lookup y name).map fun f => text' f.val f.property) :
    resolveCall x text call = resolveCall y text' call := by
  obtain ⟨name, args⟩ := call
  rw [Call.names] at h
  rw [resolveCall, resolveCall]
  cases hlink : name != "link" with
  | true =>
    simp only [hlink, if_true] at h
    have hargs : args.map (render x text) = args.map (render y text') :=
      List.map_congr_left fun arg harg => render_eq hname fun name hmem =>
        h name (List.mem_flatMap.mpr ⟨arg, harg, hmem⟩)
    simp only [if_true, hargs]
  | false =>
    rcases args with _ | ⟨target, _ | _⟩
    · rfl
    · dsimp only
      rw [← hname]
      cases hown : target == (program.field x).name with
      | true => rfl
      | false =>
        have htext := h target (by simp [hlink, hown])
        cases hx : program.lookup x target <;> cases hy : other.lookup y target <;>
          simp_all
    · rfl

end Resolving

end Reference

theorem map_eq_of_forall₂ {α β γ : Type} {S : α → β → Prop} {xs : List α} {ys : List β}
    {f : α → γ} {g : β → γ} (hS : List.Forall₂ S xs ys) (hfg : ∀ a b, S a b → f a = g b) :
    xs.map f = ys.map g := by
  induction hS with
  | nil => rfl
  | cons hab _ ih => rw [List.map_cons, List.map_cons, hfg _ _ hab, ih]

/-- Fields of two programs that `R` relates are alike, below each other or directly below the fields
`base` and `base'`. -/
structure Alike {program other : Program} (base : program.Id) (base' : other.Id)
    (R : program.Id → other.Id → Prop) : Prop where
  field {x y} : R x y → program.field x = other.field y
  /-- No field is related to two. -/
  unique {x y z w} : R x y → R z w → (x = z ↔ y = w)
  parent {x y} : R x y → ∃ p q, program.parent x = some p ∧ other.parent y = some q ∧
    (R p.val q.val ∨ p.val = base ∧ q.val = base')
  children {x y} : R x y →
    List.Forall₂ (fun c d => R c.val d.val) (program.children x) (other.children y)
  lookup {x y} : R x y → ∀ call ∈ (program.field x).pipeline,
    ∀ name ∈ call.names (program.field x).name,
      Option.Rel (fun f g => R f.val g.val) (program.lookup x name) (other.lookup y name)

/-- Contexts under which related fields stand at the same elements, and the two given fields have
the same selection. -/
structure Agree {program other : Program} (registry : Registry) (base : program.Id)
    (base' : other.Id) (R : program.Id → other.Id → Prop) (here : Context program)
    (here' : Context other) : Prop where
  base : Reference.selection registry here base = Reference.selection registry here' base'
  fields {x y} : R x y → here x = here' y

namespace Alike

variable {program other : Program} {base : program.Id} {base' : other.Id}
  {R : program.Id → other.Id → Prop} (h : Alike base base' R)
include h

/-- The given fields come before those that are related. -/
theorem base_lt {x : program.Id} {y : other.Id} (hxy : R x y) : base < x ∧ base' < y := by
  induction hn : x.val using Nat.strongRecOn generalizing x y with
  | ind n ih =>
  subst hn
  obtain ⟨⟨p, hp⟩, ⟨q, hq⟩, _, _, hpq | ⟨hbase, hbase'⟩⟩ := h.parent hxy
  · obtain ⟨hlt, hlt'⟩ := ih p.val hp hpq rfl
    exact ⟨hlt.trans hp, hlt'.trans hq⟩
  · dsimp only at hbase hbase'
    exact ⟨hbase ▸ hp, hbase' ▸ hq⟩

section Contexts

variable {registry : Registry} {here : Context program} {here' : Context other}

theorem enter (hagree : Agree registry base base' R here here') {x : program.Id} {y : other.Id}
    (hxy : R x y) (element : Selection) :
    Agree registry base base' R (here.enter x element) (here'.enter y element) where
  base := by
    obtain ⟨hlt, hlt'⟩ := h.base_lt hxy
    have hsame : ∀ z ≤ base, here.enter x element z = here z := fun z hz =>
      if_neg (hz.trans_lt hlt).ne
    have hsame' : ∀ z ≤ base', here'.enter y element z = here' z := fun z hz =>
      if_neg (hz.trans_lt hlt').ne
    rw [Reference.selection_congr base hsame, Reference.selection_congr base' hsame', hagree.base]
  fields {z w} hzw := by
    rw [Context.enter, Context.enter, hagree.fields hzw]
    exact if_congr (h.unique hzw hxy) rfl rfl

theorem selection_eq (hagree : Agree registry base base' R here here') {x : program.Id}
    {y : other.Id} (hxy : R x y) :
    Reference.selection registry here x = Reference.selection registry here' y := by
  -- The parent and the fields that the calls name are declared before the field.
  induction hn : x.val using Nat.strongRecOn generalizing x y with
  | ind n ih =>
  subst hn
  have hhere := hagree.fields hxy
  cases hx : here x with
  | some s =>
    rw [hx] at hhere
    rw [Reference.selection_of_here hx, Reference.selection_of_here hhere.symm]
  | none =>
    rw [hx] at hhere
    obtain ⟨⟨p, hp⟩, ⟨q, hq⟩, hparent, hparent', hpq⟩ := h.parent hxy
    have hselection : Reference.selection registry here p =
        Reference.selection registry here' q := by
      rcases hpq with hpq | ⟨hbase, hbase'⟩
      · exact ih p.val hp hpq rfl
      · dsimp only at hbase hbase'
        rw [hbase, hbase', hagree.base]
    have hcalls : Reference.calls registry here x = Reference.calls registry here' y := by
      rw [Reference.calls, Reference.calls, ← h.field hxy]
      refine List.filterMap_congr fun call hcall => ?_
      refine Reference.resolveCall_eq (congrArg Field.name (h.field hxy)) fun name hname => ?_
      have hlookup := h.lookup hxy call hcall name hname
      generalize program.lookup x name = f at hlookup
      generalize other.lookup y name = g at hlookup
      cases hlookup with
      | none => rfl
      | @some f g hfg =>
        rw [Option.map_some, Option.map_some, Reference.fieldText, Reference.fieldText,
          ih f.val.val f.property hfg rfl]
    rw [Reference.selection_of_parent registry hx hparent,
      Reference.selection_of_parent registry hhere.symm hparent', hselection, hcalls]

theorem value_eq (hagree : Agree registry base base' R here here') {x : program.Id}
    {y : other.Id} (hxy : R x y) :
    Reference.value registry here x = Reference.value registry here' y := by
  -- The children are declared behind the field.
  induction hn : program.size - x.val using Nat.strongRecOn generalizing x y here here' with
  | ind n ih =>
  subst hn
  have hchildren : ∀ {here : Context program} {here' : Context other},
      Agree registry base base' R here here' →
        (program.children x).map (fun c => Reference.value registry here c.val) =
          (other.children y).map fun d => Reference.value registry here' d.val := fun hagree =>
    map_eq_of_forall₂ (h.children hxy) fun c _ hcd =>
      ih _ (Nat.sub_lt_sub_left x.isLt c.property) hagree hcd rfl
  have hmembers : ∀ {here : Context program} {here' : Context other},
      Agree registry base base' R here here' →
        (program.children x).map (fun c =>
            ((program.field c.val).name, Reference.value registry here c.val)) =
          (other.children y).map fun d =>
            ((other.field d.val).name, Reference.value registry here' d.val) := fun hagree =>
    map_eq_of_forall₂ (h.children hxy) fun c _ hcd => by
      rw [h.field hcd, ih _ (Nat.sub_lt_sub_left x.isLt c.property) hagree hcd rfl]
  rw [Reference.value, Reference.value, ← h.field hxy, h.selection_eq hagree hxy]
  dsimp only
  cases Reference.selection registry here' y with
  | none => rfl
  | some s =>
  cases (program.field x).type with
  | text | number => rfl
  | object => exact congrArg (fun row => Value.object (Value.ofFields row)) (hmembers hagree)
  | array =>
    refine congrArg Value.array (List.flatMap_congr fun element _ => ?_)
    exact hchildren (h.enter hagree hxy element)
  | objects =>
    dsimp only
    rw [List.map_congr_left fun element _ => hmembers (h.enter hagree hxy element)]

end Contexts

end Alike

end DocQuery
