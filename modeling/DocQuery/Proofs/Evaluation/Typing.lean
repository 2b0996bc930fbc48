import DocQuery.Proofs.Evaluation.Conformance
import DocQuery.Proofs.Evaluation.Filling

/-! Evaluation gives conforming values.  From every state of the cache the value of a field conforms
to it, and is complete if there is a selection.  No value is ever put where it does not fit: an
error that belongs to a value is that of a text which is no number. -/

namespace DocQuery

variable {program : Program} {registry : Registry} {id : program.Id}

/-- If the error is one of a value, a text was no number. -/
def NumeralFault (p : program.Id × EvaluationError) : Prop :=
  ∀ cause, p.2 = .value cause → ∃ text why, cause = .number text why

theorem Value.type_empty (type : FieldType) : (Value.empty type).type = type := by
  cases type <;> rfl

/-- A scalar takes every text, unless it is a number and the text is none. -/
theorem setScalar_empty {type : FieldType} (htype : type.isScalar) (s : String) :
    match (Value.empty type).setScalar s with
    | .ok value => value.type = type
    | .error cause => ∃ text why, cause = .number text why := by
  cases type with
  | text => rfl
  | number =>
    rw [Value.empty, Value.setScalar]
    cases Binary64.ofText (Text.trim s) with
    | ok x => rfl
    | error why => exact ⟨s, why, rfl⟩
  | _ => cases htype

namespace Evaluating

section Resolving

variable {text : (f : program.Id) → f < id → Evaluating program String}
  {Q : program.Id × EvaluationError → Prop}

theorem ensures_renderWith (htext : ∀ f hf, Ensures (text f hf) (fun _ => True) Q)
    (arg : String) : Ensures (renderWith id text arg) (fun _ => True) Q := by
  unfold renderWith
  refine (Ensures.mapM (R := fun _ _ => True) fun ⟨before, name⟩ _ => ?_).map fun _ _ => .intro
  dsimp only
  split
  · exact .pure .intro
  split
  · exact (htext _ _).map fun _ _ => .intro
  · exact .pure .intro

theorem ensures_resolveCall (htext : ∀ f hf, Ensures (text f hf) (fun _ => True) Q)
    (hQ : ∀ error, Q (id, .operation error)) (call : Call) :
    Ensures (resolveCall id text call) (fun _ => True) Q := by
  unfold resolveCall
  split
  · exact (Ensures.mapM (R := fun _ _ => True) fun arg _ => ensures_renderWith htext arg).map
      fun _ _ => .intro
  split
  · split
    · exact .pure .intro
    split
    · exact (htext _ _).map fun _ _ => .intro
    · exact .pure .intro
  · exact (Ensures.record (hQ _)).bind fun _ _ => .pure .intro

end Resolving

/-- Finding a selection records errors of operations only. -/
theorem ensures_selection (registry : Registry) (id : program.Id) :
    Ensures (selection registry id) (fun _ => True) NumeralFault := by
  induction hn : id.val using Nat.strongRecOn generalizing id with
  | ind n ih =>
  subst hn
  have hoperation : ∀ error, NumeralFault (id, .operation error) := fun _ _ h => nomatch h
  rw [selection]
  refine (Ensures.of_keeps fun _ => rfl : Ensures (cached? id) _ _).bind fun found _ => ?_
  split
  · exact (Ensures.logEvent _).bind fun _ _ => .pure .intro
  split
  · exact .pure .intro
  rename_i q hq _
  refine (ih q.val hq q rfl).bind fun context _ => ?_
  split
  · exact .pure .intro
  have htext : ∀ f (_ : f < id),
      Ensures (do return ((← selection registry f).map (·.textContent)).getD "")
        (fun _ => True) NumeralFault := fun f hf => (ih f.val hf f rfl).map fun _ _ => .intro
  refine (Ensures.logEvent _).bind fun _ _ => ?_
  refine (Ensures.filterMapM fun call _ =>
    ensures_resolveCall htext hoperation call).bind fun calls _ => ?_
  dsimp only
  refine (Ensures.forM fun step _ => .logEvent _).bind fun _ _ => ?_
  split
  · exact (Ensures.of_keeps fun _ => rfl : Ensures (setCached id _) _ _).bind fun _ _ =>
      .pure .intro
  · exact (Ensures.record (hoperation _)).bind fun _ _ => .pure .intro

section Assembling

variable {s : Selection}
  (hchild : ∀ c : { c : program.Id // id < c },
    Ensures (evaluate registry c.val) (Conforms program c.val) NumeralFault)

theorem ensures_setCached (x : program.Id) (found : Option Selection) :
    Ensures (setCached x found) (fun _ => True) NumeralFault :=
  .of_keeps fun _ => rfl

theorem ensures_forgetBelow (id : program.Id) :
    Ensures (forgetBelow id) (fun _ => True) NumeralFault :=
  .of_keeps fun _ => rfl

/-- An iteration gives one row for each element. -/
theorem ensures_iterate {α : Type} {body : Evaluating program α} {P : α → Prop}
    (f : List α → Value) (hbody : Ensures body P NumeralFault) :
    Ensures (do
        let rows ← s.elements.mapM fun element => do
          setCached id (some element)
          forgetBelow id
          body
        forgetBelow id
        setCached id (some s)
        return f rows)
      (fun value => ∃ rows, value = f rows ∧ rows.length = s.size ∧ ∀ row ∈ rows, P row)
      NumeralFault := by
  have hround (element : Selection) : Ensures (do
      setCached id (some element)
      forgetBelow id
      body) P NumeralFault :=
    (ensures_setCached id _).bind fun _ _ => (ensures_forgetBelow id).bind fun _ _ => hbody
  refine (Ensures.mapM_all fun element _ => hround element).bind fun rows hrows => ?_
  refine (ensures_forgetBelow id).bind fun _ _ => (ensures_setCached id _).bind fun _ _ => ?_
  exact .pure ⟨rows, rfl, hrows.1.trans s.length_elements, hrows.2⟩

/-- A scalar is the value that its text gives, or else the empty one, with the error recorded. -/
theorem ensures_scalar (id : program.Id) {empty : Value} {result : Except ValueError Value}
    {P : Value → Prop} (hempty : P empty)
    (hresult : match result with
      | .ok value => P value
      | .error cause => ∃ text why, cause = .number text why) :
    Ensures (match result with
      | .ok value => return value
      | .error e => do
        record id (.value e)
        return empty) P NumeralFault := by
  cases result with
  | ok value => exact .pure hresult
  | error cause =>
    refine (Ensures.record ?_).bind fun _ _ => .pure hempty
    rintro _ ⟨⟩
    exact hresult

include hchild in
theorem ensures_assemble (s : Selection) :
    Ensures (assemble registry id s) (Complete program id s) NumeralFault := by
  rw [assemble]
  cases htype : (program.field id).type with
  | text | number =>
    have hscalar : (program.field id).type.isScalar := by rw [htype]; rfl
    have hempty : Complete program id s (.empty (program.field id).type) :=
      .scalar hscalar (Value.type_empty _)
    have hset := setScalar_empty hscalar s.textContent
    rw [htype] at hempty hset
    dsimp only
    split
    · exact .pure hempty
    -- The result is a variable here, since unfolding it would read the text as a number.
    generalize Value.setScalar _ s.textContent = result at hset
    refine ensures_scalar id hempty ?_
    cases result with
    | ok value => exact .scalar hscalar (hset.trans htype.symm)
    | error cause => exact hset
  | object =>
    have hmember : ∀ c ∈ program.children id,
        Ensures (do
            let value ← evaluate registry c.val
            setCached c.val none
            return ((program.field c.val).name, value)) (IsMember c.val) NumeralFault :=
      fun c _ => (hchild c).bind fun value hvalue => (ensures_setCached c.val none).bind fun _ _ =>
        .pure ⟨rfl, hvalue⟩
    refine (Ensures.mapM hmember).map fun row hrow => ?_
    obtain ⟨hvalues, hkeyed⟩ := keyed_row hrow
    exact .object htype hvalues hkeyed
  | array =>
    refine (ensures_iterate (fun rows => .array rows.flatten)
      (Ensures.mapM fun c _ => hchild c)).mono ?_
    rintro _ ⟨rows, rfl, hlength, hrows⟩
    exact .array htype hlength fun row hrow => conforms_row (hrows row hrow)
  | objects =>
    have hmember : ∀ c ∈ program.children id,
        Ensures (do return ((program.field c.val).name, ← evaluate registry c.val))
          (IsMember c.val) NumeralFault := fun c _ =>
      (hchild c).map fun value hvalue => ⟨rfl, hvalue⟩
    refine (ensures_iterate (fun rows => .objects ((rows.filter (!·.isEmpty)).map Value.ofFields))
      (Ensures.mapM hmember)).mono ?_
    rintro _ ⟨rows, rfl, hlength, hrows⟩
    exact complete_objects htype hlength hrows

end Assembling

theorem ensures_evaluate (registry : Registry) (id : program.Id) :
    Ensures (evaluate registry id) (Conforms program id) NumeralFault := by
  induction hn : program.size - id.val using Nat.strongRecOn generalizing id with
  | ind n ih =>
  subst hn
  rw [evaluate_eq]
  refine (ensures_selection registry id).bind fun found _ => ?_
  split
  · exact .pure (conforms_empty id)
  · refine (ensures_assemble (fun c => ?_) _).mono fun _ => Complete.conforms
    exact ih _ (Nat.sub_lt_sub_left id.isLt c.property) c.val rfl

/-- Results with names are names beside results. -/
theorem mapM_named {α γ : Type} (l : List γ) (name : γ → String) (f : γ → Evaluating program α) :
    (l.mapM fun x => do return (name x, ← f x)) = do
      let results ← l.mapM f
      return (l.map name).zip results := by
  induction l with
  | nil => rfl
  | cons x l ih =>
    simp only [List.mapM_cons, bind_assoc, pure_bind, ih]
    rfl

/-- The values that the children of an object have one after the other. -/
def memberValues (registry : Registry) (id : program.Id) : Evaluating program (List Value) :=
  (program.children id).mapM fun ⟨c, _⟩ => do
    let value ← evaluate registry c
    setCached c none
    return value

/-- An object holds the values that its children have. -/
theorem assemble_object (registry : Registry) {id : program.Id} (s : Selection)
    (htype : (program.field id).type = .object) : assemble registry id s = do
      let values ← memberValues registry id
      return .object (Value.ofFields ((program.childNames id).zip values)) := by
  have hnamed := mapM_named (program.children id) (fun c => (program.field c.val).name) fun c => do
    let value ← evaluate registry c.val
    setCached c.val none
    return value
  simp only [bind_assoc, pure_bind] at hnamed
  rw [assemble, htype, memberValues, Program.childNames, Program.childIds, List.map_map]
  dsimp only
  rw [hnamed, bind_assoc]
  rfl

theorem keyed_memberValues (registry : Registry) (id : program.Id) (e : Evaluation program) :
    Keyed (program.childNames id) ((memberValues registry id).run e).1
      (Value.ofFields ((program.childNames id).zip ((memberValues registry id).run e).1)) := by
  have hlength : ((memberValues registry id).run e).1.length = (program.childNames id).length := by
    rw [Program.childNames, Program.childIds, List.length_map, List.length_map]
    exact (Ensures.mapM_all (P := fun _ => True) (Q := fun _ => True) (fun _ _ => .trivial _) e).1.1
  have hkeyed := keyed_ofFields ((program.childNames id).zip ((memberValues registry id).run e).1)
  rwa [List.map_fst_zip hlength.ge, List.map_snd_zip hlength.le] at hkeyed

theorem ensures_finish (registry : Registry) :
    Ensures (finish registry : Evaluating program Response) (fun _ => True) NumeralFault := by
  rw [finish]
  have hchild : ∀ c ∈ program.topLevel,
      Ensures (do return ((program.field c.val).name, ← evaluate registry c.val))
        (IsMember c.val) NumeralFault := fun c _ =>
    (ensures_evaluate registry c.val).map fun value hvalue => ⟨rfl, hvalue⟩
  refine (Ensures.mapM hchild).bind fun fields _ => ?_
  exact (Ensures.of_keeps fun _ => rfl : Ensures (get : Evaluating program _) _ _).bind
    fun _ _ => .pure trivial

end Evaluating

open Evaluation Evaluating

/-- From every state the value of a field conforms to it.  Without a selection it is empty.  Over a
selection an object has the names of its children as keys, each with the value of the last child of
that name, an array has a value for each child in each element, and a list of objects has an object
for each element.  The errors that are recorded against values, then and in a run, are those of
texts that are no numbers. -/
theorem evaluate_conforms (program : Program) (registry : Registry) :
    (∀ (id : program.Id) (e : Evaluation program),
      let found := (selection registry id).run e
      let value := ((evaluate registry id).run e).1
      Conforms program id value ∧
        (found.1 = none → value = .empty (program.field id).type) ∧
        (∀ s, found.1 = some s →
          ((program.field id).type = .object → ∃ fields, value = .object fields ∧
            Keyed (program.childNames id) ((memberValues registry id).run found.2).1 fields) ∧
          ((program.field id).type = .array → ∃ items, value = .array items ∧
            items.length = s.size * (program.childIds id).length ∧
            ∀ i j c, i < s.size → (program.childIds id)[j]? = some c →
              ∃ item, items[i * (program.childIds id).length + j]? = some item ∧
                Conforms program c item) ∧
          ((program.field id).type = .objects → ∃ objects, value = .objects objects ∧
            (program.childIds id ≠ [] → objects.length = s.size) ∧
            ∀ fields ∈ objects, ∃ values,
              List.Forall₂ (Conforms program) (program.childIds id) values ∧
                Keyed (program.childNames id) values fields)) ∧
        ∀ p, ((evaluate registry id).run e).2.Records p → e.Records p ∨ NumeralFault p) ∧
      ∀ document p, ((finish registry).run (.start program document)).2.Records p →
        NumeralFault p := by
  constructor
  · intro id e found value
    obtain ⟨hconforms, herrors⟩ := ensures_evaluate registry id e
    refine ⟨hconforms, fun hnone => ?_, fun s hs => ?_, herrors⟩
    · have hfound : (selection registry id).run e = (none, found.2) := Prod.ext hnone rfl
      simp only [value]
      rw [evaluate_eq, run_bind_of hfound]
      rfl
    have hfound : (selection registry id).run e = (some s, found.2) := Prod.ext hs rfl
    have hvalue : value = ((assemble registry id s).run found.2).1 := by
      simp only [value]
      rw [evaluate_eq, run_bind_of hfound]
    have hcomplete : Complete program id s value := by
      rw [hvalue]
      exact (ensures_assemble (fun c => ensures_evaluate registry c.val) s found.2).1
    refine ⟨fun htype => ?_, hcomplete.items_of_type, hcomplete.objects_of_type⟩
    refine ⟨_, ?_, keyed_memberValues registry id found.2⟩
    rw [hvalue, assemble_object registry s htype]
    rfl
  · intro document p hp
    refine ((ensures_finish registry _).2 p hp).resolve_left fun hstart => ?_
    simp [Records, Evaluation.start] at hstart

end DocQuery
