import DocQuery.Proofs.Bounds.Text
import DocQuery.Proofs.Evaluation.History

/-! Expanding an argument.  The text is cut at its references from the left, and each reference
gives way to the text that its name stands for, all else being taken over as it is.  So what is put
in is not searched again, and since the cuts are made before anything is put in, they all lie
between characters of the argument. -/

namespace DocQuery

open Evaluation Evaluating

variable {program : Program}

namespace Evaluating

/-- What a reference gives way to, `text` giving the text of the fields before `id`. -/
def referenceWith (id : program.Id) (text : (f : program.Id) → f < id → Evaluating program String)
    (name : String) : Evaluating program String :=
  if name = "" ∨ name = (program.field id).name then return placeholder
  else
    match program.lookup id name with
    | some ⟨f, h⟩ => text f h
    | none => return ""

/-- What a reference in an argument of a field gives way to. -/
def referenceText (registry : Registry) (id : program.Id) (name : String) :
    Evaluating program String :=
  referenceWith id (fun f _ => fieldText registry f) name

theorem mapM_zipWith {α γ δ : Type} (f : α → Evaluating program γ) (g : α → γ → δ) (l : List α) :
    (l.mapM fun a => do return g a (← f a)) = do return List.zipWith g l (← l.mapM f) := by
  induction l with
  | nil => rfl
  | cons a l ih =>
    rw [List.mapM_cons, List.mapM_cons, ih]
    simp only [bind_assoc, pure_bind, List.zipWith_cons_cons]

section

variable {id : program.Id} (text : (f : program.Id) → f < id → Evaluating program String)

/-- A reference with the plain text before it becomes that text and what the reference gives way
to. -/
theorem part_eq (before name : String) :
    (if name.isEmpty || name == (program.field id).name then return before ++ placeholder
      else
        match program.lookup id name with
        | some ⟨f, h⟩ => return before ++ (← text f h)
        | none => return before : Evaluating program String) = do
      return before ++ (← referenceWith id text name) := by
  have hself : (name.isEmpty || name == (program.field id).name) = true ↔
      name = "" ∨ name = (program.field id).name := by
    rw [Bool.or_eq_true, String.isEmpty_iff, beq_iff_eq]
  rw [referenceWith]
  by_cases h : name = "" ∨ name = (program.field id).name
  · rw [if_pos (hself.mpr h), if_pos h, pure_bind]
  · rw [if_neg (mt hself.mp h), if_neg h]
    cases program.lookup id name with
    | none => rw [pure_bind, String.append_empty]
    | some found => rfl

theorem renderWith_eq_fill (arg : String) : renderWith id text arg = do
    let values ← (Template.ofText arg).references.mapM fun reference =>
      referenceWith id text reference.2
    return (Template.ofText arg).fill values := by
  let template := Template.ofText arg
  let part (reference : String × String) : Evaluating program String := do
    return reference.1 ++ (← referenceWith id text reference.2)
  have hparts : template.references.mapM part = do
      let values ← template.references.mapM fun reference => referenceWith id text reference.2
      return List.zipWith (fun reference value => reference.1 ++ value) template.references
        values :=
    mapM_zipWith (fun reference => referenceWith id text reference.2)
      (fun reference value => reference.1 ++ value) template.references
  calc renderWith id text arg
    _ = (do return String.join (← template.references.mapM part) ++ template.tail) := by
      rw [renderWith]
      congr 1
      exact congrArg (List.mapM · _) (funext fun reference => part_eq text reference.1 reference.2)
    _ = (do
        let values ← template.references.mapM fun reference => referenceWith id text reference.2
        return template.fill values) := by
      rw [hparts, bind_assoc]
      rfl

end

end Evaluating

/-- Between requests a reference gives way to the same text, whatever was asked before. -/
theorem computes_referenceText (registry : Registry) (document : String) (id : program.Id)
    (name : String) :
    ∃ value raised, Computes (Coherent registry (.start program document) program.size)
      program.size (referenceText registry id name) value raised := by
  rw [referenceText, referenceWith]
  split
  · exact ⟨_, _, .pure _⟩
  · split
    · exact ⟨_, _, computes_fieldText _⟩
    · exact ⟨_, _, .pure _⟩

/-- Expanding an argument is one substitution from the left. -/
theorem render_substitutes (registry : Registry) (id : program.Id) (arg : String) :
    ∃ template, (∀ other, Template.Cuts arg.toList other ↔ other = template) ∧
      Indexed.cut (arg.toList.length + 1) arg.toList = some template ∧
      (template.fill (template.references.map fun reference => "\x7b$" ++ reference.2 ++ "\x7d")) =
        arg ∧
      (render registry id arg = do
        let values ← template.references.mapM fun reference => referenceText registry id reference.2
        return template.fill values) ∧
      ∀ document history, let e := Evaluation.after registry document history
        ((render registry id arg).run e).1 = template.fill (template.references.map fun reference =>
          ((referenceText registry id reference.2).run e).1) := by
  have hrender : render registry id arg = do
      let values ← (Template.ofText arg).references.mapM fun reference =>
        referenceText registry id reference.2
      return (Template.ofText arg).fill values := renderWith_eq_fill _ arg
  refine ⟨.ofText arg, fun other => Template.cuts_iff, Indexed.cut_eq (Nat.lt_succ_self _), ?_,
    hrender, ?_⟩
  · have hfill := (Template.cuts_ofChars arg.toList).fill_references
    rwa [String.ofList_toList] at hfill
  · intro document history e
    have he := coherent_after registry document history
    choose value raised hcomputes using computes_referenceText registry document id
    obtain ⟨e', hrun, -⟩ := Computes.mapM (l := (Template.ofText arg).references)
      (fun reference _ => hcomputes reference.2) e he
    have hvalue : ∀ name, ((referenceText registry id name).run e).1 = value name := by
      intro name
      obtain ⟨e', hrun, -⟩ := hcomputes name e he
      rw [hrun]
    simp only [hvalue]
    rw [hrender, run_bind_of hrun]
    rfl

end DocQuery
