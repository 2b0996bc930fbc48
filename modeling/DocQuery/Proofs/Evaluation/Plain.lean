import DocQuery.Proofs.Evaluation.Splice

/-! Calls whose arguments hold no reference.  Such a call is made with its argument as it is written,
whatever the selection and whatever the texts of other fields.  So where an operation on one argument
does at once what it does on two arguments in turn, two calls can stand for one in every pipeline. -/

namespace DocQuery

/-- A text without references is a template without any. -/
theorem Template.ofText_of_not_contains {text : String}
    (h : Text.contains text "\x7b$" = false) :
    Template.ofText text = { references := [], tail := text } := by
  have hnext : ∀ {cs : List Char}, ¬['\x7b', '$'] <:+: cs → nextReference? cs = none := by
    intro cs hcs
    induction cs using nextReference?.induct with
    | case1 cs => exact absurd ⟨[], cs, rfl⟩ hcs
    | case2 c cs _ ih =>
      have hrest : nextReference? cs = none := ih fun hin =>
        hcs (List.IsInfix.trans hin (List.infix_cons (List.infix_refl _)))
      rw [nextReference?, hrest]
      · rfl
      · assumption
    | case3 => rfl
  have hin : ¬['\x7b', '$'] <:+: text.toList := by
    rwa [Bool.eq_false_iff, ne_eq, Text.contains_iff] at h
  rw [ofText, ofChars]
  split
  · rw [String.ofList_toList]
  · rename_i hsome
    rw [hnext hin] at hsome
    cases hsome

theorem toList_join {separator : String} {c : Char} (h : separator.toList = [c])
    (first second : String) :
    (first ++ separator ++ second).toList = first.toList ++ c :: second.toList := by
  rw [String.toList_append, String.toList_append, List.append_assoc, h]
  rfl

/-- A separator that takes no part in a reference makes none. -/
theorem not_contains_join {first second : String} {c : Char} (separator : String)
    (hseparator : separator.toList = [c]) (hopen : c ≠ '\x7b') (hc : c ≠ '$')
    (hfirst : Text.contains first "\x7b$" = false)
    (hsecond : Text.contains second "\x7b$" = false) :
    Text.contains (first ++ separator ++ second) "\x7b$" = false := by
  rw [Bool.eq_false_iff, ne_eq, Text.contains_iff] at hfirst hsecond ⊢
  rw [toList_join hseparator]
  -- On the first text: a reference at its end would go on with the separator.
  have hnone : ∀ {cs : List Char}, ¬['\x7b', '$'] <:+: cs →
      ¬['\x7b', '$'] <:+: cs ++ c :: second.toList := by
    intro cs hcs
    induction cs with
    | nil =>
      rw [List.nil_append, List.infix_cons_iff]
      rintro (hhead | hin)
      · rw [List.cons_prefix_cons] at hhead
        exact hopen hhead.1.symm
      · exact hsecond hin
    | cons b cs ih =>
      rw [List.infix_cons_iff, not_or] at hcs
      rw [List.cons_append, List.infix_cons_iff]
      rintro (hhead | hin)
      · refine hcs.1 ?_
        rw [List.cons_prefix_cons] at hhead ⊢
        cases cs with
        | nil => exact absurd (List.cons_prefix_cons.mp hhead.2).1 hc.symm
        | cons d cs => exact ⟨hhead.1, by simpa using hhead.2⟩
      · exact ih hcs.2 hin
  exact hnone hfirst

theorem not_contains_placeholder {text : String} (h : Text.contains text "\x7b$" = false) :
    Text.contains text placeholder = false := by
  rw [Bool.eq_false_iff, ne_eq, Text.contains_iff] at h ⊢
  exact fun hin => h (List.IsInfix.trans ⟨['\x1a'], ['\x7d', '\x1a'], by decide⟩ hin)

theorem runPipeline_cons (registry : Registry) (s : Selection) (name arg : String)
    (calls : List Call) :
    (runPipeline registry s (⟨name, [arg]⟩ :: calls)).2 =
      (registry.invoke name s [Text.replaceAll arg placeholder s.raw]).bind fun s =>
        (runPipeline registry s calls).2 := by
  have hargs : (fillPlaceholder s [arg]).1 = [Text.replaceAll arg placeholder s.raw] :=
    fillPlaceholder_fst s [arg]
  rw [runPipeline]
  dsimp only
  rw [hargs]
  cases registry.invoke name s [Text.replaceAll arg placeholder s.raw] <;> rfl

namespace Evaluating

variable {program : Program} {id : program.Id} {name arg : String}

/-- What calls give on a selection once their references are resolved. -/
def runResolved (registry : Registry) (id : program.Id)
    (text : (f : program.Id) → f < id → Evaluating program String) (s : Selection)
    (calls : List Call) : Evaluating program (Except OperationError Selection) := do
  return (runPipeline registry s (← calls.filterMapM (resolveCall id text))).2

theorem filterMapM_append {m : Type → Type} [Monad m] [LawfulMonad m] {α β : Type}
    (f : α → m (Option β)) (front back : List α) :
    (front ++ back).filterMapM f = do return (← front.filterMapM f) ++ (← back.filterMapM f) := by
  induction front with
  | nil => simp
  | cons a front ih =>
    rw [List.cons_append, List.filterMapM_cons, List.filterMapM_cons, ih, bind_assoc]
    refine bind_congr fun b => ?_
    cases b <;> simp

theorem resolveCall_plain (hname : name ≠ "link") (h : Text.contains arg "\x7b$" = false)
    (text : (f : program.Id) → f < id → Evaluating program String) :
    resolveCall id text ⟨name, [arg]⟩ = pure (some ⟨name, [arg]⟩) := by
  have hrender : renderWith id text arg = pure arg := by
    rw [renderWith, Template.ofText_of_not_contains h]
    simp [String.join]
  simp [resolveCall, hname, hrender]

/-- The empty name refers to the field itself, which the placeholder stands for. -/
theorem resolveCall_self (hname : name ≠ "link") {front back : String}
    (h : Template.ofText arg = ⟨[(front, "")], back⟩)
    (text : (f : program.Id) → f < id → Evaluating program String) :
    resolveCall id text ⟨name, [arg]⟩ =
      pure (some ⟨name, [front ++ placeholder ++ back]⟩) := by
  simp [resolveCall, hname, renderWith, h, String.join]

/-- Two calls stand for one wherever they are in a pipeline, if the operation does on one argument
what it does on two in turn, and none of the three holds a reference. -/
theorem runResolved_join {registry : Registry} (hname : name ≠ "link")
    {joined first second : String} (hjoined : Text.contains joined "\x7b$" = false)
    (hfirst : Text.contains first "\x7b$" = false)
    (hsecond : Text.contains second "\x7b$" = false)
    (hinvoke : ∀ s, registry.invoke name s [joined] =
      (registry.invoke name s [first]).bind fun s => registry.invoke name s [second])
    (text : (f : program.Id) → f < id → Evaluating program String) (s : Selection)
    (front back : List Call) :
    runResolved registry id text s (front ++ ⟨name, [joined]⟩ :: back) =
      runResolved registry id text s (front ++ ⟨name, [first]⟩ :: ⟨name, [second]⟩ :: back) := by
  have hfilled : ∀ {arg raw : String}, Text.contains arg "\x7b$" = false →
      Text.replaceAll arg placeholder raw = arg := fun h =>
    Text.replaceAll_of_not_contains (not_contains_placeholder h)
  -- The placeholder is in no argument, so each call is made with its own as it is.
  have hrun : ∀ resolved after : List Call,
      (runPipeline registry s (resolved ++ ⟨name, [joined]⟩ :: after)).2 =
        (runPipeline registry s
          (resolved ++ ⟨name, [first]⟩ :: ⟨name, [second]⟩ :: after)).2 := by
    intro resolved after
    rw [runPipeline_append, runPipeline_append]
    congr 1
    funext s
    rw [runPipeline_cons, runPipeline_cons, hfilled hjoined, hfilled hfirst, hinvoke]
    cases registry.invoke name s [first] with
    | error e => rfl
    | ok s =>
      change (registry.invoke name s [second]).bind _ = (runPipeline _ s _).2
      rw [runPipeline_cons, hfilled hsecond]
  simp [runResolved, filterMapM_append, List.filterMapM_cons, resolveCall_plain hname hfirst,
    resolveCall_plain hname hsecond, resolveCall_plain hname hjoined, hrun]

end Evaluating

end DocQuery
