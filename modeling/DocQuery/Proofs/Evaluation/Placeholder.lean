import DocQuery.Evaluation.Pipeline
import DocQuery.Proofs.Text.Search

/-! The placeholder in arguments.  Every occurrence of it, from the left, becomes the raw text of
the selection; the raw text is not searched in turn.  To take the raw text is an action: it is put
off until an argument holds the placeholder, and what it gives is kept for the arguments behind. -/

namespace DocQuery

/-! ### What arguments become -/

/-- The placeholder in arguments becomes the raw text, however often that text is taken. -/
theorem fillFrom_fst (s : Selection) {raw : Option String} (hraw : raw.getD s.raw = s.raw)
    (args : List String) :
    (fillFrom s raw args).1 = args.map fun arg => Text.replaceAll arg placeholder s.raw := by
  induction args generalizing raw with
  | nil => rfl
  | cons arg args ih =>
    rw [fillFrom, List.map_cons]
    split
    · have hknown : (some s.raw).getD s.raw = s.raw := rfl
      dsimp only
      rw [hraw, ih hknown]
    · rename_i habsent
      dsimp only
      rw [ih hraw, Text.replaceAll_of_not_contains (Bool.not_eq_true _ ▸ habsent)]

theorem fillPlaceholder_fst (s : Selection) (args : List String) :
    (fillPlaceholder s args).1 = args.map fun arg => Text.replaceAll arg placeholder s.raw :=
  fillFrom_fst s rfl args

/-! ### When the raw text is taken -/

/-- Fills the placeholder in arguments, the raw text being taken by an action unless it is known. -/
def fillTaking {m : Type → Type} [Monad m] (take : m String) (known : Option String) :
    List String → m (List String)
  | [] => pure []
  | arg :: args =>
    if Text.contains arg placeholder then do
      let raw ← known.elim take pure
      let rest ← fillTaking take (some raw) args
      return Text.replaceAll arg placeholder raw :: rest
    else do
      let rest ← fillTaking take known args
      return arg :: rest

/-- Takes the raw text of a selection, and counts it. -/
def takeRaw (s : Selection) : StateM Nat String := do
  modify (· + 1)
  return s.raw

section

variable {m : Type → Type} [Monad m] [LawfulMonad m] (take : m String)

theorem fillTaking_known (raw : String) (args : List String) :
    fillTaking take (some raw) args =
      pure (args.map fun arg => Text.replaceAll arg placeholder raw) := by
  induction args with
  | nil => rfl
  | cons arg args ih =>
    rw [fillTaking, ih, List.map_cons]
    split
    · rw [Option.elim_some, pure_bind, ih, pure_bind]
    · rename_i habsent
      rw [Text.replaceAll_of_not_contains (Bool.not_eq_true _ ▸ habsent), pure_bind]

/-- The action is done before anything else, once, if an argument holds the placeholder, and not at
all otherwise. -/
theorem fillTaking_eq (args : List String) :
    fillTaking take none args =
      if args.any (Text.contains · placeholder) then do
        let raw ← take
        return args.map fun arg => Text.replaceAll arg placeholder raw
      else pure args := by
  induction args with
  | nil => rfl
  | cons arg args ih =>
    rw [fillTaking, List.any_cons]
    by_cases harg : Text.contains arg placeholder
    · rw [if_pos harg, harg, Bool.true_or, if_pos rfl]
      simp only [Option.elim_none, fillTaking_known, pure_bind, List.map_cons]
    · rw [Bool.not_eq_true] at harg
      rw [harg, if_neg Bool.false_ne_true, Bool.false_or, ih]
      split
      · simp only [bind_assoc, pure_bind, List.map_cons, Text.replaceAll_of_not_contains harg]
      · rw [pure_bind]

end

/-- A raw text that is known is not taken. -/
theorem fillFrom_some_snd (s : Selection) (raw : String) (args : List String) :
    (fillFrom s (some raw) args).2 = 0 := by
  induction args with
  | nil => rfl
  | cons arg args ih =>
    rw [fillFrom]
    split <;> exact ih

theorem fillPlaceholder_snd (s : Selection) (args : List String) :
    (fillPlaceholder s args).2 = if args.any (Text.contains · placeholder) then 1 else 0 := by
  rw [fillPlaceholder]
  induction args with
  | nil => rfl
  | cons arg args ih =>
    rw [fillFrom, List.any_cons]
    by_cases harg : Text.contains arg placeholder
    · rw [if_pos harg, harg, Bool.true_or, if_pos rfl]
      exact congrArg (· + 1) (fillFrom_some_snd s s.raw args)
    · rw [Bool.not_eq_true] at harg
      rw [harg, if_neg Bool.false_ne_true, Bool.false_or]
      exact ih

/-- The number that comes with filled arguments is how often the raw text is taken. -/
theorem run_fillTaking (s : Selection) (args : List String) (times : Nat) :
    (fillTaking (takeRaw s) none args).run times =
      ((fillPlaceholder s args).1, times + (fillPlaceholder s args).2) := by
  rw [fillTaking_eq, fillPlaceholder_snd, fillPlaceholder_fst]
  by_cases hany : args.any (Text.contains · placeholder)
  · rw [if_pos hany, if_pos hany]
    rfl
  · have habsent : ∀ arg ∈ args, Text.replaceAll arg placeholder s.raw = arg := by
      intro arg harg
      rw [List.any_eq_true, not_exists] at hany
      have hnot := fun hholds => hany arg ⟨harg, hholds⟩
      exact Text.replaceAll_of_not_contains (Bool.not_eq_true _ ▸ hnot)
    rw [if_neg hany, if_neg hany, List.map_congr_left habsent, List.map_id']
    rfl

/-- Every argument is cut at its placeholders from the left, in the only way there is, and joined
again with the raw text, whatever that holds.  The raw text is taken once if some argument holds the
placeholder, and not at all otherwise. -/
theorem fillPlaceholder_plain (s : Selection) (args : List String) :
    List.Forall₂ (fun arg filled => ∃ parts,
        (∀ cut, Text.Parts placeholder.toList arg.toList cut ↔ cut = parts) ∧
        filled.toList = s.raw.toList.intercalate parts) args (fillPlaceholder s args).1 ∧
    (fillPlaceholder s args).2 =
      (if ∃ arg ∈ args, placeholder.toList <:+: arg.toList then 1 else 0) ∧
    ∀ times, (fillTaking (takeRaw s) none args).run times =
      ((fillPlaceholder s args).1, times + (fillPlaceholder s args).2) := by
  have hne : placeholder.toList ≠ [] := by decide
  refine ⟨?_, ?_, run_fillTaking s args⟩
  · rw [fillPlaceholder_fst, List.forall₂_map_right_iff, List.forall₂_same]
    intro arg _
    obtain ⟨parts, hparts⟩ := Text.exists_parts hne arg.toList
    refine ⟨parts, fun cut => ⟨fun hcut => hcut.unique hparts, fun hcut => hcut ▸ hparts⟩, ?_⟩
    rw [Text.replaceAll, String.toList_ofList, hparts.replaceFrom_eq _ hne]
  · rw [fillPlaceholder_snd]
    refine if_congr ?_ rfl rfl
    rw [List.any_eq_true]
    simp only [Text.contains_iff]

/-- Of two occurrences that share a character only the left one is replaced. -/
example : Text.replaceAll "\x1a\x7b$\x7d\x1a\x7b$\x7d\x1a" placeholder "x" =
    "x\x7b$\x7d\x1a" := by decide

end DocQuery
