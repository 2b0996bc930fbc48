import DocQuery.Proofs.Bounds.Evaluation
import DocQuery.Proofs.Evaluation.Tally
import DocQuery.Proofs.Program.Numbering

/-! The report of errors.  The lines of the fields stand one behind the other, by number, and the
report has one line for all that are equal, where the first of them stands.  The lines of several
fields may be equal, as their names may be.  So every recorded error counts in exactly one line of
the report, and nowhere else. -/

namespace DocQuery

/-- The different elements of a list, by where they stand first. -/
structure FirstOccurrences (all lines : List String) : Prop where
  mem_iff : ∀ line, line ∈ lines ↔ line ∈ all
  increasing : lines.Pairwise fun a b => all.idxOf a < all.idxOf b

namespace FirstOccurrences

variable {all lines : List String}

theorem nodup (h : FirstOccurrences all lines) : lines.Nodup :=
  h.increasing.imp fun hlt heq => Nat.ne_of_lt hlt (congrArg all.idxOf heq)

/-- Every element of the list is counted, and none twice. -/
theorem sum_count (h : FirstOccurrences all lines) : (lines.map all.count).sum = all.length := by
  have hperm : lines.Perm all.dedup :=
    (List.perm_ext_iff_of_nodup h.nodup all.nodup_dedup).mpr fun line =>
      (h.mem_iff line).trans List.mem_dedup.symm
  rw [(hperm.map _).sum_eq, List.sum_map_count_dedup_eq_length]

end FirstOccurrences

theorem pairwise_idxOf_eraseDups (all : List String) :
    all.eraseDups.Pairwise fun a b => all.idxOf a < all.idxOf b := by
  induction all using List.reverseRecOn with
  | nil => exact .nil
  | append_singleton all line ih =>
    have hbefore : all.eraseDups.Pairwise fun a b =>
        (all ++ [line]).idxOf a < (all ++ [line]).idxOf b := by
      refine ih.imp_of_mem fun ha hb hlt => ?_
      rwa [List.idxOf_append_of_mem (List.mem_eraseDups.mp ha),
        List.idxOf_append_of_mem (List.mem_eraseDups.mp hb)]
    rw [List.eraseDups_append]
    by_cases hmem : line ∈ all
    · simpa [List.removeAll, hmem] using hbefore
    · have hnew : ([line].removeAll all).eraseDups = [line] := by
        simp [List.removeAll, hmem, List.eraseDups_cons]
      rw [hnew, List.pairwise_append]
      refine ⟨hbefore, List.pairwise_singleton _ _, fun a ha b hb => ?_⟩
      have ha := List.mem_eraseDups.mp ha
      rw [List.mem_singleton.mp hb, List.idxOf_append_of_mem ha, List.idxOf_append_of_notMem hmem]
      exact Nat.lt_add_right _ (List.idxOf_lt_length_of_mem ha)

theorem firstOccurrences_eraseDups (all : List String) : FirstOccurrences all all.eraseDups where
  mem_iff _ := List.mem_eraseDups
  increasing := pairwise_idxOf_eraseDups all

namespace Program

variable {program : Program}

/-- The lines of the messages of all fields, by the number of the field and then as they stand. -/
def linesOf (messages : program.Id → List String) : List String :=
  (List.finRange program.size).flatMap fun id =>
    (messages id).map fun message => s!"{(program.field id).name}: {message}"

/-- A report of messages: their lines, each different one once, where it stands first, and with the
number of its occurrences if there are several.  The occurrences are as many as the messages. -/
def Reports (messages : program.Id → List String) (report : List String) : Prop :=
  let all := linesOf messages
  ∃ lines, FirstOccurrences all lines ∧
    (report = lines.map fun line =>
      if all.count line = 1 then line else s!"{line} ({all.count line} times)") ∧
    (lines.map all.count).sum =
      ((List.finRange program.size).map fun id => (messages id).length).sum

theorem length_linesOf (messages : program.Id → List String) : (linesOf messages).length =
    ((List.finRange program.size).map fun id => (messages id).length).sum := by
  simp [linesOf, List.length_flatMap]

theorem reports_tally (messages : program.Id → List String) : Reports messages
    (((linesOf messages).foldl (fun counts line => Evaluation.countLine line counts) []).map
      fun (line, times) => Evaluation.showCount line times) := by
  have hlines := firstOccurrences_eraseDups (linesOf messages)
  refine ⟨_, hlines, ?_, ?_⟩
  · rw [Evaluation.foldl_countLine, List.map_map]
    rfl
  · rw [hlines.sum_count, length_linesOf]

theorem preorder_eq_finRange (program : Program) :
    program.preorder = List.finRange program.size := by
  apply List.map_injective_iff.mpr Fin.val_injective
  rw [Indexed.map_val_preorder, List.map_coe_finRange_eq_range]

end Program

open Program Indexed

/-- Whatever is on record, the report has a line for each message, and counts each message once.  It
is the same for the lists by number, with any text for messages. -/
theorem errors_aggregated (program : Program) :
    (∀ e : Evaluation program,
      Reports (fun id => e.errors[id].map EvaluationError.message) e.errorLines) ∧
    ∀ (cache : List (Option Selection)) (messages : Vector (List String) program.size),
      let tables : Tables := { cache, errors := messages.toList }
      ∃ report, (collectErrors (nodesOf program) program.size).run tables = some (report, tables) ∧
        Reports messages.get report := by
  constructor
  · intro e
    have hrecorded : e.recorded = linesOf fun id => e.errors[id].map EvaluationError.message := by
      rw [Evaluation.recorded, preorder_eq_finRange, linesOf]
      simp only [List.map_map]
      rfl
    rw [Evaluation.errorLines, hrecorded]
    exact reports_tally _
  · intro cache messages tables
    refine ⟨_, ?_, reports_tally messages.get⟩
    have herrors : ∀ id : program.Id, tables.errors[id.val]? = some (messages.get id) :=
      getElem?_toList_fin messages
    unfold collectErrors
    rw [OnTables.run_taken (traverse_root (Nat.le_refl _)), ← map_val_preorder, StateT.run_bind,
      run_mapM_messagesOf herrors, preorder_eq_finRange]
    dsimp only [Option.bind_eq_bind, Option.bind_some]
    rw [← List.flatMap_def]
    rfl

end DocQuery
