import DocQuery.Proofs.Evaluation.Advance

/-! Lines of recorded errors.  Every recorded error gives a line, and of equal lines one is kept. -/

namespace DocQuery.Evaluation

variable {program : Program}

/-- Counting a line keeps the others. -/
theorem mem_countLine {line l : String} {counts : List (String × Nat)} :
    l ∈ (countLine line counts).map (·.1) ↔ l = line ∨ l ∈ counts.map (·.1) := by
  induction counts with
  | nil => simp [countLine]
  | cons c counts ih =>
    obtain ⟨k, n⟩ := c
    rw [countLine]
    split
    · rename_i hk
      simp [hk]
    · simp only [List.map_cons, List.mem_cons, ih]
      grind

theorem nodup_countLine {line : String} {counts : List (String × Nat)}
    (h : (counts.map (·.1)).Nodup) : ((countLine line counts).map (·.1)).Nodup := by
  induction counts with
  | nil => simp [countLine]
  | cons c counts ih =>
    obtain ⟨k, n⟩ := c
    rw [List.map_cons, List.nodup_cons] at h
    rw [countLine]
    split
    · exact List.nodup_cons.mpr h
    · rename_i hk
      rw [List.map_cons, List.nodup_cons, mem_countLine]
      exact ⟨fun hmem => hmem.elim hk h.1, ih h.2⟩

/-- The lines of a tally, each once, are those that were counted. -/
theorem tally_spec (lines : List String) (counts : List (String × Nat))
    (h : (counts.map (·.1)).Nodup) :
    ((lines.foldl (fun counts line => countLine line counts) counts).map (·.1)).Nodup ∧
      ∀ l, l ∈ (lines.foldl (fun counts line => countLine line counts) counts).map (·.1) ↔
        l ∈ lines ∨ l ∈ counts.map (·.1) := by
  induction lines generalizing counts with
  | nil => simpa using h
  | cons line lines ih =>
    obtain ⟨hnodup, hmem⟩ := ih (countLine line counts) (nodup_countLine h)
    refine ⟨hnodup, fun l => ?_⟩
    rw [List.foldl_cons, hmem, mem_countLine, List.mem_cons, or_left_comm, or_assoc]

theorem map_fst_countLine (line : String) (counts : List (String × Nat)) :
    (countLine line counts).map (·.1) =
      if line ∈ counts.map (·.1) then counts.map (·.1) else counts.map (·.1) ++ [line] := by
  induction counts with
  | nil => rfl
  | cons c counts ih =>
    obtain ⟨k, n⟩ := c
    rw [countLine]
    by_cases hk : k = line
    · simp [hk]
    · rw [if_neg hk, List.map_cons, ih]
      by_cases hmem : line ∈ counts.map (·.1)
      · simp [hmem]
      · simp [hmem, Ne.symm hk]

theorem snd_of_mem_countLine {line : String} {counts : List (String × Nat)} (times : String → Nat)
    (hnodup : (counts.map (·.1)).Nodup) (htimes : ∀ c ∈ counts, c.2 = times c.1)
    (hnew : line ∉ counts.map (·.1) → times line = 0) :
    ∀ c ∈ countLine line counts, c.2 = times c.1 + if c.1 = line then 1 else 0 := by
  induction counts with
  | nil => simpa [countLine] using hnew
  | cons c counts ih =>
    obtain ⟨k, n⟩ := c
    rw [List.map_cons, List.nodup_cons] at hnodup
    have hfirst := htimes (k, n) List.mem_cons_self
    have hrest : ∀ c ∈ counts, c.2 = times c.1 := fun c hc => htimes c (List.mem_cons_of_mem _ hc)
    intro c hc
    rw [countLine] at hc
    by_cases hk : k = line
    · subst hk
      rw [if_pos rfl] at hc
      rcases List.mem_cons.mp hc with rfl | htail
      · rw [if_pos rfl, ← hfirst]
      · have hmem : c.1 ∈ counts.map (·.1) := List.mem_map_of_mem htail
        have hne : c.1 ≠ k := fun heq => hnodup.1 (heq ▸ hmem)
        rw [if_neg hne, hrest c htail, Nat.add_zero]
    · rw [if_neg hk] at hc
      rcases List.mem_cons.mp hc with rfl | htail
      · rw [if_neg hk, ← hfirst, Nat.add_zero]
      · refine ih hnodup.2 hrest (fun hmem => hnew ?_) c htail
        rw [List.map_cons, List.mem_cons, not_or]
        exact ⟨Ne.symm hk, hmem⟩

/-- The tally of lines has each of them where it stands first, with the number of times that it
occurs. -/
theorem foldl_countLine (lines : List String) :
    lines.foldl (fun counts line => countLine line counts) [] =
      lines.eraseDups.map fun line => (line, lines.count line) := by
  have hspec : ∀ lines : List String,
      (lines.foldl (fun counts line => countLine line counts) []).map (·.1) = lines.eraseDups ∧
        ∀ c ∈ lines.foldl (fun counts line => countLine line counts) [],
          c.2 = lines.count c.1 := by
    intro lines
    induction lines using List.reverseRecOn with
    | nil => simp
    | append_singleton lines line ih =>
      obtain ⟨hlines, htimes⟩ := ih
      obtain ⟨hnodup, -⟩ := tally_spec lines [] List.nodup_nil
      rw [List.foldl_append, List.foldl_cons, List.foldl_nil]
      constructor
      · rw [map_fst_countLine, hlines, List.eraseDups_append]
        by_cases hmem : line ∈ lines
        · simp [hmem, List.removeAll]
        · simp [hmem, List.removeAll, List.eraseDups_cons]
      · intro c hc
        have hnew : line ∉ (lines.foldl (fun counts line => countLine line counts) []).map (·.1) →
            lines.count line = 0 := by
          rw [hlines, List.mem_eraseDups]
          exact List.count_eq_zero_of_not_mem
        rw [snd_of_mem_countLine lines.count hnodup htimes hnew c hc, List.count_append,
          List.count_singleton]
        simp only [beq_iff_eq, @eq_comm _ line c.1]
  obtain ⟨hlines, htimes⟩ := hspec lines
  rw [← hlines, List.map_map]
  refine (List.map_id _).symm.trans (List.map_congr_left fun c hc => ?_)
  exact Prod.ext rfl (htimes c hc)

/-- The response shows each recorded line once, with the number of times that it is on record. -/
theorem errorLines_eq (e : Evaluation program) : e.errorLines =
    e.recorded.eraseDups.map fun line => showCount line (e.recorded.count line) := by
  rw [errorLines, foldl_countLine, List.map_map]
  rfl

/-- Every field is among those whose errors are listed. -/
theorem mem_preorder (id : program.Id) : id ∈ program.preorder :=
  Layout.mem_subtree.mpr ⟨Nat.zero_le _, by rw [Program.root, Layout.stop_rootId]; exact id.isLt⟩

/-- The listed lines are those of the errors that are on record. -/
theorem mem_recorded {e : Evaluation program} {line : String} :
    line ∈ e.recorded ↔ ∃ p, e.Records p ∧ Reference.errorLine p = line := by
  simp only [recorded, List.mem_flatMap, List.mem_map, Prod.exists, Records, Reference.errorLine]
  constructor
  · rintro ⟨id, _, h⟩
    exact ⟨id, h⟩
  · rintro ⟨id, h⟩
    exact ⟨id, mem_preorder id, h⟩

/-- A line is on record as often as all fields together have errors of that line. -/
theorem count_recorded (e : Evaluation program) (line : String) : e.recorded.count line =
    (program.preorder.map fun id =>
      e.errors[id].countP fun error => Reference.errorLine (id, error) == line).sum := by
  rw [recorded, List.count_flatMap]
  congr 1
  refine List.map_congr_left fun id _ => ?_
  rw [Function.comp_apply, List.count, List.countP_map]
  rfl

end DocQuery.Evaluation
