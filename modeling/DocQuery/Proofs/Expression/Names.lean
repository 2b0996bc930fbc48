import DocQuery.Proofs.Expression.RoundTrip
import DocQuery.Proofs.Tree.Slots

/-! Names in compiled programs.  Every field has a name of the grammar, the root included, and such
a name has no closing brace inside. -/

namespace DocQuery

theorem Forest.Printable.name_of_mem {f : Forest Field} (h : f.Printable) :
    ∀ field ∈ f.labels, Expression.IsName field.name := by
  induction f with
  | nil => exact fun _ hfield => nomatch hfield
  | cons field children rest ihc ihr =>
    obtain ⟨hfield, _, hchildren, hrest⟩ := h
    rw [labels]
    refine List.forall_mem_cons.mpr ⟨hfield.name, fun other hother => ?_⟩
    rcases List.mem_append.mp hother with hother | hother
    · exact ihc hchildren other hother
    · exact ihr hrest other hother

/-- A name is written by name bytes, and a closing brace is none. -/
theorem Expression.IsName.close_not_mem {name : String} (h : IsName name) :
    '\x7d' ∉ name.toList := by
  intro hclose
  have hbyte : (0x7d : UInt8) ∈ Utf8.encode name :=
    List.mem_flatMap.mpr ⟨'\x7d', hclose, by decide⟩
  have hname := h.2 _ hbyte
  revert hname
  decide

theorem Program.isName_of_compile {bytes : List UInt8} {program : Program}
    (h : compile bytes = .ok program) (id : program.Id) :
    Expression.IsName (program.field id).name := by
  obtain ⟨_, _, shape, forest, _, hsentence, rfl⟩ := sentence_of_compile h
  have hprintable := (Expression.printable_of_sentence hsentence).1
  have hroot : Expression.IsName Field.root.name := ⟨by decide, by decide +kernel⟩
  rcases List.mem_cons.mp (Layout.label_mem _ id) with hlabel | hfield
  · rw [field, hlabel]
    exact hroot
  · exact hprintable.name_of_mem _ hfield

end DocQuery
