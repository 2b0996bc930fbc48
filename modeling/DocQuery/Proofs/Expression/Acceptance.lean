import DocQuery.Program
import DocQuery.Proofs.Expression.Block

/-! Compiling accepts the grammar and nothing else.  What compiles starts with an expression of the
grammar that declares the fields of the program.  An expression of the grammar compiles to the
fields it declares, and so does a block in braces with anything behind it.  The grammar therefore
gives no expression two meanings. -/

namespace DocQuery

open Expression

/-- What compiles starts with an expression that declares the program's fields. -/
theorem sentence_of_compile {bytes : List UInt8} {program : Program}
    (h : compile bytes = .ok program) :
    ∃ expression more shape fields, bytes = expression ++ more ∧
      Sentence shape fields expression ∧ program = .ofFields shape fields := by
  rw [compile] at h
  split at h
  · rename_i shape fields c hlt hread
    cases h
    obtain ⟨expression, hbytes, hprogram⟩ :=
      Grammar.program_cut (program_of_reads ⟨_, hread, rfl, rfl⟩)
    exact ⟨expression, c.rest, shape, fields, hbytes, ⟨[], by decide, hprogram⟩, rfl⟩
  · cases h

/-- A text of the grammar compiles, if nothing behind it goes on with a field. -/
theorem compile_of_program {shape : Shape} {fields : Forest Field} {bytes r : List UInt8}
    (h : Grammar.program shape fields bytes r) (hr : shape = .atom → Apart continuations r) :
    compile bytes = .ok (.ofFields shape fields) := by
  obtain ⟨⟨⟨_, c⟩, hlt⟩, hread, rfl, _⟩ := reads_of_program (c := .start bytes) h hr
  rw [compile, hread]

theorem compile_of_sentence {shape : Shape} {fields : Forest Field} {bytes : List UInt8}
    (h : Sentence shape fields bytes) : compile bytes = .ok (.ofFields shape fields) := by
  obtain ⟨blanks, hblanks, hprogram⟩ := h
  refine compile_of_program hprogram fun _ b _ hhead => ?_
  rw [significant_blanks hblanks] at hhead
  cases hhead

theorem compile_append_of_sentence {fields : Forest Field} {bytes : List UInt8}
    (h : Sentence .object fields bytes) (more : List UInt8) :
    compile (bytes ++ more) = .ok (.ofFields .object fields) := by
  obtain ⟨blanks, _, hprogram⟩ := h
  exact compile_of_program (Grammar.program_append hprogram more) fun h => nomatch h

/-- An expression declares its fields and no others. -/
theorem sentence_unique {shape shape' : Shape} {fields fields' : Forest Field}
    {bytes : List UInt8} (h : Sentence shape fields bytes) (h' : Sentence shape' fields' bytes) :
    shape = shape' ∧ fields = fields' := by
  have heq := (compile_of_sentence h).symm.trans (compile_of_sentence h')
  have heq := Except.ok.inj heq
  exact ⟨congrArg Program.shape heq, congrArg Program.fields heq⟩

/-- Compiling accepts exactly the grammar. -/
theorem compile_accepts_grammar (bytes : List UInt8) :
    (∀ program, compile bytes = .ok program →
      ∃ expression more shape fields, bytes = expression ++ more ∧
        Sentence shape fields expression ∧ program = .ofFields shape fields) ∧
    (∀ shape fields, Sentence shape fields bytes →
      compile bytes = .ok (.ofFields shape fields)) ∧
    (∀ fields, Sentence .object fields bytes → ∀ more,
      compile (bytes ++ more) = .ok (.ofFields .object fields)) := by
  refine ⟨?_, ?_, ?_⟩
  · intro program h
    exact sentence_of_compile h
  · intro shape fields h
    exact compile_of_sentence h
  · intro fields h more
    exact compile_append_of_sentence h more

end DocQuery
