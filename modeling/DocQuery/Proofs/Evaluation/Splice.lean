import DocQuery.Proofs.Evaluation.History
import DocQuery.Proofs.Evaluation.Placeholder
import DocQuery.Proofs.Expression.Names
import DocQuery.Proofs.Program.Lookup
import DocQuery.Proofs.Text.Template

/-! Text of one field taken over by another.  A field whose last call is a `link` to another field,
or a template that is a reference to it and nothing else, has that field's text, except that the
text is searched for the placeholder when the call is made.  It is not searched for references, and
a text without the placeholder is taken over as it is. -/

namespace DocQuery

open Evaluating

/-- A pipeline runs its first calls, and then the others on what those give. -/
theorem runPipeline_append (registry : Registry) (s : Selection) (front back : List Call) :
    (runPipeline registry s (front ++ back)).2 =
      (runPipeline registry s front).2.bind fun s => (runPipeline registry s back).2 := by
  induction front generalizing s with
  | nil => rfl
  | cons call front ih =>
    rw [List.cons_append, runPipeline, runPipeline]
    dsimp only
    split
    · rfl
    · exact ih _

/-- A call that takes over the text of the field that a name means, and nothing else. -/
def Call.Splices (name : String) (call : Call) : Prop :=
  call = ⟨"link", [name]⟩ ∨ call = ⟨"template", ["\x7b$" ++ name ++ "\x7d"]⟩

/-- Such a call gives its argument, in which the placeholder is filled. -/
theorem runPipeline_splice {call : Call} {name : String} (hcall : call.Splices name) (s : Selection)
    (text : String) :
    (runPipeline .builtin s [{ call with args := [text] }]).2 =
      .ok (.text (Text.replaceAll text placeholder s.raw)) := by
  have hargs : (fillPlaceholder s [text]).1 = [Text.replaceAll text placeholder s.raw] :=
    fillPlaceholder_fst s [text]
  rw [runPipeline]
  dsimp only
  rw [hargs]
  rcases hcall with rfl | rfl <;> rfl

theorem Template.ofText_reference {name : String} (h : '\x7d' ∉ name.toList) :
    Template.ofText ("\x7b$" ++ name ++ "\x7d") = { references := [("", name)], tail := "" } := by
  have hfirst : FirstReference ("\x7b$" ++ name ++ "\x7d").toList [] name.toList [] :=
    ⟨by simp, fun _ _ _ => Nat.zero_le _, h⟩
  have hrest : nextReference? [] = none := rfl
  rw [ofText, ofChars_of_reference (nextReference?_eq_some_iff.mpr hfirst), ofChars_of_plain hrest]
  simp

variable {program : Program} {here : Context program} {a b : program.Id} {hab : a < b}
  {name : String}

namespace Reference

theorem resolveCall_of_splices {call : Call} (hcall : call.Splices name)
    (hname : name ≠ (program.field b).name) (hform : Expression.IsName name)
    (hlookup : program.lookup b name = some ⟨a, hab⟩)
    (text : (f : program.Id) → f < b → String) :
    resolveCall b text call = some { call with args := [text a hab] } := by
  rcases hcall with rfl | rfl
  · simp [resolveCall, hname, hlookup]
  · have hrender : render b text ("\x7b$" ++ name ++ "\x7d") = text a hab := by
      rw [render, Template.ofText_reference hform.close_not_mem]
      simp [hform.1, hname, hlookup, String.join]
    simp [resolveCall, hrender]

/-- The selection that the last call of a field is made on. -/
def lastInput (registry : Registry) (here : Context program) (id : program.Id) :
    Option Selection :=
  (program.parent id).bind fun q => (selection registry here q.val).bind fun s =>
    (runPipeline registry s (calls registry here id).dropLast).2.toOption

/-- Under every context the text is taken over, the placeholder in it being filled. -/
theorem fieldText_of_splices {front : List Call} {last : Call} (hhere : here b = none)
    (hpipeline : (program.field b).pipeline = front ++ [last]) (hlast : last.Splices name)
    (hname : name ≠ (program.field b).name) (hform : Expression.IsName name)
    (hlookup : program.lookup b name = some ⟨a, hab⟩)
    (hfound : (selection .builtin here b).isSome) :
    ∃ s, lastInput .builtin here b = some s ∧ fieldText .builtin here b =
      Text.replaceAll (fieldText .builtin here a) placeholder s.raw := by
  obtain ⟨first, hcalls⟩ : ∃ first, calls .builtin here b =
      first ++ [{ last with args := [fieldText .builtin here a] }] := by
    refine ⟨front.filterMap (resolveCall b fun f _ => fieldText .builtin here f), ?_⟩
    rw [calls, hpipeline, List.filterMap_append, List.filterMap_cons_some
      (resolveCall_of_splices hlast hname hform hlookup _), List.filterMap_nil]
  cases hparent : program.parent b with
  | none =>
    rw [selection, hhere, hparent] at hfound
    cases hfound
  | some q =>
    obtain ⟨q, hq⟩ := q
    rw [selection_of_parent .builtin hhere hparent, hcalls] at hfound
    rw [lastInput, hparent, fieldText, selection_of_parent .builtin hhere hparent, hcalls,
      List.dropLast_concat, Option.bind_some]
    dsimp only
    cases hq : selection .builtin here q with
    | none => rw [hq] at hfound; cases hfound
    | some s =>
    rw [hq, Option.bind_some, runPipeline_append] at hfound
    rw [Option.bind_some, Option.bind_some, runPipeline_append]
    cases hfirst : (runPipeline .builtin s first).2 with
    | error e => rw [hfirst] at hfound; cases hfound
    | ok input =>
    refine ⟨input, rfl, ?_⟩
    change ((runPipeline _ _ _).2.toOption.map _).getD "" = _
    rw [runPipeline_splice hlast]
    rfl

end Reference

/-- After any requests a field of a compiled program has the text that its last call takes over,
with the raw text of the selection that the call is made on in each place of the placeholder.  So
the text is taken over as it is exactly if the placeholder does not occur in it, or is that raw text
itself. -/
theorem fieldText_splice {bytes : List UInt8} (hcompile : compile bytes = .ok program)
    {front : List Call} {last : Call}
    (hpipeline : (program.field b).pipeline = front ++ [last]) (hlast : last.Splices name)
    (hname : name ≠ (program.field b).name) (hlookup : program.lookup b name = some ⟨a, hab⟩)
    (document : String) (history : List (Request program))
    (hfound : ((selection .builtin b).run (Evaluation.after .builtin document history)).1.isSome) :
    let text (id : program.Id) :=
      ((fieldText .builtin id).run (Evaluation.after .builtin document history)).1
    ∃ s, Reference.lastInput .builtin (.start program document) b = some s ∧
      text b = Text.replaceAll (text a) placeholder s.raw ∧
      (text b = text a ↔ Text.contains (text a) placeholder = false ∨ s.raw = placeholder) := by
  intro text
  have hcoherent := coherent_after .builtin document history
  have htext : ∀ id, text id = Reference.fieldText .builtin (.start program document) id := by
    intro id
    obtain ⟨_, hrun, _⟩ := computes_fieldText id _ hcoherent
    simp only [text]
    rw [hrun]
  have hselection : (Reference.selection .builtin (.start program document) b).isSome := by
    obtain ⟨_, hrun, _⟩ := computes_selection .builtin _ b b.isLt _ hcoherent
    rwa [hrun] at hfound
  have hhere : Context.start program document b = none := by
    rw [Context.start, if_neg (Program.ne_root_of_lt hab)]
  have hform : Expression.IsName name := by
    rw [← Program.name_of_lookup hlookup]
    exact Program.isName_of_compile hcompile a
  obtain ⟨s, hs, hspliced⟩ :=
    Reference.fieldText_of_splices hhere hpipeline hlast hname hform hlookup hselection
  have hequal : text b = Text.replaceAll (text a) placeholder s.raw := by
    rw [htext, htext, hspliced]
  refine ⟨s, hs, hequal, ?_⟩
  rw [hequal]
  exact Text.replaceAll_eq_self_iff (by decide)

/-- A field, and one that takes over its text. -/
def linked : Program :=
  .ofFields .object (.cons ⟨"a", .text, [⟨"text", []⟩]⟩ .nil
    (.cons ⟨"b", .text, [⟨"link", ["a"]⟩]⟩ .nil .nil))

/-- A document without the placeholder. -/
theorem fieldText_splice_plain :
    compile (Utf8.encode "\x7b a `text()` b `link(\"a\")` \x7d") = .ok linked ∧
      ∃ s, Reference.lastInput .builtin (.start linked "\x7b$b\x7d") ⟨2, by decide⟩ = some s ∧
        ((fieldText .builtin (⟨2, by decide⟩ : linked.Id)).run
          (Evaluation.after .builtin "\x7b$b\x7d" [])).1 =
            Text.replaceAll ((fieldText .builtin (⟨1, by decide⟩ : linked.Id)).run
              (Evaluation.after .builtin "\x7b$b\x7d" [])).1 placeholder s.raw := by
  have hcompile : compile (Utf8.encode "\x7b a `text()` b `link(\"a\")` \x7d") = .ok linked := by
    cbv
  have hpipeline : (linked.field ⟨2, by decide⟩).pipeline = [] ++ [⟨"link", ["a"]⟩] := by cbv
  have hname : "a" ≠ (linked.field ⟨2, by decide⟩).name := by
    have hb : (linked.field ⟨2, by decide⟩).name = "b" := by cbv
    rw [hb]
    decide
  have hlookup : linked.lookup ⟨2, by decide⟩ "a" = some ⟨⟨1, by decide⟩, by decide⟩ := by cbv
  have hfound : ((selection .builtin (⟨2, by decide⟩ : linked.Id)).run
      (Evaluation.after .builtin "\x7b$b\x7d" [])).1.isSome := by cbv
  obtain ⟨s, hs, htext, _⟩ := fieldText_splice hcompile hpipeline (.inl rfl) hname hlookup
    "\x7b$b\x7d" [] hfound
  exact ⟨hcompile, s, hs, htext⟩

/-- The placeholder in the text of a field is filled where the text is taken over. -/
theorem exists_text_not_verbatim :
    compile (Utf8.encode "\x7b a `text()` b `link(\"a\")` \x7d") = .ok linked ∧
      (linked.field ⟨2, by decide⟩).pipeline = [⟨"link", ["a"]⟩] ∧
      linked.lookup ⟨2, by decide⟩ "a" = some ⟨⟨1, by decide⟩, by decide⟩ ∧
      ((fieldText .builtin (⟨1, by decide⟩ : linked.Id)).run
        (.start linked "x\x1a\x7b$\x7d\x1ay")).1 = "x\x1a\x7b$\x7d\x1ay" ∧
      ((fieldText .builtin (⟨2, by decide⟩ : linked.Id)).run
        (.start linked "x\x1a\x7b$\x7d\x1ay")).1 = "xx\x1a\x7b$\x7d\x1ayy" := by
  refine ⟨?_, ?_, ?_, ?_, ?_⟩ <;> cbv

end DocQuery
