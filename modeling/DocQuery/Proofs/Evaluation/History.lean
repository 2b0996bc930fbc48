import DocQuery.Proofs.Evaluation.Run

/-! Requests to one evaluation in any order.  Outside an iteration every state is coherent with the
context in which only the root stands at something, whichever fields were asked for before, those
inside an iterated field included.  So the answer to a request does not depend on the requests
before it, and neither does the data of a run that follows them. -/

namespace DocQuery

open Evaluation Evaluating

variable {program : Program} {registry : Registry}

/-- What can be asked of an evaluation. -/
inductive Request (program : Program) where
  | selection (id : program.Id)
  | text (id : program.Id)
  | render (id : program.Id) (arg : String)
  | evaluate (id : program.Id)

/-- What it answers. -/
inductive Answer where
  | selection (s : Option Selection)
  | text (s : String)
  | value (v : Value)

namespace Request

/-- The answer to a request, which may fill and empty slots. -/
def answer (registry : Registry) : Request program → Evaluating program Answer
  | selection id => return .selection (← Evaluating.selection registry id)
  | text id => return .text (← fieldText registry id)
  | render id arg => return .text (← Evaluating.render registry id arg)
  | evaluate id => return .value (← Evaluating.evaluate registry id)

/-- The answer of the reference, under a context. -/
def reference (registry : Registry) (here : Context program) : Request program → Answer
  | selection id => .selection (Reference.selection registry here id)
  | text id => .text (Reference.fieldText registry here id)
  | render id arg =>
    .text (Reference.render id (fun f _ => Reference.fieldText registry here f) arg)
  | evaluate id => .value (Reference.value registry here id)

end Request

/-- The state that a list of requests leads to from the start. -/
def Evaluation.after (registry : Registry) (document : String) (history : List (Request program)) :
    Evaluation program :=
  history.foldl (fun e request => ((request.answer registry).run e).2) (.start program document)

theorem computes_fieldText {here : Context program} (id : program.Id) :
    Computes (Coherent registry here program.size) program.size (fieldText registry id)
      (Reference.fieldText registry here id) (Reference.selectionErrors registry here id) :=
  (computes_selection registry here id id.isLt).map

/-- A request is answered as by the reference, and leaves a coherent state. -/
theorem computes_answer (registry : Registry) (document : String) (request : Request program) :
    ∃ raised, Computes (Coherent registry (.start program document) program.size) program.size
      (request.answer registry) (request.reference registry (.start program document)) raised := by
  cases request with
  | selection id => exact ⟨_, (computes_selection registry _ id id.isLt).map⟩
  | text id => exact ⟨_, (computes_fieldText id).map⟩
  | render id arg =>
    exact ⟨_, (computes_renderWith
      (fun f => Reference.selectionErrors registry (.start program document) f.val)
      (fun f _ => computes_fieldText f) arg).map⟩
  | evaluate id =>
    exact ⟨_, ((computes_evaluate registry _ id (.start document id)).widen
      (Layout.stop_le_size id)).map⟩

/-- Requests lead from the start to coherent states only. -/
theorem coherent_after (registry : Registry) (document : String)
    (history : List (Request program)) :
    Coherent registry (.start program document) program.size
      (Evaluation.after registry document history) := by
  suffices ∀ e, Coherent registry (.start program document) program.size e →
      Coherent registry (.start program document) program.size
        (history.foldl (fun e request => ((request.answer registry).run e).2) e) from
    this _ (coherent_start registry document program.size)
  induction history with
  | nil => exact fun e he => he
  | cons request history ih =>
    intro e he
    obtain ⟨_, hcomputes⟩ := computes_answer registry document request
    obtain ⟨e1, hrun, he1, _⟩ := hcomputes e he
    rw [List.foldl_cons, hrun]
    exact ih e1 he1

/-- After any requests the next one is answered as at the start, and a run gives the same data. -/
theorem answer_after (program : Program) (registry : Registry) (document : String)
    (history : List (Request program)) :
    (∀ next : Request program,
      ((next.answer registry).run (Evaluation.after registry document history)).1 =
        ((next.answer registry).run (.start program document)).1) ∧
      ((finish registry).run (Evaluation.after registry document history)).1.data =
        ((finish registry).run (.start program document)).1.data := by
  have hstart : Coherent registry (.start program document) program.size
      (.start program document) := coherent_start registry document program.size
  have hafter := coherent_after registry document history
  constructor
  · intro next
    obtain ⟨_, hcomputes⟩ := computes_answer registry document next
    obtain ⟨_, hrun, _⟩ := hcomputes _ hafter
    obtain ⟨_, hrun', _⟩ := hcomputes _ hstart
    rw [hrun, hrun']
  · obtain ⟨_, hrun, _⟩ := finish_run hafter
    obtain ⟨_, hrun', _⟩ := finish_run hstart
    rw [hrun, hrun']

end DocQuery
