import DocQuery.Proofs.Evaluation.Run
import DocQuery.Proofs.Program.Lookup
import DocQuery.Proofs.Value.Projection

/-! What a run shows.  The data is made of the fields that are not virtual, and of nothing else, as
long as no array has a virtual field right below it: an object and each object of a list leaves such
a field out with its name, but the items of an array have no names left, so an array keeps them. -/

namespace DocQuery

/-- The children of a field that are not virtual. -/
def Program.visibleChildren (program : Program) (id : program.Id) :
    List { c : program.Id // id < c } :=
  (program.children id).filter fun c => !(program.field c.val).isVirtual

/-- The children of a field whose values a run shows: an array keeps all of them. -/
def Program.shownChildren (program : Program) (id : program.Id) :
    List { c : program.Id // id < c } :=
  if (program.field id).type = .array then program.children id else program.visibleChildren id

namespace Reference

variable {program : Program} (registry : Registry)
  (below : (id : program.Id) → List { c : program.Id // id < c })

/-- JSON for a field under a context, made of the fields that `below` gives for each field.  An
element of a list of objects has an object even if no field of it is shown. -/
def output (here : Context program) (id : program.Id) : Json :=
  let field := program.field id
  match selection registry here id with
  | none => (Value.empty field.type).project
  | some s =>
    match field.type with
    | .text | .number => ((scalar field.type s).toOption.getD (.empty field.type)).project
    | .object =>
      .ofMembers <| Value.ofFields <| (below id).map fun ⟨c, _⟩ =>
        ((program.field c).name, output here c)
    | .array =>
      .array <| s.elements.flatMap fun element =>
        (below id).map fun ⟨c, _⟩ => output (here.enter id element) c
    | .objects =>
      .array <| if (program.children id).isEmpty then [] else
        s.elements.map fun element =>
          .ofMembers <| Value.ofFields <| (below id).map fun ⟨c, _⟩ =>
            ((program.field c).name, output (here.enter id element) c)
termination_by program.size - id.val
decreasing_by all_goals exact Nat.sub_lt_sub_left id.isLt ‹_›

/-- JSON for a document, made of the fields that `below` gives for each field. -/
def outputData (document : String) : Json :=
  let fields := Value.ofFields <| (below program.root).map fun ⟨c, _⟩ =>
    ((program.field c).name, output registry below (.start program document) c)
  match program.shape with
  | .object => .ofMembers fields
  | .atom => (fields.head?.map (·.2)).getD .null

variable {registry} {here : Context program} {id : program.Id}

theorem projectFields_members {value : program.Id → Value} {shown : program.Id → Json}
    (h : ∀ c ∈ program.children id, (value c.val).project = shown c.val) :
    Value.projectFields (Value.ofFields ((program.children id).map fun c =>
        ((program.field c.val).name, value c.val))) =
      Value.ofFields ((program.visibleChildren id).map fun c =>
        ((program.field c.val).name, shown c.val)) := by
  rw [Value.projectFields_ofFields, Program.visibleChildren, List.filter_map, List.map_map]
  congr 1
  refine List.map_congr_left fun c hc => ?_
  exact congrArg _ (h c (List.mem_of_mem_filter hc))

/-- Rows with an entry for each child are empty only if there are no children. -/
theorem filter_rows {α β γ : Type} (elements : List α) (children : List β) (entry : α → β → γ) :
    (elements.map fun element => children.map (entry element)).filter (!·.isEmpty) =
      if children.isEmpty then []
      else elements.map fun element => children.map (entry element) := by
  cases children with
  | nil => simp
  | cons c children =>
    rw [if_neg (by simp), List.filter_eq_self]
    simp

theorem project_value (here : Context program) (id : program.Id) :
    (value registry here id).project = output registry program.shownChildren here id := by
  induction hn : program.size - id.val using Nat.strongRecOn generalizing id here with
  | ind n ih =>
  subst hn
  have hchild : ∀ here, ∀ c ∈ program.children id, (value registry here c.val).project =
      output registry program.shownChildren here c.val := fun here c _ =>
    ih _ (Nat.sub_lt_sub_left id.isLt c.property) here c.val rfl
  rw [value, output]
  dsimp only
  cases selection registry here id with
  | none => rfl
  | some s =>
  cases htype : (program.field id).type with
  | text | number => rfl
  | object =>
    have hshown : program.shownChildren id = program.visibleChildren id := by
      rw [Program.shownChildren, htype, if_neg (by decide)]
    dsimp only
    rw [Value.project, hshown]
    exact congrArg Json.ofMembers (projectFields_members (hchild here))
  | array =>
    have hshown : program.shownChildren id = program.children id := by
      rw [Program.shownChildren, htype, if_pos rfl]
    dsimp only
    rw [Value.project, Value.projectItems_eq_map, List.map_flatMap, hshown]
    refine congrArg Json.array (List.flatMap_congr fun element _ => ?_)
    rw [List.map_map]
    exact List.map_congr_left fun c hc => hchild (here.enter id element) c hc
  | objects =>
    have hshown : program.shownChildren id = program.visibleChildren id := by
      rw [Program.shownChildren, htype, if_neg (by decide)]
    dsimp only
    rw [Value.project, Value.projectObjects_eq_map, hshown, filter_rows]
    refine congrArg Json.array ?_
    split
    · rfl
    · rw [List.map_map, List.map_map]
      exact List.map_congr_left fun element _ =>
        congrArg Json.ofMembers (projectFields_members (hchild (here.enter id element)))

/-- A run shows the children that it keeps, an atom that of its first field. -/
theorem data_eq_outputData (program : Program) (registry : Registry) (document : String) :
    data program registry document = outputData registry program.shownChildren document := by
  have hroot : program.shownChildren program.root = program.visibleChildren program.root := by
    have htype : (program.field program.root).type ≠ .array := by
      rw [Program.field_root]
      decide
    rw [Program.shownChildren, if_neg htype]
  have hchild : ∀ c ∈ program.children program.root,
      (value registry (.start program document) c.val).project =
        output registry program.shownChildren (.start program document) c.val := fun c _ =>
    project_value _ c.val
  have hmembers := projectFields_members hchild
  rw [data, outputData, hroot]
  cases program.shape with
  | object => exact congrArg Json.ofMembers hmembers
  | atom =>
    rw [Value.projectTop_atom]
    exact congrArg (fun members => (members.head?.map (·.2)).getD Json.null) hmembers

end Reference

/-- No array has a virtual field right below it. -/
def Program.ArraysVisible (program : Program) : Prop :=
  ∀ id, (program.field id).type = .array →
    ∀ c ∈ program.children id, (program.field c.val).isVirtual = false

instance (program : Program) : Decidable program.ArraysVisible :=
  inferInstanceAs (Decidable (∀ _, _))

theorem Program.ArraysVisible.shownChildren {program : Program} (h : program.ArraysVisible) :
    program.shownChildren = program.visibleChildren := by
  funext id
  rw [Program.shownChildren]
  split
  · rename_i htype
    refine (List.filter_eq_self.mpr fun c hc => ?_).symm
    rw [h id htype c hc]
    rfl
  · rfl

/-- If no array has a virtual field right below it, the data of a run is made of the fields that are
not virtual: objects and the objects of lists have no other members, an array has an item for each
of them in each element, and an atom without any is null. -/
theorem data_shows_visible {program : Program} (h : program.ArraysVisible) (registry : Registry)
    (document : String) :
    (program.run registry document).data =
        Reference.outputData registry program.visibleChildren document ∧
      (∀ here id s, (program.field id).type = .array →
        Reference.selection registry here id = some s →
          ∃ items, (Reference.value registry here id).project = .array items ∧
            items.length = s.size * (program.visibleChildren id).length) ∧
      (program.shape = .atom → program.visibleChildren program.root = [] →
        (program.run registry document).data = .null) := by
  have hdata : (program.run registry document).data =
      Reference.outputData registry program.visibleChildren document := by
    rw [(run_eq_reference program registry document).1, Reference.data_eq_outputData,
      h.shownChildren]
  refine ⟨hdata, fun here id s htype hs => ?_, fun hshape hnone => ?_⟩
  · rw [Reference.project_value, h.shownChildren, Reference.output, hs, htype]
    refine ⟨_, rfl, ?_⟩
    rw [List.length_flatMap, List.map_congr_left fun _ _ => List.length_map _, List.map_const',
      List.sum_replicate, smul_eq_mul, s.length_elements]
  · rw [hdata, Reference.outputData, hshape, hnone]
    rfl

/-- A virtual field beside an array of visible ones. -/
theorem data_shows_visible_list :
    let program := Program.ofFields .object (.cons ⟨"__v__", .text, [⟨"template", ["v"]⟩]⟩ .nil
      (.cons ⟨"xs", .array, []⟩ (.cons ⟨"x", .text, [⟨"link", ["__v__"]⟩]⟩ .nil .nil) .nil))
    (program.run .builtin "").data =
      Reference.outputData .builtin program.visibleChildren "" := by
  intro program
  have hvisible : program.ArraysVisible := by decide
  exact (data_shows_visible hvisible .builtin "").1

/-- The value of a virtual field right below an array is an item of the array. -/
theorem virtual_item_in_data :
    compile (Utf8.encode "\x7b xs [ __v__ `template(\"v\")` x `template(\"x\")` ] \x7d") =
        .ok (.ofFields .object (.cons ⟨"xs", .array, []⟩
          (.cons ⟨"__v__", .text, [⟨"template", ["v"]⟩]⟩ .nil
            (.cons ⟨"x", .text, [⟨"template", ["x"]⟩]⟩ .nil .nil)) .nil)) ∧
      isVirtualName "__v__" ∧
      ((Program.ofFields .object (.cons ⟨"xs", .array, []⟩
        (.cons ⟨"__v__", .text, [⟨"template", ["v"]⟩]⟩ .nil
          (.cons ⟨"x", .text, [⟨"template", ["x"]⟩]⟩ .nil .nil)) .nil)).run .builtin "").data =
        .object [("xs", .array [.string "v", .string "x"])] := by
  refine ⟨?_, ?_, ?_⟩ <;> cbv

end DocQuery
