import DocQuery.Proofs.Evaluation.Projection
import DocQuery.Proofs.Expression.Names
import DocQuery.Proofs.Json.RoundTrip
import DocQuery.Response.Reader

/-! Reading a response that was written.  An expression cannot declare a number, so the data of a
compiled program is textual.  A response is then read back from both of its texts, the data one level
below the response itself. -/

namespace DocQuery

/-! Data of compiled programs. -/

namespace Json

theorem Textual.ofMembers {members : List (String × Json)} (h : ∀ m ∈ members, m.2.Textual) :
    (ofMembers members).Textual :=
  .object (pairwise_keys_sortMembers members) fun m hm => h m (mem_of_mem_sortMembers hm)

end Json

theorem Value.mem_of_mem_insertField {key : String} {value : α} {fields : List (String × α)}
    {f : String × α} (h : f ∈ insertField key value fields) : f.2 = value ∨ f ∈ fields := by
  induction fields with
  | nil => exact .inl (congrArg Prod.snd (List.mem_singleton.mp h))
  | cons g fields ih =>
    obtain ⟨k, v⟩ := g
    rw [insertField] at h
    split at h
    · rcases List.mem_cons.mp h with rfl | h
      · exact .inl rfl
      · exact .inr (List.mem_cons_of_mem _ h)
    · rcases List.mem_cons.mp h with rfl | h
      · exact .inr List.mem_cons_self
      · exact (ih h).imp_right (List.mem_cons_of_mem _)

theorem Value.forall_ofFields {p : α → Prop} {fields : List (String × α)} (h : ∀ f ∈ fields, p f.2) :
    ∀ f ∈ ofFields fields, p f.2 := by
  induction fields using List.reverseRecOn with
  | nil => exact fun f hf => nomatch hf
  | append_singleton fields last ih =>
    intro f hf
    rw [ofFields, List.foldl_concat, ← ofFields] at hf
    rcases mem_of_mem_insertField hf with hvalue | hf
    · rw [hvalue]
      exact h last (List.mem_append_right _ List.mem_cons_self)
    · exact ih (fun f hf => h f (List.mem_append_left _ hf)) f hf

theorem FieldType.declared_ne_number (type : FieldType) : type.declared ≠ .number := by
  cases type <;> decide

theorem Forest.labels_map (f : α → β) (forest : Forest α) :
    (forest.map f).labels = forest.labels.map f := by
  induction forest with
  | nil => rfl
  | cons label children rest ihc ihr =>
    rw [map, labels, labels, List.map_cons, List.map_append, ihc, ihr]

namespace Program

/-- No field of the program is a number. -/
def Numberless (program : Program) : Prop := ∀ id, (program.field id).type ≠ .number

/-- An expression cannot declare a number. -/
theorem numberless_of_compile {bytes : List UInt8} {program : Program}
    (h : compile bytes = .ok program) : program.Numberless := by
  intro id
  obtain ⟨_, _, shape, forest, _, hsentence, rfl⟩ := sentence_of_compile h
  have hdeclared := (Expression.printable_of_sentence hsentence).2.1
  have hroot : Field.root.type ≠ .number := by decide
  rcases List.mem_cons.mp (Layout.label_mem _ id) with hlabel | hfield
  · rw [field, hlabel]
    exact hroot
  · have hmem : (ofFields shape forest).field id ∈ (forest.map Field.declared).labels := by
      rw [hdeclared]
      exact hfield
    rw [Forest.labels_map] at hmem
    obtain ⟨source, _, hsource⟩ := List.mem_map.mp hmem
    rw [← hsource]
    exact FieldType.declared_ne_number source.type

end Program

namespace Reference

variable {program : Program} {registry : Registry}
  {below : (id : program.Id) → List { c : program.Id // id < c }}

/-- A field that is empty is textual if it is no number. -/
theorem textual_project_empty {type : FieldType} (h : type ≠ .number) :
    (Value.empty type).project.Textual := by
  cases type with
  | text => exact .string ""
  | number => exact absurd rfl h
  | object => exact .ofMembers fun m hm => nomatch hm
  | array => exact .array fun item hitem => nomatch hitem
  | objects => exact .array fun item hitem => nomatch hitem

theorem textual_project_scalar (s : Selection) :
    ((scalar .text s).toOption.getD (.empty .text)).project.Textual := by
  rw [scalar]
  split
  · exact .string ""
  · exact .string s.textContent

/-- Without numbers among the fields there are none in what is shown of a field. -/
theorem textual_output (hprogram : program.Numberless) (here : Context program) (id : program.Id) :
    (output registry below here id).Textual := by
  induction hn : program.size - id.val using Nat.strongRecOn generalizing id here with
  | ind n ih =>
  subst hn
  have hchild : ∀ here, ∀ c : { c : program.Id // id < c },
      (output registry below here c.val).Textual := fun here c =>
    ih _ (Nat.sub_lt_sub_left id.isLt c.property) here c.val rfl
  have hmembers : ∀ here, (Json.ofMembers (Value.ofFields ((below id).map fun c =>
      ((program.field c.val).name, output registry below here c.val)))).Textual := by
    intro here
    refine .ofMembers (Value.forall_ofFields fun f hf => ?_)
    obtain ⟨c, _, rfl⟩ := List.mem_map.mp hf
    exact hchild here c
  rw [output]
  dsimp only
  cases selection registry here id with
  | none => exact textual_project_empty (hprogram id)
  | some s =>
  cases htype : (program.field id).type with
  | text => exact textual_project_scalar s
  | number => exact absurd htype (hprogram id)
  | object => exact hmembers here
  | array =>
    refine .array fun item hitem => ?_
    obtain ⟨element, _, hitem⟩ := List.mem_flatMap.mp hitem
    obtain ⟨c, _, rfl⟩ := List.mem_map.mp hitem
    exact hchild (here.enter id element) c
  | objects =>
    refine .array fun item hitem => ?_
    split at hitem
    · cases hitem
    · obtain ⟨element, _, rfl⟩ := List.mem_map.mp hitem
      exact hmembers (here.enter id element)

/-- The data of a program without numbers is textual. -/
theorem textual_data (hprogram : program.Numberless) (document : String) :
    (data program registry document).Textual := by
  have hfields : ∀ f ∈ Value.ofFields ((program.shownChildren program.root).map fun c =>
      ((program.field c.val).name,
        output registry program.shownChildren (.start program document) c.val)), f.2.Textual := by
    refine Value.forall_ofFields fun f hf => ?_
    obtain ⟨c, _, rfl⟩ := List.mem_map.mp hf
    exact textual_output hprogram _ c.val
  rw [data_eq_outputData, outputData]
  dsimp only
  cases program.shape with
  | object => exact .ofMembers hfields
  | atom =>
    cases hhead : (Value.ofFields ((program.shownChildren program.root).map fun c =>
      ((program.field c.val).name,
        output registry program.shownChildren (.start program document) c.val))).head? with
    | none => exact .null
    | some f => exact hfields f (List.mem_of_mem_head? hhead)

end Reference

/-! Responses. -/

namespace Response

open Json (Style Blanks Reads next?)

/-- A text is read back behind blanks. -/
theorem reads_readText {blanks : List Char} (hblanks : Blanks blanks) (s : String)
    (rest : List Char) : Reads (readText (blanks ++ (Json.writeString s ++ rest))) s rest := by
  rw [Json.writeString_append]
  obtain ⟨hlt, hnext⟩ := Json.next?_append hblanks (by decide : ¬Json.isBlank '\x22')
    (s.toList.flatMap Json.escapeChar ++ '\x22' :: rest)
  rw [readText, hnext]
  dsimp only
  rw [if_pos rfl]
  exact (Json.reads_readString s rest).bind fun _ => ⟨_, rfl⟩

theorem reads_readTexts_of_items {blanks : List Char} (hblanks : Blanks blanks) {texts : List String}
    {items rest : List Char} (h : Reads (Json.readItems readText true items) texts rest) :
    Reads (readTexts (blanks ++ '[' :: items)) texts rest := by
  obtain ⟨hlt, hnext⟩ := Json.next?_append hblanks (by decide : ¬Json.isBlank '[') items
  rw [readTexts, hnext]
  dsimp only
  rw [if_pos rfl]
  exact h.bind fun _ => ⟨_, rfl⟩

/-- A list of texts is read back behind blanks. -/
theorem reads_readTexts {blanks : List Char} (hblanks : Blanks blanks) (style : Style) (k : Nat)
    (texts : List String) (rest : List Char) :
    Reads (readTexts (blanks ++ ((Json.array (texts.map .string)).write style k ++ rest))) texts
      rest := by
  cases texts with
  | nil =>
    exact reads_readTexts_of_items hblanks (Json.reads_readItems_end Json.blanks_nil true rest)
  | cons text texts =>
    have hitem : ∀ s ∈ text :: texts, Json.Opens (Json.writeString s) ∧ ∀ blanks rest,
        Blanks blanks → Reads (readText (blanks ++ (Json.writeString s ++ rest))) s rest := by
      intro s _
      refine ⟨⟨_, _, rfl, by decide, by decide⟩, fun blanks rest hblanks => ?_⟩
      exact reads_readText hblanks s rest
    have hitems := Json.reads_readItems (Json.blanks_lineBreak style (k + 1))
      (Json.blanks_lineBreak style k) rest hitem
    have htext : (Json.array ((text :: texts).map .string)).write style k ++ rest =
        '[' :: (style.lineBreak (k + 1) ++ (Json.writeString text ++
          (texts.flatMap (fun s => ',' :: (style.lineBreak (k + 1) ++ Json.writeString s)) ++
            (style.lineBreak k ++ ']' :: rest)))) := by
      simp only [List.map_cons, Json.write, Json.writeItems_eq_flatMap, List.flatMap_map,
        List.append_assoc, List.cons_append, List.nil_append]
    rw [htext]
    exact reads_readTexts_of_items hblanks hitems

/-! The three steps through the members of a response, from the last to the first. -/

theorem readFields_end {close : List Char} (hclose : Blanks close) (data : Json)
    (errors : List String) (rest : List Char) :
    readFields (some data) (some errors) false (close ++ '\x7d' :: rest) =
      .ok ({ data, errors }, rest) := by
  rw [readFields]
  exact (Json.reads_nextKey_end hclose false rest).bind_eq fun _ => rfl

theorem readFields_errors {breaks close : List Char} (hbreaks : Blanks breaks)
    (hclose : Blanks close) (style : Style) (k : Nat) (data : Json) (errors : List String)
    (rest : List Char) :
    readFields (some data) none false (',' :: (breaks ++ (Json.writeString "errors" ++
      (style.colon ++ ((Json.array (errors.map .string)).write style k ++
        (close ++ '\x7d' :: rest)))))) = .ok ({ data, errors }, rest) := by
  have hkey := Json.reads_nextKey_more hbreaks ("errors".toList.flatMap Json.escapeChar ++ '\x22' ::
    (style.colon ++ ((Json.array (errors.map .string)).write style k ++ (close ++ '\x7d' :: rest))))
  rw [← Json.writeString_append] at hkey
  rw [readFields]
  refine hkey.bind_eq fun _ => ?_
  dsimp only
  rw [if_pos rfl]
  refine (Json.reads_readString "errors" _).bind_eq fun _ => ?_
  dsimp only
  rw [if_neg (by decide), if_pos rfl, if_neg (by decide)]
  refine (Json.reads_readColon style _).bind_eq fun _ => ?_
  refine (reads_readTexts (Json.blanks_colon_tail style) style k errors _).bind_eq fun _ => ?_
  exact readFields_end hclose data errors rest

theorem readFields_data {breaks close : List Char} (hbreaks : Blanks breaks)
    (hclose : Blanks close) (style : Style) (k : Nat) {data : Json} (hdata : data.Textual)
    (hdepth : data.depth ≤ dataDepth) (errors : List String) (rest : List Char) :
    readFields none none true (breaks ++ (Json.writeString "data" ++ (style.colon ++
      (data.write style k ++ (',' :: (breaks ++ (Json.writeString "errors" ++ (style.colon ++
        ((Json.array (errors.map .string)).write style k ++ (close ++ '\x7d' :: rest)))))))))) =
      .ok ({ data, errors }, rest) := by
  have hkey := Json.reads_nextKey_first hbreaks ("data".toList.flatMap Json.escapeChar ++ '\x22' ::
    (style.colon ++ (data.write style k ++ (',' :: (breaks ++ (Json.writeString "errors" ++
      (style.colon ++ ((Json.array (errors.map .string)).write style k ++
        (close ++ '\x7d' :: rest)))))))))
  rw [← Json.writeString_append] at hkey
  rw [readFields]
  refine hkey.bind_eq fun _ => ?_
  dsimp only
  rw [if_pos rfl]
  refine (Json.reads_readString "data" _).bind_eq fun _ => ?_
  dsimp only
  rw [if_pos rfl, if_neg (by decide)]
  refine (Json.reads_readColon style _).bind_eq fun _ => ?_
  refine (hdata.reads_readValue style dataDepth k hdepth _ _
    (Json.blanks_colon_tail style)).bind_eq fun _ => ?_
  exact readFields_errors hbreaks hclose style k data errors rest

theorem read_of_fields {text : List Char} {response : Response}
    (h : readFields none none true text = .ok (response, [])) :
    read ('\x7b' :: text) = .ok response := by
  obtain ⟨hlt, hnext⟩ := Json.next?_cons (by decide : ¬Json.isBlank '\x7b') text
  rw [read, hnext]
  dsimp only
  rw [if_pos rfl, h]
  rfl

/-- A response is read back from its text in either layout. -/
theorem ofText_write {response : Response} (hdata : response.data.Textual)
    (hdepth : response.toJson.depth ≤ Json.maxDepth) (style : Style) :
    ofText (String.ofList (response.toJson.write style 0)) = .ok response := by
  obtain ⟨data, errors⟩ := response
  have hdepth' : data.depth ≤ dataDepth := by
    rw [toJson, Json.depth, Json.depthMembers] at hdepth
    change max data.depth _ + 1 ≤ 126 + 1 at hdepth
    change data.depth ≤ 126
    omega
  have htext : (toJson { data, errors }).write style 0 = '\x7b' :: (style.lineBreak 1 ++
      (Json.writeString "data" ++ (style.colon ++ (data.write style 1 ++ (',' ::
        (style.lineBreak 1 ++ (Json.writeString "errors" ++ (style.colon ++
          ((Json.array (errors.map .string)).write style 1 ++
            (style.lineBreak 0 ++ ['\x7d'])))))))))) := by
    simp only [toJson, Json.write, Json.writeMembers, List.append_assoc, List.cons_append,
      List.nil_append]
  have hfields := readFields_data (Json.blanks_lineBreak style 1) (Json.blanks_lineBreak style 0)
    style 1 hdata hdepth' errors []
  rw [ofText, String.toList_ofList, htext, read_of_fields hfields]

/-- A response without numbers that nests as deep as a text may is read back from its compact and
from its indented text, and the data of a compiled program is without numbers. -/
theorem ofText_toJson :
    (∀ response : Response, response.data.Textual → response.toJson.depth ≤ Json.maxDepth →
      ofText response.toJson.compact = .ok response ∧
        ofText response.toJson.pretty = .ok response) ∧
      ∀ (bytes : List UInt8) (program : Program) (registry : Registry) (document : String),
        compile bytes = .ok program → (program.run registry document).data.Textual := by
  constructor
  · intro response hdata hdepth
    exact ⟨ofText_write hdata hdepth .compact, ofText_write hdata hdepth .indented⟩
  · intro bytes program registry document hcompile
    obtain ⟨e, hrun, _⟩ := finish_run (coherent_start registry document program.size)
    rw [Program.run, Program.runLogged, hrun]
    exact Reference.textual_data (Program.numberless_of_compile hcompile) document

/-- A document with a quote, a line feed and a letter that is not ASCII, taken over as text. -/
theorem ofText_toJson_quoted :
    compile (Utf8.encode "\x7ba`text()`\x7d") =
        .ok (.ofFields .object (.cons ⟨"a", .text, [⟨"text", []⟩]⟩ .nil .nil)) ∧
      ofText "\x7b\n  \"data\": \x7b\n    \"a\": \"\\\"é\\n\"\n  \x7d,\n  \"errors\": []\n\x7d" =
        .ok ⟨.object [("a", .string "\"é\n")], []⟩ := by
  have hcompile : compile (Utf8.encode "\x7ba`text()`\x7d") =
      .ok (.ofFields .object (.cons ⟨"a", .text, [⟨"text", []⟩]⟩ .nil .nil)) := by cbv
  have hrun : (Program.ofFields .object (.cons ⟨"a", .text, [⟨"text", []⟩]⟩ .nil .nil)).run
      .builtin "\"é\n" = ⟨.object [("a", .string "\"é\n")], []⟩ := by cbv
  have hpretty : (toJson ⟨.object [("a", .string "\"é\n")], []⟩).pretty =
      "\x7b\n  \"data\": \x7b\n    \"a\": \"\\\"é\\n\"\n  \x7d,\n  \"errors\": []\n\x7d" := by cbv
  have hdata := ofText_toJson.2 _ _ .builtin "\"é\n" hcompile
  rw [hrun] at hdata
  have hread := (ofText_toJson.1 _ hdata (by decide)).2
  rw [hpretty] at hread
  exact ⟨hcompile, hread⟩

end Response

end DocQuery
