import DocQuery.Proofs.Html.Plain
import DocQuery.Proofs.Json.Composition
import DocQuery.Proofs.Json.RoundTrip

/-! Text content of JSON strings.  A string is read as an HTML document of its own, and its text
content is what the document shows.  A string without markup is shown but for what the reader of
documents drops or replaces in any text, and so is the value of a field that is made of it. -/

namespace DocQuery

namespace Selection

theorem textContent_string {s : String} (hopen : '<' ∉ s.toList) (hand : '&' ∉ s.toList) :
    (Selection.json (some (.string s))).textContent = String.ofList (Html.shown s.toList) := by
  obtain ⟨id, hid, htext⟩ := Html.Document.elementText_ofText hopen hand
  have hcontent : (Selection.json (some (.string s))).textContent =
      String.join ((Html.Document.ofText s).rootElement?.toList.map
        (Html.Document.ofText s).elementText) := rfl
  rw [hcontent, hid, Option.toList_some, List.map_cons, htext]
  simp [String.join]

end Selection

namespace Evaluating

variable {program : Program} {registry : Registry} {id : program.Id} {e : Evaluation program}

/-- The value of a text is the text content of what is selected, if that is anything. -/
theorem evaluate_text_run {s : Selection} (htype : (program.field id).type = .text)
    (hs : s.isEmpty = false) (h : ((selection registry id).run e).1 = some s) :
    ((evaluate registry id).run e).1 = .text s.textContent := by
  have hrun : (selection registry id).run e = (some s, ((selection registry id).run e).2) :=
    Prod.ext h rfl
  rw [evaluate, run_bind_of hrun]
  simp only [htype, hs]
  rfl

/-- What a field with a single plain call selects, in a state in which that is not known. -/
theorem selection_run_single {q : program.Id} {hq : q < id} {name arg : String} {p s : Selection}
    (hname : name ≠ "link") (hplain : Text.contains arg "\x7b$" = false)
    (hpipeline : (program.field id).pipeline = [⟨name, [arg]⟩])
    (hparent : program.parent id = some ⟨q, hq⟩) (hslot : e.cache[id] = none)
    (hp : ((selection registry q).run e).1 = some p)
    (hinvoke : registry.invoke name p [arg] = .ok s) :
    ((selection registry id).run e).1 = some s := by
  have hrun : (selection registry q).run e = (some p, ((selection registry q).run e).2) :=
    Prod.ext hp rfl
  have hcached : (cached? id).run e = (none, e) := by
    rw [run_cached?, hslot]
  have hresult : (runPipeline registry p [⟨name, [arg]⟩]).2 = .ok s := by
    rw [runPipeline_cons, Text.replaceAll_of_not_contains (not_contains_placeholder hplain),
      hinvoke]
    rfl
  rw [selection, run_bind_of hcached]
  simp only [hparent]
  rw [run_bind_of hrun]
  simp only [hpipeline, List.filterMapM_cons, resolveCall_plain hname hplain, pure_bind,
    List.filterMapM_nil, hresult]
  rfl

end Evaluating

/-- A string without markup has a text content that is what a document shows of it, and that is the
string itself exactly if the string does not start with a blank or a byte order mark and holds no
carriage return and no NUL.  A field that takes such a string out of a document has that as its
value, wherever it stands and whatever has been evaluated before. -/
theorem textContent_plain {s : String} (hopen : '<' ∉ s.toList) (hand : '&' ∉ s.toList) :
    (Selection.json (some (.string s))).raw = s ∧
    (Selection.json (some (.string s))).textContent = String.ofList (Html.shown s.toList) ∧
    ((Selection.json (some (.string s))).textContent = s ↔
      (∀ c ∈ s.toList.head?, c ≠ '\ufeff' ∧ Html.isSpace c = false) ∧
        '\r' ∉ s.toList ∧ '\x00' ∉ s.toList) ∧
    ∀ (program : Program) (id q : program.Id) (hq : q < id) (e : Evaluation program)
      (path : String) (p : Selection),
      (program.field id).type = .text → (program.field id).pipeline = [follow path] →
      Text.contains path "\x7b$" = false → program.parent id = some ⟨q, hq⟩ →
      e.cache[id] = none → ((Evaluating.selection .builtin q).run e).1 = some p →
      ((p.asKind .json).bind (·.find path)) = .ok (.json (some (.string s))) →
      ((Evaluating.evaluate .builtin id).run e).1 =
        .text (String.ofList (Html.shown s.toList)) := by
  have htext := Selection.textContent_string hopen hand
  refine ⟨rfl, htext, ?_, ?_⟩
  · rw [htext, ← Html.Document.shown_eq_self_iff]
    constructor
    · intro h
      rw [← String.toList_ofList (l := Html.shown s.toList), h]
    · intro h
      rw [h, String.ofList_toList]
  · intro program id q hq e path p htype hpipeline hplain hparent hslot hp hfind
    have hinvoke : Registry.builtin.invoke "json" p [path] = .ok (.json (some (.string s))) := by
      rw [invoke_follow, hfind]
      rfl
    have hselection := Evaluating.selection_run_single (by decide) hplain hpipeline hparent hslot hp
      hinvoke
    rw [Evaluating.evaluate_text_run htype rfl hselection, htext]

/-- A program that takes a member out of a document. -/
def memberText : Program := .ofFields .object (.cons ⟨"t", .text, [follow "a"]⟩ .nil .nil)

/-- A document with a member whose text is shown in part. -/
def withBlanks : Json := .object [("a", .string " b\r\x00c")]

theorem find_withBlanks :
    ((Selection.text withBlanks.compact).asKind .json).bind (·.find "a") =
      .ok (.json (some (.string " b\r\x00c"))) := by
  have htextual : withBlanks.Textual := by
    apply Json.Textual.object (by decide)
    intro m hm
    rw [List.mem_singleton] at hm
    rw [hm]
    exact .string _
  have htrim : Text.trim withBlanks.compact = withBlanks.compact := by decide
  have hread : Json.ofText withBlanks.compact = .ok withBlanks :=
    htextual.ofText_write (by decide) .compact
  have hkind : (Selection.text withBlanks.compact).asKind .json =
      .ok (.json (some withBlanks)) := by
    rw [Selection.asKind, if_neg (by decide), Selection.ofDocument, Selection.raw, htrim, hread]
  rw [hkind, Except.bind, find_json (by decide)]
  rfl

/-- A blank in front and a NUL are dropped, and a carriage return becomes a line feed. -/
theorem textContent_plain_blanks :
    compile (Utf8.encode "\x7b t `json(\"a\")` \x7d") = .ok memberText ∧
      (Selection.json (some (.string " b\r\x00c"))).raw = " b\r\x00c" ∧
      (Selection.json (some (.string " b\r\x00c"))).textContent = "b\nc" ∧
      ((Evaluating.evaluate .builtin (⟨1, by decide⟩ : memberText.Id)).run
        (.start memberText withBlanks.compact)).1 = .text "b\nc" := by
  have hcompile : compile (Utf8.encode "\x7b t `json(\"a\")` \x7d") = .ok memberText := by cbv
  have hshown : String.ofList (Html.shown " b\r\x00c".toList) = "b\nc" := by decide
  obtain ⟨hraw, htext, -, hfield⟩ :=
    textContent_plain (s := " b\r\x00c") (by decide) (by decide)
  rw [hshown] at htext hfield
  have hroot : ((Evaluating.selection .builtin memberText.root).run
      (.start memberText withBlanks.compact)).1 = some (.text withBlanks.compact) := by
    rw [Evaluating.selection]
    rfl
  exact ⟨hcompile, hraw, htext,
    hfield memberText _ memberText.root (by decide) _ "a" _ rfl rfl (by decide) rfl rfl hroot
      find_withBlanks⟩

/-- A string without markup whose text content is not the string. -/
theorem exists_string_not_shown :
    '<' ∉ " a".toList ∧ '&' ∉ " a".toList ∧
      (Selection.json (some (.string " a"))).raw = " a" ∧
      (Selection.json (some (.string " a"))).textContent = "a" := by
  have hshown : String.ofList (Html.shown " a".toList) = "a" := by decide
  have htext := Selection.textContent_string (s := " a") (by decide) (by decide)
  exact ⟨by decide, by decide, rfl, htext.trans hshown⟩

end DocQuery
