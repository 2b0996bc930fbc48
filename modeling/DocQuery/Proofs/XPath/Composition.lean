import DocQuery.Proofs.Evaluation.Plain
import DocQuery.Proofs.XPath.Reading

/-! Paths one behind the other.  A selection is led by two paths with a slash between them to the
points that it is led to by one path after the other, and so a pipeline can search in one call or in
two.  But an argument that holds a reference is not the text that the search is made with: the
placeholder stands for another text in the second of two calls. -/

namespace DocQuery

namespace XPath

theorem select_append {d : Html.Document} (path : Path) (more : List Step)
    (points : List (Point d)) :
    ({ path with steps := path.steps ++ more } : Path).select points =
      ({ isAbsolute := false, steps := more } : Path).select (path.select points) := by
  simp only [Path.select, List.foldl_append, Bool.false_eq_true, if_false]

end XPath

/-! ### Searches one after the other -/

open XPath

/-- A call that searches by a path. -/
def search (path : String) : Call := ⟨"xpath", [path]⟩

theorem invoke_search (s : Selection) (path : String) :
    Registry.builtin.invoke "xpath" s [path] =
      ((s.asKind .xpath).bind fun s => s.find path).mapError .selection := rfl

section

variable {first second : String} {path next : Path} (hfirst : readPath first = .ok path)
  (hsteps : path.steps ≠ []) (hsecond : readPath second = .ok next)
  (hrelative : next.isAbsolute = false)
include hfirst hsteps hsecond hrelative

theorem find_append {d : Html.Document} (points : List (Point d)) :
    (Selection.xpath d points).find (first ++ "/" ++ second) =
      .ok (.xpath d (next.select (path.select points))) := by
  obtain ⟨isAbsolute, steps⟩ := next
  dsimp only at hrelative
  subst hrelative
  rw [find_eq (readPath_append hfirst hsteps hsecond rfl), select_append]

theorem invoke_append (s : Selection) :
    Registry.builtin.invoke "xpath" s [first ++ "/" ++ second] =
      (Registry.builtin.invoke "xpath" s [first]).bind fun s =>
        Registry.builtin.invoke "xpath" s [second] := by
  have hkind : ∀ {d : Html.Document} (points : List (Point d)),
      (Selection.xpath d points).asKind .xpath = .ok (.xpath d points) := fun _ => rfl
  obtain ⟨d, points, hs⟩ : ∃ d points, s.asKind .xpath = .ok (.xpath d points) := by
    cases s with
    | xpath d points => exact ⟨d, points, rfl⟩
    | _ => exact ⟨_, _, rfl⟩
  rw [invoke_search, invoke_search, hs, Except.bind, Except.bind,
    find_append hfirst hsteps hsecond hrelative, find_eq hfirst, Except.mapError, Except.mapError,
    Except.bind, invoke_search, hkind, Except.bind, find_eq hsecond, Except.mapError]

end

/-! ### Pipelines -/

namespace Evaluating

variable {program : Program} {id : program.Id}

/-- Two searches stand for one wherever they are in a pipeline, as long as their paths hold no
reference. -/
theorem runResolved_search_append {first second : String} {path next : Path}
    (hfirst : readPath first = .ok path) (hsteps : path.steps ≠ [])
    (hsecond : readPath second = .ok next) (hrelative : next.isAbsolute = false)
    (hplain : Text.contains first "\x7b$" = false)
    (hplain' : Text.contains second "\x7b$" = false)
    (text : (f : program.Id) → f < id → Evaluating program String) (s : Selection)
    (front back : List Call) :
    runResolved .builtin id text s (front ++ search (first ++ "/" ++ second) :: back) =
      runResolved .builtin id text s (front ++ search first :: search second :: back) := by
  have hjoin := not_contains_join "/" rfl (by decide) (by decide) hplain hplain'
  exact runResolved_join (by decide) hjoin hplain hplain'
    (invoke_append hfirst hsteps hsecond hrelative) text s front back

end Evaluating

/-- Paths compose.  A path with steps and a relative one can be read as one, with a slash between
them, and a search by it finds the points that a search by the first and then one by the second
finds, in the same order.  So a pipeline gives the same with either, provided that the paths hold no
reference: a path that does is not the text that the search is made with. -/
theorem find_joined {first second : String} {path next : Path} (hfirst : readPath first = .ok path)
    (hsteps : path.steps ≠ []) (hsecond : readPath second = .ok next)
    (hrelative : next.isAbsolute = false) :
    readPath (first ++ "/" ++ second) = .ok { path with steps := path.steps ++ next.steps } ∧
      (∀ (d : Html.Document) (points : List (Point d)), ∃ middle found,
        (Selection.xpath d points).find first = .ok (.xpath d middle) ∧
        (Selection.xpath d middle).find second = .ok (.xpath d found) ∧
        (Selection.xpath d points).find (first ++ "/" ++ second) = .ok (.xpath d found)) ∧
      (Text.contains first "\x7b$" = false → Text.contains second "\x7b$" = false →
        ∀ (program : Program) (id : program.Id)
          (text : (f : program.Id) → f < id → Evaluating program String) (s : Selection)
          (front back : List Call),
          Evaluating.runResolved .builtin id text s
              (front ++ search (first ++ "/" ++ second) :: back) =
            Evaluating.runResolved .builtin id text s
              (front ++ search first :: search second :: back)) := by
  refine ⟨readPath_append hfirst hsteps hsecond hrelative, ?_, ?_⟩
  · intro d points
    exact ⟨path.select points, next.select (path.select points), find_eq hfirst _,
      find_eq hsecond _, find_append hfirst hsteps hsecond hrelative points⟩
  · intro hplain hplain' program id text s front back
    exact Evaluating.runResolved_search_append hfirst hsteps hsecond hrelative hplain hplain' text s
      front back

/-- The first bold text of each italic one. -/
theorem find_joined_first :
    readPath "//i/b[1]" = .ok ⟨true, [.anywhere, { axis := .child, test := .name "i" },
        { axis := .child, test := .name "b", conditions := [.position 1] }]⟩ ∧
      (∀ points : List (Point (Html.Document.ofText "<i><b>1</b><b>2</b></i><i></i>")),
        ∃ middle found : List (Point (Html.Document.ofText "<i><b>1</b><b>2</b></i><i></i>")),
          (Selection.xpath _ points).find "//i" = .ok (.xpath _ middle) ∧
          (Selection.xpath _ middle).find "b[1]" = .ok (.xpath _ found) ∧
          (Selection.xpath _ points).find "//i/b[1]" = .ok (.xpath _ found)) ∧
      Evaluating.runResolved .builtin (⟨2, by decide⟩ : linked.Id)
          (fun f _ => Evaluating.fieldText .builtin f) (.text "<i><b>1</b></i>")
          [search "//i/b[1]", ⟨"text", []⟩] =
        Evaluating.runResolved .builtin (⟨2, by decide⟩ : linked.Id)
          (fun f _ => Evaluating.fieldText .builtin f) (.text "<i><b>1</b></i>")
          [search "//i", search "b[1]", ⟨"text", []⟩] := by
  have hfirst : readPath "//i" = .ok (anywhere (.name "i")) := by cbv
  have hsecond : readPath "b[1]" =
      .ok ⟨false, [{ axis := .child, test := .name "b", conditions := [.position 1] }]⟩ := by cbv
  obtain ⟨hread, hfind, hrun⟩ := find_joined hfirst (List.cons_ne_nil _ _) hsecond rfl
  exact ⟨hread, hfind _, hrun (by decide) (by decide) _ _ _ _ [] [⟨"text", []⟩]⟩

/-- All attributes of a name. -/
def attributes : Path := ⟨true, [.anywhere, { axis := .attribute, test := .name "x" }]⟩

/-- The element of an attribute, provided that the attribute has a value. -/
def elementHolding (value : String) : Path :=
  ⟨false, [{ axis := .parent, test := .wildcard, conditions := [.attributeEquals "x" value] }]⟩

theorem readPath_attributes : readPath "//@x" = .ok attributes := by cbv

/-- The value stands in the path as it is, unless it would end the quotes around it. -/
theorem readPath_elementHolding {value : String} (h : '\x27' ∉ value.toList) :
    readPath ("parent::*[@x='" ++ value ++ "']") = .ok (elementHolding value) := by
  have htext : ("parent::*[@x='" ++ value ++ "']").toList =
      "parent::*[@x=".toList ++ '\x27' :: (value.toList ++ ['\x27', ']']) := by
    rw [String.toList_append, String.toList_append, List.append_assoc]
    rfl
  generalize hquoted : '\x27' :: (value.toList ++ ['\x27', ']']) = quoted at htext
  have hliteral : Reads (readLiteral quoted) value [']'] :=
    hquoted ▸ readLiteral_quoted (.inl rfl) h [']']
  have hattribute : Reads (readAttributeCondition ("x=".toList ++ quoted))
      (.attributeEquals "x" value) [']'] :=
    reads_readAttributeCondition.mpr
      ⟨"x", '=' :: quoted, rfl, .inr ⟨quoted, value, rfl, hliteral, rfl⟩⟩
  have htest : Reads (readTest ("*[@x=".toList ++ quoted)) .wildcard ("[@x=".toList ++ quoted) :=
    reads_readTest.mpr (.inl ⟨rfl, rfl⟩)
  have haxis : Reads (readAxis ("parent::*[@x=".toList ++ quoted)) .parent
      ("*[@x=".toList ++ quoted) :=
    reads_readAxis.mpr (.inr ⟨rfl, .inr ⟨"parent", "::*[@x=".toList ++ quoted, rfl, rfl, rfl⟩⟩)
  have hstep := reads_readStep.mpr
    (.inr ⟨rfl, .inr ⟨rfl, _, _, _, _, _, haxis, htest, reads_lastCondition hattribute, rfl⟩⟩)
  exact readPath_of_readStep htext hstep rfl rfl

/-- An element with an attribute, in a document. -/
def tagged : Html.Document := .ofText "<i x=v>t"

theorem asKind_tagged :
    (Selection.text "<i x=v>t").asKind .xpath = .ok (.xpath _ [.node tagged.rootId]) := rfl

/-- The attribute of the element. -/
def tag : Point tagged := .attribute ⟨4, by cbv⟩ "x"

theorem select_attributes : attributes.select [.node tagged.rootId] = [tag] := by cbv

/-- The text of the document is the value of no attribute in it. -/
theorem textContent_joined :
    (runPipeline .builtin (.text "<i x=v>t")
      [search ("//@x/parent::*[@x='" ++ placeholder ++ "']")]).2.map Selection.textContent =
        .ok "" := by
  have hfilled : Text.replaceAll ("//@x/parent::*[@x='" ++ placeholder ++ "']") placeholder
      "<i x=v>t" = "//@x" ++ "/" ++ ("parent::*[@x='" ++ "<i x=v>t" ++ "']") := by cbv
  have htext : (Selection.xpath _ ((elementHolding "<i x=v>t").select [tag])).textContent = "" := by
    cbv
  rw [search, runPipeline_cons, Selection.raw, hfilled, invoke_search, asKind_tagged,
    Except.bind, find_append readPath_attributes (List.cons_ne_nil _ _)
      (readPath_elementHolding (by decide)) rfl, select_attributes]
  exact congrArg Except.ok htext

theorem textContent_successive :
    (runPipeline .builtin (.text "<i x=v>t")
      [search "//@x", search ("parent::*[@x='" ++ placeholder ++ "']")]).2.map
        Selection.textContent = .ok "t" := by
  have hplain : Text.replaceAll "//@x" placeholder "<i x=v>t" = "//@x" := by cbv
  have hraw : (Selection.xpath tagged [tag]).raw = "v" := by cbv
  have hfilled : Text.replaceAll ("parent::*[@x='" ++ placeholder ++ "']") placeholder "v" =
      "parent::*[@x='" ++ "v" ++ "']" := by cbv
  have htext : (Selection.xpath _ ((elementHolding "v").select [tag])).textContent = "t" := by cbv
  have hkind : (Selection.xpath tagged [tag]).asKind .xpath = .ok (.xpath tagged [tag]) := rfl
  rw [search, runPipeline_cons, Selection.raw, hplain, invoke_search, asKind_tagged,
    Except.bind, find_eq readPath_attributes, select_attributes, Except.mapError, Except.bind,
    search, runPipeline_cons, hraw, hfilled, invoke_search, hkind, Except.bind,
    find_eq (readPath_elementHolding (by decide))]
  exact congrArg Except.ok htext

/-- The placeholder stands for the text of the selection that a call is made on: the document for a
search made at once, and the value of the attribute for the second of two searches. -/
theorem exists_searches_differ :
    readPath "//@x" = .ok attributes ∧
      readPath "parent::*[@x='\x7b$\x7d']" = .ok (elementHolding "\x7b$\x7d") ∧
      ((Evaluating.runResolved .builtin (⟨2, by decide⟩ : linked.Id)
          (fun f _ => Evaluating.fieldText .builtin f) (.text "<i x=v>t")
          [search ("//@x" ++ "/" ++ "parent::*[@x='\x7b$\x7d']")]).run (.start linked "")).1.map
        Selection.textContent = .ok "" ∧
      ((Evaluating.runResolved .builtin (⟨2, by decide⟩ : linked.Id)
          (fun f _ => Evaluating.fieldText .builtin f) (.text "<i x=v>t")
          [search "//@x", search "parent::*[@x='\x7b$\x7d']"]).run (.start linked "")).1.map
        Selection.textContent = .ok "t" := by
  have hsecond : readPath "parent::*[@x='\x7b$\x7d']" = .ok (elementHolding "\x7b$\x7d") := by
    have htext : "parent::*[@x='\x7b$\x7d']" = "parent::*[@x='" ++ "\x7b$\x7d" ++ "']" := by decide
    rw [htext]
    exact readPath_elementHolding (by decide)
  have hjoined : Template.ofText ("//@x" ++ "/" ++ "parent::*[@x='\x7b$\x7d']") =
      ⟨[("//@x/parent::*[@x='", "")], "']"⟩ := by cbv
  have hreference : Template.ofText "parent::*[@x='\x7b$\x7d']" =
      ⟨[("parent::*[@x='", "")], "']"⟩ := by cbv
  have hplain : Text.contains "//@x" "\x7b$" = false := by decide
  refine ⟨readPath_attributes, hsecond, ?_, ?_⟩
  · rw [Evaluating.runResolved, List.filterMapM_cons, search,
      Evaluating.resolveCall_self (by decide) hjoined]
    exact textContent_joined
  · rw [Evaluating.runResolved, List.filterMapM_cons, search,
      Evaluating.resolveCall_plain (by decide) hplain, pure_bind, List.filterMapM_cons, search,
      Evaluating.resolveCall_self (by decide) hreference]
    exact textContent_successive

end DocQuery
