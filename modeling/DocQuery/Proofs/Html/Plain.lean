import Mathlib
import DocQuery.Html.Document

/-! Documents of texts without markup.  A text that holds no `<` and no `&` is a sequence of
characters to the reader.  Blanks in front of the first other character are dropped, as nothing is
open yet; that character opens the body, and it and those behind it make one text there, without the
NULs.  A byte order mark and carriage returns have gone before that. -/

namespace DocQuery.Html

open Construction

/-- What is left of a text that holds no markup. -/
def shown (cs : List Char) : List Char :=
  ((normalizeLines (Document.dropMark cs)).dropWhile isSpace).filter (· ≠ '\x00')

namespace Construction

variable {b b' : Builder} {t : Token} {fuel : Nat} {cs : List Char}

/-! ### Steps -/

theorem processWith_done (hforeign : isForeign b.stack.head? t = false)
    (hrules : (rulesFor b.mode t).run b = (.done, b')) :
    (processWith (fuel + 1) t).run b = ((), b') := by
  simp only [processWith, StateT.run_bind, StateT.run_get, pure_bind, hforeign, Bool.false_eq_true,
    if_false, hrules]
  rfl

theorem processWith_again (hforeign : isForeign b.stack.head? t = false)
    (hrules : (rulesFor b.mode t).run b = (.again, b')) :
    (processWith (fuel + 1) t).run b = (processWith fuel t).run b' := by
  simp only [processWith, StateT.run_bind, StateT.run_get, pure_bind, hforeign, Bool.false_eq_true,
    if_false, hrules]
  rfl

theorem process_run (hskip : b.skipNewline = false) (hfault : t ≠ .fault) :
    (process t).run b =
      (processWith (4 * b.stack.length + 2 * b.templateModes.length + 24) t).run b := by
  have hb : { b with skipNewline := false } = b := by
    rw [← hskip]
  simp [process, hskip, hfault, hb]

/-! ### Opening the body -/

/-- The modes in front of the body. -/
def beforeBody : List Mode := [.initial, .beforeHtml, .beforeHead, .inHead, .afterHead]

/-- A token that is dealt with in front of the body like the end of the text. -/
def OpensBody (t : Token) : Prop := ∀ m ∈ beforeBody, rulesFor m t = rulesFor m .endOfText

theorem opensBody_char {c : Char} (h : isSpace c = false) : OpensBody (.char c) := by
  intro m hm
  simp only [beforeBody, List.mem_cons, List.not_mem_nil, or_false] at hm
  rcases hm with rfl | rfl | rfl | rfl | rfl <;>
    simp only [rulesFor, initialRules, beforeHtmlRules, beforeHeadRules, inHeadRules,
      afterHeadRules, h, Bool.false_eq_true, if_false]

/-- One step towards the body. -/
def advance (b : Builder) : Builder := ((rulesFor b.mode .endOfText).run b).2

theorem processWith_advance (ht : OpensBody t) (hmode : b.mode ∈ beforeBody)
    (hforeign : isForeign b.stack.head? t = false)
    (hagain : ((rulesFor b.mode .endOfText).run b).1 = .again) :
    (processWith (fuel + 1) t).run b = (processWith fuel t).run (advance b) := by
  apply processWith_again hforeign
  rw [ht b.mode hmode]
  exact Prod.ext hagain rfl

/-- The page with a text in its body, or with nothing. -/
def page : List Char → Dom
  | [] => ⟨#[
      { data := .document, children := #[1] },
      { data := .element { name := "html" }, parent := some 0, children := #[2, 3] },
      { data := .element { name := "head" }, parent := some 1 },
      { data := .element { name := "body" }, parent := some 1 }]⟩
  | c :: cs => ⟨#[
      { data := .document, children := #[1] },
      { data := .element { name := "html" }, parent := some 0, children := #[2, 3] },
      { data := .element { name := "head" }, parent := some 1 },
      { data := .element { name := "body" }, parent := some 1, children := #[4] },
      { data := .text (String.ofList (c :: cs)), parent := some 3 }]⟩

/-- What is built when the body has just been opened. -/
def opened : Builder :=
  { dom := page [], mode := .inBody, head := some 2, quirks := true
    stack := [⟨3, .html, "body"⟩, ⟨1, .html, "html"⟩] }

theorem processWith_opening (ht : OpensBody t) :
    (processWith (fuel + 5) t).run {} = (processWith fuel t).run opened := by
  calc (processWith (fuel + 5) t).run {}
      = (processWith (fuel + 4) t).run (advance {}) :=
        processWith_advance ht (by decide) rfl rfl
    _ = (processWith (fuel + 3) t).run (advance (advance {})) :=
        processWith_advance ht (by decide) rfl rfl
    _ = (processWith (fuel + 2) t).run (advance (advance (advance {}))) :=
        processWith_advance ht (by decide) rfl rfl
    _ = (processWith (fuel + 1) t).run (advance (advance (advance (advance {})))) :=
        processWith_advance ht (by decide) rfl rfl
    _ = (processWith fuel t).run opened := processWith_advance ht (by decide) rfl rfl

/-! ### Characters in the body -/

/-- The body is open and holds a text, or nothing. -/
structure InBody (b : Builder) (cs : List Char) : Prop where
  dom : b.dom = page cs
  mode : b.mode = .inBody
  stack : b.stack = [⟨3, .html, "body"⟩, ⟨1, .html, "html"⟩]
  formatting : b.formatting = []
  templateModes : b.templateModes = []
  foster : b.foster = false
  content : b.content = .data
  skipNewline : b.skipNewline = false
  skipMark : b.skipMark = false

theorem inBody_opened : InBody opened [] := by
  constructor <;> rfl

theorem page_append (cs : List Char) (c : Char) : page (cs ++ [c]) = (page cs).appendChar 3 c := by
  cases cs with
  | nil => rfl
  | cons a cs =>
    have hpush : String.ofList (a :: (cs ++ [c])) = (String.ofList (a :: cs)).push c := by
      apply String.toList_injective
      simp
    rw [List.cons_append, page, hpush]
    rfl

theorem reconstruct_run (h : b.formatting = []) : reconstruct.run b = ((), b) := by
  simp [reconstruct, h]
  rfl

theorem insertChar_run (h : InBody b cs) (c : Char) :
    (insertChar c).run b = (.done, { b with dom := page (cs ++ [c]) }) := by
  have hplace : currentPlace b = .inside 3 := by
    simp [currentPlace, h.stack, placeIn, h.foster, contentNode, OpenElement.is]
  rw [page_append, ← h.dom]
  simp [insertChar, hplace]
  rfl

/-- A character is put behind the text, unless it is NUL. -/
theorem inBody_char (h : InBody b cs) (c : Char) : ∃ b',
    (rulesFor b.mode (.char c)).run b = (.done, b') ∧
      InBody b' (cs ++ [c].filter (· ≠ '\x00')) := by
  rw [h.mode, rulesFor, inBodyRules]
  by_cases hnul : c = '\x00'
  · subst hnul
    refine ⟨b, rfl, ?_⟩
    rw [List.filter_cons_of_neg (by decide), List.filter_nil, List.append_nil]
    exact h
  · rw [List.filter_cons_of_pos (by simpa using hnul), List.filter_nil, if_neg hnul]
    have hreconstruct : ∀ next : Unit → Build Next,
        (reconstruct >>= next).run b = (next ()).run b := by
      intro next
      rw [StateT.run_bind, reconstruct_run h.formatting]
      rfl
    rw [hreconstruct]
    -- Blank or not, it is put in the same place; only a flag that plays no part here differs.
    by_cases hspace : isSpace c
    · refine ⟨{ b with dom := page (cs ++ [c]) }, ?_, { h with dom := rfl }⟩
      simp only [hspace]
      exact insertChar_run h c
    · have hnot : InBody { b with framesetOk := false } cs := { h with }
      refine ⟨{ b with framesetOk := false, dom := page (cs ++ [c]) }, ?_, { h with dom := rfl }⟩
      simp only [hspace]
      exact insertChar_run hnot c

/-! ### Whole texts -/

theorem isForeign_inBody (h : InBody b cs) (t : Token) : isForeign b.stack.head? t = false := by
  rw [h.stack]
  rfl

theorem step_char (b : Builder) (c : Char) :
    build.step b (.char c) = ((process (.char c)).run b).2 := rfl

theorem inBody_step (h : InBody b cs) (c : Char) :
    InBody (build.step b (.char c)) (cs ++ [c].filter (· ≠ '\x00')) := by
  obtain ⟨b', hrules, hb'⟩ := inBody_char h c
  rw [step_char, process_run h.skipNewline (by rintro ⟨⟩),
    processWith_done (isForeign_inBody h _) hrules]
  exact hb'

theorem rules_end (h : InBody b cs) : (rulesFor b.mode .endOfText).run b = (.done, b) := by
  rw [h.mode, rulesFor, inBodyRules]
  simp [h.templateModes, done]
  rfl

theorem inBody_end (h : InBody b cs) : ((process .endOfText).run b).2 = b := by
  rw [process_run h.skipNewline (by rintro ⟨⟩),
    processWith_done (isForeign_inBody h _) (rules_end h)]

/-- The first character that is not blank opens the body. -/
theorem inBody_step_start {c : Char} (h : isSpace c = false) :
    InBody (build.step {} (.char c)) ([c].filter (· ≠ '\x00')) := by
  obtain ⟨b, hrules, hb⟩ := inBody_char inBody_opened c
  have hopening : (process (.char c)).run {} = (processWith 19 (.char c)).run opened := by
    rw [process_run rfl (by rintro ⟨⟩)]
    exact processWith_opening (opensBody_char h)
  rw [step_char, hopening, processWith_done (isForeign_inBody inBody_opened _) hrules]
  exact hb

theorem step_start_of_isSpace {c : Char} (h : isSpace c) : build.step {} (.char c) = {} := by
  have hrules : (initialRules (.char c)).run {} = (.done, {}) := by
    simp only [initialRules, h]
    rfl
  rw [step_char, process_run rfl (by rintro ⟨⟩),
    processWith_done (b := {}) (t := .char c) rfl hrules]

theorem inBody_end_start : InBody ((process .endOfText).run {}).2 [] := by
  have hopening : (process .endOfText).run {} = (processWith 19 .endOfText).run opened := by
    rw [process_run rfl (by rintro ⟨⟩)]
    exact processWith_opening fun _ _ => rfl
  rw [hopening, processWith_done (isForeign_inBody inBody_opened _) (rules_end inBody_opened)]
  exact inBody_opened

theorem build_nil (b : Builder) : build (fuel + 1) [] b = ((process .endOfText).run b).2 := rfl

/-- A character that starts no markup is a token of its own. -/
theorem build_char {c : Char} (hc : c ≠ '<' ∧ c ≠ '&') (hcontent : b.content = .data)
    (hmark : b.skipMark = false) (ds : List Char) :
    build (fuel + 1) (c :: ds) b = build fuel ds (build.step b (.char c)) := by
  have hb : { b with content := .data, skipMark := false } = b := by
    rw [← hcontent, ← hmark]
  simp [build, Token.scan, hmark, hcontent, hc.1, hc.2, hb]

theorem inBody_build (h : InBody b cs) {ds : List Char} (hds : ∀ c ∈ ds, c ≠ '<' ∧ c ≠ '&')
    (hfuel : ds.length < fuel) : InBody (build fuel ds b) (cs ++ ds.filter (· ≠ '\x00')) := by
  induction ds generalizing b cs fuel with
  | nil =>
    obtain ⟨fuel, rfl⟩ := Nat.exists_eq_succ_of_ne_zero (Nat.ne_of_gt hfuel)
    rw [List.filter_nil, List.append_nil, build_nil, inBody_end h]
    exact h
  | cons c ds ih =>
    rw [List.length_cons] at hfuel
    rw [List.forall_mem_cons] at hds
    obtain ⟨fuel, rfl⟩ := Nat.exists_eq_succ_of_ne_zero (Nat.ne_of_gt (Nat.zero_lt_of_lt hfuel))
    rw [build_char hds.1 h.content h.skipMark]
    have hrest := ih (inBody_step h c) hds.2 (Nat.lt_of_succ_lt_succ hfuel)
    rw [List.append_assoc, ← List.filter_append] at hrest
    exact hrest

/-- In front of the body blanks are dropped. -/
theorem inBody_build_start {ds : List Char} (hds : ∀ c ∈ ds, c ≠ '<' ∧ c ≠ '&')
    (hfuel : ds.length < fuel) :
    InBody (build fuel ds {}) ((ds.dropWhile isSpace).filter (· ≠ '\x00')) := by
  induction ds generalizing fuel with
  | nil =>
    obtain ⟨fuel, rfl⟩ := Nat.exists_eq_succ_of_ne_zero (Nat.ne_of_gt hfuel)
    exact inBody_end_start
  | cons c ds ih =>
    rw [List.length_cons] at hfuel
    rw [List.forall_mem_cons] at hds
    obtain ⟨fuel, rfl⟩ := Nat.exists_eq_succ_of_ne_zero (Nat.ne_of_gt (Nat.zero_lt_of_lt hfuel))
    rw [build_char hds.1 rfl rfl]
    by_cases hspace : isSpace c
    · rw [step_start_of_isSpace hspace, List.dropWhile_cons_of_pos hspace]
      exact ih hds.2 (Nat.lt_of_succ_lt_succ hfuel)
    · rw [List.dropWhile_cons_of_neg hspace]
      rw [Bool.not_eq_true] at hspace
      have hrest := inBody_build (inBody_step_start hspace) hds.2 (Nat.lt_of_succ_lt_succ hfuel)
      rw [← List.filter_append] at hrest
      exact hrest

end Construction

namespace Document

open Construction

/-! ### What is left of a text -/

theorem not_mem_normalizeLines {c : Char} (hc : c ≠ '\n') {cs : List Char} (h : c ∉ cs) :
    c ∉ normalizeLines cs := by
  induction cs using normalizeLines.induct with
  | case1 => exact h
  | case2 cs ih =>
    simp only [List.mem_cons, not_or] at h
    rw [normalizeLines, List.mem_cons, not_or]
    exact ⟨hc, ih h.2.2⟩
  | case3 d cs hpair ih =>
    rw [List.mem_cons, not_or] at h
    rw [normalizeLines, List.mem_cons, not_or]
    · refine ⟨?_, ih h.2⟩
      split
      · exact hc
      · exact h.1
    · exact hpair

theorem normalizeLines_of_not_mem {cs : List Char} (h : '\r' ∉ cs) : normalizeLines cs = cs := by
  induction cs using normalizeLines.induct with
  | case1 => rfl
  | case2 cs ih => exact absurd List.mem_cons_self h
  | case3 c cs hpair ih =>
    rw [List.mem_cons, not_or] at h
    rw [normalizeLines, if_neg (Ne.symm h.1), ih h.2]
    exact hpair

theorem not_mem_return_normalizeLines (cs : List Char) : '\r' ∉ normalizeLines cs := by
  induction cs using normalizeLines.induct with
  | case1 => exact List.not_mem_nil
  | case2 cs ih =>
    rw [normalizeLines, List.mem_cons, not_or]
    exact ⟨by decide, ih⟩
  | case3 c cs hpair ih =>
    rw [normalizeLines, List.mem_cons, not_or]
    · refine ⟨?_, ih⟩
      split
      · decide
      · exact Ne.symm ‹_›
    · exact hpair

theorem dropMark_suffix (cs : List Char) : dropMark cs <:+ cs := by
  unfold dropMark
  split
  · exact List.suffix_cons _ _
  · exact List.suffix_refl _

theorem not_mem_dropMark {c : Char} {cs : List Char} (h : c ∉ cs) : c ∉ dropMark cs :=
  fun hc => h ((dropMark_suffix cs).subset hc)

theorem dropMark_eq_self_iff (cs : List Char) :
    dropMark cs = cs ↔ ∀ c ∈ cs.head?, c ≠ '\ufeff' := by
  rw [dropMark.eq_def]
  split
  · simp
  · rename_i hmark
    cases cs with
    | nil => simp
    | cons c cs => simpa using fun hc : c = '\ufeff' => hmark cs (by rw [hc])

theorem filter_of_not_mem {cs : List Char} (h : '\x00' ∉ cs) : cs.filter (· ≠ '\x00') = cs := by
  rw [List.filter_eq_self]
  intro c hc
  rw [decide_eq_true_eq]
  rintro rfl
  exact h hc

theorem dropWhile_eq_self_iff (cs : List Char) :
    cs.dropWhile isSpace = cs ↔ ∀ c ∈ cs.head?, isSpace c = false := by
  cases cs <;> simp [List.dropWhile_eq_self_iff]

/-- What is left of a text is all of it exactly if it neither starts with what is dropped in front
of the body nor holds what is dropped or replaced everywhere. -/
theorem shown_eq_self_iff (cs : List Char) :
    shown cs = cs ↔
      (∀ c ∈ cs.head?, c ≠ '\ufeff' ∧ isSpace c = false) ∧ '\r' ∉ cs ∧ '\x00' ∉ cs := by
  constructor
  · intro h
    have hreturn : '\r' ∉ cs := by
      rw [← h]
      exact fun hin => not_mem_return_normalizeLines _
        ((List.dropWhile_suffix _).subset (List.mem_filter.mp hin).1)
    have hnul : '\x00' ∉ cs := by
      rw [← h]
      simp [shown]
    have hnul' : '\x00' ∉ (dropMark cs).dropWhile isSpace := fun hin =>
      not_mem_dropMark hnul ((List.dropWhile_suffix _).subset hin)
    rw [shown, normalizeLines_of_not_mem (not_mem_dropMark hreturn), filter_of_not_mem hnul'] at h
    -- Nothing is left out in two steps, so nothing is in either of them.
    have hmark : dropMark cs = cs := by
      apply (dropMark_suffix cs).eq_of_length_le
      calc cs.length = ((dropMark cs).dropWhile isSpace).length := by rw [h]
        _ ≤ (dropMark cs).length := (List.dropWhile_suffix _).length_le
    rw [hmark] at h
    exact ⟨fun c hc => ⟨(dropMark_eq_self_iff cs).mp hmark c hc,
      (dropWhile_eq_self_iff cs).mp h c hc⟩, hreturn, hnul⟩
  · rintro ⟨hhead, hreturn, hnul⟩
    have hmark : dropMark cs = cs := (dropMark_eq_self_iff cs).mpr fun c hc => (hhead c hc).1
    have hspace : cs.dropWhile isSpace = cs :=
      (dropWhile_eq_self_iff cs).mpr fun c hc => (hhead c hc).2
    rw [shown, hmark, normalizeLines_of_not_mem hreturn, hspace, filter_of_not_mem hnul]

/-! ### The page of a text -/

/-- A document of one element. -/
def single (e : Element) (below : Forest Node) : Document :=
  .of .document (.cons (.element e) below .nil)

theorem rootElement?_single (e : Element) (below : Forest Node) :
    ∃ id, (single e below).rootElement? = some id ∧
      (single e below).elementText id = String.join (texts below) := by
  have hlt : 1 < (Forest.cons (.element e) below .nil : Forest Node).size + 1 := by
    rw [Forest.size_cons]
    omega
  exact ⟨⟨1, hlt⟩, rfl, rfl⟩

/-- The only text of a page is that of its body. -/
theorem exists_forest_page (cs : List Char) : ∃ below,
    (page cs).forest = .cons (.element { name := "html" }) below .nil ∧
      String.join (texts below) = String.ofList cs := by
  cases cs with
  | nil => exact ⟨_, rfl, rfl⟩
  | cons c cs =>
    refine ⟨_, rfl, ?_⟩
    show String.join [String.ofList (c :: cs)] = String.ofList (c :: cs)
    simp [String.join]

/-- A text without markup is read as a page with what is left of the text. -/
theorem elementText_ofText {text : String} (hopen : '<' ∉ text.toList) (hand : '&' ∉ text.toList) :
    ∃ id, (ofText text).rootElement? = some id ∧
      (ofText text).elementText id = String.ofList (shown text.toList) := by
  have hcs : ∀ c ∈ normalizeLines (dropMark text.toList), c ≠ '<' ∧ c ≠ '&' := by
    intro c hc
    constructor
    · rintro rfl
      exact not_mem_normalizeLines (by decide) (not_mem_dropMark hopen) hc
    · rintro rfl
      exact not_mem_normalizeLines (by decide) (not_mem_dropMark hand) hc
  have hbuild := inBody_build_start hcs (Nat.lt_succ_self _)
  obtain ⟨below, hforest, hjoin⟩ := exists_forest_page (shown text.toList)
  obtain ⟨id, hid, htext⟩ := rootElement?_single { name := "html" } below
  have hof : ofText text = single { name := "html" } below := by
    rw [ofText, hbuild.dom, ← shown, hforest]
    rfl
  rw [hof]
  exact ⟨id, hid, htext.trans hjoin⟩

end Document

end DocQuery.Html
