import DocQuery.Proofs.XPath.Reading

/-! Attributes by name.  A step to the attributes of an element takes a name in any case, but a
condition on an attribute and the value of an attribute take it as it is spelled.  So an element
passes the condition exactly if the step finds an attribute that is spelled like the name, and the
two agree as long as no attribute differs from the name by the case of its letters. -/

namespace DocQuery

namespace XPath

open Html

/-! ### Names between other text -/

variable {name : String} {cs rest : List Char}

theorem not_isBlank_of_isNameStart {c : Char} (h : isNameStart c) : isBlank c = false := by
  by_contra hblank
  simp only [isBlank, Bool.not_eq_false, Bool.or_eq_true, beq_iff_eq] at hblank
  rcases hblank with (((rfl | rfl) | rfl) | rfl) | rfl <;> exact absurd h (by decide)

theorem chars_of_readsName (h : ReadsName cs name rest) :
    ∃ c more, name.toList = c :: more ∧ isNameStart c ∧ ∀ c ∈ name.toList, isNameChar c := by
  rw [ReadsName, readName?_val, Option.map_eq_some_iff] at h
  obtain ⟨c, hc, hname⟩ := h
  rw [Option.filter_eq_some_iff] at hc
  obtain ⟨hhead, hstart⟩ := hc
  obtain ⟨more, hskip⟩ := List.head?_eq_some_iff.mp hhead
  obtain ⟨rfl, -⟩ := Prod.mk.inj hname
  rw [String.toList_ofList]
  refine ⟨c, more.takeWhile isNameChar, ?_, hstart, fun c hc => List.mem_takeWhile_imp hc⟩
  rw [hskip, List.takeWhile_cons_of_pos (isNameChar_of_isNameStart hstart)]

theorem skipBlanks_name (h : ReadsName cs name rest) (after : List Char) :
    skipBlanks (name.toList ++ after) = name.toList ++ after := by
  obtain ⟨c, more, hname, hstart, -⟩ := chars_of_readsName h
  rw [hname]
  exact List.dropWhile_cons_of_neg (by simp [not_isBlank_of_isNameStart hstart])

/-- A name is read again where no other character of a name follows. -/
theorem ReadsName.again (h : ReadsName cs name rest) {after : List Char}
    (hafter : ∀ c ∈ after.head?, isNameChar c = false) :
    ReadsName (name.toList ++ after) name after := by
  have hskip := skipBlanks_name h after
  obtain ⟨c, more, hname, hstart, hall⟩ := chars_of_readsName h
  obtain ⟨htake, hdrop⟩ := Text.span_append hall hafter
  have hhead : (name.toList ++ after).head? = some c := by rw [hname]; rfl
  rw [ReadsName, readName?_val, hskip, hhead, Option.filter_some_pos hstart, Option.map_some,
    htake, hdrop, String.ofList_toList]

theorem take?_star_name (h : ReadsName cs name rest) (after : List Char) :
    take? "*" (name.toList ++ after) = none := by
  rw [take?, skipBlanks_name h]
  obtain ⟨c, more, hname, hstart, -⟩ := chars_of_readsName h
  rw [hname]
  refine if_neg ?_
  rintro rfl
  exact absurd hstart (by decide)

/-- A step to the attributes of a name. -/
def toAttribute (name : String) : Path := ⟨false, [{ axis := .attribute, test := .name name }]⟩

/-- A point itself if it passes a condition. -/
def itselfIf (condition : Condition) : Path :=
  ⟨false, [{ axis := .self, test := .node, conditions := [condition] }]⟩

theorem readPath_toAttribute (h : ReadsName cs name rest) :
    readPath ("@" ++ name) = .ok (toAttribute name) := by
  have htext : ("@" ++ name).toList = '@' :: (name.toList ++ []) := by simp
  have haxis : Reads (readAxis ('@' :: (name.toList ++ []))) .attribute (name.toList ++ []) :=
    reads_readAxis.mpr (.inl ⟨rfl, rfl⟩)
  have htest : Reads (readTest (name.toList ++ [])) (.name name) [] :=
    reads_readTest.mpr (.inr ⟨take?_star_name h [], name, [], h.again (by simp),
      .inl ⟨rfl, rfl, rfl⟩⟩)
  have hconditions : Reads (readConditions []) [] [] :=
    reads_readConditions.mpr (.inl ⟨rfl, rfl, rfl⟩)
  have hstep := reads_readStep.mpr
    (.inr ⟨rfl, .inr ⟨rfl, _, _, _, _, _, haxis, htest, hconditions, rfl⟩⟩)
  exact readPath_of_readStep htext hstep rfl rfl

theorem readPath_itselfIf {condition : Condition} {inside : List Char}
    (h : Reads (readAttributeCondition inside) condition [']']) {text : String}
    (htext : text.toList = "self::node()[@".toList ++ inside) :
    readPath text = .ok (itselfIf condition) := by
  have haxis : Reads (readAxis ("self::node()[@".toList ++ inside)) .self
      ("node()[@".toList ++ inside) :=
    reads_readAxis.mpr (.inr ⟨rfl, .inr ⟨"self", "::node()[@".toList ++ inside, rfl, rfl, rfl⟩⟩)
  have htest : Reads (readTest ("node()[@".toList ++ inside)) .node ("[@".toList ++ inside) :=
    reads_readTest.mpr (.inr ⟨rfl, "node", "()[@".toList ++ inside, rfl,
      .inr ⟨")[@".toList ++ inside, rfl, rfl, rfl⟩⟩)
  have hstep := reads_readStep.mpr
    (.inr ⟨rfl, .inr ⟨rfl, _, _, _, _, _, haxis, htest, reads_lastCondition h, rfl⟩⟩)
  exact readPath_of_readStep htext hstep rfl rfl

/-- A text in quotes. -/
def quotedBy (q : Char) (value : String) : String := .ofList (q :: (value.toList ++ [q]))

theorem readPath_hasAttribute (h : ReadsName cs name rest) :
    readPath ("self::node()" ++ ("[@" ++ name ++ "]")) = .ok (itselfIf (.hasAttribute name)) := by
  have hread : Reads (readAttributeCondition (name.toList ++ [']'])) (.hasAttribute name) [']'] :=
    reads_readAttributeCondition.mpr ⟨name, [']'], h.again (by simp; decide),
      .inl ⟨rfl, rfl, rfl⟩⟩
  apply readPath_itselfIf hread
  simp

theorem readPath_attributeEquals (h : ReadsName cs name rest) {q : Char}
    (hq : q = '\x27' ∨ q = '\x22') {value : String} (hvalue : q ∉ value.toList) :
    readPath ("self::node()" ++ ("[@" ++ name ++ "=" ++ quotedBy q value ++ "]")) =
      .ok (itselfIf (.attributeEquals name value)) := by
  have hread : Reads (readAttributeCondition
      (name.toList ++ '=' :: q :: (value.toList ++ q :: [']']))) (.attributeEquals name value)
        [']'] :=
    reads_readAttributeCondition.mpr ⟨name, _, h.again (by simp; decide),
      .inr ⟨_, value, rfl, readLiteral_quoted hq hvalue [']'], rfl⟩⟩
  apply readPath_itselfIf hread
  simp [quotedBy]

/-! ### The attributes of one element -/

variable {d : Document} {x : d.Id} {e : Element}

theorem isSome_attribute?_iff (hspaces : ∀ a ∈ e.attributes, a.space = .none) :
    (e.attribute? name).isSome ↔ ∃ a ∈ e.attributes, a.name = name := by
  simp only [Element.attribute?, Option.isSome_map, List.find?_isSome, decide_eq_true_eq]
  constructor
  · rintro ⟨a, ha, -, hname⟩
    exact ⟨a, ha, hname⟩
  · rintro ⟨a, ha, hname⟩
    exact ⟨a, ha, hspaces a ha, hname⟩

theorem attribute?_node (hx : d.element? x = some e) (name : String) :
    (Point.node x : Point d).attribute? name = e.attribute? name := by
  rw [Point.attribute?, hx]
  rfl

theorem mem_select_toAttribute (hx : d.element? x = some e) {p : Point d} :
    p ∈ (toAttribute name).select [.node x] ↔
      ∃ a ∈ e.attributes, sameName name a.name ∧ p = .attribute x a.name := by
  have hselect : (toAttribute name).select [.node x] =
      (Step.mk .attribute (.name name) []).apply [.node x] := rfl
  rw [hselect, mem_apply]
  simp only [List.mem_singleton, exists_eq_left, Step.fromPoint, List.foldl_nil, Step.reach,
    attributesOf, hx, List.mem_filter, List.mem_map]
  constructor
  · rintro ⟨⟨a, ha, rfl⟩, hname⟩
    exact ⟨a, ha, hname, rfl⟩
  · rintro ⟨a, ha, hname, rfl⟩
    exact ⟨⟨a, ha, rfl⟩, hname⟩

theorem sameName_self (name : String) : sameName name name := by
  rw [sameName, beq_self_eq_true]

theorem mem_select_spelled (hx : d.element? x = some e)
    (hspaces : ∀ a ∈ e.attributes, a.space = .none) :
    .attribute x name ∈ (toAttribute name).select [.node x] ↔ (e.attribute? name).isSome := by
  rw [mem_select_toAttribute hx, isSome_attribute?_iff hspaces]
  constructor
  · rintro ⟨a, ha, -, hname⟩
    exact ⟨a, ha, (Point.attribute.inj hname).2.symm⟩
  · rintro ⟨a, ha, rfl⟩
    exact ⟨a, ha, sameName_self _, rfl⟩

theorem text_attribute (hx : d.element? x = some e) :
    (Point.attribute x name : Point d).text = (e.attribute? name).getD "" := by
  rw [Point.text, attributeText, attribute?_node hx]

theorem attributeValue_node (hx : d.element? x = some e) (name : String) :
    (Selection.xpath d [.node x]).attributeValue name = .ok ((e.attribute? name).getD "") := by
  rw [← attribute?_node hx]
  rfl

/-- A node passes a condition in brackets. -/
def Passes (x : d.Id) (condition : String) : Prop :=
  (Selection.xpath d [.node x]).find ("self::node()" ++ condition) = .ok (.xpath d [.node x])

theorem passes_iff {text : String} {condition : Condition}
    (hread : readPath ("self::node()" ++ text) = .ok (itselfIf condition)) :
    Passes x text ↔ condition.keep [Point.node x] = [.node x] := by
  have hselect : (itselfIf condition).select [.node x] =
      ((condition.keep [Point.node x]) ++ []).eraseDups := rfl
  have hnodup : (condition.keep [Point.node x]).Nodup :=
    (keep_sublist condition _).nodup (List.nodup_singleton _)
  rw [Passes, find_eq hread, hselect, List.append_nil, eraseDups_of_nodup hnodup]
  constructor
  · intro heq
    exact eq_of_heq (Selection.xpath.inj (Except.ok.inj heq)).2
  · intro heq
    rw [heq]

theorem passes_hasAttribute (hx : d.element? x = some e) (h : ReadsName cs name rest) :
    Passes x ("[@" ++ name ++ "]") ↔ (e.attribute? name).isSome := by
  rw [passes_iff (readPath_hasAttribute h), Condition.keep, List.filter_eq_self]
  simp [attribute?_node hx]

theorem passes_attributeEquals (hx : d.element? x = some e) (h : ReadsName cs name rest) {q : Char}
    (hq : q = '\x27' ∨ q = '\x22') {value : String} (hvalue : q ∉ value.toList) :
    Passes x ("[@" ++ name ++ "=" ++ quotedBy q value ++ "]") ↔ e.attribute? name = some value := by
  rw [passes_iff (readPath_attributeEquals h hq hvalue), Condition.keep, List.filter_eq_self]
  simp [attribute?_node hx]

end XPath

open XPath

/-- A step to the attributes of a name finds those that have it in any case.  Of these, a condition
on the name and the value of the attribute see the one that is spelled like it.  All of them agree
if the element has no attribute that differs from the name by case. -/
theorem attribute_by_spelling {d : Html.Document} {x : d.Id} {e : Html.Element}
    (hx : d.element? x = some e) (hspaces : ∀ a ∈ e.attributes, a.space = .none) {name : String}
    {cs rest : List Char} (hname : ReadsName cs name rest) :
    ∃ found : List (Point d),
      (Selection.xpath d [.node x]).find ("@" ++ name) = .ok (.xpath d found) ∧
      (∀ p, p ∈ found ↔ ∃ a ∈ e.attributes, sameName name a.name ∧ p = .attribute x a.name) ∧
      (Passes x ("[@" ++ name ++ "]") ↔ .attribute x name ∈ found) ∧
      (∀ q value, q = '\x27' ∨ q = '\x22' → q ∉ value.toList →
        (Passes x ("[@" ++ name ++ "=" ++ quotedBy q value ++ "]") ↔
          .attribute x name ∈ found ∧ (Point.attribute x name : Point d).text = value)) ∧
      (Selection.xpath d [.node x]).attributeValue name =
        .ok (if .attribute x name ∈ found then (Point.attribute x name : Point d).text else "") ∧
      ((∀ a ∈ e.attributes, sameName name a.name → a.name = name) →
        (Passes x ("[@" ++ name ++ "]") ↔ found ≠ []) ∧
        (∀ q value, q = '\x27' ∨ q = '\x22' → q ∉ value.toList →
          (Passes x ("[@" ++ name ++ "=" ++ quotedBy q value ++ "]") ↔
            ∃ p ∈ found, p.text = value)) ∧
        (Selection.xpath d [.node x]).attributeValue name =
          .ok ((found.head?.map Point.text).getD "")) := by
  generalize hfound : (toAttribute name).select [.node x] = found
  have hmem : ∀ p, p ∈ found ↔
      ∃ a ∈ e.attributes, sameName name a.name ∧ p = .attribute x a.name := by
    intro p
    rw [← hfound, mem_select_toAttribute hx]
  have hspelled : .attribute x name ∈ found ↔ (e.attribute? name).isSome := by
    rw [← hfound, mem_select_spelled hx hspaces]
  have hpasses : Passes x ("[@" ++ name ++ "]") ↔ .attribute x name ∈ found := by
    rw [passes_hasAttribute hx hname, hspelled]
  have hequals : ∀ q value, q = '\x27' ∨ q = '\x22' → q ∉ value.toList →
      (Passes x ("[@" ++ name ++ "=" ++ quotedBy q value ++ "]") ↔
        .attribute x name ∈ found ∧ (Point.attribute x name : Point d).text = value) := by
    intro q value hq hquote
    rw [passes_attributeEquals hx hname hq hquote, hspelled, text_attribute hx]
    cases e.attribute? name <;> simp
  have hvalue : (Selection.xpath d [.node x]).attributeValue name =
      .ok (if .attribute x name ∈ found then (Point.attribute x name : Point d).text else "") := by
    simp only [attributeValue_node hx, hspelled, text_attribute hx]
    cases e.attribute? name <;> rfl
  refine ⟨found, ?_, hmem, hpasses, hequals, hvalue, fun hcase => ?_⟩
  · rw [find_eq (readPath_toAttribute hname), hfound]
  -- Now there is nothing to be found but the attribute that is spelled like the name.
  have honly : ∀ p ∈ found, p = .attribute x name := by
    intro p hp
    obtain ⟨a, ha, hsame, rfl⟩ := (hmem p).mp hp
    rw [hcase a ha hsame]
  rcases found with _ | ⟨p, found⟩
  · refine ⟨?_, fun q value hq hquote => ?_, ?_⟩
    · simp [hpasses]
    · simp [hequals q value hq hquote]
    · simp [hvalue]
  · obtain rfl := honly p List.mem_cons_self
    have hin : .attribute x name ∈ Point.attribute x name :: found := List.mem_cons_self
    refine ⟨iff_of_true (hpasses.mpr hin) (List.cons_ne_nil _ _), fun q value hq hquote => ?_, ?_⟩
    · rw [hequals q value hq hquote]
      constructor
      · rintro ⟨-, htext⟩
        exact ⟨_, hin, htext⟩
      · rintro ⟨p, hp, htext⟩
        rw [honly p hp] at htext
        exact ⟨hin, htext⟩
    · rw [hvalue, if_pos hin]
      rfl

/-- An element with an attribute. -/
def marked : Html.Document := .ofText "<p id=x>"

def paragraph : marked.Id := ⟨4, by cbv⟩

theorem element?_paragraph : marked.element? paragraph =
    some { name := "p", attributes := [{ name := "id", value := "x" }] } := by cbv

/-- The attribute, spelled as it is in the document. -/
theorem attribute_by_spelling_same :
    ∃ found : List (Point marked),
      (Selection.xpath marked [.node paragraph]).find "@id" = .ok (.xpath marked found) ∧
        .attribute paragraph "id" ∈ found ∧ Passes paragraph "[@id]" ∧
        Passes paragraph "[@id=\x22x\x22]" ∧
        (Selection.xpath marked [.node paragraph]).attributeValue "id" = .ok "x" := by
  have hname : ReadsName "id".toList "id" [] := by cbv
  obtain ⟨found, hfind, hmem, hpasses, hequals, hvalue, -⟩ :=
    attribute_by_spelling element?_paragraph (by simp) hname
  have hin : .attribute paragraph "id" ∈ found :=
    (hmem _).mpr ⟨_, List.mem_singleton_self _, sameName_self "id", rfl⟩
  have htext : (Point.attribute paragraph "id" : Point marked).text = "x" :=
    text_attribute element?_paragraph
  refine ⟨found, hfind, hin, hpasses.mpr hin, ?_, ?_⟩
  · exact (hequals '\x22' "x" (.inr rfl) (by decide)).mpr ⟨hin, htext⟩
  · rw [hvalue, if_pos hin, htext]

/-- In another case the step finds the attribute, but neither of the conditions nor the value of the
attribute does. -/
theorem exists_attribute_in_other_case :
    ∃ found : List (Point marked),
      (Selection.xpath marked [.node paragraph]).find "@ID" = .ok (.xpath marked found) ∧
        (∃ p ∈ found, p.text = "x") ∧ ¬Passes paragraph "[@ID]" ∧
        ¬Passes paragraph "[@ID='x']" ∧
        (Selection.xpath marked [.node paragraph]).attributeValue "ID" = .ok "" := by
  have hname : ReadsName "ID".toList "ID" [] := by cbv
  have hsame : sameName "ID" "id" := by cbv
  have hquote : '\x27' ∉ "x".toList := by decide
  have hpasses := passes_hasAttribute element?_paragraph hname
  have hequals := passes_attributeEquals element?_paragraph hname (.inl rfl) hquote
  have hvalue := attributeValue_node element?_paragraph "ID"
  have hnone : ({ name := "p", attributes := [{ name := "id", value := "x" }] } :
      Html.Element).attribute? "ID" = none := by decide
  rw [hnone] at hpasses hequals hvalue
  refine ⟨_, find_eq (readPath_toAttribute hname) _, ⟨.attribute paragraph "id", ?_, ?_⟩,
    mt hpasses.mp Bool.false_ne_true, mt hequals.mp (Option.some_ne_none "x").symm, hvalue⟩
  · exact (mem_select_toAttribute element?_paragraph).mpr
      ⟨_, List.mem_singleton_self _, hsame, rfl⟩
  · exact text_attribute element?_paragraph

end DocQuery
