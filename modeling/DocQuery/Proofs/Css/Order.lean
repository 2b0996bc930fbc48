import DocQuery.Proofs.XPath.Order
import DocQuery.Selection.Basic

/-! Elements in document order.  From one start a search lists its matches in document order.  From
several starts it lists those of one start before those of the next, each match where it stands
first.  If two starts are nested, then the outer one comes first and has the matches of the inner one,
as long as an element matches whatever the start is; if they are not, the matches of the first end
before the second start.  So the elements stay in document order whatever searches and picks lead to
them. -/

namespace DocQuery

namespace Layout

variable {layout : Layout α} {a b c : layout.Id}

/-- The second node lies below the first one. -/
def Below (a b : layout.Id) : Prop :=
  Relation.TransGen (fun p c => (layout.slot c).parent = some p) a b

theorem mem_descendants_iff_below : b ∈ layout.descendants a ↔ Below a b := by
  rw [mem_descendants]
  constructor
  · rintro ⟨hab, hb⟩
    induction b using WellFoundedLT.induction with
    | ind b ih =>
      obtain ⟨p, hp, hap, hpb⟩ := exists_parent_of_lt hab hb
      rcases hap.eq_or_lt with rfl | hlt
      · exact .single hp
      · exact .tail (ih p hpb hlt (Nat.lt_trans hpb hb)) hp
  · intro h
    induction h with
    | single hp =>
      exact ⟨lt_of_parent hp, Nat.lt_of_lt_of_le (lt_stop _) (stop_le_of_parent hp)⟩
    | @tail p c _ hp ih =>
      obtain ⟨hab, hb⟩ := ih
      have hstop := stop_le_stop hab.le hb
      have hle := stop_le_of_parent hp
      have hlt := lt_stop c
      exact ⟨hab.trans (lt_of_parent hp), by omega⟩

theorem pairwise_descendants (a : layout.Id) : (layout.descendants a).Pairwise (· < ·) :=
  (pairwise_subtree a).sublist (List.tail_sublist _)

end Layout

namespace Css

open Html

variable {d : Document} {x a : d.Id} {selectors : List Selector}

/-! ### Selectors that ask for the start -/

mutual

/-- Whether a test asks for the element from which the search started. -/
def Simple.usesScope : Simple → Bool
  | .scope => true
  | .is alternatives | .not alternatives => anyUsesScope alternatives
  | .has relatives => anyUsesScope relatives
  | _ => false

def someUsesScope : List Simple → Bool
  | [] => false
  | test :: rest => test.usesScope || someUsesScope rest

def Selector.usesScope : Selector → Bool
  | .simple tests => someUsesScope tests
  | .combined left _ tests => left.usesScope || someUsesScope tests

def anyUsesScope : List Selector → Bool
  | [] => false
  | selector :: rest => selector.usesScope || anyUsesScope rest

end

mutual

theorem Simple.accepts_congr {test : Simple} (h : test.usesScope = false) {s s' : Search d}
    (hanchor : s.anchor = s'.anchor) (id : d.Id) :
    test.accepts d s id = test.accepts d s' id := by
  match test with
  | .scope => cases h
  | .anchor => rw [Simple.accepts, Simple.accepts, hanchor]
  | .is alternatives | .not alternatives =>
    rw [Simple.usesScope] at h
    rw [Simple.accepts, Simple.accepts, anyAccepts_congr h hanchor]
  -- The relatives are asked with this element for an anchor, whatever the anchor was.
  | .has relatives =>
    rw [Simple.usesScope] at h
    have hcongr : ∀ other, anyAccepts d { s with anchor := some id } relatives other =
        anyAccepts d { s' with anchor := some id } relatives other := by
      intro other
      apply anyAccepts_congr h
      rfl
    simp only [Simple.accepts, hcongr]
  | .universal | .noSpace | .host | .name _ | .id _ | .class _ | .attribute _ | .position _
  | .root | .empty => simp only [Simple.accepts]

theorem allAccept_congr {tests : List Simple} (h : someUsesScope tests = false) {s s' : Search d}
    (hanchor : s.anchor = s'.anchor) (id : d.Id) :
    allAccept d s tests id = allAccept d s' tests id := by
  match tests with
  | [] => rfl
  | test :: rest =>
    rw [someUsesScope, Bool.or_eq_false_iff] at h
    rw [allAccept, allAccept, Simple.accepts_congr h.1 hanchor, allAccept_congr h.2 hanchor]

theorem Selector.accepts_congr {selector : Selector} (h : selector.usesScope = false)
    {s s' : Search d} (hanchor : s.anchor = s'.anchor) (id : d.Id) :
    selector.accepts d s id = selector.accepts d s' id := by
  match selector with
  | .simple tests =>
    rw [Selector.usesScope] at h
    rw [Selector.accepts, Selector.accepts, allAccept_congr h hanchor]
  | .combined left combinator tests =>
    rw [Selector.usesScope, Bool.or_eq_false_iff] at h
    rw [Selector.accepts, Selector.accepts, allAccept_congr h.2 hanchor]
    simp only [Selector.accepts_congr h.1 hanchor]

theorem anyAccepts_congr {selectors : List Selector} (h : anyUsesScope selectors = false)
    {s s' : Search d} (hanchor : s.anchor = s'.anchor) (id : d.Id) :
    anyAccepts d s selectors id = anyAccepts d s' selectors id := by
  match selectors with
  | [] => rfl
  | selector :: rest =>
    rw [anyUsesScope, Bool.or_eq_false_iff] at h
    rw [anyAccepts, anyAccepts, Selector.accepts_congr h.1 hanchor, anyAccepts_congr h.2 hanchor]

end

/-! ### Matches -/

/-- Whether an element matches does not depend on the element from which the search starts. -/
def Unscoped (d : Document) (selectors : List Selector) : Prop :=
  ∀ start start' id : d.Id, anyAccepts d { scope := some start, anchor := none } selectors id =
    anyAccepts d { scope := some start', anchor := none } selectors id

/-- An element that matches from any start. -/
def Matches (d : Document) (selectors : List Selector) (id : d.Id) : Prop :=
  d.isElement id ∧ ∀ start, anyAccepts d { scope := some start, anchor := none } selectors id

theorem unscoped_of_usesScope (h : anyUsesScope selectors = false) : Unscoped d selectors := by
  intro start start' id
  apply anyAccepts_congr h
  rfl

theorem mem_select (h : Unscoped d selectors) :
    x ∈ select d selectors a ↔ Matches d selectors x ∧ x ∈ d.descendants a := by
  have haccepts : (∀ start, anyAccepts d { scope := some start, anchor := none } selectors x) ↔
      anyAccepts d { scope := some a, anchor := none } selectors x := by
    constructor
    · intro hall
      exact hall a
    · intro ha start
      rw [h start a, ha]
  rw [select, List.mem_filter, Matches, haccepts, Bool.and_eq_true]
  exact and_comm

theorem mem_selectAll (h : Unscoped d selectors) {starts : List d.Id} :
    x ∈ selectAll d selectors starts ↔
      Matches d selectors x ∧ ∃ a ∈ starts, Layout.Below a x := by
  simp only [selectAll, List.mem_eraseDups, List.mem_flatMap, mem_select h,
    Layout.mem_descendants_iff_below]
  constructor
  · rintro ⟨a, ha, hx, hbelow⟩
    exact ⟨hx, a, ha, hbelow⟩
  · rintro ⟨hx, a, ha, hbelow⟩
    exact ⟨a, ha, hx, hbelow⟩

theorem pairwise_select (selectors : List Selector) (a : d.Id) :
    (select d selectors a).Pairwise (· < ·) :=
  (Layout.pairwise_descendants a).filter _

/-- Elements found from starts in document order are in document order. -/
theorem pairwise_selectAll (h : Unscoped d selectors) {starts : List d.Id}
    (hstarts : starts.Pairwise (· < ·)) : (selectAll d selectors starts).Pairwise (· < ·) := by
  apply pairwise_eraseDups_flatMap
  · intro a _
    have hpairwise := pairwise_select selectors a
    rw [eraseDups_of_nodup (hpairwise.imp ne_of_lt)]
    exact hpairwise
  · refine hstarts.imp ?_
    intro a b hab x hx y hy
    rw [mem_select h, Layout.mem_descendants] at hx hy
    obtain ⟨-, hax, hxa⟩ := hx
    obtain ⟨hy, hby, hyb⟩ := hy
    by_cases hb : b.val < Layout.stop d a
    · left
      have hstop := Layout.stop_le_stop hab.le hb
      rw [mem_select h, Layout.mem_descendants]
      exact ⟨hy, hab.trans hby, Nat.lt_of_lt_of_le hyb hstop⟩
    · right
      rw [Fin.lt_def] at hby ⊢
      omega

/-! ### Searches -/

/-- Selections that any searches and picks lead to from the outermost element. -/
inductive Reached (d : Document) : Selection → Prop
  | start : Reached d (.css d d.rootElement?.toList)
  | find {s t : Selection} {selector : String} {selectors : List Selector} (hs : Reached d s)
    (hselectors : readSelectors selector = .ok selectors) (hunscoped : Unscoped d selectors)
    (ht : s.find selector = .ok t) : Reached d t
  | findEmpty {s t : Selection} (hs : Reached d s) (ht : s.find "" = .ok t) : Reached d t
  | pick {s t : Selection} {index : Nat} (hs : Reached d s) (ht : s.at? index = some t) :
    Reached d t
  | element {s t : Selection} (hs : Reached d s) (ht : t ∈ s.elements) : Reached d t

theorem reached_ofDocument {document : String} {s : Selection}
    (h : Selection.ofDocument .css document = .ok s) : Reached (.ofText document) s := by
  cases h
  exact .start

theorem find_eq {selector : String} (h : readSelectors selector = .ok selectors)
    (ids : List d.Id) :
    (Selection.css d ids).find selector = .ok (.css d (selectAll d selectors ids)) := by
  have hne : selector.isEmpty = false := by
    rw [Bool.eq_false_iff]
    intro hempty
    rw [String.isEmpty_iff] at hempty
    subst hempty
    have herror : (readSelectors "").isOk = false := by decide +kernel
    rw [h] at herror
    cases herror
  rw [Selection.find, hne, h]
  rfl

/-- Elements in document order. -/
structure InOrder (ids : List d.Id) : Prop where
  element : ∀ id ∈ ids, d.isElement id
  pairwise : ids.Pairwise (· < ·)

theorem inOrder_singleton {id : d.Id} (h : d.isElement id) : InOrder [id] := by
  refine ⟨?_, List.pairwise_singleton _ _⟩
  intro id' hid
  rw [List.mem_singleton.mp hid]
  exact h

theorem inOrder_selectAll (h : Unscoped d selectors) {starts : List d.Id}
    (hstarts : InOrder starts) : InOrder (selectAll d selectors starts) :=
  ⟨fun _ hx => ((mem_selectAll h).mp hx).1.1, pairwise_selectAll h hstarts.pairwise⟩

theorem inOrder_rootElement? : InOrder d.rootElement?.toList := by
  cases hroot : d.rootElement? with
  | none => exact ⟨by simp, .nil⟩
  | some id =>
    have helement := List.find?_some hroot
    exact inOrder_singleton helement

theorem exists_elements_of_reached {s : Selection} (h : Reached d s) :
    ∃ ids : List d.Id, s = .css d ids ∧ InOrder ids := by
  induction h with
  | start => exact ⟨_, rfl, inOrder_rootElement?⟩
  | find _ hselectors hunscoped ht ih =>
    obtain ⟨ids, rfl, hids⟩ := ih
    rw [find_eq hselectors] at ht
    cases ht
    exact ⟨_, rfl, inOrder_selectAll hunscoped hids⟩
  | findEmpty _ ht ih =>
    obtain ⟨ids, rfl, hids⟩ := ih
    cases ht
    exact ⟨ids, rfl, hids⟩
  | pick _ ht ih =>
    obtain ⟨ids, rfl, hids⟩ := ih
    obtain ⟨id, hid, rfl⟩ := Option.map_eq_some_iff.mp ht
    exact ⟨[id], rfl, inOrder_singleton (hids.element id (List.mem_of_getElem? hid))⟩
  | element _ ht ih =>
    obtain ⟨ids, rfl, hids⟩ := ih
    obtain ⟨id, hid, rfl⟩ := List.mem_map.mp ht
    exact ⟨[id], rfl, inOrder_singleton (hids.element id hid)⟩

/-- Searches that do not ask where they start lead to elements in document order, each of them once,
and a search finds the matches below the elements that it starts from. -/
theorem elements_in_order {s : Selection} (h : Reached d s) :
    ∃ ids : List d.Id, s = .css d ids ∧ ids.Nodup ∧ ids.Pairwise (· < ·) ∧
      (∀ id ∈ ids, d.isElement id) ∧
      ∀ selector selectors, readSelectors selector = .ok selectors → Unscoped d selectors →
        ∃ found : List d.Id, s.find selector = .ok (.css d found) ∧ found.Nodup ∧
          found.Pairwise (· < ·) ∧
          ∀ x, x ∈ found ↔ Matches d selectors x ∧ ∃ a ∈ ids, Layout.Below a x := by
  obtain ⟨ids, rfl, hids⟩ := exists_elements_of_reached h
  refine ⟨ids, rfl, hids.pairwise.imp ne_of_lt, hids.pairwise, hids.element, ?_⟩
  intro selector selectors hselectors hunscoped
  have hfound := pairwise_selectAll hunscoped hids.pairwise
  refine ⟨_, find_eq hselectors ids, hfound.imp ne_of_lt, hfound, ?_⟩
  intro x
  exact mem_selectAll hunscoped

theorem exists_unscoped (selector : String)
    (h : (readSelectors selector).toOption.any fun selectors => !anyUsesScope selectors) :
    ∃ selectors, readSelectors selector = .ok selectors ∧ Unscoped d selectors := by
  cases hselectors : readSelectors selector with
  | error e =>
    rw [hselectors] at h
    cases h
  | ok selectors =>
    rw [hselectors] at h
    have hscope : anyUsesScope selectors = false := by simpa [Except.toOption] using h
    exact ⟨selectors, rfl, unscoped_of_usesScope hscope⟩

/-- An element below two elements, and one below the outer one only. -/
def nested : String := "<div><div><b>1</b></div><b>2</b></div>"

def outermost : Selection := .ofHtml nested

/-- The searches for all elements of one name and for those of another name below them. -/
theorem elements_in_order_nested :
    ∃ (s : Selection) (found : List (Document.ofText nested).Id),
      outermost.find "div" = .ok s ∧ s.size = 2 ∧ s.find "b" = .ok (.css _ found) ∧
        found.Pairwise (· < ·) ∧ found.length = 2 := by
  obtain ⟨outer, houter, houter'⟩ :=
    exists_unscoped (d := .ofText nested) "div" (by decide +kernel)
  obtain ⟨inner, hinner, hinner'⟩ :=
    exists_unscoped (d := .ofText nested) "b" (by decide +kernel)
  have hstart : Reached (.ofText nested) outermost := reached_ofDocument rfl
  have hs : outermost.find "div" = _ := find_eq houter _
  obtain ⟨ids, -, -, -, -, hfind⟩ := elements_in_order (hstart.find houter houter' hs)
  obtain ⟨found, ht, -, hpairwise, -⟩ := hfind "b" inner hinner hinner'
  have hsize : (outermost.find "div").toOption.map Selection.size = some 2 := by decide +kernel
  have hlength : ((outermost.find "div").toOption.bind fun s => (s.find "b").toOption).map
      Selection.size = some 2 := by decide +kernel
  rw [hs] at hsize hlength
  refine ⟨_, found, hs, Option.some.inj hsize, ht, hpairwise, ?_⟩
  change (Selection.find _ "b").toOption.map Selection.size = some 2 at hlength
  rw [ht] at hlength
  exact Option.some.inj hlength

/-- From the start on the order is that of the starts. -/
example : ((outermost.find "div").toOption.bind fun s => (s.find ":scope > b").toOption).map
    (fun s => s.elements.map Selection.textContent) = some ["2", "1"] := by decide +kernel

end Css

end DocQuery
