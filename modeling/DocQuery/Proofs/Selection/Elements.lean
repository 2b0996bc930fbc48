import Mathlib
import DocQuery.Operation.Builtin

/-! Elements one after the other and elements by index.  The element at an index is the one that a
walk through the elements meets there, so that an index outside is one that is not below the number
of elements.  The exception are JSON values other than arrays: they have elements, the values of an
object or the value itself, but none of these is found by an index. -/

namespace DocQuery

namespace Selection

/-- Whether the elements are found by index. -/
def indexed : Selection → Bool
  | json (some (.array _)) => true
  | json (some _) => false
  | _ => true

variable {s : Selection}

theorem at?_eq_getElem? (h : s.indexed) (index : Nat) : s.at? index = s.elements[index]? := by
  cases s with
  | text content => cases index <;> rfl
  | json value =>
    rcases value with _ | value
    · rfl
    cases value with
    | array items => rw [at?, elements, List.getElem?_map]
    | _ => cases h
  | _ => rw [at?, elements, List.getElem?_map]

theorem at?_of_not_indexed (h : ¬s.indexed) (index : Nat) : s.at? index = none := by
  cases s with
  | json value =>
    rcases value with _ | value
    · rfl
    cases value with
    | array items => exact absurd rfl h
    | _ => rfl
  | _ => exact absurd rfl h

/-- An index is outside if it is not below the number of elements. -/
theorem at?_eq_none_iff (h : s.indexed) {index : Nat} : s.at? index = none ↔ s.size ≤ index := by
  rw [at?_eq_getElem? h, List.getElem?_eq_none_iff, length_elements]

end Selection

/-- The operation that keeps the element at an index reports the index and the number of elements
where there is none. -/
theorem notFound_of_eq {s : Selection} {args : List String} {index size : Nat}
    (h : Registry.builtin.invoke "eq" s args = .error (.selection (.notFound index size))) :
    s.at? index = none ∧ size = s.size := by
  have heq : Registry.builtin.get? "eq" = some .eq := rfl
  rw [Registry.invoke, heq] at h
  dsimp only at h
  split at h
  · rename_i hargs
    simp only [Operation.eq] at h
    split at h
    · cases h
    split at h
    · cases h
    rename_i hnone
    cases h
    exact ⟨hnone, rfl⟩
  · cases h

/-- There are as many elements as the selection says.  If they are found by index, the element at an
index is the one that stands there, and there is none exactly from the number of elements on, so
that no index below it is ever reported as missing.  A JSON value that is no array has no element
at any index. -/
theorem at?_agrees (s : Selection) :
    s.elements.length = s.size ∧
      (s.indexed → ∀ index, s.at? index = s.elements[index]? ∧
        (s.at? index = none ↔ s.size ≤ index)) ∧
      (s.indexed → ∀ args index size,
        Registry.builtin.invoke "eq" s args = .error (.selection (.notFound index size)) →
          size ≤ index) ∧
      (¬s.indexed → s.kind = .json ∧ ∀ index, s.at? index = none) := by
  refine ⟨s.length_elements, ?_, ?_, ?_⟩
  · intro h index
    exact ⟨Selection.at?_eq_getElem? h index, Selection.at?_eq_none_iff h⟩
  · intro h args index size hmissing
    obtain ⟨hnone, rfl⟩ := notFound_of_eq hmissing
    exact (Selection.at?_eq_none_iff h).mp hnone
  · intro h
    refine ⟨?_, Selection.at?_of_not_indexed h⟩
    cases s with
    | json value => rfl
    | _ => exact absurd rfl h

/-- An array of two values, asked for the second and for a third one. -/
theorem at?_agrees_array :
    (Selection.json (some (.array [.null, .bool true]))).indexed ∧
      (Selection.json (some (.array [.null, .bool true]))).at? 1 = some (.json (some (.bool true))) ∧
      Registry.builtin.invoke "eq" (.json (some (.array [.null, .bool true]))) [" 2"]
        = .error (.selection (.notFound 2 2)) ∧ 2 ≤ 2 := by
  have hindexed : (Selection.json (some (.array [.null, .bool true]))).indexed := rfl
  have hmissing : Registry.builtin.invoke "eq" (.json (some (.array [.null, .bool true]))) [" 2"]
      = .error (.selection (.notFound 2 2)) := rfl
  obtain ⟨_, hat, hreported, _⟩ := at?_agrees (.json (some (.array [.null, .bool true])))
  refine ⟨hindexed, ?_, hmissing, hreported hindexed [" 2"] 2 2 hmissing⟩
  rw [(hat hindexed 1).1]
  rfl

/-- A text is the value that reading it gives if nothing is left of it. -/
theorem Json.ofText_of_readValue {text : String} {cs : List Char} (hcs : text.toList = cs)
    {value : Json} {h : ([] : List Char).length < cs.length}
    (hread : readValue maxDepth cs = .ok ⟨(value, []), h⟩) : ofText text = .ok value := by
  subst hcs
  rw [ofText, hread]
  rfl

/-- The value in an object is an element, but not by its index. -/
theorem exists_element_without_index :
    ∃ s, Selection.ofDocument .json "\x7b\"a\":1\x7d" = .ok s ∧ s.size = 1 ∧
      s.elements = [.json (some (.number (.integer 1)))] ∧ s.at? 0 = none ∧
      Registry.builtin.invoke "eq" s ["0"] = .error (.selection (.notFound 0 1)) := by
  have hchars : "\x7b\"a\":1\x7d".toList = ['\x7b', '\x22', 'a', '\x22', ':', '1', '\x7d'] := by
    decide
  have hread : Json.readValue (126 + 1) ['\x7b', '\x22', 'a', '\x22', ':', '1', '\x7d']
      = .ok ⟨(.object [("a", .number (.integer 1))], []), by decide⟩ := by cbv
  have htrim : Text.trim "\x7b\"a\":1\x7d" = "\x7b\"a\":1\x7d" := by
    rw [Text.trim, hchars, ← String.ofList_toList (s := "\x7b\"a\":1\x7d"), hchars]
    rfl
  refine ⟨.json (some (.object [("a", .number (.integer 1))])), ?_, rfl, rfl, rfl, rfl⟩
  simp only [Selection.ofDocument, htrim, Json.ofText_of_readValue hchars hread]

end DocQuery
