import DocQuery.Proofs.Evaluation.Plain
import DocQuery.Json.Path

/-! Paths into JSON values one behind the other.  A dot after a path ends its last segment, unless a
backslash takes the dot.  So the segments of two paths with a dot between them are those of the first
and then those of the second, and what they lead to is what the second leads to from the value that
the first leads to.  In an array `#` is no step to a value: with segments behind it, it goes on into
every item.  The first path therefore has to do without it. -/

namespace DocQuery

namespace Json

/-- The number of backslashes at the end of a text. -/
def trailingBackslashes (cs : List Char) : Nat := (cs.reverse.takeWhile (· = '\\')).length

/-- The last character of a path is a backslash that no other one takes. -/
def EndsUnpaired (path : String) : Prop := trailingBackslashes path.toList % 2 = 1

instance : DecidablePred EndsUnpaired := fun path =>
  inferInstanceAs (Decidable (trailingBackslashes path.toList % 2 = 1))

theorem trailingBackslashes_le (cs : List Char) : trailingBackslashes cs ≤ cs.length := by
  have hle := (List.takeWhile_sublist (· = '\\') (l := cs.reverse)).length_le
  rwa [List.length_reverse] at hle

theorem trailingBackslashes_cons (c : Char) (cs : List Char) :
    trailingBackslashes (c :: cs) =
      if trailingBackslashes cs = cs.length ∧ c = '\\' then cs.length + 1
      else trailingBackslashes cs := by
  rw [trailingBackslashes, List.reverse_cons, List.takeWhile_append, List.length_reverse,
    ← trailingBackslashes]
  by_cases hall : trailingBackslashes cs = cs.length
  · by_cases hc : c = '\\'
    · simp [hall, hc]
    · simp [hall, hc]
  · simp only [hall, false_and, if_false]
    rfl

theorem trailingBackslashes_cons_of_ne {c : Char} (hc : c ≠ '\\') (cs : List Char) :
    trailingBackslashes (c :: cs) = trailingBackslashes cs := by
  rw [trailingBackslashes_cons, if_neg fun h => hc h.2]

/-- A backslash and the character that it takes do not change whether the last one is unpaired. -/
theorem trailingBackslashes_escape (c : Char) (cs : List Char) :
    trailingBackslashes ('\\' :: c :: cs) % 2 = trailingBackslashes cs % 2 := by
  rw [trailingBackslashes_cons, trailingBackslashes_cons, List.length_cons]
  by_cases hall : trailingBackslashes cs = cs.length
  · by_cases hc : c = '\\'
    · simp only [hall, hc, and_self, if_true]
      omega
    · simp only [hc, and_false, if_false]
      split <;> omega
  · have hle := trailingBackslashes_le cs
    simp only [hall, false_and, if_false]
    split <;> omega

/-- A backslash takes a dot that stands right behind it, but no other one. -/
theorem splitPath_append {current cs : List Char} (h : trailingBackslashes cs % 2 ≠ 1)
    (ds : List Char) :
    splitPath current (cs ++ '.' :: ds) = splitPath current cs ++ splitPath [] ds := by
  have hcons : ∀ {current c cs}, c ≠ '\\' →
      splitPath current (c :: cs) =
        if c = '.' then String.ofList current.reverse :: splitPath [] cs
        else splitPath (c :: current) cs := by
    intro current c cs hc
    rw [splitPath]
    · intro heq
      exact absurd heq hc
    · intro _ _ heq
      exact absurd heq hc
  -- Over the first path as it is split; only a backslash that ends it could take the dot.
  induction current, cs using splitPath.induct with
  | case1 current =>
    rw [List.nil_append, hcons (by decide), if_pos rfl]
    rfl
  | case2 current => exact absurd rfl h
  | case3 current c cs ih =>
    rw [trailingBackslashes_escape] at h
    exact ih h
  | case4 current cs _ _ ih =>
    rw [trailingBackslashes_cons_of_ne (by decide)] at h
    rw [List.cons_append, hcons (by decide), hcons (by decide), if_pos rfl, if_pos rfl, ih h]
    rfl
  | case5 current c cs hlast hescape hdot ih =>
    have hc : c ≠ '\\' := by
      rintro rfl
      cases cs with
      | nil => exact hlast rfl rfl
      | cons c cs => exact hescape c cs rfl rfl
    rw [trailingBackslashes_cons_of_ne hc] at h
    rw [List.cons_append, hcons hc, hcons hc, if_neg hdot, if_neg hdot, ih h]

theorem segments_append {first : String} (h : ¬EndsUnpaired first) (second : String) :
    segments (first ++ "." ++ second) = segments first ++ segments second := by
  rw [segments, toList_join rfl]
  exact splitPath_append h second.toList

/-- Segments lead on from where those in front of them lead to. -/
theorem resolve_append {front : List String} (h : "#" ∉ front) (value : Json)
    (back : List String) :
    resolve value (front ++ back) = (resolve value front).bind fun v => resolve v back := by
  induction front generalizing value with
  | nil => rfl
  | cons segment front ih =>
    rw [List.mem_cons, not_or] at h
    obtain ⟨hsegment, hfront⟩ := h
    rw [List.cons_append]
    cases value with
    | object members =>
      rw [resolve, resolve, Option.bind_assoc]
      simp only [ih hfront]
    | array items =>
      rw [resolve, resolve, if_neg (Ne.symm hsegment), if_neg (Ne.symm hsegment)]
      cases readIndex segment.toList with
      | error cause => rfl
      | ok index =>
        dsimp only
        rw [Option.bind_assoc]
        simp only [ih hfront]
    | null | bool _ | number _ | string _ => rfl

end Json

/-! ### Searches one after the other -/

open Json

/-- A call that searches by a path. -/
def follow (path : String) : Call := ⟨"json", [path]⟩

theorem find_json {path : String} (h : path ≠ "") (value : Option Json) :
    (Selection.json value).find path = .ok (.json (value.bind (·.get? path))) := by
  have hempty : path.isEmpty = false := by
    rw [Bool.eq_false_iff, ne_eq, String.isEmpty_iff]
    exact h
  rw [Selection.find, hempty]
  rfl

theorem invoke_follow (s : Selection) (path : String) :
    Registry.builtin.invoke "json" s [path] =
      ((s.asKind .json).bind fun s => s.find path).mapError .selection := rfl

theorem exists_value_of_asKind {s t : Selection} (h : s.asKind .json = .ok t) :
    ∃ value, t = .json value := by
  by_cases hkind : s.kind = .json
  · rw [Selection.asKind, if_pos hkind] at h
    cases h
    cases s with
    | json value => exact ⟨value, rfl⟩
    | text _ | regex _ | css _ _ | xpath _ _ => cases hkind
  · rw [Selection.asKind, if_neg hkind, Selection.ofDocument] at h
    generalize Json.ofText (Text.trim s.raw) = reading at h
    cases reading with
    | error fault => cases h
    | ok value =>
      cases h
      exact ⟨some value, rfl⟩

section

variable {first second : String} (hfirst : first ≠ "") (hsecond : second ≠ "")
  (hhash : "#" ∉ segments first) (hend : ¬EndsUnpaired first)
include hhash hend

theorem find_dot (value : Option Json) :
    (Selection.json value).find (first ++ "." ++ second) =
      .ok (.json ((value.bind (·.get? first)).bind (·.get? second))) := by
  have hne : first ++ "." ++ second ≠ "" := by simp
  rw [find_json hne]
  cases value with
  | none => rfl
  | some value =>
    simp only [Option.bind_some, get?, segments_append hend]
    rw [resolve_append hhash]

include hfirst hsecond

theorem invoke_dot (s : Selection) :
    Registry.builtin.invoke "json" s [first ++ "." ++ second] =
      (Registry.builtin.invoke "json" s [first]).bind fun s =>
        Registry.builtin.invoke "json" s [second] := by
  have hkind : ∀ value, (Selection.json value).asKind .json = .ok (.json value) := fun _ => rfl
  rw [invoke_follow, invoke_follow]
  cases hs : s.asKind .json with
  | error e => rfl
  | ok t =>
    obtain ⟨value, rfl⟩ := exists_value_of_asKind hs
    rw [Except.bind, Except.bind, find_dot hhash hend, find_json hfirst, Except.mapError,
      Except.mapError, Except.bind, invoke_follow, hkind, Except.bind, find_json hsecond,
      Except.mapError]

end

/-- Paths compose.  A search by two paths with a dot between them leads to what a search by the first
and then one by the second leads to, from any value and from none.  So a pipeline gives the same with
either, provided that the paths hold no reference: a path that does is not the text that the search
is made with. -/
theorem find_dotted {first second : String} (hfirst : first ≠ "") (hsecond : second ≠ "")
    (hhash : "#" ∉ segments first) (hend : ¬EndsUnpaired first) :
    (∀ value : Option Json, ∃ middle found,
      (Selection.json value).find first = .ok (.json middle) ∧
      (Selection.json middle).find second = .ok (.json found) ∧
      (Selection.json value).find (first ++ "." ++ second) = .ok (.json found)) ∧
    (Text.contains first "\x7b$" = false → Text.contains second "\x7b$" = false →
      ∀ (program : Program) (id : program.Id)
        (text : (f : program.Id) → f < id → Evaluating program String) (s : Selection)
        (front back : List Call),
        Evaluating.runResolved .builtin id text s
            (front ++ follow (first ++ "." ++ second) :: back) =
          Evaluating.runResolved .builtin id text s
            (front ++ follow first :: follow second :: back)) := by
  constructor
  · intro value
    exact ⟨_, _, find_json hfirst value, find_json hsecond _, find_dot hhash hend value⟩
  · intro hplain hplain' program id text s front back
    have hjoin := not_contains_join "." rfl (by decide) (by decide) hplain hplain'
    exact Evaluating.runResolved_join (by decide) hjoin hplain hplain'
      (invoke_dot hfirst hsecond hhash hend) text s front back

/-- The first path ends in a backslash that takes itself, and the second one looks into every
item. -/
theorem find_dotted_escaped :
    (∀ value : Option Json, ∃ middle found,
      (Selection.json value).find "\\\\" = .ok (.json middle) ∧
      (Selection.json middle).find "#.x" = .ok (.json found) ∧
      (Selection.json value).find "\\\\.#.x" = .ok (.json found)) ∧
    Evaluating.runResolved .builtin (⟨2, by decide⟩ : linked.Id)
        (fun f _ => Evaluating.fieldText .builtin f) (.text "\x7b\x22\\\\\x22:[]\x7d")
        [follow "\\\\.#.x", ⟨"text", []⟩] =
      Evaluating.runResolved .builtin (⟨2, by decide⟩ : linked.Id)
        (fun f _ => Evaluating.fieldText .builtin f) (.text "\x7b\x22\\\\\x22:[]\x7d")
        [follow "\\\\", follow "#.x", ⟨"text", []⟩] := by
  have hhash : "#" ∉ segments "\\\\" := by decide
  have hend : ¬EndsUnpaired "\\\\" := by decide
  obtain ⟨hfind, hrun⟩ := @find_dotted "\\\\" "#.x" (by decide) (by decide) hhash hend
  exact ⟨hfind, hrun (by decide) (by decide) _ _ _ _ [] [⟨"text", []⟩]⟩

/-- A document with a member that is null. -/
def withNull : String := "\x7b\x22a\x22:null\x7d"

/-- The placeholder stands for the text of the selection that a call is made on: the document for a
search made at once, and the text of null, which is empty and selects the same, for the second of two
searches. -/
theorem exists_follows_differ :
    "a" ≠ "" ∧ "\x7b$\x7d" ≠ "" ∧ "#" ∉ segments "a" ∧ ¬EndsUnpaired "a" ∧
      ((Evaluating.runResolved .builtin (⟨2, by decide⟩ : linked.Id)
          (fun f _ => Evaluating.fieldText .builtin f) (.text withNull)
          [follow ("a" ++ "." ++ "\x7b$\x7d")]).run (.start linked "")).1.toOption.map
        Selection.size = some 0 ∧
      ((Evaluating.runResolved .builtin (⟨2, by decide⟩ : linked.Id)
          (fun f _ => Evaluating.fieldText .builtin f) (.text withNull)
          [follow "a", follow "\x7b$\x7d"]).run (.start linked "")).1.toOption.map
        Selection.size = some 1 := by
  refine ⟨by decide, by decide, by decide, by decide, ?_, ?_⟩ <;> decide +kernel

end DocQuery
