import DocQuery.Proofs.Value.Fields

/-! Changing a value in place.  A change is written here step by step on a value that it holds, and
what it has written stays even if it fails afterwards.  No change writes anything before it fails, so
it does what the mutator of its name does to a value that is given and returned.  After any sequence
of changes a value has its first type.  A list of objects then has an object for each push that
succeeded right behind the objects of its time, and in every object the fields of the pushes that
succeeded at its index, written one after the other. -/

namespace DocQuery.Value

/-- A computation on a value that it holds.  What it has written stays when it fails. -/
abbrev InPlace (α : Type) : Type := ExceptT ValueError (StateM Value) α

/-- A call of a mutator. -/
inductive Change where
  | setScalar (s : String)
  | insert (key : String) (item : Value)
  | push (index : Nat) (key : String) (item : Value)

/-- A push into a list of objects that has succeeded, with the number of objects before it. -/
structure Placed where
  length : Nat
  index : Nat
  key : String
  item : Value

namespace Change

/-- Writes a field of an object in a list, which may be the next new one. -/
def place (objects : List (List (String × Value))) (index : Nat) (key : String) (item : Value) :
    InPlace Unit := do
  if objects.length < index then throw (.overflow index objects.length)
  if objects.length = index then set (Value.objects (objects ++ [[]]))
  modify fun
    | .objects objects => .objects (objects.modify index (insertField key item))
    | value => value

/-- Writes the number that a text stands for. -/
def writeNumber (s : String) : InPlace Unit :=
  match Binary64.ofText (Text.trim s) with
  | .ok x => set (Value.number x)
  | .error cause => throw (.number s cause)

/-- The change, step by step. -/
def steps : Change → InPlace Unit
  | setScalar s => do
    match ← get with
    | .text _ => set (Value.text s)
    | .number _ => writeNumber s
    | value => throw (.wrongType "set" value.typeName)
  | insert key item => do
    match ← get with
    | .object fields => set (Value.object (insertField key item fields))
    | value => throw (.wrongType "insert" value.typeName)
  | push index key item => do
    match ← get with
    | .array items => set (Value.array (items ++ [item]))
    | .objects items => place items index key item
    | value => throw (.wrongType "push" value.typeName)

/-- What a change comes to, and the value after it. -/
def run (change : Change) (value : Value) : Except ValueError Unit × Value :=
  (ExceptT.run change.steps).run value

/-- What the mutator makes of a value. -/
def result (value : Value) : Change → Except ValueError Value
  | setScalar s => value.setScalar s
  | insert key item => value.insert key item
  | push index key item => value.push index key item

/-- The push into a list of objects that a change is, if it succeeds. -/
def placed (value : Value) (change : Change) : Option Placed :=
  match value, change, (change.run value).1 with
  | .objects items, push index key item, .ok () => some ⟨items.length, index, key, item⟩
  | _, _, _ => none

end Change

/-- The value after changes, one after the other. -/
def after (value : Value) (changes : List Change) : Value :=
  changes.foldl (fun value change => (change.run value).2) value

/-- The pushes into a list of objects that succeed among changes. -/
def placements (value : Value) : List Change → List Placed
  | [] => []
  | change :: changes => (change.placed value).toList ++ placements (change.run value).2 changes

/-! ### One change -/

namespace Change

/-- Objects after a push that succeeds. -/
def pushed (index : Nat) (key : String) (item : Value) (objects : List (List (String × Value))) :
    List (List (String × Value)) :=
  (if objects.length = index then objects ++ [[]] else objects).modify index (insertField key item)

theorem push_objects (index : Nat) (key : String) (item : Value)
    (objects : List (List (String × Value))) :
    (Value.objects objects).push index key item =
      if objects.length < index then .error (.overflow index objects.length)
      else .ok (.objects (pushed index key item objects)) := by
  rw [Value.push, pushed]
  by_cases hindex : objects.length = index
  · subst hindex
    simp [List.modify_eq_take_drop, insertField]
  · rw [if_neg hindex, if_neg hindex]

theorem run_place (objects : List (List (String × Value))) (index : Nat) (key : String)
    (item : Value) :
    (ExceptT.run (place objects index key item)).run (Value.objects objects) =
      if objects.length < index then
        (.error (.overflow index objects.length), .objects objects)
      else (.ok (), .objects (pushed index key item objects)) := by
  unfold place pushed
  by_cases hlt : objects.length < index
  · rw [if_pos hlt, if_pos hlt]
    rfl
  · rw [if_neg hlt, if_neg hlt]
    by_cases hindex : objects.length = index
    · rw [if_pos hindex, if_pos hindex]
      rfl
    · rw [if_neg hindex, if_neg hindex]
      rfl

/-- A change does what the mutator does, and where that fails the value stays as it is. -/
theorem run_eq (change : Change) (value : Value) :
    change.run value =
      match change.result value with
      | .ok next => (.ok (), next)
      | .error e => (.error e, value) := by
  cases change with
  | setScalar s =>
    cases value with
    | number x =>
      rw [run, steps, result, Value.setScalar, writeNumber]
      cases Binary64.ofText (Text.trim s) <;> rfl
    | text _ | object _ | array _ | objects _ => rfl
  | insert key item => cases value <;> rfl
  | push index key item =>
    cases value with
    | objects objects =>
      have hrun : (push index key item).run (.objects objects) =
          (ExceptT.run (place objects index key item)).run (.objects objects) := rfl
      rw [hrun, run_place, result, push_objects]
      split <;> rfl
    | text _ | number _ | object _ | array _ => rfl

theorem type_setScalar {value next : Value} {s : String} (h : value.setScalar s = .ok next) :
    next.type = value.type := by
  cases value with
  | number x =>
    rw [Value.setScalar] at h
    split at h <;> cases h
    rfl
  | text _ => cases h; rfl
  | object _ | array _ | objects _ => cases h

theorem type_push {value next : Value} {index : Nat} {key : String} {item : Value}
    (h : value.push index key item = .ok next) : next.type = value.type := by
  cases value with
  | objects objects =>
    rw [push_objects] at h
    split at h <;> cases h
    rfl
  | array _ => cases h; rfl
  | text _ | number _ | object _ => cases h

/-- What a change leaves has the type of the value before. -/
theorem type_result {change : Change} {value next : Value} (h : change.result value = .ok next) :
    next.type = value.type := by
  cases change with
  | setScalar s =>
    rw [result] at h
    exact type_setScalar h
  | insert key item => cases value <;> cases h; rfl
  | push index key item => exact type_push h

theorem type_run (change : Change) (value : Value) : (change.run value).2.type = value.type := by
  rw [run_eq]
  cases h : change.result value with
  | ok next => exact type_result h
  | error e => rfl

/-! ### Changes of a list of objects -/

variable {objects : List (List (String × Value))}

theorem run_push (index : Nat) (key : String) (item : Value) :
    (push index key item).run (.objects objects) =
      if index ≤ objects.length then (.ok (), .objects (pushed index key item objects))
      else (.error (.overflow index objects.length), .objects objects) := by
  rw [run_eq, result, push_objects]
  by_cases hle : index ≤ objects.length
  · rw [if_neg (Nat.not_lt.mpr hle), if_pos hle]
  · rw [if_pos (Nat.not_le.mp hle), if_neg hle]

theorem placed_push (index : Nat) (key : String) (item : Value) :
    (push index key item).placed (.objects objects) =
      if index ≤ objects.length then some ⟨objects.length, index, key, item⟩ else none := by
  unfold placed
  rw [run_push]
  by_cases hle : index ≤ objects.length
  · rw [if_pos hle, if_pos hle]
  · rw [if_neg hle, if_neg hle]

theorem length_pushed (index : Nat) (key : String) (item : Value) :
    (pushed index key item objects).length =
      objects.length + if index = objects.length then 1 else 0 := by
  rw [pushed, List.length_modify]
  by_cases hindex : objects.length = index
  · rw [if_pos hindex, if_pos hindex.symm, List.length_append]
    rfl
  · rw [if_neg hindex, if_neg (Ne.symm hindex), Nat.add_zero]

/-- A push writes one field of one object; an object that was not there had no fields. -/
theorem getD_pushed {index : Nat} (hle : index ≤ objects.length) (key : String) (item : Value)
    (i : Nat) :
    (pushed index key item objects)[i]?.getD [] =
      if index = i then insertField key item (objects[i]?.getD []) else objects[i]?.getD [] := by
  have hextended : ∀ i : Nat, (if objects.length = index then objects ++ [[]] else objects)[i]?.getD [] =
      objects[i]?.getD [] := by
    intro i
    split
    · rw [List.getElem?_append]
      split
      · rfl
      · rename_i hge
        rw [List.getElem?_eq_none (Nat.not_lt.mp hge)]
        cases i - objects.length <;> rfl
    · rfl
  have hlength : index < (if objects.length = index then objects ++ [[]] else objects).length := by
    split
    · simp; omega
    · omega
  rw [pushed, List.getElem?_modify, ← hextended i]
  by_cases hi : index = i
  · subst hi
    rw [List.getElem?_eq_getElem hlength]
    simp
  · simp [hi]

end Change

/-! ### Sequences of changes -/

theorem type_after (value : Value) (changes : List Change) :
    (value.after changes).type = value.type := by
  induction changes generalizing value with
  | nil => rfl
  | cons change changes ih => exact (ih _).trans (change.type_run value)

/-- The fields that placements write into an object, one after the other. -/
def written (fields : List (String × Value)) (placements : List Placed) : List (String × Value) :=
  placements.foldl (fun fields p => insertField p.key p.item fields) fields

theorem written_nil (placements : List Placed) :
    written [] placements = ofFields (placements.map fun p => (p.key, p.item)) := by
  rw [ofFields, List.foldl_map]
  rfl

theorem lookup_map_item (key : String) (placements : List Placed) :
    (placements.map fun p => (p.key, p.item)).lookup key =
      (placements.find? (·.key = key)).map (·.item) := by
  induction placements with
  | nil => rfl
  | cons p placements ih =>
    rw [List.map_cons, lookup_cons_eq_ite, List.find?_cons, ih]
    by_cases hkey : key = p.key
    · simp [hkey]
    · simp [hkey, Ne.symm hkey]

/-- The list of objects after changes, in terms of the pushes among them that succeed. -/
theorem after_objects (objects : List (List (String × Value))) (changes : List Change) :
    ∃ final, (Value.objects objects).after changes = .objects final ∧
      final.length = objects.length +
        ((Value.objects objects).placements changes).countP (fun p => p.index = p.length) ∧
      ∀ i, final[i]?.getD [] = written (objects[i]?.getD [])
        (((Value.objects objects).placements changes).filter (·.index = i)) := by
  induction changes generalizing objects with
  | nil => exact ⟨objects, rfl, rfl, fun _ => rfl⟩
  | cons change changes ih =>
    have hafter (value : Value) :
        value.after (change :: changes) = (change.run value).2.after changes := rfl
    have hplacements (value : Value) : value.placements (change :: changes) =
        (change.placed value).toList ++ (change.run value).2.placements changes := rfl
    rw [hafter, hplacements]
    cases change with
    | setScalar s => exact ih objects
    | insert key item => exact ih objects
    | push index key item =>
      rw [Change.run_push, Change.placed_push]
      by_cases hle : index ≤ objects.length
      · rw [if_pos hle, if_pos hle]
        obtain ⟨final, hfinal, hlength, hfields⟩ := ih (Change.pushed index key item objects)
        refine ⟨final, hfinal, ?_, fun i => ?_⟩
        · rw [hlength, Change.length_pushed, List.countP_append]
          by_cases hindex : index = objects.length
          · simp [hindex, Nat.add_assoc]
          · simp [hindex]
        · rw [hfields i, Change.getD_pushed hle]
          by_cases hi : index = i <;> simp [hi, written]
      · rw [if_neg hle, if_neg hle]
        exact ih objects

/-- A change that fails leaves the value as it is, and one that succeeds leaves what the mutator
gives.  Changes of an empty value never change its type.  Among them a push into a list of objects
succeeds exactly if its index is at most the number of objects; that number is how many pushes have
succeeded right behind the objects of their time, and an object has the fields that were pushed to
its index, in the order of their first pushes and each with the item of its last push. -/
theorem after_empty (type : FieldType) :
    (∀ (change : Change) (value : Value), change.run value =
      match change.result value with
      | .ok next => (.ok (), next)
      | .error e => (.error e, value)) ∧
    (∀ changes, ((empty type).after changes).type = type) ∧
    ∀ changes, ∃ objects, (empty .objects).after changes = .objects objects ∧
      (∀ index key item, ((Change.push index key item).run (.objects objects)).1 =
        if index ≤ objects.length then .ok () else .error (.overflow index objects.length)) ∧
      objects.length =
        ((empty .objects).placements changes).countP (fun p => p.index = p.length) ∧
      ∀ i fields, objects[i]? = some fields →
        let pushes := ((empty .objects).placements changes).filter (·.index = i)
        fields.map (·.1) = (pushes.map (·.key)).eraseDups ∧
        ∀ key, fields.lookup key = (pushes.reverse.find? (·.key = key)).map (·.item) := by
  refine ⟨Change.run_eq, fun changes => ?_, fun changes => ?_⟩
  · rw [type_after]
    cases type <;> rfl
  obtain ⟨objects, hafter, hlength, hfields⟩ := after_objects [] changes
  refine ⟨objects, hafter, fun index key item => ?_, ?_, fun i fields hi => ?_⟩
  · rw [Change.run_push]
    split <;> rfl
  · rw [hlength, List.length_nil, Nat.zero_add]
    rfl
  · have hfields := hfields i
    rw [hi, List.getElem?_nil, Option.getD_some, Option.getD_none, written_nil] at hfields
    subst hfields
    refine ⟨?_, fun key => ?_⟩
    · rw [keys_ofFields, List.map_map]
      rfl
    · rw [lookup_ofFields, ← List.map_reverse, lookup_map_item]
      rfl

/-- Two pushes that fail, one of them after another has made an object, and a field written twice. -/
def attempts : List Change :=
  [.push 1 "a" (.text "lost"), .push 0 "a" (.text "first"), .setScalar "text", .push 0 "b" (.array []),
    .push 2 "c" (.text "lost"), .push 0 "a" (.text "last"), .push 1 "c" (.object [])]

theorem after_empty_attempts :
    (empty .objects).after attempts =
        .objects [[("a", .text "last"), ("b", .array [])], [("c", .object [])]] ∧
      ((empty .objects).placements attempts).map (·.index) = [0, 0, 0, 1] ∧
      ((Change.push 3 "d" (.text "")).run ((empty .objects).after attempts)).1 =
        .error (.overflow 3 2) ∧
      ["a", "b"] = ((((empty .objects).placements attempts).filter (·.index = 0)).map
        (·.key)).eraseDups := by
  have hafter : (empty .objects).after attempts =
      .objects [[("a", .text "last"), ("b", .array [])], [("c", .object [])]] := by rfl
  have hplacements : ((empty .objects).placements attempts).map (·.index) = [0, 0, 0, 1] := by rfl
  obtain ⟨-, -, hobjects⟩ := after_empty .objects
  obtain ⟨objects, heq, hpush, -, hfields⟩ := hobjects attempts
  rw [hafter] at heq
  cases heq
  have hkeys := (hfields 0 _ rfl).1
  refine ⟨hafter, hplacements, ?_, hkeys⟩
  rw [hafter, hpush]
  rfl

end DocQuery.Value
