import DocQuery.Json.Writer
import DocQuery.Proofs.Text.Digits
import DocQuery.Proofs.Value.Change
import DocQuery.Proofs.Value.Projection

/-! Values whose fields stand in another order.  What is shown of a value is laid down here apart from
the function that finds it: an object shows the fields that are not virtual, in the order of the bytes
of their keys, and lists show their items one by one.  No value shows two different things, and values
that differ only in the order of fields, at any depth, show the same. -/

namespace DocQuery.Value

/-- No object in the value has two fields of one key. -/
inductive KeysDistinct : Value → Prop
  | text (s : String) : KeysDistinct (.text s)
  | number (x : Binary64) : KeysDistinct (.number x)
  | object {fields : List (String × Value)} (keys : (fields.map (·.1)).Nodup)
      (values : ∀ f ∈ fields, KeysDistinct f.2) : KeysDistinct (.object fields)
  | array {items : List Value} (items_distinct : ∀ item ∈ items, KeysDistinct item) :
      KeysDistinct (.array items)
  | objects {items : List (List (String × Value))}
      (items_distinct : ∀ fields ∈ items, KeysDistinct (.object fields)) :
      KeysDistinct (.objects items)

/-- The values differ only in the order of fields: the fields of an object may be permuted, and the
same may be done inside every field and every item. -/
inductive Rearranged : Value → Value → Prop
  | text (s : String) : Rearranged (.text s) (.text s)
  | number (x : Binary64) : Rearranged (.number x) (.number x)
  | object {fields arranged others : List (String × Value)} (perm : fields.Perm arranged)
      (keys : arranged.map (·.1) = others.map (·.1))
      (values : ∀ (i : Nat) f g, arranged[i]? = some f → others[i]? = some g → Rearranged f.2 g.2) :
      Rearranged (.object fields) (.object others)
  | array {items others : List Value} (length : items.length = others.length)
      (values : ∀ (i : Nat) v w, items[i]? = some v → others[i]? = some w → Rearranged v w) :
      Rearranged (.array items) (.array others)
  | objects {items others : List (List (String × Value))} (length : items.length = others.length)
      (values : ∀ (i : Nat) fields fields', items[i]? = some fields → others[i]? = some fields' →
        Rearranged (.object fields) (.object fields')) :
      Rearranged (.objects items) (.objects others)

/-- What is shown of a value as JSON.  An object shows the fields whose keys are not virtual and no
others, each with what is shown of its own value, in the order of the bytes of the keys.  A list shows
its items in their order. -/
inductive Shows : Value → Json → Prop
  | text (s : String) : Shows (.text s) (.string s)
  | number (x : Binary64) : Shows (.number x) (projectNumber x)
  | object {fields : List (String × Value)} {members : List (String × Json)}
      (ordered : (members.map fun m => Utf8.encode m.1).Pairwise (· < ·))
      (keys : ∀ key, key ∈ members.map (·.1) ↔ key ∈ fields.map (·.1) ∧ ¬isVirtualName key)
      (values : ∀ key value json, (key, value) ∈ fields → (key, json) ∈ members →
        Shows value json) :
      Shows (.object fields) (.object members)
  | array {items : List Value} {jsons : List Json} (length : items.length = jsons.length)
      (values : ∀ (i : Nat) value json, items[i]? = some value → jsons[i]? = some json →
        Shows value json) :
      Shows (.array items) (.array jsons)
  | objects {items : List (List (String × Value))} {jsons : List Json}
      (length : items.length = jsons.length)
      (values : ∀ (i : Nat) fields json, items[i]? = some fields → jsons[i]? = some json →
        Shows (.object fields) json) :
      Shows (.objects items) (.array jsons)

theorem keysDistinct_object_iff {fields : List (String × Value)} :
    KeysDistinct (.object fields) ↔
      (fields.map (·.1)).Nodup ∧ ∀ f ∈ fields, KeysDistinct f.2 := by
  constructor
  · rintro (_ | _ | ⟨hkeys, hvalues⟩)
    exact ⟨hkeys, hvalues⟩
  · exact fun h => .object h.1 h.2

theorem keysDistinct_array_iff {items : List Value} :
    KeysDistinct (.array items) ↔ ∀ item ∈ items, KeysDistinct item := by
  constructor
  · rintro (_ | _ | _ | hitems)
    exact hitems
  · exact .array

theorem keysDistinct_objects_iff {items : List (List (String × Value))} :
    KeysDistinct (.objects items) ↔ ∀ fields ∈ items, KeysDistinct (.object fields) := by
  constructor
  · rintro (_ | _ | _ | _ | hitems)
    exact hitems
  · exact .objects

/-! ### Keys under changes -/

theorem keysDistinct_empty (type : FieldType) : (empty type).KeysDistinct := by
  cases type with
  | text => exact .text ""
  | number => exact .number _
  | object => exact .object .nil (by simp)
  | array => exact .array (by simp)
  | objects => exact .objects (by simp)

theorem keysDistinct_insertField {fields : List (String × Value)} {item : Value}
    (h : KeysDistinct (.object fields)) (hitem : item.KeysDistinct) (key : String) :
    KeysDistinct (.object (insertField key item fields)) := by
  obtain ⟨hkeys, hvalues⟩ := keysDistinct_object_iff.mp h
  have hnodup : ((insertField key item fields).map (·.1)).Nodup := by
    rw [keys_insertField]
    split
    · exact hkeys
    · rename_i hkey
      exact List.nodup_append.mpr ⟨hkeys, List.nodup_singleton _, fun k hk k' hk' =>
        fun heq => hkey (List.mem_singleton.mp hk' ▸ heq ▸ hk)⟩
  refine .object hnodup ?_
  rintro ⟨k, value⟩ hmem
  have hlookup := (lookup_eq_some_iff_mem hnodup).mpr hmem
  rw [lookup_insertField] at hlookup
  split at hlookup
  · cases hlookup
    exact hitem
  · exact hvalues _ ((lookup_eq_some_iff_mem hkeys).mp hlookup)

/-- No object in the item that a change writes has two fields of one key. -/
def Change.ItemDistinct : Change → Prop
  | setScalar _ => True
  | insert _ item | push _ _ item => item.KeysDistinct

theorem KeysDistinct.run {value : Value} (h : value.KeysDistinct) {change : Change}
    (hitem : change.ItemDistinct) : (change.run value).2.KeysDistinct := by
  cases change with
  | setScalar s =>
    rw [Change.run_eq]
    cases value with
    | text _ => exact .text s
    | number x =>
      rw [Change.result, setScalar]
      cases Binary64.ofText (Text.trim s) with
      | ok x => exact .number x
      | error cause => exact h
    | object _ | array _ | objects _ => exact h
  | insert key item =>
    cases value with
    | object fields => exact keysDistinct_insertField h hitem key
    | text _ | number _ | array _ | objects _ => exact h
  | push index key item =>
    cases value with
    | array items =>
      refine .array fun value hmem => ?_
      rcases List.mem_append.mp hmem with hold | hnew
      · exact keysDistinct_array_iff.mp h value hold
      · rwa [List.mem_singleton.mp hnew]
    | objects objects =>
      rw [Change.run_push]
      split
      · rename_i hle
        have hobject (i : Nat) : KeysDistinct (.object (objects[i]?.getD [])) := by
          cases hi : objects[i]? with
          | none => exact keysDistinct_empty .object
          | some fields => exact keysDistinct_objects_iff.mp h fields (List.mem_of_getElem? hi)
        refine .objects fun fields hmem => ?_
        obtain ⟨i, hi⟩ := List.mem_iff_getElem?.mp hmem
        have hfields := Change.getD_pushed hle key item i
        rw [hi, Option.getD_some] at hfields
        rw [hfields]
        split
        · exact keysDistinct_insertField (hobject i) hitem key
        · exact hobject i
      · exact h
    | text _ | number _ | object _ => exact h

/-- What changes make of an empty value never has an object with two fields of one key. -/
theorem KeysDistinct.after {value : Value} (h : value.KeysDistinct) {changes : List Change}
    (hitems : ∀ change ∈ changes, change.ItemDistinct) : (value.after changes).KeysDistinct := by
  induction changes generalizing value with
  | nil => exact h
  | cons change changes ih =>
    exact ih (h.run (hitems change List.mem_cons_self)) fun change hmem =>
      hitems change (List.mem_cons_of_mem _ hmem)

/-! ### Members and items -/

theorem projectFields_eq_filter (fields : List (String × Value)) :
    projectFields fields =
      (fields.map fun f => (f.1, project f.2)).filter fun m => !isVirtualName m.1 := by
  rw [projectFields_eq_map, List.filter_map]
  rfl

theorem mem_projectFields {fields : List (String × Value)} {key : String} {json : Json} :
    (key, json) ∈ projectFields fields ↔
      ¬isVirtualName key ∧ ∃ value, (key, value) ∈ fields ∧ project value = json := by
  rw [projectFields_eq_map]
  simp only [List.mem_map, List.mem_filter, Prod.mk.injEq]
  constructor
  · rintro ⟨⟨_, value⟩, ⟨hmem, hvirtual⟩, rfl, rfl⟩
    exact ⟨by simpa using hvirtual, value, hmem, rfl⟩
  · rintro ⟨hvirtual, value, hmem, rfl⟩
    exact ⟨(key, value), ⟨hmem, by simpa using hvirtual⟩, rfl, rfl⟩

theorem nodup_keys_projectFields {fields : List (String × Value)}
    (h : (fields.map (·.1)).Nodup) : ((projectFields fields).map Prod.fst).Nodup := by
  have hkeys : (projectFields fields).map Prod.fst =
      (fields.map (·.1)).filter fun key => !isVirtualName key := by
    rw [projectFields_eq_map, List.map_map, List.filter_map]
    rfl
  rw [hkeys]
  exact h.filter _

/-- The members of the JSON for an object. -/
theorem mem_sortMembers_projectFields {fields : List (String × Value)}
    (h : (fields.map (·.1)).Nodup) {key : String} {json : Json} :
    (key, json) ∈ Json.sortMembers (projectFields fields) ↔
      ¬isVirtualName key ∧ ∃ value, (key, value) ∈ fields ∧ project value = json := by
  rw [Json.mem_sortMembers_iff (nodup_keys_projectFields h), mem_projectFields]

theorem pairwise_encode_iff {members : List (String × Json)} :
    (members.map fun m => Utf8.encode m.1).Pairwise (· < ·) ↔
      (members.map Prod.fst).Pairwise (· < ·) := by
  rw [List.pairwise_map, List.pairwise_map]
  simp only [Utf8.encode_lt_encode_iff]

theorem project_objects (items : List (List (String × Value))) :
    project (.objects items) = .array (items.map fun fields => project (.object fields)) := by
  rw [project, projectObjects_eq_map]
  rfl

theorem project_array (items : List Value) :
    project (.array items) = .array (items.map project) := by
  rw [project, projectItems_eq_map]

/-! ### Other arrangements -/

theorem map_eq_map_of_getElem? {α β γ : Type} {xs : List α} {ys : List β} {f : α → γ} {g : β → γ}
    (hlength : xs.length = ys.length)
    (h : ∀ (i : Nat) x y, xs[i]? = some x → ys[i]? = some y → f x = g y) : xs.map f = ys.map g := by
  refine List.ext_getElem (by simpa using hlength) fun i hi hi' => ?_
  rw [List.length_map] at hi hi'
  rw [List.getElem_map, List.getElem_map]
  exact h i _ _ (List.getElem?_eq_getElem hi) (List.getElem?_eq_getElem hi')

theorem project_eq_of_rearranged {v w : Value} (h : Rearranged v w) (hv : v.KeysDistinct) :
    project v = project w := by
  induction h with
  | text s => rfl
  | number x => rfl
  | @object fields arranged others hperm hkeys _ ih =>
    obtain ⟨hnodup, hvalues⟩ := keysDistinct_object_iff.mp hv
    have hlength : arranged.length = others.length := by
      simpa using congrArg List.length hkeys
    have hmembers : arranged.map (fun f => (f.1, project f.2)) =
        others.map fun f => (f.1, project f.2) := by
      refine map_eq_map_of_getElem? hlength fun i f g hf hg => ?_
      have hkey := congrArg (·[i]?) hkeys
      simp only [List.getElem?_map, hf, hg, Option.map_some, Option.some.injEq] at hkey
      have hmem : f ∈ fields := hperm.mem_iff.mpr (List.mem_of_getElem? hf)
      rw [hkey, ih i f g hf hg (hvalues f hmem)]
    have hfields : (projectFields fields).Perm (projectFields others) := by
      rw [projectFields_eq_filter, projectFields_eq_filter, ← hmembers]
      exact (hperm.map _).filter _
    rw [project, project, Json.ofMembers, Json.ofMembers,
      Json.sortMembers_eq_of_perm hfields (nodup_keys_projectFields hnodup)]
  | @array items others hlength _ ih =>
    have hitems := keysDistinct_array_iff.mp hv
    rw [project_array, project_array, map_eq_map_of_getElem? hlength fun i v w hi hi' =>
      ih i v w hi hi' (hitems v (List.mem_of_getElem? hi))]
  | @objects items others hlength _ ih =>
    have hitems := keysDistinct_objects_iff.mp hv
    rw [project_objects, project_objects, map_eq_map_of_getElem? hlength fun i v w hi hi' =>
      ih i v w hi hi' (hitems v (List.mem_of_getElem? hi))]

/-! ### What is shown -/

theorem eq_of_mem_fields {fields : List (String × Value)} (h : (fields.map (·.1)).Nodup)
    {key : String} {value value' : Value} (hvalue : (key, value) ∈ fields)
    (hvalue' : (key, value') ∈ fields) : value = value' := by
  rw [← lookup_eq_some_iff_mem h] at hvalue hvalue'
  exact Option.some.inj (hvalue.symm.trans hvalue')

/-- The JSON of a value shows it. -/
theorem shows_project {v : Value} (h : v.KeysDistinct) : Shows v (project v) := by
  induction h with
  | text s => exact .text s
  | number x => exact .number x
  | @object fields hnodup _ ih =>
    rw [project, Json.ofMembers]
    refine .object (pairwise_encode_iff.mpr (Json.pairwise_keys_sortMembers _)) ?_ ?_
    · intro key
      simp only [List.mem_map, Prod.exists, exists_and_right, exists_eq_right,
        mem_sortMembers_projectFields hnodup]
      constructor
      · rintro ⟨_, hvirtual, value, hmem, -⟩
        exact ⟨⟨value, hmem⟩, hvirtual⟩
      · rintro ⟨⟨value, hmem⟩, hvirtual⟩
        exact ⟨_, hvirtual, value, hmem, rfl⟩
    · intro key value json hvalue hjson
      obtain ⟨-, value', hvalue', rfl⟩ := (mem_sortMembers_projectFields hnodup).mp hjson
      rw [← eq_of_mem_fields hnodup hvalue hvalue']
      exact ih (key, value) hvalue
  | @array items _ ih =>
    rw [project_array]
    refine .array (by simp) fun i value json hi hi' => ?_
    rw [List.getElem?_map, hi] at hi'
    cases hi'
    exact ih value (List.mem_of_getElem? hi)
  | @objects items _ ih =>
    rw [project_objects]
    refine .objects (by simp) fun i fields json hi hi' => ?_
    rw [List.getElem?_map, hi] at hi'
    cases hi'
    exact ih fields (List.mem_of_getElem? hi)

/-- Nothing else shows it. -/
theorem project_eq_of_shows {v : Value} {json : Json} (h : Shows v json) (hv : v.KeysDistinct) :
    project v = json := by
  induction h with
  | text s => rfl
  | number x => rfl
  | @object fields members hordered hkeys _ ih =>
    obtain ⟨hnodup, hvalues⟩ := keysDistinct_object_iff.mp hv
    rw [project, Json.ofMembers]
    congr 1
    refine Json.eq_of_mem_iff (Json.pairwise_keys_sortMembers _) (pairwise_encode_iff.mp hordered) ?_
    rintro ⟨key, json⟩
    rw [mem_sortMembers_projectFields hnodup]
    constructor
    · rintro ⟨hvirtual, value, hvalue, rfl⟩
      obtain ⟨⟨_, json⟩, hjson, rfl⟩ :=
        List.mem_map.mp ((hkeys key).mpr ⟨List.mem_map_of_mem hvalue, hvirtual⟩)
      rw [ih _ value json hvalue hjson (hvalues _ hvalue)]
      exact hjson
    · intro hjson
      obtain ⟨hkey, hvirtual⟩ := (hkeys key).mp (List.mem_map_of_mem hjson)
      obtain ⟨⟨_, value⟩, hvalue, rfl⟩ := List.mem_map.mp hkey
      exact ⟨hvirtual, value, hvalue, ih _ value json hvalue hjson (hvalues _ hvalue)⟩
  | @array items jsons hlength _ ih =>
    have hitems := keysDistinct_array_iff.mp hv
    rw [project_array, ← List.map_id jsons, map_eq_map_of_getElem? hlength fun i value json hi hi' =>
      ih i value json hi hi' (hitems value (List.mem_of_getElem? hi))]
    rfl
  | @objects items jsons hlength _ ih =>
    have hitems := keysDistinct_objects_iff.mp hv
    rw [project_objects, ← List.map_id jsons,
      map_eq_map_of_getElem? hlength fun i fields json hi hi' =>
        ih i fields json hi hi' (hitems fields (List.mem_of_getElem? hi))]
    rfl

/-- Values that differ only in the order of fields, at any depth, have the same JSON and the same
texts.  The JSON of a value is the one that shows it: its objects have the keys of the fields that are
not virtual, in the order of their bytes, each with the JSON of its own field, and lists keep their
items and their order. -/
theorem project_arrangement {v : Value} (h : v.KeysDistinct) :
    (∀ w, Rearranged v w → project v = project w ∧ (project v).compact = (project w).compact ∧
      (project v).pretty = (project w).pretty) ∧
    ∀ json, project v = json ↔ Shows v json := by
  constructor
  · intro w hw
    rw [project_eq_of_rearranged hw h]
    exact ⟨rfl, rfl, rfl⟩
  · intro json
    constructor
    · rintro rfl
      exact shows_project h
    · intro hshows
      exact project_eq_of_shows hshows h

/-- An object with a virtual field and a list of objects. -/
def film : Value :=
  .object [("title", .text "Nosferatu"), ("__year__", .text "1922"),
    ("cast", .objects [[("role", .text "Orlok"), ("name", .text "Schreck")]])]

/-- Its fields and those in its list, written the other way round. -/
def filmReversed : Value :=
  .object [("cast", .objects [[("name", .text "Schreck"), ("role", .text "Orlok")]]),
    ("__year__", .text "1922"), ("title", .text "Nosferatu")]

theorem project_arrangement_film :
    film.KeysDistinct ∧ Rearranged film filmReversed ∧
      (project film).compact = (project filmReversed).compact ∧
      Shows film (.object [("cast", .array [.object [("name", .string "Schreck"),
        ("role", .string "Orlok")]]), ("title", .string "Nosferatu")]) := by
  have hdistinct : film.KeysDistinct := by
    refine .object (by decide) fun f hf => ?_
    fin_cases hf
    · exact .text _
    · exact .text _
    · refine .objects fun fields hfields => ?_
      obtain rfl := List.mem_singleton.mp hfields
      refine .object (by decide) fun f hf => ?_
      fin_cases hf <;> exact .text _
  have hcast : Rearranged (.objects [[("role", .text "Orlok"), ("name", .text "Schreck")]])
      (.objects [[("name", .text "Schreck"), ("role", .text "Orlok")]]) := by
    refine .objects rfl fun i fields fields' hi hi' => ?_
    obtain rfl : i = 0 := by simpa using (List.getElem?_eq_some_iff.mp hi).1
    cases hi
    cases hi'
    refine .object (.swap _ _ _) rfl fun i f g hf hg => ?_
    rw [hf] at hg
    cases hg
    match i with
    | 0 | 1 => cases hf; exact .text _
  have hfilm : Rearranged film filmReversed := by
    refine .object (List.reverse_perm _).symm rfl fun i f g hf hg => ?_
    match i with
    | 0 => cases hf; cases hg; exact hcast
    | 1 | 2 => cases hf; cases hg; exact .text _
  obtain ⟨hsame, hshows⟩ := project_arrangement hdistinct
  exact ⟨hdistinct, hfilm, (hsame filmReversed hfilm).2.1, (hshows _).mp (by rfl)⟩

end DocQuery.Value
