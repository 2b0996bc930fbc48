import DocQuery.Proofs.Json.Members
import DocQuery.Proofs.Value.Fields

/-! JSON for values.  The members of the JSON object for fields are the fields that are not virtual,
each with its own value, whatever the order in which they were written. -/

namespace DocQuery.Value

theorem projectFields_eq_map (fields : List (String × Value)) :
    projectFields fields =
      (fields.filter fun f => !isVirtualName f.1).map fun f => (f.1, project f.2) := by
  induction fields with
  | nil => rfl
  | cons f fields ih =>
    obtain ⟨name, value⟩ := f
    rw [projectFields]
    cases hname : isVirtualName name <;> simp [hname, ih]

theorem projectItems_eq_map (items : List Value) : projectItems items = items.map project := by
  induction items with
  | nil => rfl
  | cons value items ih => rw [projectItems, ih, List.map_cons]

theorem projectObjects_eq_map (objects : List (List (String × Value))) :
    projectObjects objects = objects.map fun fields => .ofMembers (projectFields fields) := by
  induction objects with
  | nil => rfl
  | cons fields objects ih => rw [projectObjects, ih, List.map_cons]

/-- A virtual field may be left out before the fields are written. -/
theorem projectFields_ofFields (fields : List (String × Value)) :
    projectFields (ofFields fields) = ofFields
      ((fields.filter fun f => !isVirtualName f.1).map fun f => (f.1, project f.2)) := by
  rw [projectFields_eq_map, filter_ofFields (fun name => !isVirtualName name), map_ofFields]

theorem projectTop_atom (fields : List (String × Value)) :
    projectTop .atom fields = ((projectFields fields).head?.map (·.2)).getD .null := by
  rw [projectTop, projectFields_eq_map, List.head?_map, List.head?_filter]
  cases fields.find? fun f => !isVirtualName f.1 <;> rfl

theorem lookup_projectFields (key : String) (fields : List (String × Value)) :
    (projectFields fields).lookup key =
      if isVirtualName key then none else (fields.lookup key).map project := by
  induction fields with
  | nil => cases isVirtualName key <;> rfl
  | cons f fields ih =>
    obtain ⟨name, value⟩ := f
    rw [projectFields, lookup_cons_eq_ite]
    by_cases hkey : key = name
    · subst hkey
      cases hvirtual : isVirtualName key with
      | true => rw [if_pos rfl, ih, hvirtual]; rfl
      | false => rw [if_neg Bool.false_ne_true, lookup_cons_eq_ite, if_pos rfl, if_pos rfl]; rfl
    · rw [if_neg hkey, ← ih]
      split
      · rfl
      · rw [lookup_cons_eq_ite, if_neg hkey]

/-- The member of an object is the value of the last field of that name, unless it is virtual. -/
theorem resolve_projectTop_object (key : String) (fields : List (String × Value)) :
    (projectTop .object (ofFields fields)).resolve [key] =
      if isVirtualName key then none else (fields.reverse.lookup key).map project := by
  have hnodup : ((projectFields (ofFields fields)).map (·.1)).Nodup := by
    rw [projectFields_ofFields]
    exact nodup_keys_ofFields _
  have hmember : (projectTop .object (ofFields fields)).resolve [key] =
      Json.member? key (Json.sortMembers (projectFields (ofFields fields))) := by
    rw [projectTop, Json.ofMembers, Json.resolve]
    cases Json.member? key _ <;> rfl
  rw [hmember, Json.member?_sortMembers, Json.member?_eq_lookup, lookup_reverse hnodup,
    lookup_projectFields, lookup_ofFields]

end DocQuery.Value
