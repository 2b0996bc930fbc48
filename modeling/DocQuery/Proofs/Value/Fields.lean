import Mathlib
import DocQuery.Value

/-! Fields of an object as a map.  Writing a field changes what is found under its own key only, and
a new key comes last.  So fields written one after the other have their keys in the order of the
first writes, and under each key the value of the last write.  Fields can be left out by their keys,
and their values changed, before or after they are written. -/

namespace DocQuery.Value

variable {α : Type}

theorem lookup_cons_eq_ite (key k : String) (value : α) (fields : List (String × α)) :
    ((k, value) :: fields).lookup key = if key = k then some value else fields.lookup key := by
  rw [List.lookup_cons]
  by_cases h : key = k
  · simp [h]
  · rw [if_neg h, beq_false_of_ne h]

/-- A key keeps its place, and a new one comes last. -/
theorem keys_insertField (key : String) (value : α) (fields : List (String × α)) :
    (insertField key value fields).map (·.1) =
      if key ∈ fields.map (·.1) then fields.map (·.1) else fields.map (·.1) ++ [key] := by
  induction fields with
  | nil => simp [insertField]
  | cons f fields ih =>
    obtain ⟨k, v⟩ := f
    rw [insertField]
    by_cases hk : k = key
    · simp [hk]
    · rw [if_neg hk, List.map_cons, ih]
      have hne : key ≠ k := Ne.symm hk
      by_cases hmem : key ∈ fields.map (·.1) <;> simp only [List.map_cons, List.mem_cons, hne, hmem,
        false_or, if_true, if_false, List.cons_append]

/-- A written field is found under its key, and nothing else changes. -/
theorem lookup_insertField (key k : String) (value : α) (fields : List (String × α)) :
    (insertField k value fields).lookup key =
      if key = k then some value else fields.lookup key := by
  induction fields with
  | nil => rw [insertField, lookup_cons_eq_ite]
  | cons f fields ih =>
    obtain ⟨name, v⟩ := f
    rw [insertField]
    by_cases hname : name = k
    · subst hname
      rw [if_pos rfl, lookup_cons_eq_ite, lookup_cons_eq_ite]
      by_cases hkey : key = name <;> simp only [hkey, if_true, if_false]
    · rw [if_neg hname, lookup_cons_eq_ite, ih, lookup_cons_eq_ite]
      by_cases hkey : key = name
      · rw [if_pos hkey, if_neg (hkey ▸ hname), if_pos hkey]
      · rw [if_neg hkey, if_neg hkey]

/-- The keys of written fields stand in the order of their first writes. -/
theorem keys_ofFields (fields : List (String × α)) :
    (ofFields fields).map (·.1) = (fields.map (·.1)).eraseDups := by
  induction fields using List.reverseRecOn with
  | nil => rfl
  | append_singleton fields f ih =>
    rw [ofFields, List.foldl_concat, ← ofFields, keys_insertField, ih, List.map_append,
      List.eraseDups_append]
    by_cases hmem : f.1 ∈ fields.map (·.1)
    · rw [if_pos (List.mem_eraseDups.mpr hmem)]
      simp [List.removeAll, List.mem_map.mp hmem]
    · rw [if_neg (mt List.mem_eraseDups.mp hmem)]
      simp only [List.removeAll, List.map_cons, List.map_nil]
      rw [List.filter_cons_of_pos (by simpa using hmem)]
      rfl

/-- Under each key stands the value of its last write. -/
theorem lookup_ofFields (fields : List (String × α)) (key : String) :
    (ofFields fields).lookup key = fields.reverse.lookup key := by
  induction fields using List.reverseRecOn with
  | nil => rfl
  | append_singleton fields f ih =>
    rw [ofFields, List.foldl_concat, ← ofFields, lookup_insertField, ih, List.reverse_append,
      List.reverse_singleton, List.singleton_append, lookup_cons_eq_ite]

theorem nodup_keys_ofFields (fields : List (String × α)) :
    ((ofFields fields).map (·.1)).Nodup := by
  induction fields using List.reverseRecOn with
  | nil => exact List.nodup_nil
  | append_singleton fields f ih =>
    rw [ofFields, List.foldl_concat, ← ofFields, keys_insertField]
    split
    · exact ih
    · rename_i hkey
      rw [List.nodup_append]
      refine ⟨ih, List.nodup_singleton _, fun key hmem other hother => ?_⟩
      rintro rfl
      exact hkey (List.mem_singleton.mp hother ▸ hmem)

theorem lookup_eq_some_iff_mem {fields : List (String × α)} (h : (fields.map (·.1)).Nodup)
    {key : String} {value : α} : fields.lookup key = some value ↔ (key, value) ∈ fields := by
  induction fields with
  | nil => simp
  | cons f fields ih =>
    obtain ⟨k, v⟩ := f
    rw [List.map_cons, List.nodup_cons] at h
    rw [lookup_cons_eq_ite, List.mem_cons, Prod.mk.injEq, ← ih h.2]
    by_cases hkey : key = k
    · subst hkey
      have hnone : fields.lookup key = none := by
        rw [List.lookup_eq_none_iff]
        rintro ⟨k, w⟩ hmem
        refine bne_iff_ne.mpr fun heq => h.1 ?_
        exact List.mem_map.mpr ⟨(k, w), hmem, heq.symm⟩
      simp [hnone, eq_comm]
    · simp [hkey]

/-- The order of fields with different keys does not matter. -/
theorem lookup_reverse {fields : List (String × α)} (h : (fields.map (·.1)).Nodup) (key : String) :
    fields.reverse.lookup key = fields.lookup key := by
  have hreverse : (fields.reverse.map (·.1)).Nodup := by
    rw [List.map_reverse]
    exact List.nodup_reverse.mpr h
  ext value
  rw [lookup_eq_some_iff_mem hreverse, lookup_eq_some_iff_mem h, List.mem_reverse]

theorem filter_insertField (p : String → Bool) (key : String) (value : α)
    (fields : List (String × α)) :
    (insertField key value fields).filter (fun f => p f.1) =
      if p key then insertField key value (fields.filter fun f => p f.1)
      else fields.filter fun f => p f.1 := by
  induction fields with
  | nil => cases hkey : p key <;> simp [insertField, hkey]
  | cons f fields ih =>
    obtain ⟨k, v⟩ := f
    rw [insertField]
    by_cases hk : k = key
    · subst hk
      cases hkey : p k <;> simp [insertField, hkey]
    · rw [if_neg hk, List.filter_cons, List.filter_cons, ih]
      cases hkey : p key <;> cases hfirst : p k <;> simp [insertField, hk]

theorem map_insertField {β : Type} (g : α → β) (key : String) (value : α)
    (fields : List (String × α)) :
    (insertField key value fields).map (fun f => (f.1, g f.2)) =
      insertField key (g value) (fields.map fun f => (f.1, g f.2)) := by
  induction fields with
  | nil => rfl
  | cons f fields ih =>
    rw [insertField, List.map_cons, insertField]
    split
    · rfl
    · rw [List.map_cons, ih]

/-- Fields may be left out before they are written. -/
theorem filter_ofFields (p : String → Bool) (fields : List (String × α)) :
    (ofFields fields).filter (fun f => p f.1) = ofFields (fields.filter fun f => p f.1) := by
  induction fields using List.reverseRecOn with
  | nil => rfl
  | append_singleton fields f ih =>
    rw [ofFields, List.foldl_concat, ← ofFields, filter_insertField, ih, List.filter_append]
    cases hf : p f.1 with
    | false => simp [hf]
    | true =>
      have hlast : [f].filter (fun f => p f.1) = [f] := by simp [hf]
      rw [hlast, if_pos rfl, ofFields, ofFields, List.foldl_concat]

theorem map_ofFields {β : Type} (g : α → β) (fields : List (String × α)) :
    (ofFields fields).map (fun f => (f.1, g f.2)) =
      ofFields (fields.map fun f => (f.1, g f.2)) := by
  induction fields using List.reverseRecOn with
  | nil => rfl
  | append_singleton fields f ih =>
    rw [ofFields, List.foldl_concat, ← ofFields, map_insertField, ih, List.map_append, ofFields,
      List.map_singleton, ofFields, List.foldl_concat]

end DocQuery.Value
