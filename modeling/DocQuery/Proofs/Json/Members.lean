import Mathlib
import DocQuery.Json.Path

/-! Members of JSON objects.  Sorting members by their keys keeps under each key the value that was
written last. -/

namespace DocQuery.Json

theorem member?_cons (key k : String) (value : Json) (members : List (String × Json)) :
    member? key ((k, value) :: members) = if key = k then some value else member? key members := by
  rw [member?, List.find?_cons]
  by_cases h : key = k
  · rw [if_pos h, beq_iff_eq.mpr h.symm]
    rfl
  · rw [if_neg h, beq_false_of_ne (Ne.symm h)]
    rfl

theorem member?_insertMember (key k : String) (value : Json) (members : List (String × Json)) :
    member? key (insertMember k value members) =
      if key = k then some value else member? key members := by
  induction members with
  | nil => rw [insertMember, member?_cons]
  | cons m members ih =>
    obtain ⟨k', value'⟩ := m
    rw [insertMember]
    by_cases hlt : k < k'
    · rw [if_pos hlt, member?_cons]
    by_cases heq : k = k'
    · subst heq
      rw [if_neg hlt, if_pos rfl, member?_cons, member?_cons]
      by_cases hkey : key = k <;> simp only [hkey, if_true, if_false]
    · rw [if_neg hlt, if_neg heq, member?_cons, ih, member?_cons]
      by_cases hkey : key = k'
      · rw [if_pos hkey, if_neg (hkey ▸ Ne.symm heq), if_pos hkey]
      · rw [if_neg hkey, if_neg hkey]

/-- Of the members of one key the last one stays. -/
theorem member?_sortMembers (key : String) (members : List (String × Json)) :
    member? key (sortMembers members) = member? key members.reverse := by
  induction members using List.reverseRecOn with
  | nil => rfl
  | append_singleton members m ih =>
    obtain ⟨k, value⟩ := m
    rw [sortMembers, List.foldl_concat, ← sortMembers, member?_insertMember, ih,
      List.reverse_concat, member?_cons]

theorem member?_eq_lookup (key : String) (members : List (String × Json)) :
    member? key members = members.lookup key := by
  induction members with
  | nil => rfl
  | cons m members ih =>
    obtain ⟨k, value⟩ := m
    rw [member?_cons, ih, List.lookup_cons]
    by_cases h : key = k
    · rw [if_pos h, beq_iff_eq.mpr h]
    · rw [if_neg h, beq_false_of_ne h]

theorem mem_of_mem_insertMember {key : String} {value : α} {members : List (String × α)}
    {m : String × α} (h : m ∈ insertMember key value members) : m = (key, value) ∨ m ∈ members := by
  induction members with
  | nil => exact .inl (List.mem_singleton.mp h)
  | cons m' members ih =>
    obtain ⟨k, v⟩ := m'
    rw [insertMember] at h
    split at h
    · exact List.mem_cons.mp h
    split at h
    · exact (List.mem_cons.mp h).imp_right (List.mem_cons_of_mem _)
    · rcases List.mem_cons.mp h with rfl | h
      · exact .inr List.mem_cons_self
      · exact (ih h).imp_right (List.mem_cons_of_mem _)

/-- No member is invented. -/
theorem mem_of_mem_sortMembers {members : List (String × α)} {m : String × α}
    (h : m ∈ sortMembers members) : m ∈ members := by
  induction members using List.reverseRecOn with
  | nil => exact h
  | append_singleton members last ih =>
    rw [sortMembers, List.foldl_concat, ← sortMembers] at h
    rcases mem_of_mem_insertMember h with rfl | h
    · exact List.mem_append_right _ List.mem_cons_self
    · exact List.mem_append_left _ (ih h)

theorem pairwise_keys_insertMember {members : List (String × α)}
    (h : (members.map Prod.fst).Pairwise (· < ·)) (key : String) (value : α) :
    ((insertMember key value members).map Prod.fst).Pairwise (· < ·) := by
  induction members with
  | nil => exact List.pairwise_singleton _ _
  | cons m members ih =>
    obtain ⟨k, v⟩ := m
    rw [List.map_cons, List.pairwise_cons] at h
    obtain ⟨hfirst, hmembers⟩ := h
    rw [insertMember]
    by_cases hlt : key < k
    · rw [if_pos hlt, List.map_cons, List.map_cons, List.pairwise_cons]
      refine ⟨List.forall_mem_cons.mpr ⟨hlt, ?_⟩, List.pairwise_cons.mpr ⟨hfirst, hmembers⟩⟩
      exact fun k' hk' => hlt.trans (hfirst k' hk')
    by_cases heq : key = k
    · subst heq
      rw [if_neg hlt, if_pos rfl]
      exact List.pairwise_cons.mpr ⟨hfirst, hmembers⟩
    · rw [if_neg hlt, if_neg heq, List.map_cons, List.pairwise_cons]
      refine ⟨fun k' hk' => ?_, ih hmembers⟩
      obtain ⟨m, hm, rfl⟩ := List.mem_map.mp hk'
      rcases mem_of_mem_insertMember hm with rfl | hm
      · exact lt_of_le_of_ne (not_lt.mp hlt) (Ne.symm heq)
      · exact hfirst m.1 (List.mem_map_of_mem hm)

/-- Sorted members are in increasing order of their keys. -/
theorem pairwise_keys_sortMembers (members : List (String × α)) :
    ((sortMembers members).map Prod.fst).Pairwise (· < ·) := by
  induction members using List.reverseRecOn with
  | nil => exact .nil
  | append_singleton members last ih =>
    rw [sortMembers, List.foldl_concat, ← sortMembers]
    exact pairwise_keys_insertMember ih last.1 last.2

theorem insertMember_of_lt {key : String} {value : α} {members : List (String × α)}
    (h : ∀ m ∈ members, m.1 < key) : insertMember key value members = members ++ [(key, value)] := by
  induction members with
  | nil => rfl
  | cons m members ih =>
    obtain ⟨k, v⟩ := m
    have hk : k < key := h (k, v) (List.mem_cons_self ..)
    rw [insertMember, if_neg (lt_asymm hk), if_neg hk.ne', List.cons_append,
      ih fun m hm => h m (List.mem_cons_of_mem _ hm)]

/-- Members in increasing order of their keys are sorted. -/
theorem sortMembers_of_pairwise {members : List (String × α)}
    (h : (members.map Prod.fst).Pairwise (· < ·)) : sortMembers members = members := by
  induction members using List.reverseRecOn with
  | nil => rfl
  | append_singleton members m ih =>
    obtain ⟨key, value⟩ := m
    rw [List.map_append, List.pairwise_append] at h
    obtain ⟨hmembers, -, hkey⟩ := h
    rw [sortMembers, List.foldl_concat, ← sortMembers, ih hmembers]
    exact insertMember_of_lt fun m hm =>
      hkey m.1 (List.mem_map_of_mem hm) key (List.mem_singleton.mpr rfl)

/-- A list of members in strictly increasing order of their keys is known by its members. -/
theorem eq_of_mem_iff {members others : List (String × α)}
    (h : (members.map Prod.fst).Pairwise (· < ·)) (h' : (others.map Prod.fst).Pairwise (· < ·))
    (hmem : ∀ m, m ∈ members ↔ m ∈ others) : members = others := by
  have hnodup : ∀ {l : List (String × α)}, (l.map Prod.fst).Pairwise (· < ·) → l.Nodup :=
    fun hl => List.Nodup.of_map Prod.fst (hl.imp ne_of_lt)
  rw [List.pairwise_map] at h h'
  refine List.Perm.eq_of_pairwise (fun a b _ _ hab hba => absurd hba (lt_asymm hab)) h h' ?_
  exact (List.perm_ext_iff_of_nodup (hnodup (List.pairwise_map.mpr h))
    (hnodup (List.pairwise_map.mpr h'))).mpr hmem

theorem mem_insertMember_iff {key : String} {value : α} {members : List (String × α)}
    (h : key ∉ members.map Prod.fst) {m : String × α} :
    m ∈ insertMember key value members ↔ m = (key, value) ∨ m ∈ members := by
  refine ⟨mem_of_mem_insertMember, fun hm => ?_⟩
  induction members with
  | nil => simpa [insertMember] using hm
  | cons m' members ih =>
    obtain ⟨k, v⟩ := m'
    rw [List.map_cons, List.mem_cons, not_or] at h
    rw [insertMember]
    by_cases hlt : key < k
    · rw [if_pos hlt]
      exact List.mem_cons.mpr hm
    · rw [if_neg hlt, if_neg h.1, List.mem_cons]
      rw [List.mem_cons] at hm
      tauto

/-- If no key stands twice all members stay. -/
theorem mem_sortMembers_iff {members : List (String × α)} (h : (members.map Prod.fst).Nodup)
    {m : String × α} : m ∈ sortMembers members ↔ m ∈ members := by
  induction members using List.reverseRecOn with
  | nil => rfl
  | append_singleton members last ih =>
    rw [List.map_append, List.nodup_append] at h
    obtain ⟨hmembers, -, hlast⟩ := h
    have hkey : last.1 ∉ (sortMembers members).map Prod.fst := by
      rintro hmem
      obtain ⟨m, hm, heq⟩ := List.mem_map.mp hmem
      exact hlast m.1 (List.mem_map_of_mem (mem_of_mem_sortMembers hm)) last.1
        (List.mem_singleton.mpr rfl) heq
    rw [sortMembers, List.foldl_concat, ← sortMembers, mem_insertMember_iff hkey, ih hmembers,
      List.mem_append, List.mem_singleton, or_comm]

/-- The order of members with different keys does not matter. -/
theorem sortMembers_eq_of_perm {members others : List (String × α)} (h : members.Perm others)
    (hkeys : (members.map Prod.fst).Nodup) : sortMembers members = sortMembers others := by
  have hothers : (others.map Prod.fst).Nodup := (h.map Prod.fst).nodup_iff.mp hkeys
  refine eq_of_mem_iff (pairwise_keys_sortMembers _) (pairwise_keys_sortMembers _) fun m => ?_
  rw [mem_sortMembers_iff hkeys, mem_sortMembers_iff hothers]
  exact h.mem_iff

end DocQuery.Json
