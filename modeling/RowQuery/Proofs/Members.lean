import Mathlib.Data.List.Nodup
import RowQuery.Json.Value

/-!
# Members under keys

A list of members holds values under keys. Putting a value under a key changes what is found under
that key alone, and keeps the keys apart if they were. Merged members have every key once, with the
last value that it had; members whose keys are apart are merged already.
-/
namespace RowQuery

variable {α : Type} {key : String} {value : α} {members : List (String × α)}

theorem lookup_eq_none_iff_not_mem_keys :
    members.lookup key = none ↔ key ∉ members.map Prod.fst := by
  simp only [List.lookup_eq_none_iff, bne_iff_ne, ne_eq, List.mem_map, not_exists, not_and]
  exact forall₂_congr fun member _ => not_congr eq_comm

theorem lookup_cons_of_ne {other : String} (h : other ≠ key) :
    ((key, value) :: members).lookup other = members.lookup other := by
  rw [List.lookup_cons, beq_eq_false_iff_ne.mpr h]

theorem mem_of_lookup (h : members.lookup key = some value) : (key, value) ∈ members := by
  obtain ⟨before, after, rfl, -⟩ := List.lookup_eq_some_iff.mp h
  exact List.mem_append_right before List.mem_cons_self

theorem lookup_of_mem (hkeys : (members.map Prod.fst).Nodup) (h : (key, value) ∈ members) :
    members.lookup key = some value := by
  obtain ⟨before, after, rfl⟩ := List.append_of_mem h
  refine List.lookup_eq_some_iff.mpr ⟨before, after, rfl, fun other hother => ?_⟩
  rw [List.map_append, List.nodup_append] at hkeys
  rw [bne_iff_ne]
  exact (hkeys.2.2 other.1 (List.mem_map_of_mem hother) key (by simp)).symm

/-! ## Putting a value under a key -/

theorem insertMember_eq_self (hmem : (key, value) ∈ members)
    (h : ∀ other, (key, other) ∈ members → other = value) :
    insertMember key value members = members := by
  induction members with
  | nil => exact absurd hmem List.not_mem_nil
  | cons member rest ih =>
    obtain ⟨k, v⟩ := member
    by_cases hk : k = key
    · subst hk
      simp [insertMember, h v List.mem_cons_self]
    · have hrest : (key, value) ∈ rest := by simpa [Ne.symm hk] using hmem
      simp [insertMember, hk, ih hrest fun other ho => h other (List.mem_cons_of_mem _ ho)]

theorem insertMember_eq_append (h : ∀ other, (key, other) ∉ members) :
    insertMember key value members = members ++ [(key, value)] := by
  induction members with
  | nil => rfl
  | cons member rest ih =>
    obtain ⟨k, v⟩ := member
    have hk : k ≠ key := by
      rintro rfl
      exact h v List.mem_cons_self
    simp [insertMember, hk, ih fun other ho => h other (List.mem_cons_of_mem _ ho)]

theorem insertMember_eq_append_of_not_mem_keys (h : key ∉ members.map Prod.fst) :
    insertMember key value members = members ++ [(key, value)] :=
  insertMember_eq_append fun _ hmem => h (List.mem_map_of_mem hmem)

theorem lookup_insertMember (key other : String) (value : α) (members : List (String × α)) :
    (insertMember key value members).lookup other =
      if other = key then some value else members.lookup other := by
  induction members with
  | nil =>
    by_cases h : other = key
    · simp [insertMember, h]
    · simp [insertMember, h, lookup_cons_of_ne h]
  | cons member rest ih =>
    obtain ⟨k, v⟩ := member
    by_cases hk : k = key
    · subst hk
      by_cases h : other = k
      · simp [insertMember, h]
      · simp [insertMember, h, lookup_cons_of_ne h]
    · by_cases h : other = k
      · subst h
        simp [insertMember, hk]
      · rw [insertMember, if_neg hk, lookup_cons_of_ne h, lookup_cons_of_ne h, ih]

theorem mem_of_mem_insertMember {member : String × α} (h : member ∈ insertMember key value members) :
    member = (key, value) ∨ member ∈ members := by
  induction members with
  | nil => exact .inl (List.mem_singleton.mp h)
  | cons first rest ih =>
    obtain ⟨k, v⟩ := first
    rw [insertMember] at h
    split at h
    · rename_i hk
      subst hk
      exact (List.mem_cons.mp h).imp id (List.mem_cons_of_mem _)
    · rcases List.mem_cons.mp h with rfl | h
      · exact .inr List.mem_cons_self
      · exact (ih h).imp id (List.mem_cons_of_mem _)

theorem mem_keys_insertMember {other : String} :
    other ∈ (insertMember key value members).map Prod.fst ↔
      other = key ∨ other ∈ members.map Prod.fst := by
  rw [← not_iff_not, ← lookup_eq_none_iff_not_mem_keys, lookup_insertMember]
  by_cases h : other = key
  · simp [h]
  · rw [if_neg h, lookup_eq_none_iff_not_mem_keys]
    tauto

theorem nodup_keys_insertMember (h : (members.map Prod.fst).Nodup) :
    ((insertMember key value members).map Prod.fst).Nodup := by
  induction members with
  | nil => simp [insertMember]
  | cons first rest ih =>
    obtain ⟨k, v⟩ := first
    rw [List.map_cons, List.nodup_cons] at h
    rw [insertMember]
    split
    · exact List.nodup_cons.mpr h
    · rename_i hk
      refine List.nodup_cons.mpr ⟨fun hmem => ?_, ih h.2⟩
      rcases mem_keys_insertMember.mp hmem with hkey | hmem
      · exact hk hkey
      · exact h.1 hmem

/-! ## Merged members -/

theorem nodup_keys_mergeMembers (members : List (String × α)) :
    ((mergeMembers members).map Prod.fst).Nodup := by
  have hfold : ∀ merged : List (String × α), (merged.map Prod.fst).Nodup →
      ((members.foldl (fun merged member => insertMember member.1 member.2 merged) merged).map
        Prod.fst).Nodup := by
    induction members with
    | nil => exact fun _ h => h
    | cons first rest ih => exact fun merged h => ih _ (nodup_keys_insertMember h)
  exact hfold [] List.nodup_nil

theorem mem_of_mem_mergeMembers {member : String × α} (h : member ∈ mergeMembers members) :
    member ∈ members := by
  have hfold : ∀ merged : List (String × α),
      member ∈ members.foldl (fun merged new => insertMember new.1 new.2 merged) merged →
        member ∈ merged ∨ member ∈ members := by
    clear h
    induction members with
    | nil => exact fun _ h => .inl h
    | cons first rest ih =>
      intro merged h
      rcases ih _ h with h | h
      · rcases mem_of_mem_insertMember h with rfl | h
        · exact .inr List.mem_cons_self
        · exact .inl h
      · exact .inr (List.mem_cons_of_mem first h)
  exact (hfold [] h).resolve_left List.not_mem_nil

theorem mergeMembers_eq_self (h : (members.map Prod.fst).Nodup) : mergeMembers members = members := by
  have hfold : ∀ merged : List (String × α), ((merged ++ members).map Prod.fst).Nodup →
      members.foldl (fun merged member => insertMember member.1 member.2 merged) merged =
        merged ++ members := by
    clear h
    induction members with
    | nil => exact fun merged _ => (List.append_nil merged).symm
    | cons first rest ih =>
      intro merged h
      obtain ⟨key, value⟩ := first
      have hnew : key ∉ merged.map Prod.fst := by
        intro hmem
        rw [List.map_append, List.nodup_append] at h
        exact h.2.2 key hmem key (by simp) rfl
      have hplaced : insertMember key value merged = merged ++ [(key, value)] :=
        insertMember_eq_append_of_not_mem_keys hnew
      have hsplit : merged ++ (key, value) :: rest = insertMember key value merged ++ rest := by
        rw [hplaced, List.append_assoc, List.singleton_append]
      rw [hsplit] at h ⊢
      exact ih (insertMember key value merged) h
  exact hfold [] h

end RowQuery
