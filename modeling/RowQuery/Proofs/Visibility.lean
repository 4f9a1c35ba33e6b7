import Mathlib.Data.List.Induction
import Mathlib.Tactic.Tauto
import RowQuery.Proofs.Members
import RowQuery.Visibility

/-!
# Tables of hidden fields

A set holds the names that were put into it, and a list in ascending order is the set of its names.
A table is made again by its own entries. What it says of a record type is what was put under that
record type last.
-/
namespace RowQuery

namespace NameSet

theorem mem_insertAll {name : String} {names : List String} (s : NameSet) :
    name ∈ (s.insertAll names).toList ↔ name ∈ s.toList ∨ name ∈ names := by
  induction names generalizing s with
  | nil => simp [insertAll]
  | cons first rest ih =>
    have hstep : s.insertAll (first :: rest) = (s.insert first).insertAll rest := rfl
    rw [hstep, ih, insert, mem_place, List.mem_cons]
    tauto

theorem mem_ofList {name : String} {names : List String} :
    name ∈ (ofList names).toList ↔ name ∈ names := by
  rw [ofList, mem_insertAll]
  simp

theorem place_of_forall_lt {name : String} {names : List String} (h : ∀ x ∈ names, x < name) :
    place name names = names ++ [name] := by
  induction names with
  | nil => rfl
  | cons other rest ih =>
    have hother : other < name := h other List.mem_cons_self
    have hbefore : ¬name < other := String.lt_asymm hother
    have hne : name ≠ other := (String.ne_of_lt hother).symm
    rw [place, if_neg hbefore, if_neg hne, ih fun x hx => h x (List.mem_cons_of_mem other hx)]
    rfl

theorem toList_insertAll (s : NameSet) {names : List String}
    (h : (s.toList ++ names).Pairwise (· < ·)) :
    (s.insertAll names).toList = s.toList ++ names := by
  induction names generalizing s with
  | nil => exact (List.append_nil s.toList).symm
  | cons name rest ih =>
    have hlast : ∀ x ∈ s.toList, x < name :=
      fun x hx => (List.pairwise_append.mp h).2.2 x hx name List.mem_cons_self
    have hplace : (s.insert name).toList = s.toList ++ [name] := place_of_forall_lt hlast
    have hsplit : s.toList ++ name :: rest = (s.insert name).toList ++ rest := by
      rw [hplace, List.append_assoc, List.singleton_append]
    rw [hsplit] at h ⊢
    exact ih (s.insert name) h

theorem eq_of_toList_eq {s t : NameSet} (h : s.toList = t.toList) : s = t := by
  cases s
  cases t
  simpa using h

theorem ofList_toList (s : NameSet) : ofList s.toList = s := by
  apply eq_of_toList_eq
  exact toList_insertAll {} s.ascending

end NameSet

namespace HiddenFields

theorem place_of_forall_lt {recordType : String} {fields : List String}
    {entries : List (String × NameSet)} (h : ∀ e ∈ entries, e.1 < recordType) :
    place recordType fields entries = entries ++ [(recordType, .ofList fields)] := by
  induction entries with
  | nil => rfl
  | cons e rest ih =>
    obtain ⟨other, names⟩ := e
    have hother : other < recordType := h (other, names) List.mem_cons_self
    have hbefore : ¬recordType < other := String.lt_asymm hother
    have hne : recordType ≠ other := (String.ne_of_lt hother).symm
    rw [place, if_neg hbefore, if_neg hne, ih fun x hx => h x (List.mem_cons_of_mem _ hx)]
    rfl

theorem entries_replace (t : HiddenFields) {recordType : String} (names : NameSet)
    (h : ∀ e ∈ t.entries, e.1 < recordType) :
    (t.replace recordType names.toList).entries = t.entries ++ [(recordType, names)] := by
  have hkept : t.entries.filter (·.1 ≠ recordType) = t.entries := by
    rw [List.filter_eq_self]
    intro e he
    exact decide_eq_true (String.ne_of_lt (h e he))
  have hplace : (t.replace recordType names.toList).entries =
      place recordType names.toList (t.entries.filter (·.1 ≠ recordType)) := rfl
  rw [hplace, hkept, place_of_forall_lt h, NameSet.ofList_toList]

theorem entries_foldl_replace (t : HiddenFields) {more : List (String × NameSet)}
    (h : (t.entries ++ more).Pairwise (·.1 < ·.1)) :
    ((more.map fun e => (e.1, e.2.toList)).foldl
      (fun t (recordType, fields) => t.replace recordType fields) t).entries =
        t.entries ++ more := by
  induction more generalizing t with
  | nil => exact (List.append_nil t.entries).symm
  | cons e rest ih =>
    have hlast : ∀ x ∈ t.entries, x.1 < e.1 :=
      fun x hx => (List.pairwise_append.mp h).2.2 x hx e List.mem_cons_self
    have hreplace := entries_replace t e.2 hlast
    have hsplit : t.entries ++ e :: rest = (t.replace e.1 e.2.toList).entries ++ rest := by
      rw [hreplace, List.append_assoc, List.singleton_append]
    rw [hsplit] at h ⊢
    exact ih (t.replace e.1 e.2.toList) h

theorem eq_of_entries_eq {t u : HiddenFields} (h : t.entries = u.entries) : t = u := by
  cases t
  cases u
  simpa using h

theorem ofMembers_entries (t : HiddenFields) :
    ofMembers (t.entries.map fun e => (e.1, e.2.toList)) = t := by
  apply eq_of_entries_eq
  exact entries_foldl_replace {} t.ascending

theorem nodup_recordTypes (t : HiddenFields) : t.recordTypes.Nodup :=
  List.pairwise_map.mpr (t.ascending.imp fun h => String.ne_of_lt h)

/-! ## What a table says of a record type -/

theorem lookup_eq_none_of_lt {e : String × NameSet} {rest : List (String × NameSet)}
    (h : (e :: rest).Pairwise (·.1 < ·.1)) {recordType : String} (hlt : recordType < e.1) :
    (e :: rest).lookup recordType = none := by
  rw [lookup_eq_none_iff_not_mem_keys]
  intro hmem
  rcases List.mem_cons.mp hmem with hfirst | hmem
  · exact String.ne_of_lt hlt hfirst
  · obtain ⟨e', he', hkey⟩ := List.mem_map.mp hmem
    exact String.lt_asymm hlt (hkey ▸ (List.pairwise_cons.mp h).1 e' he')

theorem lookup_place {entries : List (String × NameSet)} (h : entries.Pairwise (·.1 < ·.1))
    (recordType other : String) (fields : List String) :
    (place recordType fields entries).lookup other =
      if other = recordType then some ((entries.lookup recordType).elim (.ofList fields) (·.insertAll fields))
      else entries.lookup other := by
  induction entries with
  | nil =>
    by_cases ho : other = recordType
    · simp [place, ho, NameSet.ofList]
    · simp [place, ho, lookup_cons_of_ne ho]
  | cons e rest ih =>
    obtain ⟨first, names⟩ := e
    rw [place]
    -- The record type comes before the first entry, has it already, or belongs further down.
    split
    · rename_i hlt
      have hnone := lookup_eq_none_of_lt h hlt
      by_cases ho : other = recordType
      · rw [if_pos ho, ho, List.lookup_cons_self, hnone, NameSet.ofList, Option.elim_none]
      · rw [if_neg ho, lookup_cons_of_ne ho]
    · split
      · rename_i heq
        subst heq
        by_cases ho : other = recordType
        · simp [ho]
        · rw [if_neg ho, lookup_cons_of_ne ho, lookup_cons_of_ne ho]
      · rename_i hne
        by_cases ho : other = first
        · subst ho
          simp [Ne.symm hne]
        · rw [lookup_cons_of_ne ho, lookup_cons_of_ne ho, lookup_cons_of_ne hne,
            ih (List.pairwise_cons.mp h).2]

theorem find?_insert (t : HiddenFields) (recordType other : String) (fields : List String) :
    (t.insert recordType fields).find? other =
      if other = recordType then some ((t.find? recordType).elim (.ofList fields) (·.insertAll fields))
      else t.find? other :=
  lookup_place t.ascending recordType other fields

theorem mem_hiddenFields_insert {t : HiddenFields} {recordType other field : String}
    {fields : List String} :
    field ∈ ((t.insert recordType fields).policy.hiddenFields other).toList ↔
      field ∈ (t.policy.hiddenFields other).toList ∨ other = recordType ∧ field ∈ fields := by
  simp only [policy, find?_insert]
  by_cases h : other = recordType
  · rw [if_pos h, Option.getD_some, h]
    cases t.find? recordType with
    | none => simp [NameSet.mem_ofList]
    | some names => simp [NameSet.mem_insertAll]
  · simp [h]

theorem lookup_filter_of_ne {other recordType : String} (h : other ≠ recordType)
    (entries : List (String × NameSet)) :
    (entries.filter (·.1 ≠ recordType)).lookup other = entries.lookup other := by
  induction entries with
  | nil => rfl
  | cons e rest ih =>
    obtain ⟨first, names⟩ := e
    by_cases hfirst : first = recordType
    · subst hfirst
      simpa [lookup_cons_of_ne h] using ih
    · by_cases ho : other = first
      · subst ho
        simp [hfirst]
      · simpa [hfirst, lookup_cons_of_ne ho] using ih

theorem find?_replace (t : HiddenFields) (recordType other : String) (fields : List String) :
    (t.replace recordType fields).find? other =
      if other = recordType then some (.ofList fields) else t.find? other := by
  have hnone : (t.entries.filter (·.1 ≠ recordType)).lookup recordType = none := by
    rw [lookup_eq_none_iff_not_mem_keys]
    simp
  rw [replace, find?_insert]
  by_cases ho : other = recordType
  · rw [if_pos ho, if_pos ho, find?, hnone, Option.elim_none, NameSet.ofList]
  · rw [if_neg ho, if_neg ho, find?, lookup_filter_of_ne ho, find?]

theorem find?_ofMembers (members : List (String × List String)) (recordType : String) :
    (ofMembers members).find? recordType =
      (members.reverse.lookup recordType).map NameSet.ofList := by
  induction members using List.reverseRecOn with
  | nil => rfl
  | append_singleton members last ih =>
    obtain ⟨key, fields⟩ := last
    have hlast : ofMembers (members ++ [(key, fields)]) = (ofMembers members).replace key fields := by
      rw [ofMembers, List.foldl_append]
      rfl
    rw [hlast, find?_replace, List.reverse_append, List.reverse_singleton, List.singleton_append]
    by_cases ho : recordType = key
    · rw [if_pos ho, ho, List.lookup_cons_self, Option.map_some]
    · rw [if_neg ho, lookup_cons_of_ne ho, ih]

end HiddenFields
end RowQuery
