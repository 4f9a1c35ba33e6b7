import Mathlib.Data.List.Induction
import RowQuery.Memory.Row
import RowQuery.Proofs.Members

/-!
# Rows with some of their fields

Removing hidden fields does not touch the others: what a row has under a visible field, how it
compares on visible keys and what its visible fields project to stays the same. Projecting first and
removing afterwards is projecting to the visible fields only. A projection lists the fields in the
order in which they are asked for first.
-/
namespace RowQuery.Row

variable {row : Row} {hidden : List String}

theorem without_cons (key : String) (value : Json) (row : Row) (hidden : List String) :
    Row.without ((key, value) :: row) hidden =
      if key ∈ hidden then row.without hidden else (key, value) :: row.without hidden := by
  by_cases h : key ∈ hidden <;> simp [Row.without, h]

theorem get?_without {field : String} (h : field ∉ hidden) :
    (row.without hidden).get? field = row.get? field := by
  induction row with
  | nil => rfl
  | cons member rest ih =>
    obtain ⟨key, value⟩ := member
    rw [without_cons]
    by_cases hf : field = key
    · subst hf
      simp [h, get?]
    · have hne : (field == key) = false := beq_eq_false_iff_ne.mpr hf
      by_cases hk : key ∈ hidden
      · simpa [hk, get?, List.lookup_cons, hne] using ih
      · simpa [hk, get?, List.lookup_cons, hne] using ih

theorem hasField_without {field : String} (h : field ∉ hidden) :
    (row.without hidden).hasField field = row.hasField field := by
  simp only [hasField, get?_without h]

theorem without_without (row : Row) (hidden : List String) :
    (row.without hidden).without hidden = row.without hidden := by
  simp only [Row.without, List.filter_filter, Bool.and_self]

theorem without_insertMember (key : String) (value : Json) (row : Row) (hidden : List String) :
    Row.without (insertMember key value row) hidden =
      if key ∈ hidden then row.without hidden
      else insertMember key value (row.without hidden) := by
  induction row with
  | nil => by_cases hk : key ∈ hidden <;> simp [insertMember, Row.without, hk]
  | cons member rest ih =>
    obtain ⟨other, old⟩ := member
    by_cases he : other = key
    · subst he
      by_cases hk : other ∈ hidden <;> simp [insertMember, without_cons, hk]
    · by_cases hk : key ∈ hidden <;> by_cases ho : other ∈ hidden <;>
        simp_all [insertMember, without_cons]

/-! ## Projections -/

def addField (row projected : Row) (field : String) : Row :=
  match row.get? field with
  | some value => insertMember field value projected
  | none => projected

theorem project_eq_foldl (row : Row) (fields : List String) :
    row.project fields = fields.foldl row.addField [] := rfl

theorem without_addField (row projected : Row) (field : String) (hidden : List String) :
    (row.addField projected field).without hidden =
      if field ∈ hidden then projected.without hidden
      else row.addField (projected.without hidden) field := by
  cases h : row.get? field with
  | none => simp [addField, h]
  | some value => simp only [addField, h, without_insertMember]

theorem without_foldl_addField (row projected : Row) (fields hidden : List String) :
    (fields.foldl row.addField projected).without hidden =
      (fields.filter (· ∉ hidden)).foldl row.addField (projected.without hidden) := by
  induction fields generalizing projected with
  | nil => rfl
  | cons field rest ih =>
    rw [List.foldl_cons, ih, without_addField]
    by_cases h : field ∈ hidden <;> simp [h]

theorem without_project (row : Row) (fields hidden : List String) :
    (row.project fields).without hidden = row.project (fields.filter (· ∉ hidden)) :=
  without_foldl_addField row [] fields hidden

theorem addField_without {field : String} (h : field ∉ hidden) (projected : Row) :
    (row.without hidden).addField projected field = row.addField projected field := by
  simp only [addField, get?_without h]

theorem project_without {fields : List String} (h : ∀ field ∈ fields, field ∉ hidden) :
    (row.without hidden).project fields = row.project fields := by
  rw [project_eq_foldl, project_eq_foldl]
  generalize ([] : Row) = projected
  induction fields generalizing projected with
  | nil => rfl
  | cons field rest ih =>
    rw [List.foldl_cons, List.foldl_cons, addField_without (h field List.mem_cons_self)]
    exact ih (fun f hf => h f (List.mem_cons_of_mem field hf)) _

/-- The listed fields that a row has, each in the place where it is listed first. -/
def listed (row : Row) (fields : List String) : Row :=
  fields.eraseDups.filterMap fun field => (row.get? field).map (field, ·)

theorem mem_listed {fields : List String} {key : String} {value : Json} :
    (key, value) ∈ row.listed fields ↔ key ∈ fields ∧ row.get? key = some value := by
  simp [listed, List.mem_filterMap]

theorem listed_append_singleton (row : Row) (fields : List String) (field : String) :
    row.listed (fields ++ [field]) =
      if field ∈ fields then row.listed fields
      else row.listed fields ++ ((row.get? field).map (field, ·)).toList := by
  by_cases h : field ∈ fields
  · simp [listed, List.eraseDups_append, List.cons_removeAll, h]
  · cases hvalue : row.get? field <;>
      simp [listed, List.eraseDups_append, List.eraseDups_cons, List.cons_removeAll, h, hvalue]

theorem project_eq_listed (row : Row) (fields : List String) :
    row.project fields = row.listed fields := by
  rw [project_eq_foldl]
  induction fields using List.reverseRecOn with
  | nil => rfl
  | append_singleton fields field ih =>
    rw [List.foldl_append, ih, listed_append_singleton, List.foldl_cons, List.foldl_nil]
    cases hvalue : row.get? field with
    | none => simp [addField, hvalue]
    | some value =>
      simp only [addField, hvalue]
      by_cases hfield : field ∈ fields
      · rw [if_pos hfield]
        refine insertMember_eq_self (mem_listed.mpr ⟨hfield, hvalue⟩) fun other hother => ?_
        simpa [hvalue, eq_comm] using (mem_listed.mp hother).2
      · rw [if_neg hfield]
        exact insertMember_eq_append fun other hother => hfield (mem_listed.mp hother).1

theorem foldl_addField_self {done rest : Row} (h : ((done ++ rest).map Prod.fst).Nodup) :
    (rest.map Prod.fst).foldl (addField (done ++ rest)) done = done ++ rest := by
  induction rest generalizing done with
  | nil => rw [List.append_nil, List.map_nil, List.foldl_nil]
  | cons member rest ih =>
    obtain ⟨key, value⟩ := member
    have hsplit : done ++ (key, value) :: rest = (done ++ [(key, value)]) ++ rest := by simp
    have hnew : ∀ other, (key, other) ∉ done := by
      intro other hmem
      rw [List.map_append, List.nodup_append] at h
      exact h.2.2 key (List.mem_map_of_mem hmem) key (by simp) rfl
    have hnone : done.lookup key = none := by
      refine List.lookup_eq_none_iff.mpr fun member hmem => bne_iff_ne.mpr ?_
      rintro rfl
      exact hnew member.2 hmem
    have hget : get? (done ++ (key, value) :: rest) key = some value := by
      simp [get?, List.lookup_append, hnone]
    have hadd : addField (done ++ (key, value) :: rest) done key = done ++ [(key, value)] := by
      rw [addField, hget]
      exact insertMember_eq_append hnew
    rw [List.map_cons, List.foldl_cons, hadd, hsplit]
    exact ih (by rwa [← hsplit])

theorem project_keys (h : (row.map Prod.fst).Nodup) : row.project (row.map Prod.fst) = row := by
  have hfold : (row.map Prod.fst).foldl (addField ([] ++ row)) [] = [] ++ row :=
    foldl_addField_self h
  exact hfold

theorem without_congr {other : List String} (h : ∀ field, field ∈ hidden ↔ field ∈ other)
    (row : Row) : row.without hidden = row.without other := by
  have hcontains : ∀ field, hidden.contains field = other.contains field := by
    intro field
    rw [Bool.eq_iff_iff, List.contains_iff_mem, List.contains_iff_mem, h field]
  simp only [Row.without, hcontains]

end RowQuery.Row

namespace RowQuery

theorem OrderKey.compare_without {key : OrderKey} {hidden : List String}
    (h : key.field ∉ hidden) (a b : Row) :
    key.compare (a.without hidden) (b.without hidden) = key.compare a b := by
  simp only [OrderKey.compare, Row.get?_without h]

theorem SortOrder.compare_without {order : SortOrder} {hidden : List String}
    (h : ∀ key ∈ order, key.field ∉ hidden) (a b : Row) :
    order.compare (a.without hidden) (b.without hidden) = order.compare a b := by
  induction order with
  | nil => rfl
  | cons key rest ih =>
    have hkey := OrderKey.compare_without (h key List.mem_cons_self) a b
    have hrest := ih fun k hk => h k (List.mem_cons_of_mem key hk)
    simp only [SortOrder.compare, hkey, hrest]

end RowQuery
