import RowQuery.Proofs.Apply.Validate
import RowQuery.Proofs.Memory.Narrowed
import RowQuery.Proofs.Memory.Row
import RowQuery.Proofs.Memory.Sorted

/-!
# Hidden fields do not influence an answer

The answer to a query is what a policy lets be seen of the rows after the query was checked and
applied. It is the same if the hidden fields are removed from the source rows beforehand, as long as
no order key names one of them. So two sources that differ in hidden fields only, some of which may
be there in one source and missing from the other, get one answer: the same rows, the same error or
no rows because the keys tear them.
-/
namespace RowQuery.MemoryQuery

/-- What may be seen of the rows that a query selects, with enforcement on. -/
def visibleAnswer (policy : Policy) (recordType : String) (query : Query) (rows : List Row) :
    Except QueryError (Option (List Row)) := do
  let a : Applier := { policy, recordType, enforce := true }
  let q ← (a.apply query ({ source := rows } : MemoryQuery)).result
  .ok (q.visibleRows policy recordType)

/-- Sources that are equal row by row once some fields are removed, the order of keys included. -/
def AgreeOutside (hidden : List String) (first second : List Row) : Prop :=
  first.length = second.length ∧
    ∀ (i : Nat) (hi : i < first.length) (hj : i < second.length),
      first[i].without hidden = second[i].without hidden

def stripped (q : MemoryQuery) (hidden : List String) : MemoryQuery :=
  { q with source := q.source.map fun row => row.without hidden }

variable {q : MemoryQuery} {hidden : List String}

theorem hasField_stripped {field : String} (h : field ∉ hidden) :
    (q.stripped hidden).hasField field = q.hasField field := by
  simp [hasField, stripped, List.any_map, Function.comp_def, Row.hasField_without h]

theorem sorted_stripped (horder : ∀ key ∈ q.order, key.field ∉ hidden) :
    (q.stripped hidden).sorted =
      q.sorted.map fun rows => rows.map fun row => row.without hidden := by
  rw [sorted_eq, sorted_eq]
  exact (Sort.map_sort? (SortOrder.compare_without horder) q.source).symm

theorem page_stripped (rows : List Row) :
    (q.stripped hidden).page (rows.map fun row => row.without hidden) =
      (q.page rows).map fun row => row.without hidden := by
  simp only [page, stripped, ← List.map_drop]
  cases q.limit with
  | none => rfl
  | some count => exact (List.map_take ..).symm

theorem projection_stripped (hselect : ∀ fields ∈ q.select, ∀ field ∈ fields, field ∉ hidden)
    (row : Row) :
    ((q.stripped hidden).projection (row.without hidden)).without hidden =
      (q.projection row).without hidden := by
  cases hq : q.select with
  | none => simp only [projection, stripped, hq, Row.without_without]
  | some fields => simp only [projection, stripped, hq, Row.project_without (hselect fields hq)]

theorem visibleRows_stripped {policy : Policy} {recordType : String}
    (horder : ∀ key ∈ q.order, key.field ∉ (policy.hiddenFields recordType).toList)
    (hselect : ∀ fields ∈ q.select, ∀ field ∈ fields,
      field ∉ (policy.hiddenFields recordType).toList) :
    (q.stripped (policy.hiddenFields recordType).toList).visibleRows policy recordType =
      q.visibleRows policy recordType := by
  simp only [visibleRows, rows, sorted_stripped horder, Option.map_map, Function.comp_def,
    page_stripped, List.map_map, projection_stripped hselect]

theorem visibleAnswer_stripped {policy : Policy} {recordType : String} {query : Query}
    (horder : ∀ key ∈ query.orderBy.getD [],
      key.field ∉ (policy.hiddenFields recordType).toList) (rows : List Row) :
    visibleAnswer policy recordType query
        (rows.map fun row => row.without (policy.hiddenFields recordType).toList) =
      visibleAnswer policy recordType query rows := by
  let a : Applier := { policy, recordType, enforce := true }
  let q : MemoryQuery := { source := rows }
  let s : MemoryQuery := q.stripped (policy.hiddenFields recordType).toList
  have hvalid : a.validate query s = a.validate query q :=
    Applier.validate_congr rfl (fun field hf => hasField_stripped hf) horder
  change ((a.apply query s).result >>= fun t => .ok (t.visibleRows policy recordType)) =
    (a.apply query q).result >>= fun t => .ok (t.visibleRows policy recordType)
  rw [result_apply, result_apply, hvalid]
  cases h : (a.validate query q).result with
  | error e => rfl
  | ok u =>
    have hselect : ∀ fields ∈ (q.narrowed query).select, ∀ field ∈ fields,
        field ∉ (policy.hiddenFields recordType).toList := by
      intro fields hf
      refine Applier.visible_of_validate (a := a) rfl h ?_
      simpa [narrowed, q] using hf
    have hkeys : ∀ key ∈ (q.narrowed query).order,
        key.field ∉ (policy.hiddenFields recordType).toList := by
      simpa [narrowed, q] using horder
    simp only [mapError_ok, ok_bind, Except.ok.injEq]
    exact visibleRows_stripped hkeys hselect

/-- Sources that agree outside the hidden fields get the same answer, whatever a query selects and
however it cuts, as long as it does not order by a hidden field. -/
theorem visibleAnswer_eq_of_agree {policy : Policy} {recordType : String} {query : Query}
    {first second : List Row}
    (hrows : AgreeOutside (policy.hiddenFields recordType).toList first second)
    (horder : ∀ key ∈ query.orderBy.getD [],
      key.field ∉ (policy.hiddenFields recordType).toList) :
    visibleAnswer policy recordType query first =
      visibleAnswer policy recordType query second := by
  obtain ⟨hlength, hrow⟩ := hrows
  have hstripped : first.map (fun row => row.without (policy.hiddenFields recordType).toList) =
      second.map fun row => row.without (policy.hiddenFields recordType).toList := by
    refine List.ext_getElem (by simpa using hlength) fun i hi hj => ?_
    simp only [List.length_map] at hi hj
    simpa using hrow i hi hj
  rw [← visibleAnswer_stripped horder first, hstripped, visibleAnswer_stripped horder second]

/-- The hidden author is in the first row of one source and in the second row of the other. -/
theorem visibleAnswer_author_elsewhere :
    let policy : Policy := .ofSets fun _ => ⟨["author"], List.pairwise_singleton _ _⟩
    let query : Query := { top := some 1, orderBy := some [⟨"title", .descending⟩] }
    let first : List Row :=
      [[("author", .string "x"), ("title", .string "a")], [("title", .string "b")]]
    let second : List Row :=
      [[("title", .string "a")], [("title", .string "b"), ("author", .null)]]
    AgreeOutside (policy.hiddenFields "book").toList first second ∧
    (∀ key ∈ query.orderBy.getD [], key.field ∉ (policy.hiddenFields "book").toList) ∧
    visibleAnswer policy "book" query first = visibleAnswer policy "book" query second := by
  intro policy query first second
  have hrows : AgreeOutside (policy.hiddenFields "book").toList first second := by
    refine ⟨rfl, fun i hi hj => ?_⟩
    match i, hi, hj with
    | 0, _, _ => rfl
    | 1, _, _ => rfl
    | _ + 2, hi, _ => exact absurd hi (by simp [first])
  have horder : ∀ key ∈ query.orderBy.getD [],
      key.field ∉ (policy.hiddenFields "book").toList := by
    simp [query, policy, Policy.ofSets]
  exact ⟨hrows, horder, visibleAnswer_eq_of_agree hrows horder⟩

end RowQuery.MemoryQuery
