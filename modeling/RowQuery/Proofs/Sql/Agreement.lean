import Mathlib.Data.List.Pairwise
import RowQuery.Proofs.Sql.Exact
import RowQuery.Proofs.Sql.Executable
import RowQuery.Proofs.Sql.Paged
import RowQuery.Proofs.Visibility

/-!
# A table and the same rows in memory

A URL that is put to a table can be put to the rows of the table in memory. It is refused there for
the same reason. If the keys tell all rows apart, a database has one arrangement to choose from, and
the page, the columns and the hidden fields come out the same. Binary numbers are less precise in
the rows of the statement, and nothing else is different.
-/
namespace RowQuery

namespace Sql

theorem Database.Lawful.arrange_eq_sort {db : Database} (hdb : db.Lawful) {keys : SortOrder}
    {rows : List Record}
    (h : keys = [] ∨ rows.Pairwise fun a b => compareRecords keys a b ≠ .eq) :
    db.arrange keys rows = Sort.sort (compareRecords keys) rows := by
  rcases h with rfl | hapart
  · exact (hdb.unkeyed rows).trans (lawful_stable.unkeyed rows).symm
  · have hsymm : Std.Symm fun a b => compareRecords keys a b ≠ .eq :=
      ⟨fun _ _ hab hba => hab (Std.OrientedCmp.eq_comm.mp hba)⟩
    have hperm := hdb.perm keys rows
    have hsort := lawful_stable.perm keys rows
    refine List.Perm.eq_of_pairwise (fun a b ha hb hab hba => ?_) (hdb.ordered keys rows)
      (lawful_stable.ordered keys rows) (hperm.trans hsort.symm)
    have heq : compareRecords keys a b = .eq := by
      rw [compareRecords_swap] at hba
      exact eq_of_ne_gt_of_swap hab hba
    by_contra hne
    exact hapart.forall (hperm.mem_iff.mp ha) (hsort.mem_iff.mp hb) hne heq

variable {e : Entity}

def Table.inMemory (t : Table e) : MemoryQuery := { source := t.rows.map Record.row }

def Entity.adaptInMemory (e : Entity) (url : String) (q : MemoryQuery) :
    Except QueryError MemoryQuery := do
  let query ← (Query.parseUrl {} url).result.mapError .parse
  (e.applier.apply query q).result

/-- No value loses anything at the precision of 32 bits. -/
def Table.Single (t : Table e) : Prop :=
  ∀ r ∈ t.rows, ∀ value ∈ r, value.2.exact.single = value.2.exact

theorem hasField_inMemory {t : Table e} (hrows : t.rows ≠ []) (base : Select) (field : String) :
    Target.hasField t.inMemory field = Target.hasField (e.target base) field := by
  rw [Bool.eq_iff_iff, EntityQuery.hasField_iff]
  change (t.inMemory.source.isEmpty || t.inMemory.source.any fun row => row.hasField field) = true ↔
    field ∈ e.columnNames
  obtain ⟨r, hr⟩ := List.exists_mem_of_ne_nil t.rows hrows
  simp only [Table.inMemory, List.isEmpty_map, List.isEmpty_eq_false_iff.mpr hrows, Bool.false_or,
    List.any_map, List.any_eq_true, Function.comp_apply]
  constructor
  · rintro ⟨r', hr', hfield⟩
    exact (Record.hasField_row (t.fits r' hr') field).mp hfield
  · intro hfield
    exact ⟨r, hr, (Record.hasField_row (t.fits r hr) field).mpr hfield⟩

theorem found_find (e : Entity) : e.Found e.find := ⟨rfl, by simp [Entity.find], rfl, rfl⟩

theorem result_adapt_eq {t : Table e} (hrows : t.rows ≠ []) (url : String) :
    (e.adapt url).result = (Query.parseUrl {} url).result.mapError .parse >>= fun query =>
        (e.applier.validate query t.inMemory).result.mapError .validation >>= fun _ =>
          .ok ((e.target e.find).narrowed query) := by
  rw [Entity.adapt, Entity.result_adaptSelect]
  refine congrArg _ (funext fun query => ?_)
  rw [Applier.validate_congr_of_fieldsOf fun field _ => hasField_inMemory hrows e.find field]

theorem adaptInMemory_eq (t : Table e) (url : String) :
    e.adaptInMemory url t.inMemory = (Query.parseUrl {} url).result.mapError .parse >>= fun query =>
        (e.applier.validate query t.inMemory).result.mapError .validation >>= fun _ =>
          .ok (t.inMemory.narrowed query) := by
  rw [Entity.adaptInMemory]
  exact congrArg _ (funext fun query => MemoryQuery.result_apply e.applier query t.inMemory)

theorem without_rowOf {t : Table e} {r : Record} (hr : r ∈ t.rows) {query : Query}
    (hnames : ∀ field ∈ Applier.fieldsOf query, field ∈ e.columnNames) :
    (((e.target e.find).narrowed query).select.rowOf r).without e.hidden =
      (((t.inMemory.narrowed query).projection r.row).without
        (e.policy.hiddenFields e.recordType).toList).single := by
  have hfits := t.fits r hr
  have hcolumns : ∀ column ∈ ((e.target e.find).narrowed query).select.columns,
      column ∈ e.columnNames := by
    intro column hcolumn
    exact EntityQuery.names_narrowed (found_find e) hnames column (List.mem_append_left _ hcolumn)
  have hprojection : (t.inMemory.narrowed query).projection r.row =
      r.row.project ((e.target e.find).narrowed query).select.columns := by
    cases hselect : query.select with
    | none =>
      simp only [MemoryQuery.projection, MemoryQuery.narrowed, EntityQuery.narrowed, hselect]
      have hkeys := Record.keys_row hfits
      change r.row = r.row.project e.columnNames
      rw [← hkeys]
      exact (Row.project_keys (hkeys ▸ t.distinct)).symm
    | some fields =>
      simp only [MemoryQuery.projection, MemoryQuery.narrowed, EntityQuery.narrowed, hselect]
      rfl
  have hhidden : ∀ field, field ∈ e.hidden ↔ field ∈ (e.policy.hiddenFields e.recordType).toList :=
    fun field => NameSet.mem_ofList.symm
  rw [Select.rowOf_eq_single _ hfits hcolumns, single_without, hprojection,
    Row.without_congr hhidden]

theorem preorderOn_compareRecords (keys : SortOrder) (rows : List Record) :
    Sort.PreorderOn (compareRecords keys) rows := by
  refine .of_trans (fun a _ b _ => compareRecords_swap keys a b) fun a _ b _ c _ hab hbc => ?_
  rw [ne_eq, ← Ordering.isLE_iff_ne_gt] at hab hbc ⊢
  exact Std.TransCmp.isLE_trans hab hbc

theorem behind_inMemory (t : Table e) {db : Database} (hdb : db.Lawful) {query : Query}
    (h : query.orderBy.getD [] = [] ∨
      t.rows.Pairwise fun a b => compareRecords (query.orderBy.getD []) a b ≠ .eq) :
    (t.inMemory.narrowed query).behind =
      some ((((e.target e.find).narrowed query).select.found db t.rows).map Record.row) := by
  have hmatching : (e.target e.find).select.matching t.rows = t.rows :=
    List.filter_eq_self.mpr fun _ _ => rfl
  have hcompare : ∀ a ∈ t.rows, ∀ b ∈ t.rows,
      SortOrder.compare (query.orderBy.getD []) a.row b.row =
        compareRecords (query.orderBy.getD []) a b :=
    fun a ha b hb => Record.compare_row (t.fits a ha) (t.fits b hb) _
  have hsort : Sort.sort? (SortOrder.compare (query.orderBy.getD [])) (t.rows.map Record.row) =
      some ((db.arrange (query.orderBy.getD []) t.rows).map Record.row) := by
    rw [← Sort.map_sort?_of_mem hcompare, (preorderOn_compareRecords _ _).sort?_eq,
      hdb.arrange_eq_sort h, Option.map_some]
  rw [MemoryQuery.behind_eq_cut, EntityQuery.found_narrowed, hmatching, Page.map_cut]
  exact congrArg (Option.map (Page.narrowed ⟨none, none⟩ query).cut) hsort

theorem mem_of_mem_projection {q : MemoryQuery} {row : Row} {member : String × Json}
    (h : member ∈ q.projection row) : member ∈ row := by
  rw [MemoryQuery.projection] at h
  split at h
  · rw [Row.project_eq_listed] at h
    obtain ⟨before, after, hsplit, -⟩ := List.lookup_eq_some_iff.mp (Row.mem_listed.mp h).2
    simp [hsplit]
  · exact h

theorem single_projection {t : Table e} (h : t.Single) {r : Record} (hr : r ∈ t.rows)
    (q : MemoryQuery) (hidden : List String) :
    ((q.projection r.row).without hidden).single = (q.projection r.row).without hidden := by
  refine (List.map_congr_left fun member hmember => ?_).trans (List.map_id _)
  have hmember := mem_of_mem_projection (List.mem_of_mem_filter hmember)
  obtain ⟨value, hvalue, rfl⟩ := List.mem_map.mp hmember
  exact Prod.ext rfl (h r hr value hvalue)

theorem exists_visibleRows {t : Table e} {db : Database} (hdb : db.Lawful) {query : Query}
    (hnames : ∀ field ∈ Applier.fieldsOf query, field ∈ e.columnNames)
    (hapart : query.orderBy.getD [] = [] ∨
      t.rows.Pairwise fun a b => compareRecords (query.orderBy.getD []) a b ≠ .eq)
    {rows : List Row} (h : ((e.target e.find).narrowed query).allJson t.rows db = .ok rows) :
    ∃ seen, (t.inMemory.narrowed query).visibleRows e.policy e.recordType = some seen ∧
      rows = seen.map Row.single ∧ (t.Single → rows = seen) := by
  let seenOf := fun r : Record => ((t.inMemory.narrowed query).projection r.row).without
    (e.policy.hiddenFields e.recordType).toList
  let found := ((e.target e.find).narrowed query).select.found db t.rows
  have hmem : ∀ r ∈ found, r ∈ t.rows := fun r hr => Select.mem_of_mem_found hdb.perm hr
  have hrows : rows = found.map fun r => (seenOf r).single := by
    rw [EntityQuery.rows_of_allJson h]
    exact List.map_congr_left fun r hr => without_rowOf (hmem r hr) hnames
  refine ⟨found.map seenOf, ?_, ?_, fun hsingle => ?_⟩
  · rw [MemoryQuery.visibleRows_eq_map_behind, behind_inMemory t hdb hapart, Option.map_some,
      List.map_map]
    rfl
  · rw [hrows, List.map_map]
    rfl
  · rw [hrows]
    exact List.map_congr_left fun r hr => single_projection hsingle (hmem r hr) _ _

/-- A URL is refused for a table exactly if it is refused for the rows in memory, and for the same
reason. Where both accept it and the statement runs, the rows of the statement are those that are
seen in memory, in the same order and with the same members in the same order; the values are the
same at the precision of 32 bits. -/
theorem allJson_adapt_eq_visibleRows (t : Table e) (hrows : t.rows ≠ []) {db : Database}
    (hdb : db.Lawful) (url : String) :
    (∀ error, (e.adapt url).result = .error error ↔
      e.adaptInMemory url t.inMemory = .error error) ∧
    ∀ q m, (e.adapt url).result = .ok q → e.adaptInMemory url t.inMemory = .ok m →
      (q.select.order = [] ∨ t.rows.Pairwise fun a b => compareRecords q.select.order a b ≠ .eq) →
      ∀ rows, q.allJson t.rows db = .ok rows →
        ∃ seen, m.visibleRows e.policy e.recordType = some seen ∧
          rows = seen.map Row.single ∧ (t.Single → rows = seen) := by
  constructor
  · intro error
    rw [result_adapt_eq hrows, adaptInMemory_eq]
    cases (Query.parseUrl {} url).result with
    | error fault => simp [Except.mapError]
    | ok query =>
      rw [mapError_ok, ok_bind, ok_bind]
      cases (e.applier.validate query t.inMemory).result with
      | error fault => simp [Except.mapError]
      | ok u => simp
  · intro q m hq hm hapart rows hrun
    obtain ⟨query, hparse, hvalid, rfl⟩ := Entity.adaptSelect_eq_ok_iff.mp hq
    have hmemory : t.inMemory.narrowed query = m := by
      rw [adaptInMemory_eq, hparse, mapError_ok, ok_bind, bind_eq_ok_iff] at hm
      obtain ⟨u, -, hm⟩ := hm
      exact Except.ok.inj hm
    subst hmemory
    have hnames : ∀ field ∈ Applier.fieldsOf query, field ∈ e.columnNames :=
      EntityQuery.columns_of_validate hvalid
    exact exists_visibleRows hdb hnames hapart hrun

/-- The later of two titles, with the author hidden. -/
theorem allJson_adapt_eq_visibleRows_last_title :
    let e : Entity :=
      { table := "book", columns := [⟨"title", .text⟩, ⟨"author", .text⟩], hidden := ["author"] }
    let first : Record := [("title", .text "a"), ("author", .text "x")]
    let second : Record := [("title", .text "b"), ("author", .null)]
    let url := "?$orderby=title desc&$top=1"
    let query : Query := { top := some 1, orderBy := some [⟨"title", .descending⟩] }
    let q : EntityQuery := (e.target e.find).narrowed query
    let m : MemoryQuery :=
      ({ source := [Record.row first, Record.row second] } : MemoryQuery).narrowed query
    (e.adapt url).result = .ok q ∧
    q.allJson [first, second] = .ok [[("title", .string "b")]] ∧
    m.visibleRows e.policy e.recordType = some [[("title", .string "b")]] := by
  intro e first second url query q m
  let t : Table e :=
    { rows := [first, second]
      nonempty := by simp [e]
      distinct := by simp [e, Entity.columnNames]
      fits := by simp [e, Record.Fits, first, second, ColumnType.keeps] }
  have hurl : Query.urlQuery "?$orderby=title desc&$top=1" =
      .ok "$orderby=title%20desc&$top=1" := by rfl
  have hparse : (Query.parseUrl {} url).result = .ok query := by
    rw [Query.parseUrl_of_urlQuery hurl]
    rfl
  have hq : (e.adapt url).result = .ok q :=
    Entity.adaptSelect_eq_ok_iff.mpr ⟨query, hparse, rfl, rfl⟩
  have hm : e.adaptInMemory url t.inMemory = .ok m := by
    rw [adaptInMemory_eq, hparse]
    rfl
  have hsingle : t.Single := by
    intro r hr value hvalue
    rcases List.mem_pair.mp hr with rfl | rfl <;>
      rcases List.mem_pair.mp hvalue with rfl | rfl <;> rfl
  have hapart : t.rows.Pairwise fun a b => compareRecords q.select.order a b ≠ .eq := by
    decide +kernel
  have hrun : q.allJson [first, second] = .ok [[("title", .string "b")]] := by rfl
  obtain ⟨-, hagree⟩ := allJson_adapt_eq_visibleRows t (by simp [t]) Database.lawful_stable url
  obtain ⟨seen, hseen, -, hsame⟩ := hagree q m hq hm (.inr hapart) _ hrun
  rw [hsame hsingle]
  exact ⟨hq, hsame hsingle ▸ hrun, hseen⟩

/-- Ten to the sixteenth, which takes more than 24 binary digits. -/
theorem allJson_adapt_large_score :
    let e : Entity := { table := "app_user", columns := [⟨"id", .integer⟩, ⟨"score", .real⟩] }
    let large : Binary64 := { negative := false, magnitude := 4846369599423283200 }
    let near : Binary64 := { negative := false, magnitude := 4846369599559565312 }
    let member : Record := [("id", .integer 1), ("score", .real large)]
    let q : EntityQuery := (e.target e.find).narrowed { select := some ["score"] }
    let m : MemoryQuery :=
      ({ source := [Record.row member] } : MemoryQuery).narrowed { select := some ["score"] }
    member.Fits e ∧
    (e.adapt "?$select=score").result = .ok q ∧
    e.adaptInMemory "?$select=score" { source := [Record.row member] } = .ok m ∧
    q.allJson [member] = .ok [[("score", .number (.float near))]] ∧
    m.visibleRows e.policy e.recordType = some [[("score", .number (.float large))]] ∧
    Json.number (.float near) ≠ .number (.float large) := by
  intro e large near member q m
  have hfits : member.Fits e := by simp [e, Record.Fits, member, ColumnType.keeps, large]
  have hurl : Query.urlQuery "?$select=score" = .ok "$select=score" := by rfl
  have hparse : (Query.parseUrl {} "?$select=score").result = .ok { select := some ["score"] } := by
    rw [Query.parseUrl_of_urlQuery hurl]
    rfl
  have hq : (e.adapt "?$select=score").result = .ok q :=
    Entity.adaptSelect_eq_ok_iff.mpr ⟨_, hparse, rfl, rfl⟩
  have hm : e.adaptInMemory "?$select=score" { source := [Record.row member] } = .ok m := by
    rw [Entity.adaptInMemory, hparse]
    rfl
  have hnarrow : large.narrow? = some near := by decide +kernel
  have hjson : (Cell.real large).toJson = .number (.float near) := by
    rw [Cell.toJson, hnarrow]
    rfl
  have hrun : q.allJson [member] = .ok [[("score", (Cell.real large).toJson)]] := by rfl
  rw [hjson] at hrun
  refine ⟨hfits, hq, hm, hrun, by rfl, fun h => ?_⟩
  have hmagnitude := congrArg Binary64.magnitude (Number.float.inj (Json.number.inj h))
  exact absurd hmagnitude (by decide)

end Sql
end RowQuery
