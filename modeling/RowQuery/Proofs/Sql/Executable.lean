import RowQuery.Proofs.Query.Reference
import RowQuery.Proofs.Query.WellFormed
import RowQuery.Proofs.Sql.Narrowed
import RowQuery.Proofs.Sql.Table
import RowQuery.Sql.Evaluate
import RowQuery.Sql.Statement

/-!
# When an adapted statement can be run

A query puts an offset into a statement whether the statement has a limit or not, and an offset
without a limit is no sentence of the grammar. Apart from that, what is adapted from a plain select
can be run, as long as the numbers of the query fit the signed type that they are bound as.
-/
namespace RowQuery

theorem Query.wellFormed_of_parseUrl {limits : Limits} {url : String} {query : Query}
    (h : (parseUrl limits url).result = .ok query) : query.WellFormed := by
  rw [parseUrl, Attempt.result_bind, bind_eq_ok_iff] at h
  obtain ⟨text, -, hread⟩ := h
  rw [result_parseQueryString, readQueryString] at hread
  obtain ⟨_, _, hpairs⟩ := bind_eq_ok_iff.mp hread
  rw [ofPairs_eq_ofValues] at hpairs
  exact wellFormed_of_ofValues hpairs

namespace Sql

variable {φ : Type}

/-- A select of every column, with any filter, by keys that are columns, and without a page. -/
structure Entity.Found (e : Entity) (base : Select φ) : Prop where
  columns : base.columns = e.columnNames
  order : ∀ key ∈ base.order, key.field ∈ e.columnNames
  limit : base.limit = none
  offset : base.offset = none

/-- A query whose numbers can be bound and that skips rows only below a limit. -/
structure Executable (query : Query) : Prop where
  limited : query.skip.isSome → query.top.isSome
  top : ∀ n ∈ query.top, n.toNat ≤ maxBound
  skip : ∀ n ∈ query.skip, n.toNat ≤ maxBound

theorem boundTooLarge_eq_false_iff {n : Option UInt64} :
    boundTooLarge n = false ↔ ∀ m ∈ n, m.toNat ≤ maxBound := by
  cases n <;> simp [boundTooLarge]

namespace EntityQuery

def OffsetAlone [RowFilter φ] (q : EntityQuery φ) (d : Dialect) : Prop :=
  ∃ n, q.pieces d = q.selectPiece d :: q.filterPieces d ++ q.orderPieces d ++
    [.text " OFFSET ", .value (.ofCount n)]

theorem offsetAlone_iff [RowFilter φ] {q : EntityQuery φ} {d : Dialect} :
    q.OffsetAlone d ↔ q.select.limit = none ∧ q.select.offset.isSome := by
  have hpage : q.OffsetAlone d ↔ ∃ n, countPieces "LIMIT" q.select.limit ++
      countPieces "OFFSET" q.select.offset = [.text " OFFSET ", .value (.ofCount n)] := by
    simp only [OffsetAlone, pieces, List.append_assoc, List.cons_append, List.cons.injEq, true_and,
      List.append_cancel_left_eq]
  rw [hpage]
  cases hlimit : q.select.limit with
  | none =>
    cases hoffset : q.select.offset with
    | none => simp [countPieces]
    | some n =>
      simp only [countPieces, List.nil_append, Option.isSome_some, and_self, iff_true]
      exact ⟨n, rfl⟩
  | some m =>
    simp [countPieces]

variable {e : Entity} {base : Select φ} {query : Query}

theorem limit_narrowed (hbase : e.Found base) :
    ((e.target base).narrowed query).select.limit = query.top := by
  change (query.top <|> base.limit) = query.top
  rw [hbase.limit]
  cases query.top <;> rfl

theorem offset_narrowed (hbase : e.Found base) :
    ((e.target base).narrowed query).select.offset = query.skip := by
  change (query.skip <|> base.offset) = query.skip
  rw [hbase.offset]
  cases query.skip <;> rfl

theorem names_narrowed (hbase : e.Found base)
    (hnames : ∀ field ∈ Applier.fieldsOf query, field ∈ e.columnNames) :
    ∀ name ∈ ((e.target base).narrowed query).select.names, name ∈ e.columnNames := by
  intro name hname
  simp only [Applier.fieldsOf, List.mem_append] at hnames
  simp only [Select.names, narrowed, List.map_append, List.mem_append] at hname
  rcases hname with hselected | hkey | hkey
  · cases hselect : query.select with
    | none =>
      rw [hselect, Option.getD_none] at hselected
      exact hbase.columns ▸ hselected
    | some fields =>
      rw [hselect] at hselected hnames
      exact hnames name (.inl hselected)
  · obtain ⟨key, hmem, rfl⟩ := List.mem_map.mp hkey
    exact hbase.order key hmem
  · exact hnames name (.inr hkey)

theorem columns_narrowed_ne_nil (hbase : e.Found base) (hcolumns : e.columns ≠ [])
    (hquery : query.WellFormed) : ((e.target base).narrowed query).select.columns ≠ [] := by
  cases hselect : query.select with
  | none =>
    simp only [narrowed, hselect, Option.getD_none]
    change base.columns ≠ []
    rw [hbase.columns, Entity.columnNames, ne_eq, List.map_eq_nil_iff]
    exact hcolumns
  | some fields =>
    simp only [narrowed, hselect, Option.getD_some]
    exact (hquery.select fields hselect).1

theorem isStatement_narrowed (hbase : e.Found base) (hcolumns : e.columns ≠ [])
    (hquery : query.WellFormed) (hnames : ∀ field ∈ Applier.fieldsOf query, field ∈ e.columnNames) :
    ((e.target base).narrowed query).isStatement = true ↔
      (query.skip.isSome → query.top.isSome) := by
  have hne := columns_narrowed_ne_nil hbase hcolumns hquery
  have hknown : (((e.target base).narrowed query).select.names.all fun name =>
      e.columnNames.contains name) = true := by
    rw [List.all_eq_true]
    intro name hname
    exact List.contains_iff_mem.mpr (names_narrowed hbase hnames name hname)
  have hentity : ((e.target base).narrowed query).entity = e := rfl
  rw [isStatement, hentity, hknown, Bool.and_true, Select.isSentence,
    limit_narrowed hbase, offset_narrowed hbase]
  cases query.skip <;> simp [hne]

theorem rows_of_allJson [RowFilter φ] {q : EntityQuery φ} {table : List Record} {db : Database}
    {rows : List Row} (h : q.allJson table db = .ok rows) :
    rows = (q.select.found db table).map fun r => (q.select.rowOf r).without q.hidden := by
  rw [allJson, bind_eq_ok_iff] at h
  obtain ⟨answer, hanswer, hrows⟩ := h
  rw [execute] at hanswer
  split at hanswer
  · cases hanswer
  · split at hanswer
    · cases hanswer
    · rw [← Except.ok.inj hrows, ← Except.ok.inj hanswer, List.map_map]
      rfl

theorem allJson_narrowed [RowFilter φ] (hbase : e.Found base) (hcolumns : e.columns ≠ [])
    (hquery : query.WellFormed) (hnames : ∀ field ∈ Applier.fieldsOf query, field ∈ e.columnNames)
    (table : List Record) (db : Database) :
    let q := (e.target base).narrowed query
    q.allJson table db =
      if boundTooLarge query.top || boundTooLarge query.skip then .error .valueTooLarge
      else if query.skip.isSome → query.top.isSome then
        .ok ((q.select.found db table).map fun r => (q.select.rowOf r).without e.hidden)
      else .error .syntaxError := by
  intro q
  have hstatement := isStatement_narrowed hbase hcolumns hquery hnames
  have hlimit : q.select.limit = query.top := limit_narrowed hbase
  have hoffset : q.select.offset = query.skip := offset_narrowed hbase
  rw [allJson, execute, hlimit, hoffset]
  split
  · rfl
  · by_cases hlimited : query.skip.isSome → query.top.isSome
    · have hq : q.isStatement = true := hstatement.mpr hlimited
      simp only [hq, if_pos hlimited, Bool.not_true, Bool.false_eq_true, if_false, ok_bind,
        List.map_map]
      rfl
    · have hq : q.isStatement = false := by
        rw [← Bool.not_eq_true]
        exact mt hstatement.mp hlimited
      simp only [hq, if_neg hlimited, Bool.not_false, if_true, error_bind]

end EntityQuery

theorem executable_iff {query : Query} :
    Executable query ↔ (boundTooLarge query.top || boundTooLarge query.skip) = false ∧
      (query.skip.isSome → query.top.isSome) := by
  rw [Bool.or_eq_false_iff, boundTooLarge_eq_false_iff, boundTooLarge_eq_false_iff]
  constructor
  · exact fun h => ⟨⟨h.top, h.skip⟩, h.limited⟩
  · exact fun ⟨⟨htop, hskip⟩, hlimited⟩ => ⟨hlimited, htop, hskip⟩

namespace Entity

variable [RowFilter φ]

/-- A statement that was adapted from a select without a page runs exactly if its query skips no
rows without a limit and its numbers fit. The text of one that skips without a limit has an offset
and no limit, whatever the dialect. -/
theorem allJson_adaptSelect_eq_ok_iff {e : Entity} {base : Select φ} (hbase : e.Found base)
    (table : Table e) (db : Database) {limits : Limits} {url : String} {q : EntityQuery φ}
    (h : (e.adaptSelect base limits url).result = .ok q) :
    ∃ query, (Query.parseUrl limits url).result = .ok query ∧
      ((∃ rows, q.allJson table.rows db = .ok rows) ↔ Executable query) ∧
      (q.allJson table.rows db = .error .valueTooLarge ↔
        boundTooLarge query.top ∨ boundTooLarge query.skip) ∧
      ∀ d, q.OffsetAlone d ↔ query.top = none ∧ query.skip.isSome := by
  obtain ⟨query, hparse, hvalid, rfl⟩ := adaptSelect_eq_ok_iff.mp h
  have hnames := EntityQuery.columns_of_validate hvalid
  have hquery := Query.wellFormed_of_parseUrl hparse
  have hrun := EntityQuery.allJson_narrowed hbase table.nonempty hquery hnames table.rows db
  have halone : ∀ d, ((e.target base).narrowed query).OffsetAlone d ↔
      query.top = none ∧ query.skip.isSome := by
    intro d
    rw [EntityQuery.offsetAlone_iff, EntityQuery.limit_narrowed hbase,
      EntityQuery.offset_narrowed hbase]
  refine ⟨query, hparse, ?_⟩
  rw [executable_iff, ← Bool.or_eq_true]
  cases hfit : boundTooLarge query.top || boundTooLarge query.skip with
  | true =>
    -- The numbers are bound before the text is read, so the limit does not matter here.
    simp only [hfit, if_true] at hrun
    simp [hrun, halone]
  | false =>
    simp only [hfit, Bool.false_eq_true, if_false] at hrun
    by_cases hlimited : query.skip.isSome → query.top.isSome
    · rw [if_pos hlimited] at hrun
      exact ⟨⟨fun _ => ⟨rfl, hlimited⟩, fun _ => ⟨_, hrun⟩⟩, by simp [hrun], halone⟩
    · rw [if_neg hlimited] at hrun
      exact ⟨⟨by simp [hrun], fun ⟨_, h⟩ => absurd h hlimited⟩, by simp [hrun], halone⟩

/-- The second page of a filtered table, with no limit on it. -/
theorem allJson_adaptSelect_skip_alone :
    let e : Entity := { table := "book", columns := [⟨"id", .integer⟩, ⟨"title", .text⟩] }
    let base : Select := { e.find with filter := [⟨"id", .atLeast, 1⟩] }
    let first : Record := [("id", .integer 1), ("title", .text "a")]
    let second : Record := [("id", .integer 2), ("title", .null)]
    let q : EntityQuery := (e.target base).narrowed { skip := some 1 }
    (e.adaptSelect base {} "?$skip=1").result = .ok q ∧
    q.OffsetAlone .mysql ∧
    q.sql .mysql =
      "SELECT \x60book\x60.\x60id\x60, \x60book\x60.\x60title\x60 FROM \x60book\x60" ++
      " WHERE \x60book\x60.\x60id\x60 >= ? OFFSET ?" ∧
    ¬∃ rows, q.allJson [first, second] = .ok rows := by
  intro e base first second q
  have hbase : e.Found base := ⟨rfl, by simp [base, Entity.find], rfl, rfl⟩
  let table : Table e :=
    { rows := [first, second]
      nonempty := by simp [e]
      distinct := by simp [e, columnNames]
      fits := by simp [e, Record.Fits, first, second, ColumnType.keeps] }
  have hurl : Query.urlQuery "?$skip=1" = .ok "$skip=1" := by rfl
  have hparse : (Query.parseUrl {} "?$skip=1").result = .ok { skip := some 1 } := by
    rw [Query.parseUrl_of_urlQuery hurl]
    rfl
  have hq : (e.adaptSelect base {} "?$skip=1").result = .ok q :=
    adaptSelect_eq_ok_iff.mpr ⟨_, hparse, rfl, rfl⟩
  obtain ⟨query, hquery, hrun, -, halone⟩ := allJson_adaptSelect_eq_ok_iff hbase table .stable hq
  rw [hparse, Except.ok.injEq] at hquery
  subst hquery
  have hblocked : ¬Executable { skip := some 1 } := fun hquery => by
    have hlimited := hquery.limited rfl
    simp at hlimited
  exact ⟨hq, (halone .mysql).mpr ⟨rfl, rfl⟩, by decide +kernel, mt hrun.mp hblocked⟩

end Entity
end Sql
end RowQuery
