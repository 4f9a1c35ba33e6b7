import RowQuery.Proofs.Memory.Paged
import RowQuery.Proofs.Query.Reference
import RowQuery.Proofs.Sql.Database
import RowQuery.Proofs.Sql.Narrowed

/-!
# A query on top of a page of a table

In a statement as in memory, the limit and the offset of a query take the place of those before. A
database may arrange rows anew as soon as there is one more key, so a query stays on a page for sure
only without keys.
-/
namespace RowQuery

namespace Sql

namespace Select

variable {φ : Type}

def window (s : Select φ) : Page := ⟨s.limit, s.offset⟩

theorem page_eq_cut (s : Select φ) (rows : List Record) : s.page rows = s.window.cut rows := by
  rw [page, Page.cut]
  rfl

/-- A query that adds nothing to the rows of the page that it is put on. -/
def KeepsToPage (s : Select φ) (query : Query) : Prop :=
  (∀ position, s.window.Covers position) ∨
  (∀ position, ¬(s.window.narrowed query).Covers position) ∨
  (s.window.narrowed query).Within s.window ∧ query.orderBy.getD [] = []

variable [RowFilter φ] {db : Database} {table : List Record}

theorem found_subperm_matching (s : Select φ)
    (hdb : ∀ keys rows, (db.arrange keys rows).Perm rows) :
    (s.found db table).Subperm (s.matching table) := by
  rw [found, page_eq_cut]
  exact (Page.cut_sublist _ _).subperm.trans (hdb _ _).subperm

theorem mem_of_mem_found {s : Select φ} (hdb : ∀ keys rows, (db.arrange keys rows).Perm rows)
    {r : Record} (h : r ∈ s.found db table) : r ∈ table :=
  List.mem_of_mem_filter ((s.found_subperm_matching hdb).subset h)

end Select

namespace EntityQuery

variable {φ : Type} [RowFilter φ] {db : Database} {table : List Record}

theorem found_narrowed (q : EntityQuery φ) (query : Query) :
    (q.narrowed query).select.found db table = (q.select.window.narrowed query).cut
      (db.arrange (q.select.order ++ query.orderBy.getD []) (q.select.matching table)) := by
  rw [Select.found, Select.page_eq_cut]
  rfl

theorem found_narrowed_subperm {q : EntityQuery φ} {query : Query}
    (hdb : ∀ keys rows, (db.arrange keys rows).Perm rows) (h : q.select.KeepsToPage query) :
    ((q.narrowed query).select.found db table).Subperm (q.select.found db table) := by
  rw [found_narrowed, Select.found, Select.page_eq_cut]
  refine Page.cut_subperm_cut (hdb _ _) (hdb _ _) ?_
  rcases h with hall | hnone | ⟨hwithin, hkeys⟩
  · exact .inl hall
  · exact .inr (.inl hnone)
  · exact .inr (.inr ⟨hwithin, by rw [hkeys, List.append_nil]⟩)

end EntityQuery
end Sql

open Applier (fieldsOf)

theorem MemoryQuery.exists_result_of_leaves {a : Applier} {query : Query} {q : MemoryQuery}
    (hvalid : (a.validate query q).result = .ok ()) (h : q.Leaves query (fieldsOf query)) :
    ∃ source r, (a.apply query { q with source }).result = .ok r ∧
      ∃ shown ∈ r.behind, ∃ page ∈ { q with source }.behind, ∃ row ∈ shown, row ∉ page := by
  obtain ⟨source, hfields, hrow⟩ := h
  have hknown : ∀ field ∈ fieldsOf query,
      Target.hasField { q with source } field = Target.hasField q field := by
    intro field hfield
    rw [Applier.known_of_validate hvalid field hfield]
    have hany : source.any (fun row => row.hasField field) :=
      List.any_eq_true.mpr (hfields field hfield)
    change (source.isEmpty || source.any fun row => row.hasField field) = true
    rw [hany, Bool.or_true]
  have hvalid' : (a.validate query { q with source }).result = .ok () := by
    rw [Applier.validate_congr_of_fieldsOf hknown, hvalid]
  refine ⟨source, { q with source }.narrowed query, ?_, hrow⟩
  rw [result_apply, hvalid']
  rfl

/-- What a query shows comes from the source, and from the page that it is put on if it keeps to
that page. In memory there are rows, for any query that does not, on which it is accepted and shows
a row that the page has not got. -/
theorem apply_keeps_to_page :
    (∀ (a : Applier) (query : Query) (q r : MemoryQuery), (a.apply query q).result = .ok r →
      (∀ shown ∈ r.behind, shown.Subperm q.source ∧
        (q.KeepsToPage query → ∀ page ∈ q.behind, shown.Subperm page)) ∧
      (¬q.KeepsToPage query → ∃ source r', (a.apply query { q with source }).result = .ok r' ∧
        ∃ shown ∈ r'.behind, ∃ page ∈ { q with source }.behind, ∃ row ∈ shown, row ∉ page)) ∧
    ∀ (φ : Type) [Sql.RowFilter φ] (e : Sql.Entity) (base : Sql.Select φ) (limits : Limits)
      (url : String) (q : Sql.EntityQuery φ) (db : Sql.Database) (table : List Sql.Record),
      (∀ keys rows, (db.arrange keys rows).Perm rows) →
      (e.adaptSelect base limits url).result = .ok q →
      ∃ query, (Query.parseUrl limits url).result = .ok query ∧
        (q.select.found db table).Subperm (base.matching table) ∧
        (base.KeepsToPage query → (q.select.found db table).Subperm (base.found db table)) := by
  constructor
  · intro a query q r h
    rw [MemoryQuery.result_apply, bind_eq_ok_iff] at h
    obtain ⟨u, hvalid, hr⟩ := h
    rw [mapError_eq_ok_iff] at hvalid
    rw [Except.ok.injEq] at hr
    subst hr
    refine ⟨fun shown hshown => ⟨?_, ?_⟩, fun hleaves => ?_⟩
    · exact MemoryQuery.behind_subperm_source (q := q.narrowed query) hshown
    · exact fun hkeeps _ hpage => MemoryQuery.behind_narrowed_subperm hkeeps hshown hpage
    · exact MemoryQuery.exists_result_of_leaves hvalid
        (MemoryQuery.leaves_of_not_keepsToPage hleaves (fieldsOf query))
  · intro φ _ e base limits url q db table hdb h
    obtain ⟨query, hparse, -, rfl⟩ := Sql.Entity.adaptSelect_eq_ok_iff.mp h
    exact ⟨query, hparse, ((e.target base).narrowed query).select.found_subperm_matching hdb,
      Sql.EntityQuery.found_narrowed_subperm (q := e.target base) hdb⟩

/-- One row of a page of two, the lower one this time. -/
theorem apply_keeps_to_page_shorter :
    let row := fun n : UInt64 => ([("id", Json.ofUInt64 n)] : Row)
    let q : MemoryQuery :=
      { source := [row 1, row 2, row 3], limit := some 2, order := [⟨"id", .descending⟩] }
    let query : Query := { top := some 1, orderBy := some [⟨"id", .ascending⟩] }
    let e : Sql.Entity := { table := "book", columns := [⟨"id", .integer⟩] }
    let base : Sql.Select := { e.find with limit := some 2, order := [⟨"id", .descending⟩] }
    let table : List Sql.Record :=
      [[("id", .integer 1)], [("id", .integer 2)], [("id", .integer 3)]]
    let s : Sql.EntityQuery := (e.target base).narrowed { top := some 1 }
    (q.narrowed query).behind = some [row 3] ∧ q.behind = some [row 3, row 2] ∧
      [row 3].Subperm [row 3, row 2] ∧
      (s.select.found .stable table).Subperm (base.found .stable table) := by
  intro row q query e base table s
  let a : Applier := { policy := .allVisible, recordType := "book" }
  have hr : (a.apply query q).result = .ok (q.narrowed query) := rfl
  have hwithin : (⟨some 1, none⟩ : Page).Within ⟨some 2, none⟩ := by
    rintro position ⟨hstart, hend⟩
    have hfirst : position < 0 + (1 : UInt64).toNat := hend 1 rfl
    refine ⟨hstart, fun count hcount => ?_⟩
    obtain rfl := Option.some.inj hcount
    exact Nat.lt_trans hfirst (by decide)
  have hknows : q.order.Knows (query.orderBy.getD []) := by simp [SortOrder.Knows, q, query]
  have hurl : Query.urlQuery "?$top=1" = .ok "$top=1" := by rfl
  have hparse : (Query.parseUrl {} "?$top=1").result = .ok { top := some 1 } := by
    rw [Query.parseUrl_of_urlQuery hurl]
    rfl
  have hs : (e.adaptSelect base {} "?$top=1").result = .ok s :=
    Sql.Entity.adaptSelect_eq_ok_iff.mpr ⟨_, hparse, rfl, rfl⟩
  obtain ⟨parsed, hparsed, -, hfound⟩ := apply_keeps_to_page.2 _ e base {} _ s .stable table
    Sql.Database.lawful_stable.perm hs
  rw [hparse, Except.ok.injEq] at hparsed
  subst hparsed
  have hshown : (q.narrowed query).behind = some [row 3] := rfl
  have hpage : q.behind = some [row 3, row 2] := rfl
  have hkeeps := ((apply_keeps_to_page.1 a query q _ hr).1 _ hshown).2
  exact ⟨hshown, hpage, hkeeps (.inr (.inr ⟨hwithin, hknows⟩)) _ hpage,
    hfound (.inr (.inr ⟨hwithin, rfl⟩))⟩

/-- A page of two books, and a URL that asks for three. -/
theorem found_past_limit :
    let e : Sql.Entity := { table := "book", columns := [⟨"id", .integer⟩] }
    let base : Sql.Select :=
      { e.find with
        filter := [⟨"id", .greater, 1⟩]
        order := [⟨"id", .ascending⟩]
        limit := some 2
        offset := some 0 }
    let table : List Sql.Record :=
      [[("id", .integer 1)], [("id", .integer 2)], [("id", .integer 3)], [("id", .integer 4)]]
    let q : Sql.EntityQuery := (e.target base).narrowed { top := some 3 }
    (e.adaptSelect base {} "?$top=3").result = .ok q ∧
      ¬(q.select.found .stable table).Subperm (base.found .stable table) := by
  intro e base table q
  have hurl : Query.urlQuery "?$top=3" = .ok "$top=3" := by rfl
  have hparse : (Query.parseUrl {} "?$top=3").result = .ok { top := some 3 } := by
    rw [Query.parseUrl_of_urlQuery hurl]
    rfl
  have hthree : (q.select.found .stable table).length = 3 := by decide +kernel
  have htwo : (base.found .stable table).length = 2 := by decide +kernel
  refine ⟨Sql.Entity.adaptSelect_eq_ok_iff.mpr ⟨_, hparse, rfl, rfl⟩, fun h => ?_⟩
  have hle := h.length_le
  rw [hthree, htwo] at hle
  omega

end RowQuery
