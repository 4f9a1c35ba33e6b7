import RowQuery.Proofs.Apply.Narrowing
import RowQuery.Proofs.Apply.Validate
import RowQuery.Sql.Adapt

/-!
# A valid query applied to a statement

A statement takes a change if the fields that the change names are columns of the entity. Validation
sees to that, and no change touches the entity. So a valid query replaces the columns, the limit and
the offset where it has its own, puts its keys behind those that are there, and leaves the filter.
-/
namespace RowQuery

def Change.named : Change → List String
  | .restrict fields => fields
  | .limit _ => []
  | .offset _ => []
  | .order key => [key.field]

namespace Sql

variable {φ : Type}

theorem Entity.column?_of_mem {e : Entity} {field : String} (h : field ∈ e.columnNames) :
    e.column? field = some field := by
  rw [Entity.column?]
  cases hfind : e.columnNames.find? (· == field) with
  | none =>
    rw [List.find?_eq_none] at hfind
    exact absurd (beq_self_eq_true field) (hfind field h)
  | some column =>
    have hcolumn := List.find?_some hfind
    rw [beq_iff_eq] at hcolumn
    rw [hcolumn]

namespace EntityQuery

open Applier (requested fieldsOf)

variable {q : EntityQuery φ}

theorem hasField_iff {field : String} :
    Target.hasField q field = true ↔ field ∈ q.entity.columnNames := by
  change (q.entity.column? field).isSome ↔ _
  simp [Entity.column?]

theorem resolve_of_mem {field : String} (h : field ∈ q.entity.columnNames) (option : String) :
    q.resolve option field = .ok field := by
  rw [resolve, Entity.column?_of_mem h]

theorem mapM_resolve {fields : List String} (h : ∀ field ∈ fields, field ∈ q.entity.columnNames)
    (option : String) : fields.mapM (q.resolve option) = .ok fields := by
  rw [mapM_eq_ok_iff, List.forall₂_same]
  intro field hfield
  exact resolve_of_mem (h field hfield) option

def withChange (q : EntityQuery φ) : Change → EntityQuery φ
  | .restrict columns => { q with select := { q.select with columns } }
  | .limit count => { q with select := { q.select with limit := some count } }
  | .offset count => { q with select := { q.select with offset := some count } }
  | .order key => { q with select := { q.select with order := q.select.order ++ [key] } }

@[simp] theorem entity_withChange (q : EntityQuery φ) (change : Change) :
    (q.withChange change).entity = q.entity := by
  cases change <;> rfl

theorem perform_of_named {change : Change}
    (h : ∀ field ∈ change.named, field ∈ q.entity.columnNames) :
    change.perform q = .ok (q.withChange change) := by
  cases change with
  | restrict fields =>
    have hfields : ∀ field ∈ fields, field ∈ q.entity.columnNames := h
    simp only [Change.perform, Target.restrictFields, mapM_resolve hfields, ok_bind]
    rfl
  | limit count => rfl
  | offset count => rfl
  | order key =>
    have hkey : key.field ∈ q.entity.columnNames := h key.field (List.mem_singleton_self _)
    simp only [Change.perform, Target.addOrdering, resolve_of_mem hkey, ok_bind]
    rfl

def narrowed (q : EntityQuery φ) (query : Query) : EntityQuery φ where
  entity := q.entity
  hidden := q.hidden
  select :=
    { columns := query.select.getD q.select.columns
      filter := q.select.filter
      order := q.select.order ++ query.orderBy.getD []
      limit := query.top <|> q.select.limit
      offset := query.skip <|> q.select.offset }

theorem named_requested {query : Query} {change : Change} {field : String}
    (hchange : change ∈ requested query) (hfield : field ∈ change.named) :
    field ∈ fieldsOf query := by
  simp only [requested, List.mem_append, Option.mem_toList, Option.map_eq_some_iff,
    List.mem_map] at hchange
  rcases hchange with ((⟨fields, hselect, rfl⟩ | ⟨count, -, rfl⟩) | ⟨count, -, rfl⟩) |
    ⟨key, hkey, rfl⟩
  · rw [fieldsOf, hselect]
    exact List.mem_append_left _ hfield
  · exact absurd hfield List.not_mem_nil
  · exact absurd hfield List.not_mem_nil
  · rw [Change.named, List.mem_singleton] at hfield
    rw [fieldsOf, hfield]
    exact List.mem_append_right _ (List.mem_map_of_mem hkey)

theorem columns_of_validate {a : Applier} {query : Query}
    (h : (a.validate query q).result = .ok ()) :
    ∀ field ∈ fieldsOf query, field ∈ q.entity.columnNames := by
  intro field hfield
  exact hasField_iff.mp (Applier.known_of_validate h field hfield)

def narrowing : Narrowing (EntityQuery φ) where
  takes q change := ∀ field ∈ change.named, field ∈ q.entity.columnNames
  withChange := withChange
  withKeys q keys := { q with select := { q.select with order := q.select.order ++ keys } }
  narrowed := narrowed
  perform_eq := perform_of_named
  takes_withChange h := by
    rw [entity_withChange]
    exact h
  withKeys_nil q := by simp
  withKeys_cons q key keys := by simp [withChange]
  narrowed_eq q query := by
    cases query with
    | mk select top skip orderBy => cases select <;> cases top <;> cases skip <;> rfl

theorem result_apply (a : Applier) (query : Query) (q : EntityQuery φ) :
    (a.apply query q).result =
      (a.validate query q).result.mapError .validation >>= fun _ => .ok (q.narrowed query) := by
  refine narrowing.result_apply a query q fun hvalid change hchange field hfield => ?_
  exact columns_of_validate hvalid field (named_requested hchange hfield)

end EntityQuery

namespace Entity

def target (e : Entity) (base : Select φ) : EntityQuery φ :=
  { entity := e, select := base, hidden := e.hidden }

theorem result_adaptSelect (e : Entity) (base : Select φ) (limits : Limits) (url : String) :
    (e.adaptSelect base limits url).result =
      (Query.parseUrl limits url).result.mapError .parse >>= fun query =>
        (e.applier.validate query (e.target base)).result.mapError .validation >>= fun _ =>
          .ok ((e.target base).narrowed query) := by
  rw [adaptSelect, Attempt.result_bind, Attempt.result_mapError]
  refine congrArg _ (funext fun query => ?_)
  rw [Attempt.result_bind, Attempt.result_emit, ok_bind]
  exact EntityQuery.result_apply e.applier query (e.target base)

theorem adaptSelect_eq_ok_iff {e : Entity} {base : Select φ} {limits : Limits} {url : String}
    {q : EntityQuery φ} :
    (e.adaptSelect base limits url).result = .ok q ↔
      ∃ query, (Query.parseUrl limits url).result = .ok query ∧
        (e.applier.validate query (e.target base)).result = .ok () ∧
        q = (e.target base).narrowed query := by
  rw [result_adaptSelect]
  cases hparse : (Query.parseUrl limits url).result with
  | error fault => simp [Except.mapError]
  | ok query =>
    rw [mapError_ok, ok_bind]
    cases hvalid : (e.applier.validate query (e.target base)).result with
    | error fault => simp [Except.mapError, hvalid]
    | ok u => simp [hvalid, eq_comm]

end Entity
end Sql
end RowQuery
