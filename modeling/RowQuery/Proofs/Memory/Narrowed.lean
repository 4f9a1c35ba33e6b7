import RowQuery.Memory.Basic
import RowQuery.Proofs.Apply.Narrowing

/-!
# A valid query applied to rows in memory

Rows in memory take every change. A valid query therefore replaces the projection, the limit and the
offset where it has one, and puts its order keys behind those that are there.
-/
namespace RowQuery.MemoryQuery

def withChange (q : MemoryQuery) : Change → MemoryQuery
  | .restrict fields => { q with select := some fields }
  | .limit count => { q with limit := some count }
  | .offset count => { q with offset := some count }
  | .order key => { q with order := q.order ++ [key] }

theorem perform_eq (change : Change) (q : MemoryQuery) :
    change.perform q = .ok (q.withChange change) := by
  cases change <;> rfl

def narrowed (q : MemoryQuery) (query : Query) : MemoryQuery where
  source := q.source
  select := query.select <|> q.select
  limit := query.top <|> q.limit
  offset := query.skip <|> q.offset
  order := q.order ++ query.orderBy.getD []

def narrowing : Narrowing MemoryQuery where
  takes _ _ := True
  withChange := withChange
  withKeys q keys := { q with order := q.order ++ keys }
  narrowed := narrowed
  perform_eq _ := perform_eq _ _
  takes_withChange _ := trivial
  withKeys_nil q := by simp
  withKeys_cons q key keys := by simp [withChange]
  narrowed_eq q query := by
    cases query with
    | mk select top skip orderBy => cases select <;> cases top <;> cases skip <;> rfl

theorem result_apply (a : Applier) (query : Query) (q : MemoryQuery) :
    (a.apply query q).result =
      (a.validate query q).result.mapError .validation >>= fun _ => .ok (q.narrowed query) :=
  narrowing.result_apply a query q fun _ _ _ => trivial

end RowQuery.MemoryQuery
