import RowQuery.Proofs.Apply.Calls

/-!
# Targets that take a valid query

Some targets take every change, and some take changes that are about fields they have. Either kind
says what one change makes of it, and what a whole query does. Keys are added one at a time, so the
two agree as soon as the changes before the order do.
-/
namespace RowQuery

open Applier (asked requested)

/-- What changes make of a target that takes them, one by one and all those of a query at once. -/
structure Narrowing (σ : Type) [Target σ] where
  takes : σ → Change → Prop
  withChange : σ → Change → σ
  withKeys : σ → SortOrder → σ
  narrowed : σ → Query → σ
  perform_eq : ∀ {t : σ} {change : Change}, takes t change →
    change.perform t = .ok (withChange t change)
  takes_withChange : ∀ {t : σ} {change other : Change}, takes t other →
    takes (withChange t change) other
  withKeys_nil : ∀ t : σ, withKeys t [] = t
  withKeys_cons : ∀ (t : σ) (key : OrderKey) (keys : SortOrder),
    withKeys t (key :: keys) = withKeys (withChange t (.order key)) keys
  narrowed_eq : ∀ (t : σ) (query : Query), narrowed t query =
    withKeys ((requested { query with orderBy := none }).foldl withChange t)
      (query.orderBy.getD [])

namespace Narrowing

variable {σ : Type} [Target σ] (n : Narrowing σ)

theorem outcome_asked {changes : List Change} {t : σ} (h : ∀ change ∈ changes, n.takes t change) :
    (asked changes t).outcome = .ok (changes.foldl n.withChange t) := by
  induction changes generalizing t with
  | nil => rfl
  | cons change rest ih =>
    have hchange := n.perform_eq (h change List.mem_cons_self)
    rw [Applier.asked_cons_of_ok hchange, List.foldl_cons]
    exact ih fun other hother => n.takes_withChange (h other (List.mem_cons_of_mem _ hother))

theorem foldl_order (keys : SortOrder) (t : σ) :
    (keys.map Change.order).foldl n.withChange t = n.withKeys t keys := by
  induction keys generalizing t with
  | nil => exact (n.withKeys_nil t).symm
  | cons key rest ih => rw [List.map_cons, List.foldl_cons, ih, n.withKeys_cons]

theorem foldl_requested (query : Query) (t : σ) :
    (requested query).foldl n.withChange t = n.narrowed t query := by
  have hrequested : requested query =
      requested { query with orderBy := none } ++ (query.orderBy.getD []).map .order := by
    simp [requested]
  rw [hrequested, List.foldl_append, foldl_order, n.narrowed_eq]

theorem result_apply (a : Applier) (query : Query) (t : σ)
    (h : (a.validate query t).result = .ok () → ∀ change ∈ requested query, n.takes t change) :
    (a.apply query t).result =
      (a.validate query t).result.mapError .validation >>= fun _ => .ok (n.narrowed t query) := by
  rw [Applier.result_apply]
  cases hvalid : (a.validate query t).result with
  | error e => rfl
  | ok u => rw [mapError_ok, ok_bind, n.outcome_asked (h hvalid), n.foldl_requested]

end Narrowing
end RowQuery
