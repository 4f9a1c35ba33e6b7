import RowQuery.Proofs.Memory.Narrowed
import RowQuery.Proofs.Sql.Narrowed

/-!
# Validation as a dry run

Validation asks a target about fields, and applying a query puts changes to it, each to the target
that the changes before it have left. A target can refuse a change whatever it said about the
fields. Rows in memory refuse nothing; a statement refuses fields that are no columns, and its
columns stay what they are under every change. So on both a query is applied in full if it passes
validation, and otherwise it fails with the error of the validation and with no other.
-/
namespace RowQuery.Applier

variable {σ : Type} [Target σ]

/-- Validation tells beforehand how applying a query to a target ends. A valid query has each of its
changes put to the target, which refuses none of them. -/
structure DryRun (a : Applier) (query : Query) (s : σ) : Prop where
  ok_iff : (∃ next, (a.apply query s).result = .ok next) ↔ (a.validate query s).result = .ok ()
  error_iff : ∀ e, (a.apply query s).result = .error e ↔
    ∃ fault, (a.validate query s).result = .error fault ∧ e = .validation fault
  calls : (a.validate query s).result = .ok () →
    (a.recorded query s).calls = (requested query).map .taken

variable {a : Applier} {query : Query} {s : σ}

theorem calls_recorded_of_ok {next : σ} (hvalid : (a.validate query s).result = .ok ())
    (h : (a.apply query s).result = .ok next) :
    (a.recorded query s).calls = (requested query).map .taken := by
  rw [result_apply, hvalid] at h
  rw [recorded_eq, hvalid]
  exact calls_of_ok h

theorem dryRun_of_result_apply {next : σ} (h : (a.apply query s).result =
      (a.validate query s).result.mapError .validation >>= fun _ => .ok next) :
    DryRun a query s := by
  cases hvalid : (a.validate query s).result with
  | ok u =>
    rw [hvalid, mapError_ok, ok_bind] at h
    exact ⟨by simp [h, hvalid], by simp [h, hvalid], fun _ => calls_recorded_of_ok hvalid h⟩
  | error fault =>
    have hfails : (a.apply query s).result = .error (.validation fault) := by
      rw [h, hvalid]
      rfl
    exact ⟨by simp [hfails, hvalid], by simp [hfails, hvalid, eq_comm], by simp [hvalid]⟩

/-- On rows in memory, in any state, and on every statement, applying a query ends as its validation
does. -/
theorem dryRun_validate (a : Applier) (query : Query) :
    (∀ q : MemoryQuery, DryRun a query q) ∧
      ∀ (φ : Type) (q : Sql.EntityQuery φ), DryRun a query q :=
  ⟨fun q => dryRun_of_result_apply (MemoryQuery.result_apply a query q),
    fun _ q => dryRun_of_result_apply (Sql.EntityQuery.result_apply a query q)⟩

end RowQuery.Applier
