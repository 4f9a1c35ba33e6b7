import Mathlib.Data.List.Forall2
import RowQuery.Event

/-!
# Results of a run

A sequence of steps ends at its first error. These equations take such a sequence apart, for results
without a reason, for plain results and for what attempts come to.
-/
namespace RowQuery

section List

variable {α β : Type}

theorem exists_forall₂_iff {R : α → β → Prop} {s : List α} :
    (∃ t, List.Forall₂ R s t) ↔ ∀ a ∈ s, ∃ b, R a b := by
  induction s with
  | nil => simp
  | cons a s ih =>
    rw [List.forall_mem_cons, ← ih]
    constructor
    · rintro ⟨t, h⟩
      obtain ⟨b, rest, hb, hrest, -⟩ := List.forall₂_cons_left_iff.mp h
      exact ⟨⟨b, hb⟩, rest, hrest⟩
    · rintro ⟨⟨b, hb⟩, rest, hrest⟩
      exact ⟨b :: rest, .cons hb hrest⟩

/-- The first element with `q` behind elements with `p` alone. -/
def FirstAfter (p q : α → Prop) (s : List α) : Prop :=
  ∃ before a after, s = before ++ a :: after ∧ (∀ b ∈ before, p b) ∧ q a

theorem not_firstAfter_nil {p q : α → Prop} : ¬FirstAfter p q [] := by
  rintro ⟨before, a, after, h, -⟩
  simp at h

theorem firstAfter_cons_iff {p q : α → Prop} {first : α} {rest : List α} :
    FirstAfter p q (first :: rest) ↔ q first ∨ p first ∧ FirstAfter p q rest := by
  constructor
  · rintro ⟨before, a, after, h, hbefore, ha⟩
    cases before with
    | nil =>
      cases h
      exact .inl ha
    | cons b before =>
      cases h
      obtain ⟨hb, hbefore⟩ := List.forall_mem_cons.mp hbefore
      exact .inr ⟨hb, before, a, after, rfl, hbefore, ha⟩
  · rintro (hfirst | ⟨hfirst, before, a, after, rfl, hbefore, ha⟩)
    · exact ⟨[], first, rest, rfl, by simp, hfirst⟩
    · exact ⟨first :: before, a, after, rfl, List.forall_mem_cons.mpr ⟨hfirst, hbefore⟩, ha⟩

end List

section Option

variable {α β : Type}

theorem mapM_eq_some_iff {f : α → Option β} {s : List α} {t : List β} :
    s.mapM f = some t ↔ List.Forall₂ (fun a b => f a = some b) s t := by
  induction s generalizing t with
  | nil =>
    rw [List.mapM_nil, List.forall₂_nil_left_iff]
    exact Option.some.injEq [] t ▸ eq_comm
  | cons a s ih =>
    rw [List.mapM_cons, List.forall₂_cons_left_iff]
    constructor
    · intro h
      obtain ⟨b, hb, h⟩ := Option.bind_eq_some_iff.mp h
      obtain ⟨rest, hrest, h⟩ := Option.bind_eq_some_iff.mp h
      exact ⟨b, rest, hb, ih.mp hrest, (Option.some.inj h).symm⟩
    · rintro ⟨b, rest, hb, hrest, rfl⟩
      exact Option.bind_eq_some_iff.mpr
        ⟨b, hb, Option.bind_eq_some_iff.mpr ⟨rest, ih.mpr hrest, rfl⟩⟩

theorem isSome_mapM_iff {f : α → Option β} {s : List α} :
    (s.mapM f).isSome ↔ ∀ a ∈ s, (f a).isSome := by
  simp only [Option.isSome_iff_exists, mapM_eq_some_iff]
  exact exists_forall₂_iff

end Option

section Except

variable {ε δ α β : Type}

@[simp] theorem ok_bind (a : α) (f : α → Except ε β) : (Except.ok a >>= f) = f a := rfl

@[simp] theorem error_bind (e : ε) (f : α → Except ε β) :
    (Except.error e >>= f) = Except.error e := rfl

@[simp] theorem mapError_ok (f : ε → δ) (a : α) :
    (Except.ok a : Except ε α).mapError f = .ok a := rfl

theorem mapError_eq_ok_iff {f : ε → δ} {x : Except ε α} {a : α} :
    x.mapError f = .ok a ↔ x = .ok a := by
  cases x <;> simp [Except.mapError]

theorem bind_eq_ok_iff {x : Except ε α} {f : α → Except ε β} {b : β} :
    (x >>= f) = .ok b ↔ ∃ a, x = .ok a ∧ f a = .ok b := by
  cases x with
  | ok a => simp
  | error e => simp

theorem mapM_eq_ok_iff {f : α → Except ε β} {s : List α} {t : List β} :
    s.mapM f = .ok t ↔ List.Forall₂ (fun a b => f a = .ok b) s t := by
  induction s generalizing t with
  | nil =>
    rw [List.mapM_nil, List.forall₂_nil_left_iff]
    exact Except.ok.injEq [] t ▸ eq_comm
  | cons a s ih =>
    rw [List.mapM_cons, bind_eq_ok_iff, List.forall₂_cons_left_iff]
    constructor
    · rintro ⟨b, hb, hrest⟩
      obtain ⟨rest, hs, ht⟩ := bind_eq_ok_iff.mp hrest
      exact ⟨b, rest, hb, ih.mp hs, (Except.ok.inj ht).symm⟩
    · rintro ⟨b, rest, hb, hs, rfl⟩
      exact ⟨b, hb, bind_eq_ok_iff.mpr ⟨rest, ih.mpr hs, rfl⟩⟩

theorem exists_mapM_eq_ok_iff {f : α → Except ε β} {s : List α} :
    (∃ t, s.mapM f = .ok t) ↔ ∀ a ∈ s, ∃ b, f a = .ok b := by
  simp only [mapM_eq_ok_iff]
  exact exists_forall₂_iff

theorem mapM_eq_error_iff {f : α → Except ε β} {s : List α} {e : ε} :
    s.mapM f = .error e ↔ FirstAfter (fun a => ∃ b, f a = .ok b) (fun a => f a = .error e) s := by
  induction s with
  | nil => exact iff_of_false nofun not_firstAfter_nil
  | cons first s ih =>
    rw [List.mapM_cons, firstAfter_cons_iff, ← ih]
    cases hfirst : f first with
    | error e' => simp
    | ok b => cases s.mapM f <;> simp [pure, Except.pure]

theorem exists_mem_of_mapM_eq_error {f : α → Except ε β} {s : List α} {e : ε}
    (h : s.mapM f = .error e) : ∃ a ∈ s, f a = .error e := by
  obtain ⟨before, a, after, rfl, -, ha⟩ := mapM_eq_error_iff.mp h
  exact ⟨a, by simp, ha⟩

end Except

namespace Attempt

variable {ε δ α β : Type}

@[simp] theorem result_throw (e : ε) : (throw e : Attempt ε α).result = .error e := rfl

@[simp] theorem result_emit (e : Event) : (emit e : Attempt ε Unit).result = .ok () := rfl

@[simp] theorem result_ofExcept (x : Except ε α) : (ofExcept x).result = x := rfl

@[simp] theorem result_mapError (f : ε → δ) (x : Attempt ε α) :
    (x.mapError f).result = x.result.mapError f := rfl

@[simp] theorem within_self (x : Attempt ε α) : (x.within : ExceptT ε Logged α) = x := rfl

theorem result_bind (x : Attempt ε α) (f : α → Attempt ε β) :
    (x >>= f).result = x.result >>= fun a => (f a).result := by
  change Logged (Except ε α) at x
  cases x with
  | mk value events => cases value <;> rfl

@[simp] theorem events_emit (e : Event) : (emit e : Attempt ε Unit).events = [e] := rfl

@[simp] theorem events_mapError (f : ε → δ) (x : Attempt ε α) :
    (x.mapError f).events = x.events := rfl

theorem events_bind_of_ok {x : Attempt ε α} {a : α} (h : x.result = .ok a) (f : α → Attempt ε β) :
    (x >>= f).events = x.events ++ (f a).events := by
  change Logged (Except ε α) at x
  cases x with
  | mk value events =>
    cases h
    rfl

theorem events_bind_of_error {x : Attempt ε α} {e : ε} (h : x.result = .error e)
    (f : α → Attempt ε β) : (x >>= f).events = x.events := by
  change Logged (Except ε α) at x
  cases x with
  | mk value events =>
    cases h
    exact List.append_nil events

end Attempt
end RowQuery
