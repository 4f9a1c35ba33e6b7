import Mathlib.Data.List.Perm.Subperm
import RowQuery.Query.Basic

/-!
# Pages

A limit and an offset cover a run of positions, and the page of some rows has the rows at the
positions that are covered. A page within another has some of its rows, if both cut the same rows.
-/
namespace RowQuery

structure Page where
  limit : Option UInt64
  offset : Option UInt64
deriving DecidableEq, Repr

namespace Page

variable {α : Type} {p q : Page} {rows : List α}

def start (p : Page) : Nat := p.offset.elim 0 UInt64.toNat

def cut (p : Page) (rows : List α) : List α :=
  match p.limit with
  | some count => (rows.drop p.start).take count.toNat
  | none => rows.drop p.start

def Covers (p : Page) (position : Nat) : Prop :=
  p.start ≤ position ∧ ∀ count ∈ p.limit, position < p.start + count.toNat

def Within (p q : Page) : Prop := ∀ position, p.Covers position → q.Covers position

def narrowed (p : Page) (query : Query) : Page where
  limit := query.top <|> p.limit
  offset := query.skip <|> p.offset

theorem mem_cut_iff {row : α} :
    row ∈ p.cut rows ↔ ∃ position, p.Covers position ∧ rows[position]? = some row := by
  cases hlimit : p.limit with
  | none =>
    simp only [cut, Covers, hlimit, List.mem_iff_getElem?, List.getElem?_drop]
    constructor
    · rintro ⟨i, hi⟩
      exact ⟨p.start + i, ⟨by omega, by simp⟩, hi⟩
    · rintro ⟨i, ⟨hstart, -⟩, hi⟩
      exact ⟨i - p.start, by rwa [Nat.add_sub_cancel' hstart]⟩
  | some count =>
    simp only [cut, Covers, hlimit, List.mem_iff_getElem?, List.getElem?_take, List.getElem?_drop,
      Option.mem_some_iff, forall_eq']
    constructor
    · rintro ⟨i, hi⟩
      split at hi
      · exact ⟨p.start + i, ⟨by omega, by omega⟩, hi⟩
      · cases hi
    · rintro ⟨i, ⟨hstart, hend⟩, hi⟩
      refine ⟨i - p.start, ?_⟩
      rwa [if_pos (by omega), Nat.add_sub_cancel' hstart]

section Blocks

variable {a b : α} {m k : Nat}

theorem getElem?_blocks (m k : Nat) (a b : α) (position : Nat) :
    (List.replicate m a ++ List.replicate k b)[position]? =
      if position < m then some a else if position < m + k then some b else none := by
  rw [List.getElem?_append, List.length_replicate, List.getElem?_replicate,
    List.getElem?_replicate]
  by_cases hfirst : position < m
  · rw [if_pos hfirst, if_pos hfirst, if_pos hfirst]
  · have hsecond : position - m < k ↔ position < m + k := by omega
    simp only [if_neg hfirst, hsecond]

theorem mem_cut_left_iff (h : a ≠ b) :
    a ∈ p.cut (List.replicate m a ++ List.replicate k b) ↔
      ∃ position, p.Covers position ∧ position < m := by
  have hat : ∀ position, (List.replicate m a ++ List.replicate k b)[position]? = some a ↔
      position < m := by
    intro position
    rw [getElem?_blocks]
    by_cases hfirst : position < m <;> simp [hfirst, h.symm]
  simp only [mem_cut_iff, hat]

theorem mem_cut_right_iff (h : a ≠ b) :
    b ∈ p.cut (List.replicate m a ++ List.replicate k b) ↔
      ∃ position, p.Covers position ∧ m ≤ position ∧ position < m + k := by
  have hat : ∀ position, (List.replicate m a ++ List.replicate k b)[position]? = some b ↔
      m ≤ position ∧ position < m + k := by
    intro position
    rw [getElem?_blocks]
    by_cases hfirst : position < m
    · simp [hfirst, h, Nat.not_le.mpr hfirst]
    · simp [hfirst, Nat.not_lt.mp hfirst]
  simp only [mem_cut_iff, hat]

end Blocks

theorem map_cut {β : Type} (p : Page) (f : α → β) (rows : List α) :
    (p.cut rows).map f = p.cut (rows.map f) := by
  rw [cut, cut]
  split
  · rw [List.map_take, List.map_drop]
  · rw [List.map_drop]

theorem cut_sublist (p : Page) (rows : List α) : (p.cut rows).Sublist rows := by
  rw [cut]
  split
  · exact (List.take_sublist _ _).trans (List.drop_sublist _ _)
  · exact List.drop_sublist _ _

theorem cut_eq_self (h : ∀ position, p.Covers position) : p.cut rows = rows := by
  have hstart : p.start = 0 := Nat.le_zero.mp (h 0).1
  cases hlimit : p.limit with
  | none => simp only [cut, hlimit, hstart, List.drop_zero]
  | some count =>
    have hend := (h (p.start + count.toNat)).2 count hlimit
    omega

theorem cut_eq_nil (h : ∀ position, ¬p.Covers position) : p.cut rows = [] := by
  rw [List.eq_nil_iff_forall_not_mem]
  intro row hrow
  obtain ⟨position, hcovers, -⟩ := mem_cut_iff.mp hrow
  exact h position hcovers

theorem covers_start {position : Nat} (h : p.Covers position) : p.Covers p.start := by
  refine ⟨Nat.le_refl _, fun count hcount => ?_⟩
  have hend := h.2 count hcount
  have hstart := h.1
  omega

theorem limit_of_within {count : UInt64} (h : p.Within q) (hlimit : q.limit = some count)
    {position : Nat} (hcovers : p.Covers position) :
    ∃ n, p.limit = some n ∧ p.start + n.toNat ≤ q.start + count.toNat := by
  have hend : ∀ i, p.Covers i → i < q.start + count.toNat := fun i hi => (h i hi).2 count hlimit
  have hstart : q.start ≤ p.start := (h p.start (covers_start hcovers)).1
  cases hp : p.limit with
  | none =>
    -- An open page would reach past the end of the other.
    have hpast := hend (p.start + count.toNat) ⟨by omega, by simp [hp]⟩
    omega
  | some n =>
    have hfirst := hcovers.1
    have hpositive := hcovers.2 n hp
    have hlast : p.Covers (p.start + n.toNat - 1) := by
      refine ⟨by omega, fun m hm => ?_⟩
      obtain rfl : n = m := Option.some.inj (hp.symm.trans hm)
      omega
    have hlast := hend _ hlast
    exact ⟨n, rfl, by omega⟩

theorem cut_sublist_cut (h : p.Within q) (rows : List α) :
    (p.cut rows).Sublist (q.cut rows) := by
  by_cases hnone : ∃ position, p.Covers position
  · obtain ⟨position, hcovers⟩ := hnone
    have hstart : q.start ≤ p.start := (h p.start (covers_start hcovers)).1
    have hdrop : rows.drop p.start = (rows.drop q.start).drop (p.start - q.start) := by
      rw [List.drop_drop, Nat.add_sub_cancel' hstart]
    cases hlimit : q.limit with
    | none =>
      have hq : q.cut rows = rows.drop q.start := by rw [cut, hlimit]
      rw [hq, cut, hdrop]
      split
      · exact (List.take_sublist _ _).trans (List.drop_sublist _ _)
      · exact List.drop_sublist _ _
    | some count =>
      obtain ⟨n, hp, hend⟩ := limit_of_within h hlimit hcovers
      simp only [cut, hlimit, hp, hdrop]
      rw [List.take_drop]
      exact (List.drop_sublist _ _).trans (List.take_sublist_take_left (by omega))
  · rw [cut_eq_nil (not_exists.mp hnone)]
    exact List.nil_sublist _

theorem cut_subperm_cut {arranged before : List α} (harranged : arranged.Perm rows)
    (hbefore : before.Perm rows)
    (h : (∀ position, q.Covers position) ∨ (∀ position, ¬p.Covers position) ∨
      p.Within q ∧ arranged = before) :
    (p.cut arranged).Subperm (q.cut before) := by
  rcases h with hall | hnone | ⟨hwithin, rfl⟩
  · rw [cut_eq_self hall]
    exact (cut_sublist p arranged).subperm.trans (harranged.trans hbefore.symm).subperm
  · rw [cut_eq_nil hnone]
    exact List.nil_subperm
  · exact (cut_sublist_cut hwithin arranged).subperm

end Page
end RowQuery
