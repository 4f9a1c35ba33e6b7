import Mathlib.Data.Int.Order.Basic
import RowQuery.Proofs.Memory.Integers

/-!
# When rows are in order

Two values always compare the same way round, and a value is like itself. Comparing is transitive
but for one case: integers are told apart exactly, and next to a binary number they count as
rounded, so a binary number can be like two integers that are not like each other. Such a blur
matters under a list of keys unless a later key puts the blurred row on the right side.
-/
namespace RowQuery

namespace Number

theorem position_int_mono {i j : Integer} (h : i.value ≤ j.value) :
    (int i).position ≤ (int j).position := by
  simp only [position]
  rcases lt_or_ge i.value 0 with hi | hi
  · rcases lt_or_ge j.value 0 with hj | hj
    · have hnear : Binary64.nearest j.value.natAbs ≤ Binary64.nearest i.value.natAbs :=
        Binary64.nearest_mono (by omega)
      simpa [hi, hj] using Binary64.position_anti_of_neg hnear
    · simpa [hi, hj.not_gt] using Int.le_of_lt (Binary64.position_neg_lt _ _)
  · have hj : 0 ≤ j.value := Int.le_trans hi h
    have hnear : Binary64.nearest i.value.natAbs ≤ Binary64.nearest j.value.natAbs :=
      Binary64.nearest_mono (by omega)
    simpa [hi.not_gt, hj.not_gt] using Binary64.position_mono_of_nonneg hnear

theorem compare_float_left (x : Binary64) (y : Number) :
    (float x).compare y = Ord.compare (float x).position y.position := rfl

theorem compare_float_right (x : Number) (y : Binary64) :
    x.compare (float y) = Ord.compare x.position (float y).position := by
  cases x <;> rfl

theorem compare_swap (x y : Number) : y.compare x = (x.compare y).swap := by
  cases x with
  | float x => rw [compare_float_left, compare_float_right, Std.OrientedOrd.eq_swap]
  | int i =>
    cases y with
    | float y => rw [compare_float_left, compare_float_right, Std.OrientedOrd.eq_swap]
    | int j => rw [compare_int, compare_int, Std.OrientedOrd.eq_swap]

theorem position_le_of_compare {x y : Number} (h : x.compare y ≠ .gt) :
    x.position ≤ y.position := by
  cases x with
  | float x => exact Int.not_lt.mp fun hlt => h (Int.compare_eq_gt.mpr hlt)
  | int i =>
    cases y with
    | float y => exact Int.not_lt.mp fun hlt => h (Int.compare_eq_gt.mpr hlt)
    | int j =>
      rw [compare_int] at h
      exact position_int_mono (Int.not_lt.mp fun hlt => h (Int.compare_eq_gt.mpr hlt))

/-- A binary number to which two different integers are rounded. -/
def Blurs : Number → Number → Number → Prop
  | float x, int i, int j => i.value ≠ j.value ∧
    (int i).position = (float x).position ∧ (int j).position = (float x).position
  | _, _, _ => False

instance : (f m n : Number) → Decidable (f.Blurs m n)
  | float _, int _, int _ => inferInstanceAs (Decidable (_ ∧ _ ∧ _))
  | int _, _, _ => .isFalse id
  | float _, float _, _ => .isFalse id
  | float _, int _, float _ => .isFalse id

theorem exists_of_blurs {f m n : Number} (h : f.Blurs m n) :
    ∃ x i j, f = float x ∧ m = int i ∧ n = int j ∧ i.value ≠ j.value ∧
      (int i).position = (float x).position ∧ (int j).position = (float x).position := by
  unfold Blurs at h
  split at h
  · exact ⟨_, _, _, rfl, rfl, rfl, h⟩
  · exact h.elim

theorem compare_of_blurs {f m n : Number} (h : f.Blurs m n) :
    f.compare m = .eq ∧ f.compare n = .eq ∧ m.compare n ≠ .eq := by
  obtain ⟨x, i, j, rfl, rfl, rfl, hne, hi, hj⟩ := exists_of_blurs h
  rw [compare_float_left, compare_float_left, compare_int, hi, hj]
  exact ⟨Int.compare_eq_eq.mpr rfl, Int.compare_eq_eq.mpr rfl,
    fun heq => hne (Int.compare_eq_eq.mp heq)⟩

theorem blurs_comm {f m n : Number} (h : f.Blurs m n) : f.Blurs n m := by
  obtain ⟨x, i, j, rfl, rfl, rfl, hne, hi, hj⟩ := exists_of_blurs h
  exact ⟨hne.symm, hj, hi⟩

theorem compare_trans_or_blurs {x y z : Number} (hxy : x.compare y ≠ .gt)
    (hyz : y.compare z ≠ .gt) : x.compare z ≠ .gt ∨ y.Blurs x z := by
  have hleft := position_le_of_compare hxy
  have hright := position_le_of_compare hyz
  have hpositions : Ord.compare x.position z.position ≠ .gt :=
    fun h => absurd (Int.compare_eq_gt.mp h) (by omega)
  cases x with
  | float x => exact .inl hpositions
  | int i =>
    cases z with
    | float z => exact .inl hpositions
    | int k =>
      rw [compare_int]
      rcases lt_or_ge k.value i.value with hlt | hle
      · -- The positions run in a circle and are all one.
        have hback := position_int_mono (Int.le_of_lt hlt)
        cases y with
        | float y => exact .inr ⟨Int.ne_of_gt hlt, by omega, by omega⟩
        | int j =>
          rw [compare_int] at hxy hyz
          have hij := Int.not_lt.mp fun h => hxy (Int.compare_eq_gt.mpr h)
          have hjk := Int.not_lt.mp fun h => hyz (Int.compare_eq_gt.mpr h)
          omega
      · exact .inl fun h => absurd (Int.compare_eq_gt.mp h) (by omega)

end Number

namespace Json

variable {x y z f m n : Json}

/-! ## Values of one type -/

theorem rank_eq_one (h : x.rank = 1) : ∃ b, x = bool b := by
  cases x with
  | bool b => exact ⟨b, rfl⟩
  | _ => cases h

theorem rank_eq_two (h : x.rank = 2) : ∃ n, x = number n := by
  cases x with
  | number n => exact ⟨n, rfl⟩
  | _ => cases h

theorem rank_eq_three (h : x.rank = 3) : ∃ s, x = string s := by
  cases x with
  | string s => exact ⟨s, rfl⟩
  | _ => cases h

theorem compare_of_rank_ne (h : x.rank ≠ y.rank) : x.compare y = Ord.compare x.rank y.rank := by
  cases x <;> cases y <;> first | rfl | exact absurd rfl h

theorem compare_of_rank_eq (h : y.rank = x.rank) (hx : x.rank = 0 ∨ x.rank = 4) :
    x.compare y = .eq := by
  rcases hx with hx | hx <;> cases x <;> cases hx <;> cases y <;> first | rfl | cases h

theorem compare_swap (x y : Json) : y.compare x = (x.compare y).swap := by
  by_cases h : y.rank = x.rank
  · cases x with
    | bool b =>
      obtain ⟨c, rfl⟩ := rank_eq_one h
      exact Std.OrientedOrd.eq_swap
    | number m =>
      obtain ⟨n, rfl⟩ := rank_eq_two h
      exact Number.compare_swap m n
    | string s =>
      obtain ⟨t, rfl⟩ := rank_eq_three h
      exact Std.OrientedOrd.eq_swap
    | null | array _ | object _ =>
      rw [compare_of_rank_eq h (by simp [rank]), compare_of_rank_eq h.symm (by rw [h]; simp [rank])]
      rfl
  · rw [compare_of_rank_ne h, compare_of_rank_ne (Ne.symm h), Std.OrientedOrd.eq_swap]

theorem rank_le_of_compare (h : x.compare y ≠ .gt) : x.rank ≤ y.rank := by
  by_cases hrank : x.rank = y.rank
  · exact Nat.le_of_eq hrank
  · rw [compare_of_rank_ne hrank] at h
    exact Nat.not_lt.mp fun hlt => h (Nat.compare_eq_gt.mpr hlt)

/-! ## Blurs -/

def Blurs : Json → Json → Json → Prop
  | number f, number m, number n => f.Blurs m n
  | _, _, _ => False

theorem exists_of_blurs (h : f.Blurs m n) :
    ∃ p q r, f = number p ∧ m = number q ∧ n = number r ∧ p.Blurs q r := by
  unfold Blurs at h
  split at h
  · exact ⟨_, _, _, rfl, rfl, rfl, h⟩
  · exact h.elim

theorem compare_of_blurs (h : f.Blurs m n) :
    f.compare m = .eq ∧ f.compare n = .eq ∧ m.compare n ≠ .eq := by
  obtain ⟨p, q, r, rfl, rfl, rfl, hblur⟩ := exists_of_blurs h
  exact Number.compare_of_blurs hblur

theorem blurs_comm (h : f.Blurs m n) : f.Blurs n m := by
  obtain ⟨p, q, r, rfl, rfl, rfl, hblur⟩ := exists_of_blurs h
  exact Number.blurs_comm hblur

theorem ord_compare_trans {α : Type} [Ord α] [Std.TransOrd α] {x y z : α}
    (hxy : Ord.compare x y ≠ .gt) (hyz : Ord.compare y z ≠ .gt) : Ord.compare x z ≠ .gt := by
  rw [ne_eq, ← Ordering.isLE_iff_ne_gt] at hxy hyz ⊢
  exact Std.TransOrd.isLE_trans hxy hyz

theorem compare_trans_or_blurs (hxy : x.compare y ≠ .gt) (hyz : y.compare z ≠ .gt) :
    x.compare z ≠ .gt ∨ y.Blurs x z := by
  have hleft := rank_le_of_compare hxy
  have hright := rank_le_of_compare hyz
  by_cases hz : z.rank = x.rank
  · have hy : y.rank = x.rank := by omega
    cases x with
    | bool b =>
      obtain ⟨c, rfl⟩ := rank_eq_one hy
      obtain ⟨d, rfl⟩ := rank_eq_one hz
      exact .inl (ord_compare_trans hxy hyz)
    | number m =>
      obtain ⟨n, rfl⟩ := rank_eq_two hy
      obtain ⟨p, rfl⟩ := rank_eq_two hz
      exact Number.compare_trans_or_blurs hxy hyz
    | string s =>
      obtain ⟨t, rfl⟩ := rank_eq_three hy
      obtain ⟨u, rfl⟩ := rank_eq_three hz
      exact .inl (ord_compare_trans hxy hyz)
    | null | array _ | object _ =>
      rw [compare_of_rank_eq hz (by simp [rank])]
      exact .inl (by decide)
  · have hlt : x.rank < z.rank := by omega
    rw [compare_of_rank_ne (Ne.symm hz), Nat.compare_eq_lt.mpr hlt]
    exact .inl (by decide)

end Json
end RowQuery
