import RowQuery.Memory.Sort.Runs
import RowQuery.Proofs.Memory.Compare
import RowQuery.Proofs.Memory.Sort

/-!
# When a list of keys orders rows

A list of keys compares two rows alike from both sides. It is a total preorder on some rows exactly
if it tears none of them: no row is blurred with two others at the first key that tells those two
apart, while the later keys put it on the wrong side of them.
-/
namespace RowQuery

theorem Direction.swap_orient (d : Direction) (o : Ordering) :
    (d.orient o).swap = d.orient o.swap := by
  cases d <;> rfl

theorem Direction.orient_eq_eq_iff {d : Direction} {o : Ordering} : d.orient o = .eq ↔ o = .eq := by
  cases d <;> cases o <;> decide

theorem then_ne_gt_iff {o p : Ordering} : o.then p ≠ .gt ↔ o ≠ .gt ∧ (o = .eq → p ≠ .gt) := by
  cases o <;> cases p <;> decide

theorem eq_of_eq_swap {o : Ordering} (h : o = o.swap) : o = .eq := by
  cases o <;> first | rfl | cases h

theorem eq_of_ne_gt_of_swap {o : Ordering} (h : o ≠ .gt) (hswap : o.swap ≠ .gt) : o = .eq := by
  cases o with
  | lt => exact absurd rfl hswap
  | eq => rfl
  | gt => exact absurd rfl h

namespace OrderKey

/-- What a row has under a key, null if it has nothing. -/
def value (key : OrderKey) (row : Row) : Json := (row.get? key.field).getD .null

theorem compare_eq_orient (key : OrderKey) (a b : Row) :
    key.compare a b = key.direction.orient ((key.value a).compare (key.value b)) := rfl

variable {key : OrderKey} {a b c f m n : Row}

theorem compare_swap (key : OrderKey) (a b : Row) : key.compare b a = (key.compare a b).swap := by
  rw [compare_eq_orient, compare_eq_orient, Direction.swap_orient, Json.compare_swap]

theorem compare_self (key : OrderKey) (a : Row) : key.compare a a = .eq :=
  eq_of_eq_swap (key.compare_swap a a)

def Blurs (key : OrderKey) (f m n : Row) : Prop :=
  (key.value f).Blurs (key.value m) (key.value n)

theorem compare_of_blurs (h : key.Blurs f m n) :
    key.compare f m = .eq ∧ key.compare f n = .eq ∧ key.compare m n ≠ .eq := by
  simp only [compare_eq_orient, ne_eq, Direction.orient_eq_eq_iff]
  exact Json.compare_of_blurs h

theorem compare_trans_or_blurs (hab : key.compare a b ≠ .gt) (hbc : key.compare b c ≠ .gt) :
    key.compare a c ≠ .gt ∨ key.Blurs b a c := by
  rw [compare_eq_orient] at hab hbc ⊢
  cases hd : key.direction with
  | ascending =>
    rw [hd] at hab hbc
    exact Json.compare_trans_or_blurs hab hbc
  | descending =>
    -- Read from the right, the values ascend.
    simp only [hd, Direction.orient, ← Json.compare_swap] at hab hbc ⊢
    exact (Json.compare_trans_or_blurs hbc hab).imp id Json.blurs_comm

theorem lt_or_eq_or_blurs (hab : key.compare a b ≠ .gt) (hbc : key.compare b c ≠ .gt) :
    key.compare a c = .lt ∨
    (key.compare a b = .eq ∧ key.compare b c = .eq ∧ key.compare a c = .eq) ∨
    key.Blurs b a c ∨ key.Blurs c b a ∨ key.Blurs a c b := by
  rcases compare_trans_or_blurs hab hbc with hac | hblur
  · cases hkey : key.compare a c with
    | lt => exact .inl rfl
    | gt => exact absurd hkey hac
    | eq =>
      -- The chain closes to a circle, which can be read from each of the rows.
      have hca : key.compare c a ≠ .gt := by
        rw [key.compare_swap, hkey]
        decide
      rcases compare_trans_or_blurs hbc hca with hba | hblur
      · rcases compare_trans_or_blurs hca hab with hcb | hblur
        · have hab' : key.compare a b = .eq := by
            rw [key.compare_swap] at hba
            exact eq_of_ne_gt_of_swap hab hba
          have hbc' : key.compare b c = .eq := by
            rw [key.compare_swap] at hcb
            exact eq_of_ne_gt_of_swap hbc hcb
          exact .inr (.inl ⟨hab', hbc', rfl⟩)
        · exact .inr (.inr (.inr (.inr hblur)))
      · exact .inr (.inr (.inr (.inl hblur)))
  · exact .inr (.inr (.inl hblur))

end OrderKey

namespace SortOrder

variable {order : SortOrder} {rows : List Row} {a b c f m n : Row}

theorem compare_cons (key : OrderKey) (rest : SortOrder) (a b : Row) :
    SortOrder.compare (key :: rest) a b = (key.compare a b).then (SortOrder.compare rest a b) := rfl

theorem compare_swap (order : SortOrder) (a b : Row) :
    order.compare b a = (order.compare a b).swap := by
  induction order with
  | nil => rfl
  | cons key rest ih => rw [compare_cons, compare_cons, Ordering.swap_then, key.compare_swap a b, ih]

theorem compare_self (order : SortOrder) (a : Row) : order.compare a a = .eq :=
  eq_of_eq_swap (compare_swap order a a)

/-- The first row is like the second and like the third up to a key that tells these two apart and
blurs the first with both, and the later keys put it neither behind the second nor before the
third, although the second comes before the third. -/
def Torn : SortOrder → Row → Row → Row → Prop
  | [], _, _, _ => False
  | key :: rest, f, m, n =>
    (key.compare f m = .eq ∧ key.compare f n = .eq ∧ key.compare m n = .eq ∧ Torn rest f m n) ∨
    (key.Blurs f m n ∧ key.compare m n = .lt ∧
      SortOrder.compare rest f m ≠ .gt ∧ SortOrder.compare rest f n ≠ .lt)

theorem circle_of_torn (h : order.Torn f m n) :
    order.compare n f ≠ .gt ∧ order.compare f m ≠ .gt ∧ order.compare n m = .gt := by
  induction order with
  | nil => exact h.elim
  | cons key rest ih =>
    rw [compare_cons, compare_cons, compare_cons, key.compare_swap f n, key.compare_swap m n]
    rcases h with ⟨hfm, hfn, hmn, h⟩ | ⟨hblur, hmn, hm, hn⟩
    · rw [hfm, hfn, hmn]
      exact ih h
    · obtain ⟨hfm, hfn, -⟩ := OrderKey.compare_of_blurs hblur
      rw [hfm, hfn, hmn]
      refine ⟨?_, hm, rfl⟩
      intro hgt
      change SortOrder.compare rest n f = .gt at hgt
      rw [compare_swap rest f n, Ordering.swap_eq_gt] at hgt
      exact hn hgt

theorem trans_of_no_circle (hmn : order.compare m n = .lt)
    (hcircle : ¬(order.compare f m ≠ .gt ∧ order.compare f n ≠ .lt))
    (ha : a ∈ [f, m, n]) (hb : b ∈ [f, m, n]) (hc : c ∈ [f, m, n])
    (hab : order.compare a b ≠ .gt) (hbc : order.compare b c ≠ .gt) :
    order.compare a c ≠ .gt := by
  have hf := compare_self order f
  have hm := compare_self order m
  have hn := compare_self order n
  have hnm := compare_swap order m n
  have hmf := compare_swap order f m
  have hnf := compare_swap order f n
  simp only [List.mem_cons, List.not_mem_nil, or_false] at ha hb hc
  -- Of the comparisons only those of `f` with the two others are left open.
  rcases ha with rfl | rfl | rfl <;> rcases hb with rfl | rfl | rfl <;>
    rcases hc with rfl | rfl | rfl <;> grind [Ordering.swap]

theorem trans_of_blurs {key : OrderKey} {rest : SortOrder} (hblur : key.Blurs f m n)
    (hmn : ¬Torn (key :: rest) f m n) (hnm : ¬Torn (key :: rest) f n m)
    (ha : a ∈ [f, m, n]) (hb : b ∈ [f, m, n]) (hc : c ∈ [f, m, n])
    (hab : SortOrder.compare (key :: rest) a b ≠ .gt)
    (hbc : SortOrder.compare (key :: rest) b c ≠ .gt) :
    SortOrder.compare (key :: rest) a c ≠ .gt := by
  obtain ⟨hfm, hfn, hne⟩ := OrderKey.compare_of_blurs hblur
  have hm : SortOrder.compare (key :: rest) f m = SortOrder.compare rest f m := by
    rw [compare_cons, hfm, Ordering.eq_then]
  have hn : SortOrder.compare (key :: rest) f n = SortOrder.compare rest f n := by
    rw [compare_cons, hfn, Ordering.eq_then]
  cases hkey : key.compare m n with
  | eq => exact absurd hkey hne
  | lt =>
    have hlt : SortOrder.compare (key :: rest) m n = .lt := by rw [compare_cons, hkey]; rfl
    refine trans_of_no_circle hlt ?_ ha hb hc hab hbc
    rw [hm, hn]
    exact fun h => hmn (.inr ⟨hblur, hkey, h⟩)
  | gt =>
    have hkey' : key.compare n m = .lt := by rw [key.compare_swap, hkey]; rfl
    have hlt : SortOrder.compare (key :: rest) n m = .lt := by rw [compare_cons, hkey']; rfl
    have hother : ∀ {x : Row}, x ∈ [f, m, n] → x ∈ [f, n, m] := by simp [or_comm]
    refine trans_of_no_circle hlt ?_ (hother ha) (hother hb) (hother hc) hab hbc
    rw [hm, hn]
    exact fun h => hnm (.inr ⟨Json.blurs_comm hblur, hkey', h⟩)

theorem trans_of_not_torn (htorn : ∀ f ∈ rows, ∀ m ∈ rows, ∀ n ∈ rows, ¬order.Torn f m n)
    (ha : a ∈ rows) (hb : b ∈ rows) (hc : c ∈ rows)
    (hab : order.compare a b ≠ .gt) (hbc : order.compare b c ≠ .gt) :
    order.compare a c ≠ .gt := by
  induction order generalizing rows a b c with
  | nil => exact Ordering.noConfusion
  | cons key rest ih =>
    obtain ⟨hkab, hrab⟩ := then_ne_gt_iff.mp hab
    obtain ⟨hkbc, hrbc⟩ := then_ne_gt_iff.mp hbc
    rcases OrderKey.lt_or_eq_or_blurs hkab hkbc with hlt | halike | hblur | hblur | hblur
    · exact then_ne_gt_iff.mpr ⟨by simp [hlt], by simp [hlt]⟩
    · -- The later keys decide, and they tear none of the three rows.
      obtain ⟨hkab, hkbc, hkac⟩ := halike
      have halike : ∀ x ∈ [a, b, c], ∀ y ∈ [a, b, c], key.compare x y = .eq := by
        simp [key.compare_self, key.compare_swap a b, key.compare_swap b c, key.compare_swap a c,
          hkab, hkbc, hkac]
      have hsub : ∀ x ∈ [a, b, c], x ∈ rows := by simp [ha, hb, hc]
      have hrest : ∀ f ∈ [a, b, c], ∀ m ∈ [a, b, c], ∀ n ∈ [a, b, c], ¬Torn rest f m n :=
        fun f hf m hm n hn h => htorn f (hsub f hf) m (hsub m hm) n (hsub n hn)
          (.inl ⟨halike f hf m hm, halike f hf n hn, halike m hm n hn, h⟩)
      have hrac := ih hrest (by simp) (by simp) (by simp) (hrab hkab) (hrbc hkbc)
      exact then_ne_gt_iff.mpr ⟨by simp [hkac], fun _ => hrac⟩
    · exact trans_of_blurs hblur (htorn _ hb _ ha _ hc) (htorn _ hb _ hc _ ha)
        (by simp) (by simp) (by simp) hab hbc
    · exact trans_of_blurs hblur (htorn _ hc _ hb _ ha) (htorn _ hc _ ha _ hb)
        (by simp) (by simp) (by simp) hab hbc
    · exact trans_of_blurs hblur (htorn _ ha _ hc _ hb) (htorn _ ha _ hb _ hc)
        (by simp) (by simp) (by simp) hab hbc

/-- Comparing by a list of keys is reflexive and looks alike from both sides on all rows. It is a
total preorder on some rows exactly if it tears no three of them. -/
theorem preorderOn_iff_not_torn (order : SortOrder) :
    (∀ a b : Row, order.compare a a = .eq ∧ order.compare b a = (order.compare a b).swap) ∧
    ∀ rows : List Row, Sort.PreorderOn order.compare rows ↔
      ∀ f ∈ rows, ∀ m ∈ rows, ∀ n ∈ rows, ¬order.Torn f m n := by
  refine ⟨fun a b => ⟨compare_self order a, compare_swap order a b⟩, fun rows => ⟨?_, ?_⟩⟩
  · intro h f hf m hm n hn htorn
    obtain ⟨hnf, hfm, hgt⟩ := circle_of_torn htorn
    exact h.trans n hn f hf m hm hnf hfm hgt
  · intro h
    have htrans : ∀ a ∈ rows, ∀ b ∈ rows, ∀ c ∈ rows, order.compare a b ≠ .gt →
        order.compare b c ≠ .gt → order.compare a c ≠ .gt :=
      fun a ha b hb c hc => trans_of_not_torn h ha hb hc
    refine ⟨fun a _ => compare_self order a, fun a _ b _ => compare_swap order a b, htrans, ?_⟩
    intro a ha b hb c hc hab hbc
    have hba : order.compare b a = .eq := by rw [compare_swap order a b, hab]; rfl
    have hcb : order.compare c b = .eq := by rw [compare_swap order b c, hbc]; rfl
    refine eq_of_ne_gt_of_swap (htrans a ha b hb c hc (by simp [hab]) (by simp [hbc])) ?_
    rw [← compare_swap order a c]
    exact htrans c hc b hb a ha (by simp [hcb]) (by simp [hba])

/-- The first integer past `2 ^ 53`, then `2 ^ 53` as a binary number and as an integer. -/
theorem compare_not_trans_past_two_pow_53 :
    let order : SortOrder := [⟨"v", .ascending⟩]
    let a : Row := [("v", .number (.int ⟨9007199254740993, by decide, by decide⟩))]
    let b : Row := [("v", .number (.float { negative := false, magnitude := 4845873199050653696 }))]
    let c : Row := [("v", .number (.int ⟨9007199254740992, by decide, by decide⟩))]
    order.compare a b = .eq ∧ order.compare b c = .eq ∧ order.compare a c = .gt ∧
      Sort.sort? order.compare [a, b, c] = some [a, b, c] ∧ order.Torn b c a := by
  intro order a b c
  have hab : order.compare a b = .eq := by decide +kernel
  have hbc : order.compare b c = .eq := by decide +kernel
  have hac : order.compare a c = .gt := by decide +kernel
  have hca : order.compare c a = .lt := by decide +kernel
  have hsort : Sort.sort? order.compare [a, b, c] = some [a, b, c] := by
    simp [Sort.sort?, Sort.sort, Sort.reversed, Sort.place, order.compare_swap a b,
      order.compare_swap b c, hab, hbc]
  have hblur : OrderKey.Blurs ⟨"v", .ascending⟩ b c a :=
    ⟨by decide, by decide +kernel, by decide +kernel⟩
  have htorn : order.Torn b c a := .inr
    ⟨hblur, by decide +kernel, by simp [SortOrder.compare], by simp [SortOrder.compare]⟩
  exact ⟨hab, hbc, hac, hsort, htorn⟩

end SortOrder
end RowQuery
