import RowQuery.Proofs.Memory.Order
import RowQuery.Proofs.Memory.Sort

/-!
# Sorting by one comparison and then by another

Two comparisons make one, of which the first decides and the second breaks its ties. If both are
total preorders, so is the one they make, and sorting by it is sorting by the second and then by the
first: the last sort keeps what ties under its own comparison in the order of the sort before. So
adding a comparison behind another moves no two elements past each other that the other tells apart.
-/
namespace RowQuery.Sort

variable {α : Type} {compare first second : α → α → Ordering} {source sorted : List α}

/-! ## Preorders -/

theorem PreorderOn.of_trans (hswap : ∀ a ∈ source, ∀ b ∈ source, compare b a = (compare a b).swap)
    (htrans : ∀ a ∈ source, ∀ b ∈ source, ∀ c ∈ source,
      compare a b ≠ .gt → compare b c ≠ .gt → compare a c ≠ .gt) : PreorderOn compare source where
  self a ha := eq_of_eq_swap (hswap a ha a ha)
  swap := hswap
  trans := htrans
  alike a ha b hb c hc hab hbc := by
    have hba : compare b a = .eq := by rw [hswap a ha b hb, hab]; rfl
    have hcb : compare c b = .eq := by rw [hswap b hb c hc, hbc]; rfl
    have hca := htrans c hc b hb a ha (by simp [hcb]) (by simp [hba])
    rw [hswap a ha c hc] at hca
    exact eq_of_ne_gt_of_swap (htrans a ha b hb c hc (by simp [hab]) (by simp [hbc])) hca

theorem PreorderOn.then (hfirst : PreorderOn first source) (hsecond : PreorderOn second source) :
    PreorderOn (compareLex first second) source := by
  refine .of_trans (fun a ha b hb => ?_) fun a ha b hb c hc hab hbc => ?_
  · simp only [compareLex, hfirst.swap a ha b hb, hsecond.swap a ha b hb, Ordering.swap_then]
  · obtain ⟨hab, htieab⟩ := then_ne_gt_iff.mp hab
    obtain ⟨hbc, htiebc⟩ := then_ne_gt_iff.mp hbc
    refine then_ne_gt_iff.mpr ⟨hfirst.trans a ha b hb c hc hab hbc, fun hac => ?_⟩
    -- The first comparison ties the whole chain, and the second decides in each place.
    obtain ⟨heqab, heqbc⟩ := hfirst.eq_of_ends ha hb hc hab hbc hac
    exact hsecond.trans a ha b hb c hc (htieab heqab) (htiebc heqbc)

/-! ## Two sorts, one after the other -/

theorem stablySorted_sort_sort (hfirst : PreorderOn first source)
    (hsecond : PreorderOn second source) :
    StablySorted (compareLex first second) source
      (sort first (sort second source)) := by
  obtain ⟨numbered, hperm, hordered, hsorted⟩ := hsecond.stablySorted_sort
  have htrans := (hfirst.then hsecond).before_trans
  simp only [← hperm.mem_iff] at htrans
  refine ⟨sort (fun a b => first a.1 b.1) numbered, (sort_perm _ _).trans hperm,
    pairwise_sort htrans ?_, by rw [map_sort fun _ _ => rfl, hsorted]⟩
  refine hordered.imp_of_mem fun {y x} hy hx hbefore => ?_
  have hy := List.fst_mem_of_mem_zipIdx (hperm.mem_iff.mp hy)
  have hx := List.fst_mem_of_mem_zipIdx (hperm.mem_iff.mp hx)
  have hyx := hfirst.swap x.1 hx y.1 hy
  -- What comes later in the sorted list is put in later, behind everything it does not precede.
  change if first x.1 y.1 = .lt then Before _ x y else Before _ y x
  cases hxy : first x.1 y.1 with
  | lt => exact .inl (by simp [compareLex, hxy])
  | gt => exact .inl (by simp [compareLex, hyx, hxy])
  | eq => simpa [Before, compareLex, hyx, hxy] using hbefore

/-- The later sort decides, and the earlier one breaks its ties. -/
theorem sort_then (hfirst : PreorderOn first source) (hsecond : PreorderOn second source) :
    sort (compareLex first second) source = sort first (sort second source) :=
  (stablySorted_sort_sort hfirst hsecond).sort_eq (hfirst.then hsecond).swap

/-! ## What stands before what -/

theorem pair_sublist_or {l : List α} {x y : α} (hx : x ∈ l) (hy : y ∈ l) (hne : x ≠ y) :
    [x, y].Sublist l ∨ [y, x].Sublist l := by
  obtain ⟨before, after, rfl⟩ := List.append_of_mem hx
  rcases List.mem_append.mp hy with hbefore | hrest
  · have hx : [x].Sublist (x :: after) := List.singleton_sublist.mpr List.mem_cons_self
    exact .inr ((List.singleton_sublist.mpr hbefore).append hx)
  · have hafter : y ∈ after := (List.mem_cons.mp hrest).resolve_left (Ne.symm hne)
    have hxy := (List.singleton_sublist.mpr hafter).cons_cons x
    exact .inl (hxy.trans (List.sublist_append_right before _))

theorem pair_sublist_iff {r : α → α → Prop} {l : List α} (h : l.Pairwise r)
    (hasymm : ∀ a ∈ l, ∀ b ∈ l, r a b → ¬r b a) {x y : α} (hx : x ∈ l) (hy : y ∈ l) (hne : x ≠ y) :
    [x, y].Sublist l ↔ r x y := by
  have hall : ∀ {a b : α}, [a, b].Sublist l → r a b := List.pairwise_iff_forall_sublist.mp h
  refine ⟨fun hxy => hall hxy, fun hr => (pair_sublist_or hx hy hne).resolve_right fun hyx => ?_⟩
  exact hasymm x hx y hy hr (hall hyx)

theorem pair_sublist_arrange_iff (hfirst : PreorderOn first source)
    (hsecond : PreorderOn second source) {x y : α × Nat} (hx : x ∈ source.zipIdx)
    (hy : y ∈ source.zipIdx) (h : first x.1 y.1 ≠ .eq) :
    [x, y].Sublist (arrange first source) ↔
      [x, y].Sublist (arrange (compareLex first second) source) := by
  have hne : x ≠ y := by
    rintro rfl
    exact h (hfirst.self x.1 (List.fst_mem_of_mem_zipIdx hx))
  have hplace : ∀ {compare : α → α → Ordering}, PreorderOn compare source →
      ([x, y].Sublist (arrange compare source) ↔ Before compare x y) := by
    intro compare hcompare
    have hperm := arrange_perm compare source
    refine pair_sublist_iff hcompare.pairwise_arrange (fun a ha b hb => ?_)
      (hperm.mem_iff.mpr hx) (hperm.mem_iff.mpr hy) hne
    exact not_before_of_before hcompare.swap (hperm.mem_iff.mp ha) (hperm.mem_iff.mp hb)
  rw [hplace hfirst, hplace (hfirst.then hsecond)]
  cases hxy : first x.1 y.1 with
  | eq => exact absurd hxy h
  | lt => simp [Before, compareLex, hxy]
  | gt => simp [Before, compareLex, hxy]

end RowQuery.Sort
