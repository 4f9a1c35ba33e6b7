import Mathlib.Data.List.Induction
import RowQuery.Memory.Sort

/-!
# What sorting by insertion depends on and what it gives

A sort looks at its elements through the comparison only. A map that keeps comparisons can be
applied before or after it. Applied to forgetting where an element was in the source, this makes
stability a matter of order: numbered elements are compared, and the number decides between those
that are alike. At most one arrangement is in that order, and insertion finds it if there is one.
-/
namespace RowQuery.Sort

/-- A comparison that leaves no doubt about the order of some elements, ties apart. -/
structure PreorderOn {α : Type} (compare : α → α → Ordering) (source : List α) : Prop where
  self : ∀ a ∈ source, compare a a = .eq
  swap : ∀ a ∈ source, ∀ b ∈ source, compare b a = (compare a b).swap
  trans : ∀ a ∈ source, ∀ b ∈ source, ∀ c ∈ source,
    compare a b ≠ .gt → compare b c ≠ .gt → compare a c ≠ .gt
  alike : ∀ a ∈ source, ∀ b ∈ source, ∀ c ∈ source,
    compare a b = .eq → compare b c = .eq → compare a c = .eq

variable {α β : Type} {compareA : α → α → Ordering} {compareB : β → β → Ordering} {f : α → β}

theorem map_place (h : ∀ a b, compareB (f a) (f b) = compareA a b) (x : α) (sorted : List α) :
    (place compareA x sorted).map f = place compareB (f x) (sorted.map f) := by
  induction sorted with
  | nil => rfl
  | cons y before ih =>
    simp only [place, List.map_cons, h]
    split
    · rw [List.map_cons, ih]
    · rfl

theorem map_foldl_place (h : ∀ a b, compareB (f a) (f b) = compareA a b) (source sorted : List α) :
    (source.foldl (fun sorted x => place compareA x sorted) sorted).map f =
      (source.map f).foldl (fun sorted x => place compareB x sorted) (sorted.map f) := by
  induction source generalizing sorted with
  | nil => rfl
  | cons x rest ih =>
    rw [List.foldl_cons, ih, map_place h]
    rfl

theorem map_sort (h : ∀ a b, compareB (f a) (f b) = compareA a b) (source : List α) :
    (sort compareA source).map f = sort compareB (source.map f) := by
  rw [sort, sort, List.map_reverse, reversed, reversed, map_foldl_place h]
  rfl

/-! ## Stability -/

/-- Two numbered elements in their order: the number decides between those that are alike. -/
def Before (compare : α → α → Ordering) (a b : α × Nat) : Prop :=
  compare a.1 b.1 = .lt ∨ compare a.1 b.1 = .eq ∧ a.2 < b.2

instance (compare : α → α → Ordering) (a b : α × Nat) : Decidable (Before compare a b) :=
  inferInstanceAs (Decidable (_ ∨ _ ∧ _))

/-- The elements of the source in order, those that are alike as they follow in the source. -/
def StablySorted (compare : α → α → Ordering) (source sorted : List α) : Prop :=
  ∃ numbered : List (α × Nat), numbered.Perm source.zipIdx ∧
    numbered.Pairwise (Before compare) ∧ numbered.map Prod.fst = sorted

/-- What is known of two elements of which the first one is earlier in the source. -/
def Follows (compare : α → α → Ordering) (r : α → α → Prop) (x y : α) : Prop :=
  if compare y x = .lt then r y x else r x y

section Pairwise

variable {compare : α → α → Ordering} {r : α → α → Prop} {x : α} {source sorted : List α}

theorem pairwise_place (hplace : ∀ y ∈ sorted, if compare x y = .lt then r x y else r y x)
    (htrans : ∀ y ∈ sorted, ∀ z ∈ sorted, r z y → r y x → r z x)
    (h : sorted.Pairwise fun y z => r z y) :
    (place compare x sorted).Pairwise fun y z => r z y := by
  induction sorted with
  | nil => exact List.pairwise_singleton _ _
  | cons y before ih =>
    obtain ⟨hy, hbefore⟩ := List.pairwise_cons.mp h
    have hxy := hplace y List.mem_cons_self
    simp only [place]
    split at hxy
    · rename_i hlt
      rw [if_pos hlt]
      have hrest := ih (fun z hz => hplace z (List.mem_cons_of_mem y hz))
        (fun z hz w hw => htrans z (List.mem_cons_of_mem y hz) w (List.mem_cons_of_mem y hw))
        hbefore
      refine List.pairwise_cons.mpr ⟨fun z hz => ?_, hrest⟩
      rcases List.mem_cons.mp ((place_perm compare x before).mem_iff.mp hz) with rfl | hz
      · exact hxy
      · exact hy z hz
    · rename_i hge
      rw [if_neg hge]
      refine List.pairwise_cons.mpr ⟨fun z hz => ?_, h⟩
      rcases List.mem_cons.mp hz with rfl | hz
      · exact hxy
      · exact htrans y List.mem_cons_self z (List.mem_cons_of_mem y hz) (hy z hz) hxy

theorem reversed_append_singleton (compare : α → α → Ordering) (source : List α) (x : α) :
    reversed compare (source ++ [x]) = place compare x (reversed compare source) := by
  simp only [reversed, List.foldl_append, List.foldl_cons, List.foldl_nil]

/-- A sort is in every transitive order that its comparison tells for the later of two elements. -/
theorem pairwise_sort
    (htrans : ∀ a ∈ source, ∀ b ∈ source, ∀ c ∈ source, r a b → r b c → r a c)
    (h : source.Pairwise (Follows compare r)) : (sort compare source).Pairwise r := by
  rw [sort, List.pairwise_reverse]
  -- The last element is put in last, among all the others.
  induction source using List.reverseRecOn with
  | nil => exact .nil
  | append_singleton before x ih =>
    obtain ⟨hbefore, -, hx⟩ := List.pairwise_append.mp h
    have hmem : ∀ y ∈ reversed compare before, y ∈ before := fun y hy =>
      (sort_perm compare before).mem_iff.mp (List.mem_reverse.mpr hy)
    have hsub : ∀ y ∈ before, y ∈ before ++ [x] := fun y hy => List.mem_append_left [x] hy
    rw [reversed_append_singleton]
    refine pairwise_place (fun y hy => hx y (hmem y hy) x (by simp)) ?_ (ih ?_ hbefore)
    · exact fun y hy z hz =>
        htrans z (hsub z (hmem z hz)) y (hsub y (hmem y hy)) x (by simp)
    · exact fun a ha b hb c hc => htrans a (hsub a ha) b (hsub b hb) c (hsub c hc)

theorem trans_of_pairwise (hasymm : ∀ a ∈ sorted, ∀ b ∈ sorted, r a b → ¬r b a)
    (h : sorted.Pairwise r) :
    ∀ a ∈ sorted, ∀ b ∈ sorted, ∀ c ∈ sorted, r a b → r b c → r a c := by
  induction sorted with
  | nil => exact fun a ha => absurd ha List.not_mem_nil
  | cons x rest ih =>
    obtain ⟨hx, hrest⟩ := List.pairwise_cons.mp h
    have hfirst : ∀ a ∈ x :: rest, ¬r a x := by
      intro a ha hax
      rcases List.mem_cons.mp ha with rfl | hmem
      · exact hasymm a ha a ha hax hax
      · exact hasymm a ha x List.mem_cons_self hax (hx a hmem)
    have htail := ih (fun a ha b hb =>
      hasymm a (List.mem_cons_of_mem x ha) b (List.mem_cons_of_mem x hb)) hrest
    intro a ha b hb c hc hab hbc
    rcases List.mem_cons.mp hb with rfl | hbmem
    · exact absurd hab (hfirst a ha)
    rcases List.mem_cons.mp hc with rfl | hcmem
    · exact absurd hbc (hfirst b hb)
    rcases List.mem_cons.mp ha with rfl | hamem
    · exact hx c hcmem
    · exact htail a hamem b hbmem c hcmem hab hbc

end Pairwise

variable {compare : α → α → Ordering} {source sorted : List α}

theorem not_before_of_before (hswap : ∀ a ∈ source, ∀ b ∈ source, compare b a = (compare a b).swap)
    {a b : α × Nat} (ha : a ∈ source.zipIdx) (hb : b ∈ source.zipIdx) (h : Before compare a b) :
    ¬Before compare b a := by
  have hba := hswap a.1 (List.fst_mem_of_mem_zipIdx ha) b.1 (List.fst_mem_of_mem_zipIdx hb)
  rcases h with h | ⟨h, hlt⟩
  · simp [Before, hba, h]
  · simp [Before, hba, h, Nat.le_of_lt hlt]

def arrange (compare : α → α → Ordering) (source : List α) : List (α × Nat) :=
  sort (fun a b => compare a.1 b.1) source.zipIdx

theorem arrange_perm (compare : α → α → Ordering) (source : List α) :
    (arrange compare source).Perm source.zipIdx := sort_perm _ _

theorem map_fst_arrange (compare : α → α → Ordering) (source : List α) :
    (arrange compare source).map Prod.fst = sort compare source := by
  rw [arrange, map_sort (fun _ _ => rfl), List.zipIdx_map_fst]

theorem pairwise_snd_zipIdx (source : List α) : source.zipIdx.Pairwise fun a b => a.2 < b.2 := by
  rw [← List.pairwise_map, List.zipIdx_map_snd]
  exact List.pairwise_lt_range'

theorem pairwise_follows_zipIdx
    (hswap : ∀ a ∈ source, ∀ b ∈ source, compare b a = (compare a b).swap) :
    source.zipIdx.Pairwise (Follows (fun a b => compare a.1 b.1) (Before compare)) := by
  refine (pairwise_snd_zipIdx source).imp_of_mem fun {y x} hy hx hlt => ?_
  have hyx := hswap x.1 (List.fst_mem_of_mem_zipIdx hx) y.1 (List.fst_mem_of_mem_zipIdx hy)
  rw [Follows]
  split
  · exact .inl ‹_›
  · cases hxy : compare x.1 y.1 with
    | lt => contradiction
    | eq => exact .inr ⟨by rw [hyx, hxy]; rfl, hlt⟩
    | gt => exact .inl (by rw [hyx, hxy]; rfl)

theorem pairwise_arrange_of_trans
    (hswap : ∀ a ∈ source, ∀ b ∈ source, compare b a = (compare a b).swap)
    (htrans : ∀ a ∈ source.zipIdx, ∀ b ∈ source.zipIdx, ∀ c ∈ source.zipIdx,
      Before compare a b → Before compare b c → Before compare a c) :
    (arrange compare source).Pairwise (Before compare) :=
  pairwise_sort htrans (pairwise_follows_zipIdx hswap)

/-- If the source can be arranged in order stably at all, the sort does so. -/
theorem StablySorted.sort_eq
    (hswap : ∀ a ∈ source, ∀ b ∈ source, compare b a = (compare a b).swap)
    (h : StablySorted compare source sorted) : sort compare source = sorted := by
  obtain ⟨numbered, hperm, hordered, rfl⟩ := h
  have hasymm : ∀ a ∈ source.zipIdx, ∀ b ∈ source.zipIdx,
      Before compare a b → ¬Before compare b a :=
    fun a ha b hb => not_before_of_before hswap ha hb
  -- Where all pairs of one list are in order, the order is transitive, preorder or not.
  have htrans : ∀ a ∈ source.zipIdx, ∀ b ∈ source.zipIdx, ∀ c ∈ source.zipIdx,
      Before compare a b → Before compare b c → Before compare a c := by
    simp only [← hperm.mem_iff] at hasymm ⊢
    exact trans_of_pairwise hasymm hordered
  have hordered' := pairwise_arrange_of_trans hswap htrans
  have hother := arrange_perm compare source
  have heq : arrange compare source = numbered := by
    refine List.Perm.eq_of_pairwise (fun a b ha hb hab hba => ?_) hordered' hordered
      (hother.trans hperm.symm)
    exact absurd hba (hasymm a (hother.mem_iff.mp ha) b (hperm.mem_iff.mp hb) hab)
  rw [← map_fst_arrange, heq]

theorem ne_gt_of_before {a b : α × Nat} (h : Before compare a b) : compare a.1 b.1 ≠ .gt := by
  rcases h with hlt | ⟨heq, -⟩
  · simp [hlt]
  · simp [heq]

namespace PreorderOn

theorem eq_of_ends {a b c : α} (h : PreorderOn compare source) (ha : a ∈ source) (hb : b ∈ source)
    (hc : c ∈ source) (hab : compare a b ≠ .gt) (hbc : compare b c ≠ .gt)
    (hac : compare a c = .eq) : compare a b = .eq ∧ compare b c = .eq := by
  have hca : compare c a ≠ .gt := by simp [h.swap a ha c hc, hac]
  have hcb := h.trans c hc a ha b hb hca hab
  have hba := h.trans b hb c hc a ha hbc hca
  rw [h.swap b hb c hc] at hcb
  rw [h.swap a ha b hb] at hba
  constructor
  · cases hcompare : compare a b <;> simp_all
  · cases hcompare : compare b c <;> simp_all

theorem before_trans (h : PreorderOn compare source) :
    ∀ a ∈ source.zipIdx, ∀ b ∈ source.zipIdx, ∀ c ∈ source.zipIdx,
      Before compare a b → Before compare b c → Before compare a c := by
  intro a ha b hb c hc hab hbc
  have ha := List.fst_mem_of_mem_zipIdx ha
  have hb := List.fst_mem_of_mem_zipIdx hb
  have hc := List.fst_mem_of_mem_zipIdx hc
  have hneab := ne_gt_of_before hab
  have hnebc := ne_gt_of_before hbc
  have hac := h.trans a.1 ha b.1 hb c.1 hc hneab hnebc
  cases hcompare : compare a.1 c.1 with
  | lt => exact .inl hcompare
  | gt => exact absurd hcompare hac
  | eq =>
    -- The three are alike, and the numbers decide.
    obtain ⟨hfirst, hlast⟩ := h.eq_of_ends ha hb hc hneab hnebc hcompare
    rcases hab with hlt | ⟨-, hab⟩
    · simp [hlt] at hfirst
    rcases hbc with hlt | ⟨-, hbc⟩
    · simp [hlt] at hlast
    exact .inr ⟨hcompare, Nat.lt_trans hab hbc⟩

theorem pairwise_arrange (h : PreorderOn compare source) :
    (arrange compare source).Pairwise (Before compare) :=
  pairwise_arrange_of_trans h.swap h.before_trans

theorem stablySorted_sort (h : PreorderOn compare source) :
    StablySorted compare source (sort compare source) :=
  ⟨arrange compare source, arrange_perm compare source, h.pairwise_arrange,
    map_fst_arrange compare source⟩

theorem pairwise_sort_ne_gt (h : PreorderOn compare source) :
    (sort compare source).Pairwise fun a b => compare a b ≠ .gt := by
  rw [← map_fst_arrange, List.pairwise_map]
  exact h.pairwise_arrange.imp ne_gt_of_before

end PreorderOn

theorem sort_eq_self (h : ∀ a ∈ source, ∀ b ∈ source, compare a b = .eq) :
    sort compare source = source := by
  have hself : StablySorted compare source source := by
    refine ⟨source.zipIdx, .refl _, ?_, List.zipIdx_map_fst 0 source⟩
    refine (pairwise_snd_zipIdx source).imp_of_mem fun {a b} ha hb hlt => ?_
    exact .inr ⟨h a.1 (List.fst_mem_of_mem_zipIdx ha) b.1 (List.fst_mem_of_mem_zipIdx hb), hlt⟩
  refine hself.sort_eq fun a ha b hb => ?_
  rw [h a ha b hb, h b hb a ha]
  rfl

theorem sort_eq_of_two {first last : α} {m n : Nat} (hself : compare first first = .eq)
    (hlt : compare first last = .lt) (hgt : compare last first = .gt)
    (h : source.Perm (List.replicate m first ++ List.replicate n last)) :
    sort compare source = List.replicate m first ++ List.replicate n last := by
  have hmem : ∀ x ∈ source, x = first ∨ x = last := by
    intro x hx
    rcases List.mem_append.mp (h.mem_iff.mp hx) with hx | hx
    · exact .inl (List.eq_of_mem_replicate hx)
    · exact .inr (List.eq_of_mem_replicate hx)
  -- Nothing but the first element stands before the first element.
  have hsorted : (sort compare source).Pairwise fun a b => b = first → a = first := by
    refine pairwise_sort (fun a _ b _ c _ hab hbc hc => hab (hbc hc)) ?_
    refine List.pairwise_iff_forall_sublist.mpr fun {y x} hsub => ?_
    have hy := hmem y (hsub.subset (by simp))
    have hx := hmem x (hsub.subset (by simp))
    rw [Follows]
    split
    · rintro rfl
      rcases hx with rfl | rfl <;> simp_all
    · rintro rfl
      rcases hy with rfl | rfl <;> simp_all
  have hwanted : (List.replicate m first ++ List.replicate n last).Pairwise
      fun a b => b = first → a = first := by
    rw [List.pairwise_append]
    refine ⟨List.pairwise_replicate.mpr (.inr id), List.pairwise_replicate.mpr (.inr id), ?_⟩
    exact fun a ha _ _ _ => List.eq_of_mem_replicate ha
  refine List.Perm.eq_of_pairwise (fun a b ha hb hab hba => ?_) hsorted hwanted
    ((sort_perm compare source).trans h)
  have ha := hmem a ((sort_perm compare source).mem_iff.mp ha)
  have hb := hmem b (h.mem_iff.mpr hb)
  rcases ha with rfl | rfl
  · exact (hba rfl).symm
  · rcases hb with rfl | rfl
    · exact hab rfl
    · rfl

end RowQuery.Sort
