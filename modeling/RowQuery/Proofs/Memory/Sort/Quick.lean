import RowQuery.Memory.Sort.Quick
import RowQuery.Proofs.Memory.Sort.Short

/-!
# What sorting around pivots gives

No element precedes the ancestor. So if the ancestor does not precede the pivot, nothing does, and
the elements that the pivot does not precede are alike: as they come from the source, they are in
order.
-/
namespace RowQuery.Sort

variable {α β : Type}

/-! ## The pivot -/

theorem median_mem (precedes : Nat → Nat → Bool) (i j k : Nat) :
    median precedes i j k ∈ [i, j, k] := by
  rw [median]
  split
  · split <;> simp
  · simp

theorem medianOf_lt {precedes : Nat → Nat → Bool} {size i j k bound : Nat} (hsize : 0 < size)
    (hi : i + size ≤ bound) (hj : j + size ≤ bound) (hk : k + size ≤ bound) :
    medianOf precedes size i j k < bound := by
  fun_induction medianOf precedes size i j k with
  | case1 size i j k hshort =>
    have hmem := median_mem precedes i j k
    simp only [List.mem_cons, List.not_mem_nil, or_false] at hmem
    omega
  | case2 size i j k hlong part ihi ihj ihk =>
    have hpart : 0 < part ∧ 8 * part ≤ size := by omega
    have hi := ihi hpart.1 (by omega) (by omega) (by omega)
    have hj := ihj hpart.1 (by omega) (by omega) (by omega)
    have hk := ihk hpart.1 (by omega) (by omega) (by omega)
    have hmem := median_mem precedes (medianOf precedes part i (i + 4 * part) (i + 7 * part))
      (medianOf precedes part j (j + 4 * part) (j + 7 * part))
      (medianOf precedes part k (k + 4 * part) (k + 7 * part))
    simp only [List.mem_cons, List.not_mem_nil, or_false] at hmem
    omega

theorem pivotAt_lt (compare : α → α → Ordering) {source : List α} (h : 8 ≤ source.length) :
    pivotAt compare source < source.length := by
  apply medianOf_lt <;> omega

/-! ## The parts -/

namespace Pivoted

variable {compare : α → α → Ordering} {r : α → α → Prop} {source : List α} {p : Pivoted α}

def toList (p : Pivoted α) : List α := p.before ++ p.pivot :: p.after

theorem toList_of_ofList? (h : ofList? compare source = some p) : p.toList = source := by
  rw [ofList?] at h
  split at h
  · cases h
  · rename_i pivot after hdrop
    rw [← Option.some.inj h, toList, ← hdrop, List.take_append_drop]

theorem exists_ofList? (compare : α → α → Ordering) (h : 8 ≤ source.length) :
    ∃ p, ofList? compare source = some p := by
  rw [ofList?]
  split
  · rename_i hdrop
    exact absurd (List.drop_eq_nil_iff.mp hdrop) (Nat.not_le.mpr (pivotAt_lt compare h))
  · exact ⟨_, rfl⟩

theorem apart_append_kept_perm (p : Pivoted α) (test : α → Bool) :
    (p.apart test ++ p.kept test).Perm p.toList := by
  classical
  have hbefore := (List.filter_append_perm test p.before).count_eq
  have hafter := (List.filter_append_perm test p.after).count_eq
  rw [List.perm_iff_count]
  intro x
  have hbefore := hbefore x
  have hafter := hafter x
  simp only [apart, kept, toList, List.filter_append, List.count_append, List.count_cons] at *
  omega

theorem apart_sublist (p : Pivoted α) (test : α → Bool) : (p.apart test).Sublist p.toList :=
  List.filter_sublist.trans ((List.sublist_cons_self _ _).append_left _)

theorem kept_sublist (p : Pivoted α) (test : α → Bool) : (p.kept test).Sublist p.toList :=
  List.filter_sublist.append (List.filter_sublist.cons_cons _)

theorem mem_apart {test : α → Bool} {x : α} (h : x ∈ p.apart test) : test x = true :=
  (List.mem_filter.mp h).2

theorem mem_kept {test : α → Bool} {x : α} (h : x ∈ p.kept test) :
    x = p.pivot ∨ test x = false := by
  simp only [kept, List.mem_append, List.mem_cons, List.mem_filter, Bool.not_eq_true'] at h
  tauto

end Pivoted

/-! ## Nothing is lost -/

theorem quicksort_rearranges {compare : α → α → Ordering} {fallback : List α → Option (List α)}
    (hfallback : Rearranges fallback) (limit : Nat) (ancestor : Option α) :
    Rearranges (quicksort compare fallback limit ancestor) := by
  intro source sorted h
  induction limit generalizing ancestor source sorted with
  | zero =>
    rw [quicksort] at h
    split at h
    · exact smallSort_rearranges compare source sorted h
    · exact hfallback source sorted h
  | succ limit ih =>
    rw [quicksort] at h
    split at h
    · exact smallSort_rearranges compare source sorted h
    · rw [Option.bind_eq_bind, Option.bind_eq_some_iff] at h
      obtain ⟨p, hp, h⟩ := h
      rw [← Pivoted.toList_of_ofList? hp]
      split at h
      · simp only [Option.bind_eq_bind, Option.bind_eq_some_iff, Option.some.injEq] at h
        obtain ⟨rest, hrest, lower, hlower, rfl⟩ := h
        exact ((ih _ _ _ hlower).append (ih _ _ _ hrest)).trans (p.apart_append_kept_perm _)
      · simp only [Option.bind_eq_bind, Option.bind_eq_some_iff, Option.some.injEq] at h
        obtain ⟨upper, hupper, rfl⟩ := h
        refine ((ih _ _ _ hupper).append_left _).trans ?_
        exact List.perm_append_comm.trans (p.apart_append_kept_perm _)

/-! ## A map that keeps comparisons -/

section Map

variable {compareA : α → α → Ordering} {compareB : β → β → Ordering} {f : α → β}

def Pivoted.map (f : α → β) (p : Pivoted α) : Pivoted β :=
  ⟨p.before.map f, f p.pivot, p.after.map f⟩

namespace Pivoted

theorem pivot_map (p : Pivoted α) : (p.map f).pivot = f p.pivot := rfl

theorem apart_map {testA : α → Bool} {testB : β → Bool} (h : ∀ a, testB (f a) = testA a)
    (p : Pivoted α) : (p.map f).apart testB = (p.apart testA).map f := by
  simp only [apart, map, ← List.map_append, List.filter_map, Function.comp_def, h]

theorem kept_map {testA : α → Bool} {testB : β → Bool} (h : ∀ a, testB (f a) = testA a)
    (p : Pivoted α) : (p.map f).kept testB = (p.kept testA).map f := by
  simp only [kept, map, List.map_append, List.map_cons, List.filter_map, Function.comp_def, h]

end Pivoted

variable (h : ∀ a b, compareB (f a) (f b) = compareA a b)

include h

theorem precedesAt_map (source : List α) :
    precedesAt compareB (source.map f) = precedesAt compareA source := by
  funext i j
  simp only [precedesAt, List.getElem?_map]
  cases source[i]? <;> cases source[j]? <;> simp [h]

theorem pivotAt_map (source : List α) :
    pivotAt compareB (source.map f) = pivotAt compareA source := by
  simp only [pivotAt, List.length_map, precedesAt_map h]

theorem ofList?_map (source : List α) :
    Pivoted.ofList? compareB (source.map f) =
      (Pivoted.ofList? compareA source).map (Pivoted.map f) := by
  simp only [Pivoted.ofList?, pivotAt_map h, ← List.map_drop, ← List.map_take]
  cases source.drop (pivotAt compareA source) <;> rfl

namespace Pivoted

theorem lower_map (p : Pivoted α) :
    (p.map f).lower compareB = (p.lower compareA).map f :=
  apart_map (fun a => by rw [pivot_map, h]) p

theorem atLeast_map (p : Pivoted α) :
    (p.map f).atLeast compareB = (p.atLeast compareA).map f :=
  kept_map (fun a => by rw [pivot_map, h]) p

theorem upper_map (p : Pivoted α) :
    (p.map f).upper compareB = (p.upper compareA).map f :=
  apart_map (fun a => by rw [pivot_map, h]) p

theorem atMost_map (p : Pivoted α) :
    (p.map f).atMost compareB = (p.atMost compareA).map f :=
  kept_map (fun a => by rw [pivot_map, h]) p

theorem divides_map (p : Pivoted α) (ancestor : Option α) :
    (p.map f).divides compareB (ancestor.map f) = p.divides compareA ancestor := by
  rw [divides, divides, lower_map h, List.isEmpty_map]
  cases ancestor with
  | none => rfl
  | some a => simp [pivot_map, h]

end Pivoted

theorem quicksort_agree {fallbackA : List α → Option (List α)}
    {fallbackB : List β → Option (List β)} (hfallback : Agree f fallbackA fallbackB) (limit : Nat)
    (ancestor : Option α) :
    Agree f (quicksort compareA fallbackA limit ancestor)
      (quicksort compareB fallbackB limit (ancestor.map f)) := by
  intro source
  induction limit generalizing ancestor source with
  | zero =>
    simp only [quicksort, List.length_map]
    split
    · exact smallSort_agree h source
    · exact hfallback source
  | succ limit ih =>
    simp only [quicksort, List.length_map]
    split
    · exact smallSort_agree h source
    · rw [ofList?_map h]
      cases Pivoted.ofList? compareA source with
      | none => rfl
      | some p =>
        have hrest : (quicksort compareA fallbackA limit (some p.pivot) (p.atLeast compareA)).map
            (List.map f) = quicksort compareB fallbackB limit (some (f p.pivot))
              ((p.atLeast compareA).map f) := ih (some p.pivot) _
        have hlower := ih ancestor (p.lower compareA)
        have hupper : (quicksort compareA fallbackA limit none (p.upper compareA)).map
            (List.map f) = quicksort compareB fallbackB limit none ((p.upper compareA).map f) :=
          ih none _
        simp only [Option.map_some, Option.bind_eq_bind, Option.bind_some, Pivoted.lower_map h,
          Pivoted.atLeast_map h, Pivoted.upper_map h, Pivoted.atMost_map h, Pivoted.pivot_map,
          Pivoted.divides_map h, ← hrest, ← hlower, ← hupper]
        split
        · cases quicksort compareA fallbackA limit (some p.pivot) (p.atLeast compareA) <;>
            cases quicksort compareA fallbackA limit ancestor (p.lower compareA) <;> simp
        · cases quicksort compareA fallbackA limit none (p.upper compareA) <;> simp

end Map

/-! ## In order -/

section Order

variable {compare : α → α → Ordering} {r : α → α → Prop} {source : List α}

namespace Pivoted

variable {p : Pivoted α}

theorem compare_of_mem_lower {x : α} (h : x ∈ p.lower compare) : compare x p.pivot = .lt := by
  simpa using mem_apart h

theorem compare_of_mem_upper {x : α} (h : x ∈ p.upper compare) : compare p.pivot x = .lt := by
  simpa using mem_apart h

theorem compare_of_mem_atLeast (hr : Resolves compare r) {x : α} (h : x ∈ p.atLeast compare) :
    compare x p.pivot ≠ .lt := by
  rcases mem_kept h with rfl | hx
  · exact hr.irrefl _
  · simpa using hx

theorem compare_of_mem_atMost (hr : Resolves compare r) {x : α} (h : x ∈ p.atMost compare) :
    compare p.pivot x ≠ .lt := by
  rcases mem_kept h with rfl | hx
  · exact hr.irrefl _
  · simpa using hx

theorem lower_before_atLeast (hr : Resolves compare r) :
    ∀ x ∈ p.lower compare, ∀ y ∈ p.atLeast compare, r x y := by
  intro x hx y hy
  have hxy := hr.lt_or_lt x y p.pivot (compare_of_mem_lower hx)
  exact hr.of_lt x y (hxy.resolve_right (compare_of_mem_atLeast hr hy))

theorem atMost_before_upper (hr : Resolves compare r) :
    ∀ x ∈ p.atMost compare, ∀ y ∈ p.upper compare, r x y := by
  intro x hx y hy
  have hxy := hr.lt_or_lt p.pivot x y (compare_of_mem_upper hy)
  exact hr.of_lt x y (hxy.resolve_left (compare_of_mem_atMost hr hx))

theorem pairwise_atMost (hr : Resolves compare r) (h : p.toList.Pairwise (Follows compare r))
    (hleast : ∀ x ∈ p.toList, compare x p.pivot ≠ .lt) : (p.atMost compare).Pairwise r := by
  have hsub := p.kept_sublist fun x => compare p.pivot x = .lt
  refine (h.sublist hsub).imp_of_mem fun {x y} hx hy hxy => hxy.of_ge fun hlt => ?_
  rcases hr.lt_or_lt y p.pivot x hlt with hy' | hx'
  · exact hleast y (hsub.subset hy) hy'
  · exact compare_of_mem_atMost hr hx hx'

theorem mem_lower (hr : Resolves compare r) {x : α} (hx : x ∈ p.toList)
    (h : compare x p.pivot = .lt) : x ∈ p.lower compare := by
  have hne : x ≠ p.pivot := by
    rintro rfl
    exact hr.irrefl _ h
  simp only [toList, List.mem_append, List.mem_cons] at hx
  simp only [lower, apart, List.mem_filter, List.mem_append, decide_eq_true_eq]
  tauto

theorem least_of_not {ancestor : Option α} (hr : Resolves compare r)
    (hancestor : ∀ a ∈ ancestor, ∀ x ∈ p.toList, compare x a ≠ .lt)
    (h : p.divides compare ancestor ≠ true) : ∀ x ∈ p.toList, compare x p.pivot ≠ .lt := by
  intro x hx hlt
  have hlower := List.isEmpty_eq_false_iff.mpr (List.ne_nil_of_mem (mem_lower hr hx hlt))
  rw [divides, hlower, Bool.not_false, Bool.and_true] at h
  cases ancestor with
  | none => exact h rfl
  | some a =>
    rcases hr.lt_or_lt x a p.pivot hlt with hxa | hap
    · exact hancestor a rfl x hx hxa
    · exact h (by simpa using hap)

theorem pairwise_lower_append (hr : Resolves compare r) {lower rest : List α}
    (hlowerperm : lower.Perm (p.lower compare)) (hrestperm : rest.Perm (p.atLeast compare))
    (hlower : lower.Pairwise r) (hrest : rest.Pairwise r) : (lower ++ rest).Pairwise r := by
  refine List.pairwise_append.mpr ⟨hlower, hrest, fun x hx y hy => ?_⟩
  exact lower_before_atLeast hr x (hlowerperm.mem_iff.mp hx) y (hrestperm.mem_iff.mp hy)

theorem pairwise_atMost_append (hr : Resolves compare r)
    (h : p.toList.Pairwise (Follows compare r)) (hleast : ∀ x ∈ p.toList, compare x p.pivot ≠ .lt)
    {upper : List α} (hupperperm : upper.Perm (p.upper compare)) (hupper : upper.Pairwise r) :
    (p.atMost compare ++ upper).Pairwise r := by
  refine List.pairwise_append.mpr ⟨pairwise_atMost hr h hleast, hupper, fun x hx y hy => ?_⟩
  exact atMost_before_upper hr x hx y (hupperperm.mem_iff.mp hy)

end Pivoted

theorem quicksort_sorts (hr : Resolves compare r) {fallback : List α → Option (List α)}
    (hperm : Rearranges fallback) (hfallback : Sorts compare r fallback) (limit : Nat)
    (ancestor : Option α) (hancestor : ∀ a ∈ ancestor, ∀ x ∈ source, compare x a ≠ .lt)
    (h : source.Pairwise (Follows compare r)) :
    ∃ sorted, quicksort compare fallback limit ancestor source = some sorted ∧
      sorted.Pairwise r := by
  induction limit generalizing ancestor source with
  | zero =>
    rw [quicksort]
    split
    · exact smallSort_sorts hr source h
    · exact hfallback source h
  | succ limit ih =>
    rw [quicksort]
    split
    · exact smallSort_sorts hr source h
    · obtain ⟨p, hp⟩ := Pivoted.exists_ofList? compare (show 8 ≤ source.length by omega)
      rw [hp, Option.bind_eq_bind, Option.bind_some]
      rw [← Pivoted.toList_of_ofList? hp] at h hancestor
      have hsorts : ∀ ancestor part, part.Sublist p.toList →
          (∀ a ∈ ancestor, ∀ x ∈ part, compare x a ≠ .lt) →
          ∃ sorted, quicksort compare fallback limit ancestor part = some sorted ∧
            sorted.Perm part ∧ sorted.Pairwise r := by
        intro ancestor part hpart hancestor
        obtain ⟨sorted, hsorted, hordered⟩ := ih ancestor hancestor (h.sublist hpart)
        have hrearranged := quicksort_rearranges hperm limit ancestor part sorted hsorted
        exact ⟨sorted, hsorted, hrearranged, hordered⟩
      -- The ancestor bounds the lower part as it bounds the whole, and the pivot bounds the rest.
      split
      · have hsub : (p.lower compare).Sublist p.toList := p.apart_sublist _
        obtain ⟨lower, hlower, hlowerperm, hlowersorted⟩ := hsorts ancestor _ hsub fun a ha x hx =>
          hancestor a ha x (hsub.subset hx)
        obtain ⟨rest, hrest, hrestperm, hrestsorted⟩ :=
          hsorts (some p.pivot) (p.atLeast compare) (p.kept_sublist _) fun a ha x hx =>
            Option.mem_some.mp ha ▸ Pivoted.compare_of_mem_atLeast hr hx
        refine ⟨lower ++ rest, ?_,
          Pivoted.pairwise_lower_append hr hlowerperm hrestperm hlowersorted hrestsorted⟩
        rw [hrest, Option.bind_eq_bind, Option.bind_some, hlower]
        rfl
      · obtain ⟨upper, hupper, hupperperm, huppersorted⟩ :=
          hsorts none (p.upper compare) (p.apart_sublist _) nofun
        have hleast := Pivoted.least_of_not hr hancestor ‹_›
        refine ⟨p.atMost compare ++ upper, ?_,
          Pivoted.pairwise_atMost_append hr h hleast hupperperm huppersorted⟩
        rw [hupper]
        rfl

end Order

end RowQuery.Sort
