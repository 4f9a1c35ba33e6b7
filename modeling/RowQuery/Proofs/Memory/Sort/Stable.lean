import RowQuery.Proofs.Memory.Sort.Runs

/-!
# Where the sort is a stable sort

The sort looks at its elements through the comparison only, so each can carry its place in the
source along. If the comparison is a preorder, the places make a strict order of it, and the sort
has an answer: the one stable arrangement, which inserting the elements one by one gives too.
-/
namespace RowQuery.Sort

variable {α β : Type} {compare : α → α → Ordering} {source : List α}

theorem sort?_perm {sorted : List α} (h : sort? compare source = some sorted) :
    sorted.Perm source := sort?_rearranges compare source sorted h

theorem sort?_of_length_le (h : source.length ≤ 20) :
    sort? compare source = some (sort compare source) := if_pos h

theorem map_sort? {compareA : α → α → Ordering} {compareB : β → β → Ordering} {f : α → β}
    (h : ∀ a b, compareB (f a) (f b) = compareA a b) (source : List α) :
    (sort? compareA source).map (List.map f) = sort? compareB (source.map f) :=
  sort?_agree h source

theorem map_sort?_of_mem {compareA : α → α → Ordering} {compareB : β → β → Ordering} {f : α → β}
    (h : ∀ a ∈ source, ∀ b ∈ source, compareB (f a) (f b) = compareA a b) :
    (sort? compareA source).map (List.map f) = sort? compareB (source.map f) := by
  let compareMember : {a // a ∈ source} → {a // a ∈ source} → Ordering := fun a b => compareA a b
  have hforget : (sort? compareMember source.attach).map (List.map Subtype.val) =
      sort? compareA source := by
    rw [map_sort? fun _ _ => rfl, List.attach_map_subtype_val]
  have hmember : ∀ a b, compareB ((f ∘ Subtype.val) a) ((f ∘ Subtype.val) b) = compareMember a b :=
    fun a b => h a a.2 b b.2
  have hboth : List.map f ∘ List.map Subtype.val = List.map (f ∘ Subtype.val (p := (· ∈ source))) :=
    funext fun _ => List.map_map
  rw [← hforget, Option.map_map, hboth, map_sort? hmember]
  exact congrArg (sort? compareB) List.attach_map_val

namespace PreorderOn

theorem lt_or_lt (h : PreorderOn compare source) {a b c : α} (ha : a ∈ source) (hb : b ∈ source)
    (hc : c ∈ source) (hac : compare a c = .lt) : compare a b = .lt ∨ compare b c = .lt := by
  by_contra hne
  obtain ⟨hab, hbc⟩ := not_or.mp hne
  have hba : compare b a ≠ .gt := by rwa [h.swap a ha b hb, ne_eq, Ordering.swap_eq_gt]
  have hcb : compare c b ≠ .gt := by rwa [h.swap b hb c hc, ne_eq, Ordering.swap_eq_gt]
  have hca := h.trans c hc b hb a ha hcb hba
  rw [h.swap a ha c hc, hac] at hca
  exact hca rfl

theorem resolves (h : PreorderOn compare source) :
    Resolves (fun a b : {x // x ∈ source.zipIdx} => compare a.1.1 b.1.1)
      fun a b => Before compare a.1 b.1 where
  trans a b c := h.before_trans a.1 a.2 b.1 b.2 c.1 c.2
  asymm a b := not_before_of_before h.swap a.2 b.2
  of_lt _ _ hlt := .inl hlt
  lt_or_lt a b c := h.lt_or_lt (List.fst_mem_of_mem_zipIdx a.2) (List.fst_mem_of_mem_zipIdx b.2)
    (List.fst_mem_of_mem_zipIdx c.2)

/-- On a preorder, the sort puts the elements where inserting them one by one puts them. -/
theorem sort?_eq (h : PreorderOn compare source) :
    sort? compare source = some (sort compare source) := by
  let compareMember : {x // x ∈ source.zipIdx} → {x // x ∈ source.zipIdx} → Ordering :=
    fun a b => compare a.1.1 b.1.1
  have hsource : source.zipIdx.attach.Pairwise
      (Follows compareMember fun a b => Before compare a.1 b.1) := by
    have hnumbered := pairwise_follows_zipIdx h.swap
    rw [← List.attach_map_subtype_val source.zipIdx, List.pairwise_map] at hnumbered
    exact hnumbered
  obtain ⟨members, hmembers, hordered⟩ := sort?_sorts h.resolves _ hsource
  have hforget := map_sort? (fun _ _ => rfl : ∀ a b, compare a.1.1 b.1.1 = compareMember a b)
    source.zipIdx.attach
  rw [hmembers, List.attach_map_val, List.zipIdx_map_fst] at hforget
  have hstable : StablySorted compare source (members.map fun x => x.1.1) := by
    refine ⟨members.map Subtype.val, ?_, List.pairwise_map.mpr hordered, List.map_map⟩
    have hperm := (sort?_perm hmembers).map Subtype.val
    rwa [List.attach_map_subtype_val] at hperm
  rw [← hforget, hstable.sort_eq h.swap, Option.map_some]

end PreorderOn

end RowQuery.Sort
