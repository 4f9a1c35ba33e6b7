import RowQuery.Memory.Sort.Short
import RowQuery.Proofs.Memory.Sort

/-!
# What the sort of a short list gives

Two sorted lists that are merged from both ends are taken apart without overlap if one strict order
sorts them both: an element that both ends took would come before and after one that neither took.
-/
namespace RowQuery.Sort

variable {α β : Type}

/-- A strict order that goes with a comparison and decides between elements that are alike. -/
structure Resolves (compare : α → α → Ordering) (r : α → α → Prop) : Prop where
  trans : ∀ a b c, r a b → r b c → r a c
  asymm : ∀ a b, r a b → ¬r b a
  of_lt : ∀ a b, compare a b = .lt → r a b
  lt_or_lt : ∀ a b c, compare a c = .lt → compare a b = .lt ∨ compare b c = .lt

def Rearranges (sort : List α → Option (List α)) : Prop :=
  ∀ source sorted, sort source = some sorted → sorted.Perm source

def Sorts (compare : α → α → Ordering) (r : α → α → Prop) (sort : List α → Option (List α)) :
    Prop :=
  ∀ source, source.Pairwise (Follows compare r) →
    ∃ sorted, sort source = some sorted ∧ sorted.Pairwise r

/-- Two sorts that do the same with the elements of one list and with what they are mapped to. -/
def Agree (f : α → β) (sortA : List α → Option (List α)) (sortB : List β → Option (List β)) :
    Prop :=
  ∀ source, (sortA source).map (List.map f) = sortB (source.map f)

/-! ## Nothing is lost -/

section Perm

variable {compare : α → α → Ordering}

theorem insertAll_perm (compare : α → α → Ordering) (sorted rest : List α) :
    (insertAll compare sorted rest).Perm (sorted ++ rest) := by
  refine (List.reverse_perm _).trans ((foldl_place_perm compare rest sorted.reverse).trans ?_)
  exact List.perm_append_comm.trans ((List.reverse_perm sorted).append_right rest)

theorem inOrder_perm (compare : α → α → Ordering) (x y : α) :
    [(inOrder compare x y).1, (inOrder compare x y).2].Perm [x, y] := by
  rw [inOrder]
  split
  · exact .swap x y []
  · exact .refl _

theorem sortFour_perm (compare : α → α → Ordering) (v₀ v₁ v₂ v₃ : α) :
    (sortFour compare v₀ v₁ v₂ v₃).Perm [v₀, v₁, v₂, v₃] := by
  have hfirst := inOrder_perm compare v₀ v₁
  have hlast := inOrder_perm compare v₂ v₃
  refine List.Perm.trans ?_ (hfirst.append hlast)
  simp only [sortFour]
  generalize (inOrder compare v₀ v₁).1 = a
  generalize (inOrder compare v₀ v₁).2 = b
  generalize (inOrder compare v₂ v₃).1 = c
  generalize (inOrder compare v₂ v₃).2 = d
  refine (((inOrder_perm compare _ _).append_right [_]).cons _).trans ?_
  simp only [inOrder]
  classical
  split <;> split <;> grind

theorem sortHalf_perm (compare : α → α → Ordering) (four : Bool) (half : List α) :
    (sortHalf compare four half).Perm half := by
  fun_cases sortHalf compare four half with
  | case1 => exact (insertAll_perm compare _ _).trans ((sortFour_perm compare ..).append_right _)
  | case2 => exact sort_perm compare half

theorem takeFront_split (compare : α → α → Ordering) (count : Nat) (left right : List α) :
    ∃ fromLeft fromRight, left = fromLeft ++ (takeFront compare count left right).left ∧
      right = fromRight ++ (takeFront compare count left right).right ∧
      (takeFront compare count left right).taken.Perm (fromLeft ++ fromRight) := by
  fun_induction takeFront compare count left right with
  | case1 count x left y right hlt ih =>
    obtain ⟨fromLeft, fromRight, hleft, hright, hperm⟩ := ih
    exact ⟨fromLeft, y :: fromRight, hleft, congrArg (y :: ·) hright,
      (hperm.cons y).trans List.perm_middle.symm⟩
  | case2 count x left y right hge ih =>
    obtain ⟨fromLeft, fromRight, hleft, hright, hperm⟩ := ih
    exact ⟨x :: fromLeft, fromRight, congrArg (x :: ·) hleft, hright, hperm.cons x⟩
  | case3 => exact ⟨[], [], rfl, rfl, .refl _⟩

theorem takeBack_split (compare : α → α → Ordering) (count : Nat) (left right : List α) :
    ∃ fromLeft fromRight, left = (takeBack compare count left right).left ++ fromLeft ∧
      right = (takeBack compare count left right).right ++ fromRight ∧
      (takeBack compare count left right).taken.Perm (fromLeft ++ fromRight) := by
  obtain ⟨fromRight, fromLeft, hright, hleft, hperm⟩ :=
    takeFront_split (fun x y => compare y x) count right.reverse left.reverse
  rw [List.reverse_eq_append_iff] at hleft hright
  refine ⟨fromLeft.reverse, fromRight.reverse, hleft, hright, ?_⟩
  rw [← List.reverse_append]
  exact (List.reverse_perm _).trans (hperm.trans (List.reverse_perm _).symm)

theorem takeFront_perm (compare : α → α → Ordering) (count : Nat) (left right : List α) :
    ((takeFront compare count left right).taken ++ ((takeFront compare count left right).left ++
      (takeFront compare count left right).right)).Perm (left ++ right) := by
  fun_induction takeFront compare count left right with
  | case1 count x left y right hlt ih => exact (ih.cons y).trans List.perm_middle.symm
  | case2 count x left y right hge ih => exact ih.cons x
  | case3 => exact .refl _

theorem takeBack_perm (compare : α → α → Ordering) (count : Nat) (left right : List α) :
    ((takeBack compare count left right).left ++ (takeBack compare count left right).right ++
      (takeBack compare count left right).taken).Perm (left ++ right) := by
  have hperm := takeFront_perm (fun x y => compare y x) count right.reverse left.reverse
  rw [← List.reverse_append] at hperm
  simp only [takeBack, Merging.reverse, ← List.reverse_append]
  exact (List.reverse_perm _).trans (hperm.trans (List.reverse_perm _))

theorem length_takeFront (compare : α → α → Ordering) {count : Nat} {left right : List α}
    (hleft : count ≤ left.length) (hright : count ≤ right.length) :
    (takeFront compare count left right).taken.length = count := by
  fun_induction takeFront compare count left right with
  | case1 count x left y right hlt ih =>
    exact congrArg (· + 1) (ih (Nat.le_of_succ_le hleft) (Nat.le_of_succ_le_succ hright))
  | case2 count x left y right hge ih =>
    exact congrArg (· + 1) (ih (Nat.le_of_succ_le_succ hleft) (Nat.le_of_succ_le hright))
  | case3 count left right hne =>
    cases count with
    | zero => rfl
    | succ count =>
      obtain ⟨x, left, rfl⟩ :=
        List.exists_cons_of_length_pos (Nat.lt_of_lt_of_le count.succ_pos hleft)
      obtain ⟨y, right, rfl⟩ :=
        List.exists_cons_of_length_pos (Nat.lt_of_lt_of_le count.succ_pos hright)
      exact (hne count x left y right rfl rfl rfl).elim

theorem length_takeBack (compare : α → α → Ordering) {count : Nat} {left right : List α}
    (hleft : count ≤ left.length) (hright : count ≤ right.length) :
    (takeBack compare count left right).taken.length = count := by
  rw [← List.length_reverse] at hleft hright
  exact (List.length_reverse ..).trans (length_takeFront _ hright hleft)

theorem eq_of_between {source front rest back restBack middle : List α}
    (hfront : source = front ++ rest) (hback : source = restBack ++ back)
    (h : between source.length rest restBack = some middle) :
    rest = middle ++ back ∧ restBack = front ++ middle := by
  simp only [between, Option.ite_none_left_eq_some, Nat.not_lt] at h
  obtain ⟨hlength, hmiddle⟩ := h
  have hsum : source.length = front.length + rest.length := by rw [hfront, List.length_append]
  have hrest : restBack.length =
      front.length + (rest.length + restBack.length - source.length) := by omega
  have htake : restBack = front ++ middle := by
    rw [← Option.some.inj hmiddle, ← List.take_length_add_append, ← hfront, ← hrest, hback,
      List.take_left]
  rw [htake, List.append_assoc, hfront] at hback
  exact ⟨List.append_cancel_left hback, htake⟩

/-- The elements that were taken from the ends of two lists, by the list that they were in. -/
structure Ends (left right : List α) (front back : Merging α)
    (frontLeft frontRight backLeft backRight : List α) : Prop where
  front_left : left = frontLeft ++ front.left
  front_right : right = frontRight ++ front.right
  back_left : left = back.left ++ backLeft
  back_right : right = back.right ++ backRight
  front_taken : front.taken.Perm (frontLeft ++ frontRight)
  back_taken : back.taken.Perm (backLeft ++ backRight)

theorem exists_ends (compare : α → α → Ordering) (count : Nat) (left right : List α) :
    ∃ frontLeft frontRight backLeft backRight, Ends left right (takeFront compare count left right)
      (takeBack compare count left right) frontLeft frontRight backLeft backRight := by
  obtain ⟨frontLeft, frontRight, hfl, hfr, hfront⟩ := takeFront_split compare count left right
  obtain ⟨backLeft, backRight, hbl, hbr, hback⟩ := takeBack_split compare count left right
  exact ⟨frontLeft, frontRight, backLeft, backRight, hfl, hfr, hbl, hbr, hfront, hback⟩

theorem Ends.perm {left right frontLeft frontRight backLeft backRight : List α}
    {middleLeft middleRight : List α} {front back : Merging α}
    (h : Ends left right front back frontLeft frontRight backLeft backRight)
    (hl : between left.length front.left back.left = some middleLeft)
    (hr : between right.length front.right back.right = some middleRight) :
    (front.taken ++ middleLeft ++ middleRight ++ back.taken).Perm (left ++ right) := by
  have hleft := h.front_left
  have hright := h.front_right
  rw [(eq_of_between hleft h.back_left hl).1] at hleft
  rw [(eq_of_between hright h.back_right hr).1] at hright
  classical
  rw [List.perm_iff_count]
  intro x
  have hfront := h.front_taken.count_eq x
  have hback := h.back_taken.count_eq x
  have hleft := congrArg (List.count x) hleft
  have hright := congrArg (List.count x) hright
  simp only [List.count_append] at *
  omega

theorem mergeEnds_perm {left right merged : List α}
    (h : mergeEnds compare left right = some merged) : merged.Perm (left ++ right) := by
  simp only [mergeEnds, Option.bind_eq_bind, Option.bind_eq_some_iff] at h
  obtain ⟨middleLeft, hl, middleRight, hr, hmerged⟩ := h
  obtain ⟨_, _, _, _, hends⟩ := exists_ends compare left.length left right
  rw [← Option.some.inj hmerged]
  exact hends.perm hl hr

theorem smallSort_rearranges (compare : α → α → Ordering) : Rearranges (smallSort compare) := by
  intro source sorted h
  rw [smallSort] at h
  split at h
  · rw [Option.some.inj h]
  · refine (mergeEnds_perm h).trans ?_
    refine ((sortHalf_perm compare _ _).append (sortHalf_perm compare _ _)).trans ?_
    rw [List.take_append_drop]

end Perm

/-! ## A map that keeps comparisons -/

section Map

variable {compareA : α → α → Ordering} {compareB : β → β → Ordering} {f : α → β}

def Merging.map (f : α → β) (m : Merging α) : Merging β :=
  ⟨m.taken.map f, m.left.map f, m.right.map f⟩

theorem map_between (size : Nat) (rest restBack : List α) :
    (between size rest restBack).map (List.map f) = between size (rest.map f) (restBack.map f) := by
  simp only [between, List.length_map]
  split
  · rfl
  · rw [Option.map_some, List.map_take]

variable (h : ∀ a b, compareB (f a) (f b) = compareA a b)

include h

theorem map_insertAll (sorted rest : List α) :
    (insertAll compareA sorted rest).map f = insertAll compareB (sorted.map f) (rest.map f) := by
  rw [insertAll, insertAll, List.map_reverse, map_foldl_place h, List.map_reverse]

theorem map_inOrder (x y : α) :
    inOrder compareB (f x) (f y) = (f (inOrder compareA x y).1, f (inOrder compareA x y).2) := by
  rw [inOrder, inOrder, h]
  split <;> rfl

theorem map_sortFour (v₀ v₁ v₂ v₃ : α) :
    (sortFour compareA v₀ v₁ v₂ v₃).map f = sortFour compareB (f v₀) (f v₁) (f v₂) (f v₃) := by
  simp only [sortFour, map_inOrder h, h, ← apply_ite f, List.map_cons, List.map_nil]

theorem map_sortHalf (four : Bool) (half : List α) :
    (sortHalf compareA four half).map f = sortHalf compareB four (half.map f) := by
  match four, half with
  | true, v₀ :: v₁ :: v₂ :: v₃ :: rest =>
    simp only [sortHalf, map_insertAll h, map_sortFour h, List.map_cons]
  | true, [] | true, [_] | true, [_, _] | true, [_, _, _] | false, _ => exact map_sort h _

theorem map_takeFront (count : Nat) (left right : List α) :
    takeFront compareB count (left.map f) (right.map f) =
      (takeFront compareA count left right).map f := by
  fun_induction takeFront compareA count left right with
  | case1 count x left y right hlt ih =>
    simp only [List.map_cons, takeFront, h, hlt, if_true] at ih ⊢
    rw [ih]
    rfl
  | case2 count x left y right hge ih =>
    simp only [List.map_cons, takeFront, h, hge, if_false] at ih ⊢
    rw [ih]
    rfl
  | case3 count left right hne =>
    cases count with
    | zero => rfl
    | succ count =>
      cases left with
      | nil => rfl
      | cons x left =>
        cases right with
        | nil => rfl
        | cons y right => exact (hne count x left y right rfl rfl rfl).elim

theorem map_takeBack (count : Nat) (left right : List α) :
    takeBack compareB count (left.map f) (right.map f) =
      (takeBack compareA count left right).map f := by
  have hflip : ∀ a b, (fun x y => compareB y x) (f a) (f b) = (fun x y => compareA y x) a b :=
    fun a b => h b a
  rw [takeBack, takeBack, ← List.map_reverse, ← List.map_reverse, map_takeFront hflip]
  simp only [Merging.map, Merging.reverse, List.map_reverse]

theorem map_mergeEnds (left right : List α) :
    (mergeEnds compareA left right).map (List.map f) =
      mergeEnds compareB (left.map f) (right.map f) := by
  simp only [mergeEnds, List.length_map, map_takeFront h, map_takeBack h, Merging.map,
    ← map_between]
  cases between left.length _ _ with
  | none => rfl
  | some middleLeft =>
    cases between right.length _ _ with
    | none => rfl
    | some middleRight => simp

theorem smallSort_agree : Agree f (smallSort compareA) (smallSort compareB) := by
  intro source
  simp only [smallSort, List.length_map]
  split
  · rfl
  · rw [map_mergeEnds h, map_sortHalf h, map_sortHalf h, List.map_take, List.map_drop]

end Map

/-! ## In order -/

section Order

variable {compare : α → α → Ordering} {r : α → α → Prop} {left right source : List α}

theorem Follows.of_ge {x y : α} (h : Follows compare r x y) (hge : compare y x ≠ .lt) : r x y := by
  rwa [Follows, if_neg hge] at h

namespace Resolves

theorem not_lt_of (hr : Resolves compare r) {x y : α} (h : r x y) : compare y x ≠ .lt :=
  fun hlt => hr.asymm x y h (hr.of_lt y x hlt)

theorem irrefl (hr : Resolves compare r) (x : α) : compare x x ≠ .lt :=
  fun hlt => hr.asymm x x (hr.of_lt x x hlt) (hr.of_lt x x hlt)

theorem follows (hr : Resolves compare r) {x y : α} (h : r x y) : Follows compare r x y := by
  rwa [Follows, if_neg (hr.not_lt_of h)]

theorem pairwise_follows (hr : Resolves compare r) (h : source.Pairwise r) :
    source.Pairwise (Follows compare r) := h.imp hr.follows

end Resolves

theorem pairwise_insertAll (hr : Resolves compare r) {sorted rest : List α}
    (hsorted : sorted.Pairwise r) (h : (sorted ++ rest).Pairwise (Follows compare r)) :
    (insertAll compare sorted rest).Pairwise r := by
  induction rest generalizing sorted with
  | nil => simpa [insertAll] using hsorted
  | cons x rest ih =>
    obtain ⟨-, hrest, hcross⟩ := List.pairwise_append.mp h
    obtain ⟨hx, hrest⟩ := List.pairwise_cons.mp hrest
    let next := (place compare x sorted.reverse).reverse
    have hmem : ∀ y ∈ next, y = x ∨ y ∈ sorted := by
      intro y hy
      have hy := (place_perm compare x _).mem_iff.mp (List.mem_reverse.mp hy)
      simpa using hy
    have hnext : next.Pairwise r := by
      have hsorted := List.pairwise_reverse.mpr hsorted
      refine List.pairwise_reverse.mpr
        (pairwise_place (fun y hy => ?_) (fun y _ z _ => hr.trans z y x) hsorted)
      exact hcross y (List.mem_reverse.mp hy) x List.mem_cons_self
    have hinsert : insertAll compare sorted (x :: rest) = insertAll compare next rest := by
      simp only [insertAll, next, List.foldl_cons, List.reverse_reverse]
    rw [hinsert]
    refine ih hnext (List.pairwise_append.mpr ⟨hr.pairwise_follows hnext, hrest, ?_⟩)
    intro y hy z hz
    rcases hmem y hy with rfl | hy
    · exact hx z hz
    · exact hcross y hy z (List.mem_cons_of_mem x hz)

theorem inOrder_of_lt {x y : α} (h : compare y x = .lt) : inOrder compare x y = (y, x) := if_pos h

theorem inOrder_of_ge {x y : α} (h : compare y x ≠ .lt) : inOrder compare x y = (x, y) := if_neg h

theorem ordered_inOrder {x y : α} (h : Follows compare r x y) :
    r (inOrder compare x y).1 (inOrder compare x y).2 := by
  by_cases hlt : compare y x = .lt
  · rw [inOrder_of_lt hlt]
    simpa only [Follows, hlt, if_true] using h
  · rw [inOrder_of_ge hlt]
    exact h.of_ge hlt

theorem inOrder_mem (compare : α → α → Ordering) (x y : α) :
    (inOrder compare x y).1 ∈ [x, y] ∧ (inOrder compare x y).2 ∈ [x, y] := by
  rw [inOrder]
  split <;> simp

theorem pairwise_four (hr : Resolves compare r) {w x y z : α} (h : Follows compare r x y)
    (hw : ∀ v ∈ [x, y], r w v) (hz : ∀ v ∈ [x, y], r v z) :
    [w, (inOrder compare x y).1, (inOrder compare x y).2, z].Pairwise r := by
  obtain ⟨hfirst, hlast⟩ := inOrder_mem compare x y
  have hwz : r w z := hr.trans w x z (hw x (by simp)) (hz x (by simp))
  simp [ordered_inOrder h, hw _ hfirst, hw _ hlast, hz _ hfirst, hz _ hlast, hwz]

theorem pairwise_sortFour (hr : Resolves compare r) {v₀ v₁ v₂ v₃ : α}
    (h : [v₀, v₁, v₂, v₃].Pairwise (Follows compare r)) :
    (sortFour compare v₀ v₁ v₂ v₃).Pairwise r := by
  have h : ([v₀, v₁] ++ [v₂, v₃]).Pairwise (Follows compare r) := h
  obtain ⟨hfirst, hlast, hcross⟩ := List.pairwise_append.mp h
  have hab := ordered_inOrder (List.pairwise_pair.mp hfirst)
  have hcd := ordered_inOrder (List.pairwise_pair.mp hlast)
  obtain ⟨ha, hb⟩ := inOrder_mem compare v₀ v₁
  obtain ⟨hc, hd⟩ := inOrder_mem compare v₂ v₃
  simp only [sortFour]
  generalize (inOrder compare v₀ v₁).1 = a at *
  generalize (inOrder compare v₀ v₁).2 = b at *
  generalize (inOrder compare v₂ v₃).1 = c at *
  generalize (inOrder compare v₂ v₃).2 = d at *
  have hac := hcross a ha c hc
  have hbd := hcross b hb d hd
  -- The two comparisons decide the ends, and which two are between them.
  by_cases hca : compare c a = .lt <;> by_cases hdb : compare d b = .lt
  · rw [inOrder_of_lt hca, inOrder_of_lt hdb, if_pos hca, if_pos hdb]
    refine pairwise_four hr (hcross a ha d hd) ?_ ?_
    · simpa using ⟨hr.of_lt c a hca, hcd⟩
    · simpa using ⟨hab, hr.of_lt d b hdb⟩
  · rw [inOrder_of_lt hca, inOrder_of_ge hdb, if_pos hca, if_neg hdb, if_pos hca]
    refine pairwise_four hr (hr.follows hab) ?_ ?_
    · simpa using ⟨hr.of_lt c a hca, hr.trans c a b (hr.of_lt c a hca) hab⟩
    · simpa using ⟨hr.trans a b d hab (hbd.of_ge hdb), hbd.of_ge hdb⟩
  · rw [inOrder_of_ge hca, inOrder_of_lt hdb, if_neg hca, if_pos hdb, if_pos hdb]
    refine pairwise_four hr (hr.follows hcd) ?_ ?_
    · simpa using ⟨hac.of_ge hca, hr.trans a c d (hac.of_ge hca) hcd⟩
    · simpa using ⟨hr.trans c d b hcd (hr.of_lt d b hdb), hr.of_lt d b hdb⟩
  · rw [inOrder_of_ge hca, inOrder_of_ge hdb, if_neg hca, if_neg hdb, if_neg hdb, if_neg hca]
    refine pairwise_four hr (hcross b hb c hc) ?_ ?_
    · simpa using ⟨hab, hac.of_ge hca⟩
    · simpa using ⟨hbd.of_ge hdb, hcd⟩

def Merging.OrderedFront (r : α → α → Prop) (m : Merging α) : Prop :=
  m.taken.Pairwise r ∧ ∀ x ∈ m.taken, ∀ y ∈ m.left ++ m.right, r x y

def Merging.OrderedBack (r : α → α → Prop) (m : Merging α) : Prop :=
  m.taken.Pairwise r ∧ ∀ x ∈ m.taken, ∀ y ∈ m.left ++ m.right, r y x

theorem orderedFront_after {count : Nat} {x : α} (hx : ∀ y ∈ left ++ right, r x y)
    (h : (takeFront compare count left right).OrderedFront r) :
    ((takeFront compare count left right).after x).OrderedFront r := by
  obtain ⟨htaken, hrest⟩ := h
  obtain ⟨hall, hleft⟩ := List.forall_mem_append.mp fun y hy =>
    hx y ((takeFront_perm compare count left right).mem_iff.mp hy)
  exact ⟨List.pairwise_cons.mpr ⟨hall, htaken⟩, List.forall_mem_cons.mpr ⟨hleft, hrest⟩⟩

theorem orderedFront_takeFront (htrans : ∀ a b c, r a b → r b c → r a c) (count : Nat)
    (hleft : left.Pairwise r) (hright : right.Pairwise r)
    (h : ∀ x ∈ left, ∀ y ∈ right, Follows compare r x y) :
    (takeFront compare count left right).OrderedFront r := by
  fun_induction takeFront compare count left right with
  | case1 count x left y right hlt ih =>
    obtain ⟨hy, hright⟩ := List.pairwise_cons.mp hright
    have hyx : r y x := by simpa [Follows, hlt] using h x List.mem_cons_self y List.mem_cons_self
    have hfirst : ∀ z ∈ (x :: left) ++ right, r y z := by
      intro z hz
      rcases List.mem_append.mp hz with hz | hz
      · rcases List.mem_cons.mp hz with rfl | hz
        · exact hyx
        · exact htrans y x z hyx ((List.pairwise_cons.mp hleft).1 z hz)
      · exact hy z hz
    exact orderedFront_after hfirst
      (ih hleft hright fun z hz w hw => h z hz w (List.mem_cons_of_mem y hw))
  | case2 count x left y right hge ih =>
    obtain ⟨hx, hleft⟩ := List.pairwise_cons.mp hleft
    have hxy : r x y := (h x List.mem_cons_self y List.mem_cons_self).of_ge hge
    have hfirst : ∀ z ∈ left ++ (y :: right), r x z := by
      intro z hz
      rcases List.mem_append.mp hz with hz | hz
      · exact hx z hz
      · rcases List.mem_cons.mp hz with rfl | hz
        · exact hxy
        · exact htrans x y z hxy ((List.pairwise_cons.mp hright).1 z hz)
    exact orderedFront_after hfirst (ih hleft hright fun z hz => h z (List.mem_cons_of_mem x hz))
  | case3 => exact ⟨.nil, fun x hx => absurd hx List.not_mem_nil⟩

theorem orderedBack_takeBack (htrans : ∀ a b c, r a b → r b c → r a c) (count : Nat)
    (hleft : left.Pairwise r) (hright : right.Pairwise r)
    (h : ∀ x ∈ left, ∀ y ∈ right, Follows compare r x y) :
    (takeBack compare count left right).OrderedBack r := by
  -- From the other side, the order and the comparison are the other way round.
  have hfront : (takeFront (fun x y => compare y x) count right.reverse left.reverse).OrderedFront
      fun x y => r y x :=
    orderedFront_takeFront (fun a b c hab hbc => htrans c b a hbc hab) count
      (List.pairwise_reverse.mpr hright) (List.pairwise_reverse.mpr hleft)
      fun y hy x hx => h x (List.mem_reverse.mp hx) y (List.mem_reverse.mp hy)
  refine ⟨List.pairwise_reverse.mpr hfront.1, fun x hx y hy => ?_⟩
  refine hfront.2 x (List.mem_reverse.mp hx) y ?_
  simpa [takeBack, Merging.reverse, or_comm] using hy

theorem exists_mem_of_overlap {front rest back restBack : List α} (hfront : source = front ++ rest)
    (hback : source = restBack ++ back) (h : source.length < front.length + back.length) :
    ∃ x ∈ front, x ∈ back := by
  rw [hfront] at hback
  rcases List.append_eq_append_iff.mp hback with ⟨middle, -, rfl⟩ | ⟨middle, rfl, rfl⟩ <;>
    simp only [hfront, List.length_append] at h
  · omega
  · have hmiddle : 0 < middle.length := by omega
    obtain ⟨x, hx⟩ := List.exists_mem_of_length_pos hmiddle
    exact ⟨x, List.mem_append_right _ hx, List.mem_append_left _ hx⟩

theorem pairwise_of_length_lt_two (h : source.length < 2) : source.Pairwise r := by
  match source, h with
  | [], _ => exact .nil
  | [x], _ => exact List.pairwise_singleton r x

theorem pairwise_sortHalf (hr : Resolves compare r) (four : Bool) {half : List α}
    (h : half.Pairwise (Follows compare r)) : (sortHalf compare four half).Pairwise r := by
  fun_cases sortHalf compare four half with
  | case1 v₀ v₁ v₂ v₃ rest =>
    have h : ([v₀, v₁, v₂, v₃] ++ rest).Pairwise (Follows compare r) := h
    obtain ⟨hfour, hrest, hcross⟩ := List.pairwise_append.mp h
    have hsorted := pairwise_sortFour hr hfour
    refine pairwise_insertAll hr hsorted
      (List.pairwise_append.mpr ⟨hr.pairwise_follows hsorted, hrest, ?_⟩)
    exact fun x hx => hcross x ((sortFour_perm ..).mem_iff.mp hx)
  | case2 => exact pairwise_insertAll hr .nil h

/-- If the ends of one list overlap, those of the other one do not meet. -/
theorem exists_mem_of_lengths {first last f f' b b' g g' c c' : List α}
    (hf : first = f ++ f') (hb : first = b' ++ b) (hg : last = g ++ g') (hc : last = c' ++ c)
    (hoverlap : f'.length + b'.length < first.length)
    (hlength : f.length + g.length + (b.length + c.length) ≤ first.length + last.length) :
    ∃ z ∈ f, z ∈ b ∧ ∃ w ∈ g', w ∈ c' := by
  have hlengths := And.intro (congrArg List.length hf) (congrArg List.length hb)
  have hlengths' := And.intro (congrArg List.length hg) (congrArg List.length hc)
  simp only [List.length_append] at hlengths hlengths'
  obtain ⟨z, hzf, hzb⟩ := exists_mem_of_overlap hf hb (by omega)
  obtain ⟨w, hwc, hwg⟩ := exists_mem_of_overlap hc hg (by omega)
  exact ⟨z, hzf, hzb, w, hwg, hwc⟩

namespace Ends

variable {front back : Merging α} {frontLeft frontRight backLeft backRight : List α}

/-- An element that both ends took would stand on both sides of one that neither took. -/
theorem exists_between (h : Ends left right front back frontLeft frontRight backLeft backRight)
    (hasymm : ∀ a b, r a b → ¬r b a) (hfront : front.OrderedFront r) (hback : back.OrderedBack r)
    (hlength : front.taken.length + back.taken.length ≤ left.length + right.length) :
    (∃ middle, between left.length front.left back.left = some middle) ∧
      ∃ middle, between right.length front.right back.right = some middle := by
  rw [h.front_taken.length_eq, h.back_taken.length_eq, List.length_append, List.length_append]
    at hlength
  have hclash : ∀ z ∈ front.taken, z ∈ back.taken → ∀ w ∈ front.left ++ front.right,
      w ∉ back.left ++ back.right :=
    fun z hz hz' w hw hw' => hasymm z w (hfront.2 z hz w hw) (hback.2 z hz' w hw')
  constructor
  · refine ⟨_, if_neg fun hlt => ?_⟩
    obtain ⟨z, hz, hz', w, hw, hw'⟩ := exists_mem_of_lengths h.front_left h.back_left h.front_right
      h.back_right hlt hlength
    exact hclash z (h.front_taken.mem_iff.mpr (List.mem_append_left _ hz))
      (h.back_taken.mem_iff.mpr (List.mem_append_left _ hz')) w (List.mem_append_right _ hw)
      (List.mem_append_right _ hw')
  · refine ⟨_, if_neg fun hlt => ?_⟩
    obtain ⟨z, hz, hz', w, hw, hw'⟩ := exists_mem_of_lengths h.front_right h.back_right h.front_left
      h.back_left hlt (by omega)
    exact hclash z (h.front_taken.mem_iff.mpr (List.mem_append_right _ hz))
      (h.back_taken.mem_iff.mpr (List.mem_append_right _ hz')) w (List.mem_append_left _ hw)
      (List.mem_append_left _ hw')

theorem pairwise (h : Ends left right front back frontLeft frontRight backLeft backRight)
    (hfront : front.OrderedFront r) (hback : back.OrderedBack r) {middleLeft middleRight : List α}
    (hlength : left.length + right.length < front.taken.length + back.taken.length + 2)
    (hl : between left.length front.left back.left = some middleLeft)
    (hr : between right.length front.right back.right = some middleRight) :
    (front.taken ++ middleLeft ++ middleRight ++ back.taken).Pairwise r := by
  obtain ⟨hfrontLeft, hbackLeft⟩ := eq_of_between h.front_left h.back_left hl
  obtain ⟨hfrontRight, hbackRight⟩ := eq_of_between h.front_right h.back_right hr
  have hmiddle : (middleLeft ++ middleRight).Pairwise r := by
    have hsum := (h.perm hl hr).length_eq
    simp only [List.length_append] at hsum
    exact pairwise_of_length_lt_two (by rw [List.length_append]; omega)
  have hbefore : ∀ x ∈ front.taken, ∀ y ∈ middleLeft ++ middleRight ++ back.taken, r x y := by
    intro x hx y hy
    refine hfront.2 x hx y ?_
    rw [hfrontLeft, hfrontRight]
    simp only [List.mem_append, h.back_taken.mem_iff] at hy ⊢
    tauto
  have hafter : ∀ x ∈ middleLeft ++ middleRight, ∀ y ∈ back.taken, r x y := by
    intro x hx y hy
    refine hback.2 y hy x ?_
    rw [hbackLeft, hbackRight]
    simp only [List.mem_append] at hx ⊢
    tauto
  rw [List.append_assoc front.taken, List.append_assoc front.taken]
  exact List.pairwise_append.mpr
    ⟨hfront.1, List.pairwise_append.mpr ⟨hmiddle, hback.1, hafter⟩, hbefore⟩

end Ends

theorem mergeEnds_sorted (hr : Resolves compare r) (hshort : left.length ≤ right.length)
    (hlong : right.length ≤ left.length + 1) (hleft : left.Pairwise r) (hright : right.Pairwise r)
    (h : ∀ x ∈ left, ∀ y ∈ right, Follows compare r x y) :
    ∃ merged, mergeEnds compare left right = some merged ∧ merged.Pairwise r := by
  have hfront := orderedFront_takeFront hr.trans left.length hleft hright h
  have hback := orderedBack_takeBack hr.trans left.length hleft hright h
  have hfrontlength := length_takeFront compare (Nat.le_refl left.length) hshort
  have hbacklength := length_takeBack compare (Nat.le_refl left.length) hshort
  obtain ⟨_, _, _, _, hends⟩ := exists_ends compare left.length left right
  obtain ⟨⟨middleLeft, hl⟩, middleRight, hr⟩ :=
    hends.exists_between hr.asymm hfront hback (by omega)
  refine ⟨_, ?_, hends.pairwise hfront hback (by omega) hl hr⟩
  simp only [mergeEnds, hl, hr, Option.bind_eq_bind, Option.bind_some]

theorem smallSort_sorts (hr : Resolves compare r) : Sorts compare r (smallSort compare) := by
  intro source h
  rw [smallSort]
  split
  · exact ⟨source, rfl, pairwise_of_length_lt_two ‹_›⟩
  · have h : (source.take (source.length / 2) ++ source.drop (source.length / 2)).Pairwise
        (Follows compare r) := by rwa [List.take_append_drop]
    obtain ⟨hfirst, hlast, hcross⟩ := List.pairwise_append.mp h
    have hfirst := pairwise_sortHalf hr (decide (8 ≤ source.length)) hfirst
    have hlast := pairwise_sortHalf hr (decide (8 ≤ source.length)) hlast
    have hhalf : ∀ half, (sortHalf compare (decide (8 ≤ source.length)) half).length =
        half.length := fun half => (sortHalf_perm ..).length_eq
    refine mergeEnds_sorted hr ?_ ?_ hfirst hlast ?_
    · rw [hhalf, hhalf, List.length_take, List.length_drop]
      omega
    · rw [hhalf, hhalf, List.length_take, List.length_drop]
      omega
    · intro x hx y hy
      exact hcross x ((sortHalf_perm ..).mem_iff.mp hx) y ((sortHalf_perm ..).mem_iff.mp hy)

end Order

end RowQuery.Sort
