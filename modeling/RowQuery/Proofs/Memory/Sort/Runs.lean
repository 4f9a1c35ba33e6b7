import RowQuery.Memory.Sort.Runs
import RowQuery.Proofs.Memory.Sort.Quick

/-!
# What sorting by runs gives

However runs are joined, they stay next to one another, and what they hold together is the source
rearranged. A stretch that descends strictly has no two elements that are alike, so it may be
reversed. If the comparison is a preorder on the source, the sort gives the one stable arrangement.
-/
namespace RowQuery.Sort

variable {α β : Type}

def elements (runs : List (Run α)) : List α := runs.flatMap Run.items

def waiting (before : List (Run α × Nat)) : List α := elements (before.map Prod.fst).reverse

theorem waiting_cons (run : Run α) (depth : Nat) (before : List (Run α × Nat)) :
    waiting ((run, depth) :: before) = waiting before ++ run.items := by
  simp [waiting, elements]

/-! ## Nothing is lost -/

section Perm

variable {compare : α → α → Ordering} {sort : List α → Option (List α)}
  {join : Run α → Run α → Option (Run α)}

theorem take_length_take (count : Nat) (source : List α) :
    source.take (source.take count).length = source.take count := by
  rw [List.length_take, List.take_eq_take_iff]
  omega

theorem orderedFront_perm (compare : α → α → Ordering) (source : List α) :
    (orderedFront compare source).Perm (source.take (orderedFront compare source).length) := by
  fun_cases orderedFront compare source with
  | case1 x y rest hlt =>
    rw [List.length_reverse, take_length_take]
    exact List.reverse_perm _
  | case2 x y rest hge => rw [take_length_take]
  | case3 => rw [List.take_length]

theorem nextRun_perm {good : Nat} {eager : Bool} {source : List α} {run : Run α}
    (h : nextRun compare good eager source = some run) :
    run.items.Perm (source.take run.items.length) := by
  rw [nextRun] at h
  split at h
  · rw [← Option.some.inj h]
    exact orderedFront_perm compare source
  · split at h
    · obtain ⟨items, hitems, rfl⟩ := Option.map_eq_some_iff.mp h
      have hperm := smallSort_rearranges compare _ items hitems
      rw [hperm.length_eq, take_length_take]
      exact hperm
    · rw [← Option.some.inj h, take_length_take]

theorem nextRun_ne_nil {good : Nat} (hgood : 0 < good) {eager : Bool} {source : List α}
    {run : Run α} (hsource : source ≠ []) (h : nextRun compare good eager source = some run) :
    0 < run.items.length := by
  have hlength : 0 < source.length := List.length_pos_iff.mpr hsource
  rw [nextRun] at h
  split at h
  · rw [← Option.some.inj h]
    exact Nat.lt_of_lt_of_le hgood ‹_›
  · split at h
    · obtain ⟨items, hitems, rfl⟩ := Option.map_eq_some_iff.mp h
      rw [(smallSort_rearranges compare _ items hitems).length_eq, List.length_take]
      omega
    · rw [← Option.some.inj h, List.length_take]
      omega

theorem elements_runs_perm {good : Nat} (hgood : 0 < good) {eager : Bool} {count : Nat}
    {source : List α} {rs : List (Run α)} (hcount : source.length ≤ count)
    (h : runs compare good eager count source = some rs) : (elements rs).Perm source := by
  fun_induction runs compare good eager count source generalizing rs with
  | case1 source =>
    rw [← Option.some.inj h, List.length_eq_zero_iff.mp (Nat.le_zero.mp hcount)]
    exact .refl _
  | case2 =>
    rw [← Option.some.inj h]
    exact .refl _
  | case3 count source hne ih =>
    simp only [Option.bind_eq_bind, Option.bind_eq_some_iff, Option.some.injEq] at h
    obtain ⟨run, hrun, rest, hrest, rfl⟩ := h
    -- No run is empty, so the count is enough for what is left.
    have hpos := nextRun_ne_nil hgood hne hrun
    have hrest := ih run (by rw [List.length_drop]; omega) hrest
    have hperm := (nextRun_perm hrun).append hrest
    rwa [List.take_append_drop] at hperm

theorem merge_perm (compare : α → α → Ordering) (left right : List α) :
    (merge compare left right).Perm (left ++ right) := by
  rw [merge]
  split
  · rw [List.append_assoc]
    exact takeFront_perm ..
  · exact takeBack_perm ..

theorem settled_perm (hsort : Rearranges sort) {run : Run α} {sorted : List α}
    (h : run.settled sort = some sorted) : sorted.Perm run.items := by
  rw [Run.settled] at h
  split at h
  · rw [Option.some.inj h]
  · exact hsort _ _ h

theorem join_perm (hsort : Rearranges sort) {room : Nat} {left right run : Run α}
    (h : Run.join compare sort room left right = some run) :
    run.items.Perm (left.items ++ right.items) := by
  rw [Run.join] at h
  split at h
  · rw [← Option.some.inj h]
  · simp only [Option.bind_eq_bind, Option.bind_eq_some_iff, Option.some.injEq] at h
    obtain ⟨first, hfirst, last, hlast, rfl⟩ := h
    exact (merge_perm compare first last).trans
      ((settled_perm hsort hfirst).append (settled_perm hsort hlast))

theorem collapse_perm
    (hjoin : ∀ left right run, join left right = some run → run.items.Perm (left.items ++ right.items))
    {depth : Nat} {before before' : List (Run α × Nat)} {run run' : Run α}
    (h : collapse join depth before run = some (before', run')) :
    (waiting before' ++ run'.items).Perm (waiting before ++ run.items) := by
  fun_induction collapse join depth before run with
  | case1 run =>
    obtain ⟨rfl, rfl⟩ := Prod.mk.inj (Option.some.inj h)
    exact .refl _
  | case2 left leftDepth before run hdeep ih =>
    obtain ⟨joined, hjoined, h⟩ := Option.bind_eq_some_iff.mp h
    refine (ih joined h).trans ?_
    rw [waiting_cons, List.append_assoc]
    exact (hjoin _ _ _ hjoined).append_left _
  | case3 left leftDepth before run hshallow =>
    obtain ⟨rfl, rfl⟩ := Prod.mk.inj (Option.some.inj h)
    exact .refl _

theorem eq_nil_of_collapse_zero {before before' : List (Run α × Nat)} {run run' : Run α}
    (h : collapse join 0 before run = some (before', run')) : before' = [] := by
  fun_induction collapse join 0 before run with
  | case1 run => exact (Prod.mk.inj (Option.some.inj h)).1.symm
  | case2 left leftDepth before run hdeep ih =>
    obtain ⟨joined, -, h⟩ := Option.bind_eq_some_iff.mp h
    exact ih joined h
  | case3 left leftDepth before run hshallow => exact absurd (Nat.zero_le _) hshallow

theorem joinRuns_perm
    (hjoin : ∀ left right run, join left right = some run → run.items.Perm (left.items ++ right.items))
    {scale : Nat} {before : List (Run α × Nat)} {last : Run α} {stop : Nat} {rest : List (Run α)}
    {run : Run α} (h : joinRuns join scale before last stop rest = some run) :
    run.items.Perm (waiting before ++ last.items ++ elements rest) := by
  induction rest generalizing before last stop with
  | nil =>
    obtain ⟨⟨before', run'⟩, hcollapse, rfl⟩ := Option.map_eq_some_iff.mp h
    have hperm := collapse_perm hjoin hcollapse
    rw [eq_nil_of_collapse_zero hcollapse] at hperm
    simpa [elements, waiting] using hperm
  | cons next rest ih =>
    simp only [joinRuns, Option.bind_eq_bind, Option.bind_eq_some_iff] at h
    obtain ⟨⟨before', last'⟩, hcollapse, h⟩ := h
    refine (ih h).trans ?_
    rw [waiting_cons]
    have hperm := (collapse_perm hjoin hcollapse).append_right (next.items ++ elements rest)
    simpa [elements] using hperm

theorem goodLength_pos {n : Nat} (h : 0 < n) : 0 < goodLength n := by
  fun_cases goodLength n with
  | case1 hshort => omega
  | case2 hlong shift =>
    have hlog : 1 ≤ n.log2 := (Nat.le_log2 (by omega)).mpr (by omega)
    have hpow : 2 ≤ 1 <<< shift := by
      rw [Nat.shiftLeft_eq, Nat.one_mul]
      exact Nat.le_self_pow (by omega) 2
    exact Nat.div_pos (Nat.le_add_right_of_le hpow) Nat.two_pos

theorem sortRuns_rearranges {eager : Bool} (hsort : Rearranges sort) (room : Nat) :
    Rearranges (sortRuns compare eager sort room) := by
  intro source sorted h
  simp only [sortRuns, Option.bind_eq_bind, Option.bind_eq_some_iff] at h
  obtain ⟨rs, hruns, h⟩ := h
  cases rs with
  | nil => rw [Option.some.inj h]
  | cons first rest =>
    obtain ⟨run, hrun, h⟩ := Option.bind_eq_some_iff.mp h
    have hpos : 0 < source.length := by
      rw [Nat.pos_iff_ne_zero]
      intro hnil
      rw [hnil, runs] at hruns
      cases hruns
    have hperm := elements_runs_perm (goodLength_pos hpos) (Nat.le_refl _) hruns
    have hjoined := joinRuns_perm (fun _ _ _ => join_perm hsort) hrun
    exact (settled_perm hsort h).trans (hjoined.trans (by simpa [waiting, elements] using hperm))

theorem sort?_rearranges (compare : α → α → Ordering) : Rearranges (sort? compare) := by
  intro source sorted h
  rw [sort?] at h
  split at h
  · rw [← Option.some.inj h]
    exact sort_perm compare source
  · have heager : Rearranges (sortRuns compare true (smallSort compare) (roomFor source.length)) :=
      sortRuns_rearranges (smallSort_rearranges compare) _
    exact sortRuns_rearranges (fun part => quicksort_rearranges heager _ none part) _ source sorted h

end Perm

/-! ## A map that keeps comparisons -/

section Map

variable {compareA : α → α → Ordering} {compareB : β → β → Ordering} {f : α → β}
  {sortA : List α → Option (List α)} {sortB : List β → Option (List β)}

def Run.map (f : α → β) (run : Run α) : Run β := ⟨run.items.map f, run.sorted⟩

theorem runLength_map {continuesA : α → α → Bool} {continuesB : β → β → Bool}
    (h : ∀ a b, continuesB (f a) (f b) = continuesA a b) (last : α) (rest : List α) :
    runLength continuesB (f last) (rest.map f) = runLength continuesA last rest := by
  induction rest generalizing last with
  | nil => rfl
  | cons x rest ih => rw [List.map_cons, runLength, runLength, h, ih]

theorem settled_map (hsort : Agree f sortA sortB) (run : Run α) :
    (run.map f).settled sortB = (run.settled sortA).map (List.map f) := by
  simp only [Run.settled, Run.map, ← hsort _]
  split <;> rfl

section Join

variable {joinA : Run α → Run α → Option (Run α)} {joinB : Run β → Run β → Option (Run β)}

theorem collapse_map
    (hjoin : ∀ left right, joinB (left.map f) (right.map f) = (joinA left right).map (Run.map f))
    (depth : Nat) (before : List (Run α × Nat)) (run : Run α) :
    collapse joinB depth (before.map (Prod.map (Run.map f) id)) (run.map f) =
      (collapse joinA depth before run).map
        (Prod.map (List.map (Prod.map (Run.map f) id)) (Run.map f)) := by
  induction before generalizing run with
  | nil => rfl
  | cons last before ih =>
    obtain ⟨left, leftDepth⟩ := last
    simp only [collapse, List.map_cons, Prod.map_apply, id_eq, hjoin]
    split
    · cases joinA left run with
      | none => rfl
      | some joined => exact ih joined
    · rfl

theorem joinRuns_map
    (hjoin : ∀ left right, joinB (left.map f) (right.map f) = (joinA left right).map (Run.map f))
    (scale : Nat) (before : List (Run α × Nat)) (last : Run α) (stop : Nat) (rest : List (Run α)) :
    joinRuns joinB scale (before.map (Prod.map (Run.map f) id)) (last.map f) stop
        (rest.map (Run.map f)) =
      (joinRuns joinA scale before last stop rest).map (Run.map f) := by
  induction rest generalizing before last stop with
  | nil =>
    simp only [joinRuns, List.map_nil, collapse_map hjoin]
    cases collapse joinA 0 before last <;> rfl
  | cons run rest ih =>
    have hlast : (last.map f).items.length = last.items.length := List.length_map ..
    have hrun : (run.map f).items.length = run.items.length := List.length_map ..
    simp only [joinRuns, List.map_cons, collapse_map hjoin, hlast, hrun]
    cases collapse joinA (depthAt scale (stop - last.items.length) stop (stop + run.items.length))
        before last with
    | none => rfl
    | some joined => exact ih ((joined.2, _) :: joined.1) run _

end Join

variable (h : ∀ a b, compareB (f a) (f b) = compareA a b)

include h

theorem orderedFront_map (source : List α) :
    orderedFront compareB (source.map f) = (orderedFront compareA source).map f := by
  match source with
  | [] | [_] => rfl
  | x :: y :: rest =>
    have hlength : ∀ goes : Ordering → Bool,
        runLength (fun x y => goes (compareB y x)) (f y) (rest.map f) =
          runLength (fun x y => goes (compareA y x)) y rest :=
      fun goes => runLength_map (fun a b => by rw [h]) y rest
    have hdown := hlength fun o => o = .lt
    have hup := hlength fun o => o ≠ .lt
    simp only [orderedFront, List.map_cons, h, hdown, hup]
    split <;> simp only [List.map_reverse, List.map_take, List.map_cons]

theorem nextRun_map (good : Nat) (eager : Bool) (source : List α) :
    nextRun compareB good eager (source.map f) =
      (nextRun compareA good eager source).map (Run.map f) := by
  simp only [nextRun, orderedFront_map h, List.length_map, ← List.map_take, ← smallSort_agree h _]
  split
  · rfl
  · split
    · cases smallSort compareA (source.take 32) <;> rfl
    · rfl

theorem runs_map (good : Nat) (eager : Bool) (count : Nat) (source : List α) :
    runs compareB good eager count (source.map f) =
      (runs compareA good eager count source).map (List.map (Run.map f)) := by
  induction count generalizing source with
  | zero => rfl
  | succ count ih =>
    cases source with
    | nil => rfl
    | cons x rest =>
      have hnext := nextRun_map h good eager (x :: rest)
      rw [List.map_cons] at hnext
      simp only [runs, List.map_cons, hnext]
      cases nextRun compareA good eager (x :: rest) with
      | none => rfl
      | some run =>
        have hrest := ih ((x :: rest).drop run.items.length)
        simp only [List.map_drop, List.map_cons] at hrest
        simp only [Option.map_some, Option.bind_eq_bind, Option.bind_some, Run.map, List.length_map,
          hrest]
        cases runs compareA good eager count ((x :: rest).drop run.items.length) <;> rfl

theorem merge_map (left right : List α) :
    merge compareB (left.map f) (right.map f) = (merge compareA left right).map f := by
  simp only [merge, List.length_map, map_takeFront h, map_takeBack h, Merging.map]
  split <;> simp only [List.map_append]

theorem join_map (hsort : Agree f sortA sortB) (room : Nat) (left right : Run α) :
    Run.join compareB sortB room (left.map f) (right.map f) =
      (Run.join compareA sortA room left right).map (Run.map f) := by
  simp only [Run.join, settled_map hsort]
  simp only [Run.map, List.length_map]
  split
  · simp [Run.map]
  · cases left.settled sortA <;> cases right.settled sortA <;> simp [Run.map, merge_map h]

theorem sortRuns_agree (hsort : Agree f sortA sortB) (eager : Bool) (room : Nat) :
    Agree f (sortRuns compareA eager sortA room) (sortRuns compareB eager sortB room) := by
  intro source
  simp only [sortRuns, List.length_map, runs_map h]
  cases runs compareA (goodLength source.length) eager source.length source with
  | none => rfl
  | some rs =>
    cases rs with
    | nil => rfl
    | cons first rest =>
      have hfirst : (first.map f).items.length = first.items.length := List.length_map ..
      have hjoined := fun scale =>
        joinRuns_map (join_map h hsort room) scale [] first first.items.length rest
      simp only [List.map_nil] at hjoined
      simp only [Option.map_some, Option.bind_eq_bind, Option.bind_some, List.map_cons, hfirst,
        hjoined]
      cases joinRuns (Run.join compareA sortA room) _ [] first first.items.length rest with
      | none => rfl
      | some run => exact (settled_map hsort run).symm

theorem sort?_agree : Agree f (sort? compareA) (sort? compareB) := by
  intro source
  simp only [sort?, List.length_map]
  split
  · rw [Option.map_some, map_sort h]
  · refine sortRuns_agree h (fun part => ?_) _ _ source
    change _ = quicksort compareB _ _ (Option.map f none) _
    rw [List.length_map]
    exact quicksort_agree h (sortRuns_agree h (smallSort_agree h) true _) _ none part

end Map

/-! ## In order -/

section Order

variable {compare : α → α → Ordering} {r : α → α → Prop} {source left right : List α}
  {sort : List α → Option (List α)} {join : Run α → Run α → Option (Run α)}

def Run.Ordered (r : α → α → Prop) (run : Run α) : Prop :=
  run.sorted = true → run.items.Pairwise r

theorem pairwise_take_runLength {continues : α → α → Bool} {s : α → α → Prop}
    (htrans : ∀ a b c, s a b → s b c → s a c) {last : α} {rest : List α}
    (h : (last :: rest).Pairwise fun a b => continues a b = true → s a b) :
    (last :: rest.take (runLength continues last rest)).Pairwise s := by
  induction rest generalizing last with
  | nil => simp
  | cons x rest ih =>
    obtain ⟨hlast, hrest⟩ := List.pairwise_cons.mp h
    rw [runLength]
    split
    · have hx := hlast x List.mem_cons_self ‹_›
      have htake := ih hrest
      refine List.pairwise_cons.mpr ⟨fun y hy => ?_, htake⟩
      rcases List.mem_cons.mp hy with rfl | hy
      · exact hx
      · exact htrans last x y hx ((List.pairwise_cons.mp htake).1 y hy)
    · simp

theorem pairwise_orderedFront (hr : Resolves compare r) (h : source.Pairwise (Follows compare r)) :
    (orderedFront compare source).Pairwise r := by
  match source, h with
  | [], _ => exact .nil
  | [x], _ => exact List.pairwise_singleton r x
  | x :: y :: rest, h =>
    rw [orderedFront]
    split
    · rename_i hlt
      have hpairs : (x :: y :: rest).Pairwise fun a b =>
          decide (compare b a = .lt) = true → r b a :=
        h.imp fun {a b} _ hlt => hr.of_lt b a (of_decide_eq_true hlt)
      have hrun := pairwise_take_runLength (fun a b c hab hbc => hr.trans c b a hbc hab) hpairs
      rw [runLength, if_pos (decide_eq_true hlt)] at hrun
      exact List.pairwise_reverse.mpr hrun
    · rename_i hge
      have hpairs : (x :: y :: rest).Pairwise fun a b =>
          decide (compare b a ≠ .lt) = true → r a b :=
        h.imp fun hfollows hge => hfollows.of_ge (of_decide_eq_true hge)
      have hrun := pairwise_take_runLength hr.trans hpairs
      rwa [runLength, if_pos (decide_eq_true hge)] at hrun

theorem nextRun_sorts (hr : Resolves compare r) (good : Nat) (eager : Bool)
    (h : source.Pairwise (Follows compare r)) :
    ∃ run, nextRun compare good eager source = some run ∧ run.Ordered r ∧
      run.items.Pairwise (Follows compare r) := by
  have hsorted : ∀ {items : List α}, items.Pairwise r →
      (⟨items, true⟩ : Run α).Ordered r ∧ items.Pairwise (Follows compare r) :=
    fun hitems => ⟨fun _ => hitems, hr.pairwise_follows hitems⟩
  rw [nextRun]
  split
  · exact ⟨_, rfl, hsorted (pairwise_orderedFront hr h)⟩
  · split
    · obtain ⟨items, hitems, hordered⟩ :=
        smallSort_sorts hr (source.take 32) (h.sublist (List.take_sublist _ _))
      exact ⟨⟨items, true⟩, by rw [hitems]; rfl, hsorted hordered⟩
    · exact ⟨_, rfl, nofun, h.sublist (List.take_sublist _ _)⟩

theorem runs_sorts (hr : Resolves compare r) {good : Nat} (hgood : 0 < good) (eager : Bool)
    {count : Nat} (hcount : source.length ≤ count) (h : source.Pairwise (Follows compare r)) :
    ∃ rs, runs compare good eager count source = some rs ∧ (∀ run ∈ rs, run.Ordered r) ∧
      (elements rs).Pairwise (Follows compare r) := by
  induction count generalizing source with
  | zero => exact ⟨[], rfl, nofun, .nil⟩
  | succ count ih =>
    cases source with
    | nil => exact ⟨[], rfl, nofun, .nil⟩
    | cons x rest =>
      obtain ⟨run, hrun, hordered, hitems⟩ := nextRun_sorts hr good eager h
      have hpos := nextRun_ne_nil hgood (List.cons_ne_nil x rest) hrun
      rw [← List.take_append_drop run.items.length (x :: rest)] at h
      obtain ⟨-, hdrop, hcross⟩ := List.pairwise_append.mp h
      have hshorter : ((x :: rest).drop run.items.length).length ≤ count := by
        rw [List.length_drop]
        omega
      obtain ⟨rs, hrs, hall, hrest⟩ := ih hshorter hdrop
      have hperm := elements_runs_perm hgood hshorter hrs
      refine ⟨run :: rs, ?_, List.forall_mem_cons.mpr ⟨hordered, hall⟩,
        List.pairwise_append.mpr ⟨hitems, hrest, fun a ha b hb => ?_⟩⟩
      · simp only [runs, hrun, hrs, Option.bind_eq_bind, Option.bind_some]
      · exact hcross a ((nextRun_perm hrun).mem_iff.mp ha) b (hperm.mem_iff.mp hb)

/-- A merge that takes all elements exhausts a list. -/
theorem takeFront_exhausts (compare : α → α → Ordering) {count : Nat} {left right : List α}
    (h : left.length + right.length ≤ count) :
    (takeFront compare count left right).left = [] ∨
      (takeFront compare count left right).right = [] := by
  fun_induction takeFront compare count left right with
  | case1 count x left y right hlt ih =>
    simp only [List.length_cons] at h ih
    exact ih (by omega)
  | case2 count x left y right hge ih =>
    simp only [List.length_cons] at h ih
    exact ih (by omega)
  | case3 count left right hne =>
    cases left with
    | nil => exact .inl rfl
    | cons x left =>
      cases right with
      | nil => exact .inr rfl
      | cons y right =>
        cases count with
        | zero => simp at h
        | succ count => exact (hne count x left y right rfl rfl rfl).elim

theorem takeBack_exhausts (compare : α → α → Ordering) {count : Nat} {left right : List α}
    (h : left.length + right.length ≤ count) :
    (takeBack compare count left right).left = [] ∨
      (takeBack compare count left right).right = [] := by
  have hlengths : right.reverse.length + left.reverse.length ≤ count := by
    rw [List.length_reverse, List.length_reverse]
    omega
  refine (takeFront_exhausts (fun x y => compare y x) hlengths).symm.imp ?_ ?_ <;>
    exact fun hempty => List.reverse_eq_nil_iff.mpr hempty

theorem pairwise_rest {m : Merging α} (hempty : m.left = [] ∨ m.right = [])
    (hleft : m.left.Pairwise r) (hright : m.right.Pairwise r) : (m.left ++ m.right).Pairwise r := by
  rcases hempty with hempty | hempty
  · simpa [hempty] using hright
  · simpa [hempty] using hleft

theorem merge_sorted (hr : Resolves compare r) (hleft : left.Pairwise r) (hright : right.Pairwise r)
    (h : ∀ x ∈ left, ∀ y ∈ right, Follows compare r x y) :
    (merge compare left right).Pairwise r := by
  obtain ⟨_, _, _, _, hends⟩ := exists_ends compare (left.length + right.length) left right
  have hfront := orderedFront_takeFront hr.trans (left.length + right.length) hleft hright h
  have hback := orderedBack_takeBack hr.trans (left.length + right.length) hleft hright h
  rw [merge]
  split
  · rw [hends.front_left, List.pairwise_append] at hleft
    rw [hends.front_right, List.pairwise_append] at hright
    have hrest := pairwise_rest (takeFront_exhausts compare (Nat.le_refl _)) hleft.2.1 hright.2.1
    rw [List.append_assoc]
    exact List.pairwise_append.mpr ⟨hfront.1, hrest, hfront.2⟩
  · rw [hends.back_left, List.pairwise_append] at hleft
    rw [hends.back_right, List.pairwise_append] at hright
    have hrest := pairwise_rest (takeBack_exhausts compare (Nat.le_refl _)) hleft.1 hright.1
    exact List.pairwise_append.mpr ⟨hrest, hback.1, fun x hx y hy => hback.2 y hy x hx⟩

theorem settled_sorts (hsort : Sorts compare r sort) {run : Run α} (hordered : run.Ordered r)
    (h : run.items.Pairwise (Follows compare r)) :
    ∃ sorted, run.settled sort = some sorted ∧ sorted.Pairwise r := by
  rw [Run.settled]
  split
  · exact ⟨run.items, rfl, hordered ‹_›⟩
  · exact hsort run.items h

def Joins (compare : α → α → Ordering) (r : α → α → Prop)
    (join : Run α → Run α → Option (Run α)) : Prop :=
  ∀ left right : Run α, left.Ordered r → right.Ordered r →
    (left.items ++ right.items).Pairwise (Follows compare r) →
    ∃ run, join left right = some run ∧ run.Ordered r ∧ run.items.Pairwise (Follows compare r)

theorem join_joins (hr : Resolves compare r) (hperm : Rearranges sort)
    (hsort : Sorts compare r sort) (room : Nat) :
    Joins compare r (Run.join compare sort room) := by
  intro left right hleft hright h
  rw [Run.join]
  split
  · exact ⟨_, rfl, nofun, h⟩
  · obtain ⟨hl, hr', hcross⟩ := List.pairwise_append.mp h
    obtain ⟨first, hfirst, hfirstsorted⟩ := settled_sorts hsort hleft hl
    obtain ⟨last, hlast, hlastsorted⟩ := settled_sorts hsort hright hr'
    have hmerged : (merge compare first last).Pairwise r := by
      refine merge_sorted hr hfirstsorted hlastsorted fun x hx y hy => ?_
      exact hcross x ((settled_perm hperm hfirst).mem_iff.mp hx) y
        ((settled_perm hperm hlast).mem_iff.mp hy)
    refine ⟨⟨merge compare first last, true⟩, ?_, fun _ => hmerged, hr.pairwise_follows hmerged⟩
    simp only [hfirst, hlast, Option.bind_eq_bind, Option.bind_some]

theorem pairwise_append_of_perm {s : α → α → Prop} {first first' last last' : List α}
    (h : (first ++ last).Pairwise s) (hfirstperm : first'.Perm first) (hlastperm : last'.Perm last)
    (hfirst : first'.Pairwise s) (hlast : last'.Pairwise s) : (first' ++ last').Pairwise s := by
  obtain ⟨-, -, hcross⟩ := List.pairwise_append.mp h
  refine List.pairwise_append.mpr ⟨hfirst, hlast, fun x hx y hy => ?_⟩
  exact hcross x (hfirstperm.mem_iff.mp hx) y (hlastperm.mem_iff.mp hy)

theorem collapse_joins
    (hperm : ∀ left right run, join left right = some run → run.items.Perm (left.items ++ right.items))
    (hjoin : Joins compare r join) (depth : Nat) {before : List (Run α × Nat)} {run : Run α}
    (hbefore : ∀ entry ∈ before, entry.1.Ordered r) (hrun : run.Ordered r)
    (h : (waiting before ++ run.items).Pairwise (Follows compare r)) :
    ∃ before' run', collapse join depth before run = some (before', run') ∧
      (∀ entry ∈ before', entry.1.Ordered r) ∧ run'.Ordered r ∧
      (waiting before' ++ run'.items).Pairwise (Follows compare r) := by
  induction before generalizing run with
  | nil => exact ⟨[], run, rfl, nofun, hrun, h⟩
  | cons entry before ih =>
    obtain ⟨left, leftDepth⟩ := entry
    rw [collapse]
    split
    · obtain ⟨hleft, hbefore⟩ := List.forall_mem_cons.mp hbefore
      rw [waiting_cons, List.append_assoc] at h
      obtain ⟨hwaiting, hlast, -⟩ := List.pairwise_append.mp h
      obtain ⟨joined, hjoined, hordered, hitems⟩ := hjoin left run hleft hrun hlast
      rw [hjoined]
      exact ih hbefore hordered
        (pairwise_append_of_perm h (.refl _) (hperm _ _ _ hjoined) hwaiting hitems)
    · exact ⟨_, run, rfl, hbefore, hrun, h⟩

theorem joinRuns_joins
    (hperm : ∀ left right run, join left right = some run → run.items.Perm (left.items ++ right.items))
    (hjoin : Joins compare r join) (scale : Nat) {before : List (Run α × Nat)} {last : Run α}
    (stop : Nat) {rest : List (Run α)} (hbefore : ∀ entry ∈ before, entry.1.Ordered r)
    (hlast : last.Ordered r) (hrest : ∀ run ∈ rest, run.Ordered r)
    (h : (waiting before ++ last.items ++ elements rest).Pairwise (Follows compare r)) :
    ∃ run, joinRuns join scale before last stop rest = some run ∧ run.Ordered r ∧
      run.items.Pairwise (Follows compare r) := by
  induction rest generalizing before last stop with
  | nil =>
    obtain ⟨before', run, hrun, -, hordered, hitems⟩ := collapse_joins hperm hjoin 0 hbefore hlast
      (by simpa [elements] using h)
    refine ⟨run, by simp [joinRuns, hrun], hordered, (List.pairwise_append.mp hitems).2.1⟩
  | cons next rest ih =>
    obtain ⟨hnext, hrest⟩ := List.forall_mem_cons.mp hrest
    have hsplit : (waiting before ++ last.items ++ (next.items ++ elements rest)).Pairwise
        (Follows compare r) := h
    obtain ⟨hfirst, helements, -⟩ := List.pairwise_append.mp hsplit
    let depth := depthAt scale (stop - last.items.length) stop (stop + next.items.length)
    obtain ⟨before', last', hcollapse, hbefore', hlast', hitems⟩ :=
      collapse_joins hperm hjoin depth hbefore hlast hfirst
    -- What waits, the run now seen and the runs to come still follow one another as in the source.
    have hperm' := collapse_perm hperm hcollapse
    have hentries : ∀ entry ∈ (last', depth) :: before', entry.1.Ordered r :=
      List.forall_mem_cons.mpr ⟨hlast', hbefore'⟩
    have hall : (waiting ((last', depth) :: before') ++ next.items ++ elements rest).Pairwise
        (Follows compare r) := by
      rw [waiting_cons, List.append_assoc]
      exact pairwise_append_of_perm hsplit hperm' (.refl _) hitems helements
    obtain ⟨run, hrun, hordered, hruns⟩ := ih (stop + next.items.length) hentries hnext hrest hall
    refine ⟨run, ?_, hordered, hruns⟩
    change (collapse join depth before last >>= _) = _
    rw [hcollapse]
    exact hrun

theorem sortRuns_sorts (hr : Resolves compare r) (hperm : Rearranges sort)
    (hsort : Sorts compare r sort) (eager : Bool) (room : Nat) :
    Sorts compare r (sortRuns compare eager sort room) := by
  intro source h
  cases source with
  | nil => exact ⟨[], rfl, .nil⟩
  | cons x rest =>
    have hgood := goodLength_pos (Nat.succ_pos rest.length)
    obtain ⟨rs, hruns, hordered, hitems⟩ := runs_sorts hr hgood eager (Nat.le_refl _) h
    have hruns' : runs compare (goodLength (x :: rest).length) eager (x :: rest).length
        (x :: rest) = some rs := hruns
    cases rs with
    | nil =>
      have hperm := elements_runs_perm hgood (Nat.le_refl _) hruns
      exact absurd hperm.length_eq (by simp [elements])
    | cons first others =>
      obtain ⟨hfirst, hothers⟩ := List.forall_mem_cons.mp hordered
      have hall : (waiting [] ++ first.items ++ elements others).Pairwise (Follows compare r) :=
        hitems
      have hnone : ∀ entry ∈ ([] : List (Run α × Nat)), entry.1.Ordered r := nofun
      let scale := (Nat.pow 2 62 + (x :: rest).length - 1) / (x :: rest).length
      obtain ⟨run, hrun, hrunordered, hrunitems⟩ := joinRuns_joins (fun _ _ _ => join_perm hperm)
        (join_joins hr hperm hsort room) scale first.items.length hnone hfirst hothers hall
      obtain ⟨sorted, hsettled, hsorted⟩ := settled_sorts hsort hrunordered hrunitems
      refine ⟨sorted, ?_, hsorted⟩
      rw [sortRuns, hruns']
      change (joinRuns (Run.join compare sort room) scale [] first first.items.length others
        >>= _) = _
      rw [hrun]
      exact hsettled

theorem sort?_sorts (hr : Resolves compare r) : Sorts compare r (sort? compare) := by
  intro source h
  rw [sort?]
  split
  · exact ⟨_, rfl, pairwise_sort (fun a _ b _ c _ => hr.trans a b c) h⟩
  · have hperm : Rearranges (sortRuns compare true (smallSort compare) (roomFor source.length)) :=
      sortRuns_rearranges (smallSort_rearranges compare) _
    have heager := sortRuns_sorts hr (smallSort_rearranges compare) (smallSort_sorts hr) true
      (roomFor source.length)
    refine sortRuns_sorts hr (fun part => ?_) (fun part hpart => ?_) _ _ source h
    · exact quicksort_rearranges hperm _ none part
    · exact quicksort_sorts hr hperm heager _ none nofun hpart

end Order

end RowQuery.Sort
