import RowQuery.Proofs.Memory.Lexicographic
import RowQuery.Proofs.Memory.Paged
import RowQuery.Proofs.Number.Units

/-!
# Rows in order

Under a key whose numbers are all integers, or all binary numbers, no number is blurred, and the
comparison of rows is a total preorder. `Precedes` gives its order outright: by the types of values,
by value within a type, the other way round for a descending key, the first key that tells two rows
apart deciding. Rows in memory are put into that order, and rows that are alike stay as they were.
To sort by more keys is to sort by the last of them first.
-/
namespace RowQuery

namespace Number

/-- Integers by value, and so binary numbers, but minus zero just before zero. -/
def Precedes : Number → Number → Prop
  | int i, int j => i.value < j.value
  | float x, float y =>
    x.signed < y.signed ∨ x.signed = y.signed ∧ x.negative = true ∧ y.negative = false
  | _, _ => False

theorem position_lt_iff (x y : Binary64) :
    (float x).position < (float y).position ↔ (float x).Precedes (float y) := by
  have hlt := Binary64.units_strictMono.lt_iff_lt (a := x.magnitude) (b := y.magnitude)
  have hgt := Binary64.units_strictMono.lt_iff_lt (a := y.magnitude) (b := x.magnitude)
  simp only [position, Binary64.position, Precedes, Binary64.signed]
  cases x.negative <;> cases y.negative <;> simp <;> omega

end Number

namespace Json

/-- The order of values: null, booleans, numbers, strings, and at the end arrays and objects, which
are all alike. -/
def Precedes : Json → Json → Prop
  | null, bool _ | null, number _ | null, string _ | null, array _ | null, object _ => True
  | bool x, bool y => x = false ∧ y = true
  | bool _, number _ | bool _, string _ | bool _, array _ | bool _, object _ => True
  | number m, number n => m.Precedes n
  | number _, string _ | number _, array _ | number _, object _ => True
  | string s, string t => s < t
  | string _, array _ | string _, object _ => True
  | _, _ => False

/-- The numbers among some values are all integers, or all binary numbers. -/
def Uniform (values : List Json) : Prop :=
  (∀ x, number (.float x) ∉ values) ∨ ∀ i, number (.int i) ∉ values

variable {values : List Json} {v w : Json}

theorem compare_number_eq_lt_iff {m n : Number} (h : Uniform values) (hm : number m ∈ values)
    (hn : number n ∈ values) : m.compare n = .lt ↔ m.Precedes n := by
  cases m with
  | int i =>
    cases n with
    | int j =>
      rw [Number.compare_int, Int.compare_eq_lt]
      rfl
    | float y => exact (h.elim (fun hfloat => hfloat y hn) fun hint => hint i hm).elim
  | float x =>
    cases n with
    | int j => exact (h.elim (fun hfloat => hfloat x hm) fun hint => hint j hn).elim
    | float y => rw [Number.compare_float_left, Int.compare_eq_lt, Number.position_lt_iff]

theorem compare_eq_lt_iff (h : Uniform values) (hv : v ∈ values) (hw : w ∈ values) :
    v.compare w = .lt ↔ v.Precedes w := by
  cases v <;> cases w
  case number.number => exact compare_number_eq_lt_iff h hv hw
  case string.string => exact compareOfLessAndEq_eq_lt
  case bool.bool x y =>
    have hbool : ∀ x y : Bool, Ord.compare x y = .lt ↔ x = false ∧ y = true := by decide
    exact hbool x y
  -- Values of no common type, and those that are all alike.
  all_goals simp [Json.compare, Precedes, rank, Nat.compare_eq_lt]

theorem not_blurs_of_uniform (h : Uniform values) (hv : v ∈ values) (hw : w ∈ values) (u : Json) :
    ¬v.Blurs w u := by
  intro hblur
  obtain ⟨f, m, n, rfl, rfl, rfl, hblur⟩ := exists_of_blurs hblur
  obtain ⟨x, i, j, rfl, rfl, rfl, -⟩ := Number.exists_of_blurs hblur
  exact h.elim (fun hfloat => hfloat x hv) fun hint => hint i hw

end Json

namespace OrderKey

def Precedes (key : OrderKey) (a b : Row) : Prop :=
  match key.direction with
  | .ascending => (key.value a).Precedes (key.value b)
  | .descending => (key.value b).Precedes (key.value a)

def Uniform (key : OrderKey) (rows : List Row) : Prop := Json.Uniform (rows.map key.value)

variable {key : OrderKey} {rows : List Row} {a b : Row}

theorem compare_eq_lt_iff (h : key.Uniform rows) (ha : a ∈ rows) (hb : b ∈ rows) :
    key.compare a b = .lt ↔ key.Precedes a b := by
  have ha : key.value a ∈ rows.map key.value := List.mem_map_of_mem ha
  have hb : key.value b ∈ rows.map key.value := List.mem_map_of_mem hb
  rw [compare_eq_orient, Precedes]
  cases key.direction with
  | ascending => exact Json.compare_eq_lt_iff h ha hb
  | descending =>
    rw [Direction.orient, ← Json.compare_swap]
    exact Json.compare_eq_lt_iff h hb ha

theorem preorderOn (h : key.Uniform rows) : Sort.PreorderOn key.compare rows := by
  refine .of_trans (fun a _ b _ => key.compare_swap a b) fun a ha b hb c hc hab hbc => ?_
  refine (compare_trans_or_blurs hab hbc).resolve_right ?_
  exact Json.not_blurs_of_uniform h (List.mem_map_of_mem hb) (List.mem_map_of_mem ha) _

end OrderKey

namespace SortOrder

/-- One row comes before another: the first key that tells them apart says so. -/
def Precedes : SortOrder → Row → Row → Prop
  | [], _, _ => False
  | key :: rest, a, b => key.Precedes a b ∨ ¬key.Precedes b a ∧ Precedes rest a b

def Uniform (order : SortOrder) (rows : List Row) : Prop := ∀ key ∈ order, key.Uniform rows

variable {order first second : SortOrder} {rows : List Row} {a b : Row}

theorem Uniform.of_perm {other : List Row} (h : order.Uniform rows) (hperm : other.Perm rows) :
    order.Uniform other := by
  intro key hkey
  have hvalues := hperm.map key.value
  simpa only [OrderKey.Uniform, Json.Uniform, hvalues.mem_iff] using h key hkey

theorem compare_eq_lt_iff (h : order.Uniform rows) (ha : a ∈ rows) (hb : b ∈ rows) :
    order.compare a b = .lt ↔ order.Precedes a b := by
  induction order with
  | nil => simp [SortOrder.compare, Precedes]
  | cons key rest ih =>
    obtain ⟨hkey, hrest⟩ := List.forall_mem_cons.mp h
    have hab := OrderKey.compare_eq_lt_iff hkey ha hb
    have hba := OrderKey.compare_eq_lt_iff hkey hb ha
    rw [key.compare_swap a b, Ordering.swap_eq_lt] at hba
    rw [compare_cons, Precedes, ← hab, ← hba, ← ih hrest]
    cases key.compare a b <;> simp

theorem preorderOn (h : order.Uniform rows) : Sort.PreorderOn order.compare rows := by
  induction order with
  | nil => exact .of_trans (fun _ _ _ _ => rfl) fun _ _ _ _ _ _ _ _ => Ordering.noConfusion
  | cons key rest ih =>
    obtain ⟨hkey, hrest⟩ := List.forall_mem_cons.mp h
    exact (OrderKey.preorderOn hkey).then (ih hrest)

theorem compare_append_eq_compareLex (first second : SortOrder) :
    SortOrder.compare (first ++ second) = compareLex first.compare second.compare :=
  funext fun a => funext fun b => compare_append first second a b

end SortOrder

namespace MemoryQuery

variable {rows : List Row} {order first second : SortOrder}

theorem rows_of_order (rows : List Row) (order : SortOrder) :
    ({ source := rows, order } : MemoryQuery).rows = Sort.sort? order.compare rows := by
  have hrows : ({ source := rows, order } : MemoryQuery).behind =
      Sort.sort? order.compare rows := by
    rw [behind_eq_cut]
    exact Option.map_id'
  have hprojection : ({ source := rows, order } : MemoryQuery).projection = id := rfl
  rw [rows_eq_map_behind, hrows, hprojection]
  simp only [List.map_id, Option.map_id']

theorem rows_of_uniform (h : order.Uniform rows) :
    ({ source := rows, order } : MemoryQuery).rows = some (Sort.sort order.compare rows) :=
  (rows_of_order rows order).trans (SortOrder.preorderOn h).sort?_eq

/-- Sorting rows always has an answer, loses none of them and puts them in order, those that are
alike as they were before. The order is that of the values under the first key that tells two rows
apart. -/
theorem rows_stably_sorted (h : order.Uniform rows) :
    (∃ sorted, ({ source := rows, order } : MemoryQuery).rows = some sorted ∧
      sorted.Perm rows ∧
      sorted.Pairwise (fun a b => order.compare a b ≠ .gt) ∧
      Sort.StablySorted order.compare rows sorted) ∧
    ∀ a ∈ rows, ∀ b ∈ rows, order.compare a b = .lt ↔ order.Precedes a b := by
  have hpreorder := SortOrder.preorderOn h
  refine ⟨⟨_, rows_of_uniform h, Sort.sort_perm _ rows, hpreorder.pairwise_sort_ne_gt,
    hpreorder.stablySorted_sort⟩, ?_⟩
  exact fun a ha b hb => SortOrder.compare_eq_lt_iff h ha hb

/-- A text, nothing, two integers that share no signed type, a boolean and null, from the last. -/
theorem rows_stably_sorted_mixed :
    let a : Row := [("id", .string "a"), ("v", .string "text")]
    let b : Row := [("id", .string "b")]
    let c : Row := [("v", .number (.int ⟨1, by decide, by decide⟩))]
    let d : Row := [("v", .number (.int ⟨0xffffffffffffffff, by decide, by decide⟩))]
    let e : Row := [("v", .bool true)]
    let f : Row := [("v", .null)]
    let rows := [a, b, c, d, e, f]
    let order : SortOrder := [⟨"v", .descending⟩]
    let sorted := [a, d, c, e, b, f]
    order.Uniform rows ∧ ({ source := rows, order } : MemoryQuery).rows = some sorted ∧
      sorted.Perm rows ∧ Sort.StablySorted order.compare rows sorted := by
  intro a b c d e f rows order sorted
  have huniform : order.Uniform rows := by
    refine List.forall_mem_singleton.mpr (.inl fun x => ?_)
    simp [rows, a, b, c, d, e, f, OrderKey.value, Row.get?, List.lookup_cons]
  obtain ⟨⟨found, hfound, hperm, -, hstable⟩, -⟩ := rows_stably_sorted huniform
  have hsorted : ({ source := rows, order } : MemoryQuery).rows = some sorted := rfl
  obtain rfl : sorted = found := Option.some.inj (hsorted.symm.trans hfound)
  exact ⟨huniform, hsorted, hperm, hstable⟩

/-- Rows ordered by some keys and then by more are those that the further keys ordered, ordered by
the first keys. Further keys move no two rows past each other that the first ones tell apart, where
rows are known by their place in the source. -/
theorem rows_append (h : SortOrder.Uniform (first ++ second) rows) :
    let ordered := fun (order : SortOrder) (rows : List Row) =>
      ({ source := rows, order } : MemoryQuery).rows
    (∃ refined sorted, ordered second rows = some refined ∧ ordered first refined = some sorted ∧
      ordered (first ++ second) rows = some sorted) ∧
    (∀ order : SortOrder, order.Uniform rows →
      ordered order rows = some ((Sort.arrange order.compare rows).map Prod.fst)) ∧
    ∀ x ∈ rows.zipIdx, ∀ y ∈ rows.zipIdx, first.compare x.1 y.1 ≠ .eq →
      ([x, y].Sublist (Sort.arrange first.compare rows) ↔
        [x, y].Sublist (Sort.arrange (SortOrder.compare (first ++ second)) rows)) := by
  intro ordered
  obtain ⟨hfirst, hsecond⟩ := List.forall_mem_append.mp h
  have hrefined : (Sort.sort second.compare rows).Perm rows := Sort.sort_perm _ rows
  have hfirst' : first.Uniform (Sort.sort second.compare rows) :=
    SortOrder.Uniform.of_perm hfirst hrefined
  have hsorted := Sort.sort_then (SortOrder.preorderOn hfirst) (SortOrder.preorderOn hsecond)
  rw [← SortOrder.compare_append_eq_compareLex] at hsorted
  refine ⟨⟨_, _, rows_of_uniform hsecond, rows_of_uniform hfirst', ?_⟩, fun order horder => ?_, ?_⟩
  · rw [← hsorted]
    exact rows_of_uniform h
  · rw [Sort.map_fst_arrange]
    exact rows_of_uniform horder
  · intro x hx y hy hne
    rw [SortOrder.compare_append_eq_compareLex]
    exact Sort.pair_sublist_arrange_iff (SortOrder.preorderOn hfirst) (SortOrder.preorderOn hsecond)
      hx hy hne

/-- Books by shelf, and on a shelf by number from the last. -/
theorem rows_append_shelf_number :
    let row := fun (shelf : String) (number : UInt64) =>
      ([("shelf", .string shelf), ("number", .ofUInt64 number)] : Row)
    let rows := [row "b" 1, row "a" 1, row "b" 2, row "a" 2]
    let first : SortOrder := [⟨"shelf", .ascending⟩]
    let second : SortOrder := [⟨"number", .descending⟩]
    let ordered := fun (order : SortOrder) (rows : List Row) =>
      ({ source := rows, order } : MemoryQuery).rows
    SortOrder.Uniform (first ++ second) rows ∧
    ordered second rows = some [row "b" 2, row "a" 2, row "b" 1, row "a" 1] ∧
    ordered (first ++ second) rows = some [row "a" 2, row "a" 1, row "b" 2, row "b" 1] ∧
    ordered first [row "b" 2, row "a" 2, row "b" 1, row "a" 1] = ordered (first ++ second) rows ∧
    [(row "a" 1, 1), (row "b" 2, 2)].Sublist
      (Sort.arrange (SortOrder.compare (first ++ second)) rows) := by
  intro row rows first second ordered
  have huniform : SortOrder.Uniform (first ++ second) rows := by
    refine List.forall_mem_cons.mpr
      ⟨.inl fun x => ?_, List.forall_mem_singleton.mpr (.inl fun x => ?_)⟩
    · simp [rows, row, OrderKey.value, Row.get?]
    · simp [rows, row, OrderKey.value, Row.get?, List.lookup_cons, Json.ofUInt64]
  obtain ⟨⟨refined, sorted, hrefined, hsorted, happend⟩, -, hplaces⟩ := rows_append huniform
  have hsecond : ordered second rows = some [row "b" 2, row "a" 2, row "b" 1, row "a" 1] := rfl
  obtain rfl := Option.some.inj (hsecond.symm.trans hrefined)
  refine ⟨huniform, hsecond, rfl, hsorted.trans happend.symm, ?_⟩
  have harranged : Sort.arrange first.compare rows =
      [(row "a" 1, 1), (row "a" 2, 3), (row "b" 1, 0), (row "b" 2, 2)] := rfl
  refine (hplaces _ (by simp [rows]) _ (by simp [rows]) (by decide)).mp ?_
  rw [harranged]
  exact .cons_cons _ (.cons _ (.cons _ (.cons_cons _ .slnil)))

end MemoryQuery
end RowQuery
