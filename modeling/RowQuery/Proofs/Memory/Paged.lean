import Mathlib.Data.List.Perm.Subperm
import RowQuery.Proofs.Apply.Validate
import RowQuery.Proofs.Memory.Narrowed
import RowQuery.Proofs.Memory.Sorted
import RowQuery.Proofs.Page

/-!
# A query on top of a page in memory

A limit or an offset of a query takes the place of the one before, and keys of a query refine the
order before a page is cut. So the rows behind the result are among those behind the page only if
the query stays on the page: there is none, or nothing is left, or the new page lies within it and
the query sorts by fields of the order only. Where a query leaves the page, there are rows on which
it shows one that the page did not have.
-/
namespace RowQuery

namespace OrderKey

variable {key other : OrderKey} {a b : Row}

theorem compare_eq_eq_iff : key.compare a b = .eq ↔ (key.value a).compare (key.value b) = .eq := by
  rw [compare_eq_orient, Direction.orient_eq_eq_iff]

theorem compare_eq_eq_of_field (hfield : key.field = other.field) (h : other.compare a b = .eq) :
    key.compare a b = .eq := by
  rw [compare_eq_eq_iff] at h ⊢
  rwa [value, value, hfield]

end OrderKey

namespace SortOrder

variable {order keys : SortOrder} {a b : Row}

theorem compare_append (order keys : SortOrder) (a b : Row) :
    SortOrder.compare (order ++ keys) a b = (order.compare a b).then (keys.compare a b) := by
  induction order with
  | nil => rfl
  | cons key rest ih => rw [List.cons_append, compare_cons, compare_cons, ih, Ordering.then_assoc]

theorem compare_eq_eq_iff : order.compare a b = .eq ↔ ∀ key ∈ order, key.compare a b = .eq := by
  induction order with
  | nil => simp [SortOrder.compare]
  | cons key rest ih => rw [compare_cons, Ordering.then_eq_eq, ih, List.forall_mem_cons]

def Knows (order keys : SortOrder) : Prop :=
  ∀ key ∈ keys, ∃ known ∈ order, known.field = key.field

theorem compare_append_of_knows (h : order.Knows keys) :
    SortOrder.compare (order ++ keys) = order.compare := by
  funext a b
  rw [compare_append]
  cases hab : order.compare a b with
  | lt => rfl
  | gt => rfl
  | eq =>
    have hkeys : keys.compare a b = .eq := by
      rw [compare_eq_eq_iff] at hab ⊢
      intro key hkey
      obtain ⟨known, hknown, hfield⟩ := h key hkey
      exact OrderKey.compare_eq_eq_of_field hfield.symm (hab known hknown)
    rw [hkeys]
    rfl

variable {first last : Row}

theorem ne_of_compare_lt (h : order.compare first last = .lt) : first ≠ last := by
  rintro rfl
  rw [compare_self] at h
  cases h

theorem sort?_blocks (order : SortOrder) (first last : Row) (m k : Nat) :
    Sort.sort? order.compare (List.replicate m last ++ List.replicate k first) =
      some (Sort.sort order.compare (List.replicate m last ++ List.replicate k first)) := by
  refine (preorderOn_of_two (a := last) (b := first) order fun row hrow => ?_).sort?_eq
  exact (List.mem_append.mp hrow).imp List.eq_of_mem_replicate List.eq_of_mem_replicate

theorem sort?_blocks_of_eq (h : order.compare first last = .eq) (m k : Nat) :
    Sort.sort? order.compare (List.replicate m last ++ List.replicate k first) =
      some (List.replicate m last ++ List.replicate k first) := by
  have hback : order.compare last first = .eq := by
    rw [compare_swap, h]
    rfl
  rw [sort?_blocks, Sort.sort_eq_self fun a ha b hb => ?_]
  simp only [List.mem_append, List.mem_replicate] at ha hb
  rcases ha with ⟨-, rfl⟩ | ⟨-, rfl⟩ <;> rcases hb with ⟨-, rfl⟩ | ⟨-, rfl⟩ <;>
    first | exact compare_self _ _ | assumption

theorem sort?_blocks_of_lt (h : order.compare first last = .lt) (m k : Nat) :
    Sort.sort? order.compare (List.replicate m last ++ List.replicate k first) =
      some (List.replicate k first ++ List.replicate m last) := by
  have hback : order.compare last first = .gt := by
    rw [compare_swap, h]
    rfl
  rw [sort?_blocks, Sort.sort_eq_of_two (compare_self _ _) h hback List.perm_append_comm]

end SortOrder

namespace Row

def sample (fields : List String) (field : String) (value : Json) : Row :=
  (field, value) :: fields.map fun field => (field, .null)

variable {fields : List String} {field : String}

theorem get?_nulls (fields : List String) (field : String) :
    get? (fields.map fun field => (field, .null)) field =
      if field ∈ fields then some .null else none := by
  induction fields with
  | nil => rfl
  | cons first rest ih =>
    by_cases hf : field = first
    · simp [get?, hf]
    · simpa [get?, List.lookup_cons, beq_eq_false_iff_ne.mpr hf, hf] using ih

theorem hasField_sample (first : String) (value : Json) (h : field ∈ fields) :
    (sample fields first value).hasField field = true := by
  have hnull := get?_nulls fields field
  rw [if_pos h] at hnull
  rw [get?] at hnull
  by_cases hf : field = first
  · simp [sample, hasField, get?, hf]
  · simp [sample, hasField, get?, List.lookup_cons, beq_eq_false_iff_ne.mpr hf, hnull]

theorem value_sample (key : OrderKey) (first : String) (value : Json) :
    key.value (sample fields first value) = if key.field = first then value else .null := by
  have hnull := get?_nulls fields key.field
  rw [get?] at hnull
  by_cases hf : key.field = first
  · simp [OrderKey.value, sample, get?, hf]
  · rw [if_neg hf, OrderKey.value, sample, get?, List.lookup_cons, beq_eq_false_iff_ne.mpr hf]
    simp only [hnull]
    split <;> rfl

theorem compare_sample_of_ne {order : SortOrder} (h : ∀ key ∈ order, key.field ≠ field)
    (v w : Json) :
    order.compare (sample fields field v) (sample fields field w) = .eq := by
  rw [SortOrder.compare_eq_eq_iff]
  intro key hkey
  rw [OrderKey.compare_eq_eq_iff, value_sample, value_sample, if_neg (h key hkey),
    if_neg (h key hkey)]
  rfl

theorem compare_sample_null (order : SortOrder) (fields others : List String)
    (field other : String) :
    order.compare (sample fields field .null) (sample others other .null) = .eq := by
  rw [SortOrder.compare_eq_eq_iff]
  intro key _
  rw [OrderKey.compare_eq_eq_iff, value_sample, value_sample, ite_self, ite_self]
  rfl

theorem compare_sample_lt {before after : SortOrder} {key : OrderKey} (hkey : key.field = field)
    (hbefore : ∀ k ∈ before, k.field ≠ field) {v w : Json}
    (h : key.direction.orient (v.compare w) = .lt) :
    SortOrder.compare (before ++ key :: after) (sample fields field v) (sample fields field w) =
      .lt := by
  rw [SortOrder.compare_append, compare_sample_of_ne hbefore, SortOrder.compare_cons,
    OrderKey.compare_eq_orient, value_sample, value_sample, if_pos hkey, if_pos hkey, h]
  rfl

theorem exists_orient_lt (d : Direction) : ∃ v w : Json, d.orient (v.compare w) = .lt := by
  cases d with
  | ascending => exact ⟨.null, .bool true, rfl⟩
  | descending => exact ⟨.bool true, .null, rfl⟩

/-- A key with a new field puts some rows in order that were alike. -/
theorem exists_compare_lt {order keys : SortOrder} (h : ¬order.Knows keys) (fields : List String) :
    ∃ first last, (∀ field ∈ fields, Row.hasField first field) ∧
      (∀ field ∈ fields, Row.hasField last field) ∧ order.compare first last = .eq ∧
      SortOrder.compare (order ++ keys) first last = .lt := by
  simp only [SortOrder.Knows, not_forall, not_exists, not_and] at h
  obtain ⟨new, hnew, hunknown⟩ := h
  -- The first key of that field decides.
  cases hfind : keys.find? (·.field = new.field) with
  | none =>
    rw [List.find?_eq_none] at hfind
    exact absurd (decide_eq_true rfl) (hfind new hnew)
  | some key =>
    obtain ⟨hkey, before, after, rfl, hbefore⟩ := List.find?_eq_some_iff_append.mp hfind
    have hkey : key.field = new.field := of_decide_eq_true hkey
    have hbefore : ∀ k ∈ before, k.field ≠ new.field := by simpa using hbefore
    have hearlier : ∀ k ∈ order ++ before, k.field ≠ new.field := by
      intro k hk
      rcases List.mem_append.mp hk with hk | hk
      · exact hunknown k hk
      · exact hbefore k hk
    obtain ⟨v, w, hlt⟩ := exists_orient_lt key.direction
    refine ⟨sample fields new.field v, sample fields new.field w, fun _ => hasField_sample _ _,
      fun _ => hasField_sample _ _, compare_sample_of_ne hunknown v w, ?_⟩
    rw [← List.append_assoc]
    exact compare_sample_lt hkey hearlier hlt

end Row

namespace MemoryQuery

open Applier (fieldsOf)

variable {q : MemoryQuery} {query : Query}

def window (q : MemoryQuery) : Page := ⟨q.limit, q.offset⟩

/-- The source rows behind the result, in its order. -/
def behind (q : MemoryQuery) : Option (List Row) := q.sorted.map q.page

theorem rows_eq_map_behind (q : MemoryQuery) :
    q.rows = q.behind.map fun rows => rows.map q.projection := by
  rw [rows, behind, Option.map_map]
  rfl

theorem visibleRows_eq_map_behind (q : MemoryQuery) (policy : Policy) (recordType : String) :
    q.visibleRows policy recordType = q.behind.map fun rows => rows.map fun row =>
      (q.projection row).without (policy.hiddenFields recordType).toList := by
  rw [visibleRows, rows_eq_map_behind, Option.map_map]
  simp only [Function.comp_def, List.map_map]

theorem page_eq_cut (q : MemoryQuery) : q.page = q.window.cut := by
  funext rows
  rw [page, Page.cut]
  rfl

theorem behind_eq_cut (q : MemoryQuery) :
    q.behind = (Sort.sort? q.order.compare q.source).map q.window.cut := by
  rw [behind, sorted_eq, page_eq_cut]

theorem mem_behind_iff {shown : List Row} :
    shown ∈ q.behind ↔ ∃ sorted, Sort.sort? q.order.compare q.source = some sorted ∧
      q.window.cut sorted = shown := by
  rw [behind_eq_cut, Option.mem_def, Option.map_eq_some_iff]

/-- A query that shows nothing but rows of the page that it is put on. -/
def KeepsToPage (q : MemoryQuery) (query : Query) : Prop :=
  (∀ position, q.window.Covers position) ∨
  (∀ position, ¬(q.window.narrowed query).Covers position) ∨
  (q.window.narrowed query).Within q.window ∧ q.order.Knows (query.orderBy.getD [])

theorem mem_behind_narrowed_iff {shown : List Row} :
    shown ∈ (q.narrowed query).behind ↔
      ∃ sorted, Sort.sort? (SortOrder.compare (q.order ++ query.orderBy.getD [])) q.source =
        some sorted ∧ (q.window.narrowed query).cut sorted = shown :=
  mem_behind_iff

theorem behind_subperm_source {shown : List Row} (h : shown ∈ q.behind) :
    shown.Subperm q.source := by
  obtain ⟨sorted, hsorted, rfl⟩ := mem_behind_iff.mp h
  exact (Page.cut_sublist _ _).subperm.trans (Sort.sort?_perm hsorted).subperm

theorem behind_narrowed_subperm (h : q.KeepsToPage query) {shown page : List Row}
    (hshown : shown ∈ (q.narrowed query).behind) (hpage : page ∈ q.behind) :
    shown.Subperm page := by
  obtain ⟨arranged, harranged, rfl⟩ := mem_behind_narrowed_iff.mp hshown
  obtain ⟨before, hbefore, rfl⟩ := mem_behind_iff.mp hpage
  refine Page.cut_subperm_cut (Sort.sort?_perm harranged) (Sort.sort?_perm hbefore) ?_
  rcases h with hall | hnone | ⟨hwithin, hknows⟩
  · exact .inl hall
  · exact .inr (.inl hnone)
  · rw [SortOrder.compare_append_of_knows hknows, hbefore] at harranged
    exact .inr (.inr ⟨hwithin, (Option.some.inj harranged).symm⟩)

/-! ## Rows on which a query leaves the page -/

/-- There are rows that know some fields, one of which a query shows although the page has not got
it. -/
def Leaves (q : MemoryQuery) (query : Query) (fields : List String) : Prop :=
  ∃ source : List Row, (∀ field ∈ fields, ∃ row ∈ source, row.hasField field) ∧
    ∃ shown ∈ ({ q with source }.narrowed query).behind, ∃ page ∈ { q with source }.behind,
      ∃ row ∈ shown, row ∉ page

theorem leaves_of_sorts {fields : List String} {source before after : List Row} {row : Row}
    (hfields : ∀ field ∈ fields, ∃ row ∈ source, row.hasField field)
    (hbefore : Sort.sort? q.order.compare source = some before)
    (hafter : Sort.sort? (SortOrder.compare (q.order ++ query.orderBy.getD [])) source = some after)
    (hmem : row ∈ (q.window.narrowed query).cut after) (hnot : row ∉ q.window.cut before) :
    q.Leaves query fields :=
  ⟨source, hfields, _, mem_behind_narrowed_iff.mpr ⟨after, hafter, rfl⟩, _,
    mem_behind_iff.mpr ⟨before, hbefore, rfl⟩, row, hmem, hnot⟩

/-- Rows that no keys tell apart stay in place, and the new page has one outside the old. -/
theorem leaves_of_not_within (h : ¬(q.window.narrowed query).Within q.window)
    (fields : List String) : q.Leaves query fields := by
  simp only [Page.Within, not_forall] at h
  obtain ⟨i, hnew, hold⟩ := h
  let plain := Row.sample fields "" .null
  let special := Row.sample ("" :: fields) "" .null
  have hne : plain ≠ special := fun heq => by
    have hlength := congrArg List.length heq
    simp [plain, special, Row.sample] at hlength
  let source := List.replicate i plain ++ List.replicate 1 special
  have hsort : ∀ order : SortOrder, Sort.sort? order.compare source = some source :=
    fun order => SortOrder.sort?_blocks_of_eq (Row.compare_sample_null order ..) i 1
  have hfields : ∀ field ∈ fields, ∃ row ∈ source, row.hasField field := fun field hf =>
    ⟨special, by simp [source], Row.hasField_sample _ _ (List.mem_cons_of_mem _ hf)⟩
  refine leaves_of_sorts hfields (hsort _) (hsort _)
    ((Page.mem_cut_right_iff hne).mpr ⟨i, hnew, Nat.le_refl i, Nat.lt_succ_self i⟩) ?_
  rw [Page.mem_cut_right_iff hne]
  rintro ⟨k, hk, hfirst, hlast⟩
  obtain rfl : k = i := by omega
  exact hold hk

variable {first last : Row} {fields : List String} {position : Nat}

/-- The page is full of the last rows, and the query puts a first row on its own page. -/
theorem leaves_of_limit {count : UInt64} (hlimit : q.limit = some count)
    (hcovers : (q.window.narrowed query).Covers position)
    (hfields : ∀ field ∈ fields, first.hasField field) (halike : q.order.compare first last = .eq)
    (hlt : SortOrder.compare (q.order ++ query.orderBy.getD []) first last = .lt) :
    q.Leaves query fields := by
  have hne := SortOrder.ne_of_compare_lt hlt
  let m := q.window.start + count.toNat
  let k := (q.window.narrowed query).start + 1
  refine leaves_of_sorts (fun field hf => ⟨first, by simp [k], hfields field hf⟩)
    (SortOrder.sort?_blocks_of_eq halike m k) (SortOrder.sort?_blocks_of_lt hlt m k)
    ((Page.mem_cut_left_iff hne).mpr ⟨_, Page.covers_start hcovers, Nat.lt_succ_self _⟩) ?_
  rw [Page.mem_cut_right_iff hne.symm]
  rintro ⟨i, hi, hpast, -⟩
  exact absurd (hi.2 count hlimit) (Nat.not_lt.mpr hpast)

/-- The page skips the one last row, which the query moves to the start of its own page. -/
theorem leaves_of_skip (hskips : 0 < q.window.start)
    (hcovers : (q.window.narrowed query).Covers position)
    (hfields : ∀ field ∈ fields, last.hasField field) (halike : q.order.compare first last = .eq)
    (hlt : SortOrder.compare (q.order ++ query.orderBy.getD []) first last = .lt) :
    q.Leaves query fields := by
  have hne := SortOrder.ne_of_compare_lt hlt
  let k := (q.window.narrowed query).start
  have hstart := Page.covers_start hcovers
  refine leaves_of_sorts (fun field hf => ⟨last, by simp, hfields field hf⟩)
    (SortOrder.sort?_blocks_of_eq halike 1 k) (SortOrder.sort?_blocks_of_lt hlt 1 k)
    ((Page.mem_cut_right_iff hne).mpr ⟨k, hstart, Nat.le_refl k, Nat.lt_succ_self k⟩) ?_
  rw [Page.mem_cut_left_iff hne.symm]
  rintro ⟨i, hi, hone⟩
  exact absurd hone (Nat.not_lt.mpr (Nat.le_trans hskips hi.1))

theorem leaves_of_not_knows (hall : ¬∀ position, q.window.Covers position)
    (hsome : ∃ position, (q.window.narrowed query).Covers position)
    (h : ¬q.order.Knows (query.orderBy.getD [])) (fields : List String) :
    q.Leaves query fields := by
  obtain ⟨first, last, hfirst, hlast, halike, hlt⟩ := Row.exists_compare_lt h fields
  obtain ⟨position, hcovers⟩ := hsome
  cases hlimit : q.limit with
  | some count => exact leaves_of_limit hlimit hcovers hfirst halike hlt
  | none =>
    have hskips : 0 < q.window.start := by
      by_contra hzero
      exact hall fun i => ⟨by omega, by simp [window, hlimit]⟩
    exact leaves_of_skip hskips hcovers hlast halike hlt

theorem leaves_of_not_keepsToPage (h : ¬q.KeepsToPage query) (fields : List String) :
    q.Leaves query fields := by
  simp only [KeepsToPage, not_or, not_and] at h
  obtain ⟨hall, hnone, hlast⟩ := h
  by_cases hwithin : (q.window.narrowed query).Within q.window
  · exact leaves_of_not_knows hall (by simpa using hnone) (hlast hwithin) fields
  · exact leaves_of_not_within hwithin fields

end MemoryQuery
end RowQuery
