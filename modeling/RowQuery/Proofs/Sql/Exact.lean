import RowQuery.Proofs.Memory.Order
import RowQuery.Proofs.Memory.Row
import RowQuery.Proofs.Number.Units
import RowQuery.Proofs.Sql.Table
import RowQuery.Sql.Evaluate

/-!
# A row of a table in memory

A row of a table is also a row in memory, with its values as they are. Values that one column can
hold are in the same order there, so keys compare the two rows as the columns do. What a statement
gives of a row is the projection of that row, with binary numbers at the precision of 32 bits.
-/
namespace RowQuery

/-- A value with a binary number kept only to the precision of 32 bits. -/
def Json.single : Json → Json
  | number (.float x) => (x.narrow?.map fun x => number (.float x)).getD null
  | other => other

def Row.single (row : Row) : Row := row.map fun (key, value) => (key, value.single)

namespace Sql

namespace Cell

def exact : Cell → Json
  | null => .null
  | integer n => ((Integer.ofInt? n).map fun n => .number (.int n)).getD .null
  | real x => .number (.float x)
  | text s => .string s
  | boolean b => .bool b

theorem toJson_eq_single (c : Cell) : c.toJson = c.exact.single := by
  cases c with
  | integer n =>
    rw [toJson, exact]
    cases Integer.ofInt? n <;> rfl
  | _ => rfl

def type? : Cell → Option ColumnType
  | null => none
  | integer _ => some .integer
  | real _ => some .real
  | text _ => some .text
  | boolean _ => some .boolean

variable {type s t : ColumnType} {a b : Cell}

theorem type_eq_of_keeps (h : type.keeps a) (ha : a.type? = some s) : s = type := by
  cases type <;> cases a <;> simp_all [ColumnType.keeps, type?]

theorem types_eq_of_keeps (ha : type.keeps a) (hb : type.keeps b) (hs : a.type? = some s)
    (ht : b.type? = some t) : s = t :=
  (type_eq_of_keeps ha hs).trans (type_eq_of_keeps hb ht).symm

theorem exact_integer {n : Int} (h : type.keeps (integer n)) :
    ∃ i : Integer, i.value = n ∧ (integer n).exact = .number (.int i) := by
  obtain rfl := type_eq_of_keeps h rfl
  simp only [ColumnType.keeps, Bool.and_eq_true, decide_eq_true_eq] at h
  have hbounds : -0x8000000000000000 ≤ n ∧ n < 0x10000000000000000 := ⟨h.1, by omega⟩
  refine ⟨⟨n, hbounds.1, hbounds.2⟩, rfl, ?_⟩
  simp only [exact, Integer.ofInt?, dif_pos hbounds]
  rfl

theorem unsigned_of_keeps {x : Binary64} (h : type.keeps (real x)) : x.Unsigned := by
  obtain rfl := type_eq_of_keeps h rfl
  intro hzero
  simpa [ColumnType.keeps, hzero] using h

theorem compare_mul_of_pos {u : Int} (hu : 0 < u) (m n : Int) :
    Ord.compare (m * u) (n * u) = Ord.compare m n := by
  rcases Int.lt_trichotomy m n with h | rfl | h
  · rw [Int.compare_eq_lt.mpr h, Int.compare_eq_lt.mpr (Int.mul_lt_mul_of_pos_right h hu)]
  · rw [Int.compare_eq_eq.mpr rfl, Int.compare_eq_eq.mpr rfl]
  · rw [Int.compare_eq_gt.mpr h, Int.compare_eq_gt.mpr (Int.mul_lt_mul_of_pos_right h hu)]

theorem compare_integer (m n : Int) : (integer m).compare (integer n) = Ord.compare m n := by
  simp only [Cell.compare, units?]
  exact compare_mul_of_pos (Int.natCast_pos.mpr Binary64.unit_pos) m n

theorem compare_boolean (p q : Bool) : (boolean p).compare (boolean q) = Ord.compare p q := by
  have hunit : (0 : Int) < Binary64.unit := Int.natCast_pos.mpr Binary64.unit_pos
  cases p <;> cases q
  · rfl
  · exact Int.compare_eq_lt.mpr hunit
  · exact Int.compare_eq_gt.mpr hunit
  · exact Int.compare_eq_eq.mpr rfl

theorem compare_exact (ha : type.keeps a) (hb : type.keeps b) :
    a.exact.compare b.exact = a.compare b := by
  -- One column keeps nulls and values of one type, so no two other types meet.
  cases a with
  | null =>
    cases b with
    | integer n =>
      obtain ⟨i, -, hi⟩ := exact_integer hb
      rw [hi]
      rfl
    | _ => rfl
  | integer m =>
    obtain ⟨i, rfl, hi⟩ := exact_integer ha
    cases b with
    | null =>
      rw [hi]
      rfl
    | integer n =>
      obtain ⟨j, rfl, hj⟩ := exact_integer hb
      rw [hi, hj, compare_integer]
      exact Number.compare_int i j
    | _ => cases types_eq_of_keeps ha hb rfl rfl
  | real x =>
    cases b with
    | null => rfl
    | real y => exact (Binary64.compare_signed (unsigned_of_keeps ha) (unsigned_of_keeps hb)).symm
    | _ => cases types_eq_of_keeps ha hb rfl rfl
  | text x =>
    cases b with
    | null => rfl
    | text y => rfl
    | _ => cases types_eq_of_keeps ha hb rfl rfl
  | boolean p =>
    cases b with
    | null => rfl
    | boolean q => exact (compare_boolean p q).symm
    | _ => cases types_eq_of_keeps ha hb rfl rfl

end Cell

namespace Record

def row (r : Record) : Row := r.map fun (name, c) => (name, c.exact)

theorem get?_row (r : Record) (field : String) :
    r.row.get? field = (r.lookup field).map Cell.exact := by
  induction r with
  | nil => rfl
  | cons value rest ih =>
    obtain ⟨name, c⟩ := value
    cases hf : field == name with
    | true => simp [row, Row.get?, List.lookup_cons, hf]
    | false => simpa [row, Row.get?, List.lookup_cons, hf] using ih

theorem value_row (r : Record) (key : OrderKey) :
    key.value r.row = (r.cell key.field).exact := by
  rw [OrderKey.value, get?_row, cell]
  cases r.lookup key.field <;> rfl

variable {e : Entity} {a b r : Record}

theorem names_of_fits (h : r.Fits e) : r.map Prod.fst = e.columnNames := by
  rw [Fits] at h
  rw [Entity.columnNames]
  generalize e.columns = columns at h ⊢
  induction h with
  | nil => rfl
  | cons hvalue _ ih => rw [List.map_cons, List.map_cons, ih, hvalue.1]

theorem exists_keeps (ha : a.Fits e) (hb : b.Fits e) (field : String) :
    ∃ type : ColumnType, type.keeps (a.cell field) ∧ type.keeps (b.cell field) := by
  rw [Fits] at ha hb
  generalize e.columns = columns at ha hb
  induction ha generalizing b with
  | nil =>
    cases hb
    exact ⟨.integer, rfl, rfl⟩
  | @cons column value columns rest hvalue _ ih =>
    cases hb with
    | @cons _ other _ others hother hothers =>
      obtain ⟨name, c⟩ := value
      obtain ⟨name', c'⟩ := other
      obtain ⟨rfl, hkeep⟩ := hvalue
      obtain ⟨rfl, hkeep'⟩ := hother
      cases hf : field == column.name with
      | true => exact ⟨column.type, by simpa [cell, List.lookup_cons, hf] using ⟨hkeep, hkeep'⟩⟩
      | false =>
        obtain ⟨type, hrest⟩ := ih hothers
        exact ⟨type, by simpa [cell, List.lookup_cons, hf] using hrest⟩

theorem compare_row (ha : a.Fits e) (hb : b.Fits e) (order : SortOrder) :
    order.compare a.row b.row = compareRecords order a b := by
  induction order with
  | nil => rfl
  | cons key rest ih =>
    obtain ⟨type, hkeepa, hkeepb⟩ := exists_keeps ha hb key.field
    rw [SortOrder.compare_cons, ih, OrderKey.compare_eq_orient, value_row, value_row,
      Cell.compare_exact hkeepa hkeepb]
    rfl

theorem keys_row (h : r.Fits e) : r.row.map Prod.fst = e.columnNames := by
  rw [← names_of_fits h, row, List.map_map]
  rfl

theorem hasField_row (h : r.Fits e) (field : String) :
    r.row.hasField field = true ↔ field ∈ e.columnNames := by
  rw [Row.hasField, get?_row, Option.isSome_map, ← names_of_fits h]
  cases hlookup : r.lookup field with
  | none =>
    rw [List.lookup_eq_none_iff] at hlookup
    simp only [Option.isSome_none, Bool.false_eq_true, false_iff, List.mem_map, not_exists, not_and]
    rintro value hvalue rfl
    exact bne_iff_ne.mp (hlookup value hvalue) rfl
  | some c =>
    obtain ⟨before, after, hsplit, -⟩ := List.lookup_eq_some_iff.mp hlookup
    simp [hsplit]

theorem get?_row_of_mem (h : r.Fits e) {field : String} (hfield : field ∈ e.columnNames) :
    r.row.get? field = some (r.cell field).exact := by
  have hsome := (hasField_row h field).mpr hfield
  rw [Row.hasField, get?_row, Option.isSome_map] at hsome
  obtain ⟨c, hc⟩ := Option.isSome_iff_exists.mp hsome
  rw [get?_row, cell, hc]
  rfl

end Record

theorem single_insertMember (key : String) (value : Json) (members : Row) :
    Row.single (insertMember key value members) =
      insertMember key value.single (Row.single members) := by
  induction members with
  | nil => rfl
  | cons member rest ih =>
    obtain ⟨other, old⟩ := member
    by_cases hk : other = key
    · simp [insertMember, Row.single, hk]
    · simpa [insertMember, Row.single, hk] using ih

theorem single_without (row : Row) (hidden : List String) :
    row.single.without hidden = (row.without hidden).single := by
  rw [Row.without, Row.single, List.filter_map, Row.without, Row.single]
  rfl

theorem single_foldl_addField {e : Entity} {r : Record} (h : r.Fits e) {columns : List String}
    (hcolumns : ∀ column ∈ columns, column ∈ e.columnNames) (projected : Row) :
    (columns.map fun column => (column, (r.cell column).toJson)).foldl
        (fun merged member => insertMember member.1 member.2 merged) projected.single =
      (columns.foldl r.row.addField projected).single := by
  induction columns generalizing projected with
  | nil => rfl
  | cons column rest ih =>
    have hadd : r.row.addField projected column =
        insertMember column (r.cell column).exact projected := by
      rw [Row.addField, Record.get?_row_of_mem h (hcolumns column List.mem_cons_self)]
    rw [List.map_cons, List.foldl_cons, List.foldl_cons, hadd, Cell.toJson_eq_single,
      ← single_insertMember]
    exact ih (fun other hother => hcolumns other (List.mem_cons_of_mem column hother)) _

theorem Select.rowOf_eq_single {φ : Type} {e : Entity} (s : Select φ) {r : Record} (h : r.Fits e)
    (hcolumns : ∀ column ∈ s.columns, column ∈ e.columnNames) :
    s.rowOf r = (r.row.project s.columns).single :=
  single_foldl_addField h hcolumns []

end Sql
end RowQuery
