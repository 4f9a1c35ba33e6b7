import Mathlib.Algebra.Order.BigOperators.Group.List
import RowQuery.Proofs.Apply.Validate
import RowQuery.Proofs.Query.Limits
import RowQuery.Proofs.Query.WellFormed
import RowQuery.Proofs.Text.Size

/-!
# The size of a query

A query names no more than its query string has room for. The values of two options come from two
pairs, decoding lengthens neither of them, and a field is a part of a value. No field is empty, so
the same bound holds for the number of fields. What the limit on the length admits is bounded by it
therefore, although it is the text that is measured and not what is read from it.
-/
namespace RowQuery.Query

open Applier (fieldsOf)
open String (utf8Len utf8Len_le_of_sublist)

def valueSize (value : Option String) : Nat := (value.map String.utf8ByteSize).getD 0

theorem valueSize_or_le (first second : Option String) :
    valueSize (first.or second) ≤ valueSize first + valueSize second := by
  cases first with
  | none => simp
  | some text => simp

theorem valueSize_kept_le (pairs : List (String × String)) :
    valueSize (kept pairs .select) + valueSize (kept pairs .orderBy) ≤
      (pairs.map fun pair => pair.2.utf8ByteSize).sum := by
  induction pairs with
  | nil => exact Nat.le_refl 0
  | cons pair later ih =>
    have hadded : ∀ key : Key, valueSize (kept (pair :: later) key) ≤
        valueSize (kept later key) + if pair.1 = key.name then pair.2.utf8ByteSize else 0 := by
      intro key
      rw [kept_cons]
      refine (valueSize_or_le _ _).trans (Nat.le_of_eq ?_)
      split <;> rfl
    have hselect := hadded .select
    have horder := hadded .orderBy
    -- One pair gives a value to one option.
    have hone : ¬(pair.1 = Key.select.name ∧ pair.1 = Key.orderBy.name) := by
      intro h
      exact absurd (Key.name_inj.mp (h.1.symm.trans h.2)) (by decide)
    rw [List.map_cons, List.sum_cons]
    split at hselect <;> split at horder
    · exact absurd ⟨‹_›, ‹_›⟩ hone
    · omega
    · omega
    · omega

theorem sum_le_of_commaParts {α : Type} {read : List Char → Except ParseError α} {size : α → Nat}
    (hread : ∀ {part item}, read part = .ok item → size item ≤ utf8Len part)
    {raw : String} {items : List α} (h : (commaParts raw).mapM read = .ok items) :
    (items.map size).sum ≤ raw.utf8ByteSize := by
  rw [mapM_eq_ok_iff] at h
  have hsizes : List.Forall₂ (· ≤ ·) (items.map size) ((commaParts raw).map utf8Len) := by
    rw [List.forall₂_map_left_iff, List.forall₂_map_right_iff]
    exact List.Forall₂.flip (h.imp fun part item hitem => hread hitem)
  rw [← String.utf8Len_toList raw]
  exact hsizes.sum_le_sum.trans (Text.sum_utf8Len_splitBy_le _ _)

theorem size_selectField_le {part : List Char} {field : String} (h : selectField part = .ok field) :
    field.utf8ByteSize ≤ utf8Len part := by
  obtain ⟨-, rfl⟩ := selectField_eq_ok_iff.mp h
  rw [String.utf8ByteSize_ofList]
  exact utf8Len_le_of_sublist (Text.trim_sublist part)

theorem size_orderClause_le {part : List Char} {key : OrderKey} (h : orderClause part = .ok key) :
    key.field.utf8ByteSize ≤ utf8Len part := by
  obtain ⟨word, hword, hkey⟩ := exists_word_of_orderClause h
  rw [hkey, String.utf8ByteSize_ofList]
  exact utf8Len_le_of_sublist (Text.sublist_of_mem_words hword)

theorem sum_select_le {raw : String} {fields : List String} (h : parseSelect raw = .ok fields) :
    (fields.map String.utf8ByteSize).sum ≤ raw.utf8ByteSize :=
  sum_le_of_commaParts size_selectField_le h

theorem sum_orderBy_le {raw : String} {order : SortOrder} (h : parseOrderBy raw = .ok order) :
    ((order.map OrderKey.field).map String.utf8ByteSize).sum ≤ raw.utf8ByteSize := by
  rw [List.map_map]
  exact sum_le_of_commaParts size_orderClause_le h

theorem size_readOption_le {α : Type} {raw : Option String} {parse : String → Except ParseError α}
    {check : α → Except ParseError Unit} {size : α → Nat}
    (hparse : ∀ {text a}, parse text = .ok a → size a ≤ text.utf8ByteSize) {result : Option α}
    (h : readOption raw parse check = .ok result) : (result.map size).getD 0 ≤ valueSize raw := by
  cases result with
  | none => exact Nat.zero_le _
  | some a =>
    obtain ⟨text, rfl, htext, -⟩ := readOption_eq_some_iff.mp h
    exact hparse htext

theorem sum_fieldsOf_le {limits : Limits} {values : Key → Option String} {q : Query}
    (h : ofValues limits values = .ok q) :
    ((fieldsOf q).map String.utf8ByteSize).sum ≤
      valueSize (values .select) + valueSize (values .orderBy) := by
  obtain ⟨hselect, -, -, horder⟩ := ofValues_eq_ok_iff.mp h
  have hselect := size_readOption_le sum_select_le hselect
  have horder := size_readOption_le sum_orderBy_le horder
  rw [fieldsOf, List.map_append, List.sum_append]
  refine Nat.add_le_add (le_of_eq_of_le ?_ hselect) (le_of_eq_of_le ?_ horder)
  · cases q.select <;> rfl
  · cases q.orderBy <;> rfl

theorem size_pos_of_mem_fieldsOf {q : Query} (h : q.WellFormed) {field : String}
    (hfield : field ∈ fieldsOf q) : 1 ≤ field.utf8ByteSize := by
  have hne : field ≠ "" := by
    rw [fieldsOf, List.mem_append] at hfield
    rcases hfield with hfield | hfield
    · cases hs : q.select with
      | none => simp [hs] at hfield
      | some fields =>
        rw [hs] at hfield
        exact ((h.select fields hs).2 field hfield).ne_empty
    · cases ho : q.orderBy with
      | none => simp [ho] at hfield
      | some order =>
        rw [ho] at hfield
        obtain ⟨key, hkey, rfl⟩ := List.mem_map.mp hfield
        exact ((h.orderBy order ho).2 key hkey).ne_empty
  have hzero : field.utf8ByteSize ≠ 0 := fun h => hne (String.utf8ByteSize_eq_zero_iff.mp h)
  omega

/-- There is room for the fields of a query, for their bytes and for their number. -/
structure FieldsWithin (q : Query) (room : Nat) : Prop where
  bytes : ((fieldsOf q).map String.utf8ByteSize).sum ≤ room
  number : (fieldsOf q).length ≤ room

theorem fieldsWithin_of_bytes {q : Query} (h : q.WellFormed) {room : Nat}
    (hbytes : ((fieldsOf q).map String.utf8ByteSize).sum ≤ room) : FieldsWithin q room := by
  have hcount := List.length_le_sum_of_one_le ((fieldsOf q).map String.utf8ByteSize)
    (List.forall_mem_map.mpr fun _ hfield => size_pos_of_mem_fieldsOf h hfield)
  rw [List.length_map] at hcount
  exact ⟨hbytes, hcount.trans hbytes⟩

theorem fieldsWithin_of_ofValues {limits : Limits} {component : String} {q : Query}
    (h : ofValues limits (kept (Form.pairs component)) = .ok q) :
    FieldsWithin q component.utf8ByteSize :=
  fieldsWithin_of_bytes (wellFormed_of_ofValues h) <|
    calc
      ((fieldsOf q).map String.utf8ByteSize).sum
        ≤ valueSize (kept (Form.pairs component) .select) +
            valueSize (kept (Form.pairs component) .orderBy) := sum_fieldsOf_le h
      _ ≤ ((Form.pairs component).map fun pair => pair.2.utf8ByteSize).sum :=
          valueSize_kept_le _
      _ ≤ component.utf8ByteSize := Form.sum_utf8ByteSize_values_le component

/-- The limit on the length of a query string bounds the fields that are read from it, and those
that are read from a URL. -/
theorem fieldsWithin_queryLength {limits : Limits} {max : UInt64}
    (hmax : limits.queryLength = some max) :
    (∀ (text : String) (q : Query), (parseQueryString limits text).result = .ok q →
      FieldsWithin q max.toNat) ∧
    ∀ (url : String) (q : Query), (parseUrl limits url).result = .ok q →
      FieldsWithin q max.toNat := by
  have htext : ∀ (text : String) (q : Query), (parseQueryString limits text).result = .ok q →
      FieldsWithin q max.toNat := by
    intro text q h
    rw [result_parseQueryString, readQueryString_eq, ofComponent_eq_ok_iff] at h
    obtain ⟨hlength, hvalues⟩ := h
    have hwithin := fieldsWithin_of_ofValues hvalues
    have hroom := hlength max hmax
    exact ⟨hwithin.bytes.trans hroom, hwithin.number.trans hroom⟩
  refine ⟨htext, ?_⟩
  intro url q h
  rw [parseUrl, Attempt.result_bind, bind_eq_ok_iff] at h
  obtain ⟨component, -, hread⟩ := h
  exact htext component q hread

/-- Bytes that are no characters are replaced, and the URL has just the length of the limit. -/
theorem fieldsWithin_queryLength_replaced :
    let limits : Limits := { queryLength := some 44 }
    let q : Query :=
      { select := some ["\uFFFD\uFFFD", "é"], orderBy := some [⟨"a\uFFFD", .descending⟩] }
    (parseQueryString limits "$select=%FF%E2%82,+é&$orderby=a%80+desc").result = .ok q ∧
      (parseUrl limits "/books?$select=%FF%E2%82,+é&$orderby=a%80+desc").result = .ok q ∧
      FieldsWithin q 44 := by
  intro limits q
  have htext : (parseQueryString { queryLength := some 44 }
      "$select=%FF%E2%82,+é&$orderby=a%80+desc").result = .ok q := by rfl
  have hurl : (parseUrl { queryLength := some 44 }
      "/books?$select=%FF%E2%82,+é&$orderby=a%80+desc").result = .ok q := by rfl
  obtain ⟨hquery, -⟩ := @fieldsWithin_queryLength limits 44 rfl
  exact ⟨htext, hurl, hquery _ q htext⟩

end RowQuery.Query
