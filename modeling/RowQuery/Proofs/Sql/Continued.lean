import RowQuery.Proofs.Query.Reference
import RowQuery.Proofs.Sql.Narrowed
import RowQuery.Sql.Statement

/-!
# The text of an adapted statement

A text with values is cut at the values: one text before the first, and one after each. The text
with placeholders and the text with literals are the same cut filled in two ways, so placeholders
and bound values pair up in order. An adapted statement has the table, the filter and the keys of
the statement that it came from. What a URL adds to it are columns of the entity, directions, and
numbers that are bound.
-/
namespace RowQuery

/-- Two queries with the same fields and keys, and with numbers in the same places. -/
structure Query.SameButForNumbers (other query : Query) : Prop where
  select : other.select = query.select
  orderBy : other.orderBy = query.orderBy
  top : other.top.isSome = query.top.isSome
  skip : other.skip.isSome = query.skip.isSome

namespace Sql

namespace Piece

def around : List Piece → String × List String
  | [] => ("", [])
  | text s :: rest => (s ++ (around rest).1, (around rest).2)
  | value _ :: rest => ("", (around rest).1 :: (around rest).2)

def fill (texts : String × List String) (slots : List String) : String :=
  texts.1 ++ String.join (List.zipWith (· ++ ·) slots texts.2)

theorem length_around (pieces : List Piece) :
    (around pieces).2.length = (values pieces).length := by
  induction pieces with
  | nil => rfl
  | cons piece rest ih =>
    cases piece with
    | text s => exact ih
    | value v => simp only [around, values, List.length_cons, ih]

theorem write_eq_fill (slot : Nat → Value → String) (n : Nat) (pieces : List Piece) :
    write slot n pieces =
      fill (around pieces) ((values pieces).mapIdx fun index v => slot (n + index) v) := by
  induction pieces generalizing n with
  | nil => rfl
  | cons piece rest ih =>
    cases piece with
    | text s => simp only [write, around, values, ih, fill, String.append_assoc]
    | value v =>
      have hindex : ∀ index, n + 1 + index = n + (index + 1) := fun index => by omega
      simp only [write, around, values, ih, fill, List.mapIdx_cons, List.zipWith_cons_cons,
        String.join_cons, String.empty_append, Nat.add_zero, hindex, String.append_assoc]

theorem values_append (first second : List Piece) :
    values (first ++ second) = values first ++ values second := by
  induction first with
  | nil => rfl
  | cons piece rest ih =>
    cases piece with
    | text s => exact ih
    | value v => simp only [List.cons_append, values, ih]

def Alike : List Piece → List Piece → Prop := List.Forall₂ fun a b =>
  a = b ∨ ∃ v w, a = value v ∧ b = value w

theorem Alike.refl (pieces : List Piece) : Alike pieces pieces :=
  List.forall₂_same.mpr fun _ _ => .inl rfl

theorem Alike.append {a b c d : List Piece} (hab : Alike a b) (hcd : Alike c d) :
    Alike (a ++ c) (b ++ d) :=
  List.rel_append hab hcd

theorem Alike.write_eq {first second : List Piece} (h : Alike first second) (slot : Nat → String)
    (n : Nat) : write (fun index _ => slot index) n first =
      write (fun index _ => slot index) n second := by
  induction h generalizing n with
  | nil => rfl
  | cons hpiece _ ih =>
    rcases hpiece with rfl | ⟨v, w, rfl, rfl⟩
    · rename_i piece _ _ _
      cases piece with
      | text s => simp only [write, ih]
      | value v => simp only [write, ih]
    · simp only [write, ih]

end Piece

namespace EntityQuery

open Piece (Alike around fill)

variable {φ : Type}

theorem alike_countPieces (word : String) {a b : Option UInt64} (h : a.isSome = b.isSome) :
    Alike (countPieces word a) (countPieces word b) := by
  cases a with
  | none =>
    cases b with
    | none => exact .nil
    | some n => cases h
  | some m =>
    cases b with
    | none => cases h
    | some n => exact .cons (.inl rfl) (.cons (.inr ⟨_, _, rfl, rfl⟩) .nil)

theorem values_countPieces (word : String) (count : Option UInt64) :
    Piece.values (countPieces word count) = (count.map Value.ofCount).toList := by
  cases count <;> rfl

theorem values_orderPieces (q : EntityQuery φ) (d : Dialect) :
    Piece.values (q.orderPieces d) = [] := by
  rw [orderPieces]
  split <;> rfl

variable [RowFilter φ]

/-- A statement goes on from another as a query asks. -/
structure Continues (q base : EntityQuery φ) (query : Query) (d : Dialect) : Prop where
  source : q.fromText d = base.fromText d
  filter : q.filterPieces d = base.filterPieces d
  columns : q.select.columns = query.select.getD base.select.columns
  order : q.select.order = base.select.order ++ query.orderBy.getD []
  pieces : q.pieces d = q.selectPiece d :: base.filterPieces d ++ q.orderPieces d ++
    countPieces "LIMIT" (query.top <|> base.select.limit) ++
    countPieces "OFFSET" (query.skip <|> base.select.offset)
  values : q.boundValues d = Piece.values (base.filterPieces d) ++
    ((query.top <|> base.select.limit).map Value.ofCount).toList ++
    ((query.skip <|> base.select.offset).map Value.ofCount).toList

theorem continues_narrowed (base : EntityQuery φ) (query : Query) (d : Dialect) :
    (base.narrowed query).Continues base query d where
  source := rfl
  filter := rfl
  columns := rfl
  order := rfl
  pieces := rfl
  values := by
    have hselect : ∀ (q : EntityQuery φ) rest, Piece.values (q.selectPiece d :: rest) =
        Piece.values rest := fun _ _ => rfl
    simp only [boundValues, EntityQuery.pieces, List.cons_append, hselect, Piece.values_append,
      values_orderPieces, values_countPieces, List.append_nil]
    rfl

theorem sql_eq_fill (q : EntityQuery φ) (d : Dialect) :
    (around (q.pieces d)).2.length = (q.boundValues d).length ∧
      q.sql d = fill (around (q.pieces d))
        ((q.boundValues d).mapIdx fun index _ => d.placeholder index) ∧
      q.inlinedSql d = fill (around (q.pieces d)) ((q.boundValues d).map Value.literal) := by
  refine ⟨Piece.length_around _, ?_, ?_⟩
  · simp only [sql, Piece.write_eq_fill, Nat.zero_add, boundValues]
  · have hmap : (q.boundValues d).mapIdx (fun _ v => v.literal) =
        (q.boundValues d).map Value.literal := List.ext_getElem (by simp) (by simp)
    rw [← hmap, inlinedSql, Piece.write_eq_fill, boundValues]

theorem sql_narrowed_congr (base : EntityQuery φ) {query other : Query}
    (h : other.SameButForNumbers query) (d : Dialect) :
    (base.narrowed other).sql d = (base.narrowed query).sql d := by
  have hsome : ∀ {a b : Option UInt64} (count : Option UInt64), a.isSome = b.isSome →
      (a <|> count).isSome = (b <|> count).isSome := by
    intro a b count hab
    cases a <;> cases b <;> simp_all
  have hcolumns : (base.narrowed other).selectPiece d = (base.narrowed query).selectPiece d := by
    simp only [selectPiece, narrowed, h.select]
    rfl
  have hkeys : (base.narrowed other).orderPieces d = (base.narrowed query).orderPieces d := by
    simp only [orderPieces, narrowed, h.orderBy]
    rfl
  have halike : Alike ((base.narrowed other).pieces d) ((base.narrowed query).pieces d) := by
    rw [pieces, pieces, hcolumns, hkeys]
    refine Alike.append (Alike.append (Alike.refl _) ?_) ?_
    · exact alike_countPieces "LIMIT" (hsome base.select.limit h.top)
    · exact alike_countPieces "OFFSET" (hsome base.select.offset h.skip)
  exact halike.write_eq d.placeholder 0

end EntityQuery

namespace Entity

open Applier (fieldsOf)
open Piece (around fill)

variable {φ : Type} [RowFilter φ]

end Entity
end Sql
end RowQuery
