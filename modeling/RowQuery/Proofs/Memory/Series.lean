import Mathlib.Algebra.Order.Floor.Div
import RowQuery.Proofs.Memory.Paged

/-!
# Pages one after the other

A page is a run of its own, which sorts all rows again. Every run puts the rows in one order, ties
included, because the order depends on the rows and the keys and on no limit or offset. So the pages
of one size, one after the other, have every row once and in its place, and a page that begins
behind the last row is empty. Where the rows cannot be sorted, no page has an answer.
-/
namespace RowQuery

namespace Page

variable {α : Type} {rows : List α}

def numbered (size : UInt64) (number : Nat) : Page :=
  ⟨some size, some (.ofNat (number * size.toNat))⟩

theorem start_numbered {size : UInt64} {number : Nat} (h : number * size.toNat < 2 ^ 64) :
    (numbered size number).start = number * size.toNat := by
  rw [numbered, start]
  exact UInt64.toNat_ofNat_of_lt' h

theorem cut_numbered {size : UInt64} {number : Nat} (h : number * size.toNat < 2 ^ 64) :
    (numbered size number).cut rows = (rows.drop (number * size.toNat)).take size.toNat := by
  rw [← start_numbered h]
  rfl

theorem flatMap_cut_numbered {size : UInt64} {count : Nat}
    (h : ∀ i < count, i * size.toNat < 2 ^ 64) :
    (List.range count).flatMap (fun i => (numbered size i).cut rows) =
      rows.take (count * size.toNat) := by
  induction count with
  | zero => rw [List.range_zero, List.flatMap_nil, Nat.zero_mul, List.take_zero]
  | succ count ih =>
    have hbefore := ih fun i hi => h i (Nat.lt_succ_of_lt hi)
    rw [List.range_succ, List.flatMap_append, hbefore, List.flatMap_singleton,
      cut_numbered (h count (Nat.lt_succ_self count)), ← List.take_add, Nat.succ_mul]

theorem flatMap_cut_ceilDiv {size : UInt64} (hsize : 1 ≤ size.toNat)
    (h : ∀ i < rows.length ⌈/⌉ size.toNat, i * size.toNat < 2 ^ 64) :
    (List.range (rows.length ⌈/⌉ size.toNat)).flatMap (fun i => (numbered size i).cut rows) =
      rows := by
  have henough : rows.length ≤ (rows.length ⌈/⌉ size.toNat) * size.toNat := by
    have hsmul := le_smul_ceilDiv (b := rows.length) (Nat.lt_of_lt_of_le Nat.zero_lt_one hsize)
    rwa [smul_eq_mul, Nat.mul_comm] at hsmul
  rw [flatMap_cut_numbered h]
  exact List.take_of_length_le henough

theorem cut_of_length_le {p : Page} (h : rows.length ≤ p.start) : p.cut rows = [] := by
  have hdrop : rows.drop p.start = [] := List.drop_of_length_le h
  rw [cut]
  split
  · rw [hdrop, List.take_nil]
  · exact hdrop

end Page

namespace MemoryQuery

variable {q : MemoryQuery} {policy : Policy} {recordType : String}

def onPage (q : MemoryQuery) (count start : UInt64) : MemoryQuery :=
  Target.offset start (Target.limit count q)

theorem behind_onPage (q : MemoryQuery) (count start : UInt64) :
    (q.onPage count start).behind = q.sorted.map (⟨some count, some start⟩ : Page).cut := by
  rw [behind_eq_cut, sorted_eq]
  rfl

theorem length_of_sorted {sorted : List Row} (h : q.sorted = some sorted) :
    sorted.length = q.source.length := (sorted_perm h).length_eq

theorem behind_eq_sorted (hlimit : q.limit = none) (hoffset : q.offset = none) :
    q.behind = q.sorted := by
  have hall : ∀ position, q.window.Covers position := by
    intro position
    simp [Page.Covers, Page.start, window, hlimit, hoffset]
  have hcut : q.window.cut (α := Row) = id := funext fun rows => Page.cut_eq_self hall
  rw [behind, page_eq_cut, hcut, Option.map_id_fun, id]

/-- All pages have an answer, or none has one and there are rows to make a first page of. -/
theorem flatten_mapM_behind {size : UInt64} (hsize : 1 ≤ size.toNat)
    (hpages : ∀ i < q.source.length ⌈/⌉ size.toNat, i * size.toNat < 2 ^ 64) (f : Row → Row) :
    ((List.range (q.source.length ⌈/⌉ size.toNat)).mapM fun i =>
      (q.onPage size (.ofNat (i * size.toNat))).behind.map (List.map f)).map List.flatten =
        q.sorted.map (List.map f) := by
  simp only [behind_onPage, Option.map_map]
  cases hsorted : q.sorted with
  | some sorted =>
    rw [← length_of_sorted hsorted] at hpages ⊢
    have hcuts := congrArg (List.map f) (Page.flatMap_cut_ceilDiv hsize hpages)
    rw [List.map_flatMap] at hcuts
    simp only [Option.map_some]
    rw [← hcuts]
    exact congrArg (Option.map List.flatten) List.mapM_pure
  | none =>
    have hmany : q.source.length ⌈/⌉ size.toNat ≠ 0 := by
      intro hzero
      have hsome := isSome_sorted (q := q) (.inr ?_)
      · simp [hsorted] at hsome
      · have hsmul :=
          le_smul_ceilDiv (b := q.source.length) (Nat.lt_of_lt_of_le Nat.zero_lt_one hsize)
        rw [hzero, smul_zero] at hsmul
        omega
    obtain ⟨last, hlast⟩ := Nat.exists_eq_succ_of_ne_zero hmany
    rw [hlast, List.range_succ_eq_map, List.mapM_cons]
    rfl

end MemoryQuery
end RowQuery
