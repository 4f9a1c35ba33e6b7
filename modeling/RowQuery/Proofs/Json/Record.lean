import Mathlib.Data.List.Nodup
import RowQuery.Json.Record
import RowQuery.Proofs.Json.Spelled
import RowQuery.Proofs.Outcome

/-!
# Fields that come back

Writers of records keep the declared order and may leave fields out. A reader then finds every field
that was written, and for the others its default or nothing.
-/
namespace RowQuery

theorem Integer.toUInt64?_ofUInt64 (n : UInt64) : (Integer.ofUInt64 n).toUInt64? = some n := by
  have hnonneg : 0 ≤ (Integer.ofUInt64 n).value := Int.natCast_nonneg n.toNat
  rw [toUInt64?, dif_pos hnonneg]
  apply congrArg some
  apply UInt64.toNat_inj.mp
  rw [UInt64.toNat_ofNatLT]
  rfl

namespace Json

theorem natural?_ofUInt64 (n : UInt64) : natural? (ofUInt64 n) = some n :=
  Integer.toUInt64?_ofUInt64 n

/-! ## Lists -/

variable {α : Type} {read : Json → Option α} {write : α → Json}

theorem mapM_map {β γ δ : Type} {f : γ → Option δ} {g : β → γ} {k : β → δ}
    (h : ∀ b, f (g b) = some (k b)) (bs : List β) : (bs.map g).mapM f = some (bs.map k) := by
  rw [mapM_eq_some_iff, List.forall₂_map_left_iff, List.forall₂_map_right_iff, List.forall₂_same]
  exact fun b _ => h b

theorem list?_map (h : ∀ a, read (write a) = some a) (as : List α) :
    list? read (array (as.map write)) = some as := by
  have hread := mapM_map h as
  rwa [List.map_id'] at hread

theorem texts?_strings (ss : List String) : texts? (strings ss) = some ss := by
  have hread : ∀ s, text? (string s) = some s := fun _ => rfl
  exact list?_map hread ss

/-! ## Optional fields -/

theorem optional?_map (h : ∀ a, read (write a) = some a) (hnull : ∀ a, write a ≠ null)
    (value : Option α) : optional? read (value.map write) = some value := by
  cases value with
  | none => rfl
  | some a =>
    rw [Option.map_some, optional?.eq_def]
    split
    · contradiction
    · rename_i heq
      exact absurd (Option.some.inj heq) (hnull a)
    · rename_i heq
      rw [← Option.some.inj heq, h]
      rfl

theorem optional?_optional (h : ∀ a, read (write a) = some a) (hnull : ∀ a, write a ≠ null)
    (value : Option α) : optional? read (some (optional write value)) = some value := by
  cases value with
  | none => rfl
  | some a => exact optional?_map h hnull (some a)

theorem lookup_presentMember (key name : String) (value : Option α) :
    (presentMember key write value).lookup name = if name = key then value.map write else none := by
  cases value with
  | none => exact (ite_self none).symm
  | some a =>
    rw [presentMember, List.lookup_cons]
    split <;> simp_all

theorem mem_presentMember {key : String} {value : Option α} {m : String × Json} :
    m ∈ presentMember key write value ↔ ∃ a ∈ value, (key, write a) = m := by
  cases value with
  | none => simp [presentMember]
  | some a => simp [presentMember, eq_comm]

theorem keys_presentMember (key : String) (value : Option α) :
    ((presentMember key write value).map Prod.fst).Sublist [key] := by
  cases value with
  | none => exact List.nil_sublist [key]
  | some a => exact List.Sublist.refl [key]

theorem slots?_object {names : List String} {members : List (String × Json)} (hnames : names.Nodup)
    (h : (members.map Prod.fst).Sublist names) (extras : Extras) :
    slots? names extras (object members) = some (names.map fun name => members.lookup name) := by
  have hkeys : (members.map Prod.fst).Nodup := h.nodup hnames
  have honce : ¬names.any (fun name => 1 < (members.map Prod.fst).count name) := by
    intro hany
    obtain ⟨name, -, hcount⟩ := List.any_eq_true.mp hany
    have hle := List.nodup_iff_count_le_one.mp hkeys name
    rw [decide_eq_true_eq] at hcount
    omega
  have hknown : ¬(members.map Prod.fst).any (fun key => !names.contains key) := by
    intro hany
    obtain ⟨key, hkey, hother⟩ := List.any_eq_true.mp hany
    have hmem := h.subset hkey
    simp [hmem] at hother
  simp only [slots?, honce, hknown, Bool.and_false, Bool.false_eq_true, if_false]

/-! ## What fits -/

variable {levels : Nat} {shape : Shape}

theorem fits_ofUInt64 (n : UInt64) : Fits levels shape (ofUInt64 n) := .int (.ofUInt64 n)

theorem fits_array {items : List Json} (h : ∀ i, ∀ v ∈ items, Fits levels (shape.item i) v) :
    Fits (levels + 1) shape (array items) :=
  .array fun i v hv => h i v (List.mem_of_getElem? hv)

theorem fits_strings (ss : List String) : Fits (levels + 1) shape (strings ss) := by
  apply fits_array
  intro i v hv
  obtain ⟨s, -, rfl⟩ := List.mem_map.mp hv
  exact .string s

theorem fits_optional (h : ∀ a, Fits levels shape (write a)) (value : Option α) :
    Fits levels shape (optional write value) := by
  cases value with
  | none => exact .null
  | some a => exact h a

theorem fits_whole {members : List (String × Json)} (h : ∀ m ∈ members, Fits levels .whole m.2) :
    Fits (levels + 1) .whole (object members) := by
  apply Fits.object
  · intro m _
    rfl
  · intro m hm inner hinner
    obtain rfl : Shape.whole = inner := Option.some.inj hinner
    exact h m hm

theorem member?_fields {names : List String} {name : String} (h : name ∈ names) :
    (Shape.fields names).member? name = some .whole := by
  induction names with
  | nil => cases h
  | cons other rest ih =>
    rw [Shape.fields, Shape.member?, List.map_cons, List.lookup_cons]
    split
    · rfl
    · rename_i hne
      have hname : name ∈ rest := (List.mem_cons.mp h).resolve_left (ne_of_beq_false hne)
      exact ih hname

theorem fits_fields {names : List String} {members : List (String × Json)}
    (hnames : ∀ m ∈ members, m.1 ∈ names) (h : ∀ m ∈ members, Fits levels .whole m.2) :
    Fits (levels + 1) (.fields names) (object members) := by
  apply Fits.object
  · intro m hm
    rw [member?_fields (hnames m hm)]
    rfl
  · intro m hm inner hinner
    rw [member?_fields (hnames m hm)] at hinner
    obtain rfl : Shape.whole = inner := Option.some.inj hinner
    exact h m hm

end Json
end RowQuery
