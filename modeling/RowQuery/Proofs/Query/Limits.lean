import RowQuery.Proofs.Query.Component

/-!
# Limits only refuse

Checks stand between the readings of the options, but each of them looks at what was read and
changes nothing. So a query is read under limits exactly if it is read without any and is within
them, and the limits have no part in what it is.
-/
namespace RowQuery

/-- A query, read from a query string of some length, is within limits. An unset limit admits all,
and an absent option is within every limit. -/
structure Limits.Admits (l : Limits) (length : Nat) (q : Query) : Prop where
  queryLength : ∀ max ∈ l.queryLength, length ≤ max.toNat
  top : ∀ max ∈ l.top, ∀ n ∈ q.top, n ≤ max
  selectFields : ∀ max ∈ l.selectFields, ∀ fields ∈ q.select, fields.length ≤ max.toNat
  orderByFields : ∀ max ∈ l.orderByFields, ∀ order ∈ q.orderBy, order.length ≤ max.toNat

def Limits.Eased (max eased : Option UInt64) : Prop := ∀ m ∈ eased, ∃ n ∈ max, n ≤ m

structure Limits.EasedTo (l eased : Limits) : Prop where
  queryLength : Eased l.queryLength eased.queryLength
  top : Eased l.top eased.top
  selectFields : Eased l.selectFields eased.selectFields
  orderByFields : Eased l.orderByFields eased.orderByFields

theorem Limits.Admits.eased {l eased : Limits} {length : Nat} {q : Query}
    (h : l.Admits length q) (heased : l.EasedTo eased) : eased.Admits length q := by
  constructor
  · intro max hmax
    obtain ⟨n, hn, hle⟩ := heased.queryLength max hmax
    exact (h.queryLength n hn).trans (UInt64.le_iff_toNat_le.mp hle)
  · intro max hmax top htop
    obtain ⟨n, hn, hle⟩ := heased.top max hmax
    exact UInt64.le_trans (h.top n hn top htop) hle
  · intro max hmax fields hfields
    obtain ⟨n, hn, hle⟩ := heased.selectFields max hmax
    exact (h.selectFields n hn fields hfields).trans (UInt64.le_iff_toNat_le.mp hle)
  · intro max hmax order horder
    obtain ⟨n, hn, hle⟩ := heased.orderByFields max hmax
    exact (h.orderByFields n hn order horder).trans (UInt64.le_iff_toNat_le.mp hle)

namespace Query

/-! ## One option under its limit -/

theorem readOption_eq_ok_iff {α : Type} {raw : Option String}
    {parse : String → Except ParseError α} {check : α → Except ParseError Unit} {a : Option α} :
    readOption raw parse check = .ok a ↔
      readOption raw parse (fun _ => .ok ()) = .ok a ∧ ∀ x ∈ a, check x = .ok () := by
  cases a with
  | none => cases raw <;> simp [readOption, bind_eq_ok_iff]
  | some x =>
    simp only [readOption_eq_some_iff, Option.mem_some_iff, forall_eq']
    constructor
    · rintro ⟨text, hraw, hparse, hcheck⟩
      exact ⟨⟨text, hraw, hparse, trivial⟩, hcheck⟩
    · rintro ⟨⟨text, hraw, hparse, -⟩, hcheck⟩
      exact ⟨text, hraw, hparse, hcheck⟩

variable {limits : Limits} {raw : Option String}

theorem readSelect_eq_ok_iff {select : Option (List String)} :
    readSelect limits raw = .ok select ↔ readSelect {} raw = .ok select ∧
      ∀ max ∈ limits.selectFields, ∀ fields ∈ select, fields.length ≤ max.toNat := by
  rw [readSelect, readOption_eq_ok_iff]
  refine and_congr_right fun _ => ?_
  simp only [Limits.checkSelect, Limits.check_eq_ok_iff]
  exact forall₂_comm

theorem readTop_eq_ok_iff {top : Option UInt64} :
    readTop limits raw = .ok top ↔ readTop {} raw = .ok top ∧
      ∀ max ∈ limits.top, ∀ n ∈ top, n ≤ max := by
  rw [readTop, readOption_eq_ok_iff]
  refine and_congr_right fun _ => ?_
  simp only [Limits.checkTop, Limits.check_eq_ok_iff, ← UInt64.le_iff_toNat_le]
  exact forall₂_comm

theorem readOrderBy_eq_ok_iff {orderBy : Option SortOrder} :
    readOrderBy limits raw = .ok orderBy ↔ readOrderBy {} raw = .ok orderBy ∧
      ∀ max ∈ limits.orderByFields, ∀ order ∈ orderBy, order.length ≤ max.toNat := by
  rw [readOrderBy, readOption_eq_ok_iff]
  refine and_congr_right fun _ => ?_
  simp only [Limits.checkOrderBy, Limits.check_eq_ok_iff]
  exact forall₂_comm

/-! ## The whole query -/

theorem ofComponent_eq_ok_iff {component : String} {q : Query} :
    ofComponent limits component = .ok q ↔
      (∀ max ∈ limits.queryLength, component.utf8ByteSize ≤ max.toNat) ∧
        ofValues limits (kept (Form.pairs component)) = .ok q := by
  rw [ofComponent, bind_eq_ok_iff, Limits.checkQueryLength]
  constructor
  · rintro ⟨u, hcheck, hvalues⟩
    exact ⟨Limits.check_eq_ok_iff.mp hcheck, hvalues⟩
  · rintro ⟨hlength, hvalues⟩
    exact ⟨(), Limits.check_eq_ok_iff.mpr hlength, hvalues⟩

theorem ofComponent_eq_ok_iff_admits {component : String} {q : Query} :
    ofComponent limits component = .ok q ↔
      ofComponent {} component = .ok q ∧ limits.Admits component.utf8ByteSize q := by
  have hunset : ∀ max ∈ ({} : Limits).queryLength, component.utf8ByteSize ≤ max.toNat := by simp
  rw [ofComponent_eq_ok_iff, ofComponent_eq_ok_iff, ofValues_eq_ok_iff, ofValues_eq_ok_iff,
    readSelect_eq_ok_iff, readTop_eq_ok_iff, readOrderBy_eq_ok_iff]
  constructor
  · rintro ⟨hlength, ⟨hselect, hfields⟩, ⟨htop, hn⟩, hskip, horder, hkeys⟩
    exact ⟨⟨hunset, hselect, htop, hskip, horder⟩, hlength, hn, hfields, hkeys⟩
  · rintro ⟨⟨-, hselect, htop, hskip, horder⟩, hlength, hn, hfields, hkeys⟩
    exact ⟨hlength, ⟨hselect, hfields⟩, ⟨htop, hn⟩, hskip, horder, hkeys⟩

/-- A query is read under limits exactly if it is read without limits and is within them. So no
limit changes what is read, and what was read is still read when limits are raised or unset. -/
theorem parseQueryString_eq_ok_iff_admits (limits : Limits) (text : String) (q : Query) :
    ((parseQueryString limits text).result = .ok q ↔
      (parseQueryString {} text).result = .ok q ∧
        limits.Admits (withoutMark text).utf8ByteSize q) ∧
    (∀ (other : Limits) (r : Query), (parseQueryString limits text).result = .ok q →
      (parseQueryString other text).result = .ok r → r = q) ∧
    ∀ eased : Limits, limits.EasedTo eased → (parseQueryString limits text).result = .ok q →
      (parseQueryString eased text).result = .ok q := by
  simp only [result_parseQueryString, readQueryString_eq]
  refine ⟨ofComponent_eq_ok_iff_admits, ?_, ?_⟩
  · intro other r hq hr
    have hq := (ofComponent_eq_ok_iff_admits.mp hq).1
    have hr := (ofComponent_eq_ok_iff_admits.mp hr).1
    exact Except.ok.inj (hr.symm.trans hq)
  · intro eased heased hq
    obtain ⟨hunset, hadmits⟩ := ofComponent_eq_ok_iff_admits.mp hq
    exact ofComponent_eq_ok_iff_admits.mpr ⟨hunset, hadmits.eased heased⟩

/-- All four limits are just met; then one is raised and the others are unset. -/
theorem parseQueryString_at_limits :
    let text := "?$select=a,b&$top=0&$orderby=a"
    let limits : Limits :=
      { queryLength := some 29, top := some 0, selectFields := some 2, orderByFields := some 1 }
    let eased : Limits := { top := some 18446744073709551615 }
    let q : Query :=
      { select := some ["a", "b"], top := some 0, orderBy := some [⟨"a", .ascending⟩] }
    limits.EasedTo eased ∧ (parseQueryString {} text).result = .ok q ∧
      limits.Admits (withoutMark text).utf8ByteSize q ∧
      (parseQueryString limits text).result = .ok q ∧
      (parseQueryString eased text).result = .ok q := by
  intro text limits eased q
  have heased : limits.EasedTo eased := by
    constructor <;> simp [Limits.Eased, limits, eased]
  have hsize : (withoutMark "?$select=a,b&$top=0&$orderby=a").utf8ByteSize = 29 := by decide
  have hadmits : limits.Admits (withoutMark text).utf8ByteSize q := by
    constructor <;> simp [limits, q, text, hsize]
  have hunset : (parseQueryString {} "?$select=a,b&$top=0&$orderby=a").result = .ok q := by rfl
  obtain ⟨hiff, -, hraised⟩ := parseQueryString_eq_ok_iff_admits limits text q
  have hread := hiff.mpr ⟨hunset, hadmits⟩
  exact ⟨heased, hunset, hadmits, hread, hraised eased heased hread⟩

end Query
end RowQuery
