import RowQuery.Proofs.Query.Options
import RowQuery.Proofs.Text.Form
import RowQuery.Query.FromUrl

/-!
# The query component of a URL

A URL is read through the reader of query strings, which takes one question mark off the front. A
query component that begins with a question mark of its own loses it there. Where that makes no
difference, the options are those of the whole component, and pairs of other names have no effect.
-/
namespace RowQuery.Query

/-- The value of the last pair that has exactly the name of an option. -/
def kept (pairs : List (String × String)) (key : Key) : Option String :=
  (pairs.filter fun pair => pair.1 == key.name).getLast?.map Prod.snd

def ofComponent (limits : Limits) (component : String) : Except ParseError Query := do
  limits.checkQueryLength component.utf8ByteSize
  ofValues limits (kept (Form.pairs component))

theorem lookup_eq_head? (name : String) (pairs : List (String × String)) :
    pairs.lookup name = (pairs.filter fun pair => pair.1 == name).head?.map Prod.snd := by
  induction pairs with
  | nil => rfl
  | cons pair rest ih =>
    obtain ⟨other, value⟩ := pair
    by_cases h : name = other
    · subst h
      simp
    · have hname : (name == other) = false := beq_eq_false_iff_ne.mpr h
      have hother : (other == name) = false := beq_eq_false_iff_ne.mpr (Ne.symm h)
      simp [List.lookup_cons, hname, hother, ih]

theorem lastValues_eq_kept (pairs : List (String × String)) : lastValues pairs = kept pairs := by
  funext key
  rw [lastValues, Form.lastValue, lookup_eq_head?, List.filter_reverse, List.head?_reverse, kept]

theorem kept_cons (pair : String × String) (later : List (String × String)) (key : Key) :
    kept (pair :: later) key =
      (kept later key).or (if pair.1 = key.name then some pair.2 else none) := by
  by_cases h : pair.1 = key.name
  · simp only [kept, List.filter_cons, h, beq_self_eq_true, if_true, List.getLast?_cons]
    cases (later.filter fun pair => pair.1 == key.name).getLast? <;> rfl
  · simp [kept, h]

theorem kept_cons_of_ne {name : String} {key : Key} (h : name ≠ key.name) (value : String)
    (later : List (String × String)) : kept ((name, value) :: later) key = kept later key := by
  rw [kept_cons, if_neg h, Option.or_none]

theorem kept_append (first second : List (String × String)) (key : Key) :
    kept (first ++ second) key = (kept second key).or (kept first key) := by
  induction first with
  | nil => exact (Option.or_none).symm
  | cons pair first ih => rw [List.cons_append, kept_cons, ih, kept_cons, Option.or_assoc]

theorem kept_eq_none_iff {pairs : List (String × String)} {key : Key} :
    kept pairs key = none ↔ ∀ pair ∈ pairs, pair.1 ≠ key.name := by
  simp [kept]

theorem ofValues_cons_eq_iff (limits : Limits) (name value : String)
    (later : List (String × String)) :
    ofValues limits (kept ((name, value) :: later)) = ofValues limits (kept later) ↔
      ¬∃ key : Key, name = key.name ∧ kept later key = none ∧
        Decisive limits (kept later) key value := by
  by_cases hkey : ∃ key : Key, name = key.name ∧ kept later key = none
  · obtain ⟨key, rfl, hmissing⟩ := hkey
    have hmore : kept ((key.name, value) :: later) key = some value := by
      rw [kept_cons, hmissing, if_pos rfl, Option.none_or]
    have hother : ∀ other ≠ key, kept ((key.name, value) :: later) other = kept later other :=
      fun other hne => kept_cons_of_ne (fun h => hne (Key.name_inj.mp h).symm) value later
    rw [ofValues_eq_iff hmore hmissing hother, not_iff_not]
    constructor
    · intro h
      exact ⟨key, rfl, hmissing, h⟩
    · rintro ⟨other, hname, -, h⟩
      exact Key.name_inj.mp hname ▸ h
  · have hsame : kept ((name, value) :: later) = kept later := by
      funext key
      rw [kept_cons]
      by_cases hname : name = key.name
      · cases hk : kept later key with
        | none => exact absurd ⟨key, hname, hk⟩ hkey
        | some last => rfl
      · rw [if_neg hname, Option.or_none]
    rw [hsame]
    exact iff_of_true rfl fun ⟨key, hname, hmissing, _⟩ => hkey ⟨key, hname, hmissing⟩

def isKey (name : String) : Bool := Key.all.any fun key => name == key.name

theorem kept_filter (pairs : List (String × String)) :
    kept (pairs.filter fun pair => isKey pair.1) = kept pairs := by
  funext key
  have hkey : ∀ pair ∈ pairs, (pair.1 == key.name && isKey pair.1) = (pair.1 == key.name) := by
    intro pair _
    by_cases h : pair.1 = key.name
    · have hany : isKey pair.1 = true :=
        List.any_eq_true.mpr ⟨key, key.mem_all, beq_iff_eq.mpr h⟩
      rw [hany, Bool.and_true]
    · simp [h]
  rw [kept, List.filter_filter, List.filter_congr hkey, kept]

/-! ## The mark in front -/

theorem readQueryString_eq (limits : Limits) (text : String) :
    readQueryString limits text = ofComponent limits (withoutMark text) := by
  simp only [readQueryString, ofComponent, ofPairs_eq_ofValues, lastValues_eq_kept]

/-- A question mark at the front of a component matters: either the rest has just the length that
the limit allows, or the rest begins with a pair for an option that no later pair names and whose
value decides the result. -/
def MarkMatters (limits : Limits) (component : String) : Prop :=
  ∃ rest, component = "?" ++ rest ∧
    ((∃ max ∈ limits.queryLength, rest.utf8ByteSize = max.toNat) ∨
      (∀ max ∈ limits.queryLength, component.utf8ByteSize ≤ max.toNat) ∧
        ∃ key value later, Form.pairs component = ("?" ++ key.name, value) :: later ∧
          kept later key = none ∧ Decisive limits (kept later) key value)

theorem mark_ne_name (name : String) (key : Key) : "?" ++ name ≠ key.name := by
  intro h
  have hmark : ("?" ++ name).toList.head? = some '?' := by rw [toList_mark, List.head?_cons]
  rw [h] at hmark
  cases key <;> exact absurd hmark (by decide)

theorem ofValues_mark_eq_iff (limits : Limits) (rest : String) :
    ofValues limits (kept (Form.pairs rest)) = ofValues limits (kept (Form.pairs ("?" ++ rest))) ↔
      ¬∃ key value later, Form.pairs ("?" ++ rest) = ("?" ++ Key.name key, value) :: later ∧
        kept later key = none ∧ Decisive limits (kept later) key value := by
  obtain ⟨name, value, later, hmark, hrest⟩ := Form.pairs_mark rest
  have hpairs : kept (Form.pairs ("?" ++ rest)) = kept later := by
    funext key
    rw [hmark, kept_cons_of_ne (mark_ne_name name key)]
  have hempty : ∀ key : Key, "" ≠ key.name := fun key => by cases key <;> decide
  have hvalues : kept (Form.pairs rest) = kept ((name, value) :: later) := by
    rcases hrest with h | ⟨rfl, h⟩
    · rw [h]
    · funext key
      rw [h, kept_cons_of_ne (hempty key)]
  rw [hpairs, hvalues, ofValues_cons_eq_iff, hmark, not_iff_not]
  constructor
  · rintro ⟨key, rfl, hmissing, h⟩
    exact ⟨key, value, later, rfl, hmissing, h⟩
  · rintro ⟨key, text, tail, hcons, hmissing, h⟩
    simp only [List.cons.injEq, Prod.mk.injEq] at hcons
    obtain ⟨⟨hname, rfl⟩, rfl⟩ := hcons
    exact ⟨key, mark_inj hname, hmissing, h⟩

theorem ofComponent_of_checked {limits : Limits} {component : String}
    (h : ∀ max ∈ limits.queryLength, component.utf8ByteSize ≤ max.toNat) :
    ofComponent limits component = ofValues limits (kept (Form.pairs component)) := by
  have hcheck : limits.checkQueryLength component.utf8ByteSize = .ok () :=
    Limits.check_eq_ok_iff.mpr h
  rw [ofComponent, hcheck, ok_bind]

theorem ofComponent_of_unlimited {limits : Limits} (h : limits.queryLength = none)
    (component : String) :
    ofComponent limits component = ofValues limits (kept (Form.pairs component)) :=
  ofComponent_of_checked fun max hmax => by simp [h] at hmax

theorem ofComponent_of_exceeded {limits : Limits} {component : String} {max : UInt64}
    (hmax : limits.queryLength = some max) (h : max.toNat < component.utf8ByteSize) :
    ofComponent limits component = .error (.limitExceeded "query string length" max) := by
  simp only [ofComponent, Limits.checkQueryLength, Limits.check, hmax, if_pos h, error_bind]

theorem ofValues_ne_error {limits : Limits} {values : Key → Option String} {e : ParseError}
    (h : about? e = none) : ofValues limits values ≠ .error e := by
  intro herror
  have hfirst := error?_ofValues limits values
  rw [herror] at hfirst
  obtain ⟨key, _, habout⟩ := about?_of_firstFault hfirst.symm
  rw [h] at habout
  cases habout

theorem ofComponent_mark_eq_iff (limits : Limits) (rest : String) :
    ofComponent limits rest = ofComponent limits ("?" ++ rest) ↔
      ¬MarkMatters limits ("?" ++ rest) := by
  have hsize := utf8ByteSize_mark rest
  by_cases hwithin : ∀ max ∈ limits.queryLength, ("?" ++ rest).utf8ByteSize ≤ max.toNat
  · have hrest : ∀ max ∈ limits.queryLength, rest.utf8ByteSize ≤ max.toNat :=
      fun max hmax => by have := hwithin max hmax; omega
    rw [ofComponent_of_checked hrest, ofComponent_of_checked hwithin, ofValues_mark_eq_iff,
      not_iff_not]
    constructor
    · intro h
      exact ⟨rest, rfl, .inr ⟨hwithin, h⟩⟩
    · rintro ⟨other, hother, ⟨max, hmax, hlength⟩ | ⟨_, h⟩⟩
      · have := hwithin max hmax
        cases mark_inj hother
        omega
      · exact h
  · -- The whole component is over the limit, and what is left may be just within it.
    push Not at hwithin
    obtain ⟨max, hmax, hexceeded⟩ := hwithin
    rw [ofComponent_of_exceeded hmax hexceeded]
    by_cases hlength : rest.utf8ByteSize = max.toNat
    · have hrest : ∀ m ∈ limits.queryLength, rest.utf8ByteSize ≤ m.toNat :=
        fun m hm => by rw [Option.mem_unique hm hmax]; omega
      rw [ofComponent_of_checked hrest]
      refine iff_of_false (ofValues_ne_error rfl) (not_not_intro ?_)
      exact ⟨rest, rfl, .inl ⟨max, hmax, hlength⟩⟩
    · rw [ofComponent_of_exceeded hmax (by omega)]
      refine iff_of_true rfl ?_
      rintro ⟨other, hother, ⟨m, hm, hshort⟩ | ⟨hwithin, _⟩⟩
      · cases mark_inj hother
        rw [Option.mem_unique hm hmax] at hshort
        exact hlength hshort
      · have := hwithin max hmax
        omega

/-! ## URLs -/

theorem result_parseUrl {url component : String} (h : urlQuery url = .ok component)
    (limits : Limits) :
    (parseUrl limits url).result = ofComponent limits (withoutMark component) := by
  rw [parseUrl, Attempt.result_bind, Attempt.result_ofExcept, h, ok_bind,
    result_parseQueryString, readQueryString_eq]

/-- A URL is read as its query component without one question mark at the front. That is the
component as it stands unless the mark matters, and pairs by other names count for nothing. -/
theorem parseUrl_eq_ofComponent_iff {url component : String} (h : urlQuery url = .ok component)
    (limits : Limits) :
    (parseUrl limits url).result = ofComponent limits (withoutMark component) ∧
    ((parseUrl limits url).result = ofComponent limits component ↔
      ¬MarkMatters limits component) ∧
    kept (Form.pairs component) =
      kept ((Form.pairs component).filter fun pair => isKey pair.1) := by
  have hresult := result_parseUrl h limits
  refine ⟨hresult, ?_, (kept_filter _).symm⟩
  rw [hresult]
  by_cases hmark : ∃ rest, component = "?" ++ rest
  · obtain ⟨rest, rfl⟩ := hmark
    rw [withoutMark_mark]
    exact ofComponent_mark_eq_iff limits rest
  · rw [withoutMark_of_forall fun rest hrest => hmark ⟨rest, hrest⟩]
    exact iff_of_true rfl fun ⟨rest, hrest, _⟩ => hmark ⟨rest, hrest⟩

/-- The one pair of the component is named `?$top`, and yet a limit on the rows is read. -/
theorem parseUrl_second_mark :
    let url := "/books??$top=1"
    urlQuery url = .ok "?$top=1" ∧ MarkMatters {} "?$top=1" ∧
      (parseUrl {} url).result = .ok { top := some 1 } ∧ ofComponent {} "?$top=1" = .ok {} := by
  intro url
  have hurl : urlQuery "/books??$top=1" = .ok "?$top=1" := by rfl
  have hlaw : ofComponent {} "?$top=1" = .ok {} := rfl
  have hwithout : ofComponent {} (withoutMark "?$top=1") = .ok { top := some 1 } := rfl
  obtain ⟨hresult, hiff, -⟩ := parseUrl_eq_ofComponent_iff hurl {}
  refine ⟨hurl, ?_, hresult.trans hwithout, hlaw⟩
  by_contra hmark
  have hsame := hiff.mpr hmark
  rw [hresult, hwithout, hlaw] at hsame
  cases hsame

end RowQuery.Query
