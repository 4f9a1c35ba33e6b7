import Mathlib.Logic.Relation
import RowQuery.Proofs.Query.Component

/-!
# Changes to a query string that do not show

A query string counts by the last value of each option and by nothing else. So its pieces may change
places as long as no two of them name the same option, and a piece may come or go if each option it
names is named again behind it. What is read is the same then, the error too if there is one.
-/
namespace RowQuery.Query

def pairsOf (text : String) : List (String × String) := Form.pairs (withoutMark text)

def Names (piece : String) (key : Key) : Prop := ∃ pair ∈ Form.pairs piece, pair.1 = key.name

instance (piece : String) (key : Key) : Decidable (Names piece key) := List.decidableBEx ..

/-- One change to the pieces of a query string. A piece that is dropped may be empty, may be a pair
by another name, or may be a pair whose option is named again. -/
inductive Rearranged : List String → List String → Prop
  | swap {first second : String} (before after : List String)
      (h : ∀ key, ¬(Names first key ∧ Names second key)) :
      Rearranged (before ++ first :: second :: after) (before ++ second :: first :: after)
  | drop {piece : String} (before after : List String)
      (h : ∀ key, Names piece key → ∃ later ∈ after, Names later key) :
      Rearranged (before ++ piece :: after) (before ++ after)

variable {pieces others : List String} {key : Key}

def keptAmong (pieces : List String) (key : Key) : Option String :=
  kept (pieces.flatMap Form.pairs) key

theorem keptAmong_append (first second : List String) :
    keptAmong (first ++ second) key = (keptAmong second key).or (keptAmong first key) := by
  rw [keptAmong, List.flatMap_append, kept_append]
  rfl

theorem keptAmong_cons (piece : String) (rest : List String) :
    keptAmong (piece :: rest) key = (keptAmong rest key).or (kept (Form.pairs piece) key) := by
  rw [keptAmong, List.flatMap_cons, kept_append]
  rfl

theorem kept_of_not_names {piece : String} (h : ¬Names piece key) :
    kept (Form.pairs piece) key = none :=
  kept_eq_none_iff.mpr fun pair hpair hname => h ⟨pair, hpair, hname⟩

theorem isSome_keptAmong {later : String} (hlater : later ∈ pieces) (h : Names later key) :
    (keptAmong pieces key).isSome := by
  obtain ⟨pair, hpair, hname⟩ := h
  rw [Option.isSome_iff_ne_none]
  intro hnone
  exact kept_eq_none_iff.mp hnone pair (List.mem_flatMap_of_mem hlater hpair) hname

theorem keptAmong_rearranged (h : Rearranged pieces others) :
    keptAmong pieces key = keptAmong others key := by
  cases h with
  | @swap first second before after h =>
    rw [keptAmong_append, keptAmong_append, keptAmong_cons, keptAmong_cons, keptAmong_cons,
      keptAmong_cons]
    by_cases hfirst : Names first key
    · have hsecond : ¬Names second key := fun hsecond => h key ⟨hfirst, hsecond⟩
      rw [kept_of_not_names hsecond, Option.or_none, Option.or_none]
    · rw [kept_of_not_names hfirst, Option.or_none, Option.or_none]
  | @drop piece before after h =>
    rw [keptAmong_append, keptAmong_append, keptAmong_cons]
    by_cases hpiece : Names piece key
    · obtain ⟨later, hlater, hnames⟩ := h key hpiece
      rw [Option.or_of_isSome (isSome_keptAmong hlater hnames)]
    · rw [kept_of_not_names hpiece, Option.or_none]

theorem keptAmong_of_eqvGen (h : Relation.EqvGen Rearranged pieces others) (key : Key) :
    keptAmong pieces key = keptAmong others key := by
  induction h with
  | rel _ _ h => exact keptAmong_rearranged h
  | refl _ => rfl
  | symm _ _ _ ih => exact ih.symm
  | trans _ _ _ _ _ ih ih' => exact ih.trans ih'

theorem kept_pairsOf {text : String} (h : withoutMark text = "&".intercalate pieces) (key : Key) :
    kept (pairsOf text) key = keptAmong pieces key := by
  rw [pairsOf, h, Form.pairs_intercalate, keptAmong]

theorem readQueryString_congr {limits : Limits} (hlength : limits.queryLength = none)
    {first second : String} (h : kept (pairsOf first) = kept (pairsOf second)) :
    readQueryString limits first = readQueryString limits second := by
  rw [readQueryString_eq, readQueryString_eq, ofComponent_of_unlimited hlength,
    ofComponent_of_unlimited hlength]
  exact congrArg (ofValues limits) h

/-- Query strings with the same last value for each option are read alike, to the same query or to
the same error. So are query strings whose pieces come from one another by changes that do not
show. -/
theorem parseQueryString_congr {limits : Limits} (hlength : limits.queryLength = none) :
    (∀ first second : String,
      (∀ key, kept (pairsOf first) key = kept (pairsOf second) key) →
        parseQueryString limits first = parseQueryString limits second) ∧
    ∀ pieces others : List String, Relation.EqvGen Rearranged pieces others →
      ∀ first second : String, withoutMark first = "&".intercalate pieces →
        withoutMark second = "&".intercalate others →
          parseQueryString limits first = parseQueryString limits second := by
  have hlast : ∀ first second : String,
      (∀ key, kept (pairsOf first) key = kept (pairsOf second) key) →
        parseQueryString limits first = parseQueryString limits second := by
    intro first second h
    rw [parseQueryString, parseQueryString, readQueryString_congr hlength (funext h)]
  refine ⟨hlast, ?_⟩
  intro pieces others h first second hfirst hsecond
  apply hlast first second
  intro key
  rw [kept_pairsOf hfirst, kept_pairsOf hsecond]
  exact keptAmong_of_eqvGen h key

/-- The error is about `$top` in every order, and about its last value. -/
theorem parseQueryString_congr_two_faults :
    (∀ key, kept (pairsOf "?$skip=x&&$top=y&%24top=-1") key =
      kept (pairsOf "$top=%2D1&$skip=x") key) ∧
    Relation.EqvGen Rearranged ["$skip=x", "", "$top=y", "%24top=-1"] ["%24top=-1", "$skip=x"] ∧
    withoutMark "?$skip=x&&$top=y&%24top=-1" =
      "&".intercalate ["$skip=x", "", "$top=y", "%24top=-1"] ∧
    withoutMark "%24top=-1&$skip=x" = "&".intercalate ["%24top=-1", "$skip=x"] ∧
    (parseQueryString {} "?$skip=x&&$top=y&%24top=-1").result =
      .error (.invalidInteger "$top" "-1") ∧
    parseQueryString {} "?$skip=x&&$top=y&%24top=-1" = parseQueryString {} "$top=%2D1&$skip=x" ∧
    parseQueryString {} "?$skip=x&&$top=y&%24top=-1" = parseQueryString {} "%24top=-1&$skip=x" := by
  have hlast : ∀ key, kept (pairsOf "?$skip=x&&$top=y&%24top=-1") key =
      kept (pairsOf "$top=%2D1&$skip=x") key :=
    fun key => by cases key <;> decide +kernel
  have hempty : Rearranged ["$skip=x", "", "$top=y", "%24top=-1"]
      ["$skip=x", "$top=y", "%24top=-1"] :=
    .drop ["$skip=x"] ["$top=y", "%24top=-1"] fun key => by cases key <;> decide +kernel
  have hearlier : Rearranged ["$skip=x", "$top=y", "%24top=-1"] ["$skip=x", "%24top=-1"] :=
    .drop ["$skip=x"] ["%24top=-1"] fun key => by cases key <;> decide +kernel
  have hswapped : Rearranged ["$skip=x", "%24top=-1"] ["%24top=-1", "$skip=x"] :=
    .swap [] [] fun key => by cases key <;> decide +kernel
  have hchanged := (Relation.EqvGen.rel _ _ hempty).trans _ _ _
    ((Relation.EqvGen.rel _ _ hearlier).trans _ _ _ (.rel _ _ hswapped))
  obtain ⟨hsame, hrearranged⟩ := @parseQueryString_congr {} rfl
  exact ⟨hlast, hchanged, rfl, rfl, rfl, hsame _ _ hlast, hrearranged _ _ hchanged _ _ rfl rfl⟩

end RowQuery.Query
