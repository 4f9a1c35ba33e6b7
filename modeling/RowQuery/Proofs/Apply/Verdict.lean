import Mathlib.Data.List.Nodup
import RowQuery.Proofs.Apply.Validate

/-!
# The verdict on a query

There are four verdicts, and of those that would do the earliest is given: hidden fields are
selected, an unknown field is selected, the order has an unknown field, the query is valid. A
verdict about hidden fields names them all, each once, in the order in which they first occur; one
about unknown fields names the first. `Verdict` says this without a word of how the checks are made,
and `validate` gives a result exactly if it is the verdict.
-/
namespace RowQuery.Applier

variable {σ : Type} [Target σ]

/-- These are the hidden ones among the fields. -/
structure Offends (hidden : NameSet) (fields offending : List String) : Prop where
  mem_iff : ∀ field, field ∈ offending ↔ field ∈ fields ∧ field ∈ hidden.toList
  nodup : offending.Nodup
  inOrder : offending.Pairwise fun a b => fields.idxOf a < fields.idxOf b

def IsFirst (p : String → Prop) (names : List String) (name : String) : Prop :=
  ∃ before after, names = before ++ name :: after ∧ p name ∧ ∀ other ∈ before, ¬p other

def selected (query : Query) : List String := query.select.getD []

def ordered (query : Query) : List String := (query.orderBy.getD []).map OrderKey.field

def SelectsHidden (a : Applier) (query : Query) : Prop :=
  a.enforce = true ∧ ∃ field ∈ selected query, field ∈ (a.policy.hiddenFields a.recordType).toList

def Knows (s : σ) (field : String) : Prop := Target.hasField s field = true

inductive Verdict (a : Applier) (query : Query) (s : σ) : Except ValidationError Unit → Prop
  | hidden {fields : List String} (selects : a.SelectsHidden query)
      (offends : Offends (a.policy.hiddenFields a.recordType) (selected query) fields) :
      Verdict a query s (.error (.hiddenFieldSelected a.recordType fields))
  | unknownSelected {field : String} (visible : ¬a.SelectsHidden query)
      (first : IsFirst (¬Knows s ·) (selected query) field) :
      Verdict a query s (.error (.unknownField Query.selectOption field))
  | unknownOrdered {field : String} (visible : ¬a.SelectsHidden query)
      (known : ∀ field ∈ selected query, Knows s field)
      (first : IsFirst (¬Knows s ·) (ordered query) field) :
      Verdict a query s (.error (.unknownField Query.orderByOption field))
  | valid (visible : ¬a.SelectsHidden query) (known : ∀ field ∈ selected query, Knows s field)
      (orderKnown : ∀ field ∈ ordered query, Knows s field) : Verdict a query s (.ok ())

/-! ## The fields that offend -/

theorem nodup_offending (hidden : NameSet) (fields : List String) :
    (offending hidden fields).Nodup := by
  induction fields with
  | nil => exact List.nodup_nil
  | cons first rest ih =>
    simp only [offending]
    split
    · exact List.nodup_cons.mpr ⟨by simp, ih.filter _⟩
    · exact ih

theorem offending_inOrder (hidden : NameSet) (fields : List String) :
    (offending hidden fields).Pairwise fun a b => fields.idxOf a < fields.idxOf b := by
  induction fields with
  | nil => exact List.Pairwise.nil
  | cons first rest ih =>
    -- Behind the first field every place counts one more.
    have hshift : ∀ {names : List String}, first ∉ names →
        names.Pairwise (fun a b => rest.idxOf a < rest.idxOf b) →
        names.Pairwise fun a b => (first :: rest).idxOf a < (first :: rest).idxOf b := by
      intro names hfirst hnames
      refine hnames.imp_of_mem fun {a b} ha hb hlt => ?_
      rw [List.idxOf_cons_ne rest fun h : first = a => hfirst (h ▸ ha),
        List.idxOf_cons_ne rest fun h : first = b => hfirst (h ▸ hb)]
      omega
    simp only [offending]
    split
    · refine List.pairwise_cons.mpr ⟨fun b hb => ?_, hshift (by simp) (ih.filter _)⟩
      have hne : first ≠ b := fun h => by simp [h] at hb
      rw [List.idxOf_cons_self, List.idxOf_cons_ne rest hne]
      omega
    · rename_i hvisible
      exact hshift (fun hmem => hvisible (mem_offending.mp hmem).2) ih

theorem mem_toList_iff {hidden : NameSet} {field : String} :
    field ∈ hidden.toList ↔ hidden.contains field = true := by
  rw [NameSet.contains, List.contains_iff_mem]

theorem offends_offending (hidden : NameSet) (fields : List String) :
    Offends hidden fields (offending hidden fields) where
  mem_iff field := by rw [mem_offending, mem_toList_iff]
  nodup := nodup_offending hidden fields
  inOrder := offending_inOrder hidden fields

theorem Offends.unique {hidden : NameSet} {fields s t : List String} (hs : Offends hidden fields s)
    (ht : Offends hidden fields t) : s = t := by
  have hperm : s.Perm t := by
    rw [List.perm_ext_iff_of_nodup hs.nodup ht.nodup]
    exact fun field => by rw [hs.mem_iff, ht.mem_iff]
  exact hperm.eq_of_pairwise (fun a b _ _ hab hba => absurd hba (Nat.lt_asymm hab))
    hs.inOrder ht.inOrder

/-! ## Checks and verdicts -/

theorem IsFirst.unique {p : String → Prop} {names : List String} {a b : String}
    (ha : IsFirst p names a) (hb : IsFirst p names b) : a = b := by
  obtain ⟨before, after, rfl, hpa, hbefore⟩ := ha
  obtain ⟨before', after', heq, hpb, hbefore'⟩ := hb
  rcases List.append_eq_append_iff.mp heq with ⟨more, hmore, hrest⟩ | ⟨more, hmore, hrest⟩
  · cases more with
    | nil => exact (List.cons.inj hrest).1
    | cons c more =>
      obtain ⟨rfl, -⟩ := List.cons.inj hrest
      exact absurd hpa (hbefore' a (by simp [hmore]))
  · cases more with
    | nil => exact (List.cons.inj hrest).1.symm
    | cons c more =>
      obtain ⟨rfl, -⟩ := List.cons.inj hrest
      exact absurd hpb (hbefore b (by simp [hmore]))

theorem checkKnown_eq_error_iff {s : σ} {option : String} {fields : List String}
    {e : ValidationError} :
    checkKnown s option fields = .error e ↔
      ∃ field, IsFirst (¬Knows s ·) fields field ∧ e = .unknownField option field := by
  rw [checkKnown]
  cases hfind : fields.find? fun field => !Target.hasField s field with
  | none =>
    have hknown : ∀ field ∈ fields, Knows s field := by simpa [Knows] using hfind
    simp only [reduceCtorEq, false_iff, not_exists, not_and]
    rintro field ⟨before, after, rfl, hunknown, -⟩
    exact absurd (hknown field (by simp)) hunknown
  | some field =>
    obtain ⟨hunknown, before, after, heq, hbefore⟩ := List.find?_eq_some_iff_append.mp hfind
    have hfirst : IsFirst (¬Knows s ·) fields field :=
      ⟨before, after, heq, by simpa [Knows] using hunknown,
        fun other hother => by simpa [Knows] using hbefore other hother⟩
    constructor
    · intro h
      exact ⟨field, hfirst, (Except.error.inj h).symm⟩
    · rintro ⟨other, hother, rfl⟩
      rw [hfirst.unique hother]

variable {a : Applier} {query : Query} {s : σ}

theorem checkVisible_of_selectsHidden (h : a.SelectsHidden query) :
    a.checkVisible query = .error (.hiddenFieldSelected a.recordType
      (offending (a.policy.hiddenFields a.recordType) (selected query))) := by
  obtain ⟨henforce, field, hfield, hhidden⟩ := h
  cases hselect : query.select with
  | none => simp [selected, hselect] at hfield
  | some fields =>
    simp only [selected, hselect, Option.getD_some] at hfield ⊢
    have hne : offending (a.policy.hiddenFields a.recordType) fields ≠ [] := fun hnil =>
      offending_eq_nil_iff.mp hnil field hfield hhidden
    simp only [checkVisible, hselect, henforce, if_true, checkHidden]
    cases hoff : offending (a.policy.hiddenFields a.recordType) fields with
    | nil => exact absurd hoff hne
    | cons first rest => rfl

theorem checkVisible_of_not_selectsHidden (h : ¬a.SelectsHidden query) :
    a.checkVisible query = .ok () := by
  cases hselect : query.select with
  | none => simp only [checkVisible, hselect]
  | some fields =>
    cases henforce : a.enforce with
    | false => simp only [checkVisible, hselect, henforce, Bool.false_eq_true, if_false]
    | true =>
      have hnil : offending (a.policy.hiddenFields a.recordType) fields = [] := by
        rw [offending_eq_nil_iff]
        intro field hfield hhidden
        exact h ⟨henforce, field, by simpa [selected, hselect] using hfield, hhidden⟩
      simp only [checkVisible, hselect, henforce, if_true, checkHidden, hnil]
      rfl

theorem verdict_validate (a : Applier) (query : Query) (s : σ) :
    Verdict a query s (a.validate query s).result := by
  rw [result_validate]
  by_cases hhidden : a.SelectsHidden query
  · rw [checkVisible_of_selectsHidden hhidden]
    exact .hidden hhidden (offends_offending _ _)
  · rw [checkVisible_of_not_selectsHidden hhidden, ok_bind]
    cases hselect : checkKnown s Query.selectOption (query.select.getD []) with
    | error e =>
      obtain ⟨field, hfirst, rfl⟩ := checkKnown_eq_error_iff.mp hselect
      exact .unknownSelected hhidden hfirst
    | ok u =>
      have hknown := checkKnown_eq_ok_iff.mp hselect
      rw [ok_bind]
      cases horder :
          checkKnown s Query.orderByOption ((query.orderBy.getD []).map OrderKey.field) with
      | error e =>
        obtain ⟨field, hfirst, rfl⟩ := checkKnown_eq_error_iff.mp horder
        exact .unknownOrdered hhidden hknown hfirst
      | ok u => exact .valid hhidden hknown (checkKnown_eq_ok_iff.mp horder)

theorem IsFirst.not_forall {p : String → Prop} {names : List String} {name : String}
    (h : IsFirst (¬p ·) names name) : ¬∀ name ∈ names, p name := by
  obtain ⟨before, after, rfl, hname, -⟩ := h
  exact fun hall => hname (hall name (by simp))

theorem Verdict.unique {r r' : Except ValidationError Unit} (h : Verdict a query s r)
    (h' : Verdict a query s r') : r = r' := by
  cases h with
  | hidden selects offends =>
    cases h' with
    | hidden _ offends' => rw [offends.unique offends']
    | unknownSelected visible _ => exact absurd selects visible
    | unknownOrdered visible _ _ => exact absurd selects visible
    | valid visible _ _ => exact absurd selects visible
  | unknownSelected visible first =>
    cases h' with
    | hidden selects _ => exact absurd selects visible
    | unknownSelected _ first' => rw [first.unique first']
    | unknownOrdered _ known _ => exact absurd known first.not_forall
    | valid _ known _ => exact absurd known first.not_forall
  | unknownOrdered visible known first =>
    cases h' with
    | hidden selects _ => exact absurd selects visible
    | unknownSelected _ first' => exact absurd known first'.not_forall
    | unknownOrdered _ _ first' => rw [first.unique first']
    | valid _ _ orderKnown => exact absurd orderKnown first.not_forall
  | valid visible known orderKnown =>
    cases h' with
    | hidden selects _ => exact absurd selects visible
    | unknownSelected _ first' => exact absurd known first'.not_forall
    | unknownOrdered _ _ first' => exact absurd orderKnown first'.not_forall
    | valid _ _ _ => rfl

/-- The result of a validation is the verdict and nothing else. It does not depend on the limit and
the offset, and without enforcement it is another one only where hidden fields are selected. -/
theorem validate_eq_iff_verdict (a : Applier) (query : Query) (s : σ) :
    (∀ r, (a.validate query s).result = r ↔ Verdict a query s r) ∧
      (∀ top skip, (a.validate { query with top, skip } s).result =
        (a.validate query s).result) ∧
      (({ a with enforce := false }.validate query s).result ≠ (a.validate query s).result →
        a.SelectsHidden query) := by
  refine ⟨fun r => ⟨?_, (verdict_validate a query s).unique⟩, fun _ _ => ?_, fun hne => ?_⟩
  · rintro rfl
    exact verdict_validate a query s
  · rw [result_validate, result_validate]
    rfl
  · by_contra hvisible
    have hunenforced : ¬SelectsHidden { a with enforce := false } query := fun h => by
      simpa using h.1
    apply hne
    rw [result_validate, result_validate, checkVisible_of_not_selectsHidden hvisible,
      checkVisible_of_not_selectsHidden hunenforced]

end RowQuery.Applier
