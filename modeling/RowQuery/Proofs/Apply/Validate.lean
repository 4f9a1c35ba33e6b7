import RowQuery.Apply
import RowQuery.Proofs.Outcome

/-!
# What validation looks at

The check for hidden fields comes before any question to the target. Once it has passed, the target
is asked about visible fields and order keys only, so two targets that know the same visible fields
get the same verdict, and the same report. A verdict about a hidden field is the same for all
targets, and every other refusal names a field that the target does not know.
-/
namespace RowQuery.Applier

variable {σ τ : Type} [Target σ] [Target τ]

theorem mem_offending {hidden : NameSet} {fields : List String} {field : String} :
    field ∈ offending hidden fields ↔ field ∈ fields ∧ hidden.contains field := by
  induction fields with
  | nil => simp [offending]
  | cons first rest ih =>
    by_cases hf : field = first
    · subst hf
      by_cases hh : hidden.contains field <;> simp [offending, hh, ih]
    · by_cases hh : hidden.contains first <;> simp [offending, hh, ih, hf]

theorem offending_eq_nil_iff {hidden : NameSet} {fields : List String} :
    offending hidden fields = [] ↔ ∀ field ∈ fields, field ∉ hidden.toList := by
  simp only [List.eq_nil_iff_forall_not_mem, mem_offending, NameSet.contains, List.contains_iff_mem,
    not_and]

theorem checkKnown_congr {s : σ} {t : τ} {fields : List String}
    (h : ∀ field ∈ fields, Target.hasField s field = Target.hasField t field) (option : String) :
    checkKnown s option fields = checkKnown t option fields := by
  have hfind : (fields.find? fun field => !Target.hasField s field) =
      fields.find? fun field => !Target.hasField t field := by
    induction fields with
    | nil => rfl
    | cons field rest ih =>
      have hrest := ih fun f hf => h f (List.mem_cons_of_mem field hf)
      rw [List.find?_cons, List.find?_cons, h field List.mem_cons_self, hrest]
  rw [checkKnown, checkKnown, hfind]

theorem checkKnown_eq_ok_iff {s : σ} {option : String} {fields : List String} :
    checkKnown s option fields = .ok () ↔ ∀ field ∈ fields, Target.hasField s field = true := by
  rw [checkKnown]
  cases h : fields.find? fun field => !Target.hasField s field with
  | none => simpa using h
  | some field =>
    have hmem := List.mem_of_find?_eq_some h
    have hunknown := List.find?_some h
    simp only [reduceCtorEq, false_iff]
    intro hknown
    simp [hknown field hmem] at hunknown

variable {a : Applier}

theorem checkSelect_congr (henforce : a.enforce = true) {s : σ} {t : τ}
    (h : ∀ field, field ∉ (a.policy.hiddenFields a.recordType).toList →
      Target.hasField s field = Target.hasField t field) (select : Option (List String)) :
    a.checkSelect s select = a.checkSelect t select := by
  cases select with
  | none => rfl
  | some fields =>
    simp only [checkSelect, henforce, if_true, checkHidden]
    cases hoff : offending (a.policy.hiddenFields a.recordType) fields with
    | nil =>
      have hvisible := offending_eq_nil_iff.1 hoff
      rw [checkKnown_congr fun field hf => h field (hvisible field hf)]
    | cons first rest => rfl

theorem validate_congr (henforce : a.enforce = true) {s : σ} {t : τ}
    (h : ∀ field, field ∉ (a.policy.hiddenFields a.recordType).toList →
      Target.hasField s field = Target.hasField t field) {query : Query}
    (horder : ∀ key ∈ query.orderBy.getD [],
      key.field ∉ (a.policy.hiddenFields a.recordType).toList) :
    a.validate query s = a.validate query t := by
  have hknown : checkKnown s Query.orderByOption ((query.orderBy.getD []).map OrderKey.field) =
      checkKnown t Query.orderByOption ((query.orderBy.getD []).map OrderKey.field) := by
    refine checkKnown_congr (fun field hf => ?_) _
    obtain ⟨key, hkey, rfl⟩ := List.mem_map.1 hf
    exact h key.field (horder key hkey)
  simp only [validate, checkSelect_congr henforce h, hknown]

def fieldsOf (query : Query) : List String :=
  query.select.getD [] ++ (query.orderBy.getD []).map OrderKey.field

theorem validate_congr_of_fieldsOf {s : σ} {t : τ} {query : Query}
    (h : ∀ field ∈ fieldsOf query, Target.hasField s field = Target.hasField t field) :
    a.validate query s = a.validate query t := by
  simp only [fieldsOf, List.mem_append] at h
  have hselect : a.checkSelect s query.select = a.checkSelect t query.select := by
    cases hq : query.select with
    | none => rfl
    | some fields =>
      have hfields : ∀ field ∈ fields, Target.hasField s field = Target.hasField t field :=
        fun field hf => h field (.inl (by rwa [hq]))
      simp only [checkSelect, checkKnown_congr hfields]
  have hkeys := checkKnown_congr (fun field hf => h field (.inr hf)) Query.orderByOption
  simp only [validate, hselect, hkeys]

theorem known_of_checkSelect {s : σ} {fields : List String}
    (h : (a.checkSelect s (some fields)).result = .ok ()) :
    ∀ field ∈ fields, Target.hasField s field = true := by
  have hknown : checkKnown s Query.selectOption fields = .ok () := by
    cases henforce : a.enforce with
    | true =>
      simp only [checkSelect, henforce, if_true] at h
      rw [Attempt.result_bind, bind_eq_ok_iff] at h
      obtain ⟨u, -, hknown⟩ := h
      exact hknown
    | false =>
      simp only [checkSelect, henforce, Bool.false_eq_true, if_false] at h
      exact h
  exact checkKnown_eq_ok_iff.mp hknown

theorem known_of_validate {s : σ} {query : Query} (h : (a.validate query s).result = .ok ()) :
    ∀ field ∈ fieldsOf query, Target.hasField s field = true := by
  rw [validate, Attempt.result_bind, bind_eq_ok_iff] at h
  obtain ⟨u, hselect, horder⟩ := h
  rw [Attempt.result_ofExcept, checkKnown_eq_ok_iff] at horder
  intro field hfield
  rcases List.mem_append.mp hfield with hfield | hfield
  · cases hq : query.select with
    | none =>
      rw [hq] at hfield
      exact absurd hfield List.not_mem_nil
    | some fields =>
      rw [hq] at hselect hfield
      exact known_of_checkSelect hselect field hfield
  · exact horder field hfield

theorem visible_of_validate {s : σ} {query : Query} {fields : List String}
    (henforce : a.enforce = true) (h : (a.validate query s).result = .ok ())
    (hselect : query.select = some fields) :
    ∀ field ∈ fields, field ∉ (a.policy.hiddenFields a.recordType).toList := by
  rw [← offending_eq_nil_iff]
  rw [validate, Attempt.result_bind, bind_eq_ok_iff] at h
  obtain ⟨u, hchecked, -⟩ := h
  rw [hselect] at hchecked
  simp only [checkSelect, henforce, if_true, checkHidden] at hchecked
  cases hoff : offending (a.policy.hiddenFields a.recordType) fields with
  | nil => rfl
  | cons first rest =>
    rw [hoff, Attempt.result_bind, bind_eq_ok_iff] at hchecked
    obtain ⟨u', hhidden, -⟩ := hchecked
    exact absurd hhidden (by simp [Attempt.result_bind])

/-! ## Verdicts that ask no target -/

def checkVisible (a : Applier) (query : Query) : Except ValidationError Unit :=
  match query.select with
  | none => .ok ()
  | some fields => if a.enforce then (a.checkHidden fields).result else .ok ()

theorem result_validate (a : Applier) (query : Query) (s : σ) :
    (a.validate query s).result = a.checkVisible query >>= fun _ =>
      checkKnown s Query.selectOption (query.select.getD []) >>= fun _ =>
      checkKnown s Query.orderByOption ((query.orderBy.getD []).map OrderKey.field) := by
  rw [validate, Attempt.result_bind, checkVisible]
  cases query.select with
  | none => rfl
  | some fields =>
    cases henforce : a.enforce with
    | true =>
      simp only [checkSelect, henforce, if_true]
      rw [Attempt.result_bind]
      cases (a.checkHidden fields).result with
      | ok u => rfl
      | error e => rfl
    | false =>
      simp only [checkSelect, henforce, Bool.false_eq_true, if_false]
      rfl

theorem exists_hidden_of_checkVisible {query : Query} {e : ValidationError}
    (h : a.checkVisible query = .error e) :
    ∃ fields, e = .hiddenFieldSelected a.recordType fields := by
  rw [checkVisible] at h
  cases hq : query.select with
  | none => simp [hq] at h
  | some fields =>
    simp only [hq] at h
    split at h
    · rw [checkHidden] at h
      split at h
      · cases h
      · rw [Attempt.result_bind, Attempt.result_emit, ok_bind, Attempt.result_throw,
          Except.error.injEq] at h
        exact ⟨_, h.symm⟩
    · cases h

theorem exists_unknown_of_checkKnown {s : σ} {option : String} {fields : List String}
    {e : ValidationError} (h : checkKnown s option fields = .error e) :
    ∃ field, e = .unknownField option field := by
  rw [checkKnown] at h
  split at h
  · exact ⟨_, (Except.error.inj h).symm⟩
  · cases h

/-- What a verdict owes to hidden fields it owes to no target: it stands with every target, and no
target gives it for another reason. -/
theorem checkVisible_eq_error_iff (a : Applier) (query : Query) (s : σ) (e : ValidationError) :
    a.checkVisible query = .error e ↔
      (a.validate query s).result = .error e ∧ ∀ option field, e ≠ .unknownField option field := by
  rw [result_validate]
  cases hvisible : a.checkVisible query with
  | error e' =>
    obtain ⟨fields, rfl⟩ := exists_hidden_of_checkVisible hvisible
    rw [error_bind, iff_self_and]
    intro he option field
    rw [← Except.error.inj he]
    exact ValidationError.noConfusion
  | ok u =>
    rw [ok_bind]
    constructor
    · exact nofun
    · rintro ⟨herror, hknown⟩
      exfalso
      cases hselect : checkKnown s Query.selectOption (query.select.getD []) with
      | error e' =>
        obtain ⟨field, rfl⟩ := exists_unknown_of_checkKnown hselect
        rw [hselect, error_bind, Except.error.injEq] at herror
        exact hknown _ field herror.symm
      | ok u' =>
        rw [hselect, ok_bind] at herror
        obtain ⟨field, rfl⟩ := exists_unknown_of_checkKnown herror
        exact hknown _ field rfl

theorem result_validate_of_knows_all {s : σ} (h : ∀ field, Target.hasField s field = true)
    (query : Query) : (a.validate query s).result = a.checkVisible query := by
  have hknown : ∀ option fields, checkKnown s option fields = .ok () :=
    fun option fields => checkKnown_eq_ok_iff.mpr fun field _ => h field
  rw [result_validate, hknown, ok_bind, hknown]
  cases a.checkVisible query with
  | ok u => rfl
  | error e => rfl

end RowQuery.Applier
