import Mathlib.Data.Finset.Sort
import Mathlib.Data.String.Basic
import RowQuery.Proofs.Visibility

/-!
# Tables as unions

What is put into a table is added to what the table holds under the same record type, and nothing
else is changed. So after any calls a record type hides the union of what it hid and of what was put
under it, whoever is asked and however: the table, a policy that refers to it, or one that knows its
sets only. Two tables with the same record types and the same hidden fields are one, and therefore
the order of the calls does not matter.
-/
namespace RowQuery

def inOrder (names : List String) : List String := names.toFinset.sort (· ≤ ·)

theorem eq_inOrder {s names : List String} (hs : s.Pairwise (· < ·))
    (h : ∀ name, name ∈ s ↔ name ∈ names) : s = inOrder names := by
  have hset : names.toFinset = s.toFinset := by
    ext name
    rw [List.mem_toFinset, List.mem_toFinset, h]
  have hnodup : s.Nodup := hs.imp ne_of_lt
  rw [inOrder, hset, (List.toFinset_sort (· ≤ ·) hnodup).mpr (hs.imp le_of_lt)]

theorem inOrder_perm {names other : List String} (h : names.Perm other) :
    inOrder names = inOrder other := by
  rw [inOrder, inOrder, List.toFinset_eq_of_perm _ _ h]

namespace HiddenFields

/-- The policies that answer for a table: its own, one that refers to another, and one that only
knows the sets of another. -/
inductive AnsweredBy (t : HiddenFields) : Policy → Prop
  | itself : AnsweredBy t t.policy
  | byReference {p : Policy} (h : AnsweredBy t p) : AnsweredBy t p.byReference
  | bySets {p : Policy} (h : AnsweredBy t p) : AnsweredBy t (.ofSets p.hiddenFields)

def insertEach (t : HiddenFields) (calls : List (String × List String)) : HiddenFields :=
  calls.foldl (fun t call => t.insert call.1 call.2) t

def putUnder (recordType : String) (calls : List (String × List String)) : List String :=
  (calls.filter (·.1 = recordType)).flatMap Prod.snd

variable {t u : HiddenFields} {p : Policy} {recordType other field : String} {fields : List String}
  {calls : List (String × List String)}

/-! ## Who is asked -/

theorem AnsweredBy.hiddenFields_eq (h : t.AnsweredBy p) (recordType : String) :
    p.hiddenFields recordType = t.policy.hiddenFields recordType := by
  induction h with
  | itself => rfl
  | byReference _ ih => exact ih
  | bySets _ ih => exact ih

theorem AnsweredBy.isHidden_iff (h : t.AnsweredBy p) :
    p.isHidden recordType field = true ↔ field ∈ (p.hiddenFields recordType).toList := by
  induction h with
  | itself =>
    simp only [policy, NameSet.contains]
    cases t.find? recordType with
    | none => simp
    | some names => simp
  | byReference _ ih => exact ih
  | bySets _ _ => simp only [Policy.ofSets, NameSet.contains, List.contains_iff_mem]

/-! ## Calls -/

theorem mem_recordTypes_iff : recordType ∈ t.recordTypes ↔ t.find? recordType ≠ none := by
  rw [ne_eq, find?, lookup_eq_none_iff_not_mem_keys, not_not, recordTypes]

theorem mem_recordTypes_insert :
    other ∈ (t.insert recordType fields).recordTypes ↔ other = recordType ∨ other ∈ t.recordTypes := by
  rw [mem_recordTypes_iff, mem_recordTypes_iff, find?_insert]
  by_cases h : other = recordType
  · simp [h]
  · simp [h]

theorem mem_putUnder :
    field ∈ putUnder recordType calls ↔ ∃ call ∈ calls, call.1 = recordType ∧ field ∈ call.2 := by
  simp [putUnder, and_assoc]

theorem mem_hiddenFields_insertEach :
    field ∈ ((t.insertEach calls).policy.hiddenFields recordType).toList ↔
      field ∈ (t.policy.hiddenFields recordType).toList ∨ field ∈ putUnder recordType calls := by
  induction calls generalizing t with
  | nil => simp [insertEach, putUnder]
  | cons call rest ih =>
    have hstep : t.insertEach (call :: rest) = (t.insert call.1 call.2).insertEach rest := rfl
    rw [hstep, ih, mem_hiddenFields_insert, mem_putUnder, mem_putUnder, List.exists_mem_cons_iff,
      or_assoc, eq_comm]

theorem mem_recordTypes_insertEach :
    recordType ∈ (t.insertEach calls).recordTypes ↔
      recordType ∈ t.recordTypes ∨ recordType ∈ calls.map Prod.fst := by
  induction calls generalizing t with
  | nil => simp [insertEach]
  | cons call rest ih =>
    have hstep : t.insertEach (call :: rest) = (t.insert call.1 call.2).insertEach rest := rfl
    rw [hstep, ih, mem_recordTypes_insert, List.map_cons, List.mem_cons]
    tauto

theorem recordTypes_insertEach (t : HiddenFields) (calls : List (String × List String)) :
    (t.insertEach calls).recordTypes = inOrder (t.recordTypes ++ calls.map Prod.fst) := by
  refine eq_inOrder (List.pairwise_map.mpr (t.insertEach calls).ascending) fun name => ?_
  rw [mem_recordTypes_insertEach, List.mem_append]

theorem toList_hiddenFields_insertEach (t : HiddenFields) (calls : List (String × List String))
    (recordType : String) :
    ((t.insertEach calls).policy.hiddenFields recordType).toList =
      inOrder ((t.policy.hiddenFields recordType).toList ++ putUnder recordType calls) := by
  refine eq_inOrder (NameSet.ascending _) fun name => ?_
  rw [mem_hiddenFields_insertEach, List.mem_append]

/-! ## The order of the calls -/

theorem entries_eq_map (t : HiddenFields) :
    t.entries = t.recordTypes.map fun recordType => (recordType, t.policy.hiddenFields recordType) := by
  rw [recordTypes, List.map_map]
  conv_lhs => rw [← List.map_id t.entries]
  refine List.map_congr_left fun entry hentry => ?_
  have hfind : t.find? entry.1 = some entry.2 := lookup_of_mem t.nodup_recordTypes hentry
  simp only [Function.comp_apply, policy, hfind, Option.getD_some, id_eq]

theorem eq_of_answers (htypes : t.recordTypes = u.recordTypes)
    (hfields : ∀ recordType, (t.policy.hiddenFields recordType).toList =
      (u.policy.hiddenFields recordType).toList) : t = u := by
  have hsets : t.policy.hiddenFields = u.policy.hiddenFields :=
    funext fun recordType => NameSet.eq_of_toList_eq (hfields recordType)
  apply eq_of_entries_eq
  rw [entries_eq_map t, entries_eq_map u, htypes, hsets]

theorem putUnder_perm {more : List (String × List String)} (h : calls.Perm more)
    (recordType : String) : (putUnder recordType calls).Perm (putUnder recordType more) :=
  (h.filter _).flatMap_right _

theorem insertEach_perm {more : List (String × List String)} (t : HiddenFields)
    (h : calls.Perm more) : t.insertEach calls = t.insertEach more := by
  apply eq_of_answers
  · rw [recordTypes_insertEach, recordTypes_insertEach]
    exact inOrder_perm ((h.map Prod.fst).append_left _)
  · intro recordType
    rw [toList_hiddenFields_insertEach, toList_hiddenFields_insertEach]
    exact inOrder_perm ((putUnder_perm h recordType).append_left _)

/-- After any calls a table hides, under each record type, what it hid there and what was put there,
and everyone who answers for it says so. It lists the record types it had and those of the calls. A
table after the same calls in another order is the same table. -/
theorem insertEach_unites (t : HiddenFields) (calls : List (String × List String)) :
    (∀ p, (t.insertEach calls).AnsweredBy p → ∀ recordType,
      (p.hiddenFields recordType).toList =
        inOrder ((t.policy.hiddenFields recordType).toList ++ putUnder recordType calls) ∧
      ∀ field, p.isHidden recordType field = true ↔
        field ∈ (p.hiddenFields recordType).toList) ∧
    (t.insertEach calls).recordTypes = inOrder (t.recordTypes ++ calls.map Prod.fst) ∧
    ∀ more, calls.Perm more → t.insertEach more = t.insertEach calls := by
  refine ⟨fun p hp recordType => ⟨?_, fun field => hp.isHidden_iff⟩, recordTypes_insertEach t calls,
    fun more h => (insertEach_perm t h).symm⟩
  rw [hp.hiddenFields_eq, toList_hiddenFields_insertEach]

/-- A field put in twice is hidden once, and a call without fields still adds its record type. -/
theorem insertEach_unites_book_user :
    let t := ofMembers [("book", ["authorId"])]
    let calls := [("book", ["isbn", "authorId"]), ("user", []), ("book", [])]
    let more := [("user", []), ("book", []), ("book", ["isbn", "authorId"])]
    let p : Policy := .ofSets (t.insertEach calls).policy.byReference.hiddenFields
    ((t.insertEach calls).AnsweredBy p ∧ calls.Perm more) ∧
    (p.hiddenFields "book").toList = ["authorId", "isbn"] ∧
    (p.hiddenFields "book").toList = inOrder ["authorId", "isbn", "authorId"] ∧
    (p.isHidden "book" "isbn" = true ↔ "isbn" ∈ (p.hiddenFields "book").toList) ∧
    (t.insertEach calls).recordTypes = inOrder ["book", "book", "user", "book"] ∧
    t.insertEach more = t.insertEach calls := by
  intro t calls more p
  have hp : (t.insertEach calls).AnsweredBy p := .bySets (.byReference .itself)
  have hperm : calls.Perm more := by decide
  obtain ⟨hfields, htypes, horder⟩ := insertEach_unites t calls
  obtain ⟨hunion, hhidden⟩ := hfields p hp "book"
  exact ⟨⟨hp, hperm⟩, by decide, hunion, hhidden "isbn", htypes, horder more hperm⟩

end HiddenFields
end RowQuery
