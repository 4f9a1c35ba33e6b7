import RowQuery.Json.Reader
import RowQuery.Json.Record

/-!
# Hidden fields

A policy says which fields of a record type are hidden. `HiddenFields` is a policy kept as a table:
record types in ascending order, each with its field names in ascending order and without repeats.
-/
namespace RowQuery

structure NameSet where
  toList : List String := []
  ascending : toList.Pairwise (· < ·) := by simp

namespace NameSet

def place (name : String) : List String → List String
  | [] => [name]
  | other :: rest =>
    if name < other then name :: other :: rest
    else if name = other then other :: rest
    else other :: place name rest

theorem mem_place {name x : String} {names : List String} :
    x ∈ place name names ↔ x = name ∨ x ∈ names := by
  induction names with
  | nil => simp [place]
  | cons other rest ih =>
    simp only [place]
    split
    · simp
    · split
      · simp_all
      · simp only [List.mem_cons, ih]; grind

theorem lt_of_not_lt_of_ne {a b : String} (h : ¬a < b) (ne : a ≠ b) : b < a := by
  rcases String.le_total a b with hab | hba
  · exact absurd (String.le_antisymm hab (String.not_lt.mp h)) ne
  · rcases Decidable.em (b < a) with hlt | hge
    · exact hlt
    · exact absurd (String.le_antisymm (String.not_lt.mp hge) hba) ne

theorem pairwise_place {name : String} {names : List String} (h : names.Pairwise (· < ·)) :
    (place name names).Pairwise (· < ·) := by
  induction names with
  | nil => simp [place]
  | cons other rest ih =>
    rw [List.pairwise_cons] at h
    simp only [place]
    split
    · rename_i hlt
      refine List.pairwise_cons.2 ⟨fun x hx => ?_, List.pairwise_cons.2 h⟩
      rcases List.mem_cons.1 hx with rfl | hx
      · exact hlt
      · exact String.lt_trans hlt (h.1 x hx)
    · split
      · exact List.pairwise_cons.2 h
      · refine List.pairwise_cons.2 ⟨fun x hx => ?_, ih h.2⟩
        rcases mem_place.1 hx with rfl | hx
        · exact lt_of_not_lt_of_ne ‹_› ‹_›
        · exact h.1 x hx

def insert (s : NameSet) (name : String) : NameSet :=
  ⟨place name s.toList, pairwise_place s.ascending⟩

def insertAll (s : NameSet) (names : List String) : NameSet := names.foldl insert s

def ofList (names : List String) : NameSet := insertAll {} names

def contains (s : NameSet) (name : String) : Bool := s.toList.contains name

def isEmpty (s : NameSet) : Bool := s.toList.isEmpty

end NameSet

structure Policy where
  hiddenFields : String → NameSet
  isHidden : String → String → Bool

namespace Policy

def ofSets (hiddenFields : String → NameSet) : Policy where
  hiddenFields := hiddenFields
  isHidden recordType field := (hiddenFields recordType).contains field

def allVisible : Policy where
  hiddenFields _ := {}
  isHidden _ _ := false

/-- A policy asked through a reference, shared or not, which passes both questions on. -/
def byReference (p : Policy) : Policy where
  hiddenFields recordType := p.hiddenFields recordType
  isHidden recordType field := p.isHidden recordType field

end Policy

structure HiddenFields where
  entries : List (String × NameSet) := []
  ascending : entries.Pairwise (·.1 < ·.1) := by simp

namespace HiddenFields

def place (recordType : String) (fields : List String) :
    List (String × NameSet) → List (String × NameSet)
  | [] => [(recordType, .ofList fields)]
  | (other, names) :: rest =>
    if recordType < other then (recordType, .ofList fields) :: (other, names) :: rest
    else if recordType = other then (other, names.insertAll fields) :: rest
    else (other, names) :: place recordType fields rest

theorem fst_of_mem_place {recordType : String} {fields : List String} {e : String × NameSet}
    {entries : List (String × NameSet)} (h : e ∈ place recordType fields entries) :
    e.1 = recordType ∨ ∃ e' ∈ entries, e'.1 = e.1 := by
  induction entries with
  | nil => simp_all [place]
  | cons other rest ih =>
    simp only [place] at h
    split at h
    · grind
    · split at h
      · grind
      · grind

theorem pairwise_place {recordType : String} {fields : List String}
    {entries : List (String × NameSet)} (h : entries.Pairwise (·.1 < ·.1)) :
    (place recordType fields entries).Pairwise (·.1 < ·.1) := by
  induction entries with
  | nil => simp [place]
  | cons other rest ih =>
    rw [List.pairwise_cons] at h
    simp only [place]
    split
    · rename_i hlt
      refine List.pairwise_cons.2 ⟨fun x hx => ?_, List.pairwise_cons.2 h⟩
      rcases List.mem_cons.1 hx with rfl | hx
      · exact hlt
      · exact String.lt_trans hlt (h.1 x hx)
    · split
      · exact List.pairwise_cons.2 ⟨h.1, h.2⟩
      · refine List.pairwise_cons.2 ⟨fun x hx => ?_, ih h.2⟩
        rcases fst_of_mem_place hx with hx | ⟨e, he, hx⟩
        · rw [hx]; exact NameSet.lt_of_not_lt_of_ne ‹_› ‹_›
        · rw [← hx]; exact h.1 e he

def insert (t : HiddenFields) (recordType : String) (fields : List String) : HiddenFields :=
  ⟨place recordType fields t.entries, pairwise_place t.ascending⟩

def recordTypes (t : HiddenFields) : List String := t.entries.map Prod.fst

def find? (t : HiddenFields) (recordType : String) : Option NameSet := t.entries.lookup recordType

def policy (t : HiddenFields) : Policy where
  hiddenFields recordType := (t.find? recordType).getD {}
  isHidden recordType field := (t.find? recordType).any fun names => names.contains field

def toJson (t : HiddenFields) : Json :=
  .object (t.entries.map fun (recordType, names) => (recordType, Json.strings names.toList))

def replace (t : HiddenFields) (recordType : String) (fields : List String) : HiddenFields :=
  insert ⟨t.entries.filter (·.1 ≠ recordType), t.ascending.filter _⟩ recordType fields

/-- Of equal record types the last counts. -/
def ofMembers (members : List (String × List String)) : HiddenFields :=
  members.foldl (fun t (recordType, fields) => t.replace recordType fields) {}

def ofJson? : Json → Option HiddenFields
  | .object members =>
    (members.mapM fun (member : String × Json) =>
      (Json.texts? member.2).map (member.1, ·)).map ofMembers
  | _ => none

def ofJsonText? (text : String) : Option HiddenFields := (Json.read text).bind ofJson?

end HiddenFields
end RowQuery
