import RowQuery.Json.Printer
import RowQuery.Proofs.Json.Spelled

/-!
# Printed texts spell their values

Both printers put commas between the entries of an array or object. The compact one has no blanks;
the indented one begins a line before each entry and before a closing bracket that follows one.
-/
namespace RowQuery.Json

theorem blank_nil : Blank [] := by
  intro c hc
  cases hc

theorem blank_space : Blank [' '] := by
  intro c hc
  rw [List.mem_singleton.mp hc]
  rfl

theorem toList_newline (depth : Nat) :
    (newline depth).toList = '\n' :: List.replicate (2 * depth) ' ' := by
  simp [newline]

theorem blank_newline (depth : Nat) : Blank (newline depth).toList := by
  intro c hc
  rw [toList_newline] at hc
  cases hc with
  | head => rfl
  | tail _ hc =>
    rw [List.eq_of_mem_replicate hc]
    rfl

/-! ## Entries -/

section Entries

variable {α : Type} {print : List α → String} {entry : α → List Char} {lead : List Char}

theorem toList_eq_joined (hnil : print [] = "") (hone : ∀ a, (print [a]).toList = lead ++ entry a)
    (hmore : ∀ a next rest, (print (a :: next :: rest)).toList =
      lead ++ entry a ++ ',' :: (print (next :: rest)).toList) (as : List α) :
    (print as).toList = joined lead (as.map entry) := by
  induction as with
  | nil =>
    rw [hnil]
    rfl
  | cons a rest ih =>
    cases rest with
    | nil => rw [hone, List.map_singleton, joined_singleton]
    | cons next more =>
      rw [List.map_cons] at ih
      rw [hmore, ih, List.map_cons, List.map_cons, joined_cons]

end Entries

theorem toList_compactItems (items : List Json) :
    (compactItems items).toList = joined [] (items.map fun v => v.compact.toList) := by
  apply toList_eq_joined rfl
  · intro v
    rfl
  · intro v next rest
    simp [compactItems]

theorem toList_compactMembers (members : List (String × Json)) :
    (compactMembers members).toList =
      joined [] (members.map fun m => memberText [] m.1 m.2.compact.toList) := by
  apply toList_eq_joined rfl
  · intro m
    simp [compactMembers, memberText]
  · intro m next rest
    simp [compactMembers, memberText]

theorem toList_prettyItems (depth : Nat) (items : List Json) :
    (prettyItems depth items).toList =
      joined (newline depth).toList (items.map fun v => (v.pretty depth).toList) := by
  apply toList_eq_joined rfl
  · intro v
    simp [prettyItems]
  · intro v next rest
    simp [prettyItems]

theorem toList_prettyMembers (depth : Nat) (members : List (String × Json)) :
    (prettyMembers depth members).toList =
      joined (newline depth).toList
        (members.map fun m => memberText [' '] m.1 (m.2.pretty depth).toList) := by
  apply toList_eq_joined rfl
  · intro m
    simp [prettyMembers, memberText]
  · intro m next rest
    simp [prettyMembers, memberText]

/-! ## Values -/

variable {lead gap tail : List Char} (print : Json → List Char)

theorem spells_array (hlead : Blank lead) (htail : Blank tail) {items : List Json}
    (h : ∀ v ∈ items, Spells v (print v)) :
    Spells (array items) ('[' :: (joined lead (items.map print) ++ (tail ++ [']']))) := by
  have hentries : ∀ e ∈ items.map fun v => (v, print v), Spells e.1 e.2 := by
    intro e he
    obtain ⟨v, hv, rfl⟩ := List.mem_map.mp he
    exact h v hv
  have hspells := Spells.array hlead htail _ hentries
  rw [List.map_map, List.map_map] at hspells
  rwa [show Prod.fst ∘ (fun v => (v, print v)) = id from rfl, List.map_id] at hspells

theorem spells_object (hlead : Blank lead) (hgap : Blank gap) (htail : Blank tail)
    {members : List (String × Json)} (h : ∀ m ∈ members, Spells m.2 (print m.2)) :
    Spells (object members)
      ('\x7b' :: (joined lead (members.map fun m => memberText gap m.1 (print m.2)) ++
        (tail ++ ['\x7d']))) := by
  have hentries : ∀ e ∈ members.map fun m => (m.1, m.2, print m.2), Spells e.2.1 e.2.2 := by
    intro e he
    obtain ⟨m, hm, rfl⟩ := List.mem_map.mp he
    exact h m hm
  have hspells := Spells.object hlead hgap htail _ hentries
  rw [List.map_map, List.map_map] at hspells
  have hmembers :
      members.map ((fun e => (e.1, e.2.1)) ∘ fun m => (m.1, m.2, print m.2)) = members :=
    List.map_id members
  rw [hmembers] at hspells
  exact hspells

variable {levels : Nat} {shape : Shape} {v : Json}

theorem Fits.spells_compact (h : Fits levels shape v) : Spells v v.compact.toList := by
  induction h with
  | null => exact .null
  | bool b => exact .bool b
  | int n => exact .int n
  | string s => exact .string s
  | @array levels shape items _ ih =>
    have hitems : ∀ v ∈ items, Spells v v.compact.toList := by
      intro v hv
      obtain ⟨i, hi⟩ := List.getElem?_of_mem hv
      exact ih i v hi
    have hspells := spells_array (fun v => v.compact.toList) blank_nil blank_nil hitems
    rw [← toList_compactItems] at hspells
    simpa [compact] using hspells
  | @object levels shape members hused _ ih =>
    have hmembers : ∀ m ∈ members, Spells m.2 m.2.compact.toList := by
      intro m hm
      obtain ⟨inner, hinner⟩ := Option.isSome_iff_exists.mp (hused m hm)
      exact ih m hm inner hinner
    have hspells := spells_object (fun v => v.compact.toList) blank_nil blank_nil blank_nil hmembers
    rw [← toList_compactMembers] at hspells
    simpa [compact] using hspells

theorem Fits.spells_pretty (h : Fits levels shape v) (depth : Nat) :
    Spells v (v.pretty depth).toList := by
  induction h generalizing depth with
  | null =>
    rw [pretty.eq_def]
    exact .null
  | bool b =>
    rw [pretty.eq_def]
    exact .bool b
  | int n =>
    rw [pretty.eq_def]
    exact .int n
  | string s =>
    rw [pretty.eq_def]
    exact .string s
  | @array levels shape items _ ih =>
    cases items with
    | nil =>
      rw [pretty]
      exact Spells.array blank_nil blank_nil [] nofun
    | cons first rest =>
      have hitems : ∀ v ∈ first :: rest, Spells v (v.pretty (depth + 1)).toList := by
        intro v hv
        obtain ⟨i, hi⟩ := List.getElem?_of_mem hv
        exact ih i v hi (depth + 1)
      have hspells := spells_array (fun v => (v.pretty (depth + 1)).toList)
        (blank_newline (depth + 1)) (blank_newline depth) hitems
      rw [← toList_prettyItems] at hspells
      simpa [pretty] using hspells
  | @object levels shape members hused _ ih =>
    cases members with
    | nil =>
      rw [pretty]
      exact Spells.object blank_nil blank_nil blank_nil [] nofun
    | cons first rest =>
      have hmembers : ∀ m ∈ first :: rest, Spells m.2 (m.2.pretty (depth + 1)).toList := by
        intro m hm
        obtain ⟨inner, hinner⟩ := Option.isSome_iff_exists.mp (hused m hm)
        exact ih m hm inner hinner (depth + 1)
      have hspells := spells_object (fun v => (v.pretty (depth + 1)).toList)
        (blank_newline (depth + 1)) blank_space (blank_newline depth) hmembers
      rw [← toList_prettyMembers] at hspells
      simpa [pretty] using hspells

inductive Layout
  | compact
  | indented

def written (v : Json) : Layout → String
  | .compact => v.compact
  | .indented => v.pretty 0

theorem readAs_written (h : Fits maxLevels shape v) (layout : Layout) :
    readAs shape (v.written layout) = some v := by
  cases layout with
  | compact => exact readAs_of_spells h.spells_compact h blank_nil (List.append_nil _).symm
  | indented => exact readAs_of_spells (h.spells_pretty 0) h blank_nil (List.append_nil _).symm

theorem readAs_line (h : Fits maxLevels shape v) : readAs shape (v.pretty 0 ++ "\n") = some v :=
  readAs_of_spells (h.spells_pretty 0) h (blank_newline 0) String.toList_append

end RowQuery.Json
