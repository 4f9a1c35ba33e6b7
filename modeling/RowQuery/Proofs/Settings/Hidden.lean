import RowQuery.Proofs.Settings.Layers
import RowQuery.Proofs.Visibility

/-!
# Hidden fields from every source

The hidden fields of a record type are the list of the last variable for it, else the list that the
document gives it, else none, and with them those that the command line adds to one record type. A
variable speaks of the record type whose name is its own in lower case and without the blanks at its
end, so of a record type with a capital letter none does.
-/
namespace RowQuery

open RowQuery.Tree

/-! ## Reading the table -/

theorem lookup_reverse {α : Type} {members : List (String × α)}
    (h : (members.map Prod.fst).Nodup) (key : String) :
    members.reverse.lookup key = members.lookup key := by
  have hreverse : (members.reverse.map Prod.fst).Nodup := by
    rwa [List.map_reverse, List.nodup_reverse]
  refine Option.ext fun value => ⟨fun hvalue => ?_, fun hvalue => ?_⟩
  · exact lookup_of_mem h (List.mem_reverse.mp (mem_of_lookup hvalue))
  · exact lookup_of_mem hreverse (List.mem_reverse.mpr (mem_of_lookup hvalue))

namespace HiddenFields

variable {entries : Entries}

theorem members_spec {members : List (String × List String)}
    (h : entries.mapM (fun entry : String × Tree => (texts? entry.2).map (entry.1, ·)) =
      some members) :
    members.map Prod.fst = entries.map Prod.fst ∧
      ∀ recordType, entries.lookup recordType =
        (members.lookup recordType).map fun names => .list (names.map .text) := by
  induction mapM_eq_some_iff.mp h with
  | nil => exact ⟨rfl, fun _ => rfl⟩
  | @cons entry member rest more hmember hmore ih =>
    obtain ⟨first, t⟩ := entry
    obtain ⟨names, hnames, rfl⟩ := Option.map_eq_some_iff.mp hmember
    obtain rfl := texts?_eq_some_iff.mp hnames
    obtain ⟨hkeys, hlookup⟩ := ih (mapM_eq_some_iff.mpr hmore)
    refine ⟨congrArg (first :: ·) hkeys, fun recordType => ?_⟩
    by_cases hfirst : recordType = first
    · rw [hfirst, List.lookup_cons_self, List.lookup_cons_self, Option.map_some]
    · rw [lookup_cons_of_ne hfirst, lookup_cons_of_ne hfirst, hlookup]

theorem find?_of_ofTree? {t : HiddenFields} (hkeys : (entries.map Prod.fst).Nodup)
    (h : ofTree? (.dict entries) = some t) (recordType : String) :
    ∃ names : Option (List String), t.find? recordType = names.map NameSet.ofList ∧
      entries.lookup recordType = names.map fun names => .list (names.map .text) := by
  obtain ⟨members, hmembers, rfl⟩ := Option.map_eq_some_iff.mp h
  obtain ⟨hsame, hlookup⟩ := members_spec hmembers
  refine ⟨members.lookup recordType, ?_, hlookup recordType⟩
  rw [find?_ofMembers, lookup_reverse (hsame ▸ hkeys)]

end HiddenFields

namespace Settings

/-- The fields that the environment and a document hide of a record type. -/
def hiddenIn (file : Tree) (environment : List (String × String)) (recordType : String) :
    List String :=
  (((Environment.last? ["visibility", recordType] environment).or
    (file.field "visibility" recordType)).bind texts?).getD []

/-- A variable that speaks of hidden fields gives a list of texts to what stands under the table. -/
structure HidesLists (environment : List (String × String)) : Prop where
  below : ∀ variable_ ∈ environment, Environment.path? variable_.1 ≠ some ["visibility"]
  lists : ∀ variable_ ∈ environment, ∀ path,
    Environment.path? variable_.1 = some ("visibility" :: path) →
      (texts? (Environment.read variable_.2)).isSome

section load

variable {yaml : Option String} {file : Tree} {environment : List (String × String)}

theorem HidesLists.exists_names (h : HidesLists environment) {recordType : String} {t : Tree}
    (ht : Environment.last? ["visibility", recordType] environment = some t) :
    ∃ names : List String, t = .list (names.map .text) := by
  obtain ⟨variable_, hvariable, rfl⟩ := Option.map_eq_some_iff.mp ht
  obtain ⟨hmem, hpath⟩ := List.mem_filter.mp (List.mem_of_getLast? hvariable)
  obtain ⟨names, hnames⟩ :=
    Option.isSome_iff_exists.mp (h.lists variable_ hmem _ (of_decide_eq_true hpath))
  exact ⟨names, texts?_eq_some_iff.mp hnames⟩

theorem field_merge_tree (file : Tree) (h : HidesLists environment) (recordType : String) :
    (merge file (Environment.tree environment)).field "visibility" recordType =
        (Environment.last? ["visibility", recordType] environment).or
          (file.field "visibility" recordType) ∨
      (∃ entries, (merge file (Environment.tree environment)).field "visibility" recordType =
        some (.dict entries)) ∧
      ∃ variable_ ∈ environment, ∃ key more,
        Environment.path? variable_.1 = some ("visibility" :: recordType :: key :: more) := by
  rw [field_merge (Environment.distinct_tree environment)
    (Environment.exists_entries_tree environment)
    (Environment.exists_entries_of_under_tree h.below)]
  rcases Environment.field_tree h.below recordType with
    hlast | ⟨⟨entries, hdict⟩, variable_, hmem, more, more', hpath, hnest⟩
  · left
    rw [hlast]
    cases hvalue : Environment.last? ["visibility", recordType] environment with
    | none => rfl
    | some t =>
      obtain ⟨names, rfl⟩ := h.exists_names hvalue
      dsimp only
      rw [merge_leaf (by simp), Option.some_or]
  · right
    rw [hdict]
    refine ⟨⟨_, congrArg some (merge_dict _ _)⟩, variable_, hmem, ?_⟩
    cases more with
    | cons key more => exact ⟨key, more, hpath⟩
    | nil =>
      obtain ⟨names, hnames⟩ := Option.isSome_iff_exists.mp (h.lists variable_ hmem _ hpath)
      rw [texts?_eq_some_iff.mp hnames] at hnest
      cases hnest

theorem find?_of_load? (hfile : fileTree? yaml = some file) (h : HidesLists environment)
    {s : Settings} (hs : load? yaml environment = some s) (recordType : String) :
    s.visibility.find? recordType =
      (((Environment.last? ["visibility", recordType] environment).or
        (file.field "visibility" recordType)).bind texts?).map NameSet.ofList := by
  have hmerged : (merge file (Environment.tree environment)).Distinct :=
    (fileTree?_spec hfile).1.merge (Environment.distinct_tree environment)
  have hfield := field_merge_tree file h recordType
  obtain ⟨entries, hdict⟩ := Environment.exists_entries_merge_tree file environment
  rw [load?_eq_of_fileTree? hfile, hdict] at hs
  rw [hdict] at hfield hmerged
  have hvisibility := (ofTree?_dict_eq_some_iff.mp hs).2.2.1
  obtain ⟨table, htable, hkeys, hunder⟩ : ∃ table,
      (entries.lookup "visibility").getD (.dict []) = .dict table ∧ (table.map Prod.fst).Nodup ∧
        (Tree.dict entries).field "visibility" recordType = table.lookup recordType := by
    cases hlookup : entries.lookup "visibility" with
    | none =>
      have hunder : (Tree.dict entries).under "visibility" = none := hlookup
      exact ⟨[], rfl, List.nodup_nil, by rw [field, hunder]; rfl⟩
    | some t =>
      obtain ⟨table, rfl, -⟩ := (fits_of_ofTree? hs).visibility t hlookup
      have hunder : (Tree.dict entries).under "visibility" = some (.dict table) := hlookup
      exact ⟨table, rfl, (hmerged.of_lookup hlookup).keys, by rw [field, hunder]; rfl⟩
  rw [htable] at hvisibility
  obtain ⟨names, hfind, hnames⟩ := HiddenFields.find?_of_ofTree? hkeys hvisibility recordType
  rw [hunder, hnames] at hfield
  rcases hfield with hfield | ⟨⟨more, hmore⟩, -⟩
  · rw [hfind, ← hfield]
    cases names with
    | none => rfl
    | some names => rw [Option.map_some, Option.map_some, Option.bind_some,
        texts?_eq_some_iff.mpr rfl, Option.map_some]
  · cases names <;> cases hmore

theorem mem_hiddenFields_override (s : Settings) (o : Overrides) (recordType field_ : String) :
    field_ ∈ ((s.override o).visibility.policy.hiddenFields recordType).toList ↔
      field_ ∈ (s.visibility.policy.hiddenFields recordType).toList ∨
        recordType = o.recordType ∧ field_ ∈ o.hidden := by
  simp only [override]
  split
  · rename_i hempty
    rw [List.isEmpty_iff.mp hempty]
    simp
  · exact HiddenFields.mem_hiddenFields_insert

theorem mem_hiddenFields_of_load? (hfile : fileTree? yaml = some file)
    (h : HidesLists environment) {s : Settings} (hs : load? yaml environment = some s)
    (o : Overrides) (recordType field_ : String) :
    field_ ∈ ((s.override o).visibility.policy.hiddenFields recordType).toList ↔
      field_ ∈ hiddenIn file environment recordType ∨
        recordType = o.recordType ∧ field_ ∈ o.hidden := by
  have hfields : s.visibility.policy.hiddenFields recordType =
      (s.visibility.find? recordType).getD {} := rfl
  rw [mem_hiddenFields_override, hfields, find?_of_load? hfile h hs, hiddenIn]
  cases ((Environment.last? ["visibility", recordType] environment).or
    (file.field "visibility" recordType)).bind texts? with
  | none => rfl
  | some names => rw [Option.map_some, Option.getD_some, Option.getD_some, NameSet.mem_ofList]

theorem exists_entries_of_under_merge (h : HidesLists environment)
    (hfile : ∀ t ∈ file.under "visibility", ∃ entries, t = .dict entries) :
    ∀ t ∈ (merge file (Environment.tree environment)).under "visibility",
      ∃ entries, t = .dict entries := by
  intro t ht
  rw [under_merge (Environment.distinct_tree environment)
    (Environment.exists_entries_tree environment)] at ht
  cases htable : (Environment.tree environment).under "visibility" with
  | none =>
    rw [htable] at ht
    exact hfile t ht
  | some table =>
    obtain ⟨entries, rfl⟩ := Environment.exists_entries_of_under_tree h.below table htable
    rw [htable] at ht
    cases ht
    exact ⟨_, merge_dict _ _⟩

theorem exists_names_of_field_merge (h : HidesLists environment)
    (hexact : ∀ variable_ ∈ environment, ∀ path,
      Environment.path? variable_.1 = some ("visibility" :: path) → path.length = 1)
    (hfile : ∀ t ∈ file.under "visibility", ∃ entries, t = .dict entries ∧
      ∀ e ∈ entries, ∃ names : List String, e.2 = .list (names.map .text))
    {recordType : String} {t : Tree}
    (ht : (merge file (Environment.tree environment)).field "visibility" recordType = some t) :
    ∃ names : List String, t = .list (names.map .text) := by
  rcases field_merge_tree file h recordType with hlast | ⟨-, variable_, hmem, key, more, hpath⟩
  · rw [ht] at hlast
    cases hvalue : Environment.last? ["visibility", recordType] environment with
    | some value =>
      rw [hvalue, Option.some_or] at hlast
      exact h.exists_names (hvalue.trans hlast.symm)
    | none =>
      rw [hvalue, Option.none_or, field] at hlast
      cases htable : file.under "visibility" with
      | none =>
        rw [htable] at hlast
        cases hlast
      | some table =>
        obtain ⟨entries, rfl, hentries⟩ := hfile table htable
        rw [htable] at hlast
        exact hentries (recordType, t) (mem_of_lookup hlast.symm)
  · have hlength := hexact variable_ hmem _ hpath
    simp at hlength

theorem isSome_load?_of_filter (hfile : fileTree? yaml = some file) (h : HidesLists environment)
    (hexact : ∀ variable_ ∈ environment, ∀ path,
      Environment.path? variable_.1 = some ("visibility" :: path) → path.length = 1)
    (hothers : (load? yaml (environment.filter fun variable_ =>
      ((Environment.path? variable_.1).bind List.head?) ≠ some "visibility")).isSome) :
    (load? yaml environment).isSome := by
  rw [isSome_load?_iff hfile, mergeAll_pair (fileTree?_spec hfile).1] at hothers ⊢
  have hmerged : (merge file (Environment.tree environment)).Distinct :=
    (fileTree?_spec hfile).1.merge (Environment.distinct_tree environment)
  set others := environment.filter fun variable_ =>
    ((Environment.path? variable_.1).bind List.head?) ≠ some "visibility"
  have hdistinct := fun e => Environment.distinct_tree e
  have hdict := fun e => Environment.exists_entries_tree e
  have hunder : ∀ name, name ≠ "visibility" → (merge file (Environment.tree environment)).under name =
      (merge file (Environment.tree others)).under name := by
    intro name hname
    rw [under_merge (hdistinct _) (hdict _), under_merge (hdistinct _) (hdict _),
      Environment.under_tree_filter fun variable_ _ path hpath => by simp [hpath, hname]]
  -- The other variables say nothing of the table, so in their merge it is that of the document.
  have htable : ∀ t ∈ file.under "visibility", ∃ entries, t = .dict entries ∧
      ∀ e ∈ entries, ∃ names : List String, e.2 = .list (names.map .text) := by
    have hfile' : (merge file (Environment.tree others)).under "visibility" =
        file.under "visibility" := by
      rw [under_merge (hdistinct _) (hdict _), Environment.under_tree_eq_none]
      intro variable_ hmem path hpath
      have hkept := (List.mem_filter.mp hmem).2
      simp [hpath] at hkept
    exact hfile' ▸ hothers.visibility
  refine hothers.of_under hunder fun t ht => ?_
  obtain ⟨entries, rfl⟩ := exists_entries_of_under_merge h
    (fun t ht => (htable t ht).imp fun _ => And.left) t ht
  refine ⟨entries, rfl, fun e he => ?_⟩
  obtain ⟨top, htop⟩ := Environment.exists_entries_merge_tree file environment
  have hfield : (merge file (Environment.tree environment)).field "visibility" e.1 = some e.2 := by
    rw [htop] at hmerged ht ⊢
    rw [field, Option.mem_def.mp ht]
    exact lookup_of_mem (hmerged.of_lookup ht).keys he
  exact exists_names_of_field_merge h hexact htable hfield

end load

theorem hidesLists_of_names {named : List (String × String)}
    (h : ∀ variable_ ∈ named, (texts? (Environment.read variable_.2)).isSome) :
    HidesLists (named.map fun variable_ =>
      (Environment.hiddenPrefix ++ variable_.1, variable_.2)) := by
  constructor
  · intro full hmem hpath
    obtain ⟨variable_, -, rfl⟩ := List.mem_map.mp hmem
    obtain ⟨recordType, more, heq⟩ := Environment.exists_keys_of_path? hpath
    cases heq
  · intro full hmem path hpath
    obtain ⟨variable_, hvariable, rfl⟩ := List.mem_map.mp hmem
    exact h variable_ hvariable

/-- The hidden fields of a record type are those of the last variable for it, else those of the
document, else none, with those that the command line hides of it. A variable is for the record type
that the rest of its name is in lower case and without the blanks at its end, and for no other.
Variables for record types do not keep the other sources from loading. -/
theorem hiddenFields_layered {yaml : Option String} {file : Tree} (hfile : fileTree? yaml = some file)
    {environment : List (String × String)} (h : HidesLists environment) :
    (∀ s, load? yaml environment = some s → ∀ o recordType field_,
      field_ ∈ ((s.override o).visibility.policy.hiddenFields recordType).toList ↔
        field_ ∈ hiddenIn file environment recordType ∨
          recordType = o.recordType ∧ field_ ∈ o.hidden) ∧
    (∀ name recordType,
      Environment.path? (Environment.hiddenPrefix ++ name) = some ["visibility", recordType] ↔
        ¬Environment.HasSeparator name ∧ Environment.recordTypeOf name = recordType ∧
          recordType ≠ "") ∧
    (∀ named : List (String × String),
      (∀ variable_ ∈ named, (texts? (Environment.read variable_.2)).isSome) →
        HidesLists (named.map fun variable_ =>
          (Environment.hiddenPrefix ++ variable_.1, variable_.2))) ∧
    ((∀ variable_ ∈ environment, ∀ path,
        Environment.path? variable_.1 = some ("visibility" :: path) → path.length = 1) →
      (load? yaml (environment.filter fun variable_ =>
        ((Environment.path? variable_.1).bind List.head?) ≠ some "visibility")).isSome →
        (load? yaml environment).isSome) := by
  refine ⟨fun s hs o recordType field_ => mem_hiddenFields_of_load? hfile h hs o recordType field_,
    fun name recordType => Environment.path?_eq_pair_iff, fun named => hidesLists_of_names,
    isSome_load?_of_filter hfile h⟩

/-- A variable, the document and the command line, each for a record type of its own. -/
theorem hiddenFields_layered_three_sources :
    ∃ file s, fileTree? (some "visibility:\n  member: [a]\n  book: [b]\n") = some file ∧
      HidesLists [("ODATA_ADAPT__VISIBILITY__Member", "[c, d]")] ∧
      load? (some "visibility:\n  member: [a]\n  book: [b]\n")
        [("ODATA_ADAPT__VISIBILITY__Member", "[c, d]")] = some s ∧
      ∀ recordType field_,
        field_ ∈ ((s.override { recordType := "book", hidden := ["e"] }).visibility.policy.hiddenFields
            recordType).toList ↔
          field_ ∈ hiddenIn file [("ODATA_ADAPT__VISIBILITY__Member", "[c, d]")] recordType ∨
            recordType = "book" ∧ field_ ∈ ["e"] := by
  obtain ⟨file, hfile⟩ := Option.isSome_iff_exists.mp
    (show (fileTree? (some "visibility:\n  member: [a]\n  book: [b]\n")).isSome by decide +kernel)
  have hread : ∀ variable_ ∈ [("Member", "[c, d]")],
      (texts? (Environment.read variable_.2)).isSome := by
    decide +kernel
  have hlists : HidesLists [("ODATA_ADAPT__VISIBILITY__Member", "[c, d]")] :=
    hidesLists_of_names hread
  obtain ⟨s, hs⟩ := Option.isSome_iff_exists.mp
    (show (load? (some "visibility:\n  member: [a]\n  book: [b]\n")
      [("ODATA_ADAPT__VISIBILITY__Member", "[c, d]")]).isSome by decide +kernel)
  exact ⟨file, s, hfile, hlists, hs, (hiddenFields_layered hfile hlists).1 s hs _⟩

/-- A variable for a record type with a capital letter hides the fields of another one. -/
theorem capital_hides_of_lower_case :
    (load? none [("ODATA_ADAPT__VISIBILITY__Book", "[authorId]")]).map (fun s =>
      ((s.visibility.policy.hiddenFields "Book").toList,
        (s.visibility.policy.hiddenFields "book").toList)) = some ([], ["authorId"]) := by
  decide +kernel

end Settings
end RowQuery
