import RowQuery.Proofs.Settings.Merge
import RowQuery.Proofs.Text.Blank
import RowQuery.Settings.Environment

/-!
# What the environment says

The variables make up one dictionary, and no dictionary in it gives a key twice. A variable for the
hidden fields of a record type says something of one record type only: the one whose name is its own
in lower case and without the blanks at its end.
-/
namespace RowQuery.Environment

/-! ## Values -/

section items

variable {α : Type} {P : α → Prop} {item : Reader α}

theorem forall_mem_items (hitem : ∀ {s a rest}, item s = some (a, rest) → P a) {close : Char}
    {fuel : Nat} {s : List Char} {values : List α} {rest : List Char}
    (h : items item close fuel s = some (values, rest)) : ∀ a ∈ values, P a := by
  induction fuel generalizing s values rest with
  | zero => cases h
  | succ fuel ih =>
    rw [items] at h
    split at h
    · cases h
      exact fun a ha => absurd ha List.not_mem_nil
    · obtain ⟨⟨first, s'⟩, hfirst, h⟩ := Option.bind_eq_some_iff.mp h
      replace hfirst := hitem hfirst
      dsimp only at h
      split at h
      · split at h
        · obtain ⟨⟨more, rest'⟩, hmore, h⟩ := Option.bind_eq_some_iff.mp h
          cases h
          exact List.forall_mem_cons.mpr ⟨hfirst, ih hmore⟩
        · split at h
          · cases h
            exact List.forall_mem_singleton.mpr hfirst
          · cases h
      · cases h

theorem of_spaced (hitem : ∀ {s a rest}, item s = some (a, rest) → P a) {s : List Char} {a : α}
    {rest : List Char} (h : spaced item s = some (a, rest)) : P a := by
  obtain ⟨⟨a', rest'⟩, hread, heq⟩ := Option.map_eq_some_iff.mp h
  cases heq
  exact hitem hread

theorem of_entry {P : Tree → Prop} {value : Reader Tree}
    (hvalue : ∀ {s t rest}, value s = some (t, rest) → P t) {s : List Char} {e : String × Tree}
    {rest : List Char} (h : entry value s = some (e, rest)) : P e.2 := by
  obtain ⟨⟨key, s'⟩, -, h⟩ := Option.bind_eq_some_iff.mp h
  dsimp only at h
  split at h
  · obtain ⟨⟨v, rest'⟩, hread, h⟩ := Option.bind_eq_some_iff.mp h
    cases h
    exact hvalue hread
  · cases h

end items

theorem distinct_wordValue (word : List Char) : (wordValue word).Distinct := by
  rw [wordValue]
  split
  · exact .leaf nofun
  · split <;> exact .leaf nofun

theorem distinct_value {levels : Nat} {s : List Char} {t : Tree} {rest : List Char}
    (h : value levels s = some (t, rest)) : t.Distinct := by
  induction levels generalizing s t rest with
  | zero => cases h
  | succ levels ih =>
    unfold value at h
    split at h
    · cases h
      exact .leaf nofun
    · split at h
      · cases h
        exact .leaf nofun
      · split at h
        · obtain ⟨_, _, heq⟩ := Option.map_eq_some_iff.mp h
          cases heq
          exact .leaf nofun
        · obtain ⟨⟨entries, rest'⟩, hentries, heq⟩ := Option.map_eq_some_iff.mp h
          cases heq
          refine .keyed (nodup_keys_mergeMembers entries) fun e he => ?_
          exact forall_mem_items (of_entry (of_spaced ih)) hentries e (mem_of_mem_mergeMembers he)
        · obtain ⟨_, _, heq⟩ := Option.map_eq_some_iff.mp h
          cases heq
          exact .leaf nofun
        · cases h
          exact .leaf nofun
        · cases h
        · cases h
          exact distinct_wordValue _

theorem distinct_read (text : String) : (read text).Distinct := by
  rw [read]
  split
  · rename_i t h
    obtain ⟨⟨t', rest⟩, hvalue, heq⟩ := Option.map_eq_some_iff.mp h
    obtain rfl : t' = t := congrArg Prod.fst heq
    exact distinct_value hvalue
  · exact .leaf nofun

/-! ## All variables together -/

theorem distinct_tree (environment : List (String × String)) : (tree environment).Distinct := by
  refine Tree.distinct_mergeAll fun t ht => ?_
  obtain ⟨⟨name, text⟩, -, hpath⟩ := List.mem_filterMap.mp ht
  obtain ⟨path, -, rfl⟩ := Option.map_eq_some_iff.mp hpath
  exact Tree.distinct_nest path (distinct_read text)

def last? (path : List String) (environment : List (String × String)) : Option Tree :=
  (environment.filter fun variable_ => path? variable_.1 = some path).getLast?.map fun variable_ =>
    read variable_.2

section tree

variable {environment : List (String × String)} {variable_ : String × String} {path : List String}

theorem path?_ne_nil {name : String} (h : path? name = some path) : path ≠ [] := by
  rw [path?] at h
  dsimp only at h
  split at h
  · split at h
    · cases h
    · rw [← Option.some.inj h, ne_eq, List.map_eq_nil_iff]
      exact Text.splitBy_ne_nil _ _
  · cases h

theorem tree_append_of_eq_none (h : path? variable_.1 = none) :
    tree (environment ++ [variable_]) = tree environment := by
  simp [tree, trees, List.filterMap_append, h]

theorem tree_append_of_eq_some (h : path? variable_.1 = some path) :
    tree (environment ++ [variable_]) =
      Tree.merge (tree environment) (.nest path (read variable_.2)) := by
  have htrees : trees (environment ++ [variable_]) =
      trees environment ++ [.nest path (read variable_.2)] := by
    simp [trees, List.filterMap_append, h]
  rw [tree, htrees, Tree.mergeAll_append_singleton, tree]

theorem last?_append_of_ne (h : path? variable_.1 ≠ some path) :
    last? path (environment ++ [variable_]) = last? path environment := by
  simp [last?, List.filter_append, h]

theorem last?_append_of_eq (h : path? variable_.1 = some path) :
    last? path (environment ++ [variable_]) = some (read variable_.2) := by
  simp [last?, List.filter_append, h]

theorem exists_entries_tree (environment : List (String × String)) :
    ∃ entries, tree environment = .dict entries := by
  induction environment using List.reverseRecOn with
  | nil => exact ⟨[], rfl⟩
  | append_singleton environment variable_ ih =>
    cases hpath : path? variable_.1 with
    | none => rwa [tree_append_of_eq_none hpath]
    | some path =>
      cases path with
      | nil => exact absurd rfl (path?_ne_nil hpath)
      | cons key path =>
        rw [tree_append_of_eq_some hpath]
        exact ⟨_, Tree.merge_dict _ _⟩

theorem exists_entries_merge_tree (file : Tree) (environment : List (String × String)) :
    ∃ entries, Tree.merge file (tree environment) = .dict entries := by
  obtain ⟨entries, hdict⟩ := exists_entries_tree environment
  exact ⟨_, hdict ▸ Tree.merge_dict file entries⟩

theorem under_tree_append_of_ne {name : String}
    (h : ∀ path, path? variable_.1 ≠ some (name :: path)) :
    (tree (environment ++ [variable_])).under name = (tree environment).under name := by
  cases hpath : path? variable_.1 with
  | none => rw [tree_append_of_eq_none hpath]
  | some path =>
    cases path with
    | nil => exact absurd rfl (path?_ne_nil hpath)
    | cons key path =>
      have hkey : name ≠ key := fun heq => h path (heq ▸ hpath)
      rw [tree_append_of_eq_some hpath, Tree.under_merge_nest, if_neg hkey]

theorem under_tree_filter {name : String} {keep : String × String → Bool}
    (h : ∀ variable_ ∈ environment, ∀ path, path? variable_.1 = some (name :: path) →
      keep variable_ = true) :
    (tree (environment.filter keep)).under name = (tree environment).under name := by
  induction environment using List.reverseRecOn with
  | nil => rfl
  | append_singleton environment variable_ ih =>
    rw [List.forall_mem_append, List.forall_mem_singleton] at h
    replace ih := ih h.1
    rw [List.filter_append]
    by_cases hname : ∃ path, path? variable_.1 = some (name :: path)
    · obtain ⟨path, hpath⟩ := hname
      rw [List.filter_cons_of_pos (h.2 path hpath), List.filter_nil, tree_append_of_eq_some hpath,
        tree_append_of_eq_some hpath, Tree.under_merge_nest, Tree.under_merge_nest, ih]
    · rw [not_exists] at hname
      rw [under_tree_append_of_ne hname, ← ih]
      by_cases hkeep : keep variable_ = true
      · rw [List.filter_cons_of_pos hkeep, List.filter_nil, under_tree_append_of_ne hname]
      · rw [List.filter_cons_of_neg hkeep, List.filter_nil, List.append_nil]

theorem under_tree_eq_none {name : String}
    (h : ∀ variable_ ∈ environment, ∀ path, path? variable_.1 ≠ some (name :: path)) :
    (tree environment).under name = none := by
  have hnone : (tree (environment.filter fun _ => false)).under name = (tree environment).under name :=
    under_tree_filter fun variable_ hmem path hpath => absurd hpath (h variable_ hmem path)
  rw [← hnone, List.filter_false]
  rfl

section fields

variable {section_ : String}

theorem exists_entries_of_under_tree
    (h : ∀ variable_ ∈ environment, path? variable_.1 ≠ some [section_]) :
    ∀ t ∈ (tree environment).under section_, ∃ entries, t = .dict entries := by
  induction environment using List.reverseRecOn with
  | nil => exact nofun
  | append_singleton environment variable_ ih =>
    rw [List.forall_mem_append, List.forall_mem_singleton] at h
    by_cases hsection : ∃ path, path? variable_.1 = some (section_ :: path)
    · obtain ⟨path, hpath⟩ := hsection
      cases path with
      | nil => exact absurd hpath h.2
      | cons key path =>
        rw [tree_append_of_eq_some hpath, Tree.under_merge_nest, if_pos rfl]
        rintro t ⟨⟩
        exact ⟨_, Tree.merge_dict _ _⟩
    · rw [under_tree_append_of_ne (not_exists.mp hsection)]
      exact ih h.1

theorem field_tree_append_of_ne {name : String} (hwhole : path? variable_.1 ≠ some [section_])
    (h : ∀ more, path? variable_.1 ≠ some (section_ :: name :: more)) :
    (tree (environment ++ [variable_])).field section_ name =
      (tree environment).field section_ name := by
  by_cases hsection : ∃ path, path? variable_.1 = some (section_ :: path)
  · obtain ⟨path, hpath⟩ := hsection
    cases path with
    | nil => exact absurd hpath hwhole
    | cons key path =>
      have hkey : name ≠ key := fun heq => h path (heq ▸ hpath)
      rw [tree_append_of_eq_some hpath, Tree.field_merge_nest, if_neg hkey]
  · rw [Tree.field, under_tree_append_of_ne (not_exists.mp hsection), Tree.field]

/-- If no variable gives a section as a whole, a field of it has the value of the last variable with
its path, unless some variable makes a dictionary of it. -/
theorem field_tree (h : ∀ variable_ ∈ environment, path? variable_.1 ≠ some [section_])
    (name : String) :
    (tree environment).field section_ name = last? [section_, name] environment ∨
      (∃ entries, (tree environment).field section_ name = some (.dict entries)) ∧
      ∃ variable_ ∈ environment, ∃ more entries,
        path? variable_.1 = some (section_ :: name :: more) ∧
          Tree.nest more (read variable_.2) = .dict entries := by
  induction environment using List.reverseRecOn with
  | nil => exact .inl rfl
  | append_singleton environment variable_ ih =>
    rw [List.forall_mem_append, List.forall_mem_singleton] at h
    by_cases hname : ∃ more, path? variable_.1 = some (section_ :: name :: more)
    · obtain ⟨more, hpath⟩ := hname
      rw [tree_append_of_eq_some hpath, Tree.field_merge_nest, if_pos rfl]
      -- A dictionary is merged with what was there; any other value takes its place.
      by_cases hdict : ∃ entries, Tree.nest more (read variable_.2) = .dict entries
      · right
        obtain ⟨entries, hvalue⟩ := hdict
        rw [hvalue, Tree.merge_dict]
        exact ⟨⟨_, rfl⟩, variable_, by simp, more, entries, hpath, hvalue⟩
      · left
        cases more with
        | cons key more => exact absurd ⟨_, rfl⟩ hdict
        | nil => rw [Tree.merge_leaf (not_exists.mp hdict), last?_append_of_eq hpath, Tree.nest]
    · rw [field_tree_append_of_ne h.2 (not_exists.mp hname),
        last?_append_of_ne fun heq => hname ⟨[], heq⟩]
      refine (ih h.1).imp_right ?_
      rintro ⟨hdict, v, hv, hcause⟩
      exact ⟨hdict, v, List.mem_append_left _ hv, hcause⟩

end fields

end tree

/-! ## Names -/

def hiddenPrefix : String := "ODATA_ADAPT__VISIBILITY__"

def lowered (name : String) : List Char := (name.toList.rdropWhile Text.isBlank).map Char.toLower

def recordTypeOf (name : String) : String := String.ofList (lowered name)

def HasSeparator (name : String) : Prop := '.' ∈ name.toList ∨ ['_', '_'] <:+: name.toList

theorem trim_append {first last : Char} {s : List Char} (hlast : s.getLast? = some last)
    (hfirst : s.head? = some first) (hkept : Text.isBlank last = false)
    (hkept' : Text.isBlank first = false) (rest : List Char) :
    Text.trim (s ++ rest) = s ++ rest.rdropWhile Text.isBlank := by
  have hdrop : (s ++ rest).dropWhile Text.isBlank = s ++ rest := by
    cases s with
    | nil => cases hfirst
    | cons c s =>
      obtain rfl : c = first := Option.some.inj hfirst
      exact List.dropWhile_cons_of_neg (by simp [hkept'])
  rw [Text.trim_eq_rdropWhile, hdrop, Text.rdropWhile_append hlast hkept]

theorem path?_append_hiddenPrefix (name : String) :
    path? (hiddenPrefix ++ name) =
      let keys := Text.splitBy (· == '.') ((pointed (lowered name)).rdropWhile Text.isBlank)
      if keys.any List.isEmpty then none else some ("visibility" :: keys.map String.ofList) := by
  have hname : (Text.trim (hiddenPrefix ++ name).toList).map Char.toLower =
      "odata_adapt__".toList ++ ("visibility__".toList ++ lowered name) := by
    have hlast : hiddenPrefix.toList.getLast? = some '_' := rfl
    have hfirst : hiddenPrefix.toList.head? = some 'O' := rfl
    rw [String.toList_append, trim_append hlast hfirst rfl rfl, List.map_append]
    rfl
  have hpointed : pointed ("visibility__".toList ++ lowered name) =
      "visibility.".toList ++ pointed (lowered name) := rfl
  have hsplit : ∀ rest, Text.splitBy (· == '.') ("visibility.".toList ++ rest) =
      "visibility".toList :: Text.splitBy (· == '.') rest := fun rest =>
    Text.splitBy_append_cons (s := "visibility".toList) (p := (· == '.')) (by simp)
      (beq_self_eq_true '.') rest
  have hprefix : namePrefix.isPrefixOf ("odata_adapt__".toList ++
      ("visibility__".toList ++ lowered name)) = true := by
    rw [List.isPrefixOf_iff_prefix]
    exact List.prefix_append _ _
  have hrest : ("odata_adapt__".toList ++ ("visibility__".toList ++ lowered name)).drop
      namePrefix.length = "visibility__".toList ++ lowered name := rfl
  have hlast : "visibility.".toList.getLast? = some '.' := rfl
  have hfirst : "visibility.".toList.head? = some 'v' := rfl
  simp only [path?, hname, hprefix, if_true, hrest, hpointed, trim_append hlast hfirst rfl rfl,
    hsplit, List.any_cons]
  rfl

theorem exists_keys_of_path? {name : String} {path : List String}
    (h : path? (hiddenPrefix ++ name) = some path) :
    ∃ recordType more, path = "visibility" :: recordType :: more := by
  rw [path?_append_hiddenPrefix] at h
  dsimp only at h
  split at h
  · cases h
  · cases hkeys : Text.splitBy (· == '.')
        ((pointed (lowered name)).rdropWhile Text.isBlank) with
    | nil => exact absurd hkeys (Text.splitBy_ne_nil _ _)
    | cons key keys =>
      rw [hkeys] at h
      exact ⟨String.ofList key, keys.map String.ofList, (Option.some.inj h).symm⟩

theorem pointed_eq_self {s : List Char} (h : ¬['_', '_'] <:+: s) : pointed s = s := by
  fun_induction pointed s with
  | case1 rest ih => exact absurd (List.prefix_append ['_', '_'] rest).isInfix h
  | case2 c rest hne ih =>
    rw [ih fun hin => h (hin.trans (List.suffix_cons c rest).isInfix)]
  | case3 => rfl

theorem lowered_of_not_hasSeparator {name : String} (h : ¬HasSeparator name) :
    '.' ∉ lowered name ∧ ¬['_', '_'] <:+: lowered name := by
  rw [HasSeparator, not_or] at h
  have hprefix := List.rdropWhile_prefix Text.isBlank name.toList
  constructor
  · intro hmem
    obtain ⟨c, hc, hdot⟩ := List.mem_map.mp hmem
    rw [Text.toLower_eq_iff (by decide)] at hdot
    exact h.1 (hdot ▸ hprefix.subset hc)
  · rintro ⟨before, after, heq⟩
    obtain ⟨first, last, hsplit, hfirst, -⟩ := List.map_eq_append_iff.mp heq.symm
    obtain ⟨before', marks, rfl, -, hmarks⟩ := List.map_eq_append_iff.mp hfirst
    have hmarks' : marks = ['_', '_'] := by
      obtain ⟨a, b, rfl⟩ : ∃ a b, marks = [a, b] := by
        rw [← List.length_eq_two, ← List.length_map Char.toLower, hmarks]
        rfl
      simp only [List.map_cons, List.map_nil, List.cons.injEq, and_true] at hmarks
      rw [Text.toLower_eq_iff (by decide), Text.toLower_eq_iff (by decide)] at hmarks
      rw [hmarks.1, hmarks.2]
    apply h.2
    have hin : ['_', '_'] <:+: name.toList.rdropWhile Text.isBlank :=
      ⟨before', last, by rw [hsplit, hmarks']⟩
    exact hin.trans hprefix.isInfix

theorem rdropWhile_lowered (name : String) :
    (lowered name).rdropWhile Text.isBlank = lowered name := by
  rw [List.rdropWhile_eq_self_iff]
  intro hne hblank
  have hlast : (name.toList.rdropWhile Text.isBlank) ≠ [] := fun h => hne (by simp [lowered, h])
  have hgetLast : (lowered name).getLast hne =
      ((name.toList.rdropWhile Text.isBlank).getLast hlast).toLower := by
    simp only [lowered, List.getLast_map]
  rw [hgetLast, Text.isBlank_toLower] at hblank
  exact List.rdropWhile_last_not _ _ hlast hblank

theorem path?_of_not_hasSeparator {name : String} (h : ¬HasSeparator name) :
    path? (hiddenPrefix ++ name) =
      if recordTypeOf name = "" then none else some ["visibility", recordTypeOf name] := by
  obtain ⟨hdot, hunderscores⟩ := lowered_of_not_hasSeparator h
  have hkeys : Text.splitBy (· == '.') ((pointed (lowered name)).rdropWhile Text.isBlank) =
      [lowered name] := by
    rw [pointed_eq_self hunderscores, rdropWhile_lowered]
    exact Text.splitBy_of_forall fun c hc => beq_eq_false_iff_ne.mpr fun h => hdot (h ▸ hc)
  have hempty : (lowered name).isEmpty = true ↔ recordTypeOf name = "" := by
    rw [List.isEmpty_iff, recordTypeOf, String.ofList_eq_empty_iff]
  rw [path?_append_hiddenPrefix]
  simp only [hkeys, List.any_cons, List.any_nil, Bool.or_false, hempty, List.map_cons, List.map_nil]
  rfl

theorem mem_rdropWhile {c : Char} {s : List Char} (hkept : Text.isBlank c = false) (h : c ∈ s) :
    c ∈ s.rdropWhile Text.isBlank := by
  obtain ⟨before, after, rfl⟩ := List.append_of_mem h
  have hlast : (before ++ [c]).getLast? = some c := List.getLast?_concat
  have hsplit : before ++ c :: after = before ++ [c] ++ after := by simp
  rw [hsplit, Text.rdropWhile_append hlast hkept]
  simp

theorem dot_mem_pointed {s : List Char} (h : '.' ∈ s ∨ ['_', '_'] <:+: s) : '.' ∈ pointed s := by
  fun_induction pointed s with
  | case1 rest ih => exact List.mem_cons_self
  | case2 c rest hne ih =>
    by_cases hc : c = '.'
    · exact hc ▸ List.mem_cons_self
    · refine List.mem_cons_of_mem c (ih ?_)
      rcases h with hmem | ⟨before, after, heq⟩
      · exact .inl (List.mem_of_ne_of_mem (Ne.symm hc) hmem)
      · cases before with
        | nil =>
          obtain ⟨rfl, rfl⟩ := List.cons.inj heq
          exact (hne after rfl rfl).elim
        | cons first before => exact .inr ⟨before, after, (List.cons.inj heq).2⟩
  | case3 => simp at h

theorem HasSeparator.lowered {name : String} (h : HasSeparator name) :
    '.' ∈ lowered name ∨ ['_', '_'] <:+: lowered name := by
  rcases h with hmem | ⟨before, after, heq⟩
  · exact .inl (List.mem_map.mpr ⟨'.', mem_rdropWhile (by decide) hmem, rfl⟩)
  · right
    have hlast : (before ++ ['_', '_']).getLast? = some '_' := by simp
    rw [Environment.lowered, ← heq, Text.rdropWhile_append hlast (by decide), List.map_append,
      List.map_append]
    exact ⟨_, _, rfl⟩

theorem path?_eq_pair_iff {name recordType : String} :
    path? (hiddenPrefix ++ name) = some ["visibility", recordType] ↔
      ¬HasSeparator name ∧ recordTypeOf name = recordType ∧ recordType ≠ "" := by
  by_cases h : HasSeparator name
  · refine iff_of_false (fun hpath => ?_) fun hnot => hnot.1 h
    obtain ⟨before, after, hsplit, hbefore⟩ := List.eq_append_cons_of_mem
      (mem_rdropWhile (c := '.') (by decide) (dot_mem_pointed h.lowered))
    have hkeys := Text.splitBy_append_cons (p := (· == '.'))
      (fun c hc => beq_eq_false_iff_ne.mpr fun hdot => hbefore (hdot ▸ hc))
      (beq_self_eq_true '.') after
    rw [path?_append_hiddenPrefix, hsplit, hkeys] at hpath
    dsimp only at hpath
    split at hpath
    · cases hpath
    · have hlength := congrArg List.length (Option.some.inj hpath)
      have hne := List.length_pos_of_ne_nil (Text.splitBy_ne_nil (· == '.') after)
      simp only [List.length_cons, List.length_map, List.length_nil] at hlength
      omega
  · rw [path?_of_not_hasSeparator h]
    by_cases hempty : recordTypeOf name = ""
    · rw [if_pos hempty, hempty]
      exact iff_of_false nofun fun hnot => hnot.2.2 hnot.2.1.symm
    · rw [if_neg hempty]
      simp only [Option.some.injEq, List.cons.injEq, true_and, and_true, h, not_false_eq_true]
      exact ⟨fun heq => ⟨heq, heq ▸ hempty⟩, fun heq => heq.1⟩

end RowQuery.Environment
