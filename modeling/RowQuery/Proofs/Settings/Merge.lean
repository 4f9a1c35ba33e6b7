import Mathlib.Data.List.Induction
import RowQuery.Proofs.Members
import RowQuery.Settings.Tree

/-!
# Merged trees

In a distinct tree no dictionary gives a key twice. Merging keeps trees distinct, and under a key of
the merged dictionary stands what the later one says of it, merged into what the earlier one says;
what only one of them says stays as it is. A value that is no dictionary takes the place of any
other, so a reader that refuses dictionaries reads the later value.
-/
namespace RowQuery.Tree

inductive Distinct : Tree → Prop
  | keyed {entries : Entries} (keys : (entries.map Prod.fst).Nodup)
      (values : ∀ e ∈ entries, Distinct e.2) : Distinct (dict entries)
  | leaf {t : Tree} (h : ∀ entries, t ≠ dict entries) : Distinct t

variable {old new t : Tree} {entries more : Entries} {key : String}

theorem Distinct.keys (h : (dict entries).Distinct) : (entries.map Prod.fst).Nodup := by
  cases h with
  | keyed keys values => exact keys
  | leaf h => exact absurd rfl (h entries)

theorem Distinct.values (h : (dict entries).Distinct) : ∀ e ∈ entries, e.2.Distinct := by
  cases h with
  | keyed keys values => exact values
  | leaf h => exact absurd rfl (h entries)

theorem Distinct.of_lookup (h : (dict entries).Distinct) (ht : entries.lookup key = some t) :
    t.Distinct :=
  h.values (key, t) (mem_of_lookup ht)

theorem distinct_dict_nil : (dict []).Distinct := .keyed List.nodup_nil (by simp)

theorem distinct_empty : empty.Distinct := .leaf nofun

/-! ## One merge -/

theorem merge_dict (old : Tree) (new : Entries) :
    merge old (dict new) = dict (mergeEntries old.entries new) := by
  rw [merge]

theorem merge_leaf (h : ∀ entries, new ≠ dict entries) : merge old new = new := by
  cases new with
  | dict entries => exact absurd rfl (h entries)
  | _ => rw [merge]

theorem Distinct.dict_entries (h : t.Distinct) : (dict t.entries).Distinct := by
  cases t with
  | dict entries => exact h
  | _ => exact distinct_dict_nil

theorem Distinct.insert (h : (dict entries).Distinct) (ht : t.Distinct) :
    (dict (insertMember key t entries)).Distinct := by
  refine .keyed (nodup_keys_insertMember h.keys) fun e he => ?_
  rcases mem_of_mem_insertMember he with rfl | he
  · exact ht
  · exact h.values e he

theorem Distinct.getD_lookup (h : (dict entries).Distinct) (key : String) :
    ((entries.lookup key).getD empty).Distinct := by
  cases hlookup : entries.lookup key with
  | none => exact distinct_empty
  | some t => exact h.of_lookup hlookup

theorem Distinct.mergeEntries (hold : (dict entries).Distinct)
    (hnew : ∀ e ∈ more, ∀ {old : Tree}, old.Distinct → (merge old e.2).Distinct) :
    (dict (mergeEntries entries more)).Distinct := by
  induction more generalizing entries with
  | nil => rwa [Tree.mergeEntries]
  | cons e rest ih =>
    rw [Tree.mergeEntries]
    refine ih (hold.insert (hnew e List.mem_cons_self (hold.getD_lookup _))) fun e' he' => ?_
    exact hnew e' (List.mem_cons_of_mem e he')

theorem Distinct.merge (hold : old.Distinct) (hnew : new.Distinct) : (merge old new).Distinct := by
  induction hnew generalizing old with
  | keyed keys values ih =>
    rw [merge_dict]
    exact hold.dict_entries.mergeEntries fun e he => ih e he
  | leaf h =>
    rw [merge_leaf h]
    exact .leaf h

theorem lookup_mergeEntries (hkeys : (more.map Prod.fst).Nodup) (key : String) :
    (mergeEntries entries more).lookup key =
      match more.lookup key with
      | none => entries.lookup key
      | some value => some (merge ((entries.lookup key).getD empty) value) := by
  induction more generalizing entries with
  | nil => rw [mergeEntries, List.lookup_nil]
  | cons e rest ih =>
    obtain ⟨first, value⟩ := e
    rw [List.map_cons, List.nodup_cons] at hkeys
    rw [mergeEntries, ih hkeys.2, lookup_insertMember]
    by_cases h : key = first
    · subst h
      rw [lookup_eq_none_iff_not_mem_keys.mpr hkeys.1, if_pos rfl, List.lookup_cons_self]
    · rw [if_neg h, lookup_cons_of_ne h]

theorem mergeEntries_eq_append (hkeys : ((entries ++ more).map Prod.fst).Nodup)
    (hvalues : ∀ e ∈ more, merge empty e.2 = e.2) : mergeEntries entries more = entries ++ more := by
  induction more generalizing entries with
  | nil => rw [mergeEntries, List.append_nil]
  | cons e rest ih =>
    obtain ⟨key, value⟩ := e
    have hnew : key ∉ entries.map Prod.fst := by
      intro hmem
      rw [List.map_append, List.nodup_append] at hkeys
      exact hkeys.2.2 key hmem key (by simp) rfl
    have hnone : entries.lookup key = none := lookup_eq_none_iff_not_mem_keys.mpr hnew
    have hsplit : entries ++ (key, value) :: rest = (entries ++ [(key, value)]) ++ rest := by simp
    rw [mergeEntries, hnone, Option.getD_none, hvalues (key, value) List.mem_cons_self,
      insertMember_eq_append_of_not_mem_keys hnew, hsplit]
    exact ih (by rwa [← hsplit]) fun e he => hvalues e (List.mem_cons_of_mem _ he)

theorem merge_of_entries_eq_nil (hold : old.entries = []) (hnew : new.Distinct) :
    merge old new = new := by
  induction hnew generalizing old with
  | keyed keys values ih =>
    rw [merge_dict, hold, mergeEntries_eq_append (by simpa using keys) fun e he => ih e he rfl,
      List.nil_append]
  | leaf h => exact merge_leaf h

/-! ## Merging sources -/

theorem distinct_nest (path : List String) (h : t.Distinct) : (nest path t).Distinct := by
  induction path with
  | nil => exact h
  | cons key path ih => exact .keyed (by simp) (by simpa using ih)

theorem mergeAll_append_singleton (trees : List Tree) (t : Tree) :
    mergeAll (trees ++ [t]) = merge (mergeAll trees) t := by
  rw [mergeAll, List.foldl_append]
  rfl

theorem distinct_mergeAll {trees : List Tree} (h : ∀ t ∈ trees, t.Distinct) :
    (mergeAll trees).Distinct := by
  induction trees using List.reverseRecOn with
  | nil => exact distinct_dict_nil
  | append_singleton trees t ih =>
    rw [mergeAll_append_singleton]
    exact (ih fun t ht => h t (List.mem_append_left _ ht)).merge (h t (by simp))

theorem mergeAll_pair (h : old.Distinct) (new : Tree) : mergeAll [old, new] = merge old new := by
  have hfirst : merge (dict []) old = old := merge_of_entries_eq_nil rfl h
  rw [mergeAll, List.foldl_cons, List.foldl_cons, List.foldl_nil, hfirst]

/-! ## Sections and fields -/

def under (name : String) (source : Tree) : Option Tree := source.entries.lookup name

def field (section_ name : String) (source : Tree) : Option Tree :=
  ((source.under section_).getD empty).under name

theorem exists_under_of_mem {e : String × Tree} (h : e ∈ t.entries) : ∃ v, t.under e.1 = some v := by
  rw [← Option.isSome_iff_exists, Option.isSome_iff_ne_none, under, ne_eq,
    lookup_eq_none_iff_not_mem_keys, not_not]
  exact List.mem_map_of_mem h

theorem under_merge {lower upper : Tree} (hdistinct : upper.Distinct)
    (hdict : ∃ entries, upper = dict entries) (name : String) :
    (merge lower upper).under name = match upper.under name with
      | none => lower.under name
      | some t => some (merge ((lower.under name).getD empty) t) := by
  obtain ⟨entries, rfl⟩ := hdict
  rw [merge_dict]
  exact lookup_mergeEntries hdistinct.keys name

theorem field_merge {lower upper : Tree} (hdistinct : upper.Distinct)
    (hdict : ∃ entries, upper = dict entries) {section_ : String}
    (hsection : ∀ t ∈ upper.under section_, ∃ entries, t = dict entries) (name : String) :
    (merge lower upper).field section_ name = match upper.field section_ name with
      | none => lower.field section_ name
      | some t => some (merge ((lower.field section_ name).getD empty) t) := by
  rw [field, under_merge hdistinct hdict, field]
  cases hupper : upper.under section_ with
  | none => rfl
  | some t =>
    have ht : t.Distinct := by
      obtain ⟨entries, rfl⟩ := hdict
      exact hdistinct.of_lookup hupper
    exact under_merge ht (hsection t hupper) name

theorem under_merge_nest (old : Tree) (key : String) (path : List String) (value : Tree)
    (name : String) :
    (merge old (nest (key :: path) value)).under name =
      if name = key then some (merge ((old.under key).getD empty) (nest path value))
      else old.under name := by
  rw [nest, merge_dict, mergeEntries, mergeEntries]
  exact lookup_insertMember key name _ old.entries

theorem field_merge_nest (old : Tree) (section_ key : String) (path : List String) (value : Tree)
    (name : String) :
    (merge old (nest (section_ :: key :: path) value)).field section_ name =
      if name = key then some (merge ((old.field section_ key).getD empty) (nest path value))
      else old.field section_ name := by
  rw [field, under_merge_nest, if_pos rfl, Option.getD_some, under_merge_nest]
  rfl

end RowQuery.Tree
