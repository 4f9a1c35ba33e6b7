import RowQuery.Proofs.Outcome
import RowQuery.Proofs.Settings.Environment
import RowQuery.Proofs.Settings.FromYaml
import RowQuery.Settings.Load

/-!
# Settings in layers

A setting has the value of the highest source that gives it, and its default if none does: the
command line for the level, then the environment, then the document. A section is given field by
field, as a dictionary, or as a whole, as a list of its values; a section as a whole takes the place
of the ones below it, and so does a section field by field of one below that is given as a whole.

The merged sources load exactly if they fit: sections and fields have known names, and every field
has a value of its kind.
-/
namespace RowQuery

def Tree.slot (name : String) (place : Nat) : Tree → Option Tree
  | dict entries => entries.lookup name
  | list items => items[place]?
  | _ => none

/-- A section with fields of these names only, or one that gives its values in order. -/
def Tree.IsSection (names : List String) (section_ : Tree) : Prop :=
  (∃ entries, section_ = dict entries ∧ ∀ e ∈ entries, e.1 ∈ names) ∨ ∃ items, section_ = list items

namespace Settings

inductive Setting
  | queryLength
  | top
  | selectFields
  | orderByFields
  | level
  | json
deriving DecidableEq, Repr

namespace Setting

def sectionName : Setting → String
  | level | json => "logging"
  | _ => "limits"

def name : Setting → String
  | queryLength => "max_query_len"
  | top => "max_top"
  | selectFields => "max_select_fields"
  | orderByFields => "max_orderby_fields"
  | level => "level"
  | json => "json"

def place : Setting → Nat
  | queryLength | level => 0
  | top | json => 1
  | selectFields => 2
  | orderByFields => 3

def limitTree : Option UInt64 → Tree
  | none => .empty
  | some n => .int n.toNat

def value (s : Settings) : Setting → Tree
  | queryLength => limitTree s.limits.queryLength
  | top => limitTree s.limits.top
  | selectFields => limitTree s.limits.selectFields
  | orderByFields => limitTree s.limits.orderByFields
  | level => .text s.logging.level
  | json => .bool s.logging.json

def default : Setting → Tree
  | level => .text "warn"
  | json => .bool false
  | _ => .empty

def Accepts : Setting → Tree → Prop
  | level, t => ∃ s, t = .text s
  | json, t => ∃ b, t = .bool b
  | _, t => t = .empty ∨ ∃ n : Nat, n < UInt64.size ∧ t = .int n

/-- What one source says of the setting. -/
def given (k : Setting) (source : Tree) : Option Tree :=
  (source.under k.sectionName).bind (Tree.slot k.name k.place)

/-- The source gives the setting's section field by field, or not at all. -/
def IsKeyed (k : Setting) (source : Tree) : Prop :=
  ∀ t ∈ source.under k.sectionName, ∃ entries, t = .dict entries

def variableName (k : Setting) : String :=
  "ODATA_ADAPT__" ++ String.ofList ((k.sectionName ++ "__" ++ k.name).toList.map Char.toUpper)

/-- What two sources say of the setting together. -/
def layered (k : Setting) (lower upper : Tree) : Option Tree :=
  match upper.under k.sectionName with
  | none => k.given lower
  | some (.dict entries) =>
    (entries.lookup k.name).or (((lower.under k.sectionName).getD .empty).under k.name)
  | some whole => whole.slot k.name k.place

def commanded (k : Setting) (o : Overrides) : Option Tree :=
  match k with
  | level => (levelOf o.verbosity).map .text
  | _ => none

end Setting

structure Fits (merged : Tree) : Prop where
  sections : ∀ e ∈ merged.entries, e.1 ∈ sectionNames
  limits : ∀ t ∈ merged.under "limits", t.IsSection Limits.memberNames
  logging : ∀ t ∈ merged.under "logging", t.IsSection ["level", "json"]
  visibility : ∀ t ∈ merged.under "visibility", ∃ entries, t = .dict entries ∧
    ∀ e ∈ entries, ∃ names : List String, e.2 = .list (names.map .text)
  values : ∀ k : Setting, ∀ t ∈ k.given merged, k.Accepts t

end Settings

/-! ## Reading one field -/

namespace Tree

open Settings Setting

theorem natural?_eq_some_iff {t : Tree} {n : UInt64} : natural? t = some n ↔ t = .int n.toNat := by
  constructor
  · intro h
    cases t with
    | int i =>
      obtain ⟨value, hvalue, hn⟩ := Option.bind_eq_some_iff.mp h
      rw [Integer.ofInt?] at hvalue
      split at hvalue
      · cases hvalue
        rw [Integer.toUInt64?] at hn
        split at hn
        · rename_i hnonneg
          cases hn
          rw [UInt64.toNat_ofNatLT]
          exact congrArg int (Int.toNat_of_nonneg hnonneg).symm
        · cases hn
      · cases hvalue
    | _ => cases h
  · rintro rfl
    have hlt := n.toNat_lt
    have hint : Integer.ofInt? n.toNat = some (Integer.ofUInt64 n) := by
      rw [Integer.ofInt?, dif_pos ⟨by omega, by omega⟩]
      rfl
    rw [natural?, hint, Option.bind_some, Integer.toUInt64?, dif_pos (by simp [Integer.ofUInt64])]
    simp [Integer.ofUInt64]

theorem optional?_natural?_eq_some_iff {field : Option Tree} {n : Option UInt64} :
    optional? natural? field = some n ↔ field.getD .empty = limitTree n := by
  cases field with
  | none => cases n <;> simp [optional?, limitTree]
  | some t =>
    by_cases ht : t = .empty
    · subst ht
      cases n <;> simp [optional?, limitTree]
    · have hread : optional? natural? (some t) = (natural? t).map some := by
        cases t with
        | empty => exact absurd rfl ht
        | _ => rfl
      cases n with
      | none => simp [hread, limitTree, ht]
      | some n => simp [hread, limitTree, natural?_eq_some_iff]

theorem text?_eq_some_iff {t : Tree} {s : String} : text? t = some s ↔ t = .text s := by
  cases t <;> simp [text?]

theorem bool?_eq_some_iff {t : Tree} {b : Bool} : bool? t = some b ↔ t = .bool b := by
  cases t <;> simp [bool?]

theorem texts?_eq_some_iff {t : Tree} {names : List String} :
    texts? t = some names ↔ t = .list (names.map .text) := by
  cases t with
  | list items =>
    simp only [texts?, mapM_eq_some_iff, text?_eq_some_iff]
    rw [list.injEq, ← List.forall₂_eq_eq_eq, List.forall₂_map_right_iff]
  | _ => simp [texts?]

theorem defaulted?_eq_some_iff {α : Type} {read : Tree → Option α} {write : α → Tree}
    (hread : ∀ {t a}, read t = some a ↔ t = write a) {default a : α} {field : Option Tree}
    (hinj : write default = write a → default = a) :
    defaulted? default read field = some a ↔ field.getD (write default) = write a := by
  cases field with
  | none =>
    rw [defaulted?, Option.getD_none, Option.some.injEq]
    exact ⟨congrArg write, hinj⟩
  | some t => rw [defaulted?, Option.getD_some, hread]

theorem fields?_eq_some_iff {names : List String} {t : Tree} {fields : List (Option Tree)} :
    t.fields? names = some fields ↔
      t.IsSection names ∧ fields = names.mapIdx fun place name => t.slot name place := by
  cases t with
  | dict entries =>
    have hslots : (names.mapIdx fun place name => (dict entries).slot name place) =
        names.map fun name => entries.lookup name :=
      List.ext_getElem (by simp) (by simp [slot])
    simp only [fields?, IsSection, List.all_eq_true, List.contains_iff_mem, dict.injEq,
      exists_eq_left', reduceCtorEq, exists_false, or_false, Option.ite_none_right_eq_some,
      Option.some.injEq, hslots]
    exact and_congr_right fun _ => eq_comm
  | list items =>
    have hslots : (names.mapIdx fun place name => (list items).slot name place) =
        (List.range names.length).map fun place => items[place]? :=
      List.ext_getElem (by simp) (by simp [slot])
    simp only [fields?, IsSection, reduceCtorEq, false_and, exists_false, list.injEq,
      exists_eq', false_or, true_and, Option.some.injEq, hslots]
    exact eq_comm
  | _ => simp [fields?, IsSection]

theorem isSection_empty (names : List String) : (dict []).IsSection names :=
  .inl ⟨[], rfl, by simp⟩

end Tree

/-! ## Reading sections -/

open Settings Setting RowQuery.Tree

theorem Limits.ofTree?_eq_some_iff {t : Tree} {l : Limits} :
    ofTree? t = some l ↔ t.IsSection memberNames ∧
      (t.slot "max_query_len" 0).getD .empty = limitTree l.queryLength ∧
      (t.slot "max_top" 1).getD .empty = limitTree l.top ∧
      (t.slot "max_select_fields" 2).getD .empty = limitTree l.selectFields ∧
      (t.slot "max_orderby_fields" 3).getD .empty = limitTree l.orderByFields := by
  simp only [← optional?_natural?_eq_some_iff]
  rw [ofTree?]
  constructor
  · intro h
    obtain ⟨fields, hfields, h⟩ := Option.bind_eq_some_iff.mp h
    obtain ⟨hsection, rfl⟩ := fields?_eq_some_iff.mp hfields
    obtain ⟨queryLength, hqueryLength, h⟩ := Option.bind_eq_some_iff.mp h
    obtain ⟨top, htop, h⟩ := Option.bind_eq_some_iff.mp h
    obtain ⟨selectFields, hselectFields, h⟩ := Option.bind_eq_some_iff.mp h
    obtain ⟨orderByFields, horderByFields, h⟩ := Option.bind_eq_some_iff.mp h
    cases h
    exact ⟨hsection, hqueryLength, htop, hselectFields, horderByFields⟩
  · rintro ⟨hsection, hqueryLength, htop, hselectFields, horderByFields⟩
    rw [fields?_eq_some_iff.mpr ⟨hsection, rfl⟩]
    simp [memberNames, hqueryLength, htop, hselectFields, horderByFields]

theorem Logging.ofTree?_eq_some_iff {t : Tree} {l : Logging} :
    ofTree? t = some l ↔ t.IsSection ["level", "json"] ∧
      (t.slot "level" 0).getD (.text "warn") = .text l.level ∧
      (t.slot "json" 1).getD (.bool false) = .bool l.json := by
  rw [← defaulted?_eq_some_iff text?_eq_some_iff (fun h => Tree.text.inj h),
    ← defaulted?_eq_some_iff bool?_eq_some_iff (fun h => Tree.bool.inj h), ofTree?]
  constructor
  · intro h
    obtain ⟨fields, hfields, h⟩ := Option.bind_eq_some_iff.mp h
    obtain ⟨hsection, rfl⟩ := fields?_eq_some_iff.mp hfields
    obtain ⟨level, hlevel, h⟩ := Option.bind_eq_some_iff.mp h
    obtain ⟨json, hjson, h⟩ := Option.bind_eq_some_iff.mp h
    cases h
    exact ⟨hsection, hlevel, hjson⟩
  · rintro ⟨hsection, hlevel, hjson⟩
    rw [fields?_eq_some_iff.mpr ⟨hsection, rfl⟩]
    simp [hlevel, hjson]

theorem HiddenFields.isSome_ofTree?_iff {t : Tree} :
    (ofTree? t).isSome ↔ ∃ entries, t = .dict entries ∧
      ∀ e ∈ entries, ∃ names : List String, e.2 = .list (names.map .text) := by
  cases t with
  | dict entries =>
    rw [ofTree?, Option.isSome_map, isSome_mapM_iff]
    simp only [Option.isSome_map, Option.isSome_iff_exists, texts?_eq_some_iff, dict.injEq,
      exists_eq_left']
  | _ => simp [ofTree?]

namespace Settings

theorem defaulted?_eq_getD {α : Type} {read : Tree → Option α} {default : α}
    (h : read (.dict []) = some default) (field : Option Tree) :
    defaulted? default read field = read (field.getD (.dict [])) := by
  cases field with
  | none => exact h.symm
  | some t => rfl

theorem ofTree?_dict_eq_some_iff {entries : Tree.Entries} {s : Settings} :
    ofTree? (.dict entries) = some s ↔ (∀ e ∈ entries, e.1 ∈ sectionNames) ∧
      Limits.ofTree? ((entries.lookup "limits").getD (.dict [])) = some s.limits ∧
      HiddenFields.ofTree? ((entries.lookup "visibility").getD (.dict [])) = some s.visibility ∧
      Logging.ofTree? ((entries.lookup "logging").getD (.dict [])) = some s.logging := by
  have hsection : (Tree.dict entries).IsSection sectionNames ↔
      ∀ e ∈ entries, e.1 ∈ sectionNames := by
    simp [IsSection]
  have hlimits := fun field =>
    defaulted?_eq_getD (show Limits.ofTree? (.dict []) = some {} from rfl) field
  have hvisibility := fun field => defaulted?_eq_getD
    (show HiddenFields.ofTree? (.dict []) = some (.ofMembers []) from rfl) field
  have hlogging := fun field =>
    defaulted?_eq_getD (show Logging.ofTree? (.dict []) = some {} from rfl) field
  rw [← hsection, ← hlimits, ← hvisibility, ← hlogging, ofTree?]
  constructor
  · intro h
    obtain ⟨fields, hfields, h⟩ := Option.bind_eq_some_iff.mp h
    obtain ⟨hknown, rfl⟩ := fields?_eq_some_iff.mp hfields
    obtain ⟨limits, hlimits, h⟩ := Option.bind_eq_some_iff.mp h
    obtain ⟨visibility, hvisibility, h⟩ := Option.bind_eq_some_iff.mp h
    obtain ⟨logging, hlogging, h⟩ := Option.bind_eq_some_iff.mp h
    cases h
    exact ⟨hknown, hlimits, hvisibility, hlogging⟩
  · rintro ⟨hknown, hlimits, hvisibility, hlogging⟩
    rw [fields?_eq_some_iff.mpr ⟨hknown, rfl⟩]
    simp [sectionNames, slot, hlimits, hvisibility, hlogging]

/-! ## Merged sources that fit -/

theorem slot_getD_dict_nil (name : String) (place : Nat) (t : Option Tree) :
    (t.getD (.dict [])).slot name place = t.bind (Tree.slot name place) := by
  cases t <;> rfl

theorem Setting.accepts_value (k : Setting) (s : Settings) : k.Accepts (k.value s) := by
  have hlimit : ∀ n : Option UInt64,
      limitTree n = .empty ∨ ∃ m : Nat, m < UInt64.size ∧ limitTree n = .int m := by
    intro n
    cases n with
    | none => exact .inl rfl
    | some n => exact .inr ⟨n.toNat, n.toNat_lt, rfl⟩
  cases k with
  | level => exact ⟨_, rfl⟩
  | json => exact ⟨_, rfl⟩
  | _ => exact hlimit _

theorem Setting.value_ne_dict (k : Setting) (s : Settings) (entries : Tree.Entries) :
    k.value s ≠ .dict entries := by
  have hlimit : ∀ n : Option UInt64, limitTree n ≠ .dict entries := by
    intro n
    cases n <;> exact nofun
  cases k with
  | level => exact nofun
  | json => exact nofun
  | _ => exact hlimit _

theorem getD_of_forall {α : Type} {P : α → Prop} {field : Option α} {default : α}
    (hdefault : P default) (h : ∀ a ∈ field, P a) : P (field.getD default) := by
  cases field with
  | none => exact hdefault
  | some a => exact h a rfl

theorem exists_limitTree {field : Option Tree}
    (h : ∀ t ∈ field, t = .empty ∨ ∃ n : Nat, n < UInt64.size ∧ t = .int n) :
    ∃ n, field.getD .empty = limitTree n := by
  cases field with
  | none => exact ⟨none, rfl⟩
  | some t =>
    rcases h t rfl with rfl | ⟨n, hn, rfl⟩
    · exact ⟨none, rfl⟩
    · exact ⟨some (UInt64.ofNatLT n hn), by simp [limitTree]⟩

variable {entries : Tree.Entries} {s : Settings}

theorem value_of_ofTree? (h : ofTree? (.dict entries) = some s) (k : Setting) :
    (k.given (.dict entries)).getD k.default = k.value s := by
  obtain ⟨-, hlimits, -, hlogging⟩ := ofTree?_dict_eq_some_iff.mp h
  obtain ⟨-, hqueryLength, htop, hselectFields, horderByFields⟩ :=
    Limits.ofTree?_eq_some_iff.mp hlimits
  obtain ⟨-, hlevel, hjson⟩ := Logging.ofTree?_eq_some_iff.mp hlogging
  rw [slot_getD_dict_nil] at hqueryLength htop hselectFields horderByFields hlevel hjson
  cases k with
  | queryLength => exact hqueryLength
  | top => exact htop
  | selectFields => exact hselectFields
  | orderByFields => exact horderByFields
  | level => exact hlevel
  | json => exact hjson

theorem fits_of_ofTree? (h : ofTree? (.dict entries) = some s) : Fits (.dict entries) := by
  obtain ⟨hknown, hlimits, hvisibility, hlogging⟩ := ofTree?_dict_eq_some_iff.mp h
  refine ⟨hknown, fun t ht => ?_, fun t ht => ?_, fun t ht => ?_, fun k t ht => ?_⟩
  · have hsection := (Limits.ofTree?_eq_some_iff.mp hlimits).1
    rwa [show entries.lookup "limits" = some t from ht] at hsection
  · have hsection := (Logging.ofTree?_eq_some_iff.mp hlogging).1
    rwa [show entries.lookup "logging" = some t from ht] at hsection
  · rw [show entries.lookup "visibility" = some t from ht] at hvisibility
    exact HiddenFields.isSome_ofTree?_iff.mp (Option.isSome_of_eq_some hvisibility)
  · have hvalue := value_of_ofTree? h k
    rw [Option.mem_def.mp ht, Option.getD_some] at hvalue
    exact hvalue ▸ k.accepts_value s

theorem exists_ofTree?_of_fits (h : Fits (.dict entries)) :
    ∃ s, ofTree? (.dict entries) = some s := by
  -- A section or a setting that is not given fits as well, for the default of each does.
  have hlimits := getD_of_forall (isSection_empty _) h.limits
  have hlogging := getD_of_forall (isSection_empty _) h.logging
  obtain ⟨queryLength, hqueryLength⟩ := exists_limitTree (h.values queryLength)
  obtain ⟨top, htop⟩ := exists_limitTree (h.values top)
  obtain ⟨selectFields, hselectFields⟩ := exists_limitTree (h.values selectFields)
  obtain ⟨orderByFields, horderByFields⟩ := exists_limitTree (h.values orderByFields)
  obtain ⟨levelText, hlevel⟩ :=
    getD_of_forall (P := Setting.level.Accepts) ⟨"warn", rfl⟩ (h.values level)
  obtain ⟨jsonFlag, hjson⟩ :=
    getD_of_forall (P := Setting.json.Accepts) ⟨false, rfl⟩ (h.values json)
  have hvisibility :
      (HiddenFields.ofTree? ((entries.lookup "visibility").getD (.dict []))).isSome := by
    rw [HiddenFields.isSome_ofTree?_iff]
    exact getD_of_forall ⟨[], rfl, by simp⟩ h.visibility
  obtain ⟨visibility, hvisibility⟩ := Option.isSome_iff_exists.mp hvisibility
  let limits : Limits := { queryLength, top, selectFields, orderByFields }
  let logging : Logging := { level := levelText, json := jsonFlag }
  refine ⟨{ limits, visibility, logging }, ofTree?_dict_eq_some_iff.mpr
      ⟨h.sections, Limits.ofTree?_eq_some_iff.mpr ⟨hlimits, ?_⟩, hvisibility,
        Logging.ofTree?_eq_some_iff.mpr ⟨hlogging, ?_⟩⟩⟩
  · simp only [slot_getD_dict_nil]
    exact ⟨hqueryLength, htop, hselectFields, horderByFields⟩
  · simp only [slot_getD_dict_nil]
    exact ⟨hlevel, hjson⟩

theorem Fits.of_under {merged other : Tree} (h : Fits other)
    (hunder : ∀ name, name ≠ "visibility" → merged.under name = other.under name)
    (hvisibility : ∀ t ∈ merged.under "visibility", ∃ entries, t = .dict entries ∧
      ∀ e ∈ entries, ∃ names : List String, e.2 = .list (names.map .text)) : Fits merged where
  sections e he := by
    by_cases hname : e.1 = "visibility"
    · rw [hname]
      decide
    · obtain ⟨t, ht⟩ := exists_under_of_mem he
      rw [hunder _ hname] at ht
      exact h.sections (e.1, t) (mem_of_lookup ht)
  limits := hunder "limits" (by decide) ▸ h.limits
  logging := hunder "logging" (by decide) ▸ h.logging
  visibility := hvisibility
  values k t ht := by
    have hsection : k.sectionName ≠ "visibility" := by cases k <;> decide
    rw [given, hunder _ hsection] at ht
    exact h.values k t ht

/-! ## Two sources -/

theorem fileTree?_spec {yaml : Option String} {file : Tree} (h : fileTree? yaml = some file) :
    file.Distinct ∧ ∃ entries, file = .dict entries := by
  cases yaml with
  | none =>
    cases h
    exact ⟨distinct_dict_nil, [], rfl⟩
  | some text => exact ofYaml?_spec h

theorem merge_eq_iff_of_ne_dict {old new t : Tree} (ht : ∀ entries, t ≠ .dict entries) :
    merge old new = t ↔ new = t := by
  cases new with
  | dict entries => exact ⟨fun h => absurd h.symm (ht _), fun h => absurd h.symm (ht _)⟩
  | _ => rw [merge]

theorem getD_given_merge {lower upper : Tree} (hdistinct : upper.Distinct)
    (hdict : ∃ entries, upper = .dict entries) (k : Setting) {default t : Tree}
    (ht : ∀ entries, t ≠ .dict entries) :
    (k.given (merge lower upper)).getD default = t ↔ (k.layered lower upper).getD default = t := by
  rw [given, under_merge hdistinct hdict, layered]
  have hsection : ∀ whole ∈ upper.under k.sectionName, whole.Distinct := by
    obtain ⟨entries, rfl⟩ := hdict
    exact fun whole hwhole => hdistinct.of_lookup hwhole
  cases hupper : upper.under k.sectionName with
  | none => rfl
  | some section_ =>
    dsimp only
    rw [Option.bind_some]
    cases section_ with
    | dict entries =>
      rw [merge_dict, slot, lookup_mergeEntries (hsection _ hupper).keys]
      dsimp only
      cases entries.lookup k.name with
      | none => rfl
      | some value =>
        rw [Option.getD_some, Option.some_or, Option.getD_some, merge_eq_iff_of_ne_dict ht]
    | _ => rw [merge]

theorem given_of_isKeyed {k : Setting} {source : Tree} (h : k.IsKeyed source) :
    k.given source = source.field k.sectionName k.name := by
  rw [given, field]
  cases hsection : source.under k.sectionName with
  | none => rfl
  | some t =>
    obtain ⟨entries, rfl⟩ := h t hsection
    rfl

theorem layered_of_isKeyed {k : Setting} {lower upper : Tree} (hlower : k.IsKeyed lower)
    (hupper : k.IsKeyed upper) : k.layered lower upper = (k.given upper).or (k.given lower) := by
  rw [layered]
  cases hsection : upper.under k.sectionName with
  | none =>
    have hnone : k.given upper = none := by rw [given, hsection, Option.bind_none]
    rw [hnone, Option.none_or]
  | some t =>
    obtain ⟨entries, rfl⟩ := hupper t hsection
    rw [given_of_isKeyed hlower, given, hsection]
    rfl

theorem load?_eq_of_fileTree? {yaml : Option String} {file : Tree}
    (h : fileTree? yaml = some file) (environment : List (String × String)) :
    load? yaml environment = ofTree? (merge file (Environment.tree environment)) := by
  rw [load?, h]
  exact congrArg ofTree? (mergeAll_pair (fileTree?_spec h).1 _)

theorem Setting.value_override (k : Setting) (s : Settings) (o : Overrides) :
    k.value (s.override o) = (k.commanded o).getD (k.value s) := by
  cases k with
  | level =>
    simp only [value, override, commanded]
    cases levelOf o.verbosity <;> rfl
  | _ => rfl

section load

variable {yaml : Option String} {file : Tree} {environment : List (String × String)}

theorem isSome_load?_iff (hfile : fileTree? yaml = some file) :
    (load? yaml environment).isSome ↔ Fits (mergeAll [file, Environment.tree environment]) := by
  obtain ⟨entries, hdict⟩ := Environment.exists_entries_merge_tree file environment
  rw [load?_eq_of_fileTree? hfile, mergeAll_pair (fileTree?_spec hfile).1, hdict,
    Option.isSome_iff_exists]
  exact ⟨fun ⟨s, h⟩ => fits_of_ofTree? h, exists_ofTree?_of_fits⟩

theorem value_of_load? (hfile : fileTree? yaml = some file) {s : Settings}
    (h : load? yaml environment = some s) (k : Setting) :
    (k.layered file (Environment.tree environment)).getD k.default = k.value s := by
  have hdict := Environment.exists_entries_tree environment
  have hdistinct := Environment.distinct_tree environment
  rw [load?_eq_of_fileTree? hfile] at h
  rw [← getD_given_merge hdistinct hdict k (k.value_ne_dict s)]
  obtain ⟨entries, hdict⟩ := hdict
  rw [hdict, merge_dict] at h ⊢
  exact value_of_ofTree? h k

theorem value_override_of_load? (hfile : fileTree? yaml = some file) {s : Settings}
    (h : load? yaml environment = some s) (k : Setting) (o : Overrides) :
    k.value (s.override o) =
      ((k.commanded o).or (k.layered file (Environment.tree environment))).getD k.default := by
  rw [Setting.value_override, ← value_of_load? hfile h]
  cases k.commanded o <;> rfl

theorem given_tree_of_load? (hfile : fileTree? yaml = some file) {s : Settings}
    (h : load? yaml environment = some s) {k : Setting}
    (hkeyed : ∀ variable_ ∈ environment, Environment.path? variable_.1 ≠ some [k.sectionName]) :
    k.given (Environment.tree environment) =
      Environment.last? [k.sectionName, k.name] environment := by
  have hsection := Environment.exists_entries_of_under_tree hkeyed
  rw [given_of_isKeyed hsection]
  rcases Environment.field_tree hkeyed k.name with hlast | ⟨⟨entries, hdict⟩, -⟩
  · exact hlast
  · have hvalue := value_of_load? hfile h k
    have hlayered : k.layered file (Environment.tree environment) = some (.dict entries) := by
      rw [layered]
      rw [field] at hdict
      cases hunder : (Environment.tree environment).under k.sectionName with
      | none =>
        rw [hunder] at hdict
        cases hdict
      | some t =>
        obtain ⟨fields, rfl⟩ := hsection t hunder
        rw [hunder] at hdict
        have hlookup : fields.lookup k.name = some (.dict entries) := hdict
        dsimp only
        rw [hlookup, Option.some_or]
    rw [hlayered, Option.getD_some] at hvalue
    exact absurd hvalue.symm (k.value_ne_dict s entries)

theorem load?_eq_none_of_not_fits (hfile : fileTree? yaml = some file)
    (h : ¬Fits (mergeAll [file, Environment.tree environment])) : load? yaml environment = none := by
  rwa [← Option.not_isSome_iff_eq_none, isSome_load?_iff hfile]

end load

theorem Fits.exists_setting {merged : Tree} (h : Fits merged) {k : Setting} {entries : Tree.Entries}
    (hsection : merged.under k.sectionName = some (.dict entries)) :
    ∀ e ∈ entries, ∃ k' : Setting, k'.sectionName = k.sectionName ∧ k'.name = e.1 := by
  have hnames : ∀ {names : List String}, (Tree.dict entries).IsSection names →
      ∀ e ∈ entries, e.1 ∈ names := by
    rintro names (⟨entries', heq, hnames⟩ | ⟨items, heq⟩)
    · cases heq
      exact hnames
    · cases heq
  have hlimits : merged.under "limits" = some (.dict entries) →
      ∀ e ∈ entries, ∃ k' : Setting, k'.sectionName = "limits" ∧ k'.name = e.1 := by
    intro hunder e he
    have hmem := hnames (h.limits _ hunder) e he
    simp only [Limits.memberNames, List.mem_cons, List.not_mem_nil, or_false] at hmem
    rcases hmem with heq | heq | heq | heq
    · exact ⟨queryLength, rfl, heq.symm⟩
    · exact ⟨top, rfl, heq.symm⟩
    · exact ⟨selectFields, rfl, heq.symm⟩
    · exact ⟨orderByFields, rfl, heq.symm⟩
  have hlogging : merged.under "logging" = some (.dict entries) →
      ∀ e ∈ entries, ∃ k' : Setting, k'.sectionName = "logging" ∧ k'.name = e.1 := by
    intro hunder e he
    have hmem := hnames (h.logging _ hunder) e he
    simp only [List.mem_cons, List.not_mem_nil, or_false] at hmem
    rcases hmem with heq | heq
    · exact ⟨level, rfl, heq.symm⟩
    · exact ⟨json, rfl, heq.symm⟩
  cases k with
  | level => exact hlogging hsection
  | json => exact hlogging hsection
  | _ => exact hlimits hsection

theorem Setting.path?_variableName (k : Setting) :
    Environment.path? k.variableName = some [k.sectionName, k.name] := by
  cases k <;> rfl

/-- The sources that load are those whose merge fits, and what is loaded and commanded is, setting by
setting, what the command line says, else what the environment and the document say together, else
the default. Where both give a section field by field, the environment prevails over the document,
and a setting is the same whatever else they say; the environment gives it by its variable, unless
one gives the whole section. An unknown name in the merge keeps it from loading. -/
theorem load?_layered {yaml : Option String} {file : Tree} (hfile : fileTree? yaml = some file)
    (environment : List (String × String)) :
    ((load? yaml environment).isSome ↔ Fits (mergeAll [file, Environment.tree environment])) ∧
    (∀ s o, load? yaml environment = some s → ∀ k : Setting,
      k.value (s.override o) =
        ((k.commanded o).or (k.layered file (Environment.tree environment))).getD k.default) ∧
    (∀ k : Setting, k.IsKeyed file → k.IsKeyed (Environment.tree environment) →
      k.layered file (Environment.tree environment) =
        (k.given (Environment.tree environment)).or (k.given file)) ∧
    (∀ s, load? yaml environment = some s → ∀ k : Setting,
      (∀ variable_ ∈ environment, Environment.path? variable_.1 ≠ some [k.sectionName]) →
        ∃ path, Environment.path? k.variableName = some path ∧
          k.given (Environment.tree environment) = Environment.last? path environment) ∧
    (∀ yaml' file' environment', fileTree? yaml' = some file' → ∀ s s' o o',
      load? yaml environment = some s → load? yaml' environment' = some s' → ∀ k : Setting,
        (∀ source ∈ [file, file', Environment.tree environment, Environment.tree environment'],
          k.IsKeyed source) →
        k.given file = k.given file' →
        k.given (Environment.tree environment) = k.given (Environment.tree environment') →
        k.commanded o = k.commanded o' → k.value (s.override o) = k.value (s'.override o')) ∧
    ((∃ e ∈ (mergeAll [file, Environment.tree environment]).entries, e.1 ∉ sectionNames) →
      load? yaml environment = none) ∧
    ∀ k : Setting, ∀ entries, (mergeAll [file, Environment.tree environment]).under k.sectionName =
      some (.dict entries) →
      (∃ e ∈ entries, ∀ k' : Setting, k'.sectionName = k.sectionName → e.1 ≠ k'.name) →
        load? yaml environment = none := by
  refine ⟨isSome_load?_iff hfile, fun s o h k => value_override_of_load? hfile h k o,
    fun k => layered_of_isKeyed, fun s h k hkeyed =>
      ⟨_, k.path?_variableName, given_tree_of_load? hfile h hkeyed⟩, ?_, ?_, ?_⟩
  · intro yaml' file' environment' hfile' s s' o o' h h' k hkeyed hgiven hgiven' hcommanded
    rw [value_override_of_load? hfile h, value_override_of_load? hfile' h', hcommanded,
      layered_of_isKeyed (hkeyed _ (by simp)) (hkeyed _ (by simp)),
      layered_of_isKeyed (hkeyed _ (by simp)) (hkeyed _ (by simp)), hgiven, hgiven']
  · rintro ⟨e, he, hunknown⟩
    exact load?_eq_none_of_not_fits hfile fun hfits => hunknown (hfits.sections e he)
  · rintro k entries hsection ⟨e, he, hunknown⟩
    refine load?_eq_none_of_not_fits hfile fun hfits => ?_
    obtain ⟨k', hsame, hname⟩ := hfits.exists_setting hsection e he
    exact hunknown k' hsame hname.symm

/-- The environment gives the level, and the document the format. -/
theorem load?_layered_level_above_json :
    ∃ file s, fileTree? (some "logging:\n  level: info\n  json: true\n") = some file ∧
      load? (some "logging:\n  level: info\n  json: true\n")
        [("ODATA_ADAPT__LOGGING__LEVEL", "debug")] = some s ∧
      s.logging = { level := "debug", json := true } ∧
      ∀ k : Setting, k.value (s.override {}) = ((k.commanded {}).or (k.layered file
        (Environment.tree [("ODATA_ADAPT__LOGGING__LEVEL", "debug")]))).getD k.default := by
  obtain ⟨file, hfile⟩ := Option.isSome_iff_exists.mp
    (show (fileTree? (some "logging:\n  level: info\n  json: true\n")).isSome by decide +kernel)
  obtain ⟨s, hs, hlogging⟩ := Option.map_eq_some_iff.mp
    (show (load? (some "logging:\n  level: info\n  json: true\n")
      [("ODATA_ADAPT__LOGGING__LEVEL", "debug")]).map Settings.logging =
        some { level := "debug", json := true } by decide +kernel)
  exact ⟨file, s, hfile, hs, hlogging, (load?_layered hfile _).2.1 s {} hs⟩

/-- A document that gives the level in a list loses it to a variable for the format. -/
theorem level_lost_to_json :
    (load? (some "logging: [debug]\n") []).map Settings.logging = some { level := "debug" } ∧
      (load? none [("ODATA_ADAPT__LOGGING__JSON", "true")]).map Settings.logging =
        some { json := true } ∧
      (load? (some "logging: [debug]\n") [("ODATA_ADAPT__LOGGING__JSON", "true")]).map
        Settings.logging = some { level := "warn", json := true } := by
  decide +kernel

end Settings
end RowQuery
