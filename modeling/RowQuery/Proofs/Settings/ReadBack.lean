import RowQuery.Proofs.Settings.Hidden
import RowQuery.Proofs.Settings.Printed

/-!
# Settings read back from their printed text

Blanks at the end of a text that is written plain are not read, and a plain value is otherwise read
as the text that it is. So the printed settings load as they were exactly if no plain text in them
ends with a blank, and their text is readable at all.
-/
namespace RowQuery.Settings

open Yaml Yaml.Lexer Setting

variable {s : Settings}

/-! ## What is lost -/

/-- No blank ends a key that is written plain. -/
def KeyKept (recordType : String) : Prop :=
  Plain.isKey recordType.toList = true → recordType.toList.getLast? ≠ some ' '

def ValueKept (text : String) : Prop :=
  Style.ofValue text.toList = .plain → text.toList.getLast? ≠ some ' '

instance (recordType : String) : Decidable (KeyKept recordType) :=
  inferInstanceAs (Decidable (_ → _))

instance (text : String) : Decidable (ValueKept text) := inferInstanceAs (Decidable (_ → _))

theorem ofList_kept_eq_iff {text : String} :
    String.ofList (Plain.kept text.toList) = text ↔ text.toList.getLast? ≠ some ' ' := by
  rw [← String.toList_inj, String.toList_ofList]
  exact ⟨fun h => h ▸ Plain.getLast?_kept _, Plain.kept_of_getLast?⟩

theorem keyKept_of_keyName {recordType other : String} (h : (keyName other).2 = recordType) :
    KeyKept recordType := by
  intro hkey
  rw [keyName] at h
  split at h
  · rw [← h, String.toList_ofList]
    exact Plain.getLast?_kept _
  · rename_i hother
    rw [← show other = recordType from h] at hkey
    exact absurd hkey hother

theorem keyName_of_keyKept {recordType : String} (h : KeyKept recordType) :
    (keyName recordType).2 = recordType := by
  rw [keyName]
  split
  · rename_i hkey
    exact ofList_kept_eq_iff.mpr (h hkey)
  · rfl

theorem valueKept_of_valueTree {text other : String} (h : valueTree other = .text text) :
    ValueKept text := by
  intro hstyle
  rw [valueTree] at h
  split at h
  · rw [← eq_of_plainTree_eq_text h, String.toList_ofList]
    exact Plain.getLast?_kept _
  · rename_i hother
    rw [← Tree.text.inj h] at hstyle
    exact absurd hstyle hother

theorem valueTree_of_valueKept {text : String} (h : ValueKept text) :
    valueTree text = .text text := by
  rw [valueTree]
  split
  · rename_i hstyle
    rw [ofList_kept_eq_iff.mpr (h hstyle)]
    exact plainTree_of_isValue (Style.isValue_of_ofValue (.inl hstyle))
  · rfl

theorem ofTree?_visibilityTree {t : HiddenFields}
    (hkeys : ∀ recordType ∈ t.recordTypes, KeyKept recordType)
    (hvalues : ∀ entry ∈ t.entries, ∀ name ∈ entry.2.toList, ValueKept name) :
    HiddenFields.ofTree? (visibilityTree t) = some t := by
  have hentries : (t.entries.map fun entry => ((keyName entry.1).2, namesTree entry.2)) =
      t.entries.map fun entry => (entry.1, .list (entry.2.toList.map .text)) := by
    refine List.map_congr_left fun entry hentry => ?_
    have htexts : entry.2.toList.map valueTree = entry.2.toList.map .text :=
      List.map_congr_left fun name hname => valueTree_of_valueKept (hvalues entry hentry name hname)
    rw [keyName_of_keyKept (hkeys _ (List.mem_map_of_mem hentry)), namesTree, htexts]
  have hnodup : ((t.entries.map fun entry =>
      (entry.1, Tree.list (entry.2.toList.map .text))).map Prod.fst).Nodup := by
    rw [List.map_map]
    exact t.nodup_recordTypes
  have hread : ∀ entry : String × NameSet,
      (Tree.texts? (.list (entry.2.toList.map .text))).map (entry.1, ·) =
        some (entry.1, entry.2.toList) := fun entry => by
    rw [Tree.texts?_eq_some_iff.mpr rfl, Option.map_some]
  rw [visibilityTree, hentries, mergeMembers_eq_self hnodup, HiddenFields.ofTree?, List.mapM_map]
  simp only [Function.comp_def, hread]
  rw [← Option.pure_def, List.mapM_pure]
  exact congrArg some t.ofMembers_entries

theorem kept_of_ofTree?_visibilityTree {t : HiddenFields}
    (h : HiddenFields.ofTree? (visibilityTree t) = some t) :
    (∀ recordType ∈ t.recordTypes, KeyKept recordType) ∧
      ∀ entry ∈ t.entries, ∀ name ∈ entry.2.toList, ValueKept name := by
  have hread : ∀ entry ∈ t.entries, ∃ other ∈ t.entries, (keyName other.1).2 = entry.1 ∧
      ∃ names : List String, entry.2 = NameSet.ofList names ∧
        other.2.toList.map valueTree = names.map .text := by
    intro entry hentry
    obtain ⟨names, hfind, hlookup⟩ :=
      HiddenFields.find?_of_ofTree? (nodup_keys_mergeMembers _) h entry.1
    rw [HiddenFields.find?, lookup_of_mem t.nodup_recordTypes hentry] at hfind
    obtain ⟨names, rfl, hnames⟩ := Option.map_eq_some_iff.mp hfind.symm
    rw [Option.map_some] at hlookup
    obtain ⟨other, hother, heq⟩ :=
      List.mem_map.mp (mem_of_mem_mergeMembers (mem_of_lookup hlookup))
    obtain ⟨hkey, htree⟩ := Prod.mk.inj heq
    exact ⟨other, hother, hkey, names, hnames.symm, Tree.list.inj htree⟩
  -- A key that comes back was read from some key, so it has no blank to lose. Once no key loses
  -- one, the entry that a key comes back from is its own.
  have hkeys : ∀ recordType ∈ t.recordTypes, KeyKept recordType := by
    refine List.forall_mem_map.mpr fun entry hentry => ?_
    obtain ⟨other, -, hkey, -⟩ := hread entry hentry
    exact keyKept_of_keyName hkey
  refine ⟨hkeys, fun entry hentry name hname => ?_⟩
  obtain ⟨other, hother, hkey, names, hnames, htrees⟩ := hread entry hentry
  rw [keyName_of_keyKept (hkeys _ (List.mem_map_of_mem hother))] at hkey
  obtain rfl : other = entry := List.inj_on_of_nodup_map t.nodup_recordTypes hother hentry hkey
  rw [hnames, NameSet.mem_ofList] at hname
  have hmem : Tree.text name ∈ other.2.toList.map valueTree := htrees ▸ List.mem_map_of_mem hname
  obtain ⟨written, -, hwritten⟩ := List.mem_map.mp hmem
  exact valueKept_of_valueTree hwritten

theorem ofTree?_limitLines (l : Limits) :
    Limits.ofTree? (.dict (lineMembers (limitLines l))) = some l := by
  rw [Limits.ofTree?_eq_some_iff, lineMembers_limitLines]
  refine ⟨.inl ⟨_, rfl, ?_⟩, rfl, rfl, rfl, rfl⟩
  simp [Limits.memberNames]

theorem ofTree?_loggingLines_iff (l : Logging) :
    Logging.ofTree? (.dict (lineMembers (loggingLines l))) = some l ↔ ValueKept l.level := by
  rw [Logging.ofTree?_eq_some_iff, lineMembers_loggingLines]
  constructor
  · rintro ⟨-, hlevel, -⟩
    exact valueKept_of_valueTree hlevel
  · intro hlevel
    exact ⟨.inl ⟨_, rfl, by simp⟩, valueTree_of_valueKept hlevel, rfl⟩

theorem ofTree?_printedTree_iff :
    ofTree? s.printedTree = some s ↔
      (∀ recordType ∈ s.visibility.recordTypes, KeyKept recordType) ∧
        ∀ text ∈ s.values, ValueKept text := by
  have hvalues : (∀ text ∈ s.values, ValueKept text) ↔
      (∀ entry ∈ s.visibility.entries, ∀ name ∈ entry.2.toList, ValueKept name) ∧
        ValueKept s.logging.level := by
    simp only [values, List.forall_mem_append, List.forall_mem_singleton, List.mem_flatMap]
    refine and_congr_left fun _ => ⟨fun h entry hentry name hname => ?_, ?_⟩
    · exact h name ⟨entry, hentry, hname⟩
    · rintro h name ⟨entry, hentry, hname⟩
      exact h entry hentry name hname
  rw [printedTree, ofTree?_dict_eq_some_iff, hvalues, ← ofTree?_loggingLines_iff]
  constructor
  · rintro ⟨-, -, hvisibility, hlogging⟩
    obtain ⟨hkeys, hnames⟩ := kept_of_ofTree?_visibilityTree hvisibility
    exact ⟨hkeys, hnames, hlogging⟩
  · rintro ⟨hkeys, hnames, hlogging⟩
    exact ⟨by simp [sectionNames], ofTree?_limitLines s.limits,
      ofTree?_visibilityTree hkeys hnames, hlogging⟩

/-! ## The printed settings -/

theorem load?_eq_none_of_document? {text : String} (h : document? text = none)
    (environment : List (String × String)) : load? (some text) environment = none := by
  rw [load?, fileTree?, Tree.ofYaml?, h]
  rfl

theorem load?_toYaml (h : s.IsUnbroken) (hkeys : s.KeysFit)
    (hcharacters : ∀ text ∈ s.texts, AllCharacters text.toList) :
    load? (some s.toYaml) [] = ofTree? s.printedTree := by
  have hfile : fileTree? (some s.toYaml) = some s.printedTree :=
    ofYaml?_toYaml h hkeys ((all_isPrintable_toYaml_iff s).mpr hcharacters)
      (normalBreaks_of_isClean (keeps_toYaml s).clean)
  rw [load?_eq_of_fileTree? hfile]
  rfl

theorem load?_toYaml_eq_none_of_character
    (h : ¬∀ text ∈ s.texts, AllCharacters text.toList) :
    load? (some s.toYaml) [] = none := by
  rw [← all_isPrintable_toYaml_iff, Bool.not_eq_true] at h
  refine load?_eq_none_of_document? ?_ []
  rw [document?, h]
  rfl

theorem load?_toYaml_eq_none_of_key (h : s.IsUnbroken) (hkeys : ¬s.KeysFit) :
    load? (some s.toYaml) [] = none := by
  refine load?_eq_none_of_document? ?_ []
  rw [document?, normalBreaks_of_isClean (keeps_toYaml s).clean, tokens?_toYaml_eq_none h hkeys]
  split <;> rfl

/-- Settings whose texts are all read as they are. -/
structure ReadsBack (s : Settings) : Prop where
  characters : ∀ text ∈ s.texts, AllCharacters text.toList
  keysFit : s.KeysFit
  keys : ∀ recordType ∈ s.visibility.recordTypes, KeyKept recordType
  values : ∀ text ∈ s.values, ValueKept text

instance (s : Settings) : Decidable s.ReadsBack :=
  decidable_of_iff (_ ∧ _ ∧ _ ∧ _) ⟨fun h => ⟨h.1, h.2.1, h.2.2.1, h.2.2.2⟩,
    fun h => ⟨h.characters, h.keysFit, h.keys, h.values⟩⟩

/-- The printed settings load as they were, with no variables in the environment, exactly if no key
and no value that is written plain ends with a blank, every key is short enough to be one, and no
text has a code point that YAML forbids. -/
theorem load?_toYaml_eq_some_iff (h : s.IsUnbroken) :
    load? (some s.toYaml) [] = some s ↔ s.ReadsBack := by
  by_cases hcharacters : ∀ text ∈ s.texts, AllCharacters text.toList
  · by_cases hkeys : s.KeysFit
    · rw [load?_toYaml h hkeys hcharacters, ofTree?_printedTree_iff]
      exact ⟨fun ⟨hnames, hvalues⟩ => ⟨hcharacters, hkeys, hnames, hvalues⟩,
        fun hback => ⟨hback.keys, hback.values⟩⟩
    · rw [load?_toYaml_eq_none_of_key h hkeys]
      exact iff_of_false nofun fun hback => hkeys hback.keysFit
  · rw [load?_toYaml_eq_none_of_character hcharacters]
    exact iff_of_false nofun fun hback => hcharacters hback.characters

def quotedWords : Settings where
  limits := { top := some 5 }
  visibility := ⟨[("null", ⟨["1e3", "true"], by decide⟩)], List.pairwise_singleton _ _⟩
  logging := { level := "on" }

def trailingBlank : Settings where
  visibility := .ofMembers []
  logging := { level := "warn " }

theorem load?_toYaml_quoted_words_and_trailing_blank :
    (quotedWords.IsUnbroken ∧ load? (some quotedWords.toYaml) [] = some quotedWords) ∧
      trailingBlank.IsUnbroken ∧ load? (some trailingBlank.toYaml) [] ≠ some trailingBlank :=
  ⟨⟨by decide, (load?_toYaml_eq_some_iff (by decide)).mpr (by decide)⟩, by decide,
    fun h => absurd ((load?_toYaml_eq_some_iff (by decide)).mp h) (by decide)⟩

/-- The blank is lost, and nothing else. -/
theorem load?_toYaml_trailing_blank :
    load? (some trailingBlank.toYaml) [] =
      some { trailingBlank with logging := { level := "warn" } } := by
  rw [load?_toYaml (by decide) (by decide) (by decide)]
  rfl

end RowQuery.Settings
