import RowQuery.Proofs.Settings.Layers
import RowQuery.Proofs.Yaml.Characters
import RowQuery.Proofs.Yaml.Trees
import RowQuery.Proofs.Yaml.Words
import RowQuery.Settings.Printer

/-!
# The printed settings as a YAML text

The text is three sections of lines. Where no separator stands in it as it is, no key is too long
and every character may be in a YAML text, it is read as one tree; a key that is too long makes it
unreadable, and so does each of the code points U+FFFE and U+FFFF.
-/
namespace RowQuery.Settings

open Yaml Yaml.Lexer Setting

/-! ## The lines of the text -/

theorem toList_line (depth : Nat) (text : String) :
    (line depth text).toList = spaces (2 * depth) ++ text.toList ++ ['\n'] := by
  simp [line, spaces]

def wordLine (name value : String) (tree : Tree) : Line :=
  ⟨name.toList, (true, name), ' ' :: value.toList ++ ['\n'], tree⟩

theorem reads_wordLine {n c : Nat} {name value : String} {tree : Tree} (hname : IsWord name.toList)
    (hlength : name.utf8ByteSize ≤ maxKeyBytes) (hvalue : IsWord value.toList)
    (htree : plainTree value = tree) : (wordLine name value tree).Reads n c where
  names := names_word c hname
  length := by
    change (String.ofList name.toList).utf8ByteSize ≤ maxKeyBytes
    rwa [String.ofList_toList]
  gives := htree ▸ gives_word hvalue

/-! ### Limits -/

theorem isWord_limitText (l : Option UInt64) : IsWord (limitText l).toList := by
  cases l with
  | none => decide
  | some n =>
    have htext : (limitText (some n)).toList = Nat.toDigits 10 n.toNat := Nat.toList_repr
    rw [htext]
    refine ⟨Nat.toDigits_ne_nil, fun c hc => ?_⟩
    rw [isWordChar, Decimal.isDigit_of_mem_toDigits hc, Bool.true_or, Bool.true_or]

theorem plainTree_limitText (l : Option UInt64) : plainTree (limitText l) = limitTree l := by
  cases l with
  | none => rfl
  | some n => exact plainTree_toString (Nat.lt_trans n.toNat_lt (by decide))

def limitLines (l : Limits) : List Line :=
  (Limits.memberNames.zip [l.queryLength, l.top, l.selectFields, l.orderByFields]).map
    fun (name, limit) => wordLine name (limitText limit) (limitTree limit)

theorem reads_limitLines (n : Nat) (limits : Limits) : ∀ l ∈ limitLines limits, l.Reads n 2 := by
  have hnames : ∀ name ∈ Limits.memberNames,
      IsWord name.toList ∧ name.utf8ByteSize ≤ maxKeyBytes := by decide
  refine List.forall_mem_map.mpr fun (name, limit) hmem => ?_
  obtain ⟨hname, hlength⟩ := hnames name (List.of_mem_zip hmem).1
  exact reads_wordLine hname hlength (isWord_limitText limit) (plainTree_limitText limit)

theorem toList_limitsText (l : Limits) : (limitsText l).toList = keyLines 2 (limitLines l) := by
  rw [limitsText, String.toList_join, limitLines, keyLines, List.flatMap_map, List.flatMap_map]
  refine List.flatMap_congr fun (name, limit) _ => ?_
  simp [toList_line, Line.body, wordLine]

/-! ### Hidden fields -/

def namesText (afterItems : Bool) (names : NameSet) : List Char :=
  if names.isEmpty then
    if afterItems then '\n' :: (spaces 4 ++ ['[', ']', '\n']) else [' ', '[', ']', '\n']
  else '\n' :: itemLines 4 (names.toList.map fun name =>
    (' ' :: (writeValue 6 name).toList ++ ['\n'], valueTree name))

def namesTree (names : NameSet) : Tree := .list (names.toList.map valueTree)

theorem gives_namesText (n : Nat) (afterItems : Bool) {names : NameSet}
    (h : ∀ name ∈ names.toList, Style.ofValue name.toList ≠ .doubleQuoted → Unbroken name.toList) :
    Gives (n + 1) 3 (namesText afterItems names) (namesTree names) := by
  rw [namesText]
  split
  · rename_i hempty
    have htree : namesTree names = .list [] := by
      rw [namesTree, List.isEmpty_iff.mp hempty]
      rfl
    rw [htree]
    split
    · exact ⟨_, behind_brackets_below .sequence (by decide), denotes_emptySequence n⟩
    · exact ⟨_, behind_brackets .sequence, denotes_emptySequence n⟩
  · rename_i hempty
    have hne : names.toList ≠ [] := fun hnil => hempty (List.isEmpty_iff.mpr hnil)
    have hgives : ∀ item ∈ names.toList.map fun name =>
        (' ' :: (writeValue 6 name).toList ++ ['\n'], valueTree name),
          Gives n (4 + 1) item.1 item.2 :=
      List.forall_mem_map.mpr fun name hname => gives_writeValue (h name hname) (by decide)
    have hitems : Gives (n + 1) 3 _ _ :=
      gives_items (by simpa using hne) (by decide) (by decide) hgives
    rwa [List.map_map] at hitems

def entryLine (afterItems : Bool) (entry : String × NameSet) : Line :=
  ⟨(writeKey entry.1).toList, keyName entry.1, namesText afterItems entry.2, namesTree entry.2⟩

def entryLines (afterItems : Bool) : List (String × NameSet) → List Line
  | [] => []
  | entry :: rest => entryLine afterItems entry :: entryLines (!entry.2.isEmpty) rest

theorem toList_itemsText (names : List String) :
    (itemsText names).toList = itemLines 4 (names.map fun name =>
      (' ' :: (writeValue 6 name).toList ++ ['\n'], valueTree name)) := by
  rw [itemsText, String.toList_join, itemLines, List.flatMap_map, List.flatMap_map]
  refine List.flatMap_congr fun name _ => ?_
  simp [toList_line]

theorem toList_entriesText (afterItems : Bool) (entries : List (String × NameSet)) :
    (entriesText afterItems entries).toList = keyLines 2 (entryLines afterItems entries) := by
  induction entries generalizing afterItems with
  | nil => rfl
  | cons entry rest ih =>
    obtain ⟨recordType, names⟩ := entry
    rw [entriesText, entryLines, keyLines, List.flatMap_cons, ← keyLines, ← ih,
      String.toList_append]
    congr 1
    simp only [entryLine, Line.body, namesText]
    split
    · split <;> simp [toList_line]
    · simp [toList_line, toList_itemsText]

theorem lineMembers_entryLines (afterItems : Bool) (entries : List (String × NameSet)) :
    lineMembers (entryLines afterItems entries) =
      entries.map fun entry => ((keyName entry.1).2, namesTree entry.2) := by
  induction entries generalizing afterItems with
  | nil => rfl
  | cons entry rest ih =>
    rw [entryLines, lineMembers, List.map_cons, ← lineMembers, ih]
    rfl

def UnbrokenEntry (entry : String × NameSet) : Prop :=
  Unbroken entry.1.toList ∧
    ∀ name ∈ entry.2.toList, Style.ofValue name.toList ≠ .doubleQuoted → Unbroken name.toList

theorem reads_entryLine (n : Nat) (afterItems : Bool) {entry : String × NameSet}
    (h : UnbrokenEntry entry) (hlength : (writeKey entry.1).utf8ByteSize ≤ maxKeyBytes) :
    (entryLine afterItems entry).Reads (n + 1) 2 where
  names := names_keyName (by decide) h.1
  length := by
    change (String.ofList (writeKey entry.1).toList).utf8ByteSize ≤ maxKeyBytes
    rwa [String.ofList_toList]
  gives := gives_namesText n afterItems h.2

theorem reads_entryLines (n : Nat) (afterItems : Bool) {entries : List (String × NameSet)}
    (h : ∀ entry ∈ entries, UnbrokenEntry entry)
    (hlength : ∀ entry ∈ entries, (writeKey entry.1).utf8ByteSize ≤ maxKeyBytes) :
    ∀ l ∈ entryLines afterItems entries, l.Reads (n + 1) 2 := by
  induction entries generalizing afterItems with
  | nil => exact nofun
  | cons entry rest ih =>
    rw [List.forall_mem_cons] at h hlength
    exact List.forall_mem_cons.mpr
      ⟨reads_entryLine n afterItems h.1 hlength.1, ih _ h.2 hlength.2⟩

/-! ### Sections -/

def visibilitySection (t : HiddenFields) : List Char :=
  '\n' :: if t.entries.isEmpty then spaces 2 ++ ['\x7b', '\x7d', '\n']
    else keyLines 2 (entryLines false t.entries)

def visibilityTree (t : HiddenFields) : Tree :=
  .dict (mergeMembers (t.entries.map fun entry => ((keyName entry.1).2, namesTree entry.2)))

theorem gives_visibilitySection (n : Nat) {t : HiddenFields}
    (h : ∀ entry ∈ t.entries, UnbrokenEntry entry)
    (hlength : ∀ entry ∈ t.entries, (writeKey entry.1).utf8ByteSize ≤ maxKeyBytes) :
    Gives (n + 2) 1 (visibilitySection t) (visibilityTree t) := by
  rw [visibilitySection, visibilityTree, ← lineMembers_entryLines false]
  cases hentries : t.entries with
  | nil => exact ⟨_, behind_brackets_below .mapping (by decide), denotes_emptyMapping (n + 1)⟩
  | cons entry rest =>
    rw [hentries] at h hlength
    exact gives_mapping (by simp [entryLines]) (by decide) (reads_entryLines n false h hlength)

def loggingLines (l : Logging) : List Line :=
  [⟨"level".toList, (true, "level"), ' ' :: (writeValue 4 l.level).toList ++ ['\n'],
      valueTree l.level⟩,
    wordLine "json" (if l.json then "true" else "false") (.bool l.json)]

theorem toList_loggingText (l : Logging) :
    (loggingText l).toList = keyLines 2 (loggingLines l) := by
  simp [loggingText, loggingLines, keyLines, toList_line, Line.body, wordLine]

theorem reads_loggingLines (n : Nat) {logging : Logging}
    (h : Style.ofValue logging.level.toList ≠ .doubleQuoted → Unbroken logging.level.toList) :
    ∀ l ∈ loggingLines logging, l.Reads n 2 := by
  rw [loggingLines, List.forall_mem_cons, List.forall_mem_singleton]
  constructor
  · have hlength : (String.ofList "level".toList).utf8ByteSize ≤ maxKeyBytes := by decide
    exact ⟨names_word 2 (s := "level") (by decide), hlength, gives_writeValue h (by decide)⟩
  · cases logging.json
    · exact reads_wordLine (by decide) (by decide) (by decide) rfl
    · exact reads_wordLine (by decide) (by decide) (by decide) rfl

def sectionLine (name : String) (text : List Char) (tree : Tree) : Line :=
  ⟨name.toList, (true, name), text, tree⟩

def limitsSection (l : Limits) : Line :=
  sectionLine "limits" ('\n' :: keyLines 2 (limitLines l))
    (.dict (mergeMembers (lineMembers (limitLines l))))

def loggingSection (l : Logging) : Line :=
  sectionLine "logging" ('\n' :: keyLines 2 (loggingLines l))
    (.dict (mergeMembers (lineMembers (loggingLines l))))

def sectionLines (s : Settings) : List Line :=
  [limitsSection s.limits,
    sectionLine "visibility" (visibilitySection s.visibility) (visibilityTree s.visibility),
    loggingSection s.logging]

theorem toList_toYaml (s : Settings) : s.toYaml.toList = keyLines 0 (sectionLines s) := by
  have hvisibility : '\n' :: (visibilityText s.visibility).toList =
      visibilitySection s.visibility := by
    rw [visibilityText, visibilitySection]
    split
    · rfl
    · rw [toList_entriesText]
  simp [toYaml, sectionLines, keyLines, toList_line, Line.body, limitsSection, sectionLine,
    loggingSection, toList_limitsText, toList_loggingText, ← hvisibility]

/-! ## What is read -/

def values (s : Settings) : List String :=
  s.visibility.entries.flatMap (·.2.toList) ++ [s.logging.level]

/-- The separators U+2028 and U+2029 are in no key, and in no value but those in double quotes,
where they are escaped. -/
structure IsUnbroken (s : Settings) : Prop where
  keys : ∀ recordType ∈ s.visibility.recordTypes, Unbroken recordType.toList
  values : ∀ text ∈ s.values, Style.ofValue text.toList ≠ .doubleQuoted → Unbroken text.toList

instance (s : Settings) : Decidable s.IsUnbroken :=
  decidable_of_iff (_ ∧ _) ⟨fun h => ⟨h.1, h.2⟩, fun h => ⟨h.keys, h.values⟩⟩

def KeysFit (s : Settings) : Prop :=
  ∀ recordType ∈ s.visibility.recordTypes, (writeKey recordType).utf8ByteSize ≤ maxKeyBytes

instance (s : Settings) : Decidable s.KeysFit := inferInstanceAs (Decidable (∀ r ∈ _, _ ≤ _))

def printedTree (s : Settings) : Tree :=
  .dict [("limits", .dict (lineMembers (limitLines s.limits))),
    ("visibility", visibilityTree s.visibility),
    ("logging", .dict (lineMembers (loggingLines s.logging)))]

variable {s : Settings}

theorem IsUnbroken.entry (h : s.IsUnbroken) :
    ∀ entry ∈ s.visibility.entries, UnbrokenEntry entry := by
  intro entry hentry
  refine ⟨h.keys _ (List.mem_map_of_mem hentry), fun name hname => h.values name ?_⟩
  exact List.mem_append_left _ (List.mem_flatMap.mpr ⟨entry, hentry, hname⟩)

theorem reads_sectionLine {n : Nat} {name : String} {text : List Char} {tree : Tree}
    (hname : name ∈ sectionNames) (h : Gives n 1 text tree) :
    (sectionLine name text tree).Reads n 0 := by
  have hall : ∀ name ∈ sectionNames, IsWord name.toList ∧
      (String.ofList name.toList).utf8ByteSize ≤ maxKeyBytes := by decide
  exact ⟨names_word 0 (hall name hname).1, (hall name hname).2, h⟩

theorem reads_limitsSection (n : Nat) (l : Limits) : (limitsSection l).Reads (n + 1) 0 :=
  reads_sectionLine (by decide)
    (gives_mapping (by simp [limitLines, Limits.memberNames]) (by decide) (reads_limitLines n l))

theorem reads_sectionLines (h : s.IsUnbroken) (hkeys : s.KeysFit) :
    ∀ l ∈ sectionLines s, l.Reads (maxDepth - 1) 0 := by
  have hlength : ∀ entry ∈ s.visibility.entries, (writeKey entry.1).utf8ByteSize ≤ maxKeyBytes :=
    fun entry hentry => hkeys _ (List.mem_map_of_mem hentry)
  have hlevel := h.values s.logging.level (List.mem_append_right _ List.mem_cons_self)
  simp only [sectionLines, List.forall_mem_cons]
  refine ⟨reads_limitsSection (maxDepth - 2) s.limits, reads_sectionLine (by decide) ?_,
    reads_sectionLine (by decide) ?_, nofun⟩
  · exact gives_visibilitySection (maxDepth - 3) h.entry hlength
  · exact gives_mapping (n := maxDepth - 2) (by simp [loggingLines]) (by decide)
      (reads_loggingLines _ hlevel)

theorem lineMembers_limitLines (l : Limits) :
    lineMembers (limitLines l) = [("max_query_len", limitTree l.queryLength),
      ("max_top", limitTree l.top), ("max_select_fields", limitTree l.selectFields),
      ("max_orderby_fields", limitTree l.orderByFields)] := rfl

theorem lineMembers_loggingLines (l : Logging) :
    lineMembers (loggingLines l) = [("level", valueTree l.level), ("json", .bool l.json)] := rfl

theorem ofYaml?_toYaml (h : s.IsUnbroken) (hkeys : s.KeysFit)
    (hprintable : s.toYaml.toList.all isPrintable = true)
    (hbreaks : normalBreaks s.toYaml.toList = s.toYaml.toList) :
    Tree.ofYaml? s.toYaml = some s.printedTree := by
  have hmembers : lineMembers (sectionLines s) =
      [("limits", .dict (lineMembers (limitLines s.limits))),
        ("visibility", visibilityTree s.visibility),
        ("logging", .dict (lineMembers (loggingLines s.logging)))] := by
    have hlimits : mergeMembers (lineMembers (limitLines s.limits)) = _ :=
      mergeMembers_eq_self (by simp [lineMembers_limitLines])
    have hlogging : mergeMembers (lineMembers (loggingLines s.logging)) = _ :=
      mergeMembers_eq_self (by simp [lineMembers_loggingLines])
    rw [← hlimits, ← hlogging]
    rfl
  rw [ofYaml?_keyLines (by simp [sectionLines]) (reads_sectionLines h hkeys) (toList_toYaml s)
    hprintable hbreaks, hmembers, mergeMembers_eq_self]
  · rfl
  · simp

/-! ## Characters -/

def texts (s : Settings) : List String :=
  s.visibility.entries.flatMap (fun entry => entry.1 :: entry.2.toList) ++ [s.logging.level]

theorem keeps_line {source : List Char} {depth : Nat} {text : String}
    (h : Keeps source text.toList) : Keeps source (line depth text).toList := by
  have hspaces : Keeps [] (spaces (2 * depth)) :=
    keeps_ascii fun c hc => by rw [mem_spaces hc]; decide
  have hend : Keeps [] ['\n'] := keeps_ascii (by decide)
  rw [toList_line]
  simpa using (hspaces.append h).append hend

theorem keeps_word {text : String} (h : IsWord text.toList) : Keeps [] text.toList := by
  have hascii : ∀ n < 128, isWordChar (Char.ofNat n) = true → IsAscii (Char.ofNat n) := by decide
  refine keeps_ascii fun c hc => ?_
  have hword := h.2 c hc
  have hc := hascii c.toNat (toNat_lt_of_isWordChar hword)
  rw [Char.ofNat_toNat] at hc
  exact hc hword

theorem keeps_limitsText (l : Limits) : Keeps [] (limitsText l).toList := by
  have hnames : ∀ name ∈ Limits.memberNames, IsWord name.toList := by decide
  have hline : ∀ field ∈
      Limits.memberNames.zip [l.queryLength, l.top, l.selectFields, l.orderByFields],
        Keeps [] (line 1 (field.1 ++ ": " ++ limitText field.2)).toList := by
    intro field hfield
    have hname := keeps_word (hnames field.1 (List.of_mem_zip hfield).1)
    have hcolon : Keeps [] ": ".toList := keeps_ascii (by decide)
    refine keeps_line ?_
    simpa using (hname.append hcolon).append (keeps_word (isWord_limitText field.2))
  rw [limitsText, String.toList_join, List.flatMap_map]
  exact Keeps.flatMap hline

theorem keeps_itemsText (names : List String) :
    Keeps (names.flatMap String.toList) (itemsText names).toList := by
  rw [itemsText, String.toList_join, List.flatMap_map]
  refine Keeps.flatMap fun name _ => keeps_line ?_
  rw [String.toList_append]
  exact (keeps_ascii (by decide)).append (keeps_writeValue 6 name)

theorem keeps_entriesText (afterItems : Bool) (entries : List (String × NameSet)) :
    Keeps (entries.flatMap fun entry => entry.1.toList ++ entry.2.toList.flatMap String.toList)
      (entriesText afterItems entries).toList := by
  induction entries generalizing afterItems with
  | nil => exact keeps_ascii nofun
  | cons entry rest ih =>
    obtain ⟨recordType, names⟩ := entry
    have hkey : ∀ mark : String, AllAscii mark.toList →
        Keeps recordType.toList (line 1 (writeKey recordType ++ mark)).toList := by
      intro mark hmark
      refine keeps_line ?_
      simpa using (keeps_writeKey recordType).append (keeps_ascii hmark)
    rw [entriesText, String.toList_append, List.flatMap_cons]
    refine Keeps.append ?_ (ih _)
    split
    · rename_i hempty
      rw [List.isEmpty_iff.mp hempty, List.flatMap_nil, List.append_nil]
      split
      · have hbrackets : Keeps [] (line 2 "[]").toList := keeps_line (keeps_ascii (by decide))
        simpa using (hkey ":" (by decide)).append hbrackets
      · simpa [String.append_assoc] using hkey ": []" (by decide)
    · rw [String.toList_append]
      exact (hkey ":" (by decide)).append (keeps_itemsText _)

theorem keeps_visibilityText (t : HiddenFields) :
    Keeps (t.entries.flatMap fun entry => entry.1.toList ++ entry.2.toList.flatMap String.toList)
      (visibilityText t).toList := by
  rw [visibilityText]
  split
  · rename_i hempty
    rw [List.isEmpty_iff.mp hempty]
    exact keeps_line (keeps_ascii (by decide))
  · exact keeps_entriesText false t.entries

theorem keeps_loggingText (l : Logging) : Keeps l.level.toList (loggingText l).toList := by
  have hlevel : Keeps l.level.toList (line 1 ("level: " ++ writeValue 4 l.level)).toList := by
    refine keeps_line ?_
    rw [String.toList_append]
    exact (keeps_ascii (by decide)).append (keeps_writeValue 4 l.level)
  have hjson : Keeps [] (line 1 ("json: " ++ if l.json then "true" else "false")).toList := by
    cases l.json <;> exact keeps_line (keeps_ascii (by decide))
  rw [loggingText, String.toList_append]
  simpa using hlevel.append hjson

theorem keeps_toYaml (s : Settings) : Keeps (s.texts.flatMap String.toList) s.toYaml.toList := by
  have hname : ∀ name ∈ ["limits:", "visibility:", "logging:"], Keeps [] (line 0 name).toList := by
    have hascii : ∀ name ∈ ["limits:", "visibility:", "logging:"], AllAscii name.toList := by decide
    exact fun name hmem => keeps_line (keeps_ascii (hascii name hmem))
  have hkeeps := (((((hname "limits:" (by decide)).append (keeps_limitsText s.limits)).append
    (hname "visibility:" (by decide))).append (keeps_visibilityText s.visibility)).append
      (hname "logging:" (by decide))).append (keeps_loggingText s.logging)
  simpa [toYaml, texts, List.flatMap_assoc] using hkeeps

theorem all_isPrintable_toYaml_iff (s : Settings) :
    s.toYaml.toList.all isPrintable = true ↔
      ∀ text ∈ s.texts, AllCharacters text.toList := by
  have hkeeps := keeps_toYaml s
  rw [List.all_eq_true]
  constructor
  · intro h text htext c hc
    rw [← Bool.not_eq_true]
    intro hnon
    have hmem := (hkeeps.mem_iff c hnon).mpr (List.mem_flatMap.mpr ⟨text, htext, hc⟩)
    have hprintable := h c hmem
    rw [isPrintable_of_isClean (hkeeps.clean c hmem), hnon] at hprintable
    cases hprintable
  · intro h c hc
    rw [isPrintable_of_isClean (hkeeps.clean c hc), Bool.not_eq_true']
    rw [← Bool.not_eq_true]
    intro hnon
    obtain ⟨text, htext, hmem⟩ := List.mem_flatMap.mp ((hkeeps.mem_iff c hnon).mp hc)
    rw [h text htext c hmem] at hnon
    cases hnon

/-! ## Keys that are too long -/

theorem exists_unread_entries (afterItems : Bool) {entries : List (String × NameSet)}
    (h : ∀ entry ∈ entries, UnbrokenEntry entry)
    (hlong : ∃ entry ∈ entries, maxKeyBytes < (writeKey entry.1).utf8ByteSize) :
    ∃ text, keyLines 2 (entryLines afterItems entries) = spaces 2 ++ text ∧ Unread 2 text ∧
      Continues 2 text ∧ text ≠ [] := by
  -- The entries before the first key that is too long are read; what comes behind it is not.
  induction entries generalizing afterItems with
  | nil => simp at hlong
  | cons entry rest ih =>
    rw [List.forall_mem_cons] at h
    have hnames := names_keyName (c := 2) (by decide) h.1.1
    have hapart := (gives_namesText 0 afterItems h.1.2).apart
    have htext : keyLines 2 (entryLines afterItems (entry :: rest)) =
        spaces 2 ++ ((entryLine afterItems entry).body ++
          keyLines 2 (entryLines (!entry.2.isEmpty) rest)) := by
      rw [entryLines, keyLines, List.flatMap_cons, List.append_assoc]
      rfl
    refine ⟨_, htext, ?_, ?_, ?_⟩
    · by_cases hlength : maxKeyBytes < (writeKey entry.1).utf8ByteSize
      · refine (unread_key hnames ?_ hapart).append _
        rwa [String.ofList_toList]
      · have hrest : ∃ entry ∈ rest, maxKeyBytes < (writeKey entry.1).utf8ByteSize := by
          obtain ⟨long, hmem, hlong⟩ := hlong
          rcases List.mem_cons.mp hmem with rfl | hmem
          · exact absurd hlong hlength
          · exact ⟨long, hmem, hlong⟩
        obtain ⟨text, heq, hunread, hfront, hne⟩ := ih (!entry.2.isEmpty) h.2 hrest
        obtain ⟨tokens, hentry, -⟩ :=
          (reads_entryLine 0 afterItems h.1 (Nat.not_lt.mp hlength)).exists_entry
        rw [heq]
        exact hunread.after hentry hfront hne
    · exact (hnames.front.append hnames.ne _).append (by simp) _
    · simp [Line.body]

theorem tokens?_toYaml_eq_none (h : s.IsUnbroken) (hkeys : ¬s.KeysFit) :
    tokens? s.toYaml.toList = none := by
  have hlong : ∃ entry ∈ s.visibility.entries, maxKeyBytes < (writeKey entry.1).utf8ByteSize := by
    simpa [KeysFit, HiddenFields.recordTypes] using hkeys
  have hne : s.visibility.entries.isEmpty = false := by
    obtain ⟨entry, hmem, -⟩ := hlong
    simpa using List.ne_nil_of_mem hmem
  obtain ⟨text, htext, hunread, hfront, hempty⟩ := exists_unread_entries false h.entry hlong
  have hname : Names 0 "visibility".toList (.scalar true "visibility") := names_word 0 (by decide)
  obtain ⟨tokens, hentry, -⟩ := (reads_limitsSection 0 s.limits).exists_entry
  have hbelow := hunread.below hname (by decide) (by decide) hfront hempty
  have hunread := (hbelow.after hentry (hname.front.append hname.ne _) (by simp)).append
    (loggingSection s.logging).body
  have hvisibility : visibilitySection s.visibility = '\n' :: (spaces 2 ++ text) := by
    rw [visibilitySection, hne, htext]
    rfl
  have hsplit : s.toYaml.toList = (limitsSection s.limits).body ++ (spaces 0 ++
      ("visibility".toList ++ ':' :: '\n' :: (spaces 2 ++ text))) ++
        (loggingSection s.logging).body := by
    rw [toList_toYaml, sectionLines, hvisibility]
    simp [keyLines, spaces, sectionLine, Line.body]
  rw [hsplit]
  exact hunread.tokens?

end RowQuery.Settings
