import RowQuery.Proofs.Yaml.Denotes
import RowQuery.Proofs.Yaml.Written

/-!
# Trees of written texts

A text behind a mark gives a tree if its tokens denote it. Lines with a key and what it stands for
give a dictionary of their trees, items a list. A line whose key is too long makes the whole text
unreadable, wherever it stands.
-/
namespace RowQuery.Yaml

namespace Lexer

variable {n least c k : Nat} {text more : List Char} {tree : Tree}

/-- This text behind a mark, where it has this column at least, gives this tree, with collections at
most so deep in it. -/
def Gives (n least : Nat) (text : List Char) (tree : Tree) : Prop :=
  ∃ tokens, Behind least text tokens ∧ Denotes n tokens tree

theorem Gives.apart (h : Gives n least text tree) : text.head?.any isSpace = true := by
  obtain ⟨tokens, hbehind, -⟩ := h
  exact hbehind.apart

def valueTree (s : String) : Tree :=
  if Style.ofValue s.toList = .plain then plainTree (String.ofList (Plain.kept s.toList))
  else .text s

theorem gives_writeValue {s : String}
    (hs : Style.ofValue s.toList ≠ .doubleQuoted → Unbroken s.toList) (hk : least ≤ k) :
    Gives n least (' ' :: (writeValue k s).toList ++ ['\n']) (valueTree s) := by
  refine ⟨_, behind_writeValue hs hk, ?_⟩
  rw [valueToken, valueTree]
  split
  · exact denotes_scalar n true _
  · rw [String.ofList_toList]
    exact denotes_scalar n false s

def keyName (s : String) : Bool × String :=
  if Plain.isKey s.toList then (true, String.ofList (Plain.kept s.toList)) else (false, s)

theorem names_keyName (hc : 0 < c) {s : String} (hs : Unbroken s.toList) :
    Names c (writeKey s).toList (.scalar (keyName s).1 (keyName s).2) := by
  have hnames := names_writeKey hc hs
  rw [keyToken, String.ofList_toList] at hnames
  rw [keyName]
  split <;> simpa [*] using hnames

/-! ## Words -/

def isWordChar (c : Char) : Bool := Decimal.isDigit c || ('a' ≤ c && c ≤ 'z') || c = '_'

def IsWord (s : List Char) : Prop := s ≠ [] ∧ ∀ c ∈ s, isWordChar c = true

instance (s : List Char) : Decidable (IsWord s) :=
  have := List.decidableBAll (isWordChar · = true) s
  instDecidableAnd

theorem toNat_lt_of_isWordChar {d : Char} (h : isWordChar d = true) : d.toNat < 128 := by
  simp only [isWordChar, Decimal.isDigit, Bool.or_eq_true, Bool.and_eq_true, decide_eq_true_eq,
    Char.le_def, UInt32.le_iff_toNat_le] at h
  change d.val.toNat < 128
  rcases h with (⟨-, h⟩ | ⟨-, h⟩) | rfl
  · exact Nat.lt_of_le_of_lt h (by decide)
  · exact Nat.lt_of_le_of_lt h (by decide)
  · decide

theorem isWordChar_spec {d : Char} (h : isWordChar d = true) :
    isSpace d = false ∧ d ∉ indicators ∧ d ≠ '.' ∧ isByteOrderMark d = false := by
  have hall : ∀ n < 128, isWordChar (Char.ofNat n) = true →
      isSpace (Char.ofNat n) = false ∧ Char.ofNat n ∉ indicators ∧ Char.ofNat n ≠ '.' ∧
        isByteOrderMark (Char.ofNat n) = false := by decide
  have hd := hall d.toNat (toNat_lt_of_isWordChar h)
  rw [Char.ofNat_toNat] at hd
  exact hd h

theorem ne_of_isWordChar {d e : Char} (h : isWordChar d = true) (he : isWordChar e = false) :
    d ≠ e := by
  rintro rfl
  rw [h] at he
  cases he

theorem IsWord.isLine (h : IsWord text) : Plain.IsLine text where
  chars d hd := by
    have hword := h.2 d hd
    exact ⟨isBreak_of_not_isSpace (isWordChar_spec hword).1, ne_of_isWordChar hword rfl,
      ne_of_isWordChar hword rfl⟩
  colons before after heq :=
    absurd rfl (ne_of_isWordChar (e := ':') (h.2 ':' (by simp [heq])) rfl)

theorem IsWord.kept (h : IsWord text) : Plain.kept text = text := by
  refine Plain.kept_of_getLast? fun hlast => ?_
  have hspace := (isWordChar_spec (h.2 ' ' (List.mem_of_getLast? hlast))).1
  cases hspace

theorem names_word (c : Nat) {s : String} (h : IsWord s.toList) :
    Names c s.toList (.scalar true s) := by
  obtain ⟨d, rest, hs⟩ := List.exists_cons_of_ne_nil h.1
  obtain ⟨hspace, hd, hpoint, hmark⟩ := isWordChar_spec (h.2 d (hs ▸ List.mem_cons_self))
  have hnames := names_plain (c := c) (hs ▸ h.isLine) hspace hd fun _ => ⟨hpoint, hmark⟩
  rwa [← hs, h.kept, String.ofList_toList] at hnames

theorem gives_word {s : String} (h : IsWord s.toList) :
    Gives n least (' ' :: s.toList ++ ['\n']) (plainTree s) := by
  obtain ⟨d, rest, hs⟩ := List.exists_cons_of_ne_nil h.1
  obtain ⟨hspace, hd, -, -⟩ := isWordChar_spec (h.2 d (hs ▸ List.mem_cons_self))
  have hbehind : Behind least (' ' :: (d :: rest) ++ ['\n']) _ :=
    behind_plain (hs ▸ h.isLine) hspace hd
  rw [← hs, h.kept, String.ofList_toList] at hbehind
  exact ⟨_, hbehind, denotes_scalar n true s⟩

/-! ## Blocks -/

section block

variable {α : Type} {start : Token} {items : List α} {body : α → List Char}
  {tokens : α → List Token}

theorem exists_stacked (hne : items ≠ [])
    (h : ∀ item ∈ items, Entry c start (body item) (tokens item)) :
    ∃ first entries, (∀ entry ∈ first :: entries, Entry c start entry.1 entry.2) ∧
      stacked c (first :: entries) = (items.flatMap fun item => spaces c ++ body item) ∧
      (first :: entries).flatMap Prod.snd = items.flatMap tokens := by
  obtain ⟨first, rest, rfl⟩ := List.exists_cons_of_ne_nil hne
  refine ⟨(body first, tokens first), rest.map fun item => (body item, tokens item), ?_, ?_, ?_⟩
  · rw [List.forall_mem_cons] at h ⊢
    exact ⟨h.1, List.forall_mem_map.mpr h.2⟩
  · rw [stacked, List.flatMap_cons, List.flatMap_cons, List.flatMap_map]
  · rw [List.flatMap_cons, List.flatMap_cons, List.flatMap_map]

theorem behind_block_of_forall (hne : items ≠ []) (hc : least ≤ c)
    (h : ∀ item ∈ items, Entry c start (body item) (tokens item)) :
    Behind least ('\n' :: items.flatMap fun item => spaces c ++ body item)
      (start :: (items.flatMap tokens ++ [.blockEnd])) := by
  obtain ⟨first, entries, hentries, htext, htokens⟩ := exists_stacked hne h
  rw [← htext, ← htokens]
  exact behind_block hc hentries

theorem tokens?_block_of_forall (hne : items ≠ [])
    (h : ∀ item ∈ items, Entry 0 start (body item) (tokens item)) :
    tokens? (items.flatMap fun item => spaces 0 ++ body item) =
      some (start :: (items.flatMap tokens ++ [.blockEnd])) := by
  obtain ⟨first, entries, hentries, htext, htokens⟩ := exists_stacked hne h
  rw [← htext, ← htokens]
  exact tokens?_block hentries

end block

def itemLines (c : Nat) (items : List (List Char × Tree)) : List Char :=
  items.flatMap fun item => spaces c ++ '-' :: item.1

theorem gives_items {items : List (List Char × Tree)} (hne : items ≠ []) (hc : 0 < c)
    (hleast : least ≤ c) (h : ∀ item ∈ items, Gives n (c + 1) item.1 item.2) :
    Gives (n + 1) least ('\n' :: itemLines c items) (.list (items.map Prod.snd)) := by
  choose! tokens hbehind hdenotes using h
  have hblock := behind_block_of_forall hne hleast
    fun item hitem => entry_dash hc (hbehind item hitem)
  have hitems : ∀ item ∈ items.map fun item => (tokens item, item.2), Denotes n item.1 item.2 :=
    List.forall_mem_map.mpr hdenotes
  have hlist := denotes_sequence hitems
  have htokens : itemTokens (items.map fun item => (tokens item, item.2)) =
      items.flatMap fun item => .entry :: tokens item := List.flatMap_map ..
  rw [htokens, List.map_map] at hlist
  exact ⟨_, hblock, hlist⟩

/-- A line with a key: the key as written, the scalar it gives, and the text behind its colon with
the tree that it gives. -/
structure Line where
  key : List Char
  name : Bool × String
  text : List Char
  tree : Tree

namespace Line

def body (l : Line) : List Char := l.key ++ ':' :: l.text

structure Reads (n c : Nat) (l : Line) : Prop where
  names : Names c l.key (.scalar l.name.1 l.name.2)
  length : (String.ofList l.key).utf8ByteSize ≤ maxKeyBytes
  gives : Gives n (c + 1) l.text l.tree

end Line

def keyLines (c : Nat) (lines : List Line) : List Char :=
  lines.flatMap fun l => spaces c ++ l.body

def lineMembers (lines : List Line) : Tree.Entries := lines.map fun l => (l.name.2, l.tree)

theorem Line.Reads.exists_entry {l : Line} (h : l.Reads n c) :
    ∃ tokens, Entry c .mappingStart l.body (.key :: .scalar l.name.1 l.name.2 :: .value :: tokens) ∧
      Denotes n tokens l.tree := by
  obtain ⟨tokens, hbehind, hdenotes⟩ := h.gives
  exact ⟨tokens, entry_key h.names h.length hbehind, hdenotes⟩

theorem exists_tokens {lines : List Line} (h : ∀ l ∈ lines, l.Reads n c) :
    ∃ tokens : Line → List Token, (∀ l ∈ lines, Entry c .mappingStart l.body
        (.key :: .scalar l.name.1 l.name.2 :: .value :: tokens l)) ∧
      ∀ l ∈ lines, Denotes n (tokens l) l.tree := by
  have hentries := fun l hl => (h l hl).exists_entry
  choose! tokens hentry hdenotes using hentries
  exact ⟨tokens, hentry, hdenotes⟩

theorem entryTokens_map (lines : List Line) (tokens : Line → List Token) :
    entryTokens (lines.map fun l => (l.name, tokens l, l.tree)) =
      lines.flatMap fun l => .key :: .scalar l.name.1 l.name.2 :: .value :: tokens l :=
  List.flatMap_map ..

theorem members_map (lines : List Line) (tokens : Line → List Token) :
    members (lines.map fun l => (l.name, tokens l, l.tree)) = lineMembers lines := by
  rw [members, List.map_map]
  rfl

theorem gives_mapping {lines : List Line} (hne : lines ≠ []) (hleast : least ≤ c)
    (h : ∀ l ∈ lines, l.Reads n c) :
    Gives (n + 1) least ('\n' :: keyLines c lines) (.dict (mergeMembers (lineMembers lines))) := by
  obtain ⟨tokens, hentries, hdenotes⟩ := exists_tokens h
  have hvalues : ∀ entry ∈ lines.map fun l => (l.name, tokens l, l.tree),
      Denotes n entry.2.1 entry.2.2 := List.forall_mem_map.mpr hdenotes
  have hmapping := denotes_mapping hvalues
  rw [entryTokens_map, members_map] at hmapping
  exact ⟨_, behind_block_of_forall hne hleast hentries, hmapping⟩

theorem ofYaml?_keyLines {lines : List Line} {text : String} (hne : lines ≠ [])
    (h : ∀ l ∈ lines, l.Reads (maxDepth - 1) 0) (htext : text.toList = keyLines 0 lines)
    (hprintable : text.toList.all isPrintable = true)
    (hbreaks : normalBreaks text.toList = text.toList) :
    Tree.ofYaml? text = some (.dict (mergeMembers (lineMembers lines))) := by
  obtain ⟨tokens, hentries, hdenotes⟩ := exists_tokens h
  have htokens : tokens? (normalBreaks text.toList) =
      some (.mappingStart ::
        (entryTokens (lines.map fun l => (l.name, tokens l, l.tree)) ++ [.blockEnd])) := by
    rw [hbreaks, htext, entryTokens_map]
    exact tokens?_block_of_forall hne hentries
  rw [ofYaml?_of_tokens? hprintable htokens (List.forall_mem_map.mpr hdenotes), members_map]

/-! ## Keys that are too long -/

def Unread (c : Nat) (text : List Char) : Prop :=
  ∀ columns columns' found found' p after, Opens c .mappingStart columns found columns' found' →
    p.column = c → (between true columns found ⟨p, text ++ after⟩).Fails

theorem Unread.append (h : Unread c text) (more : List Char) : Unread c (text ++ more) := by
  intro columns columns' found found' p after hopens hp
  rw [List.append_assoc]
  exact h columns columns' found found' p (more ++ after) hopens hp

theorem unread_key {key : List Char} {name : Token} (hkey : Names c key name)
    (hlength : maxKeyBytes < (String.ofList key).utf8ByteSize)
    (htext : text.head?.any isSpace = true) : Unread c (key ++ ':' :: text) := by
  intro columns columns' found found' p after hopens hp
  rw [List.append_assoc]
  exact hkey.fails hlength hopens hp (endsWord_append htext after)

theorem Unread.after {start : List Char} {tokens : List Token} (h : Unread c text)
    (hstart : Entry c .mappingStart start tokens) (hfront : Continues c text) (hne : text ≠ []) :
    Unread c (start ++ (spaces c ++ text)) := by
  intro columns columns' found found' p after hopens hp
  obtain ⟨p', hp', hleads⟩ := hstart.leads columns columns' found found' p c (text ++ after)
    hopens hp (Nat.le_refl c) (hfront.append hne after)
  rw [List.append_assoc, List.append_assoc]
  exact hleads.fails (h columns' columns' _ _ p' after (.inside hopens.head?) hp')

theorem Unread.below {key : List Char} {name : Token} (h : Unread k text) (hkey : Names c key name)
    (hlength : (String.ofList key).utf8ByteSize ≤ maxKeyBytes) (hk : c < k)
    (hfront : Continues k text) (hne : text ≠ []) :
    Unread c (key ++ ':' :: '\n' :: (spaces k ++ text)) := by
  intro columns columns' found found' p after hopens hp
  have hends : endsWord ('\n' :: (spaces k ++ (text ++ after))) = true := rfl
  have hcolon := hkey.leads_colon hlength hopens hp hends
  have hcolumn : ∀ p : Place, (p.after ('\n' :: spaces k)).column = k := fun p => by
    rw [Place.column_after_newline fun _ => isBreak_of_mem_spaces, length_spaces]
  have hline : (between false columns' (found' ++ [.key, name, .value])
      ⟨p.after (key ++ [':']), '\n' :: (spaces k ++ (text ++ after))⟩).Leads _ :=
    leads_newline k ((hfront.append hne after).solid (hcolumn _))
  have hopen : Opens k .mappingStart columns' (found' ++ [.key, name, .value]) (k :: columns')
      (found' ++ [.key, name, .value] ++ [.mappingStart]) :=
    .new (by rw [hopens.leastOf_eq]; exact hk)
  have hfails := h _ _ _ _ (Place.after (p.after (key ++ [':'])) ('\n' :: spaces k)) after hopen
    (hcolumn _)
  have hsplit : key ++ ':' :: '\n' :: (spaces k ++ text) ++ after =
      key ++ ':' :: '\n' :: (spaces k ++ (text ++ after)) := by simp
  rw [hsplit]
  exact (hcolon.trans hline).fails hfails

theorem Unread.tokens? (h : Unread 0 text) : Yaml.tokens? text = none := by
  have hnew : Opens 0 .mappingStart [] [] [0] [.mappingStart] := .new (Nat.zero_le 0)
  have hfails := h [] [0] [] [.mappingStart] {} [] hnew rfl
  rw [List.append_nil] at hfails
  exact hfails _ (Nat.lt_succ_self _)

end Lexer
end RowQuery.Yaml
