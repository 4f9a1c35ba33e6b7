import RowQuery.Settings.FromYaml

/-!
# What tokens denote

Tokens without anchors, tags and aliases are read as one node whatever follows them, and that node
gives one tree. The tree of a collection is put together from the trees of what is in it, so neither
the nodes nor the tokens need to be known any more.
-/
namespace RowQuery.Yaml

open Node

def beginsNode : Token → Bool
  | .scalar .. | .sequenceStart | .mappingStart | .flowSequenceStart | .flowMappingStart => true
  | _ => false

/-- The steps from tokens to a tree; at most so many levels of collections are in it. -/
structure Steps (levels : Nat) (tokens : List Token) (node : Node String) (numbered : Node Nat)
    (tree : Tree) : Prop where
  begins : tokens.head?.any beginsNode = true
  read : ∀ handles room rest, room.block = true →
    ofTokens handles (levels + 1) room (tokens ++ rest) = some (node, rest)
  number : ∀ names, number? names node = some (numbered, [], names)
  tree : ∀ left, treeOf [] levels numbered left = some (tree, left)

def Denotes (levels : Nat) (tokens : List Token) (tree : Tree) : Prop :=
  ∃ node numbered, Steps levels tokens node numbered tree

variable {handles : Handles} {levels n fuel : Nat} {room : Room} {tokens rest : List Token}

theorem head?_append_of_begins (h : tokens.head?.any beginsNode = true) (rest : List Token) :
    (tokens ++ rest).head?.any beginsNode = true := by
  cases tokens with
  | nil => cases h
  | cons token tokens => exact h

theorem orMissing_of_begins {ends : List Token} {read : TokenReader (Node String)}
    (hends : ∀ token ∈ ends, beginsNode token = false)
    (h : tokens.head?.any beginsNode = true) : orMissing ends read tokens = read tokens := by
  cases tokens with
  | nil => cases h
  | cons token tokens =>
    have hnot : token ∉ ends := fun hmem => by
      rw [List.head?_cons, Option.any_some, hends token hmem] at h
      cases h
    simp [orMissing, hnot]

theorem ofTokens_of_begins (h : tokens.head?.any beginsNode = true) :
    ofTokens handles (levels + 1) room tokens =
      content (ofTokens handles levels) room {} tokens := by
  cases tokens with
  | nil => cases h
  | cons token tokens =>
    cases token <;> first | rfl | cases h

theorem following_bind {α β : Type} {x : Following α} {f : α → Following β} {a : α}
    {left left' : Nat} (h : x left = some (a, left')) : (x >>= f) left = f a left' := by
  change (x left).bind _ = _
  rw [h]
  rfl

/-! ## Scalars -/

def scalarTree (isPlain : Bool) (text : String) : Tree :=
  if isPlain then plainTree text else .text text

theorem denotes_scalar (levels : Nat) (isPlain : Bool) (text : String) :
    Denotes levels [.scalar isPlain text] (scalarTree isPlain text) := by
  refine ⟨.scalar {} isPlain text, .scalar {} isPlain text, rfl, fun _ _ _ _ => rfl,
    fun _ => rfl, ?_⟩
  intro left
  cases levels <;> rfl

/-! ## Sequences -/

theorem treeOf_sequence (n : Nat) (items : List (Node Nat)) :
    treeOf [] (n + 1) (.sequence {} items) =
      items.mapM (treeOf [] n) >>= fun trees => pure (.list trees) := rfl

section sequence

variable {items : List (List Token × Tree)}

def itemTokens (items : List (List Token × Tree)) : List Token :=
  items.flatMap fun item => .entry :: item.1

theorem exists_items (h : ∀ item ∈ items, Denotes n item.1 item.2) :
    ∃ nodes numbered,
      (∀ handles fuel rest, items.length < fuel →
        blockItems (ofTokens handles (n + 1)) fuel (itemTokens items ++ .blockEnd :: rest) =
          some (nodes, rest)) ∧
      (∀ names, numberItems? names nodes = some (numbered, [], names)) ∧
      ∀ left, (numbered.mapM (treeOf [] n) : Following (List Tree)) left =
        some (items.map Prod.snd, left) := by
  induction items with
  | nil =>
    refine ⟨[], [], fun handles fuel rest hfuel => ?_, fun _ => rfl, fun _ => rfl⟩
    cases fuel with
    | zero => cases hfuel
    | succ fuel => rfl
  | cons item items ih =>
    rw [List.forall_mem_cons] at h
    obtain ⟨node, number, hnode⟩ := h.1
    obtain ⟨nodes, numbers, hread, hnumber, htree⟩ := ih h.2
    refine ⟨node :: nodes, number :: numbers, fun handles fuel rest hfuel => ?_, fun names => ?_,
      fun left => ?_⟩
    · cases fuel with
      | zero => cases hfuel
      | succ fuel =>
        have hmore := hread handles fuel rest (Nat.lt_of_succ_lt_succ hfuel)
        have hfirst := hnode.read handles inBlock (itemTokens items ++ .blockEnd :: rest) rfl
        have hbegins := head?_append_of_begins hnode.begins (itemTokens items ++ .blockEnd :: rest)
        have hends : ∀ token ∈ [Token.entry, Token.blockEnd], beginsNode token = false := by
          simp [beginsNode]
        have htokens : itemTokens (item :: items) ++ .blockEnd :: rest =
            .entry :: (item.1 ++ (itemTokens items ++ .blockEnd :: rest)) := by simp [itemTokens]
        rw [htokens, blockItems, orMissing_of_begins hends hbegins, hfirst]
        simp only [Option.bind_eq_bind, Option.bind_some, hmore]
    · rw [numberItems?, hnode.number]
      simp only [Option.bind_eq_bind, Option.bind_some, hnumber, List.append_nil]
    · rw [List.mapM_cons, following_bind (hnode.tree left), following_bind (htree left)]
      rfl

theorem length_le_itemTokens (items : List (List Token × Tree)) :
    items.length ≤ (itemTokens items).length := by
  induction items with
  | nil => exact Nat.le_refl 0
  | cons item items ih =>
    simp only [itemTokens, List.flatMap_cons, List.length_cons, List.length_append] at ih ⊢
    omega

theorem denotes_sequence (h : ∀ item ∈ items, Denotes n item.1 item.2) :
    Denotes (n + 1) (.sequenceStart :: (itemTokens items ++ [.blockEnd]))
      (.list (items.map Prod.snd)) := by
  obtain ⟨nodes, numbered, hread, hnumber, htree⟩ := exists_items h
  refine ⟨.sequence {} nodes, .sequence {} numbered, rfl, fun handles room rest hroom => ?_,
    fun names => ?_, fun left => ?_⟩
  · have hlength := length_le_itemTokens items
    have htokens := hread handles
      ((Token.sequenceStart :: (itemTokens items ++ [.blockEnd]) ++ rest).length + 1) rest
      (by simp only [List.length_append, List.length_cons]; omega)
    rw [ofTokens_of_begins rfl, content]
    simp only [List.cons_append, List.append_assoc, List.nil_append, List.head?_cons, List.drop_one,
      List.tail_cons, hroom, if_true] at htokens ⊢
    rw [htokens]
    rfl
  · rw [number?, hnumber]
    rfl
  · rw [treeOf_sequence, following_bind (htree left)]
    rfl

theorem denotes_emptySequence (n : Nat) :
    Denotes (n + 1) [.flowSequenceStart, .flowSequenceEnd] (.list []) :=
  ⟨.sequence {} [], .sequence {} [], rfl, fun _ _ _ _ => rfl, fun _ => rfl, fun _ => rfl⟩

end sequence

/-! ## Mappings -/

section mapping

variable {entries : List ((Bool × String) × List Token × Tree)}

def entryTokens (entries : List ((Bool × String) × List Token × Tree)) : List Token :=
  entries.flatMap fun entry => .key :: .scalar entry.1.1 entry.1.2 :: .value :: entry.2.1

def members (entries : List ((Bool × String) × List Token × Tree)) : Tree.Entries :=
  entries.map fun entry => (entry.1.2, entry.2.2)

theorem treeOf_mapping (n : Nat) (entries : List (Node Nat × Node Nat)) :
    treeOf [] (n + 1) (.mapping {} entries) = entriesTree [] (treeOf [] n) entries := rfl

def entryTree (inner : Node Nat → Following Tree) (entry : Node Nat × Node Nat) :
    Following (String × Tree) := do
  let key ← keyText [] entry.1
  pure (key, ← inner entry.2)

theorem entriesTree_eq (inner : Node Nat → Following Tree) (entries : List (Node Nat × Node Nat)) :
    entriesTree [] inner entries =
      entries.mapM (entryTree inner) >>= fun members => pure (.dict (mergeMembers members)) := rfl

theorem exists_entries (h : ∀ entry ∈ entries, Denotes n entry.2.1 entry.2.2) :
    ∃ nodes numbered,
      (∀ handles fuel rest, entries.length < fuel →
        blockEntries (ofTokens handles (n + 1)) fuel (entryTokens entries ++ .blockEnd :: rest) =
          some (nodes, rest)) ∧
      (∀ names, numberEntries? names nodes = some (numbered, [], names)) ∧
      ∀ left, (numbered.mapM (entryTree (treeOf [] n)) : Following Tree.Entries) left =
        some (members entries, left) := by
  induction entries with
  | nil =>
    refine ⟨[], [], fun handles fuel rest hfuel => ?_, fun _ => rfl, fun _ => rfl⟩
    cases fuel with
    | zero => cases hfuel
    | succ fuel => rfl
  | cons entry entries ih =>
    rw [List.forall_mem_cons] at h
    obtain ⟨node, number, hnode⟩ := h.1
    obtain ⟨nodes, numbers, hread, hnumber, htree⟩ := ih h.2
    refine ⟨(.scalar {} entry.1.1 entry.1.2, node) :: nodes,
      (.scalar {} entry.1.1 entry.1.2, number) :: numbers, fun handles fuel rest hfuel => ?_,
      fun names => ?_, fun left => ?_⟩
    · cases fuel with
      | zero => cases hfuel
      | succ fuel =>
        have hmore := hread handles fuel rest (Nat.lt_of_succ_lt_succ hfuel)
        have hvalue := hnode.read handles inMapping (entryTokens entries ++ .blockEnd :: rest) rfl
        have hbegins :=
          head?_append_of_begins hnode.begins (entryTokens entries ++ .blockEnd :: rest)
        have hends : ∀ token ∈ [Token.key, Token.value, Token.blockEnd],
            beginsNode token = false := by simp [beginsNode]
        have htokens : entryTokens (entry :: entries) ++ .blockEnd :: rest =
            .key :: .scalar entry.1.1 entry.1.2 :: .value ::
              (entry.2.1 ++ (entryTokens entries ++ .blockEnd :: rest)) := by simp [entryTokens]
        rw [htokens, blockEntries, orMissing_of_begins hends rfl, ofTokens_of_begins rfl]
        simp only [content, List.head?_cons, List.drop_one, List.tail_cons, Option.bind_eq_bind,
          Option.bind_some, valueOrMissing, orMissing_of_begins hends hbegins, hvalue, hmore]
    · rw [numberEntries?, number?, Option.bind_eq_bind, Option.bind_some]
      simp only [anchoredFirst, Names.add, hnode.number, hnumber, Option.bind_eq_bind,
        Option.bind_some]
      rfl
    · have hentry : entryTree (treeOf [] n) (.scalar {} entry.1.1 entry.1.2, number) left =
          some ((entry.1.2, entry.2.2), left) := by
        rw [entryTree, following_bind rfl, following_bind (hnode.tree left)]
        rfl
      rw [List.mapM_cons, following_bind hentry, following_bind (htree left)]
      rfl

theorem length_le_entryTokens (entries : List ((Bool × String) × List Token × Tree)) :
    entries.length ≤ (entryTokens entries).length := by
  induction entries with
  | nil => exact Nat.le_refl 0
  | cons entry entries ih =>
    simp only [entryTokens, List.flatMap_cons, List.length_cons, List.length_append] at ih ⊢
    omega

theorem denotes_mapping (h : ∀ entry ∈ entries, Denotes n entry.2.1 entry.2.2) :
    Denotes (n + 1) (.mappingStart :: (entryTokens entries ++ [.blockEnd]))
      (.dict (mergeMembers (members entries))) := by
  obtain ⟨nodes, numbered, hread, hnumber, htree⟩ := exists_entries h
  refine ⟨.mapping {} nodes, .mapping {} numbered, rfl, fun handles room rest hroom => ?_,
    fun names => ?_, fun left => ?_⟩
  · have hlength := length_le_entryTokens entries
    have htokens := hread handles
      ((Token.mappingStart :: (entryTokens entries ++ [.blockEnd]) ++ rest).length + 1) rest
      (by simp only [List.length_append, List.length_cons]; omega)
    rw [ofTokens_of_begins rfl, content]
    simp only [List.cons_append, List.append_assoc, List.nil_append, List.head?_cons, List.drop_one,
      List.tail_cons, hroom, if_true] at htokens ⊢
    rw [htokens]
    rfl
  · rw [number?, hnumber]
    rfl
  · rw [treeOf_mapping, entriesTree_eq, following_bind (htree left)]
    rfl

theorem denotes_emptyMapping (n : Nat) :
    Denotes (n + 1) [.flowMappingStart, .flowMappingEnd] (.dict []) :=
  ⟨.mapping {} [], .mapping {} [], rfl, fun _ _ _ _ => rfl, fun _ => rfl, fun _ => rfl⟩

/-! ## Documents -/

theorem ofYaml?_of_tokens? {text : String} (hprintable : text.toList.all isPrintable = true)
    (htokens : tokens? (normalBreaks text.toList) =
      some (.mappingStart :: (entryTokens entries ++ [.blockEnd])))
    (h : ∀ entry ∈ entries, Denotes (maxDepth - 1) entry.2.1 entry.2.2) :
    Tree.ofYaml? text = some (.dict (mergeMembers (members entries))) := by
  obtain ⟨nodes, numbered, hread, hnumber, htree⟩ := exists_entries h
  have hlength := length_le_entryTokens entries
  have hread := hread ([] ++ standardHandles)
    ((Token.mappingStart :: (entryTokens entries ++ [.blockEnd])).length + 1) []
    (by simp only [List.length_append, List.length_cons]; omega)
  have hroot : root (.mappingStart :: (entryTokens entries ++ [.blockEnd])) =
      some (.mapping {} nodes, []) := by
    change ofTokens _ (maxLevels - 1 + 1) inBlock _ = _
    rw [ofTokens_of_begins rfl, content]
    simp only [List.head?_cons, List.drop_one, List.tail_cons, inBlock, if_true]
    rw [show maxLevels - 1 = maxDepth - 1 + 1 from rfl, hread]
    rfl
  have hdocument : document? text = some { root := .mapping {} numbered } := by
    rw [document?, hprintable]
    simp only [Bool.not_true, Bool.false_eq_true, if_false, htokens, Option.bind_eq_bind,
      Option.bind_some, hroot, List.all_nil, if_true, number?, hnumber, Names.add]
    rfl
  rw [Tree.ofYaml?, hdocument, Option.bind_some, Document.dictionary?]
  change StateT.run' _ _ = _
  rw [StateT.run', entriesTree_eq]
  change Option.map _ _ = _
  rw [following_bind (htree _)]
  rfl

end mapping

end RowQuery.Yaml
