import RowQuery.Proofs.Settings.Merge
import RowQuery.Settings.FromYaml

/-!
# What a YAML document says

A document is a dictionary, and no dictionary in it gives a key twice.
-/
namespace RowQuery.Yaml

namespace Following

variable {α β : Type} {P : α → Prop} {Q : β → Prop}

def Yields (x : Following α) (P : α → Prop) : Prop := ∀ left a left', x left = some (a, left') → P a

theorem yields_pure {a : α} (h : P a) : (pure a : Following α).Yields P := by
  intro left a' left' heq
  cases heq
  exact h

theorem yields_bind {x : Following α} {f : α → Following β} (hx : x.Yields P)
    (hf : ∀ a, P a → (f a).Yields Q) : (x >>= f).Yields Q := by
  intro left b left' heq
  obtain ⟨⟨a, middle⟩, hxa, hfa⟩ := Option.bind_eq_some_iff.mp heq
  exact hf a (hx left a middle hxa) middle b left' hfa

theorem yields_lift {x : Option α} (h : ∀ a, x = some a → P a) :
    Yields (StateT.lift x) P := by
  intro left a left' heq
  obtain ⟨a', ha, heq⟩ := Option.bind_eq_some_iff.mp heq
  cases heq
  exact h a ha

theorem yields_true (x : Following α) : x.Yields fun _ => True := fun _ _ _ _ => trivial

theorem yields_mapM {f : α → Following β} (hf : ∀ a, (f a).Yields Q) (items : List α) :
    (items.mapM f).Yields fun bs => ∀ b ∈ bs, Q b := by
  induction items with
  | nil => exact yields_pure fun b hb => absurd hb List.not_mem_nil
  | cons a rest ih =>
    rw [List.mapM_cons]
    exact yields_bind (hf a) fun b hb => yields_bind ih fun bs hbs =>
      yields_pure (List.forall_mem_cons.mpr ⟨hb, hbs⟩)

end Following

open Following

theorem distinct_scalarTree? {tag : Option String} {isPlain : Bool} {text : String} {t : Tree}
    (h : scalarTree? tag isPlain text = some t) : t.Distinct := by
  refine .leaf fun entries hdict => ?_
  subst hdict
  cases tag with
  | none =>
    simp only [scalarTree?, Option.some.injEq] at h
    split at h
    · rw [plainTree] at h
      split at h
      · cases h
      · split at h
        · cases h
        · cases h
        · split at h <;> cases h
    · cases h
  | some tag =>
    simp only [scalarTree?, taggedTree?] at h
    split at h
    · simp at h
    · split at h
      · simp at h
      · split at h
        · split at h <;> cases h
        · split at h
          · split at h <;> cases h
          · cases h

variable {anchored : Anchored} {inner : Node Nat → Following Tree}

theorem yields_entriesTree (hinner : ∀ node, (inner node).Yields Tree.Distinct)
    (entries : List (Node Nat × Node Nat)) :
    (entriesTree anchored inner entries).Yields fun t => t.Distinct ∧ ∃ es, t = .dict es := by
  have hentry : ∀ entry : Node Nat × Node Nat, (do
      let key ← keyText anchored entry.1
      pure (key, ← inner entry.2) : Following (String × Tree)).Yields fun e => e.2.Distinct := by
    intro entry
    exact yields_bind (yields_true _) fun key _ => yields_bind (hinner entry.2) fun t ht =>
      yields_pure ht
  refine yields_bind (yields_mapM hentry entries) fun es hes => yields_pure ⟨?_, _, rfl⟩
  exact .keyed (nodup_keys_mergeMembers es) fun e he => hes e (mem_of_mem_mergeMembers he)

theorem yields_treeWith {inner : Option (Node Nat → Following Tree)}
    (hinner : ∀ read ∈ inner, ∀ node, (read node).Yields Tree.Distinct) (node : Node Nat) :
    (treeWith anchored inner node).Yields Tree.Distinct := by
  have huntagged : ∀ (tag : Option String) (node : Node Nat),
      (untagged anchored inner tag node).Yields Tree.Distinct := by
    intro tag node
    cases node with
    | scalar p isPlain text => exact yields_lift fun t ht => distinct_scalarTree? ht
    | sequence p items =>
      refine yields_bind (yields_true _) fun read _ => ?_
      exact yields_bind (yields_true _) fun ts _ => yields_pure (.leaf nofun)
    | mapping p entries =>
      refine yields_bind (yields_lift (P := (· ∈ inner)) fun read hread => hread) fun read hread => ?_
      intro left t left' ht
      exact (yields_entriesTree (hinner read hread) entries left t left' ht).1
    | reference n => exact fun _ _ _ h => nomatch h
  refine yields_bind (yields_true _) fun node _ => ?_
  dsimp only
  split
  · refine yields_bind (huntagged _ _) fun t ht => yields_pure ?_
    exact .keyed (by simp) (by simpa using ht)
  · exact huntagged _ _

theorem yields_treeOf (anchored : Anchored) (levels : Nat) (node : Node Nat) :
    (treeOf anchored levels node).Yields Tree.Distinct := by
  induction levels generalizing node with
  | zero => exact yields_treeWith (fun read h => absurd h (Option.not_mem_none read)) node
  | succ levels ih =>
    refine yields_treeWith (fun read hread => ?_) node
    obtain rfl : treeOf anchored levels = read := Option.some.inj hread
    exact ih

theorem Document.dictionary?_spec {d : Document} {t : Tree} (h : d.dictionary? = some t) :
    t.Distinct ∧ ∃ entries, t = .dict entries := by
  rw [dictionary?] at h
  split at h
  · obtain ⟨⟨t', left⟩, hrun, heq⟩ := Option.map_eq_some_iff.mp h
    cases heq
    exact yields_entriesTree (fun node => yields_treeOf _ _ node) _ _ _ _ hrun
  · split at h
    · cases h
      exact ⟨Tree.distinct_dict_nil, [], rfl⟩
    · cases h
  · cases h

end RowQuery.Yaml

namespace RowQuery.Tree

theorem ofYaml?_spec {text : String} {t : Tree} (h : ofYaml? text = some t) :
    t.Distinct ∧ ∃ entries, t = dict entries := by
  obtain ⟨d, -, hd⟩ := Option.bind_eq_some_iff.mp h
  exact Yaml.Document.dictionary?_spec hd

end RowQuery.Tree
