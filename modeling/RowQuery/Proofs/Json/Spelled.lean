import RowQuery.Proofs.Json.Token

/-!
# Reading a spelled value

A text spells a value by the grammar of JSON: integers in decimal digits, strings with the escapes
of the printer, and blanks as one likes before an entry of an array or object, after a colon and
before a closing bracket. A reader takes such a text off the front of a longer one and gives the value,
provided that the value fits: it nests no deeper than the reader goes, and the shape that the reader
looks for uses every member.
-/
namespace RowQuery.Json

/-! ## Entries of arrays and objects -/

def joined (lead : List Char) (texts : List (List Char)) : List Char :=
  [','].intercalate (texts.map (lead ++ ·))

theorem joined_singleton (lead text : List Char) : joined lead [text] = lead ++ text := by
  simp [joined]

theorem joined_cons (lead text next : List Char) (texts : List (List Char)) :
    joined lead (text :: next :: texts) = lead ++ text ++ ',' :: joined lead (next :: texts) := by
  simp [joined, List.intercalate]

theorem length_le_joined {texts : List (List Char)} (h : ∀ text ∈ texts, Opens text)
    (lead : List Char) : texts.length ≤ (joined lead texts).length := by
  induction texts with
  | nil => exact Nat.zero_le _
  | cons text rest ih =>
    have hrest := ih fun t ht => h t (List.mem_cons_of_mem text ht)
    obtain ⟨c, tail, rfl, -⟩ := h text List.mem_cons_self
    cases rest with
    | nil =>
      simp only [joined_singleton, List.length_append, List.length_cons, List.length_nil]
      omega
    | cons next more =>
      rw [joined_cons, List.length_append, List.length_append, List.length_cons]
      simp only [List.length_cons] at hrest ⊢
      omega

variable {α : Type} {item : Nat → Reader α} {close : Char} {lead tail : List Char}

def Closes (close : Char) : Prop := close = ']' ∨ close = '\x7d'

theorem Closes.skipSpace (h : Closes close) (htail : Blank tail) (rest : List Char) :
    skipSpace (tail ++ close :: rest) = close :: rest := by
  rw [skipSpace_append htail]
  rcases h with rfl | rfl <;> rfl

theorem Closes.ends (h : Closes close) (htail : Blank tail) (rest : List Char) :
    Ends (tail ++ close :: rest) := by
  refine ends_append htail ?_
  rintro _ ⟨⟩
  rcases h with rfl | rfl <;> decide

theorem ends_comma (rest : List Char) : Ends (',' :: rest) := by
  rintro _ ⟨⟩
  decide

theorem items_joined (hclose : Closes close) (hlead : Blank lead) (htail : Blank tail)
    {entries : List (α × List Char)} {fuel position : Nat} (hne : entries ≠ [])
    (hfuel : entries.length ≤ fuel) (hopens : ∀ e ∈ entries, Opens e.2)
    (hreads : ∀ i e, entries[i]? = some e → Reads (item (position + i)) e.2 e.1)
    (rest : List Char) :
    items item close fuel position
        (joined lead (entries.map Prod.snd) ++ (tail ++ close :: rest)) =
      some (entries.map Prod.fst, rest) := by
  induction entries generalizing fuel position with
  | nil => exact absurd rfl hne
  | cons e more ih =>
    obtain ⟨fuel, rfl⟩ := Nat.exists_eq_succ_of_ne_zero (Nat.ne_of_gt (Nat.zero_lt_of_lt hfuel))
    obtain ⟨a, text⟩ := e
    have hfirst : Reads (item position) text a := hreads 0 (a, text) rfl
    have hopen : Opens text := hopens (a, text) List.mem_cons_self
    -- Behind the last entry stands the closing character, and behind every other a comma.
    cases more with
    | nil =>
      rw [List.map_singleton, joined_singleton, List.append_assoc, items, skipSpace_append hlead,
        skipSpace_of_opens hopen, hfirst _ (hclose.ends htail rest)]
      simp [hclose.skipSpace htail]
    | cons next more =>
      have hcomma : close ≠ ',' := by rcases hclose with rfl | rfl <;> decide
      have hrest : ∀ i e, (next :: more)[i]? = some e →
          Reads (item (position + 1 + i)) e.2 e.1 := by
        intro i e he
        have h := hreads (i + 1) e he
        rwa [Nat.add_comm i 1, ← Nat.add_assoc] at h
      have hnext := ih (List.cons_ne_nil next more) (Nat.le_of_succ_le_succ hfuel)
        (fun e he => hopens e (List.mem_cons_of_mem _ he)) hrest
      rw [List.map_cons] at hnext
      rw [List.map_cons, List.map_cons, joined_cons, List.append_assoc, List.append_assoc, items,
        skipSpace_append hlead, skipSpace_of_opens hopen, List.cons_append,
        hfirst _ (ends_comma _)]
      have hskip : ∀ s, skipSpace (',' :: s) = ',' :: s := fun _ => rfl
      simp only [Option.bind_eq_bind, Option.bind_some, hskip, hcomma.symm, if_false, if_true,
        hnext]
      rfl

theorem head_joined {texts : List (List Char)} (hlead : Blank lead)
    (hopens : ∀ text ∈ texts, Opens text) (hne : texts ≠ []) (rest : List Char) :
    ∃ c s, skipSpace (joined lead texts ++ rest) = c :: s ∧ c ≠ ']' ∧ c ≠ '\x7d' := by
  cases texts with
  | nil => exact absurd rfl hne
  | cons text more =>
    have hopen := hopens text List.mem_cons_self
    have hskip : ∀ s, skipSpace (lead ++ text ++ s) = text ++ s := by
      intro s
      rw [List.append_assoc, skipSpace_append hlead, skipSpace_of_opens hopen]
    obtain ⟨c, first, htext, -, hsquare, hcurly⟩ := hopen
    cases more with
    | nil =>
      rw [joined_singleton, hskip, htext]
      exact ⟨c, first ++ rest, rfl, hsquare, hcurly⟩
    | cons next more =>
      rw [joined_cons, List.append_assoc, hskip, htext]
      exact ⟨c, _, rfl, hsquare, hcurly⟩

theorem listOf_joined (hclose : Closes close) (hlead : Blank lead) (htail : Blank tail)
    {entries : List (α × List Char)} (hopens : ∀ e ∈ entries, Opens e.2)
    (hreads : ∀ i e, entries[i]? = some e → Reads (item i) e.2 e.1) (rest : List Char) :
    listOf item close (joined lead (entries.map Prod.snd) ++ (tail ++ close :: rest)) =
      some (entries.map Prod.fst, rest) := by
  by_cases hne : entries = []
  · subst hne
    simp [listOf, joined, hclose.skipSpace htail]
  · have htexts : ∀ text ∈ entries.map Prod.snd, Opens text := by
      intro text htext
      obtain ⟨e, he, rfl⟩ := List.mem_map.mp htext
      exact hopens e he
    obtain ⟨c, s, hhead, hsquare, hcurly⟩ :=
      head_joined hlead htexts (by simpa using hne) (tail ++ close :: rest)
    have hother : c ≠ close := by rcases hclose with rfl | rfl <;> assumption
    have hfuel : entries.length ≤
        (joined lead (entries.map Prod.snd) ++ (tail ++ close :: rest)).length := by
      have hjoined := length_le_joined htexts lead
      rw [List.length_map] at hjoined
      rw [List.length_append]
      omega
    have hfirst : ∀ i e, entries[i]? = some e → Reads (item (0 + i)) e.2 e.1 := by
      intro i e he
      rw [Nat.zero_add]
      exact hreads i e he
    simp only [listOf, hhead, if_neg hother]
    exact items_joined hclose hlead htail hne hfuel hopens hfirst rest

def memberText (gap : List Char) (key : String) (text : List Char) : List Char :=
  (quoted key).toList ++ ':' :: (gap ++ text)

theorem reads_member {shape inner : Shape} {reader : Shape → Reader Json} {gap text : List Char}
    {key : String} {v : Json} (hused : shape.member? key = some inner) (hgap : Blank gap)
    (hopens : Opens text) (h : Reads (reader inner) text v) :
    Reads (member shape reader) (memberText gap key text) (some (key, v)) := by
  intro rest hrest
  have hcolon : ∀ s, skipSpace (':' :: s) = ':' :: s := fun _ => rfl
  rw [memberText, List.append_assoc, member, text_quoted, List.cons_append]
  simp only [Option.bind_eq_bind, Option.bind_some, hcolon, hused, List.append_assoc,
    skipSpace_append hgap, skipSpace_of_opens hopens, h rest hrest]

theorem listOf_member {shape : Shape} {reader : Shape → Reader Json} {gap : List Char}
    (hlead : Blank lead) (hgap : Blank gap) (htail : Blank tail)
    {entries : List (String × Json × List Char)} (hopens : ∀ e ∈ entries, Opens e.2.2)
    (hused : ∀ e ∈ entries, ∃ inner, shape.member? e.1 = some inner)
    (hreads : ∀ e ∈ entries, ∀ inner, shape.member? e.1 = some inner →
      Reads (reader inner) e.2.2 e.2.1) (rest : List Char) :
    listOf (fun _ => member shape reader) '\x7d'
        (joined lead (entries.map fun e => memberText gap e.1 e.2.2) ++
          (tail ++ '\x7d' :: rest)) =
      some (entries.map fun e => some (e.1, e.2.1), rest) := by
  let pair (e : String × Json × List Char) := (some (e.1, e.2.1), memberText gap e.1 e.2.2)
  have hpairs : ∀ p ∈ entries.map pair, Opens p.2 := by
    intro p hp
    obtain ⟨e, -, rfl⟩ := List.mem_map.mp hp
    exact opens_quoted e.1 _
  have hmembers : ∀ (i : Nat) p, (entries.map pair)[i]? = some p →
      Reads (member shape reader) p.2 p.1 := by
    intro i p hp
    obtain ⟨e, he, rfl⟩ := List.mem_map.mp (List.mem_of_getElem? hp)
    obtain ⟨inner, hinner⟩ := hused e he
    exact reads_member hinner hgap (hopens e he) (hreads e he inner hinner)
  have hlist := listOf_joined (.inr rfl) hlead htail hpairs hmembers rest
  rw [List.map_map, List.map_map] at hlist
  exact hlist

/-! ## Values -/

/-- A text of a value, by the grammar. -/
inductive Spells : Json → List Char → Prop
  | null : Spells null "null".toList
  | bool (b : Bool) : Spells (bool b) (if b then "true" else "false").toList
  | int (n : Integer) : Spells (number (.int n)) (numberText (.int n)).toList
  | string (s : String) : Spells (string s) (quoted s).toList
  | array {lead tail : List Char} (hlead : Blank lead) (htail : Blank tail)
      (entries : List (Json × List Char)) (h : ∀ e ∈ entries, Spells e.1 e.2) :
      Spells (array (entries.map Prod.fst))
        ('[' :: (joined lead (entries.map Prod.snd) ++ (tail ++ [']'])))
  | object {lead gap tail : List Char} (hlead : Blank lead) (hgap : Blank gap) (htail : Blank tail)
      (entries : List (String × Json × List Char)) (h : ∀ e ∈ entries, Spells e.2.1 e.2.2) :
      Spells (object (entries.map fun e => (e.1, e.2.1)))
        ('\x7b' :: (joined lead (entries.map fun e => memberText gap e.1 e.2.2) ++
          (tail ++ ['\x7d'])))

/-- A value that a reader gets whole: it nests no deeper than so many levels, and the shape uses
every member. -/
inductive Fits : Nat → Shape → Json → Prop
  | null {levels : Nat} {shape : Shape} : Fits levels shape null
  | bool {levels : Nat} {shape : Shape} (b : Bool) : Fits levels shape (bool b)
  | int {levels : Nat} {shape : Shape} (n : Integer) : Fits levels shape (number (.int n))
  | string {levels : Nat} {shape : Shape} (s : String) : Fits levels shape (string s)
  | array {levels : Nat} {shape : Shape} {items : List Json}
      (h : ∀ i v, items[i]? = some v → Fits levels (shape.item i) v) :
      Fits (levels + 1) shape (array items)
  | object {levels : Nat} {shape : Shape} {members : List (String × Json)}
      (hused : ∀ m ∈ members, (shape.member? m.1).isSome)
      (h : ∀ m ∈ members, ∀ inner, shape.member? m.1 = some inner → Fits levels inner m.2) :
      Fits (levels + 1) shape (object members)

theorem Spells.opens {v : Json} {text : List Char} (h : Spells v text) : Opens text := by
  cases h with
  | null => exact ⟨_, _, rfl, by decide, by decide, by decide⟩
  | bool b => cases b <;> exact ⟨_, _, rfl, by decide, by decide, by decide⟩
  | int n =>
    obtain ⟨c, tail, htext, hc⟩ := exists_head_int n
    rw [htext]
    exact opens_of_numberHead hc tail
  | string s =>
    have hopens := opens_quoted s []
    rwa [List.append_nil] at hopens
  | array hlead htail entries h => exact ⟨_, _, rfl, by decide, by decide, by decide⟩
  | object hlead hgap htail entries h => exact ⟨_, _, rfl, by decide, by decide, by decide⟩

theorem value_of_ne_open (levels : Nat) (shape : Shape) {c : Char} (s : List Char)
    (hsquare : c ≠ '[') (hcurly : c ≠ '\x7b') :
    value levels shape (c :: s) = scalar (c :: s) := by
  rw [value.eq_def]
  split <;> simp_all

/-- A reader takes a text that spells a value off the front and gives the value. -/
theorem Spells.reads {v : Json} {text : List Char} (h : Spells v text) {levels : Nat}
    {shape : Shape} (hfits : Fits levels shape v) : Reads (value levels shape) text v := by
  -- The entries of a list or an object have one level less and shapes of their own.
  induction h generalizing levels shape with
  | null =>
    intro rest _
    exact value_of_ne_open levels shape _ (by decide) (by decide)
  | bool b =>
    intro rest _
    cases b <;> exact value_of_ne_open levels shape _ (by decide) (by decide)
  | int n =>
    intro rest hrest
    have hread := scalar_int n rest hrest
    obtain ⟨c, tail, htext, hc⟩ := exists_head_int n
    rw [htext, List.cons_append] at hread ⊢
    rw [value_of_ne_open levels shape _ (ne_of_numberHead hc (by decide) (by decide))
      (ne_of_numberHead hc (by decide) (by decide))]
    exact hread
  | string s =>
    intro rest _
    have hread := text_quoted s rest
    rw [toList_quoted, List.cons_append] at hread ⊢
    rw [value_of_ne_open levels shape _ (by decide) (by decide), scalar, hread]
    rfl
  | array hlead htail entries h ih =>
    intro rest _
    cases hfits with
    | array hitems =>
      have hlist := listOf_joined (.inl rfl) hlead htail (fun e he => (h e he).opens)
        (fun i e he => ih e (List.mem_of_getElem? he) (hitems i e.1 (by simp [he]))) rest
      simp only [List.cons_append, List.append_assoc, List.nil_append, value, hlist,
        Option.map_some]
  | object hlead hgap htail entries h ih =>
    intro rest _
    cases hfits with
    | @object levels _ _ hused hmembers =>
      have hlist := listOf_member hlead hgap htail (fun e he => (h e he).opens)
        (fun e he => Option.isSome_iff_exists.mp (hused _ (List.mem_map_of_mem he)))
        (fun e he inner hinner => ih e he (hmembers _ (List.mem_map_of_mem he) inner hinner)) rest
      have hkept : (entries.map fun e => some (e.1, e.2.1)).filterMap id =
          entries.map fun e => (e.1, e.2.1) := by
        rw [List.filterMap_map]
        exact congrFun List.filterMap_eq_map entries
      simp only [List.cons_append, List.append_assoc, List.nil_append, value, hlist,
        Option.map_some, hkept]

theorem readAs_of_spells {shape : Shape} {v : Json} {s : String} {text blank : List Char}
    (h : Spells v text) (hfits : Fits maxLevels shape v) (hblank : Blank blank)
    (hs : s.toList = text ++ blank) : readAs shape s = some v := by
  have hends : Ends blank := by
    rw [← List.append_nil blank]
    exact ends_append hblank ends_nil
  have hread := h.reads hfits blank hends
  have hopens := skipSpace_of_opens h.opens blank
  have hrest : skipSpace blank = [] := by
    rw [← List.append_nil blank, skipSpace_append hblank]
    rfl
  simp only [readAs, hs, hopens, hread, hrest, Option.bind_eq_bind, Option.bind_some, if_true]

end RowQuery.Json
