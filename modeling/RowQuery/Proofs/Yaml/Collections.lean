import RowQuery.Proofs.Yaml.Lines

/-!
# Collections

An empty collection is a pair of brackets. Any other is a block: its lines stand in one column, each
with a key or a dash and what belongs to it, and the block ends before a line further left.
-/
namespace RowQuery.Yaml.Lexer

variable {columns columns' : List Nat} {found found' : List Token} {allowed : Bool} {p : Place}
  {rest more text after : List Char} {c k least : Nat} {tokens : List Token}

/-! ## Empty collections -/

inductive Brackets : Char → Char → Token → Token → Prop
  | sequence : Brackets '[' ']' .flowSequenceStart .flowSequenceEnd
  | mapping : Brackets '\x7b' '\x7d' .flowMappingStart .flowMappingEnd

def inside (start : Option KeyStart) (columns : List Nat) (found : List Token) (here : Cursor) :
    Lexer :=
  { here, found := found.toArray, columns, outerStarts := [start] }

section brackets

variable {left right : Char} {opening closing : Token} {start : Option KeyStart}

theorem Brackets.solid_left (h : Brackets left right opening closing) (p : Place) :
    Solid p (left :: rest) := by
  rintro d ⟨⟩
  cases h <;> exact ⟨rfl, by decide, fun hmark => absurd hmark (by decide)⟩

theorem Brackets.solid_right (h : Brackets left right opening closing) (p : Place) :
    Solid p (right :: rest) := by
  rintro d ⟨⟩
  cases h <;> exact ⟨rfl, by decide, fun hmark => absurd hmark (by decide)⟩

theorem Brackets.isBreak_left (h : Brackets left right opening closing) : isBreak left = false := by
  cases h <;> rfl

theorem Brackets.isBreak_right (h : Brackets left right opening closing) :
    isBreak right = false := by
  cases h <;> rfl

theorem Brackets.next_left (h : Brackets left right opening closing) {s : Lexer} (fuel : Nat)
    (hrest : s.here.rest = left :: rest) (hmarker : s.here.atMarker = false) :
    s.next fuel = s.flowStart opening := by
  rw [next, hrest]
  cases h <;> simp [hmarker]

theorem Brackets.next_right (h : Brackets left right opening closing) {s : Lexer} (fuel : Nat)
    (hrest : s.here.rest = right :: rest) (hmarker : s.here.atMarker = false) :
    s.next fuel = s.flowEnd closing := by
  rw [next, hrest]
  cases h <;> simp [hmarker]

theorem flowStart_between {token : Token}
    (hmark : (between allowed columns found ⟨p, left :: rest⟩).markKeyStart =
      some (starting start allowed columns found ⟨p, left :: rest⟩)) :
    (between allowed columns found ⟨p, left :: rest⟩).flowStart token =
      some (inside start columns (found ++ [token]) ⟨p.past left, rest⟩) := by
  rw [flowStart, hmark]
  simp [push, starting, between, inside, Cursor.drop_one]

theorem flowEnd_inside {token : Token} :
    (inside start columns found ⟨p, right :: rest⟩).flowEnd token =
      some (starting start false columns (found ++ [token]) ⟨p.past right, rest⟩) := by
  simp [flowEnd, dropKeyStart, push, starting, between, inside, Cursor.drop_one]

theorem forgetStale_inside (hstart : IsPast start (p.line + 1)) (hplace : ∀ k ∈ start, k.place = p)
    (hleft : isBreak left = false) (hsolid : Solid (p.past left) rest) :
    (inside start columns found ⟨p.past left, rest⟩).skip.forgetStale =
      some (inside start columns found ⟨p.past left, rest⟩) := by
  have hskip : (inside start columns found ⟨p.past left, rest⟩).skip =
      inside start columns found ⟨p.past left, rest⟩ :=
    congrArg (fun next : Bool × Cursor => { inside start columns found ⟨p.past left, rest⟩ with
      here := next.2, entryAllowed := next.1 }) (skipFrom_solid true true hsolid)
  have hfresh : refresh? (p.past left) start = some start := by
    cases start with
    | none => rfl
    | some k =>
      have hlength := Char.utf8Size_le_four left
      have hstale : KeyStart.isStale (p.past left) k = false := by
        rw [KeyStart.isStale, hplace k rfl, Place.past_of_not_isBreak hleft]
        simp only [Nat.lt_irrefl, decide_false, Bool.false_or, maxKeyBytes]
        exact decide_eq_false (by omega)
      simp [refresh?, hstale]
  have hnone : refresh? (p.past left) none = some none := rfl
  rw [hskip]
  simp only [forgetStale, inside, hnone, List.mapM_cons, List.mapM_nil, hfresh, Option.bind_eq_bind,
    Option.bind_some, Option.pure_def]

theorem leads_brackets (allowed : Bool) (found : List Token)
    (h : Brackets left right opening closing) (hleast : leastOf columns ≤ p.column)
    (hpos : 0 < p.column) (hmore : Continues k more) :
    ∃ p', p'.column = k ∧
      (between allowed columns found ⟨p, left :: right :: '\n' :: (spaces k ++ more)⟩).Leads
        (between true columns (found ++ [opening, closing]) ⟨p', more⟩) := by
  have hleft := h.isBreak_left
  have hbreak : ∀ d ∈ [left, right], isBreak d = false :=
    List.forall_mem_cons.mpr ⟨hleft, List.forall_mem_singleton.mpr h.isBreak_right⟩
  obtain ⟨hcolumn, hline⟩ := nextLine_of_forall hbreak p k
  obtain ⟨start, hpast, hplace, hmark⟩ := markKeyStart_starting allowed found
    (left :: right :: '\n' :: (spaces k ++ more)) hleast
  have hcolumn' : 0 < (p.past left).column := by
    rw [Place.past_of_not_isBreak hleft]
    exact Nat.succ_pos _
  refine ⟨_, hcolumn, ?_⟩
  -- The left bracket leads inside, the right one out again, and the line end to the next line.
  have hopen : (between allowed columns found ⟨p, left :: right :: '\n' :: (spaces k ++ more)⟩).Leads
      (inside start columns (found ++ [opening])
        ⟨p.past left, right :: '\n' :: (spaces k ++ more)⟩) := by
    refine leads_of_next (start_between (h.solid_left p)) (Nat.le_refl _)
      (fun fuel _ => ?_) (by simp [inside, between])
    have hnext : (between allowed columns found
        ⟨p, left :: right :: '\n' :: (spaces k ++ more)⟩).next fuel = _ :=
      h.next_left fuel rfl (Cursor.atMarker_of_pos hpos)
    rw [closeTo_between (reaches_of_leastOf_le hleast), hnext, flowStart_between hmark]
  have hclose : (inside start columns (found ++ [opening])
      ⟨p.past left, right :: '\n' :: (spaces k ++ more)⟩).Leads
        (starting start false columns (found ++ [opening] ++ [closing])
          ⟨(p.past left).past right, '\n' :: (spaces k ++ more)⟩) := by
    refine leads_of_next (forgetStale_inside hpast hplace hleft (h.solid_right _)) (Nat.le_refl _)
      (fun fuel _ => ?_) (by simp [inside, starting, between])
    have hnext : (inside start columns (found ++ [opening])
        ⟨p.past left, right :: '\n' :: (spaces k ++ more)⟩).next fuel = _ :=
      h.next_right fuel rfl (Cursor.atMarker_of_pos hcolumn')
    exact hnext.trans flowEnd_inside
  have hpast' : IsPast start (((p.past left).past right).line + 1) := by
    rw [Place.past_of_not_isBreak h.isBreak_right, Place.past_of_not_isBreak hleft]
    exact hpast
  rw [List.append_assoc] at hclose
  exact (hopen.trans hclose).trans
    (leads_between_of_newline false hpast' k (hmore.solid hcolumn))

theorem behind_brackets (h : Brackets left right opening closing) :
    Behind least [' ', left, right, '\n'] [opening, closing] := by
  refine ⟨rfl, ?_⟩
  rintro columns allowed found p k more rfl hleast hk hmore
  have hleast' : leastOf columns ≤ (p.past ' ').column := Nat.le_succ_of_le hleast
  have hsolid : Solid (p.past ' ') (left :: right :: '\n' :: (spaces k ++ more)) := h.solid_left _
  obtain ⟨p', hp', hleads⟩ := leads_brackets allowed found h hleast' (Nat.succ_pos _) hmore
  have hskip : (between allowed columns found
      ⟨p, ' ' :: left :: right :: '\n' :: (spaces k ++ more)⟩).skip = _ := skip_between 1 hsolid
  refine ⟨p', hp', .trans (leads_of_skip ?_ ?_) hleads⟩
  · exact (congrArg forgetStale hskip).trans (start_between hsolid).symm
  · simp [between]

theorem behind_brackets_below (h : Brackets left right opening closing) {n : Nat} (hn : least ≤ n) :
    Behind least ('\n' :: (spaces n ++ [left, right, '\n'])) [opening, closing] := by
  refine ⟨rfl, ?_⟩
  rintro columns allowed found p k more rfl hleast hk hmore
  have hcolumn : (p.after ('\n' :: spaces n)).column = n := by
    rw [Place.column_after_newline fun _ => isBreak_of_mem_spaces, length_spaces]
  obtain ⟨p', hp', hleads⟩ := leads_brackets true found h (hcolumn.symm ▸ hn)
    (show 0 < (p.after ('\n' :: spaces n)).column by omega) hmore
  have hsplit : '\n' :: (spaces n ++ [left, right, '\n']) ++ (spaces k ++ more) =
      '\n' :: (spaces n ++ left :: right :: '\n' :: (spaces k ++ more)) := by simp
  rw [hsplit]
  exact ⟨p', hp', (leads_newline n (h.solid_left _)).trans hleads⟩

end brackets

/-! ## Keys -/

/-- This text at the front of a line in this column gives this name as far as its colon. -/
structure Names (c : Nat) (text : List Char) (name : Token) : Prop where
  ne : text ≠ []
  oneLine : ∀ d ∈ text, isBreak d = false
  front : Continues c text
  leads : ∀ columns found p after, p.column = c → Reaches columns c → endsWord after = true →
    (between true columns found ⟨p, text ++ ':' :: after⟩).Leads
      (keyed columns found name p ⟨p.after text, ':' :: after⟩)

theorem names_plain {d : Char} (hline : Plain.IsLine (d :: text)) (hspace : isSpace d = false)
    (hd : d ∉ indicators) (hfront : c = 0 → d ≠ '.' ∧ isByteOrderMark d = false) :
    Names c (d :: text) (.scalar true (String.ofList (Plain.kept (d :: text)))) where
  ne := List.cons_ne_nil _ _
  oneLine e he := (hline.chars e he).1
  front := by
    rintro e ⟨⟩
    refine ⟨hspace, (hline.chars d List.mem_cons_self).2.2, fun hmark hc => ?_⟩
    rw [(hfront hc).2] at hmark
    cases hmark
  leads := by
    rintro columns found p after rfl hreach hends
    have hmarker : (⟨p, d :: (text ++ ':' :: after)⟩ : Cursor).atMarker = false := by
      by_cases hc : p.column = 0
      · have hdash : d ≠ '-' := fun h => hd (by rw [h, indicators_eq]; decide)
        exact Cursor.atMarker_of_head hdash (hfront hc).1 p _
      · exact Cursor.atMarker_of_pos (Nat.pos_of_ne_zero hc)
    refine leads_plainKey hline hspace hd hreach hends hmarker ?_
    rintro e ⟨⟩
    refine ⟨hspace, (hline.chars d List.mem_cons_self).2.2, fun hmark hc => ?_⟩
    rw [(hfront hc).2] at hmark
    cases hmark

theorem names_quoted (hc : 0 < c) (htext : ∀ d ∈ text, isBreak d = false ∨ d = '\n') :
    Names c (Quoted.key text) (.scalar false (String.ofList text)) where
  ne := List.cons_ne_nil _ _
  oneLine d hd := by
    rw [Quoted.key, List.cons_append, List.mem_cons, List.mem_append, List.mem_flatMap,
      List.mem_singleton] at hd
    rcases hd with rfl | ⟨e, he, hd⟩ | rfl
    · rfl
    · exact (Quoted.standsFor_escapeInKey (htext e he)).isBreak d hd
    · rfl
  front := by
    rintro d ⟨⟩
    exact ⟨rfl, by decide, fun h => absurd h (by decide)⟩
  leads := by
    rintro columns found p after rfl hreach -
    exact leads_quotedKey htext hreach hc

theorem Names.leads_colon {name : Token} (h : Names c text name)
    (hlength : (String.ofList text).utf8ByteSize ≤ maxKeyBytes)
    (hopens : Opens c .mappingStart columns found columns' found') (hp : p.column = c)
    (hends : endsWord after = true) :
    (between true columns found ⟨p, text ++ ':' :: after⟩).Leads
      (between false columns' (found' ++ [.key, name, .value])
        ⟨p.after (text ++ [':']), after⟩) := by
  subst hp
  exact (h.leads columns found p after rfl hopens.reaches hends).trans
    (Lexer.leads_colon hopens h.oneLine h.ne hends hlength)

theorem Names.fails {name : Token} (h : Names c text name)
    (hlength : maxKeyBytes < (String.ofList text).utf8ByteSize)
    (hopens : Opens c .mappingStart columns found columns' found') (hp : p.column = c)
    (hends : endsWord after = true) :
    (between true columns found ⟨p, text ++ ':' :: after⟩).Fails := by
  subst hp
  exact (h.leads columns found p after rfl hopens.reaches hends).fails
    (fails_colon hopens h.oneLine hends hlength)

/-! ## Entries -/

/-- This text is an entry, in this column, of a collection that begins with `start`. -/
structure Entry (c : Nat) (start : Token) (text : List Char) (tokens : List Token) : Prop where
  ne : text ≠ []
  front : Continues c text
  leads : ∀ columns columns' found found' p k more,
    Opens c start columns found columns' found' → p.column = c → k ≤ c → Continues k more →
      ∃ p', p'.column = k ∧
        (between true columns found ⟨p, text ++ (spaces k ++ more)⟩).Leads
          (between true columns' (found' ++ tokens) ⟨p', more⟩)

theorem Opens.head? {start : Token} (h : Opens c start columns found columns' found') :
    columns'.head? = some c := by
  cases h with
  | inside h => exact h
  | new => rfl

theorem Opens.leastOf_eq {start : Token} (h : Opens c start columns found columns' found') :
    leastOf columns' = c + 1 := by
  rw [leastOf, h.head?]
  rfl

theorem Continues.append (h : Continues c text) (hne : text ≠ []) (more : List Char) :
    Continues c (text ++ more) := by
  cases text with
  | nil => exact absurd rfl hne
  | cons d text => exact h

theorem endsWord_append (h : text.head?.any isSpace = true) (more : List Char) :
    endsWord (text ++ more) = true := by
  cases text with
  | nil => cases h
  | cons d text => exact h

theorem entry_key {key : List Char} {name : Token} (hkey : Names c key name)
    (hlength : (String.ofList key).utf8ByteSize ≤ maxKeyBytes) (htext : Behind (c + 1) text tokens) :
    Entry c .mappingStart (key ++ ':' :: text) (.key :: name :: .value :: tokens) where
  ne h := absurd (List.append_eq_nil_iff.mp h).1 hkey.ne
  front := hkey.front.append hkey.ne _
  leads := by
    rintro columns columns' found found' p k more hopens rfl hk hmore
    have hcolumn : p.column + 1 ≤ (p.after (key ++ [':'])).column := by
      rw [Place.column_after, List.length_append]
      · exact Nat.add_le_add_left (Nat.le_add_left 1 _) _
      · intro d hd
        rcases List.mem_append.mp hd with hd | hd
        · exact hkey.oneLine d hd
        · rw [List.mem_singleton.mp hd]
          rfl
    obtain ⟨p', hp', hleads⟩ := htext.leads columns' false (found' ++ [.key, name, .value]) _ k more
      hopens.leastOf_eq hcolumn (Nat.lt_succ_of_le hk) hmore
    have hcolon := hkey.leads_colon hlength hopens rfl
      (endsWord_append htext.apart (spaces k ++ more))
    rw [List.append_assoc] at hleads
    rw [List.append_assoc]
    exact ⟨p', hp', hcolon.trans hleads⟩

theorem entryMark_between {start : Token} {d : Char}
    (hopens : Opens p.column start columns found columns' found') :
    (between true columns found ⟨p, d :: rest⟩).entryMark .entry start =
      some (between true columns' (found' ++ [.entry]) ⟨p.past d, rest⟩) := by
  have hopen : (between true columns found ⟨p, d :: rest⟩).openAt p.column found.length start =
      between true columns' found' ⟨p, d :: rest⟩ := by
    rw [openAt_of_opens hopens rfl rfl (by rw [List.append_nil]; rfl), List.append_nil]
    rfl
  have hsize : (between true columns found ⟨p, d :: rest⟩).found.size = found.length := rfl
  have hcolumn : (between true columns found ⟨p, d :: rest⟩).here.column = p.column := rfl
  rw [entryMark, hsize, hcolumn, hopen]
  simp [between, inFlow, dropKeyStart, push, Cursor.drop_one]

theorem entry_dash (hc : 0 < c) (htext : Behind (c + 1) text tokens) :
    Entry c .sequenceStart ('-' :: text) (.entry :: tokens) where
  ne := List.cons_ne_nil _ _
  front := by
    rintro d ⟨⟩
    exact ⟨rfl, by decide, fun h => absurd h (by decide)⟩
  leads := by
    rintro columns columns' found found' p k more hopens rfl hk hmore
    have hsolid : Solid p ('-' :: (text ++ (spaces k ++ more))) := by
      rintro d ⟨⟩
      exact ⟨rfl, by decide, fun h => absurd h (by decide)⟩
    obtain ⟨p', hp', hleads⟩ := htext.leads columns' true (found' ++ [.entry]) (p.past '-') k more
      hopens.leastOf_eq (Nat.le_refl _) (Nat.lt_succ_of_le hk) hmore
    rw [List.append_assoc] at hleads
    refine ⟨p', hp', .trans (leads_of_next (start_between hsolid) (Nat.le_refl _)
      (fun fuel hfuel => ?_) ?_) hleads⟩
    · have hnext : (between true columns found ⟨p, '-' :: text ++ (spaces k ++ more)⟩).next fuel =
          _ := next_dash rfl (endsWord_append htext.apart _) (Cursor.atMarker_of_pos hc)
      rw [closeTo_between hopens.reaches, hnext]
      exact entryMark_between hopens
    · simp [between]

/-! ## Blocks -/

def stacked (c : Nat) (entries : List (List Char × List Token)) : List Char :=
  entries.flatMap fun entry => spaces c ++ entry.1

section block

variable {start : Token} {first : List Char × List Token}
  {entries : List (List Char × List Token)}

theorem stacked_cons (c : Nat) (first : List Char × List Token)
    (entries : List (List Char × List Token)) :
    stacked c (first :: entries) = spaces c ++ first.1 ++ stacked c entries := rfl

theorem leads_entries (h : ∀ entry ∈ first :: entries, Entry c start entry.1 entry.2)
    (hopens : Opens c start columns found columns' found') (hp : p.column = c) (hk : k ≤ c)
    (hmore : Continues k more) :
    ∃ p', p'.column = k ∧
      (between true columns found
        ⟨p, first.1 ++ (stacked c entries ++ (spaces k ++ more))⟩).Leads
        (between true columns' (found' ++ (first :: entries).flatMap Prod.snd) ⟨p', more⟩) := by
  induction entries generalizing first columns columns' found found' p with
  | nil =>
    have hfirst := h first List.mem_cons_self
    simpa [stacked] using hfirst.leads _ _ _ _ p k more hopens hp hk hmore
  | cons second entries ih =>
    -- The first entry may open the block. Behind it the block is open, and the others are inside.
    rw [List.forall_mem_cons] at h
    have hsecond := h.2 second List.mem_cons_self
    have hnext : Continues c (second.1 ++ (stacked c entries ++ (spaces k ++ more))) :=
      hsecond.front.append hsecond.ne _
    obtain ⟨p', hp', hleads⟩ := h.1.leads _ _ _ _ p c _ hopens hp (Nat.le_refl c) hnext
    obtain ⟨p'', hp'', hrest⟩ := ih h.2 (.inside hopens.head?) hp'
    have htokens : found' ++ (first :: second :: entries).flatMap Prod.snd =
        found' ++ first.2 ++ (second :: entries).flatMap Prod.snd := by simp
    refine ⟨p'', hp'', ?_⟩
    rw [htokens, stacked_cons, List.append_assoc, List.append_assoc]
    exact hleads.trans hrest

theorem behind_block (hc : least ≤ c) (h : ∀ entry ∈ first :: entries, Entry c start entry.1 entry.2) :
    Behind least ('\n' :: stacked c (first :: entries))
      (start :: (first :: entries).flatMap Prod.snd ++ [.blockEnd]) := by
  refine ⟨rfl, ?_⟩
  rintro columns allowed found p k more rfl hleast hk hmore
  have hfirst := h first List.mem_cons_self
  have hcolumn : (p.after ('\n' :: spaces c)).column = c := by
    rw [Place.column_after_newline fun _ => isBreak_of_mem_spaces, length_spaces]
  obtain ⟨p', hp', hleads⟩ := leads_entries h (.new hc) hcolumn
    (Nat.le_of_lt (Nat.lt_of_lt_of_le hk hc)) hmore
  have hsolid : Solid (p.after ('\n' :: spaces c))
      (first.1 ++ (stacked c entries ++ (spaces k ++ more))) :=
    (hfirst.front.append hfirst.ne _).solid hcolumn
  have hend : (between true (c :: columns) (found ++ [start] ++ (first :: entries).flatMap Prod.snd)
      ⟨p', more⟩).Leads _ :=
    leads_blockEnd (hp' ▸ Nat.lt_of_lt_of_le hk hc) (hmore.solid hp')
  have hsplit : '\n' :: stacked c (first :: entries) ++ (spaces k ++ more) =
      '\n' :: (spaces c ++ (first.1 ++ (stacked c entries ++ (spaces k ++ more)))) := by
    simp [stacked_cons]
  have htokens : found ++ (start :: (first :: entries).flatMap Prod.snd ++ [.blockEnd]) =
      found ++ [start] ++ (first :: entries).flatMap Prod.snd ++ [.blockEnd] := by simp
  rw [hsplit, htokens]
  exact ⟨p', hp', ((leads_newline c hsolid).trans hleads).trans hend⟩

theorem tokens?_block (h : ∀ entry ∈ first :: entries, Entry 0 start entry.1 entry.2) :
    tokens? (stacked 0 (first :: entries)) =
      some (start :: (first :: entries).flatMap Prod.snd ++ [.blockEnd]) := by
  have hnew : Opens 0 start [] [] [0] [start] := .new (Nat.zero_le 0)
  have hmore : Continues 0 [] := nofun
  obtain ⟨p', -, hleads⟩ := leads_entries h hnew (p := {}) rfl (Nat.le_refl 0) hmore
  have htext : first.1 ++ (stacked 0 entries ++ (spaces 0 ++ [])) = stacked 0 (first :: entries) := by
    simp [stacked_cons, spaces]
  rw [htext] at hleads
  obtain ⟨fuel, hfuel, hrun⟩ := hleads _ (Nat.lt_succ_self _)
  exact hrun.trans (run_between_nil (Nat.zero_lt_of_lt hfuel))

end block

end RowQuery.Yaml.Lexer
