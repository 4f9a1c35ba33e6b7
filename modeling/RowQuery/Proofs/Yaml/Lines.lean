import RowQuery.Proofs.Yaml.Lexer

/-!
# Lines of block collections

What stands behind a colon or a dash is a value on the same line, an empty flow collection, or a
block collection on the lines below. Each is read up to the front of the next line, which may stand
no deeper than the collection it is in.
-/
namespace RowQuery.Yaml.Lexer

def Continues (k : Nat) (more : List Char) : Prop :=
  ∀ c ∈ more.head?, isSpace c = false ∧ c ≠ '#' ∧ (isByteOrderMark c = true → k ≠ 0)

variable {columns columns' : List Nat} {found found' : List Token} {allowed : Bool} {p : Place}
  {rest more text : List Char} {k least : Nat} {start : Option KeyStart}

theorem Continues.solid (h : Continues k more) (hp : p.column = k) : Solid p more := by
  rw [Solid, hp]
  exact h

theorem Continues.stops (h : Continues k more) : Stops more := fun c hc => (h c hc).1

/-- This text behind a mark gives these tokens, where what belongs to the collection of the mark
reaches this column. -/
structure Behind (least : Nat) (text : List Char) (tokens : List Token) : Prop where
  apart : text.head?.any isSpace = true
  leads : ∀ columns allowed found p k more, leastOf columns = least → least ≤ p.column → k < least →
    Continues k more → ∃ p', p'.column = k ∧
      (between allowed columns found ⟨p, text ++ (spaces k ++ more)⟩).Leads
        (between true columns (found ++ tokens) ⟨p', more⟩)

/-! ## Keys that came to nothing -/

def starting (start : Option KeyStart) (allowed : Bool) (columns : List Nat) (found : List Token)
    (here : Cursor) : Lexer :=
  { between allowed columns found here with keyStart := start }

def IsPast (start : Option KeyStart) (line : Nat) : Prop :=
  ∀ k ∈ start, k.required = false ∧ k.place.line < line

theorem forgetStale_starting (h : IsPast start p.line) :
    (starting start allowed columns found ⟨p, rest⟩).forgetStale =
      some (between allowed columns found ⟨p, rest⟩) := by
  cases start with
  | none => rfl
  | some k =>
    obtain ⟨hrequired, hline⟩ := h k rfl
    simp [forgetStale, starting, between, refresh?, KeyStart.isStale, hrequired, hline]

theorem leads_between_of_starting (hstart : IsPast start p.line) (h : Solid p rest) :
    (starting start true columns found ⟨p, rest⟩).Leads (between true columns found ⟨p, rest⟩) := by
  refine leads_of_skip ?_ (Nat.le_refl _)
  have hskip : (starting start true columns found ⟨p, rest⟩).skip =
      starting start true columns found ⟨p, rest⟩ :=
    congrArg (fun next : Bool × Cursor => { starting start true columns found ⟨p, rest⟩ with
      here := next.2, entryAllowed := next.1 }) (skipFrom_solid false true h)
  rw [hskip, forgetStale_starting hstart, start_between h]

theorem leads_between_of_newline (allowed : Bool) (hstart : IsPast start (p.line + 1)) (n : Nat)
    (h : Solid (p.after ('\n' :: spaces n)) rest) :
    (starting start allowed columns found ⟨p, '\n' :: (spaces n ++ rest)⟩).Leads
      (between true columns found ⟨p.after ('\n' :: spaces n), rest⟩) := by
  have hline : (p.after ('\n' :: spaces n)).line = p.line + 1 := by
    rw [Place.after_cons, Place.line_after fun _ => isBreak_of_mem_spaces]
    rfl
  have hskip : (starting start allowed columns found ⟨p, '\n' :: (spaces n ++ rest)⟩).skip =
      starting start true columns found ⟨p.after ('\n' :: spaces n), rest⟩ := by
    have hbetween : (between allowed columns found ⟨p, '\n' :: (spaces n ++ rest)⟩).skip = _ :=
      skip_newline n h
    rw [starting, starting, ← hbetween]
    rfl
  refine leads_of_skip ?_ ?_
  · rw [hskip, forgetStale_starting (hline ▸ hstart), start_between h]
  · simp only [starting, between, List.length_cons, List.length_append]
    omega

theorem markKeyStart_starting (allowed : Bool) (found : List Token) (rest : List Char)
    (h : leastOf columns ≤ p.column) :
    ∃ start, IsPast start (p.line + 1) ∧
      (∀ k ∈ start, k.place = p) ∧
      (between allowed columns found ⟨p, rest⟩).markKeyStart =
        some (starting start allowed columns found ⟨p, rest⟩) := by
  cases allowed with
  | false => exact ⟨none, nofun, nofun, rfl⟩
  | true =>
    have hrequired : decide (columns.head? = some p.column) = false := by
      rw [decide_eq_false_iff_not]
      intro hhead
      rw [leastOf, hhead] at h
      exact absurd h (Nat.not_succ_le_self _)
    refine ⟨some ⟨found.length, p, columns.head? = some p.column⟩, ?_, ?_,
      markKeyStart_between columns found _⟩
    · rintro k ⟨⟩
      exact ⟨hrequired, Nat.lt_succ_self _⟩
    · rintro k ⟨⟩
      rfl

/-! ## Values on the line of their mark -/

theorem reaches_of_leastOf_le (h : leastOf columns ≤ p.column) : Reaches columns p.column := by
  intro c hc
  rw [leastOf, Option.mem_def.mp hc] at h
  exact Nat.le_of_succ_le h

theorem leads_of_value {word : List Char} {s' : Lexer} (hleast : leastOf columns ≤ p.column)
    (hsolid : Solid (p.past ' ') (word ++ rest))
    (hnext : ∀ fuel, (word ++ rest).length < fuel →
      (between allowed columns found ⟨p.past ' ', word ++ rest⟩).next fuel = some s')
    (hless : s'.here.rest.length < (word ++ rest).length) :
    (between allowed columns found ⟨p, ' ' :: word ++ rest⟩).Leads s' := by
  have hcolumn : (p.past ' ').column = p.column + 1 := rfl
  have hreach : Reaches columns (p.past ' ').column := fun c hc =>
    Nat.le_succ_of_le (reaches_of_leastOf_le hleast c hc)
  have hstart : (between allowed columns found ⟨p, ' ' :: word ++ rest⟩).skip.forgetStale =
      some (between allowed columns found ⟨p.past ' ', word ++ rest⟩) :=
    congrArg forgetStale (skip_between 1 hsolid)
  refine leads_of_next hstart ?_ (fun fuel hfuel => ?_) hless
  · simp only [between, List.cons_append, List.length_cons]
    omega
  · rw [closeTo_between hreach]
    exact hnext fuel hfuel

theorem nextLine_of_forall (htext : ∀ d ∈ text, isBreak d = false) (p : Place) (k : Nat) :
    (p.after (text ++ '\n' :: spaces k)).column = k ∧
      (p.after (text ++ '\n' :: spaces k)).line = p.line + 1 := by
  rw [Place.after_append]
  constructor
  · rw [Place.column_after_newline fun _ => isBreak_of_mem_spaces, length_spaces]
  · rw [Place.after_cons, Place.line_after fun _ => isBreak_of_mem_spaces,
      ← Place.line_after htext p]
    rfl

theorem behind_plain {c : Char} (hline : Plain.IsLine (c :: text)) (hspace : isSpace c = false)
    (hc : c ∉ indicators) :
    Behind least (' ' :: (c :: text) ++ ['\n'])
      [.scalar true (String.ofList (Plain.kept (c :: text)))] := by
  refine ⟨rfl, ?_⟩
  rintro columns allowed found p k more rfl hleast hk hmore
  have hleast' : leastOf columns ≤ (p.past ' ').column := Nat.le_succ_of_le hleast
  have hpos : 0 < (p.past ' ').column := Nat.succ_pos _
  obtain ⟨hcolumn, hnext⟩ :=
    nextLine_of_forall (fun d hd => (hline.chars d hd).1) (p.past ' ') k
  obtain ⟨start, hpast, -, hmark⟩ := markKeyStart_starting allowed found
    (c :: text ++ '\n' :: (spaces k ++ more)) hleast'
  have hsplit : ' ' :: (c :: text) ++ ['\n'] ++ (spaces k ++ more) =
      ' ' :: (c :: text) ++ '\n' :: (spaces k ++ more) := by simp
  have hmarker : (⟨p.past ' ', c :: (text ++ '\n' :: (spaces k ++ more))⟩ : Cursor).atMarker =
      false :=
    Cursor.atMarker_of_pos hpos
  rw [← hnext] at hpast
  refine ⟨_, hcolumn, ?_⟩
  rw [hsplit]
  refine (leads_of_value hleast ?_ (fun fuel hfuel => ?_) ?_).trans
    (leads_between_of_starting hpast (hmore.solid hcolumn))
  · rintro d ⟨⟩
    exact ⟨hspace, fun h => hc (by rw [h, indicators_eq]; decide), fun _ => Nat.ne_of_gt hpos⟩
  · rw [next_plain rfl rfl hmarker hspace hc, plainScalar_eq hmark
      (plain_newline hline hspace hk (hmore.solid hcolumn).stops hmarker hfuel)]
    simp [starting, between]
  · simp only [starting, between, List.length_append, List.length_cons]
    omega

theorem behind_of_quoted {word : List Char} (hbreak : ∀ d ∈ word, isBreak d = false)
    (hfirst : ∀ d ∈ word.head?, isSpace d = false ∧ d ≠ '#') (hne : word ≠ [])
    (hread : ∀ (s : Lexer) fuel p rest, s.here = ⟨p, word ++ '\n' :: rest⟩ → 0 < p.column →
      (word ++ '\n' :: rest).length < fuel → ∃ read, s.next fuel = s.quotedScalar read ∧
        read ⟨p, word ++ '\n' :: rest⟩ = some (text, ⟨p.after word, '\n' :: rest⟩)) :
    Behind least (' ' :: word ++ ['\n']) [.scalar false (String.ofList text)] := by
  refine ⟨rfl, ?_⟩
  rintro columns allowed found p k more rfl hleast hk hmore
  have hleast' : leastOf columns ≤ (p.past ' ').column := Nat.le_succ_of_le hleast
  have hpos : 0 < (p.past ' ').column := Nat.succ_pos _
  obtain ⟨hcolumn, hnext⟩ := nextLine_of_forall hbreak (p.past ' ') k
  obtain ⟨start, hpast, -, hmark⟩ := markKeyStart_starting allowed found
    (word ++ '\n' :: (spaces k ++ more)) hleast'
  have hline : IsPast start (((p.past ' ').after word).line + 1) := by
    rwa [Place.line_after hbreak]
  have hsplit : ' ' :: word ++ ['\n'] ++ (spaces k ++ more) =
      ' ' :: word ++ '\n' :: (spaces k ++ more) := by simp
  rw [Place.after_append] at hcolumn
  refine ⟨_, hcolumn, ?_⟩
  rw [hsplit]
  refine (leads_of_value hleast ?_ (fun fuel hfuel => ?_) ?_).trans
    (leads_between_of_newline false hline k (hmore.solid hcolumn))
  · intro d hd
    cases word with
    | nil => exact absurd rfl hne
    | cons c word => exact ⟨(hfirst d hd).1, (hfirst d hd).2, fun _ => Nat.ne_of_gt hpos⟩
  · obtain ⟨read, hscalar, hvalue⟩ := hread
      (between allowed columns found ⟨p.past ' ', word ++ '\n' :: (spaces k ++ more)⟩) fuel _ _ rfl
        hpos hfuel
    rw [hscalar, quotedScalar_eq hmark hvalue]
    simp [starting, between]
  · have hlength := List.length_pos_of_ne_nil hne
    simp only [starting, between, List.length_append, List.length_cons]
    omega

theorem behind_doubleQuoted (s : List Char) :
    Behind least (' ' :: Quoted.value s ++ ['\n']) [.scalar false (String.ofList s)] := by
  refine behind_of_quoted (fun d hd => ?_) ?_ (List.cons_ne_nil _ _) ?_
  · rw [Quoted.value, List.cons_append, List.mem_cons, List.mem_append, List.mem_flatMap,
      List.mem_singleton] at hd
    rcases hd with rfl | ⟨c, -, hd⟩ | rfl
    · rfl
    · exact (Quoted.standsFor_escapeInValue c).isBreak d hd
    · rfl
  · rintro d ⟨⟩
    decide
  · intro t fuel q rest hhere hpos hfuel
    refine ⟨doubleQuoted fuel, ?_, doubleQuoted_value (Nat.le_of_lt hfuel)⟩
    exact next_doubleQuoted (by rw [hhere]; rfl) (by rw [hhere]; exact Cursor.atMarker_of_pos hpos)

theorem behind_singleQuoted {c : Char} (hspace : isSpace c = false) (hquote : c ≠ '\'') :
    Behind least (' ' :: ['\'', c, '\''] ++ ['\n']) [.scalar false (String.ofList [c])] := by
  refine behind_of_quoted (fun d hd => ?_) ?_ (List.cons_ne_nil _ _) ?_
  · rcases List.mem_cons.mp hd with rfl | hd
    · rfl
    · rcases List.mem_cons.mp hd with rfl | hd
      · exact isBreak_of_not_isSpace hspace
      · exact List.mem_singleton.mp hd ▸ rfl
  · rintro d ⟨⟩
    decide
  · intro t fuel q rest hhere hpos hfuel
    refine ⟨singleQuoted fuel, ?_, ?_⟩
    · exact next_singleQuoted (by rw [hhere]; rfl)
        (by rw [hhere]; exact Cursor.atMarker_of_pos hpos)
    · obtain ⟨fuel, rfl⟩ : ∃ n, fuel = n + 2 := by
        refine ⟨fuel - 2, ?_⟩
        simp only [List.length_append, List.length_cons] at hfuel
        omega
      exact singleQuoted_singleton hspace hquote (by simp)

theorem blockScalar_between (allowed : Bool) (columns : List Nat) (found : List Token)
    (here : Cursor) (fuel : Nat) :
    (between allowed columns found here).blockScalar fuel =
      (block fuel (leastOf columns) here).map fun (text, next) =>
        between true columns (found ++ [.scalar false (String.ofList text)]) next := by
  have hdrop : (between allowed columns found here).dropKeyStart =
      some (between allowed columns found here) := rfl
  have hleast : (between allowed columns found here).least = leastOf columns := rfl
  have hhere : (between allowed columns found here).here = here := rfl
  rw [blockScalar, hdrop]
  simp only [Option.bind_eq_bind, Option.bind_some, hleast, hhere]
  cases block fuel (leastOf columns) here with
  | none => rfl
  | some read => simp [pushRead, scalarToken, between]

theorem behind_blockText {h : Header} {indentation : Nat} {c : Char} {mark line : List Char}
    {lines : List (List Char)} (hc : c = '|' ∨ c = '>') (hmark : ∀ d ∈ mark, isBreak d = false)
    (hheader : header? (c = '>') mark = some h) (hnone : h.indentation = none)
    (hstart : Stops line) (hne : line ≠ []) (hlines : ∀ l ∈ line :: lines, IsBlockLine l)
    (hfolded : h.folded = true → ∀ l ∈ lines, l.head?.any isBlank = false)
    (hleast : least ≤ indentation) :
    Behind least (' ' :: blockText indentation (c :: mark) (line :: lines) ++ ['\n'])
      [.scalar false (String.ofList (line ++ h.joined 0 lines))] := by
  refine ⟨rfl, ?_⟩
  rintro columns allowed found p k more rfl hp hk hmore
  have hpos : 0 < (p.past ' ').column := Nat.succ_pos _
  have hbreak : isBreak c = false := by rcases hc with rfl | rfl <;> rfl
  have hsplit : ' ' :: blockText indentation (c :: mark) (line :: lines) ++ ['\n'] ++
      (spaces k ++ more) = ' ' :: blockText indentation (c :: mark) (line :: lines) ++
        '\n' :: (spaces k ++ more) := by simp
  have hcolumn : ((p.past ' ').after (blockText indentation (c :: mark) (line :: lines) ++
      '\n' :: spaces k)).column = k := by
    rw [Place.after_append, Place.column_after_newline fun _ => isBreak_of_mem_spaces,
      length_spaces]
  refine ⟨_, hcolumn, ?_⟩
  rw [hsplit]
  refine leads_of_value hp ?_ (fun fuel hfuel => ?_) ?_
  · rintro d ⟨⟩
    rcases hc with rfl | rfl <;> exact ⟨rfl, by decide, fun h => absurd h (by decide)⟩
  · have hnext : (between allowed columns found ⟨p.past ' ',
        blockText indentation (c :: mark) (line :: lines) ++ '\n' :: (spaces k ++ more)⟩).next fuel =
          _ := next_block hc rfl rfl (Cursor.atMarker_of_pos hpos)
    have hread : block fuel (leastOf columns) ⟨p.past ' ', _⟩ = _ := block_blockText fuel
      (List.forall_mem_cons.mpr ⟨hbreak, hmark⟩) (by simpa using hheader) hnone hstart hne hlines
      hfolded hleast (Nat.lt_of_lt_of_le hk hleast) hmore.stops hfuel
    rw [hnext, blockScalar_between, hread]
    rfl
  · simp only [between, List.length_append, List.length_cons]
    omega

end RowQuery.Yaml.Lexer
