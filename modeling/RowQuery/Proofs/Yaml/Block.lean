import RowQuery.Proofs.Yaml.Quoted
import RowQuery.Yaml.Style

/-!
# Block scalars read back

The lines of a block come back with line feeds between them, or with spaces where the block is
folded, and at its end stands what its mark keeps of the empty lines there. A folded value is cut
into lines that begin with another character than a space, so joining them with spaces restores it;
a literal value is read back with every line end at its end.
-/
namespace RowQuery.Yaml

def indented (indentation : Nat) (lines : List (List Char)) : List Char :=
  lines.flatMap fun line => spaces indentation ++ line ++ ['\n']

def IsBlockLine (line : List Char) : Prop := ∀ c ∈ line, isBreak c = false ∧ c ≠ '\t'

variable {h : Header} {indentation k fuel widest : Nat} {p : Place} {line rest more : List Char}
  {lines : List (List Char)}

/-! ## Empty lines -/

theorem length_takeWhile_spaces (n : Nat) (rest : List Char) :
    ((spaces n ++ rest).takeWhile (· == ' ')).length =
      n + (rest.takeWhile (· == ' ')).length := by
  rw [List.takeWhile_append_of_pos fun c hc => by simp [mem_spaces hc], List.length_append,
    length_spaces]

theorem min_length_takeWhile_spaces (n : Nat) (rest : List Char) :
    min n ((spaces n ++ rest).takeWhile (· == ' ')).length = (spaces n).length := by
  rw [length_takeWhile_spaces, length_spaces]
  omega

theorem column_after_spaces (hp : p.column = 0) (n : Nat) : (p.after (spaces n)).column = n := by
  rw [Place.column_after fun _ => isBreak_of_mem_spaces, hp, length_spaces, Nat.zero_add]

theorem column_after_line (p : Place) (line : List Char) : (p.after (line ++ ['\n'])).column = 0 := by
  rw [Place.after_append]
  rfl

theorem drop_line (p : Place) (line more : List Char) :
    (⟨p, line ++ '\n' :: more⟩ : Cursor).drop (line.length + 1) = ⟨p.after (line ++ ['\n']), more⟩ := by
  have hsplit : line ++ '\n' :: more = (line ++ ['\n']) ++ more := by simp
  have hlength : line.length + 1 = (line ++ ['\n']).length := by simp
  rw [hsplit, hlength, Cursor.drop_append]

theorem length_takeWhile_of_stops (hrest : Stops rest) :
    (rest.takeWhile (· == ' ')).length = 0 := by
  cases rest with
  | nil => rfl
  | cons c rest =>
    have hc : c ≠ ' ' := by
      rintro rfl
      exact absurd (stops_cons.mp hrest) (by decide)
    simp [hc]

theorem emptyLines_end (fuel widest : Nat) (p : Place) (hk : k < indentation)
    (hrest : Stops rest) :
    ∃ w, emptyLines (some indentation) (fuel + 1) widest ⟨p, spaces k ++ rest⟩ =
      some ([], w, ⟨p.after (spaces k), rest⟩) := by
  have hwidth : min indentation ((spaces k ++ rest).takeWhile (· == ' ')).length =
      (spaces k).length := by
    rw [length_takeWhile_spaces, length_takeWhile_of_stops hrest, length_spaces]
    omega
  rw [emptyLines]
  simp only [Option.elim_some, hwidth, Cursor.drop_append]
  cases rest with
  | nil => exact ⟨_, rfl⟩
  | cons c rest =>
    have hspace := stops_cons.mp hrest
    have htab : c ≠ '\t' := by
      rintro rfl
      exact absurd hspace (by decide)
    simp [htab, isBreak_of_not_isSpace hspace]

theorem emptyLines_empty (indentation fuel widest : Nat) (p : Place) (more : List Char) :
    ∃ w, emptyLines (some indentation) (fuel + 1) widest ⟨p, spaces indentation ++ '\n' :: more⟩ =
      (emptyLines (some indentation) fuel w
        ⟨p.after (spaces indentation ++ ['\n']), more⟩).map fun (breaks, found) =>
          ('\n' :: breaks, found) := by
  rw [emptyLines]
  simp only [Option.elim_some, min_length_takeWhile_spaces, Cursor.drop_append]
  refine ⟨max widest (spaces indentation).length, ?_⟩
  simp [isBreak, Cursor.drop_one, Place.after_append, Place.after_cons, Place.after_nil]

theorem emptyLines_line (indentation fuel widest : Nat) (p : Place) (more : List Char) (hne : line ≠ [])
    (hline : IsBlockLine line) :
    ∃ w, emptyLines (some indentation) (fuel + 1) widest
        ⟨p, spaces indentation ++ (line ++ '\n' :: more)⟩ =
      some ([], w, ⟨p.after (spaces indentation), line ++ '\n' :: more⟩) := by
  rw [emptyLines]
  simp only [Option.elim_some, min_length_takeWhile_spaces, Cursor.drop_append]
  cases line with
  | nil => exact absurd rfl hne
  | cons c line =>
    obtain ⟨hbreak, htab⟩ := hline c List.mem_cons_self
    simp [htab, hbreak]

/-! ## Lines -/

/-- What stands before a line that follows another with so many empty lines between. -/
def Header.joint (h : Header) (empty : Nat) : List Char :=
  if h.folded then if empty = 0 then [' '] else List.replicate empty '\n'
  else '\n' :: List.replicate empty '\n'

/-- What stands at the end of a block whose last line has so many empty lines behind it. -/
def Header.ending (h : Header) (empty : Nat) : List Char :=
  (if h.chomping = .strip then [] else ['\n']) ++
    if h.chomping = .keep then List.replicate empty '\n' else []

def Header.joined (h : Header) : Nat → List (List Char) → List Char
  | empty, [] => h.ending empty
  | empty, [] :: rest => h.joined (empty + 1) rest
  | empty, line :: rest => h.joint empty ++ line ++ h.joined 0 rest

theorem Header.joined_cons (h : Header) {line : List Char} (hne : line ≠ []) (empty : Nat)
    (lines : List (List Char)) :
    h.joined empty (line :: lines) = h.joint empty ++ line ++ h.joined 0 lines := by
  cases line with
  | nil => exact absurd rfl hne
  | cons c line => simp [joined]

theorem blockTail_end {blank : Bool} {ending trailing : List Char} (hp : p.column ≠ indentation) :
    blockTail h indentation (fuel + 1) blank ending trailing ⟨p, rest⟩ =
      some ((if h.chomping = .strip then [] else ending) ++
        (if h.chomping = .keep then trailing else []), ⟨p, rest⟩) := by
  rw [blockTail, if_pos]
  exact Bool.or_eq_true_iff.mpr (.inr (decide_eq_true hp))

theorem blockTail_line {blank : Bool} {ending trailing : List Char} (hp : p.column = indentation)
    (hline : IsBlockLine line) :
    blockTail h indentation (fuel + 1) blank ending trailing ⟨p, line ++ '\n' :: more⟩ =
      (emptyLines (some indentation) fuel 0 ⟨p.after (line ++ ['\n']), more⟩).bind
        fun (breaks, _, next) =>
          prepend ((if h.folded && ending = ['\n'] && !blank && !line.head?.any isBlank then
              if trailing.isEmpty then [' '] else [] else ending) ++ trailing ++ line)
            (blockTail h indentation fuel (line.head?.any isBlank) ['\n'] breaks next) := by
  have htake : (line ++ '\n' :: more).takeWhile (fun c => !isBreak c) = line :=
    takeWhile_append_of_stop (fun c hc => by simp [(hline c hc).1]) (by simp [isBreak])
  have hhead : (line ++ '\n' :: more).head?.any isBlank = line.head?.any isBlank := by
    cases line <;> rfl
  have hlast : ∀ q : Place, (⟨q, '\n' :: more⟩ : Cursor).drop 1 = ⟨q.after ['\n'], more⟩ := fun _ => rfl
  have hstart : (⟨p, line ++ '\n' :: more⟩ : Cursor).isEnd = false := by
    cases line <;> rfl
  rw [blockTail]
  simp only [hstart, hp, Cursor.column, htake, hhead, Cursor.drop_append, hlast,
    ← Place.after_append, ne_eq, not_true_eq_false, decide_false, Bool.or_self, Bool.false_eq_true,
    if_false, List.take_succ_cons, List.take_zero]
  rfl

theorem indented_cons (indentation : Nat) (line : List Char) (lines : List (List Char)) :
    indented indentation (line :: lines) =
      spaces indentation ++ line ++ ['\n'] ++ indented indentation lines := rfl

theorem indented_cons_append (line : List Char) (lines : List (List Char)) (more : List Char) :
    indented indentation (line :: lines) ++ more =
      spaces indentation ++ (line ++ '\n' :: (indented indentation lines ++ more)) := by
  simp [indented_cons]

theorem after_indented_cons (p : Place) (line : List Char) (lines : List (List Char))
    (more : List Char) :
    p.after (indented indentation (line :: lines) ++ more) =
      ((p.after (spaces indentation)).after (line ++ ['\n'])).after
        (indented indentation lines ++ more) := by
  rw [← Place.after_append, ← Place.after_append]
  simp [indented_cons]

theorem prepend_bind {α : Type} (cs : List Char) (x : Option α)
    (f : α → Option (List Char × Cursor)) :
    (x.bind fun a => prepend cs (f a)) = prepend cs (x.bind f) := by
  cases x <;> rfl

theorem blockTail_joint {blank : Bool} (hp : p.column = indentation) (hline : IsBlockLine line)
    (hblank : h.folded = true → blank = false)
    (hhead : h.folded = true → line.head?.any isBlank = false) (empty : Nat) :
    blockTail h indentation (fuel + 1) blank ['\n'] (List.replicate empty '\n')
        ⟨p, line ++ '\n' :: more⟩ =
      prepend (h.joint empty ++ line)
        ((emptyLines (some indentation) fuel 0 ⟨p.after (line ++ ['\n']), more⟩).bind
          fun (breaks, _, next) =>
            blockTail h indentation fuel (line.head?.any isBlank) ['\n'] breaks next) := by
  have hjoint : (if h.folded && ['\n'] = ['\n'] && !blank && !line.head?.any isBlank then
      if (List.replicate empty '\n').isEmpty then [' '] else [] else ['\n']) ++
        List.replicate empty '\n' = h.joint empty := by
    rw [Header.joint]
    cases hf : h.folded with
    | false => simp
    | true =>
      cases empty with
      | zero => simp [hblank hf, hhead hf]
      | succ n => simp [hblank hf, hhead hf]
  rw [blockTail_line hp hline, hjoint, ← prepend_bind]

theorem emptyLines_bind_blockTail (fuel fuel' widest empty : Nat)
    (hlines : ∀ line ∈ lines, IsBlockLine line)
    (hfolded : h.folded = true → ∀ line ∈ lines, line.head?.any isBlank = false)
    (hk : k < indentation) (hrest : Stops rest) (hp : p.column = 0) {blank : Bool}
    (hblank : h.folded = true → blank = false)
    (hfuel : (indented indentation lines ++ (spaces k ++ rest)).length < fuel)
    (hfuel' : (indented indentation lines ++ (spaces k ++ rest)).length < fuel') :
    ((emptyLines (some indentation) fuel widest
        ⟨p, indented indentation lines ++ (spaces k ++ rest)⟩).bind fun (breaks, _, next) =>
      blockTail h indentation fuel' blank ['\n'] (List.replicate empty '\n' ++ breaks) next) =
        some (h.joined empty lines, ⟨p.after (indented indentation lines ++ spaces k), rest⟩) := by
  induction lines generalizing p empty blank fuel fuel' widest with
  | nil =>
    obtain ⟨fuel, rfl⟩ : ∃ n, fuel = n + 1 := ⟨fuel - 1, by omega⟩
    obtain ⟨fuel', rfl⟩ : ∃ n, fuel' = n + 1 := ⟨fuel' - 1, by omega⟩
    have hcolumn := column_after_spaces hp k
    obtain ⟨w, hread⟩ := emptyLines_end fuel widest p hk hrest
    have hne : (p.after (spaces k)).column ≠ indentation := by omega
    rw [indented, List.flatMap_nil, List.nil_append, hread, Option.bind_some]
    dsimp only
    rw [blockTail_end hne, List.append_nil]
    rfl
  | cons line lines ih =>
    rw [List.forall_mem_cons] at hlines
    have hfolded' : h.folded = true → ∀ line ∈ lines, line.head?.any isBlank = false :=
      fun hf l hl => hfolded hf l (List.mem_cons_of_mem _ hl)
    rw [indented_cons_append] at hfuel hfuel' ⊢
    have hlength : (indented indentation lines ++ (spaces k ++ rest)).length + line.length + 1 <
        fuel ∧ (indented indentation lines ++ (spaces k ++ rest)).length + line.length + 1 <
          fuel' := by
      simp only [List.length_append, List.length_cons] at hfuel hfuel' ⊢
      omega
    obtain ⟨fuel, rfl⟩ : ∃ n, fuel = n + 1 := ⟨fuel - 1, by omega⟩
    obtain ⟨fuel', rfl⟩ : ∃ n, fuel' = n + 1 := ⟨fuel' - 1, by omega⟩
    have hcolumn := column_after_line (p.after (spaces indentation)) line
    rw [after_indented_cons]
    by_cases hempty : line = []
    · -- The call that reads an empty line reads on, so of the two amounts of fuel only one goes down.
      subst hempty
      obtain ⟨w, hread⟩ := emptyLines_empty indentation fuel widest p
        (indented indentation lines ++ (spaces k ++ rest))
      rw [List.nil_append] at hcolumn
      have heq := ih fuel (fuel' + 1) w (empty + 1) hlines.2 hfolded' hcolumn hblank (by omega)
        (by omega)
      rw [List.nil_append, hread, Option.bind_map, Header.joined, List.nil_append, ← heq,
        Place.after_append]
      simp [List.replicate_succ']
    · obtain ⟨w, hread⟩ := emptyLines_line indentation fuel widest p
        (indented indentation lines ++ (spaces k ++ rest)) hempty hlines.1
      have hhead : h.folded = true → line.head?.any isBlank = false := fun hf =>
        hfolded hf line List.mem_cons_self
      have heq := ih fuel' fuel' 0 0 hlines.2 hfolded' hcolumn hhead (by omega) (by omega)
      simp only [List.replicate_zero, List.nil_append] at heq
      rw [hread, Option.bind_some, h.joined_cons hempty, ← prepend_some, ← heq]
      dsimp only
      rw [List.append_nil, blockTail_joint (column_after_spaces hp indentation) hlines.1 hblank hhead]

/-! ## Whole blocks -/

theorem emptyLines_none (fuel : Nat) (p : Place) (hstart : Stops (line ++ '\n' :: more))
    (hne : line ≠ []) :
    emptyLines none (fuel + 1) 0 ⟨p, spaces indentation ++ (line ++ '\n' :: more)⟩ =
      some ([], indentation, ⟨p.after (spaces indentation), line ++ '\n' :: more⟩) := by
  have hwidth : ((spaces indentation ++ (line ++ '\n' :: more)).takeWhile (· == ' ')).length =
      (spaces indentation).length := by
    rw [length_takeWhile_spaces, length_takeWhile_of_stops hstart, length_spaces, Nat.add_zero]
  have hdrop := Cursor.drop_append p (spaces indentation) (line ++ '\n' :: more)
  rw [length_spaces] at hdrop hwidth
  rw [emptyLines]
  simp only [Option.elim_none, hwidth, hdrop]
  cases line with
  | nil => exact absurd rfl hne
  | cons c line =>
    have hspace := stops_cons.mp hstart
    have htab : c ≠ '\t' := by
      rintro rfl
      exact absurd hspace (by decide)
    simp [htab, isBreak_of_not_isSpace hspace]

theorem blockText_newline (mark : List Char) (lines : List (List Char)) (more : List Char) :
    blockText indentation mark lines ++ '\n' :: more =
      mark ++ '\n' :: (indented indentation lines ++ more) := by
  have hlines : (lines.flatMap fun line => '\n' :: List.replicate indentation ' ' ++ line) ++
      '\n' :: more = '\n' :: (indented indentation lines ++ more) := by
    induction lines with
    | nil => rfl
    | cons line lines ih =>
      rw [List.flatMap_cons, List.append_assoc, ih, indented_cons]
      simp [spaces]
  rw [blockText, List.append_assoc, hlines]

theorem block_blockText {mark : List Char} {least : Nat} (fuel : Nat)
    (hmark : ∀ c ∈ mark, isBreak c = false)
    (hheader : header? (mark.head? = some '>') (mark.drop 1) = some h) (hnone : h.indentation = none)
    (hstart : Stops line) (hne : line ≠ []) (hlines : ∀ l ∈ line :: lines, IsBlockLine l)
    (hfolded : h.folded = true → ∀ l ∈ lines, l.head?.any isBlank = false)
    (hleast : least ≤ indentation) (hk : k < indentation) (hrest : Stops rest)
    (hfuel : (blockText indentation mark (line :: lines) ++ '\n' :: (spaces k ++ rest)).length < fuel) :
    block fuel least ⟨p, blockText indentation mark (line :: lines) ++ '\n' :: (spaces k ++ rest)⟩ =
      some (line ++ h.joined 0 lines,
        ⟨p.after (blockText indentation mark (line :: lines) ++ '\n' :: spaces k), rest⟩) := by
  rw [blockText_newline] at hfuel ⊢
  rw [blockText_newline]
  rw [List.forall_mem_cons] at hlines
  have hwidest : max indentation (max least 1) = indentation := by omega
  have hline : (mark ++ '\n' :: (indented indentation (line :: lines) ++ (spaces k ++ rest))).takeWhile
      (fun c => !isBreak c) = mark :=
    takeWhile_append_of_stop (fun c hc => by simp [hmark c hc]) (by simp [isBreak])
  have hstarts : (⟨p, mark ++ '\n' :: (indented indentation (line :: lines) ++ (spaces k ++ rest))⟩ :
      Cursor).startsWith '>' = decide (mark.head? = some '>') := by
    cases mark <;> simp [Cursor.startsWith]
  have hstart' : Stops (line ++ '\n' :: (indented indentation lines ++ (spaces k ++ rest))) := by
    cases line with
    | nil => exact absurd rfl hne
    | cons c line => exact hstart
  have hhead : line.head?.any isBlank = false := by
    cases line with
    | nil => rfl
    | cons c line => exact (Bool.or_eq_false_iff.mp (stops_cons.mp hstart)).1
  simp only [indented_cons, List.length_append, List.length_cons] at hfuel
  obtain ⟨fuel, rfl⟩ : ∃ n, fuel = n + 1 := ⟨fuel - 1, by omega⟩
  have hlength : (indented indentation lines ++ (spaces k ++ rest)).length < fuel := by
    simp only [List.length_append]
    omega
  have hread := emptyLines_bind_blockTail fuel fuel 0 0 hlines.2 hfolded hk hrest
    (column_after_line ((p.after (mark ++ ['\n'])).after (spaces indentation)) line) (fun _ => hhead)
    hlength hlength
  have hplace : p.after (mark ++ '\n' :: (indented indentation (line :: lines) ++ spaces k)) =
      (((p.after (mark ++ ['\n'])).after (spaces indentation)).after (line ++ ['\n'])).after
        (indented indentation lines ++ spaces k) := by
    rw [← after_indented_cons, ← Place.after_append]
    simp
  -- The first line gives the indentation, and nothing is in front of it.
  rw [block, hplace]
  simp only [hline, hstarts, hheader, hnone, drop_line, Option.bind_eq_bind, Option.bind_some]
  rw [indented_cons_append, emptyLines_none fuel _ hstart' hne, Option.bind_some]
  simp only [hwidest]
  rw [blockTail_line (column_after_spaces (column_after_line p mark) indentation) hlines.1]
  simp only [List.replicate_zero, List.nil_append] at hread
  rw [← prepend_some, ← hread, ← prepend_bind]
  simp

theorem mem_join_of_mem_line {first : List Char} {between c : Char} (hline : line ∈ first :: lines)
    (hc : c ∈ line) : c ∈ first ++ lines.flatMap (between :: ·) := by
  rcases List.mem_cons.mp hline with rfl | hline
  · exact List.mem_append_left _ hc
  · exact List.mem_append_right _
      (List.mem_flatMap.mpr ⟨line, hline, List.mem_cons_of_mem between hc⟩)

/-! ## Folded values -/

def StartsWord (line : List Char) : Prop := ∃ c rest, line = c :: rest ∧ c ≠ ' '

theorem StartsWord.append (h : StartsWord line) (more : List Char) : StartsWord (line ++ more) := by
  obtain ⟨c, rest, rfl, hc⟩ := h
  exact ⟨c, rest ++ more, rfl, hc⟩

theorem startsWord_of_append_space (h : StartsWord (line ++ ' ' :: more)) : StartsWord line := by
  obtain ⟨c, rest, heq, hc⟩ := h
  cases line with
  | nil => exact absurd (List.cons.inj heq).1.symm hc
  | cons d line => exact ⟨d, line, rfl, (List.cons.inj heq).1 ▸ hc⟩

/-- The latest place for a cut and what was read since then, as one text. -/
def pending (cut : Option (List Char)) (tail : List Char) : List Char :=
  (tail ++ cut.elim [] (' ' :: ·)).reverse

theorem pending_some (cut tail : List Char) :
    pending (some cut) tail = cut.reverse ++ ' ' :: tail.reverse := by
  simp [pending]

/-- Lines that begin with words and are a text with spaces between them. -/
def FoldsTo (lines : List (List Char)) (s : List Char) : Prop :=
  (∀ l ∈ lines, StartsWord l) ∧
    ∃ first rest, lines = first :: rest ∧ first ++ rest.flatMap (' ' :: ·) = s

theorem FoldsTo.singleton (hline : StartsWord line) : FoldsTo [line] line :=
  ⟨List.forall_mem_singleton.mpr hline, line, [], rfl, List.append_nil line⟩

theorem FoldsTo.cons (hline : StartsWord line) (hmore : FoldsTo lines more) :
    FoldsTo (line :: lines) (line ++ ' ' :: more) := by
  obtain ⟨hlines, first, rest, rfl, rfl⟩ := hmore
  exact ⟨List.forall_mem_cons.mpr ⟨hline, hlines⟩, line, first :: rest, rfl, rfl⟩

theorem startsWord_pending {cut : Option (List Char)} {tail : List Char}
    (hcut : ∀ l ∈ cut, StartsWord l.reverse) (htail : StartsWord tail.reverse) :
    StartsWord (pending cut tail) := by
  cases cut with
  | none => simpa [pending] using htail
  | some cut =>
    rw [pending_some]
    exact (hcut cut rfl).append (' ' :: tail.reverse)

theorem foldsTo_step {cut : Option (List Char)} {s : List Char} (tail : List Char) (column : Nat)
    (hspec : ∀ {cut : Option (List Char)} {column : Nat}, (∀ l ∈ cut, StartsWord l.reverse) →
      FoldsTo (foldFrom cut tail column s) (pending cut tail ++ s)) :
    (∀ l ∈ cut, StartsWord l.reverse) → FoldsTo (if column < maxColumns then foldFrom cut tail (column + 1) s
      else match cut with
        | some cut => cut.reverse :: foldFrom none tail 0 s
        | none => foldFrom none tail (column + 1) s) (pending cut tail ++ s) := by
  intro hcut
  split
  · exact hspec hcut
  · cases cut with
    | none => exact hspec hcut
    | some cut =>
      have hnone : ∀ l ∈ (none : Option (List Char)), StartsWord l.reverse := nofun
      have htail : FoldsTo (foldFrom none tail 0 s) (tail.reverse ++ s) := by
        simpa [pending] using hspec hnone
      rw [pending_some, List.append_assoc, List.cons_append]
      exact htail.cons (hcut cut rfl)

theorem foldFrom_spec {cut : Option (List Char)} {tail s : List Char} {column : Nat}
    (hcut : ∀ l ∈ cut, StartsWord l.reverse) (hrest : StartsWord (tail.reverse ++ s)) :
    FoldsTo (foldFrom cut tail column s) (pending cut tail ++ s) := by
  induction s generalizing cut tail column with
  | nil =>
    rw [List.append_nil] at hrest ⊢
    exact .singleton (startsWord_pending hcut hrest)
  | cons c rest ih =>
    by_cases hbreaks : canBreak c rest = true
    · -- At a space where a line may end, all that is held back may stand on one line.
      obtain ⟨rfl, hnext⟩ : c = ' ' ∧ rest.head?.any (· != ' ') = true := by
        simpa [canBreak] using hbreaks
      have hrest' : StartsWord rest := by
        cases rest with
        | nil => cases hnext
        | cons d rest => exact ⟨d, rest, rfl, by simpa using hnext⟩
      have hcut' : ∀ l ∈ some (tail ++ cut.elim [] (' ' :: ·)), StartsWord l.reverse := by
        rintro l ⟨⟩
        exact startsWord_pending hcut (startsWord_of_append_space hrest)
      have hpending : pending (some (tail ++ cut.elim [] (' ' :: ·))) [] ++ rest =
          pending cut tail ++ ' ' :: rest := by simp [pending]
      rw [foldFrom, ← hpending]
      simp only [hbreaks, if_true]
      exact foldsTo_step [] column (fun hcut => ih hcut hrest') hcut'
    · have hpending : pending cut (c :: tail) ++ rest = pending cut tail ++ c :: rest := by
        cases cut <;> simp [pending]
      rw [foldFrom, ← hpending]
      simp only [hbreaks, Bool.false_eq_true, if_false]
      exact foldsTo_step (c :: tail) column (fun hcut => ih hcut (by simpa using hrest)) hcut

theorem foldLines_spec {s : List Char} (h : StartsWord s) : FoldsTo (foldLines s) s :=
  foldFrom_spec (by simp) h

theorem joined_folded {lines : List (List Char)} (h : ∀ l ∈ lines, l ≠ []) :
    (⟨true, .strip, none⟩ : Header).joined 0 lines = lines.flatMap (' ' :: ·) := by
  induction lines with
  | nil => rfl
  | cons line lines ih =>
    rw [List.forall_mem_cons] at h
    rw [Header.joined_cons _ h.1, ih h.2]
    rfl

/-! ## Literal values -/

theorem splitBy_newline (s : List Char) :
    ∃ first rest, Text.splitBy (· == '\n') s = first :: rest ∧
      first ++ rest.flatMap ('\n' :: ·) = s := by
  induction s with
  | nil => exact ⟨[], [], rfl, rfl⟩
  | cons c s ih =>
    obtain ⟨first, rest, hsplit, hjoin⟩ := ih
    by_cases hc : c = '\n'
    · refine ⟨[], first :: rest, ?_, ?_⟩
      · simp [Text.splitBy, hsplit, hc]
      · simp [hc, hjoin]
    · refine ⟨c :: first, rest, ?_, ?_⟩
      · simp [Text.splitBy, hsplit, hc]
      · rw [List.cons_append, hjoin]

theorem joined_keep (empty : Nat) (lines : List (List Char)) :
    (⟨false, .keep, none⟩ : Header).joined empty lines =
      List.replicate empty '\n' ++ lines.flatMap ('\n' :: ·) ++ ['\n'] := by
  induction lines generalizing empty with
  | nil => simp [Header.joined, Header.ending, ← List.replicate_succ, ← List.replicate_succ']
  | cons line lines ih =>
    by_cases hline : line = []
    · subst hline
      rw [Header.joined, ih]
      simp [List.replicate_succ']
    · rw [Header.joined_cons _ hline, ih]
      simp [Header.joint, ← List.replicate_succ, List.replicate_succ']

theorem joined_of_getLast? {chomping : Chomping} (hchomping : chomping ≠ .keep)
    {empty : Nat} {lines : List (List Char)} (hlast : lines.getLast? ≠ some [])
    (hempty : lines = [] → empty = 0) :
    (⟨false, chomping, none⟩ : Header).joined empty lines =
      List.replicate empty '\n' ++ lines.flatMap ('\n' :: ·) ++
        if chomping = .strip then [] else ['\n'] := by
  induction lines generalizing empty with
  | nil => simp [Header.joined, Header.ending, hchomping, hempty rfl]
  | cons line lines ih =>
    have hlast' : lines.getLast? ≠ some [] := getLast?_ne_of_append [line] hlast
    by_cases hline : line = []
    · subst hline
      have hne : lines = [] → empty + 1 = 0 := by
        rintro rfl
        exact absurd rfl hlast
      rw [Header.joined, ih hlast' hne]
      simp [List.replicate_succ']
    · rw [Header.joined_cons _ hline, ih hlast' fun _ => rfl]
      simp [Header.joint, ← List.replicate_succ, List.replicate_succ']

theorem getLast?_of_join {first : List Char} {lines : List (List Char)} {s : List Char}
    (hjoin : first ++ lines.flatMap ('\n' :: ·) = s) (hs : s.getLast? ≠ some '\n') :
    lines.getLast? ≠ some [] := by
  intro hlast
  obtain ⟨init, rfl⟩ := List.getLast?_eq_some_iff.mp hlast
  apply hs
  rw [← hjoin]
  simp

theorem append_joined {chomping : Chomping} (hchomping : chomping ≠ .keep) {first : List Char}
    {lines : List (List Char)} {s : List Char} (hjoin : first ++ lines.flatMap ('\n' :: ·) = s)
    (hs : s.getLast? ≠ some '\n') :
    first ++ (⟨false, chomping, none⟩ : Header).joined 0 lines =
      s ++ if chomping = .strip then [] else ['\n'] := by
  rw [joined_of_getLast? hchomping (getLast?_of_join hjoin hs) fun _ => rfl, List.replicate_zero,
    List.nil_append, ← List.append_assoc, hjoin]

theorem withoutFinalBreaks_concat (s : List Char) :
    withoutFinalBreaks (s ++ ['\n']) = withoutFinalBreaks s :=
  List.rdropWhile_concat_pos (· == '\n') s '\n' rfl

theorem withoutFinalBreaks_eq_self {s : List Char} (hs : s.getLast? ≠ some '\n') :
    withoutFinalBreaks s = s := by
  refine (List.rdropWhile_eq_self_iff (p := (· == '\n'))).mpr fun hne hlast => hs ?_
  rw [List.getLast?_eq_some_getLast hne, eq_of_beq hlast]

theorem literalMark_strip {s : List Char} (hs : s.getLast? ≠ some '\n') :
    literalMark s = ['|', '-'] := by
  rw [literalMark, withoutFinalBreaks_eq_self hs, Nat.sub_self]
  rfl

theorem literalMark_clip {s : List Char} (hs : s.getLast? ≠ some '\n') :
    literalMark (s ++ ['\n']) = ['|'] := by
  rw [literalMark, withoutFinalBreaks_concat, withoutFinalBreaks_eq_self hs, List.length_append,
    Nat.add_sub_cancel_left]
  rfl

theorem literalMark_keep (s : List Char) : literalMark (s ++ ['\n'] ++ ['\n']) = ['|', '+'] := by
  have hshort := (List.rdropWhile_prefix (· == '\n') s).length_le
  have hcount : (withoutFinalBreaks (s ++ ['\n'] ++ ['\n'])).length ≤ s.length := by
    rw [withoutFinalBreaks_concat, withoutFinalBreaks_concat]
    exact hshort
  rw [literalMark]
  simp only [List.length_append, List.length_singleton]
  split
  · omega
  · omega
  · rfl

theorem literalLines_concat (s : List Char) :
    literalLines (s ++ ['\n']) = Text.splitBy (· == '\n') s := by
  simp [literalLines, withoutFinalBreak]

theorem literalLines_of_getLast? {s : List Char} (hs : s.getLast? ≠ some '\n') :
    literalLines s = Text.splitBy (· == '\n') s := by
  rw [literalLines, withoutFinalBreak, if_neg hs]

theorem literal_spec (s : List Char) :
    ∃ (mark : List Char) (h : Header), literalMark s = '|' :: mark ∧
      (∀ c ∈ mark, isBreak c = false) ∧ header? false mark = some h ∧ h.indentation = none ∧
        h.folded = false ∧
          ∃ first rest, literalLines s = first :: rest ∧ first ++ h.joined 0 rest = s := by
  by_cases hs : s.getLast? = some '\n'
  · obtain ⟨t, rfl⟩ := List.getLast?_eq_some_iff.mp hs
    obtain ⟨first, rest, hsplit, hjoin⟩ := splitBy_newline t
    have hlines := (literalLines_concat t).trans hsplit
    by_cases ht : t.getLast? = some '\n'
    · obtain ⟨init, rfl⟩ := List.getLast?_eq_some_iff.mp ht
      refine ⟨['+'], ⟨false, .keep, none⟩, literalMark_keep init, List.forall_mem_singleton.mpr rfl,
        rfl, rfl, rfl, first, rest, hlines, ?_⟩
      rw [joined_keep, List.replicate_zero, List.nil_append, ← List.append_assoc, hjoin]
    · exact ⟨[], ⟨false, .clip, none⟩, literalMark_clip ht, nofun, rfl, rfl, rfl, first, rest, hlines,
        append_joined (by decide) hjoin ht⟩
  · obtain ⟨first, rest, hsplit, hjoin⟩ := splitBy_newline s
    have hlines := (literalLines_of_getLast? hs).trans hsplit
    refine ⟨['-'], ⟨false, .strip, none⟩, literalMark_strip hs, List.forall_mem_singleton.mpr rfl, rfl,
      rfl, rfl, first, rest, hlines, ?_⟩
    rw [append_joined (by decide) hjoin hs]
    exact List.append_nil s

theorem literalLines_cons {c : Char} (hc : c ≠ '\n') (s : List Char) :
    ∃ first rest, literalLines (c :: s) = (c :: first) :: rest := by
  obtain ⟨t, ht⟩ : ∃ t, withoutFinalBreak (c :: s) = c :: t := by
    rw [withoutFinalBreak]
    split
    · rename_i hlast
      cases s with
      | nil => exact absurd (Option.some.inj hlast) hc
      | cons d s => exact ⟨_, rfl⟩
    · exact ⟨s, rfl⟩
  obtain ⟨first, rest, hsplit, -⟩ := splitBy_newline t
  refine ⟨first, rest, ?_⟩
  rw [literalLines, ht, Text.splitBy, hsplit]
  simp [hc]

end RowQuery.Yaml
