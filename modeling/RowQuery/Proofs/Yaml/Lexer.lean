import RowQuery.Proofs.Yaml.Block
import RowQuery.Yaml.Token.Lexer

/-!
# Tokens of a written text

One state of the lexer leads to another if both give the same tokens in the end. A line of a block
collection is read between two states at the front of an entry: its key or dash, what stands behind
it, and the marks of the collections that it opens. Collections deeper than the next line are closed
there.
-/
namespace RowQuery.Yaml

namespace Lexer

/-! ## States -/

def between (allowed : Bool) (columns : List Nat) (found : List Token) (here : Cursor) : Lexer :=
  { here, found := found.toArray, columns, entryAllowed := allowed }

def leastOf (columns : List Nat) : Nat := columns.head?.elim 0 (· + 1)

/-- What the lexer makes of one state is what it makes of the other; fuel is enough for both. -/
def Leads (s s' : Lexer) : Prop :=
  ∀ fuel, s.here.rest.length < fuel → ∃ fuel', s'.here.rest.length < fuel' ∧ run fuel s = run fuel' s'

def Fails (s : Lexer) : Prop := ∀ fuel, s.here.rest.length < fuel → run fuel s = none

variable {s s' t : Lexer} {columns : List Nat} {found : List Token} {allowed : Bool} {p : Place}
  {rest : List Char}

theorem Leads.trans (h : s.Leads t) (h' : t.Leads s') : s.Leads s' := by
  intro fuel hfuel
  obtain ⟨fuel', hfuel', heq⟩ := h fuel hfuel
  obtain ⟨fuel'', hfuel'', heq'⟩ := h' fuel' hfuel'
  exact ⟨fuel'', hfuel'', heq.trans heq'⟩

theorem Leads.fails (h : s.Leads t) (ht : t.Fails) : s.Fails := by
  intro fuel hfuel
  obtain ⟨fuel', hfuel', heq⟩ := h fuel hfuel
  rw [heq, ht fuel' hfuel']

theorem run_succ (fuel : Nat) (hstart : s.skip.forgetStale = some t) :
    run (fuel + 1) s =
      if t.here.isEnd then (t.closeTo 0).dropKeyStart.map fun s => s.found.toList
      else ((t.closeTo (t.here.column + 1)).next (fuel + 1)).bind (run fuel) := by
  rw [run, hstart]
  rfl

theorem leads_of_next (hstart : s.skip.forgetStale = some t)
    (hlength : t.here.rest.length ≤ s.here.rest.length)
    (hnext : ∀ fuel, t.here.rest.length < fuel → (t.closeTo (t.here.column + 1)).next fuel = some s')
    (hless : s'.here.rest.length < t.here.rest.length) : s.Leads s' := by
  intro fuel hfuel
  obtain ⟨fuel, rfl⟩ : ∃ n, fuel = n + 1 := ⟨fuel - 1, by omega⟩
  have hend : t.here.isEnd = false := by
    rw [Cursor.isEnd, List.isEmpty_eq_false_iff]
    rintro hnil
    rw [hnil] at hless
    exact absurd hless (Nat.not_lt_zero _)
  refine ⟨fuel, by omega, ?_⟩
  rw [run_succ fuel hstart, hend, hnext (fuel + 1) (by omega)]
  rfl

theorem fails_of_next (hstart : s.skip.forgetStale = some t) (hend : t.here.rest ≠ [])
    (hnext : ∀ fuel, (t.closeTo (t.here.column + 1)).next fuel = none) : s.Fails := by
  intro fuel hfuel
  obtain ⟨fuel, rfl⟩ : ∃ n, fuel = n + 1 := ⟨fuel - 1, by omega⟩
  rw [run_succ fuel hstart, Cursor.isEnd, List.isEmpty_eq_false_iff.mpr hend, hnext]
  rfl

theorem fails_of_forgetStale (hstart : s.skip.forgetStale = none) : s.Fails := by
  intro fuel hfuel
  obtain ⟨fuel, rfl⟩ : ∃ n, fuel = n + 1 := ⟨fuel - 1, by omega⟩
  rw [run, hstart]
  rfl

/-! ## Between tokens -/

def Solid (p : Place) (rest : List Char) : Prop :=
  ∀ c ∈ rest.head?, isSpace c = false ∧ c ≠ '#' ∧ (isByteOrderMark c = true → p.column ≠ 0)

theorem Solid.stops (h : Solid p rest) : Stops rest := fun c hc => (h c hc).1

theorem skipFrom_solid (flow allowed : Bool) (h : Solid p rest) :
    skipFrom flow allowed false p rest = (allowed, ⟨p, rest⟩) := by
  cases rest with
  | nil => rfl
  | cons c rest =>
    obtain ⟨hspace, hcomment, hmark⟩ := h c rfl
    have hblank : c ≠ ' ' ∧ c ≠ '\t' := by
      constructor <;> rintro rfl <;> exact absurd hspace (by decide)
    have horder : (p.column = 0 && isByteOrderMark c) = false := by
      cases horder : isByteOrderMark c with
      | false => rw [Bool.and_false]
      | true => simp [hmark horder]
    simp [skipFrom, isBreak_of_not_isSpace hspace, hcomment, hblank.1, hblank.2, horder]

theorem skipFrom_spaces (allowed : Bool) (n : Nat) (p : Place) (rest : List Char) :
    skipFrom false allowed false p (spaces n ++ rest) =
      skipFrom false allowed false (p.after (spaces n)) rest := by
  induction n generalizing p with
  | zero => rfl
  | succ n ih =>
    have hcons : spaces (n + 1) = ' ' :: spaces n := rfl
    rw [hcons, List.cons_append, Place.after_cons, ← ih]
    rfl

theorem skip_between (n : Nat) (h : Solid (p.after (spaces n)) rest) :
    (between allowed columns found ⟨p, spaces n ++ rest⟩).skip =
      between allowed columns found ⟨p.after (spaces n), rest⟩ := by
  have hskip := (skipFrom_spaces allowed n p rest).trans (skipFrom_solid false allowed h)
  rw [skip]
  exact congrArg (fun found : Bool × Cursor => { between allowed columns _ ⟨p, spaces n ++ rest⟩ with
    here := found.2, entryAllowed := found.1 }) hskip

theorem skip_newline (n : Nat) (h : Solid (p.after ('\n' :: spaces n)) rest) :
    (between allowed columns found ⟨p, '\n' :: (spaces n ++ rest)⟩).skip =
      between true columns found ⟨p.after ('\n' :: spaces n), rest⟩ := by
  have hnewline : skipFrom false allowed false p ('\n' :: (spaces n ++ rest)) =
      skipFrom false true false (p.past '\n') (spaces n ++ rest) := by
    simp [skipFrom, isBreak]
  have hskip := hnewline.trans
    ((skipFrom_spaces true n (p.past '\n') rest).trans (skipFrom_solid false true h))
  rw [skip]
  exact congrArg (fun next : Bool × Cursor => { between allowed columns found
    ⟨p, '\n' :: (spaces n ++ rest)⟩ with here := next.2, entryAllowed := next.1 }) hskip

theorem leads_of_skip (h : s.skip.forgetStale = s'.skip.forgetStale)
    (hlength : s'.here.rest.length ≤ s.here.rest.length) : s.Leads s' := by
  intro fuel hfuel
  refine ⟨fuel, by omega, ?_⟩
  cases fuel with
  | zero => rfl
  | succ fuel => rw [run, run, h]

theorem leads_newline (n : Nat) (h : Solid (p.after ('\n' :: spaces n)) rest) :
    (between allowed columns found ⟨p, '\n' :: (spaces n ++ rest)⟩).Leads
      (between true columns found ⟨p.after ('\n' :: spaces n), rest⟩) := by
  apply leads_of_skip
  · rw [skip_newline n h]
    exact congrArg forgetStale (skip_between 0 h).symm
  · simp only [between, List.length_cons, List.length_append]
    omega

theorem leads_blockEnd {c : Nat} (hc : p.column < c) (h : Solid p rest) :
    (between true (c :: columns) found ⟨p, rest⟩).Leads
      (between true columns (found ++ [.blockEnd]) ⟨p, rest⟩) := by
  intro fuel hfuel
  refine ⟨fuel, hfuel, ?_⟩
  cases fuel with
  | zero => rfl
  | succ fuel =>
    have hstart : ∀ columns found,
        (between true columns found ⟨p, rest⟩).skip.forgetStale =
          some (between true columns found ⟨p, rest⟩) :=
      fun columns found => congrArg forgetStale (skip_between 0 h)
    have hclose : ∀ least, least ≤ c → (between true (c :: columns) found ⟨p, rest⟩).closeTo least =
        (between true columns (found ++ [.blockEnd]) ⟨p, rest⟩).closeTo least := by
      intro least hleast
      simp [closeTo, between, inFlow, hleast]
    have hcolumn : ∀ columns found,
        (between true columns found ⟨p, rest⟩).here.column = p.column := fun _ _ => rfl
    rw [run_succ fuel (hstart _ _), run_succ fuel (hstart _ _), hcolumn, hcolumn,
      hclose 0 (Nat.zero_le c), hclose (p.column + 1) hc]
    rfl

theorem run_between_nil {fuel : Nat} (hfuel : 0 < fuel) :
    run fuel (between true columns found ⟨p, []⟩) =
      some (found ++ columns.map fun _ => .blockEnd) := by
  obtain ⟨fuel, rfl⟩ : ∃ n, fuel = n + 1 := ⟨fuel - 1, by omega⟩
  have hstart : (between true columns found ⟨p, []⟩).skip.forgetStale =
      some (between true columns found ⟨p, []⟩) := rfl
  have hall : columns.takeWhile (0 ≤ ·) = columns :=
    List.takeWhile_eq_self_iff.mpr fun c _ => decide_eq_true (Nat.zero_le c)
  rw [run_succ fuel hstart]
  simp only [closeTo, between, inFlow, dropKeyStart, Cursor.isEnd, hall]
  simp

/-! ## Marks and scalars by their first character -/

section first

variable {c : Char} {fuel : Nat}

theorem indicators_eq : indicators = ['-', '?', ':', ',', '[', ']', '\x7b', '\x7d', '#', '&', '*', '!',
    '|', '>', '\'', '"', '%', '@', '\x60'] := rfl

theorem next_plain (hrest : s.here.rest = c :: rest) (hflow : s.inFlow = false)
    (hmarker : s.here.atMarker = false) (hspace : isSpace c = false) (hc : c ∉ indicators) :
    s.next fuel = s.plainScalar fuel := by
  have hstarts : startsPlain false (c :: rest) = true := by
    simp [startsPlain, hspace, hc]
  rw [indicators_eq] at hc
  simp only [List.mem_cons, not_or] at hc
  obtain ⟨hdash, hquestion, hcolon, hcomma, hopen, hclose, hbrace, hbrace', -, hand, hstar, hmark,
    hbar, hgreater, hquote, hdouble, hpercent, -⟩ := hc
  rw [next, hrest]
  simp only [hdash, hquestion, hcolon, hcomma, hopen, hclose, hbrace, hbrace', hand, hstar, hmark,
    hbar, hgreater, hquote, hdouble, hpercent, hmarker, hflow, hstarts, decide_false, Bool.and_false,
    Bool.false_and, Bool.or_self, Bool.false_eq_true, if_false, if_true]

theorem next_doubleQuoted (hrest : s.here.rest = '"' :: rest) (hmarker : s.here.atMarker = false) :
    s.next fuel = s.quotedScalar (doubleQuoted fuel) := by
  rw [next, hrest]
  simp [hmarker]

theorem next_singleQuoted (hrest : s.here.rest = '\'' :: rest) (hmarker : s.here.atMarker = false) :
    s.next fuel = s.quotedScalar (singleQuoted fuel) := by
  rw [next, hrest]
  simp [hmarker]

theorem next_block (hc : c = '|' ∨ c = '>') (hrest : s.here.rest = c :: rest)
    (hflow : s.inFlow = false) (hmarker : s.here.atMarker = false) :
    s.next fuel = s.blockScalar fuel := by
  rw [next, hrest]
  rcases hc with rfl | rfl <;> simp [hmarker, hflow]

theorem next_dash (hrest : s.here.rest = '-' :: rest) (hends : endsWord rest = true)
    (hmarker : s.here.atMarker = false) : s.next fuel = s.entryMark .entry .sequenceStart := by
  rw [next, hrest]
  simp [hmarker, hends]

theorem next_colon (hrest : s.here.rest = ':' :: rest) (hends : endsWord rest = true)
    (hmarker : s.here.atMarker = false) : s.next fuel = s.colon := by
  rw [next, hrest]
  simp [hmarker, hends]

end first

/-! ## Keys -/

theorem closeTo_eq_self {least : Nat} (h : ∀ c ∈ s.columns.head?, c < least) :
    s.closeTo least = s := by
  have hclosed : s.columns.takeWhile (least ≤ ·) = [] := by
    cases hcolumns : s.columns with
    | nil => rfl
    | cons c columns =>
      have hc : ¬least ≤ c := Nat.not_le.mpr (h c (by rw [hcolumns]; rfl))
      exact List.takeWhile_cons_of_neg (by simp [hc])
  rw [closeTo, hclosed]
  split
  · rfl
  · cases s
    simp

def keyed (columns : List Nat) (found : List Token) (name : Token) (start : Place)
    (here : Cursor) : Lexer :=
  { here
    found := (found ++ [name]).toArray
    columns
    keyStart := some ⟨found.length, start, columns.head? = some start.column⟩
    entryAllowed := false }

theorem markKeyStart_between (columns : List Nat) (found : List Token) (here : Cursor) :
    (between true columns found here).markKeyStart =
      some { between true columns found here with
        keyStart := some ⟨found.length, here.place, columns.head? = some here.column⟩ } := by
  simp [markKeyStart, between, inFlow, dropKeyStart, Cursor.column]
  rfl

def Reaches (columns : List Nat) (column : Nat) : Prop := ∀ c ∈ columns.head?, c ≤ column

theorem plainScalar_eq {fuel : Nat} {text : List Char} {lineEnds : Bool} {next : Cursor}
    (hmark : s.markKeyStart = some t)
    (hread : plain fuel t.inFlow t.least t.here = some ((text, lineEnds), next)) :
    s.plainScalar fuel = some { t with
      here := next
      found := t.found.push (.scalar true (String.ofList text))
      entryAllowed := lineEnds } := by
  rw [plainScalar, hmark]
  simp only [Option.bind_eq_bind, Option.bind_some, hread]
  rfl

theorem quotedScalar_eq {read : Reader (List Char)} {text : List Char} {next : Cursor}
    (hmark : s.markKeyStart = some t) (hread : read t.here = some (text, next)) :
    s.quotedScalar read = some { t with
      here := next
      found := t.found.push (.scalar false (String.ofList text))
      entryAllowed := false } := by
  rw [quotedScalar, property, hmark]
  simp only [Option.bind_eq_bind, Option.bind_some, hread]
  rfl

section key

variable {c : Char} {text after : List Char}

theorem start_between (h : Solid p rest) :
    (between allowed columns found ⟨p, rest⟩).skip.forgetStale =
      some (between allowed columns found ⟨p, rest⟩) :=
  congrArg forgetStale (skip_between 0 h)

theorem closeTo_between (hreach : Reaches columns p.column) :
    (between allowed columns found ⟨p, rest⟩).closeTo
      ((between allowed columns found ⟨p, rest⟩).here.column + 1) =
        between allowed columns found ⟨p, rest⟩ :=
  closeTo_eq_self fun d hd => Nat.lt_succ_of_le (hreach d hd)

theorem leads_plainKey (hline : Plain.IsLine (c :: text)) (hspace : isSpace c = false)
    (hc : c ∉ indicators) (hreach : Reaches columns p.column) (hends : endsWord after = true)
    (hmarker : (⟨p, c :: (text ++ ':' :: after)⟩ : Cursor).atMarker = false)
    (hsolid : Solid p (c :: (text ++ ':' :: after))) :
    (between true columns found ⟨p, c :: text ++ ':' :: after⟩).Leads
      (keyed columns found (.scalar true (String.ofList (Plain.kept (c :: text)))) p
        ⟨p.after (c :: text), ':' :: after⟩) := by
  refine leads_of_next (start_between hsolid) (Nat.le_refl _) (fun fuel hfuel => ?_) ?_
  · rw [closeTo_between hreach, next_plain rfl rfl hmarker hspace hc,
      plainScalar_eq (markKeyStart_between _ _ _)
        (plain_colon hline hspace hends hmarker hfuel)]
    simp [keyed, between, Cursor.column]
    rfl
  · simp only [keyed, between, List.length_cons, List.length_append]
    omega

theorem leads_quotedKey (htext : ∀ c ∈ text, isBreak c = false ∨ c = '\n')
    (hreach : Reaches columns p.column) (hcolumn : 0 < p.column) :
    (between true columns found ⟨p, Quoted.key text ++ ':' :: after⟩).Leads
      (keyed columns found (.scalar false (String.ofList text)) p
        ⟨p.after (Quoted.key text), ':' :: after⟩) := by
  have hsolid : Solid p (Quoted.key text ++ ':' :: after) := by
    rintro c ⟨⟩
    exact ⟨rfl, by decide, fun h => absurd h (by decide)⟩
  refine leads_of_next (start_between hsolid) (Nat.le_refl _) (fun fuel hfuel => ?_) ?_
  · have hread : doubleQuoted fuel ⟨p, Quoted.key text ++ ':' :: after⟩ = _ :=
      doubleQuoted_key htext (Nat.le_of_lt hfuel)
    have hnext : (between true columns found ⟨p, Quoted.key text ++ ':' :: after⟩).next fuel = _ :=
      next_doubleQuoted rfl (Cursor.atMarker_of_pos hcolumn)
    rw [closeTo_between hreach, hnext, quotedScalar_eq (markKeyStart_between _ _ _) hread]
    simp [keyed, between, Cursor.column]
    rfl
  · simp only [keyed, between, Quoted.key, List.length_cons, List.length_append]
    omega

/-- A line at this column opens its collection, or is in one that is open there. -/
inductive Opens (column : Nat) (start : Token) (columns : List Nat) (found : List Token) :
    List Nat → List Token → Prop
  | inside (h : columns.head? = some column) : Opens column start columns found columns found
  | new (h : leastOf columns ≤ column) :
      Opens column start columns found (column :: columns) (found ++ [start])

theorem Opens.reaches {column : Nat} {start : Token} {columns' : List Nat} {found' : List Token}
    (h : Opens column start columns found columns' found') : Reaches columns column := by
  intro c hc
  cases h with
  | inside h =>
    rw [h] at hc
    cases hc
    exact Nat.le_refl _
  | new h =>
    rw [leastOf, Option.mem_def.mp hc] at h
    exact Nat.le_of_succ_le h

theorem insertIdx_length_append (l m : List Token) (a : Token) :
    (l ++ m).toArray.insertIdxIfInBounds l.length a = (l ++ a :: m).toArray := by
  have hlist : (l ++ m).insertIdx l.length a = l ++ a :: m := by
    induction l with
    | nil => rfl
    | cons b l ih => simp [List.insertIdx_succ_cons, ih]
  simp [hlist]

theorem openAt_of_opens {start : Token} {columns' : List Nat} {found' more : List Token}
    (hopens : Opens p.column start columns found columns' found') (hs : s.inFlow = false)
    (hcolumns : s.columns = columns) (hfound : s.found = (found ++ more).toArray) :
    s.openAt p.column found.length start =
      { s with columns := columns', found := (found' ++ more).toArray } := by
  rw [openAt, hs, least, hcolumns, hfound]
  cases hopens with
  | inside h =>
    rw [h, ← hcolumns, ← hfound]
    simp
  | new h =>
    rw [insertIdx_length_append, if_neg (by simpa [leastOf] using h)]
    simp

theorem skip_keyed {name : Token} {start : Place} :
    (keyed columns found name start ⟨p, ':' :: rest⟩).skip =
      keyed columns found name start ⟨p, ':' :: rest⟩ := by
  have hsolid : Solid p (':' :: rest) := by
    rintro c ⟨⟩
    exact ⟨rfl, by decide, fun h => absurd h (by decide)⟩
  have hskip := skipFrom_solid false false hsolid
  rw [skip]
  exact congrArg (fun next : Bool × Cursor => { keyed columns found name start ⟨p, ':' :: rest⟩ with
    here := next.2, entryAllowed := next.1 }) hskip

theorem isStale_after (k : KeyStart) (htext : ∀ d ∈ text, isBreak d = false) :
    KeyStart.isStale (k.place.after text) k =
      decide (maxKeyBytes < (String.ofList text).utf8ByteSize) := by
  rw [KeyStart.isStale, Place.line_after htext, Place.bytes_after]
  simp

theorem leads_colon {name : Token} {columns' : List Nat} {found' : List Token}
    (hopens : Opens p.column .mappingStart columns found columns' found')
    (htext : ∀ d ∈ text, isBreak d = false) (hne : text ≠ []) (hends : endsWord after = true)
    (hlength : (String.ofList text).utf8ByteSize ≤ maxKeyBytes) :
    (keyed columns found name p ⟨p.after text, ':' :: after⟩).Leads
      (between false columns' (found' ++ [.key, name, .value])
        ⟨p.after (text ++ [':']), after⟩) := by
  have hcolumn := Place.column_after htext p
  have hpos := List.length_pos_of_ne_nil hne
  have hstart : (keyed columns found name p ⟨p.after text, ':' :: after⟩).skip.forgetStale =
      some (keyed columns found name p ⟨p.after text, ':' :: after⟩) := by
    rw [skip_keyed]
    have hstale : KeyStart.isStale (p.after text)
        ⟨found.length, p, columns.head? = some p.column⟩ = false :=
      (isStale_after _ htext).trans (decide_eq_false (Nat.not_lt.mpr hlength))
    simp [forgetStale, keyed, refresh?, hstale]
  refine leads_of_next hstart (Nat.le_refl _) (fun fuel hfuel => ?_) (by simp [keyed, between])
  have hclose : (keyed columns found name p ⟨p.after text, ':' :: after⟩).closeTo
      ((p.after text).column + 1) = keyed columns found name p ⟨p.after text, ':' :: after⟩ := by
    refine closeTo_eq_self fun d hd => ?_
    have hd := hopens.reaches d hd
    omega
  have hmarker : (⟨p.after text, ':' :: after⟩ : Cursor).atMarker = false :=
    Cursor.atMarker_of_pos (show 0 < (p.after text).column by omega)
  have hnext : (keyed columns found name p ⟨p.after text, ':' :: after⟩).next fuel = _ :=
    next_colon rfl hends hmarker
  rw [show (keyed columns found name p ⟨p.after text, ':' :: after⟩).here.column =
    (p.after text).column from rfl, hclose, hnext, colon]
  simp only [keyed]
  rw [insertIdx_length_append, openAt_of_opens hopens rfl rfl rfl]
  simp [push, between, Cursor.drop_one, Place.after_append, Place.after_cons, Place.after_nil]

theorem fails_colon {name : Token} {columns' : List Nat} {found' : List Token}
    (hopens : Opens p.column .mappingStart columns found columns' found')
    (htext : ∀ d ∈ text, isBreak d = false) (hends : endsWord after = true)
    (hlength : maxKeyBytes < (String.ofList text).utf8ByteSize) :
    (keyed columns found name p ⟨p.after text, ':' :: after⟩).Fails := by
  have hstale : ∀ required, KeyStart.isStale (p.after text) ⟨found.length, p, required⟩ = true :=
    fun required => (isStale_after _ htext).trans (decide_eq_true hlength)
  have hcolumn := Place.column_after htext p
  have hreach := hopens.reaches
  by_cases hrequired : columns.head? = some p.column
  · apply fails_of_forgetStale
    rw [skip_keyed]
    simp [forgetStale, keyed, refresh?, hstale, hrequired]
  · have hstart : (keyed columns found name p ⟨p.after text, ':' :: after⟩).skip.forgetStale =
        some (between false columns (found ++ [name]) ⟨p.after text, ':' :: after⟩) := by
      rw [skip_keyed]
      simp [forgetStale, keyed, refresh?, hstale, hrequired, between]
    refine fails_of_next hstart (List.cons_ne_nil _ _) fun fuel => ?_
    have hpos : 0 < (p.after text).column := by
      cases text with
      | nil => cases hlength
      | cons d text => simp only [List.length_cons] at hcolumn; omega
    have hclose : Reaches columns (p.after text).column := fun d hd =>
      Nat.le_trans (hreach d hd) (by omega)
    have hnext : (between false columns (found ++ [name]) ⟨p.after text, ':' :: after⟩).next fuel = _ :=
      next_colon rfl hends (Cursor.atMarker_of_pos hpos)
    rw [closeTo_between hclose, hnext]
    rfl

end key

end Lexer
end RowQuery.Yaml
