import Mathlib.Data.List.Basic
import Mathlib.Tactic.IntervalCases
import RowQuery.Json.Printer
import RowQuery.Json.Reader
import RowQuery.Proofs.Number.Decimal

/-!
# Reading printed integers and strings

A reader takes the text of an integer or of a string off the front of a longer one. It has to know
where the text ends: a string ends at its quote, but digits go on as long as more of them follow, so
what comes behind an integer must not continue it.
-/
namespace RowQuery.Json

def Ends (rest : List Char) : Prop :=
  ∀ c ∈ rest.head?, Decimal.isDigit c = false ∧ c ≠ '.' ∧ c ≠ 'e' ∧ c ≠ 'E'

def Blank (s : List Char) : Prop := ∀ c ∈ s, isSpace c = true

def Opens (text : List Char) : Prop :=
  ∃ c tail, text = c :: tail ∧ isSpace c = false ∧ c ≠ ']' ∧ c ≠ '\x7d'

def Reads {α : Type} (reader : Reader α) (text : List Char) (a : α) : Prop :=
  ∀ rest, Ends rest → reader (text ++ rest) = some (a, rest)

/-! ## Blanks -/

theorem ends_nil : Ends [] := by
  intro c hc
  cases hc

theorem ends_of_isSpace {c : Char} (h : isSpace c = true) (rest : List Char) :
    Ends (c :: rest) := by
  rintro _ ⟨⟩
  simp only [isSpace, Bool.or_eq_true, decide_eq_true_eq] at h
  rcases h with ((rfl | rfl) | rfl) | rfl <;> decide

theorem skipSpace_append {blank : List Char} (h : Blank blank) (s : List Char) :
    skipSpace (blank ++ s) = skipSpace s := by
  induction blank with
  | nil => rfl
  | cons c rest ih =>
    have hrest := ih fun x hx => h x (List.mem_cons_of_mem c hx)
    rw [List.cons_append, skipSpace, List.dropWhile_cons_of_pos (h c List.mem_cons_self)]
    exact hrest

theorem skipSpace_of_opens {text : List Char} (h : Opens text) (rest : List Char) :
    skipSpace (text ++ rest) = text ++ rest := by
  obtain ⟨c, tail, rfl, hc, -⟩ := h
  rw [List.cons_append, skipSpace, List.dropWhile_cons_of_neg (by simp [hc])]

theorem ends_append {blank s : List Char} (h : Blank blank) (hs : Ends s) : Ends (blank ++ s) := by
  cases blank with
  | nil => exact hs
  | cons c rest => exact ends_of_isSpace (h c List.mem_cons_self) _

/-! ## Numbers -/

theorem span_toDigits (n : Nat) {rest : List Char} (h : Ends rest) :
    span (Nat.toDigits 10 n ++ rest) = (Nat.toDigits 10 n, rest) := by
  have hrest : rest.takeWhile Decimal.isDigit = [] ∧ rest.dropWhile Decimal.isDigit = rest := by
    cases rest with
    | nil => exact ⟨rfl, rfl⟩
    | cons c tail =>
      have hc := (h c rfl).1
      exact ⟨List.takeWhile_cons_of_neg (by simp [hc]), List.dropWhile_cons_of_neg (by simp [hc])⟩
  have hdigits : ∀ c ∈ Nat.toDigits 10 n, Decimal.isDigit c = true :=
    fun c hc => Decimal.isDigit_of_mem_toDigits hc
  rw [span, List.takeWhile_append_of_pos hdigits, List.dropWhile_append_of_pos hdigits, hrest.1,
    hrest.2, List.append_nil]

theorem integral_toDigits (n : Nat) {rest : List Char} (h : Ends rest) :
    integral (Nat.toDigits 10 n ++ rest) = some (Nat.toDigits 10 n, rest) := by
  rw [integral, span_toDigits n h]
  cases Nat.eq_zero_or_pos n with
  | inl hzero =>
    subst hzero
    rfl
  | inr hpos =>
    have hhead := Decimal.head?_toDigits hpos
    cases hdigits : Nat.toDigits 10 n with
    | nil => exact absurd hdigits Nat.toDigits_ne_nil
    | cons c tail =>
      rw [hdigits] at hhead
      split
      · rename_i heq
        simp at heq
      · rename_i heq
        simp_all
      · rename_i heq
        simp_all
      · rename_i heq
        exact congrArg some heq.symm

theorem numberParts_toDigits (n : Nat) {rest : List Char} (h : Ends rest) :
    numberParts (Nat.toDigits 10 n ++ rest) = some (⟨Nat.toDigits 10 n, none, none⟩, rest) := by
  have hfraction : fraction rest = some (none, rest) := by
    rw [fraction.eq_def]
    split
    · exact absurd rfl (h _ rfl).2.1
    · rfl
  have hexponent : exponent rest = some (none, rest) := by
    cases rest with
    | nil => rfl
    | cons c tail =>
      obtain ⟨-, -, hlower, hupper⟩ := h c rfl
      simp [exponent, hlower, hupper]
  simp [numberParts, integral_toDigits n h, hfraction, hexponent]

theorem ofInt?_value (n : Integer) : Integer.ofInt? n.value = some n := by
  rw [Integer.ofInt?, dif_pos ⟨n.lower, n.upper⟩]

theorem numberOf_toDigits {n : Integer} {m : Nat} (negative : Bool)
    (hvalue : n.value = if negative then -(m : Int) else m) (hm : negative = true → m ≠ 0) :
    numberOf negative (Nat.toDigits 10 m) none none = some (.int n) := by
  have hn := ofInt?_value n
  rw [hvalue] at hn
  simp only [numberOf, Option.isSome_none, Bool.or_self, Bool.false_eq_true, if_false,
    Decimal.value_toDigits]
  cases negative with
  | false =>
    simp only [Bool.false_eq_true, if_false] at hn ⊢
    rw [hn, Option.map_some, Option.some_or]
  | true =>
    have hne : (m : Int) ≠ 0 := Int.natCast_ne_zero.mpr (hm rfl)
    simp only [if_true] at hn ⊢
    rw [if_neg hne, hn, Option.map_some, Option.some_or]

theorem unsignedNumber_toDigits {n : Integer} {m : Nat} (negative : Bool)
    (hvalue : n.value = if negative then -(m : Int) else m) (hm : negative = true → m ≠ 0) :
    Reads (unsignedNumber negative) (Nat.toDigits 10 m) (number (.int n)) := by
  intro rest hrest
  simp only [unsignedNumber, numberParts_toDigits m hrest, numberOf_toDigits negative hvalue hm,
    Option.bind_eq_bind, Option.bind_some]

theorem scalar_of_isDigit {c : Char} (h : Decimal.isDigit c = true) (s : List Char) :
    scalar (c :: s) = unsignedNumber false (c :: s) := by
  rw [scalar.eq_def]
  -- Every branch before the last one begins with a character that is no digit.
  split
  all_goals first
    | rfl
    | rename_i heq
      injection heq with hc
      subst hc
      exact absurd h (by decide)

theorem exists_digit (m : Nat) :
    ∃ c tail, Nat.toDigits 10 m = c :: tail ∧ Decimal.isDigit c = true := by
  cases hdigits : Nat.toDigits 10 m with
  | nil => exact absurd hdigits Nat.toDigits_ne_nil
  | cons c tail =>
    refine ⟨c, tail, rfl, Decimal.isDigit_of_mem_toDigits (n := m) ?_⟩
    rw [hdigits]
    exact List.mem_cons_self

theorem toList_numberText (n : Integer) :
    (numberText (.int n)).toList =
      if n.value < 0 then '-' :: Nat.toDigits 10 n.value.natAbs
      else Nat.toDigits 10 n.value.natAbs := by
  rw [numberText]
  cases n.value with
  | ofNat m =>
    have hnonneg : ¬Int.ofNat m < 0 := Int.not_lt.mpr (Int.natCast_nonneg m)
    rw [if_neg hnonneg]
    exact Nat.toList_repr
  | negSucc m =>
    have htext : toString (Int.negSucc m) = "-" ++ Nat.repr (m + 1) := rfl
    rw [htext, String.toList_append, Nat.toList_repr, if_pos (Int.negSucc_lt_zero m)]
    rfl

theorem scalar_int (n : Integer) :
    Reads scalar (numberText (.int n)).toList (number (.int n)) := by
  intro rest hrest
  rw [toList_numberText]
  split
  · have hread := unsignedNumber_toDigits (n := n) (m := n.value.natAbs) true
      (by simp only [if_true]; omega) (by omega) rest hrest
    exact hread
  · have hread := unsignedNumber_toDigits (n := n) (m := n.value.natAbs) false
      (by simp only [Bool.false_eq_true, if_false]; omega) nofun rest hrest
    obtain ⟨c, tail, hdigits, hc⟩ := exists_digit n.value.natAbs
    rw [hdigits, List.cons_append] at hread ⊢
    rw [scalar_of_isDigit hc]
    exact hread

theorem exists_head_int (n : Integer) :
    ∃ c tail, (numberText (.int n)).toList = c :: tail ∧ (c = '-' ∨ Decimal.isDigit c = true) := by
  obtain ⟨c, tail, hdigits, hc⟩ := exists_digit n.value.natAbs
  rw [toList_numberText]
  split
  · exact ⟨'-', _, rfl, .inl rfl⟩
  · exact ⟨c, tail, hdigits, .inr hc⟩

theorem ne_of_numberHead {c other : Char} (hc : c = '-' ∨ Decimal.isDigit c = true)
    (hminus : other ≠ '-') (hother : Decimal.isDigit other = false) : c ≠ other := by
  rintro rfl
  rcases hc with hc | hc
  · exact hminus hc
  · rw [hother] at hc
    cases hc

theorem opens_of_numberHead {c : Char} (hc : c = '-' ∨ Decimal.isDigit c = true)
    (tail : List Char) : Opens (c :: tail) := by
  have hspace : isSpace c = false := by
    rw [Bool.eq_false_iff]
    intro h
    simp only [isSpace, Bool.or_eq_true, decide_eq_true_eq] at h
    rcases h with ((rfl | rfl) | rfl) | rfl <;> revert hc <;> decide
  exact ⟨c, tail, rfl, hspace, ne_of_numberHead hc (by decide) (by decide),
    ne_of_numberHead hc (by decide) (by decide)⟩

/-! ## Strings -/

theorem escape_control {n : Nat} (h : n < 0x20) (rest : List Char) :
    escape ('u' :: '0' :: '0' :: (Nat.toDigits 16 (n / 16) ++ Nat.toDigits 16 (n % 16)) ++ rest) =
      some (Char.ofNat n, rest) := by
  interval_cases n <;> rfl

theorem escapeChar_cases (c : Char) :
    (escapeChar c = [c] ∧ c ≠ '"' ∧ c ≠ '\\' ∧ 0x20 ≤ c.toNat) ∨
      ∃ code, escapeChar c = '\\' :: code ∧ ∀ rest, escape (code ++ rest) = some (c, rest) := by
  rw [escapeChar]
  split_ifs with hquote hslash hback hfeed hline hreturn htab hcontrol
  · subst hquote
    exact .inr ⟨['"'], rfl, fun _ => rfl⟩
  · subst hslash
    exact .inr ⟨['\\'], rfl, fun _ => rfl⟩
  · obtain rfl : Char.ofNat 0x8 = c := hback ▸ Char.ofNat_toNat c
    exact .inr ⟨['b'], rfl, fun _ => rfl⟩
  · obtain rfl : Char.ofNat 0xc = c := hfeed ▸ Char.ofNat_toNat c
    exact .inr ⟨['f'], rfl, fun _ => rfl⟩
  · subst hline
    exact .inr ⟨['n'], rfl, fun _ => rfl⟩
  · subst hreturn
    exact .inr ⟨['r'], rfl, fun _ => rfl⟩
  · subst htab
    exact .inr ⟨['t'], rfl, fun _ => rfl⟩
  · refine .inr ⟨_, rfl, fun rest => ?_⟩
    have hread := escape_control hcontrol rest
    rw [Char.ofNat_toNat] at hread
    exact hread
  · exact .inl ⟨rfl, hquote, hslash, Nat.not_lt.mp hcontrol⟩

theorem stringTail_escaped {fuel : Nat} (cs rest : List Char) (h : cs.length < fuel) :
    stringTail fuel (cs.flatMap escapeChar ++ '"' :: rest) = some (cs, rest) := by
  induction cs generalizing fuel with
  | nil =>
    obtain ⟨more, rfl⟩ := Nat.exists_eq_succ_of_ne_zero (Nat.ne_of_gt h)
    rfl
  | cons c tail ih =>
    obtain ⟨more, rfl⟩ := Nat.exists_eq_succ_of_ne_zero (Nat.ne_of_gt (Nat.zero_lt_of_lt h))
    have htail := ih (Nat.lt_of_succ_lt_succ h)
    rw [List.flatMap_cons, List.append_assoc]
    rcases escapeChar_cases c with ⟨hself, hquote, hslash, hplain⟩ | ⟨code, hcode, hescape⟩
    · have hcontrol : ¬c.toNat < 0x20 := Nat.not_lt.mpr hplain
      simp [hself, stringTail, hquote, hslash, hcontrol, htail]
    · simp [hcode, stringTail, hescape, htail]

theorem length_le_flatMap_escapeChar (cs : List Char) :
    cs.length ≤ (cs.flatMap escapeChar).length := by
  induction cs with
  | nil => exact Nat.le_refl 0
  | cons c tail ih =>
    have hone : 1 ≤ (escapeChar c).length := by
      rcases escapeChar_cases c with ⟨hself, -⟩ | ⟨code, hcode, -⟩
      · simp [hself]
      · simp [hcode]
    rw [List.flatMap_cons, List.length_append, List.length_cons]
    omega

theorem toList_quoted (s : String) :
    (quoted s).toList = '"' :: (s.toList.flatMap escapeChar ++ ['"']) :=
  String.toList_ofList

theorem text_quoted (s : String) (rest : List Char) :
    text ((quoted s).toList ++ rest) = some (s, rest) := by
  have hfuel := length_le_flatMap_escapeChar s.toList
  have hread : s.toList.length < (s.toList.flatMap escapeChar ++ '"' :: rest).length.succ := by
    rw [List.length_append]
    omega
  have htail := stringTail_escaped s.toList rest hread
  rw [toList_quoted, List.cons_append, List.append_assoc, List.singleton_append]
  simp only [text, htail, Option.bind_eq_bind, Option.bind_some, String.ofList_toList]

theorem opens_quoted (s : String) (rest : List Char) : Opens ((quoted s).toList ++ rest) :=
  ⟨'"', _, by rw [toList_quoted]; rfl, by decide, by decide, by decide⟩

end RowQuery.Json
