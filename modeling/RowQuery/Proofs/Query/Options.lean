import RowQuery.Proofs.Outcome
import RowQuery.Query.Parser

/-!
# Reading the four options

Pairs count only by the last value of each option. The options are read in one order, and the first
that has a fault decides: its error says which option it is about, so no two options fail alike.
-/
namespace RowQuery.Query

inductive Key
  | select
  | top
  | skip
  | orderBy
deriving DecidableEq, Repr

namespace Key

def name : Key → String
  | select => selectOption
  | top => topOption
  | skip => skipOption
  | orderBy => orderByOption

def all : List Key := [select, top, skip, orderBy]

theorem mem_all (key : Key) : key ∈ all := by
  cases key <;> decide

def before (key : Key) : List Key := all.takeWhile (· != key)

def after (key : Key) : List Key := (all.dropWhile (· != key)).tail

theorem all_eq (key : Key) : all = key.before ++ key :: key.after := by
  cases key <;> rfl

theorem not_mem_before (key : Key) : key ∉ key.before := by
  cases key <;> decide

theorem not_mem_after (key : Key) : key ∉ key.after := by
  cases key <;> decide

theorem name_inj {key other : Key} : key.name = other.name ↔ key = other := by
  cases key <;> cases other <;> decide

end Key

def lastValues (pairs : List (String × String)) (key : Key) : Option String :=
  Form.lastValue key.name pairs

def readSelect (limits : Limits) (raw : Option String) :
    Except ParseError (Option (List String)) :=
  readOption raw parseSelect fun fields => limits.checkSelect fields.length

def readTop (limits : Limits) (raw : Option String) : Except ParseError (Option UInt64) :=
  readOption raw (parseUnsigned topOption) limits.checkTop

def readSkip (raw : Option String) : Except ParseError (Option UInt64) :=
  readOption raw (parseUnsigned skipOption) fun _ => .ok ()

def readOrderBy (limits : Limits) (raw : Option String) : Except ParseError (Option SortOrder) :=
  readOption raw parseOrderBy fun order => limits.checkOrderBy order.length

def ofValues (limits : Limits) (values : Key → Option String) : Except ParseError Query := do
  let select ← readSelect limits (values .select)
  let top ← readTop limits (values .top)
  let skip ← readSkip (values .skip)
  let orderBy ← readOrderBy limits (values .orderBy)
  .ok { select, top, skip, orderBy }

theorem ofPairs_eq_ofValues (limits : Limits) (pairs : List (String × String)) :
    ofPairs limits pairs = ofValues limits (lastValues pairs) := rfl

theorem ofValues_eq_ok_iff {limits : Limits} {values : Key → Option String} {q : Query} :
    ofValues limits values = .ok q ↔
      readSelect limits (values .select) = .ok q.select ∧
      readTop limits (values .top) = .ok q.top ∧
      readSkip (values .skip) = .ok q.skip ∧
      readOrderBy limits (values .orderBy) = .ok q.orderBy := by
  simp only [ofValues, bind_eq_ok_iff]
  constructor
  · rintro ⟨select, hselect, top, htop, skip, hskip, orderBy, horder, h⟩
    cases h
    exact ⟨hselect, htop, hskip, horder⟩
  · rintro ⟨hselect, htop, hskip, horder⟩
    exact ⟨_, hselect, _, htop, _, hskip, _, horder, rfl⟩

theorem result_parseQueryString (limits : Limits) (text : String) :
    (parseQueryString limits text).result = readQueryString limits text := by
  rw [parseQueryString, Attempt.result_bind, Attempt.result_ofExcept]
  cases readQueryString limits text <;> rfl

/-! ## A question mark in front -/

theorem toList_mark (rest : String) : ("?" ++ rest).toList = '?' :: rest.toList := by
  simp

theorem mark_inj {first second : String} (h : "?" ++ first = "?" ++ second) : first = second := by
  have htext := congrArg String.toList h
  rw [toList_mark, toList_mark, List.cons_inj_right] at htext
  exact String.toList_inj.mp htext

theorem withoutMark_mark (rest : String) : withoutMark ("?" ++ rest) = rest := by
  rw [withoutMark, toList_mark]
  exact String.ofList_toList

theorem withoutMark_of_forall {text : String} (h : ∀ rest, text ≠ "?" ++ rest) :
    withoutMark text = text := by
  rw [withoutMark]
  split
  · rename_i rest hrest
    refine absurd ?_ (h (String.ofList rest))
    rw [← String.toList_inj, hrest, toList_mark, String.toList_ofList]
  · rfl

theorem utf8ByteSize_mark (rest : String) : ("?" ++ rest).utf8ByteSize = rest.utf8ByteSize + 1 := by
  rw [String.utf8ByteSize_append, Nat.add_comm]
  rfl

/-! ## One option -/

section readOption

variable {α : Type} {raw : Option String} {parse : String → Except ParseError α}
  {check : α → Except ParseError Unit}

@[simp] theorem readOption_none : readOption none parse check = .ok none := rfl

theorem readOption_eq_some_iff {a : α} :
    readOption raw parse check = .ok (some a) ↔
      ∃ text, raw = some text ∧ parse text = .ok a ∧ check a = .ok () := by
  cases raw with
  | none => simp
  | some text =>
    simp only [readOption, bind_eq_ok_iff, Except.ok.injEq, Option.some.injEq, exists_eq_left']
    constructor
    · rintro ⟨b, hparse, u, hcheck, rfl⟩
      exact ⟨hparse, hcheck⟩
    · rintro ⟨hparse, hcheck⟩
      exact ⟨a, hparse, (), hcheck, rfl⟩

theorem isSome_of_readOption {a : Option α} (h : readOption raw parse check = .ok a) :
    a.isSome = raw.isSome := by
  cases raw with
  | none =>
    cases h
    rfl
  | some text =>
    obtain ⟨b, _, hrest⟩ := bind_eq_ok_iff.mp h
    obtain ⟨_, _, hb⟩ := bind_eq_ok_iff.mp hrest
    cases hb
    rfl

theorem readOption_eq_error {e : ParseError} (h : readOption raw parse check = .error e) :
    (∃ text, parse text = .error e) ∨ ∃ a, check a = .error e := by
  cases raw with
  | none => cases h
  | some text =>
    cases hparse : parse text with
    | error e' =>
      simp only [readOption, hparse, error_bind, Except.error.injEq] at h
      exact .inl ⟨text, h ▸ hparse⟩
    | ok a =>
      cases hcheck : check a with
      | error e' =>
        simp only [readOption, hparse, hcheck, ok_bind, error_bind, Except.error.injEq] at h
        exact .inr ⟨a, h ▸ hcheck⟩
      | ok u =>
        simp only [readOption, hparse, hcheck, ok_bind] at h
        cases h

end readOption

/-! ## The first fault -/

def error? {α : Type} : Except ParseError α → Option ParseError
  | .ok _ => none
  | .error e => some e

@[simp] theorem error?_eq_some_iff {α : Type} {x : Except ParseError α} {e : ParseError} :
    error? x = some e ↔ x = .error e := by
  cases x <;> simp [error?]

theorem error?_bind {α β : Type} (x : Except ParseError α) (f : α → Except ParseError β)
    {other : Option ParseError} (h : ∀ a, error? (f a) = other) :
    error? (x >>= f) = (error? x).or other := by
  cases x with
  | ok a => simpa [error?] using h a
  | error e => rfl

def fault? (limits : Limits) (raw : Option String) : Key → Option ParseError
  | .select => error? (readSelect limits raw)
  | .top => error? (readTop limits raw)
  | .skip => error? (readSkip raw)
  | .orderBy => error? (readOrderBy limits raw)

@[simp] theorem fault?_none (limits : Limits) (key : Key) : fault? limits none key = none := by
  cases key <;> rfl

def firstFault? (limits : Limits) (values : Key → Option String) (keys : List Key) :
    Option ParseError :=
  keys.findSome? fun key => fault? limits (values key) key

theorem firstFault?_cons (limits : Limits) (values : Key → Option String) (key : Key)
    (keys : List Key) :
    firstFault? limits values (key :: keys) =
      (fault? limits (values key) key).or (firstFault? limits values keys) := by
  rw [firstFault?, List.findSome?_cons]
  cases fault? limits (values key) key <;> rfl

theorem firstFault?_append (limits : Limits) (values : Key → Option String)
    (first second : List Key) :
    firstFault? limits values (first ++ second) =
      (firstFault? limits values first).or (firstFault? limits values second) := by
  rw [firstFault?, List.findSome?_append]
  rfl

theorem error?_ofValues (limits : Limits) (values : Key → Option String) :
    error? (ofValues limits values) = firstFault? limits values Key.all := by
  simp only [Key.all, firstFault?_cons, fault?]
  exact error?_bind _ _ fun select => error?_bind _ _ fun top => error?_bind _ _ fun skip =>
    error?_bind _ _ fun orderBy => rfl

theorem firstFault?_congr {limits : Limits} {values others : Key → Option String}
    {keys : List Key} (h : ∀ key ∈ keys, values key = others key) :
    firstFault? limits values keys = firstFault? limits others keys := by
  induction keys with
  | nil => rfl
  | cons key rest ih =>
    rw [firstFault?_cons, firstFault?_cons, h key List.mem_cons_self,
      ih fun k hk => h k (List.mem_cons_of_mem key hk)]

/-! ## Errors by option -/

def about? : ParseError → Option Key
  | .emptySelectField => some .select
  | .invalidInteger option _ => Key.all.find? fun key => key.name == option
  | .invalidDirection _ _ | .emptyOrderByField | .malformedOrderBy _ => some .orderBy
  | .limitExceeded what _ =>
    if what = "$select field count" then some .select
    else if what = "$top" then some .top
    else if what = "$orderby field count" then some .orderBy
    else none
  | .invalidUrl _ => none

theorem eq_limitExceeded_of_check {what : String} {max : Option UInt64} {actual : Nat}
    {e : ParseError} (h : Limits.check what max actual = .error e) :
    ∃ m, e = .limitExceeded what m := by
  cases max with
  | none => cases h
  | some m =>
    rw [Limits.check] at h
    split at h
    · exact ⟨m, (Except.error.inj h).symm⟩
    · cases h

theorem eq_emptySelectField_of_parseSelect {raw : String} {e : ParseError}
    (h : parseSelect raw = .error e) : e = .emptySelectField := by
  obtain ⟨part, _, hpart⟩ := exists_mem_of_mapM_eq_error h
  simp only [selectField] at hpart
  split at hpart
  · exact (Except.error.inj hpart).symm
  · cases hpart

theorem eq_invalidInteger_of_parseUnsigned {option raw : String} {e : ParseError}
    (h : parseUnsigned option raw = .error e) : e = .invalidInteger option raw := by
  rw [parseUnsigned] at h
  split at h
  · cases h
  · exact (Except.error.inj h).symm

theorem about?_of_orderClause {part : List Char} {e : ParseError}
    (h : orderClause part = .error e) : about? e = some .orderBy := by
  rw [orderClause] at h
  split at h
  · exact Except.error.inj h ▸ rfl
  · cases h
  · split at h
    · cases h
    · exact Except.error.inj h ▸ rfl
  · exact Except.error.inj h ▸ rfl

theorem about?_of_fault {limits : Limits} {raw : Option String} {key : Key} {e : ParseError}
    (h : fault? limits raw key = some e) : about? e = some key := by
  cases key with
  | select =>
    rcases readOption_eq_error (error?_eq_some_iff.mp h) with ⟨text, hparse⟩ | ⟨fields, hcheck⟩
    · exact eq_emptySelectField_of_parseSelect hparse ▸ rfl
    · obtain ⟨m, rfl⟩ := eq_limitExceeded_of_check hcheck
      rfl
  | top =>
    rcases readOption_eq_error (error?_eq_some_iff.mp h) with ⟨text, hparse⟩ | ⟨n, hcheck⟩
    · exact eq_invalidInteger_of_parseUnsigned hparse ▸ rfl
    · obtain ⟨m, rfl⟩ := eq_limitExceeded_of_check hcheck
      rfl
  | skip =>
    rcases readOption_eq_error (error?_eq_some_iff.mp h) with ⟨text, hparse⟩ | ⟨n, hcheck⟩
    · exact eq_invalidInteger_of_parseUnsigned hparse ▸ rfl
    · cases hcheck
  | orderBy =>
    rcases readOption_eq_error (error?_eq_some_iff.mp h) with ⟨text, hparse⟩ | ⟨order, hcheck⟩
    · obtain ⟨part, _, hpart⟩ := exists_mem_of_mapM_eq_error hparse
      exact about?_of_orderClause hpart
    · obtain ⟨m, rfl⟩ := eq_limitExceeded_of_check hcheck
      rfl

theorem about?_of_firstFault {limits : Limits} {values : Key → Option String} {keys : List Key}
    {e : ParseError} (h : firstFault? limits values keys = some e) :
    ∃ key ∈ keys, about? e = some key := by
  obtain ⟨key, hkey, hfault⟩ := List.exists_of_findSome?_eq_some h
  exact ⟨key, hkey, about?_of_fault hfault⟩

/-! ## One value more -/

def has (q : Query) : Key → Bool
  | .select => q.select.isSome
  | .top => q.top.isSome
  | .skip => q.skip.isSome
  | .orderBy => q.orderBy.isSome

theorem has_of_ofValues {limits : Limits} {values : Key → Option String} {q : Query}
    (h : ofValues limits values = .ok q) (key : Key) : q.has key = (values key).isSome := by
  obtain ⟨hselect, htop, hskip, horder⟩ := ofValues_eq_ok_iff.mp h
  cases key with
  | select => exact isSome_of_readOption hselect
  | top => exact isSome_of_readOption htop
  | skip => exact isSome_of_readOption hskip
  | orderBy => exact isSome_of_readOption horder

/-- The value of one option decides a result: no option before it has a fault, and it has one itself
or no other option has. -/
def Decisive (limits : Limits) (values : Key → Option String) (key : Key) (text : String) : Prop :=
  firstFault? limits values key.before = none ∧
    (fault? limits (some text) key ≠ none ∨ firstFault? limits values key.after = none)

theorem ofValues_eq_iff_error? {limits : Limits} {values more : Key → Option String} {key : Key}
    {text : String} (hmore : more key = some text) (hmissing : values key = none) :
    ofValues limits more = ofValues limits values ↔
      error? (ofValues limits more) = error? (ofValues limits values) ∧
        error? (ofValues limits values) ≠ none := by
  cases hv : ofValues limits values with
  | error e => cases hm : ofValues limits more <;> simp [error?]
  | ok q =>
    cases hm : ofValues limits more with
    | error e => simp [error?]
    | ok r =>
      have hq := has_of_ofValues hv key
      have hr := has_of_ofValues hm key
      rw [hmissing] at hq
      rw [hmore] at hr
      suffices r ≠ q by simpa [error?] using this
      rintro rfl
      rw [hq] at hr
      cases hr

theorem firstFault?_after_ne {limits : Limits} {raw : Option String} {key : Key} {e : ParseError}
    (h : fault? limits raw key = some e) (values : Key → Option String) :
    firstFault? limits values key.after ≠ some e := by
  intro hafter
  obtain ⟨other, hmem, habout⟩ := about?_of_firstFault hafter
  rw [about?_of_fault h, Option.some.injEq] at habout
  exact key.not_mem_after (habout ▸ hmem)

theorem ofValues_eq_iff {limits : Limits} {values more : Key → Option String} {key : Key}
    {text : String} (hmore : more key = some text) (hmissing : values key = none)
    (hother : ∀ other ≠ key, more other = values other) :
    ofValues limits more = ofValues limits values ↔ ¬Decisive limits values key text := by
  have hbefore : firstFault? limits more key.before = firstFault? limits values key.before :=
    firstFault?_congr fun k hk => hother k fun h => key.not_mem_before (h ▸ hk)
  have hafter : firstFault? limits more key.after = firstFault? limits values key.after :=
    firstFault?_congr fun k hk => hother k fun h => key.not_mem_after (h ▸ hk)
  -- Both readings meet the same faults before the option and after it.
  rw [ofValues_eq_iff_error? hmore hmissing, error?_ofValues, error?_ofValues, key.all_eq,
    firstFault?_append, firstFault?_append, firstFault?_cons, firstFault?_cons, hmore, hmissing,
    hbefore, hafter, fault?_none, Decisive]
  cases hb : firstFault? limits values key.before with
  | some e => simp
  | none =>
    cases hf : fault? limits (some text) key with
    | some e => simp [(firstFault?_after_ne hf values).symm]
    | none => simp

end RowQuery.Query
