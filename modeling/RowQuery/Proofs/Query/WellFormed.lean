import RowQuery.Proofs.Number.Decimal
import RowQuery.Proofs.Query.Options
import RowQuery.Proofs.Text.Blank
import RowQuery.Proofs.Text.Form

/-!
# Well-formed queries

What is read from a query string is well formed: it selects and orders by fields that a list with
commas can name. Every such query has a query string of its own, with all of its values escaped, and
is read back from it.
-/
namespace RowQuery

open Text (isBlank Trimmed trim words)

/-- The parts of a value are what its commas part. -/
structure Parts (raw : String) (parts : List (List Char)) : Prop where
  joined : [','].intercalate parts = raw.toList
  no_comma : ∀ part ∈ parts, ',' ∉ part
  ne_nil : parts ≠ []

structure SelectField (field : String) : Prop where
  ne_empty : field ≠ ""
  no_comma : ',' ∉ field.toList
  trimmed : Trimmed field.toList

structure OrderField (field : String) : Prop where
  ne_empty : field ≠ ""
  no_comma : ',' ∉ field.toList
  no_blank : ∀ c ∈ field.toList, isBlank c = false

structure Query.WellFormed (q : Query) : Prop where
  select : ∀ fields ∈ q.select, fields ≠ [] ∧ ∀ field ∈ fields, SelectField field
  orderBy : ∀ order ∈ q.orderBy, order ≠ [] ∧ ∀ key ∈ order, OrderField key.field

instance (field : String) : Decidable (SelectField field) :=
  decidable_of_iff (field ≠ "" ∧ ',' ∉ field.toList ∧ Trimmed field.toList)
    ⟨fun ⟨hne, hcomma, htrim⟩ => ⟨hne, hcomma, htrim⟩,
      fun h => ⟨h.ne_empty, h.no_comma, h.trimmed⟩⟩

instance (field : String) : Decidable (OrderField field) :=
  decidable_of_iff (field ≠ "" ∧ ',' ∉ field.toList ∧ field.toList.all (!isBlank ·))
    ⟨fun ⟨hne, hcomma, hblank⟩ => ⟨hne, hcomma, by simpa using hblank⟩,
      fun h => ⟨h.ne_empty, h.no_comma, by simpa using h.no_blank⟩⟩

instance (q : Query) : Decidable q.WellFormed :=
  decidable_of_iff
    ((∀ fields ∈ q.select, fields ≠ [] ∧ ∀ field ∈ fields, SelectField field) ∧
      ∀ order ∈ q.orderBy, order ≠ [] ∧ ∀ key ∈ order, OrderField key.field)
    ⟨fun ⟨hselect, horder⟩ => ⟨hselect, horder⟩, fun h => ⟨h.select, h.orderBy⟩⟩

namespace Query

/-! ## What is read is well formed -/

theorem comma_not_mem_part {raw : String} {part : List Char} (h : part ∈ commaParts raw) :
    ',' ∉ part := by
  intro hcomma
  have hpart := (Text.mem_of_mem_splitBy h hcomma).2
  exact absurd hpart (by decide)

theorem parts_iff {raw : String} {parts : List (List Char)} :
    Parts raw parts ↔ commaParts raw = parts := by
  constructor
  · intro h
    rw [commaParts, ← h.joined, Text.splitBy_intercalate h.no_comma h.ne_nil]
  · rintro rfl
    exact ⟨Text.intercalate_splitBy ',' raw.toList, fun _ => comma_not_mem_part,
      Text.splitBy_ne_nil _ _⟩

theorem forall_of_commaParts {α : Type} {read : List Char → Except ParseError α} {P : α → Prop}
    (hread : ∀ {part item}, ',' ∉ part → read part = .ok item → P item)
    {raw : String} {items : List α} (h : (commaParts raw).mapM read = .ok items) :
    items ≠ [] ∧ ∀ item ∈ items, P item := by
  obtain ⟨-, hcomma, hne⟩ := parts_iff.mpr (Eq.refl (commaParts raw))
  rw [mapM_eq_ok_iff] at h
  refine ⟨?_, fun item hitem => ?_⟩
  · rintro rfl
    exact hne (List.forall₂_nil_right_iff.mp h)
  · obtain ⟨i, hi, rfl⟩ := List.getElem_of_mem hitem
    have hpart : i < (commaParts raw).length := h.length_eq ▸ hi
    exact hread (hcomma _ (List.getElem_mem hpart)) (h.get hpart hi)

theorem selectField_eq_ok_iff {part : List Char} {field : String} :
    selectField part = .ok field ↔ trim part ≠ [] ∧ String.ofList (trim part) = field := by
  cases h : trim part <;> simp [selectField, h]

theorem selectField_spec {part : List Char} {field : String} (hpart : ',' ∉ part)
    (h : selectField part = .ok field) : SelectField field := by
  obtain ⟨hne, rfl⟩ := selectField_eq_ok_iff.mp h
  refine ⟨by simpa using hne, ?_, ?_⟩
  · rw [String.toList_ofList]
    exact fun hcomma => hpart (Text.mem_of_mem_trim hcomma)
  · rw [String.toList_ofList]
    exact Text.trimmed_trim part

theorem exists_word_of_orderClause {part : List Char} {key : OrderKey}
    (h : orderClause part = .ok key) : ∃ word ∈ words part, key.field = String.ofList word := by
  rw [orderClause] at h
  cases hw : words part with
  | nil => simp [hw] at h
  | cons field rest =>
    refine ⟨field, List.mem_cons_self, ?_⟩
    cases rest with
    | nil =>
      simp only [hw, List.map_cons, List.map_nil, Except.ok.injEq] at h
      exact h ▸ rfl
    | cons token rest =>
      cases rest with
      | nil =>
        simp only [hw, List.map_cons, List.map_nil] at h
        split at h
        · cases h
          rfl
        · cases h
      | cons _ _ => simp [hw] at h

theorem orderClause_spec {part : List Char} {key : OrderKey} (hpart : ',' ∉ part)
    (h : orderClause part = .ok key) : OrderField key.field := by
  obtain ⟨word, hword, hkey⟩ := exists_word_of_orderClause h
  have hchars := fun c hc => Text.mem_of_mem_words hword (c := c) hc
  rw [hkey]
  refine ⟨by simpa using Text.ne_nil_of_mem_words hword, ?_, ?_⟩
  · rw [String.toList_ofList]
    exact fun hcomma => hpart (hchars _ hcomma).1
  · rw [String.toList_ofList]
    exact fun c hc => (hchars c hc).2

theorem wellFormed_of_ofValues {limits : Limits} {values : Key → Option String} {q : Query}
    (h : ofValues limits values = .ok q) : q.WellFormed := by
  obtain ⟨hselect, _, _, horder⟩ := ofValues_eq_ok_iff.mp h
  constructor
  · intro fields hfields
    rw [hfields] at hselect
    obtain ⟨raw, _, hraw, _⟩ := readOption_eq_some_iff.mp hselect
    exact forall_of_commaParts selectField_spec hraw
  · intro order hkeys
    rw [hkeys] at horder
    obtain ⟨raw, _, hraw, _⟩ := readOption_eq_some_iff.mp horder
    exact forall_of_commaParts orderClause_spec hraw

/-! ## What is well formed is read -/

def valueText (q : Query) : Key → Option String
  | .select => q.select.map fun fields => ",".intercalate fields
  | .top => q.top.map toString
  | .skip => q.skip.map toString
  | .orderBy => q.orderBy.map fun order => ",".intercalate (order.map OrderKey.display)

def entries (q : Query) : List (String × String) :=
  Key.all.filterMap fun key => (q.valueText key).map fun text => (key.name, text)

/-- The query string with every byte of a value escaped. -/
def written (q : Query) : String := Form.write q.entries

theorem lookup_filterMap (values : Key → Option String) (keys : List Key) (key : Key) :
    (keys.filterMap fun k => (values k).map fun text => (k.name, text)).lookup key.name =
      if key ∈ keys then values key else none := by
  induction keys with
  | nil => rfl
  | cons k rest ih =>
    by_cases hk : key = k
    · subst hk
      cases hv : values key with
      | none => simp [hv, ih]
      | some text => simp [hv]
    · have hname : (key.name == k.name) = false := by simpa [Key.name_inj] using hk
      cases hv : values k with
      | none => simp [hv, ih, hk]
      | some text => simp [hv, ih, hk, List.lookup_cons, hname]

theorem lastValues_entries (q : Query) : lastValues q.entries = q.valueText := by
  funext key
  rw [lastValues, Form.lastValue, entries, ← List.filterMap_reverse, lookup_filterMap,
    if_pos (List.mem_reverse.mpr key.mem_all)]

theorem name_of_mem_entries {q : Query} {pair : String × String} (h : pair ∈ q.entries) :
    ∃ key : Key, pair.1 = key.name := by
  obtain ⟨key, _, hpair⟩ := List.mem_filterMap.mp h
  obtain ⟨text, _, rfl⟩ := Option.map_eq_some_iff.mp hpair
  exact ⟨key, rfl⟩

theorem plainName_name (key : Key) : Form.PlainName key.name := by
  cases key <;> decide

theorem pairs_written (q : Query) : Form.pairs q.written = q.entries := by
  refine Form.pairs_write fun pair hpair => ?_
  obtain ⟨key, hkey⟩ := name_of_mem_entries hpair
  exact hkey ▸ plainName_name key

theorem head?_written {q : Query} {c : Char} (h : q.written.toList.head? = some c) : c = '$' := by
  have hfirst : ∀ key : Key, key.name.toList.head? = some '$' := fun key => by cases key <;> decide
  rw [written, Form.write] at h
  cases hq : q.entries with
  | nil =>
    rw [hq] at h
    cases h
  | cons pair rest =>
    obtain ⟨key, hkey⟩ := name_of_mem_entries (hq ▸ List.mem_cons_self)
    have hpair : (Form.writePair pair).toList.head? = some '$' := by
      simp [Form.writePair, hkey, hfirst]
    rw [hq] at h
    cases rest with
    | nil => simpa [hpair, eq_comm] using h
    | cons _ _ => simpa [String.intercalate_cons_cons, hpair, eq_comm] using h

theorem withoutMark_written (q : Query) : withoutMark q.written = q.written := by
  refine withoutMark_of_forall fun rest h => ?_
  have hmark := head?_written (c := '?') (by rw [h, toList_mark, List.head?_cons])
  exact absurd hmark (by decide)

theorem parseSelect_intercalate {fields : List String} (hne : fields ≠ [])
    (h : ∀ field ∈ fields, SelectField field) :
    parseSelect (",".intercalate fields) = .ok fields := by
  have hpieces : ∀ piece ∈ fields.map String.toList, ',' ∉ piece :=
    List.forall_mem_map.mpr fun field hfield => (h field hfield).no_comma
  have hparts : commaParts (",".intercalate fields) = fields.map String.toList := by
    refine parts_iff.mp ⟨?_, hpieces, by simpa using hne⟩
    rw [String.toList_intercalate]
    rfl
  rw [parseSelect, hparts, mapM_eq_ok_iff, List.forall₂_map_left_iff, List.forall₂_same]
  intro field hfield
  have hfield := h field hfield
  rw [selectField_eq_ok_iff, Text.trim_of_trimmed hfield.trimmed, String.ofList_toList]
  exact ⟨by simpa using hfield.ne_empty, rfl⟩

theorem toList_display (key : OrderKey) :
    key.display.toList = key.field.toList ++ ' ' :: key.direction.word.toList := by
  simp [OrderKey.display]

theorem orderField_word (d : Direction) : OrderField d.word := by
  cases d <;> decide

theorem orderClause_display {key : OrderKey} (h : OrderField key.field) :
    orderClause key.display.toList = .ok key := by
  have hword := orderField_word key.direction
  have hwords : words key.display.toList = [key.field.toList, key.direction.word.toList] := by
    rw [toList_display]
    exact Text.words_pair h.no_blank hword.no_blank (by simpa using h.ne_empty)
      (by simpa using hword.ne_empty)
  simp only [orderClause, hwords, List.map_cons, List.map_nil, String.ofList_toList,
    Direction.ofWord?_word]

theorem comma_not_mem_display {key : OrderKey} (h : OrderField key.field) :
    ',' ∉ key.display.toList := by
  have hword := (orderField_word key.direction).no_comma
  simp [toList_display, h.no_comma, hword]

theorem orderClause_append {blanks : List Char} (h : ∀ c ∈ blanks, isBlank c = true)
    (part : List Char) : orderClause (blanks ++ part) = orderClause part := by
  simp only [orderClause, Text.words_append h, Text.trim_append h]

theorem parseOrderBy_of_joined {blanks : List Char} (hblanks : ∀ c ∈ blanks, isBlank c = true)
    {order : SortOrder} (hne : order ≠ []) (h : ∀ key ∈ order, OrderField key.field) {text : String}
    (htext : text.toList = (',' :: blanks).intercalate (order.map fun key => key.display.toList)) :
    parseOrderBy text = .ok order := by
  obtain ⟨first, rest, rfl⟩ := List.exists_cons_of_ne_nil hne
  obtain ⟨hfirst, hrest⟩ := List.forall_mem_cons.mp h
  have hparts : commaParts text =
      first.display.toList :: rest.map fun key => blanks ++ key.display.toList := by
    refine parts_iff.mp ⟨?_, ?_, List.cons_ne_nil _ _⟩
    · have hstart := Text.intercalate_append [','] blanks first.display.toList
        (rest.map fun key => key.display.toList)
      rw [List.map_map] at hstart
      exact hstart.symm.trans htext.symm
    · have hcomma : ',' ∉ blanks := fun hmem => absurd (hblanks ',' hmem) (by decide)
      refine List.forall_mem_cons.mpr ⟨comma_not_mem_display hfirst, List.forall_mem_map.mpr ?_⟩
      intro key hkey
      rw [List.mem_append, not_or]
      exact ⟨hcomma, comma_not_mem_display (hrest key hkey)⟩
  rw [parseOrderBy, hparts, mapM_eq_ok_iff]
  refine .cons (orderClause_display hfirst) ?_
  rw [List.forall₂_map_left_iff, List.forall₂_same]
  intro key hkey
  rw [orderClause_append hblanks, orderClause_display (hrest key hkey)]

theorem parseOrderBy_intercalate {order : SortOrder} (hne : order ≠ [])
    (h : ∀ key ∈ order, OrderField key.field) :
    parseOrderBy (",".intercalate (order.map OrderKey.display)) = .ok order := by
  refine parseOrderBy_of_joined (List.forall_mem_nil _) hne h ?_
  rw [String.toList_intercalate, List.map_map]
  rfl

theorem parseUnsigned_toString (option : String) (n : UInt64) :
    parseUnsigned option (toString n) = .ok n := by
  rw [parseUnsigned, Decimal.ofDigits?_toString]

theorem readOption_map {α : Type} {a : Option α} {text : α → String}
    {parse : String → Except ParseError α} {check : α → Except ParseError Unit}
    (h : ∀ x ∈ a, parse (text x) = .ok x ∧ check x = .ok ()) :
    readOption (a.map text) parse check = .ok a := by
  cases a with
  | none => rfl
  | some x => exact readOption_eq_some_iff.mpr ⟨text x, rfl, h x rfl⟩

theorem ofValues_valueText {q : Query} (h : q.WellFormed) : ofValues {} q.valueText = .ok q := by
  rw [ofValues_eq_ok_iff]
  refine ⟨readOption_map fun fields hfields => ?_, readOption_map fun n _ => ?_,
    readOption_map fun n _ => ?_, readOption_map fun order horder => ?_⟩
  · obtain ⟨hne, hfield⟩ := h.select fields hfields
    exact ⟨parseSelect_intercalate hne hfield, rfl⟩
  · exact ⟨parseUnsigned_toString topOption n, rfl⟩
  · exact ⟨parseUnsigned_toString skipOption n, rfl⟩
  · obtain ⟨hne, hkey⟩ := h.orderBy order horder
    exact ⟨parseOrderBy_intercalate hne hkey, rfl⟩

/-- The queries that can be read are exactly the well-formed ones: under any limits nothing else is
read, and without limits each of them is read from its query string. -/
theorem parseQueryString_image :
    (∀ (limits : Limits) (text : String) (q : Query),
      (parseQueryString limits text).result = .ok q → q.WellFormed) ∧
    ∀ q : Query, q.WellFormed → (parseQueryString {} q.written).result = .ok q := by
  constructor
  · intro limits text q h
    rw [result_parseQueryString, readQueryString] at h
    obtain ⟨_, _, hpairs⟩ := bind_eq_ok_iff.mp h
    exact wellFormed_of_ofValues (ofPairs_eq_ofValues limits _ ▸ hpairs)
  · intro q h
    rw [result_parseQueryString, readQueryString, withoutMark_written, pairs_written,
      ofPairs_eq_ofValues, lastValues_entries]
    exact ofValues_valueText h

/-- Fields with the characters that separate pairs and the words that name directions. -/
theorem parseQueryString_image_marks :
    let q : Query :=
      { select := some ["a&b=%+?", "first name", "é"], top := some 18446744073709551615,
        orderBy := some [⟨"asc", .descending⟩, ⟨"$top=1", .ascending⟩] }
    q.WellFormed ∧ (parseQueryString {} q.written).result = .ok q := by
  intro q
  have hq : q.WellFormed := by decide
  have hread := parseQueryString_image.2 q hq
  exact ⟨parseQueryString_image.1 {} q.written q hread, hread⟩

end Query
end RowQuery
