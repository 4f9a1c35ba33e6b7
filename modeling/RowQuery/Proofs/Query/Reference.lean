import RowQuery.Proofs.Query.Component
import RowQuery.Proofs.Url.Reference

/-!
# A query string as a reference

A query string can be read directly, or behind a question mark as a reference to a query. On the
second way the bytes that may not stand in a URL are escaped before the pairs are decoded. Both ways
come to the same, error or query and what is reported of it, as long as no length is limited: the
escapes change the length and nothing else.
-/
namespace RowQuery.Query

open Url (encodeQuery isTabOrBreak isControlOrSpace)

theorem parseUrl_of_urlQuery {url component : String} (h : urlQuery url = .ok component)
    (limits : Limits) : parseUrl limits url = parseQueryString limits component := by
  rw [parseUrl, h]
  rfl

theorem urlQuery_of_query? {url component : String} (h : Url.query? url = .ok (some component)) :
    urlQuery url = .ok component := by
  rw [urlQuery, h]
  rfl

theorem pairs_encodeQuery (special : Bool) (text : String) :
    Form.pairs (encodeQuery special text.toList) = Form.pairs text :=
  Form.pairs_respelled (Url.respelled_encodeQuery special text.toList)

theorem pairs_withoutMark_encodeQuery (special : Bool) (text : String) :
    Form.pairs (withoutMark (encodeQuery special text.toList)) = Form.pairs (withoutMark text) := by
  by_cases hmark : ∃ rest, text = "?" ++ rest
  · obtain ⟨rest, rfl⟩ := hmark
    rw [toList_mark, Url.encodeQuery_mark, withoutMark_mark, withoutMark_mark, pairs_encodeQuery]
  · have hencoded : ∀ rest, encodeQuery special text.toList ≠ "?" ++ rest := by
      intro rest h
      obtain ⟨tail, htail⟩ := Url.exists_mark_of_encodeQuery h
      refine hmark ⟨String.ofList tail, ?_⟩
      rw [← String.toList_inj, htail, toList_mark, String.toList_ofList]
    rw [withoutMark_of_forall hencoded, withoutMark_of_forall fun rest h => hmark ⟨rest, h⟩,
      pairs_encodeQuery]

variable {limits : Limits}

theorem parseQueryString_encodeQuery (h : limits.queryLength = none) (special : Bool)
    (text : String) :
    parseQueryString limits (encodeQuery special text.toList) = parseQueryString limits text := by
  have hread : readQueryString limits (encodeQuery special text.toList) =
      readQueryString limits text := by
    rw [readQueryString_eq, readQueryString_eq, ofComponent_of_unlimited h,
      ofComponent_of_unlimited h, pairs_withoutMark_encodeQuery]
  rw [parseQueryString, hread, parseQueryString]

/-- A query string behind a question mark is read as the query string, with any fragment after it,
and without one if cleaning leaves its end alone. -/
theorem parseUrl_eq_parseQueryString {text : String} (hlength : limits.queryLength = none)
    (htext : ∀ c ∈ text.toList, c ≠ '#' ∧ c ≠ '\t' ∧ c ≠ '\n' ∧ c ≠ '\r') :
    (∀ fragment : String,
      parseUrl limits ("?" ++ text ++ "#" ++ fragment) = parseQueryString limits text) ∧
    ((∀ c ∈ text.toList.getLast?, 0x20 < c.toNat) →
      parseUrl limits ("?" ++ text) = parseQueryString limits text) := by
  have hnumber : '#' ∉ text.toList := fun h => (htext _ h).1 rfl
  have hbreak : ∀ c ∈ text.toList, isTabOrBreak c = false := by
    intro c hc
    obtain ⟨_, htab, hfeed, hreturn⟩ := htext c hc
    simp [isTabOrBreak, htab, hfeed, hreturn]
  constructor
  · intro fragment
    have hquery := urlQuery_of_query? (Url.query?_fragment hnumber hbreak fragment)
    rw [parseUrl_of_urlQuery hquery, parseQueryString_encodeQuery hlength]
  · intro hend
    have hlast : ∀ c ∈ text.toList.getLast?, isControlOrSpace c = false := by
      intro c hc
      have hc := hend c hc
      simp [isControlOrSpace, hc]
    have hquery := urlQuery_of_query? (Url.query?_mark hnumber hbreak hlast)
    rw [parseUrl_of_urlQuery hquery, parseQueryString_encodeQuery hlength]

/-- Percent signs that begin no escape, one of them before a digit and an escaped character. -/
theorem parseUrl_eq_parseQueryString_lone_percent :
    let text := "$select=%,%4é,'"
    (∀ c ∈ text.toList, c ≠ '#' ∧ c ≠ '\t' ∧ c ≠ '\n' ∧ c ≠ '\r') ∧
    (∀ c ∈ text.toList.getLast?, 0x20 < c.toNat) ∧
    (parseQueryString {} text).result = .ok { select := some ["%", "%4é", "'"] } ∧
    parseUrl {} ("?" ++ text ++ "#" ++ "a?b#c ") = parseQueryString {} text ∧
    parseUrl {} ("?" ++ text) = parseQueryString {} text := by
  intro text
  have htext : ∀ c ∈ text.toList, c ≠ '#' ∧ c ≠ '\t' ∧ c ≠ '\n' ∧ c ≠ '\r' := by
    simp [text]
  have hend : ∀ c ∈ text.toList.getLast?, 0x20 < c.toNat := by simp [text]
  have hread : (parseQueryString {} "$select=%,%4é,'").result =
      .ok { select := some ["%", "%4é", "'"] } := by rfl
  obtain ⟨hfragment, hwhole⟩ := @parseUrl_eq_parseQueryString {} text rfl htext
  exact ⟨htext, hend, hread, hfragment "a?b#c ", hwhole hend⟩

end RowQuery.Query
