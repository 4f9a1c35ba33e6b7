import RowQuery.Problem
import RowQuery.Proofs.Json.Printed
import RowQuery.Proofs.Json.Record
import RowQuery.Proofs.Visibility
import RowQuery.Query.Codec

/-!
# What is written as JSON is read back

Queries, problems, limits and tables of hidden fields come back from the texts that they are written
as. Each is read from the value that it writes, and the text of that value is read to the value: it
has no binary numbers, few levels, and no member that a reader of the type would pass over.
-/
namespace RowQuery

open Json

/-! ## Queries and limits -/

theorem Direction.ofJson?_toJson (d : Direction) : Direction.ofJson? d.toJson = some d := by
  cases d <;> rfl

theorem OrderKey.slots?_toJson (key : OrderKey) :
    slots? ["field", "dir"] .ignored key.toJson =
      some [some (.string key.field), some key.direction.toJson] := by
  rfl

theorem OrderKey.ofJson?_toJson (key : OrderKey) : OrderKey.ofJson? key.toJson = some key := by
  simp only [OrderKey.ofJson?, OrderKey.slots?_toJson, Direction.ofJson?_toJson,
    Option.bind_eq_bind, Option.bind_some]
  rfl

theorem SortOrder.ofJson?_toJson (order : SortOrder) :
    SortOrder.ofJson? (SortOrder.toJson order) = some order :=
  list?_map OrderKey.ofJson?_toJson order

theorem OrderKey.fits (key : OrderKey) (levels : Nat) :
    Fits (levels + 1) OrderKey.shape key.toJson := by
  apply fits_fields
  · intro m hm
    rcases List.mem_pair.mp hm with rfl | rfl <;> simp
  · intro m hm
    rcases List.mem_pair.mp hm with rfl | rfl
    · exact .string key.field
    · exact .string key.direction.word

namespace Query

theorem slots?_toJson (q : Query) :
    slots? ["select", "top", "skip", "orderBy"] .ignored q.toJson =
      some [q.select.map strings, q.top.map ofUInt64, q.skip.map ofUInt64,
        q.orderBy.map SortOrder.toJson] := by
  have hnames : ["select", "top", "skip", "orderBy"].Nodup := by decide
  have hkeys : ((presentMember "select" strings q.select ++ presentMember "top" ofUInt64 q.top ++
      presentMember "skip" ofUInt64 q.skip ++
      presentMember "orderBy" SortOrder.toJson q.orderBy).map Prod.fst).Sublist
        ["select", "top", "skip", "orderBy"] := by
    simp only [List.map_append]
    exact (((keys_presentMember "select" q.select).append (keys_presentMember "top" q.top)).append
      (keys_presentMember "skip" q.skip)).append (keys_presentMember "orderBy" q.orderBy)
  rw [toJson, slots?_object hnames hkeys]
  simp [List.lookup_append, lookup_presentMember]

theorem ofJson?_toJson (q : Query) : ofJson? q.toJson = some q := by
  have hselect := optional?_map texts?_strings nofun q.select
  have htop := optional?_map natural?_ofUInt64 nofun q.top
  have hskip := optional?_map natural?_ofUInt64 nofun q.skip
  have horder := optional?_map SortOrder.ofJson?_toJson nofun q.orderBy
  simp only [ofJson?, slots?_toJson, hselect, htop, hskip, horder, Option.bind_eq_bind,
    Option.bind_some]

theorem fits (q : Query) : Fits maxLevels shape q.toJson := by
  have hmember : ∀ m, m ∈ presentMember "select" strings q.select ++
      presentMember "top" ofUInt64 q.top ++ presentMember "skip" ofUInt64 q.skip ++
      presentMember "orderBy" SortOrder.toJson q.orderBy →
      (∃ inner, shape.member? m.1 = some inner ∧ Fits 126 inner m.2) := by
    intro m hm
    simp only [List.mem_append, mem_presentMember] at hm
    rcases hm with ((⟨ss, -, rfl⟩ | ⟨n, -, rfl⟩) | ⟨n, -, rfl⟩) | ⟨order, -, rfl⟩
    · exact ⟨.whole, rfl, fits_strings ss⟩
    · exact ⟨.whole, rfl, fits_ofUInt64 n⟩
    · exact ⟨.whole, rfl, fits_ofUInt64 n⟩
    · refine ⟨.list OrderKey.shape, rfl, fits_array fun i v hv => ?_⟩
      obtain ⟨key, -, rfl⟩ := List.mem_map.mp hv
      exact key.fits 124
  apply Fits.object
  · intro m hm
    obtain ⟨inner, hinner, -⟩ := hmember m hm
    rw [hinner]
    rfl
  · intro m hm inner hinner
    obtain ⟨inner', hinner', hfits⟩ := hmember m hm
    obtain rfl : inner = inner' := Option.some.inj (hinner.symm.trans hinner')
    exact hfits

theorem ofJsonText?_toJson (q : Query) (layout : Layout) :
    ofJsonText? (q.toJson.written layout) = some q := by
  rw [ofJsonText?, readAs_written q.fits layout]
  exact q.ofJson?_toJson

end Query

namespace Limits

theorem slots?_toJson (l : Limits) :
    slots? memberNames .refused l.toJson =
      some [some (optional ofUInt64 l.queryLength), some (optional ofUInt64 l.top),
        some (optional ofUInt64 l.selectFields), some (optional ofUInt64 l.orderByFields)] := by
  rfl

theorem ofJson?_toJson (l : Limits) : ofJson? l.toJson = some l := by
  have hread := fun value => optional?_optional natural?_ofUInt64 nofun value
  simp only [ofJson?, slots?_toJson, hread, Option.bind_eq_bind, Option.bind_some]

theorem fits (l : Limits) : Fits maxLevels .whole l.toJson := by
  apply fits_whole
  intro m hm
  simp only [List.mem_cons, List.not_mem_nil, or_false] at hm
  rcases hm with rfl | rfl | rfl | rfl <;> exact fits_optional fits_ofUInt64 _

theorem ofJsonText?_toJson (l : Limits) (layout : Layout) :
    ofJsonText? (l.toJson.written layout) = some l := by
  rw [ofJsonText?, Json.read, readAs_written l.fits layout]
  exact l.ofJson?_toJson

end Limits

/-! ## Problems -/

theorem Status.ofNat?_code (s : Status) : Status.ofNat? s.code.toUInt64.toNat = some s := by
  have hlower := s.lower
  have hupper := s.upper
  have hcode : s.code.toUInt64.toNat = s.code := by
    apply UInt64.toNat_ofNat_of_lt'
    rw [UInt64.size]
    omega
  rw [hcode, ofNat?, dif_pos ⟨hlower, hupper⟩]

namespace Problem

theorem slots?_toJson (p : Problem) :
    slots? memberNames .ignored p.toJson =
      some [some (.string p.type), some (.string p.title),
        some (.ofUInt64 p.status.code.toUInt64), some (.string p.detail),
        if p.instanceUri.isEmpty then none else some (.string p.instanceUri),
        some (.string p.code), if p.fields.isEmpty then none else some (strings p.fields)] := by
  rw [toJson]
  split <;> split <;> rfl

theorem ofJson?_toJson (p : Problem) : ofJson? p.toJson = some p := by
  have hinstance : defaulted? "" text?
      (if p.instanceUri.isEmpty then none else some (.string p.instanceUri)) =
        some p.instanceUri := by
    split
    · rename_i hempty
      rw [String.isEmpty_iff.mp hempty]
      rfl
    · rfl
  have hfields : defaulted? [] texts?
      (if p.fields.isEmpty then none else some (strings p.fields)) = some p.fields := by
    split
    · rename_i hempty
      rw [List.isEmpty_iff.mp hempty]
      rfl
    · exact texts?_strings p.fields
  simp only [ofJson?, slots?_toJson, hinstance, hfields, text?, natural?_ofUInt64,
    Status.ofNat?_code, Option.bind_eq_bind, Option.bind_some]

theorem fits (p : Problem) : Fits maxLevels (.fields memberNames) p.toJson := by
  have hmember : ∀ m, m ∈ [("type", Json.string p.type), ("title", .string p.title),
      ("status", .ofUInt64 p.status.code.toUInt64), ("detail", .string p.detail)] ++
      (if p.instanceUri.isEmpty then [] else [("instance", .string p.instanceUri)]) ++
      [("code", .string p.code)] ++
      (if p.fields.isEmpty then [] else [("fields", strings p.fields)]) →
      m.1 ∈ memberNames ∧ Fits 126 .whole m.2 := by
    intro m hm
    simp only [List.mem_append, List.mem_cons, List.not_mem_nil, or_false, List.mem_ite_nil_left]
      at hm
    rcases hm with (((rfl | rfl | rfl | rfl) | ⟨-, rfl⟩) | rfl) | ⟨-, rfl⟩
    · exact ⟨by simp [memberNames], .string p.type⟩
    · exact ⟨by simp [memberNames], .string p.title⟩
    · exact ⟨by simp [memberNames], fits_ofUInt64 _⟩
    · exact ⟨by simp [memberNames], .string p.detail⟩
    · exact ⟨by simp [memberNames], .string p.instanceUri⟩
    · exact ⟨by simp [memberNames], .string p.code⟩
    · exact ⟨by simp [memberNames], fits_strings p.fields⟩
  exact fits_fields (fun m hm => (hmember m hm).1) fun m hm => (hmember m hm).2

theorem ofJsonText?_toJson (p : Problem) (layout : Layout) :
    ofJsonText? (p.toJson.written layout) = some p := by
  rw [ofJsonText?, readAs_written p.fits layout]
  exact p.ofJson?_toJson

end Problem

/-! ## Tables of hidden fields -/

namespace HiddenFields

theorem ofJson?_toJson (t : HiddenFields) : ofJson? t.toJson = some t := by
  have hmembers : (t.entries.map fun e => (e.1, strings e.2.toList)).mapM
      (fun m : String × Json => (texts? m.2).map (m.1, ·)) =
        some (t.entries.map fun e => (e.1, e.2.toList)) := by
    apply mapM_map
    intro e
    simp only [texts?_strings, Option.map_some]
  rw [toJson, ofJson?, hmembers, Option.map_some, ofMembers_entries]

theorem fits (t : HiddenFields) : Fits maxLevels .whole t.toJson := by
  apply fits_whole
  intro m hm
  obtain ⟨e, -, rfl⟩ := List.mem_map.mp hm
  exact fits_strings e.2.toList

theorem ofJsonText?_toJson (t : HiddenFields) (layout : Layout) :
    ofJsonText? (t.toJson.written layout) = some t := by
  rw [ofJsonText?, Json.read, readAs_written t.fits layout]
  exact t.ofJson?_toJson

end HiddenFields

/-! ## What a text tells -/

def Json.keys : Json → List String
  | .object members => members.map Prod.fst
  | _ => []

theorem Problem.instance_mem_keys_iff (p : Problem) :
    "instance" ∈ p.toJson.keys ↔ p.instanceUri ≠ "" := by
  rw [toJson, keys, Ne, ← String.isEmpty_iff]
  split <;> split <;> simp [*]

theorem Problem.fields_mem_keys_iff (p : Problem) :
    "fields" ∈ p.toJson.keys ↔ p.fields ≠ [] := by
  rw [toJson, keys, Ne, ← List.isEmpty_iff]
  split <;> split <;> simp [*]

theorem Query.written_injective (layout : Layout) :
    Function.Injective fun q : Query => q.toJson.written layout := by
  intro q q' h
  have hread : some q = some q' := by
    rw [← q.ofJsonText?_toJson layout, ← q'.ofJsonText?_toJson layout]
    exact congrArg ofJsonText? h
  exact Option.some.inj hread

/-- Queries, problems, tables of hidden fields and limits come back from their texts. In the text of
a query an absent list stays apart from an empty one; a problem leaves an empty instance and an
empty list of fields out. -/
theorem ofJsonText?_written (layout : Layout) :
    (∀ q : Query, Query.ofJsonText? (q.toJson.written layout) = some q) ∧
    (∀ p : Problem, Problem.ofJsonText? (p.toJson.written layout) = some p) ∧
    (∀ t : HiddenFields, HiddenFields.ofJsonText? (t.toJson.written layout) = some t) ∧
    (∀ l : Limits, Limits.ofJsonText? (l.toJson.written layout) = some l) ∧
    (∀ q : Query,
      { q with select := none }.toJson.written layout ≠
        { q with select := some [] }.toJson.written layout ∧
      { q with orderBy := none }.toJson.written layout ≠
        { q with orderBy := some [] }.toJson.written layout) ∧
    ∀ p : Problem, ("instance" ∈ p.toJson.keys ↔ p.instanceUri ≠ "") ∧
      ("fields" ∈ p.toJson.keys ↔ p.fields ≠ []) := by
  refine ⟨fun q => q.ofJsonText?_toJson layout, fun p => p.ofJsonText?_toJson layout,
    fun t => t.ofJsonText?_toJson layout, fun l => l.ofJsonText?_toJson layout, ?_, ?_⟩
  · intro q
    constructor
    · intro h
      have hselect := congrArg Query.select (Query.written_injective layout h)
      cases hselect
    · intro h
      have horder := congrArg Query.orderBy (Query.written_injective layout h)
      cases horder
  · intro p
    exact ⟨p.instance_mem_keys_iff, p.fields_mem_keys_iff⟩

end RowQuery
