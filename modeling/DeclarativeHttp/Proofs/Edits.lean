import DeclarativeHttp.Proofs.Built

/-!
# Sequences of operations

Whatever is done to an empty template, and in whatever order, each of its
headers and queries stands under a name of its own, no header is without
values, and there is at most one kind of body (`edited_orderly`).
-/

namespace DeclarativeHttp

namespace RequestTemplate

inductive Edit where
  | setMethod (method : Method)
  | setUri (uri : List Char)
  | appendUri (uri : List Char)
  | setTarget (target : List Char)
  | query (name : String) (values : List String)
  | removeQuery (name : String)
  | header (name : String) (values : List String)
  | removeHeader (name : String)
  | setBody (bytes : Bytes)
  | setBodyTemplate (text : List Char)
  | setDecodeSlash (keep : Bool)
  | setFormat (format : CollectionFormat)
  | resolve (vars : Variables)

def Edit.apply (t : RequestTemplate) : Edit → RequestTemplate
  | setMethod method => t.setMethod method
  | setUri uri => t.setUri uri
  | appendUri uri => t.appendUri uri
  | setTarget target => t.setTarget target
  | query name values => t.query name values
  | removeQuery name => t.removeQuery name
  | header name values => t.header name values
  | removeHeader name => t.removeHeader name
  | setBody bytes => t.setBody bytes
  | setBodyTemplate text => t.setBodyTemplate text
  | setDecodeSlash keep => t.setDecodeSlash keep
  | setFormat format => t.setFormat format
  | resolve vars => t.resolve vars

def edited (edits : List Edit) : RequestTemplate := edits.foldl Edit.apply empty

variable {t : RequestTemplate}

theorem Built.apply (h : t.Built) (e : Edit) : (e.apply t).Built := by
  cases e with
  | setMethod method => exact h.setMethod method
  | setUri uri => exact h.setUri uri
  | appendUri uri => exact h.appendUri uri
  | setTarget target => exact h.setTarget target
  | query name values => exact h.query name values
  | removeQuery name => exact h.removeQuery name
  | header name values => exact h.header name values
  | removeHeader name => exact h.removeHeader name
  | setBody bytes => exact h.setBody bytes
  | setBodyTemplate text => exact h.setBodyTemplate text
  | setDecodeSlash keep => exact h.setDecodeSlash keep
  | setFormat format => exact h.setFormat format
  | resolve vars => exact h.resolve vars

theorem built_edited (edits : List Edit) : (edited edits).Built :=
  List.foldlRecOn edits Edit.apply .empty fun _ h e _ => h.apply e

/-! ## Bodies -/

abbrev Bodies := Option Bytes × Option Template

def bodies (t : RequestTemplate) : Bodies := (t.body?, t.bodyTemplate?)

/-- What an operation does to the two places: each kind of body takes the other one's away, and a
template that is rendered gives way to what came of it. -/
def Edit.onBodies (bodies : Bodies) : Edit → Bodies
  | setBody bytes => (some bytes, none)
  | setBodyTemplate text => (none, some (Template.parse text))
  | resolve vars =>
    match bodies.2 with
    | some b => (some (Utf8.encode (b.unescaped.expandRaw vars)), none)
    | none => bodies
  | _ => bodies

theorem bodies_congr {t' : RequestTemplate} (h : t'.payload = t.payload) :
    t'.bodies = t.bodies := by
  rw [bodies, bodies, body?, body?, bodyTemplate?, bodyTemplate?, h]

theorem bodies_resolve (vars : Variables) (t : RequestTemplate) :
    (t.resolve vars).bodies = Edit.onBodies t.bodies (.resolve vars) := by
  obtain ⟨method, target, uri, queries, headers, payload, keep, format, resolved⟩ := t
  cases payload <;> rfl

theorem bodies_apply (t : RequestTemplate) (e : Edit) :
    (e.apply t).bodies = e.onBodies t.bodies := by
  cases e with
  | setMethod _ => rfl
  | setUri uri => exact bodies_congr (by rw [Edit.apply, setUri, appendUri_frame])
  | appendUri uri => exact bodies_congr (by rw [Edit.apply, appendUri_frame])
  | setTarget target => exact bodies_congr (by rw [Edit.apply, setTarget_frame])
  | query name values => exact bodies_congr (by rw [Edit.apply, query_frame])
  | removeQuery _ => rfl
  | header name values => exact bodies_congr (by rw [Edit.apply, header_frame])
  | removeHeader _ => rfl
  | setBody _ => rfl
  | setBodyTemplate _ => rfl
  | setDecodeSlash _ => rfl
  | setFormat _ => rfl
  | resolve vars => exact bodies_resolve vars t

theorem bodies_edited (edits : List Edit) :
    (edited edits).bodies = edits.foldl Edit.onBodies (none, none) :=
  (List.foldl_hom bodies fun t e => (bodies_apply t e).symm).symm

/-- No operation leaves both kinds of body, where there was at most one of them. -/
theorem Edit.onBodies_exclusive {b : Bodies} (h : b.1 = none ∨ b.2 = none) (e : Edit) :
    (e.onBodies b).1 = none ∨ (e.onBodies b).2 = none := by
  cases e with
  | setBody _ => exact .inr rfl
  | setBodyTemplate _ => exact .inl rfl
  | resolve vars =>
    rw [Edit.onBodies]
    split
    · exact .inr rfl
    · exact h
  | _ => exact h

theorem exclusive_edited (edits : List Edit) :
    (edited edits).body? = none ∨ (edited edits).bodyTemplate? = none := by
  have h : (edited edits).bodies.1 = none ∨ (edited edits).bodies.2 = none := by
    rw [bodies_edited]
    exact List.foldlRecOn (motive := fun (b : Bodies) => b.1 = none ∨ b.2 = none) edits _ (.inl rfl)
      fun _ hb e _ => e.onBodies_exclusive hb
  exact h

/-! ## The state of a template -/

/-- No two headers have one name, whatever its case, and no header is without
values; no two queries have one name. Of body and body template, each of which the
operations set and take away in a place of its own, there is at most one. The
headers as they are read are those that are stored, in their order and spelling. -/
theorem edited_orderly (edits : List Edit) :
    let t := edited edits
    (t.headers.Distinct Text.caseKey ∧ t.headers.Full) ∧ t.queries.Distinct id ∧
    ((t.body?, t.bodyTemplate?) = edits.foldl Edit.onBodies (none, none) ∧ (t.body? = none ∨ t.bodyTemplate? = none)) ∧
    t.headerTexts.entries = t.headers.map fun p => (p.1, p.2.map Template.text) := by
  have hbuilt := built_edited edits
  exact ⟨⟨hbuilt.distinct, hbuilt.full⟩, hbuilt.queries_distinct, ⟨bodies_edited edits, exclusive_edited edits⟩,
    hbuilt.headerTexts_entries⟩

end RequestTemplate

end DeclarativeHttp
