/-
  LuauLayout.Proofs.Node.Schema

  The schema of a dump.

  Every form has a list of fields: their names, what they hold, and whether they
  may be missing. A value is a node if it is an object with a tag and, where the
  tag belongs to a form, the members under the names of its fields fit them. What
  else the object holds is nobody's concern, and an object under a foreign tag may
  hold anything.

    * `Form.fields`    — the fields of a form.
    * `Json.IsNode`    — the values that are nodes.
    * `Node.contents`  — what the fields of a node hold, in the order of its form.
    * `FormField.Holds`    — what a field holds, from the member under its name.
    * `Json.SameFields` — two values that differ only in members that no form
      asks for.
-/

import LuauLayout.Node.Decode
import Mathlib.Data.List.Forall2
import Mathlib.Data.Option.Basic

namespace LuauLayout

/-! ## The fields of the forms -/

/-- What a field is declared to hold. -/
inductive FieldKind where
  | text
  | bool
  | number
  | node
  | nodes
  | binding
  /-- Any value at all. -/
  | any
  deriving DecidableEq, Repr

/-- What a field of a node holds. -/
inductive FieldValue where
  | text (s : String)
  | bool (b : Bool)
  | number (x : Double)
  | node (n : Node)
  | nodes (ns : List Node)
  | binding (b : Binding)
  | json (v : Json)
  /-- Nothing, in a field that may be `null`. -/
  | nothing

/-- Whether a field has to be there, and what it holds if it is not. -/
inductive Presence where
  | required
  | defaulted (value : FieldValue)
  /-- May be missing or `null`, and then holds nothing. -/
  | nullable

/-- What a field holds that is missing, if it may be. -/
def Presence.ifMissing? : Presence → Option FieldValue
  | .required => none
  | .defaulted c => some c
  | .nullable => some .nothing

/-- A field of a form. -/
structure FormField where
  name : String
  kind : FieldKind
  presence : Presence

namespace Form

/-- The field that every form has. -/
def locationField : FormField := ⟨"location", .text, .required⟩

/-- The fields of a form. -/
def fields : Form → List FormField
  | .block =>
    [locationField, ⟨"hasEnd", .bool, .defaulted (.bool false)⟩,
      ⟨"body", .nodes, .defaulted (.nodes [])⟩]
  | .localDecl | .assign =>
    [locationField, ⟨"vars", .nodes, .required⟩, ⟨"values", .nodes, .nullable⟩]
  | .ret => [locationField, ⟨"list", .nodes, .defaulted (.nodes [])⟩]
  | .exprStat | .group => [locationField, ⟨"expr", .node, .required⟩]
  | .breakStat | .continueStat | .varargs | .nil => [locationField]
  | .binding => [locationField, ⟨"name", .text, .required⟩, ⟨"luauType", .any, .nullable⟩]
  | .global => [locationField, ⟨"global", .text, .required⟩]
  | .localRef => [locationField, ⟨"local", .binding, .required⟩]
  | .indexName =>
    [locationField, ⟨"expr", .node, .required⟩, ⟨"index", .text, .required⟩,
      ⟨"indexLocation", .text, .nullable⟩, ⟨"op", .text, .nullable⟩]
  | .call => [locationField, ⟨"func", .node, .required⟩, ⟨"args", .nodes, .defaulted (.nodes [])⟩]
  | .unary => [locationField, ⟨"op", .text, .required⟩, ⟨"expr", .node, .required⟩]
  | .binary =>
    [locationField, ⟨"op", .text, .required⟩, ⟨"left", .node, .required⟩,
      ⟨"right", .node, .required⟩]
  | .bool => [locationField, ⟨"value", .bool, .required⟩]
  | .number => [locationField, ⟨"value", .number, .required⟩]
  | .text => [locationField, ⟨"value", .text, .required⟩]

end Form

/-! ## Values that fit a form -/

namespace Json

mutual

/-- The value is a node as the forms declare it. A node under a foreign tag may hold anything. -/
inductive IsNode : Json → Prop where
  | foreign {members : List (String × Json)} {tag : String}
      (htag : SortedMap.lookup? "type" members = some (.text tag))
      (hforeign : Form.ofTag? tag = none) : IsNode (.object members)
  | modelled {members : List (String × Json)} {form : Form}
      (htag : SortedMap.lookup? "type" members = some (.text form.tag))
      (hfields : ∀ field ∈ form.fields, FitsField field (SortedMap.lookup? field.name members)) :
      IsNode (.object members)

/-- The value is what a field of this kind may hold. -/
inductive Fits : FieldKind → Json → Prop where
  | text (s : String) : Fits .text (.text s)
  | bool (b : Bool) : Fits .bool (.bool b)
  | number (n : JsonNumber) : Fits .number (.number n)
  | node {v : Json} (h : IsNode v) : Fits .node v
  | nodes {items : List Json} (h : ∀ v ∈ items, IsNode v) : Fits .nodes (.list items)
  | variableObject {members : List (String × Json)} {location name : String}
      (hlocation : SortedMap.lookup? "location" members = some (.text location))
      (hname : SortedMap.lookup? "name" members = some (.text name)) :
      Fits .binding (.object members)
  | variablePair (location name : String) : Fits .binding (.list [.text location, .text name])
  | variableTriple (location name : String) (declaredType : Json) :
      Fits .binding (.list [.text location, .text name, declaredType])
  | any (v : Json) : Fits .any v

/-- The member under the name of a field fits it, or is missing where it may be. -/
inductive FitsField : FormField → Option Json → Prop where
  | present {field : FormField} {v : Json} (h : Fits field.kind v) : FitsField field (some v)
  | null {field : FormField} (h : field.presence = .nullable) : FitsField field (some .null)
  | missing {field : FormField} {c : FieldValue} (h : field.presence.ifMissing? = some c) :
      FitsField field none

end

end Json

/-! ## What a node holds -/

/-- What the fields of a token hold behind its location, in the order of the form. -/
def Atom.contents : Atom → List FieldValue
  | .breakStat | .continueStat | .varargs | .nil => []
  | .bool b => [.bool b]
  | .number x => [.number x]
  | .text s => [.text s]
  | .global name => [.text name]
  | .binding name declaredType => [.text name, declaredType.elim .nothing .json]
  | .localRef b => [.binding b]

/-- What the fields of a modelled node hold, in the order of its form. -/
def Node.contents : Node → List FieldValue
  | .atom l a => .text l.text :: a.contents
  | .block l hasEnd body => [.text l.text, .bool hasEnd, .nodes body]
  | .localDecl l targets values | .assign l targets values =>
    [.text l.text, .nodes targets, values.elim .nothing .nodes]
  | .ret l values => [.text l.text, .nodes values]
  | .exprStat l e | .group l e => [.text l.text, .node e]
  | .indexName l base name nameLocation op =>
    [.text l.text, .node base, .text name, nameLocation.elim .nothing fun nl => .text nl.text,
      op.elim .nothing .text]
  | .call l callee args => [.text l.text, .node callee, .nodes args]
  | .unary l op e => [.text l.text, .text op, .node e]
  | .binary l op left right => [.text l.text, .text op, .node left, .node right]
  | .unmodelled _ _ _ => []

/-- The annotation of a variable, from the member that may give one. -/
inductive Json.IsAnnotation : Option Json → Option Json → Prop where
  | missing : IsAnnotation none none
  | null : IsAnnotation (some .null) none
  | present {v : Json} (h : v ≠ .null) : IsAnnotation (some v) (some v)

/-- The value is this variable: an object with its parts, or a list of them. -/
inductive Json.IsVariable : Json → Binding → Prop where
  | object {members : List (String × Json)} {b : Binding}
      (hlocation : SortedMap.lookup? "location" members = some (.text b.location.text))
      (hname : SortedMap.lookup? "name" members = some (.text b.name))
      (htype : IsAnnotation (SortedMap.lookup? "luauType" members) b.declaredType) :
      IsVariable (.object members) b
  | pair (l : Location) (name : String) :
      IsVariable (.list [.text l.text, .text name]) ⟨l, name, none⟩
  | triple (l : Location) (name : String) {v : Json} {declaredType : Option Json}
      (htype : IsAnnotation (some v) declaredType) :
      IsVariable (.list [.text l.text, .text name, v]) ⟨l, name, declaredType⟩

/-- What a field of this kind holds when its member is this value. Children are what their own
    values decode to, one by one and in order. -/
inductive FieldKind.Reads : FieldKind → Json → FieldValue → Prop where
  | text (s : String) : Reads .text (.text s) (.text s)
  | bool (b : Bool) : Reads .bool (.bool b) (.bool b)
  | number (n : JsonNumber) : Reads .number (.number n) (.number n.toDouble)
  | node {v : Json} {n : Node} (h : Node.ofJson v = .ok n) : Reads .node v (.node n)
  | nodes {items : List Json} {ns : List Node}
      (h : List.Forall₂ (fun v n => Node.ofJson v = .ok n) items ns) :
      Reads .nodes (.list items) (.nodes ns)
  | binding {v : Json} {b : Binding} (h : v.IsVariable b) : Reads .binding v (.binding b)
  | any (v : Json) : Reads .any v (.json v)

/-- What a field holds when this is the member under its name, if there is one. -/
inductive FormField.Holds (field : FormField) : Option Json → FieldValue → Prop where
  | present {v : Json} {c : FieldValue} (h : field.kind.Reads v c)
      (hnull : v = .null → field.presence ≠ .nullable) : field.Holds (some v) c
  | null (h : field.presence = .nullable) : field.Holds (some .null) .nothing
  | missing {c : FieldValue} (h : field.presence.ifMissing? = some c) : field.Holds none c

namespace FormField

variable {field : FormField} {c : FieldValue}

theorem holds_none_iff : field.Holds none c ↔ field.presence.ifMissing? = some c := by
  constructor
  · rintro ⟨⟩
    assumption
  · exact .missing

theorem holds_null_iff (h : field.presence = .nullable) :
    field.Holds (some .null) c ↔ c = .nothing := by
  constructor
  · rintro (⟨_, hnull⟩ | _)
    · exact absurd h (hnull rfl)
    · rfl
  · rintro rfl
    exact .null h

theorem holds_some_iff {v : Json} (h : v = .null → field.presence ≠ .nullable) :
    field.Holds (some v) c ↔ field.kind.Reads v c := by
  constructor
  · rintro (⟨hreads, _⟩ | hnull)
    · exact hreads
    · exact absurd hnull (h rfl)
  · intro hreads
    exact .present hreads h

end FormField

/-! ## Members that no form asks for -/

namespace Json

mutual

/-- Both values are the same, or objects under the tag of one form whose members under the names
    of its fields are the same in this sense. -/
inductive SameFields : Json → Json → Prop where
  | refl (v : Json) : SameFields v v
  | modelled {members members' : List (String × Json)} {form : Form}
      (htag : SortedMap.lookup? "type" members = some (.text form.tag))
      (htag' : SortedMap.lookup? "type" members' = some (.text form.tag))
      (hfields : ∀ field ∈ form.fields, SameField field.kind
        (SortedMap.lookup? field.name members) (SortedMap.lookup? field.name members')) :
      SameFields (.object members) (.object members')

/-- The members under the name of a field of this kind, if they are there. -/
inductive SameField : FieldKind → Option Json → Option Json → Prop where
  | refl (kind : FieldKind) (m : Option Json) : SameField kind m m
  | node {v w : Json} (h : SameFields v w) : SameField .node (some v) (some w)
  | nodes {items items' : List Json} (h : SameItems items items') :
      SameField .nodes (some (.list items)) (some (.list items'))
  | binding {members members' : List (String × Json)}
      (h : ∀ field ∈ Form.binding.fields,
        SortedMap.lookup? field.name members = SortedMap.lookup? field.name members') :
      SameField .binding (some (.object members)) (some (.object members'))

/-- The values of two lists, one by one. -/
inductive SameItems : List Json → List Json → Prop where
  | nil : SameItems [] []
  | cons {v w : Json} {vs ws : List Json} (h : SameFields v w) (hrest : SameItems vs ws) :
      SameItems (v :: vs) (w :: ws)

end

end Json
end LuauLayout
