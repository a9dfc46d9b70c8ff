/-
  LuauLayout.Proofs.Node.Decoding

  Decoding accepts exactly the schema of a dump.

  The decoder is one function with a branch for each form; the schema is a table.
  They meet in `ofParts_eq_ok_iff`, where the readings of a form are compared with
  its fields one by one, and in `exists_ofParts_iff` for the values that are no
  node. From there on forms play no part: children are nodes by induction along the
  objects of the value.

    * `Node.ofJson_eq_ok_iff`   — what is read from an object, one level deep.
    * `Node.exists_ofJson_iff`  — the values that are read at all.
    * `Node.ofJson_eq_of_sameFields` — members that no form asks for have no
      influence, not even on a fault.
    * `Node.ofJson_iff_schema`  — all of it together.
-/

import LuauLayout.Proofs.Json.Shape
import LuauLayout.Proofs.Node.Members

namespace LuauLayout
namespace Node

variable {members : List (String × Json)} {n : Node} {form : Form}

/-! ## One form -/

theorem of_bind {ε α β : Type} {P : β → Prop} {r : Except ε α} {f : α → Except ε β}
    (h : ∀ a b, f a = .ok b → P b) : ∀ b, (r >>= f) = .ok b → P b := by
  intro b hb
  obtain ⟨a, -, ha⟩ := bind_eq_ok_iff.mp hb
  exact h a b ha

/-- A node that was read for a form has this form. -/
theorem form?_of_ofParts {parts : List (String × Part)} (form : Form) :
    ∀ n, ofParts parts form = .ok n → n.form? = some form := by
  cases form <;> simp only [ofParts, ofAssignment, ofLocation]
  -- whatever is read, only the last step gives a node
  all_goals repeat refine of_bind fun _ => ?_
  all_goals
    intro n h
    cases h
    rfl

/-- What a node holds that is read for its form, field by field. -/
theorem ofParts_eq_ok_iff (hform : n.form? = some form) :
    ofParts (partsOf members) form = .ok n ↔
      List.Forall₂ (fun (field : FormField) c =>
        field.Holds (SortedMap.lookup? field.name members) c) form.fields n.contents := by
  cases n
  case unmodelled => cases hform
  case atom l a =>
    cases hform
    cases a
    case binding name declaredType =>
      simp only [Atom.form, Form.fields, Form.locationField, contents, Atom.contents, ofParts]
      rw [bind_eq_ok_iff]
      simp only [Binding.ofParts_eq_ok_iff, pure, Except.pure, Except.ok.injEq, atom.injEq,
        Atom.binding.injEq, List.forall₂_cons, List.forall₂_nil_left_iff, holds_text_iff,
        holds_annotation_iff, and_true]
      constructor
      · rintro ⟨_, ⟨hlocation, hname, htype⟩, rfl, rfl, rfl⟩
        exact ⟨hlocation, hname, htype⟩
      · rintro ⟨hlocation, hname, htype⟩
        exact ⟨⟨l, name, declaredType⟩, .object hlocation hname htype, rfl, rfl, rfl⟩
    all_goals
      simp [ofParts, ofLocation, bind_eq_ok_iff, Atom.form, Form.fields, Form.locationField,
        contents, Atom.contents, pure, Except.pure]
    -- the fields are read in the order of their names
    all_goals exact and_comm
  all_goals
    cases hform
    simp [ofParts, ofAssignment, bind_eq_ok_iff, Form.fields, Form.locationField, contents, pure,
      Except.pure]
  all_goals grind

/-- A form is read where every field of it holds something. -/
theorem exists_ofParts_iff : (∃ n, ofParts (partsOf members) form = .ok n) ↔
    ∀ field ∈ form.fields, ∃ c, field.Holds (SortedMap.lookup? field.name members) c := by
  have hlocation : (∃ c, Form.locationField.Holds
        (SortedMap.lookup? Form.locationField.name members) c) ↔
      ∃ l, readField (partsOf members) "location" Part.location = .ok (some l) :=
    exists_holds_required_iff Part.isReading_location
  cases form
  all_goals
    simp only [Form.fields, List.forall_mem_cons, hlocation, List.not_mem_nil, false_implies,
      implies_true, and_true, exists_holds_required_iff Part.isReading_node,
      exists_holds_required_iff Part.isReading_nodes, exists_holds_required_iff Part.isReading_bool,
      exists_holds_required_iff Part.isReading_number,
      exists_holds_required_iff Part.isReading_text,
      exists_holds_required_iff Part.isReading_binding,
      exists_holds_defaulted_iff Part.isReading_bool,
      exists_holds_defaulted_iff Part.isReading_nodes,
      exists_holds_nullable_iff Part.isReading_nodes,
      exists_holds_nullable_iff Part.isReading_text, exists_holds_annotation]
    simp only [ofParts, ofLocation, ofAssignment, Binding.ofParts, bind_eq_ok_iff, pure, Except.pure,
      require_eq_ok_iff, Except.ok.injEq, readField_annotation, ↓existsAndEq, exists_and_left,
      exists_and_right, and_true, exists_readField_location_iff]
  all_goals grind

/-! ## One object -/

/-- A value under the tag of a form is read by the form. -/
theorem ofJson_of_tag (htag : SortedMap.lookup? "type" members = some (.text form.tag)) :
    ofJson (.object members) = (ofParts (partsOf members) form).mapError .data := by
  have hform : Form.ofTag? form.tag = some form := Form.ofTag?_tag form
  rw [ofJson, ofMembers, htag]
  dsimp only [Option.bind, Json.asText?]
  split
  · rename_i form' h
    rw [hform] at h
    cases h
    rfl
  · rename_i h
    rw [hform] at h
    cases h

/-- A value under a foreign tag is kept. -/
theorem ofJson_of_foreign {tag : String}
    (htag : SortedMap.lookup? "type" members = some (.text tag)) (h : Form.ofTag? tag = none) :
    ofJson (.object members) = .ok (.unmodelled ⟨tag, h⟩
      ⟨((SortedMap.lookup? "location" members).bind Json.asText?).getD ""⟩ (.object members)) := by
  rw [ofJson, ofMembers, htag]
  dsimp only [Option.bind, Json.asText?]
  split
  · rename_i form' h'
    rw [h] at h'
    cases h'
  · rfl

/-- A value without a tag is refused. -/
theorem ofJson_of_untagged (h : ∀ tag, SortedMap.lookup? "type" members ≠ some (.text tag)) :
    ofJson (.object members) = .error .untagged := by
  have hnone : (SortedMap.lookup? "type" members).bind Json.asText? = none := by
    cases hm : SortedMap.lookup? "type" members with
    | none => rfl
    | some v =>
      cases v with
      | text tag => exact absurd hm (h tag)
      | _ => rfl
  rw [ofJson, ofMembers, hnone]

/-- The tags of an object: none, that of a form, or a foreign one. -/
theorem tag_cases (members : List (String × Json)) :
    (∀ tag, SortedMap.lookup? "type" members ≠ some (.text tag)) ∨
    (∃ form : Form, SortedMap.lookup? "type" members = some (.text form.tag)) ∨
    ∃ tag, SortedMap.lookup? "type" members = some (.text tag) ∧ Form.ofTag? tag = none := by
  by_cases h : ∃ tag, SortedMap.lookup? "type" members = some (.text tag)
  · obtain ⟨tag, htag⟩ := h
    cases hform : Form.ofTag? tag with
    | none => exact .inr (.inr ⟨tag, htag, hform⟩)
    | some form =>
      rw [← Form.tag_of_ofTag? hform] at htag
      exact .inr (.inl ⟨form, htag⟩)
  · exact .inl (not_exists.mp h)

/-- What is read under the tag of a form. -/
theorem ofJson_eq_ok_iff (htag : SortedMap.lookup? "type" members = some (.text form.tag)) :
    ofJson (.object members) = .ok n ↔ n.form? = some form ∧
      List.Forall₂ (fun (field : FormField) c =>
        field.Holds (SortedMap.lookup? field.name members) c) form.fields n.contents := by
  rw [ofJson_of_tag htag, mapError_eq_ok_iff]
  constructor
  · intro h
    have hform := form?_of_ofParts form n h
    exact ⟨hform, (ofParts_eq_ok_iff hform).mp h⟩
  · rintro ⟨hform, h⟩
    exact (ofParts_eq_ok_iff hform).mpr h

/-! ## The values that are nodes -/

theorem exists_forall₂_iff {α β : Type} {r : α → β → Prop} {as : List α} :
    (∃ bs, List.Forall₂ r as bs) ↔ ∀ a ∈ as, ∃ b, r a b := by
  induction as with
  | nil =>
    constructor
    · exact fun _ => List.forall_mem_nil _
    · exact fun _ => ⟨[], .nil⟩
  | cons a as ih =>
    rw [List.forall_mem_cons, ← ih]
    constructor
    · rintro ⟨_, _ | ⟨h, hrest⟩⟩
      exact ⟨⟨_, h⟩, ⟨_, hrest⟩⟩
    · rintro ⟨⟨b, h⟩, ⟨bs, hrest⟩⟩
      exact ⟨b :: bs, .cons h hrest⟩

/-- Only what is required of a variable decides whether a value is one. -/
theorem fits_binding_iff {v : Json} : v.Fits .binding ↔ ∃ b, v.IsVariable b := by
  constructor
  · rintro (_ | _ | _ | _ | _ | ⟨hlocation, hname⟩ | ⟨location, name⟩ | ⟨location, name, t⟩ | _)
    · exact ⟨⟨⟨_⟩, _, _⟩, .object hlocation hname (isAnnotation_iff.mpr rfl)⟩
    · exact ⟨_, .pair ⟨location⟩ name⟩
    · exact ⟨_, .triple ⟨location⟩ name (isAnnotation_iff.mpr rfl)⟩
  · rintro ⟨b, ⟨hlocation, hname, -⟩ | ⟨l, name⟩ | ⟨l, name, -⟩⟩
    · exact .variableObject hlocation hname
    · exact .variablePair l.text name
    · exact .variableTriple l.text name _

/-- A value fits a kind of field exactly when there is something it can be read as, provided this
    is known of the nodes in it. -/
theorem fits_iff {v : Json} (kind : FieldKind) (hnode : (∃ n, ofJson v = .ok n) ↔ v.IsNode)
    (hitems : ∀ items, v = .list items → ∀ w ∈ items, (∃ n, ofJson w = .ok n) ↔ w.IsNode) :
    v.Fits kind ↔ ∃ c, kind.Reads v c := by
  cases kind with
  | text =>
    constructor
    · rintro ⟨⟩
      exact ⟨_, .text _⟩
    · rintro ⟨_, ⟨⟩⟩
      exact .text _
  | bool =>
    constructor
    · rintro ⟨⟩
      exact ⟨_, .bool _⟩
    · rintro ⟨_, ⟨⟩⟩
      exact .bool _
  | number =>
    constructor
    · rintro ⟨⟩
      exact ⟨_, .number _⟩
    · rintro ⟨_, ⟨⟩⟩
      exact .number _
  | node =>
    constructor
    · rintro (_ | _ | _ | h)
      obtain ⟨n, hn⟩ := hnode.mpr h
      exact ⟨_, .node hn⟩
    · rintro ⟨_, _ | _ | _ | h⟩
      exact .node (hnode.mp ⟨_, h⟩)
  | nodes =>
    constructor
    · rintro (_ | _ | _ | _ | h)
      obtain ⟨ns, hns⟩ := exists_forall₂_iff.mpr fun w hw => (hitems _ rfl w hw).mpr (h w hw)
      exact ⟨_, .nodes hns⟩
    · rintro ⟨_, _ | _ | _ | _ | h⟩
      exact .nodes fun w hw => (hitems _ rfl w hw).mp (exists_forall₂_iff.mp ⟨_, h⟩ w hw)
  | binding =>
    rw [fits_binding_iff]
    constructor
    · rintro ⟨b, h⟩
      exact ⟨_, .binding h⟩
    · rintro ⟨_, _ | _ | _ | _ | _ | h⟩
      exact ⟨_, h⟩
  | any => exact ⟨fun _ => ⟨_, .any v⟩, fun _ => .any v⟩

/-- A member fits a field exactly when the field holds something. -/
theorem fitsField_iff {m : Option Json} (field : FormField)
    (hfits : ∀ v ∈ m, v.Fits field.kind ↔ ∃ c, field.kind.Reads v c) :
    Json.FitsField field m ↔ ∃ c, field.Holds m c := by
  constructor
  · rintro (h | h | h)
    · rename_i v
      -- a value of any kind may be `null`, but where a field may hold nothing, that is what it is
      by_cases hnull : v = .null ∧ field.presence = .nullable
      · obtain ⟨rfl, hnull⟩ := hnull
        exact ⟨_, .null hnull⟩
      · obtain ⟨c, hc⟩ := (hfits v rfl).mp h
        exact ⟨c, .present hc fun hv hp => hnull ⟨hv, hp⟩⟩
    · exact ⟨_, .null h⟩
    · exact ⟨_, .missing h⟩
  · rintro ⟨c, ⟨h, -⟩ | h | h⟩
    · exact .present ((hfits _ rfl).mpr ⟨c, h⟩)
    · exact .null h
    · exact .missing h

/-- A value is read as a node exactly when it is one by the schema. -/
theorem exists_ofJson_iff (v : Json) : (∃ n, ofJson v = .ok n) ↔ v.IsNode := by
  induction v using Json.inductObjects with
  | other v h =>
    cases v with
    | object members => exact absurd rfl (h members)
    | _ =>
      constructor
      · rintro ⟨n, hn⟩
        cases hn
      · rintro ⟨⟩
  | object members hmembers hitems =>
    -- a field is settled by its member, which is below the object
    have hfields (form : Form) :
        (∀ field ∈ form.fields, ∃ c, field.Holds (SortedMap.lookup? field.name members) c) ↔
        ∀ field ∈ form.fields, Json.FitsField field (SortedMap.lookup? field.name members) := by
      refine forall_congr' fun field => forall_congr' fun _ => (fitsField_iff field ?_).symm
      intro v hv
      have hmem := SortedMap.mem_of_lookup? hv
      exact fits_iff field.kind (hmembers _ hmem) (hitems _ hmem)
    rcases tag_cases members with h | ⟨form, htag⟩ | ⟨tag, htag, hforeign⟩
    · rw [ofJson_of_untagged h]
      constructor
      · rintro ⟨n, hn⟩
        cases hn
      · rintro (⟨htag, -⟩ | ⟨htag, -⟩)
        · exact absurd htag (h _)
        · exact absurd htag (h _)
    · rw [ofJson_of_tag htag]
      simp only [mapError_eq_ok_iff, exists_ofParts_iff]
      rw [hfields]
      constructor
      · exact .modelled htag
      · rintro (⟨htag', hforeign⟩ | ⟨htag', h⟩)
        · rw [htag] at htag'
          cases htag'
          rw [Form.ofTag?_tag] at hforeign
          cases hforeign
        · rw [htag, Option.some.injEq, Json.text.injEq] at htag'
          rwa [Form.tag_injective htag']
    · rw [ofJson_of_foreign htag hforeign]
      exact ⟨fun _ => .foreign htag hforeign, fun _ => ⟨_, rfl⟩⟩

/-! ## Members that no form asks for -/

/-- Two members from which a field of this kind is read alike, faults included. -/
def AlikeFor : FieldKind → Option Json → Option Json → Prop
  | .node, m, m' => m = m' ∨ ∃ v w, m = some v ∧ m' = some w ∧ ofJson v = ofJson w
  | .nodes, m, m' => m = m' ∨
    ∃ vs ws, m = some (.list vs) ∧ m' = some (.list ws) ∧ itemsOf vs = itemsOf ws
  | .binding, m, m' => m = m' ∨
    ∃ v w, m = some v ∧ m' = some w ∧ Binding.ofJson v = Binding.ofJson w
  | .text, m, m' | .bool, m, m' | .number, m, m' | .any, m, m' => m = m'

section Congruence

variable {members' : List (String × Json)} {name : String}

theorem readField_congr {α : Type} (read : Part → Except DataFault α)
    (h : SortedMap.lookup? name members = SortedMap.lookup? name members') :
    readField (partsOf members) name read = readField (partsOf members') name read := by
  rw [readField_partsOf, readField_partsOf, h]

theorem readField_congr_of_some {α : Type} {read : Part → Except DataFault α} {v w : Json}
    (hv : SortedMap.lookup? name members = some v) (hw : SortedMap.lookup? name members' = some w)
    (hread : read (.of v) = read (.of w)) :
    readField (partsOf members) name read = readField (partsOf members') name read := by
  rw [readField_partsOf, readField_partsOf, hv, hw]
  exact congrArg (Except.map some) hread

theorem readField_node_congr (h : AlikeFor .node (SortedMap.lookup? name members)
      (SortedMap.lookup? name members')) :
    readField (partsOf members) name Part.node = readField (partsOf members') name Part.node := by
  rcases h with h | ⟨v, w, hv, hw, h⟩
  · exact readField_congr _ h
  · exact readField_congr_of_some hv hw (congrArg (Except.mapError NodeFault.ofChild) h)

theorem readField_nodes_congr (h : AlikeFor .nodes (SortedMap.lookup? name members)
      (SortedMap.lookup? name members')) :
    readField (partsOf members) name Part.nodes = readField (partsOf members') name Part.nodes ∧
    readField (partsOf members) name (Part.nullable Part.nodes) =
      readField (partsOf members') name (Part.nullable Part.nodes) := by
  rcases h with h | ⟨vs, ws, hv, hw, h⟩
  · exact ⟨readField_congr _ h, readField_congr _ h⟩
  · have hnodes : Part.nodes (.of (.list vs)) = Part.nodes (.of (.list ws)) := by
      rwa [Part.of, Part.of, nodesOf, nodesOf]
    exact ⟨readField_congr_of_some hv hw hnodes,
      readField_congr_of_some hv hw (congrArg (Except.map some) hnodes)⟩

theorem readField_binding_congr (h : AlikeFor .binding (SortedMap.lookup? name members)
      (SortedMap.lookup? name members')) :
    readField (partsOf members) name (fun p => Binding.ofJson p.json) =
      readField (partsOf members') name (fun p => Binding.ofJson p.json) := by
  rcases h with h | ⟨v, w, hv, hw, h⟩
  · exact readField_congr _ h
  · exact readField_congr_of_some hv hw h

/-- A form sees no more of an object than the members under the names of its fields. -/
theorem ofParts_congr (h : ∀ field ∈ form.fields, AlikeFor field.kind
      (SortedMap.lookup? field.name members) (SortedMap.lookup? field.name members')) :
    ofParts (partsOf members) form = ofParts (partsOf members') form := by
  -- a scalar is read from the member itself, a child from what it decodes to
  have htext {α : Type} (name : String) (read : Part → Except DataFault α)
      (h : AlikeFor .text (SortedMap.lookup? name members) (SortedMap.lookup? name members')) :=
    readField_congr read h
  have hbool (name : String)
      (h : AlikeFor .bool (SortedMap.lookup? name members) (SortedMap.lookup? name members')) :=
    readField_congr Part.bool h
  have hnumber (name : String)
      (h : AlikeFor .number (SortedMap.lookup? name members) (SortedMap.lookup? name members')) :=
    readField_congr Part.number h
  have hany (name : String)
      (h : AlikeFor .any (SortedMap.lookup? name members) (SortedMap.lookup? name members')) :=
    readField_congr (fun p => .ok p.declaredType?) h
  have hnode (name : String)
      (h : AlikeFor .node (SortedMap.lookup? name members) (SortedMap.lookup? name members')) :=
    readField_node_congr h
  have hbinding (name : String)
      (h : AlikeFor .binding (SortedMap.lookup? name members)
        (SortedMap.lookup? name members')) :=
    readField_binding_congr h
  have hnodes (name : String)
      (h : AlikeFor .nodes (SortedMap.lookup? name members) (SortedMap.lookup? name members')) :=
    (readField_nodes_congr h).1
  have hnullable (name : String)
      (h : AlikeFor .nodes (SortedMap.lookup? name members) (SortedMap.lookup? name members')) :=
    (readField_nodes_congr h).2
  cases form
  all_goals
    simp only [Form.fields, Form.locationField, List.forall_mem_cons, List.not_mem_nil,
      false_implies, implies_true, and_true] at h
    simp only [ofParts, ofLocation, ofAssignment, Binding.ofParts, htext, hbool, hnumber, hany,
      hnode, hbinding, hnodes, hnullable, h]

end Congruence

/-- The items of two lists are the same nodes. -/
theorem itemsOf_congr {vs ws : List Json} (h : Json.SameItems vs ws)
    (hitems : ∀ v ∈ vs, ∀ w, v.SameFields w → ofJson v = ofJson w) : itemsOf vs = itemsOf ws := by
  induction vs generalizing ws with
  | nil =>
    cases h
    rfl
  | cons v vs ih =>
    obtain ⟨hv, hvs⟩ := List.forall_mem_cons.mp hitems
    obtain _ | ⟨h, hrest⟩ := h
    rw [itemsOf, itemsOf, hv _ h, ih hrest hvs]

/-- What members are read as, if what is below them is read alike. -/
theorem alikeFor_of_sameField {kind : FieldKind} {m m' : Option Json}
    (h : Json.SameField kind m m')
    (hmember : ∀ v ∈ m, ∀ w, v.SameFields w → ofJson v = ofJson w)
    (hitems : ∀ items, m = some (.list items) →
      ∀ v ∈ items, ∀ w, v.SameFields w → ofJson v = ofJson w) : AlikeFor kind m m' := by
  cases h with
  | refl =>
    cases kind with
    | node => exact .inl rfl
    | nodes => exact .inl rfl
    | binding => exact .inl rfl
    | _ => rfl
  | node h => exact .inr ⟨_, _, rfl, rfl, hmember _ rfl _ h⟩
  | nodes h => exact .inr ⟨_, _, rfl, rfl, itemsOf_congr h (hitems _ rfl)⟩
  | binding h =>
    refine .inr ⟨_, _, rfl, rfl, ?_⟩
    simp only [Form.fields, Form.locationField, List.forall_mem_cons] at h
    obtain ⟨hlocation, hname, htype, -⟩ := h
    rw [Binding.ofJson_object, Binding.ofJson_object, Binding.ofParts, Binding.ofParts,
      readField_congr _ hlocation, readField_congr _ hname, readField_congr _ htype]

/-- Members that no form asks for have no influence, at any depth. -/
theorem ofJson_eq_of_sameFields (v : Json) : ∀ w, v.SameFields w → ofJson v = ofJson w := by
  induction v using Json.inductObjects with
  | other v h =>
    intro w hw
    cases hw with
    | refl => rfl
    | modelled => exact absurd rfl (h _)
  | object members hmembers hitems =>
    intro w hw
    cases hw with
    | refl => rfl
    | modelled htag htag' hfields =>
      rw [ofJson_of_tag htag, ofJson_of_tag htag', ofParts_congr]
      intro field hfield
      refine alikeFor_of_sameField (hfields field hfield) ?_ ?_
      · intro v hv
        exact hmembers _ (SortedMap.mem_of_lookup? hv)
      · intro items hlist
        exact hitems _ (SortedMap.mem_of_lookup? hlist) items rfl

/-! ## The whole schema -/

/-- What a modelled node holds first is its location. -/
theorem exists_contents (hform : n.form? = some form) : ∃ cs fs,
    n.contents = .text n.location.text :: cs ∧ form.fields = Form.locationField :: fs := by
  cases n
  case unmodelled => cases hform
  case atom l a =>
    cases hform
    cases a <;> exact ⟨_, _, rfl, rfl⟩
  all_goals
    cases hform
    exact ⟨_, _, rfl, rfl⟩

/-- A value is a node exactly when the schema says so. What was read has the tag and the location
    of the value; under the tag of a form each field holds what its member says, children being
    the decodings of theirs in order; under any other tag the value is kept whole. Members that
    no form asks for change nothing, at any depth. -/
theorem ofJson_iff_schema (v : Json) :
    ((∃ n, ofJson v = .ok n) ↔ v.IsNode) ∧
    (∀ n, ofJson v = .ok n →
      v.get? "type" = some (.text n.kind) ∧ n.form? = Form.ofTag? n.kind ∧
      (∀ form, n.form? = some form → v.get? "location" = some (.text n.location.text) ∧
        List.Forall₂ (fun (field : FormField) c => field.Holds (v.get? field.name) c)
          form.fields n.contents) ∧
      (n.form? = none → ∃ tag, n = .unmodelled tag n.location v ∧
        n.location.text = ((v.get? "location").bind Json.asText?).getD "")) ∧
    ∀ w, v.SameFields w → ofJson w = ofJson v := by
  refine ⟨exists_ofJson_iff v, ?_, fun w hw => (ofJson_eq_of_sameFields v w hw).symm⟩
  intro n hn
  cases v with
  | object members =>
    rcases tag_cases members with h | ⟨form, htag⟩ | ⟨tag, htag, hforeign⟩
    · rw [ofJson_of_untagged h] at hn
      cases hn
    · obtain ⟨hform, h⟩ := (ofJson_eq_ok_iff htag).mp hn
      have hkind : n.kind = form.tag := kind_of_form? hform
      refine ⟨hkind ▸ htag, ?_, ?_, ?_⟩
      · rw [hform, hkind, Form.ofTag?_tag]
      · intro form' hform'
        rw [hform] at hform'
        cases hform'
        obtain ⟨cs, fs, hcs, hfs⟩ := exists_contents hform
        refine ⟨?_, h⟩
        rw [hcs, hfs, List.forall₂_cons] at h
        exact holds_text_iff.mp h.1
      · intro hnone
        rw [hform] at hnone
        cases hnone
    · rw [ofJson_of_foreign htag hforeign] at hn
      cases hn
      refine ⟨htag, hforeign.symm, ?_, fun _ => ⟨_, rfl, rfl⟩⟩
      intro form hform
      cases hform
  | _ => cases hn

/-- A call whose callee carries a note, and whose argument gives its variable as a list. -/
theorem ofJson_iff_schema_call :
    let callee : Json := .object [("global", .text "f"), ("location", .text "0,0 - 0,1"),
      ("type", .text "AstExprGlobal")]
    let noted : Json := .object [("global", .text "f"), ("location", .text "0,0 - 0,1"),
      ("note", .null), ("type", .text "AstExprGlobal")]
    let arg : Json := .object [("local", .list [.text "0,2 - 0,3", .text "x"]),
      ("location", .text "0,2 - 0,3"), ("type", .text "AstExprLocal")]
    let call (callee : Json) : Json := .object [("args", .list [arg]), ("func", callee),
      ("location", .text "0,0 - 0,4"), ("type", .text "AstExprCall")]
    let n : Node := .call ⟨"0,0 - 0,4"⟩ (.atom ⟨"0,0 - 0,1"⟩ (.global "f"))
      [.atom ⟨"0,2 - 0,3"⟩ (.localRef ⟨⟨"0,2 - 0,3"⟩, "x", none⟩)]
    let loop : Json := .object [("location", .number (.integer 7)), ("type", .text "AstStatForIn")]
    (call callee).IsNode ∧ ofJson (call callee) = .ok n ∧
    (call callee).get? "location" = some (.text "0,0 - 0,4") ∧
    List.Forall₂ (fun (field : FormField) c => field.Holds ((call callee).get? field.name) c)
      Form.call.fields n.contents ∧
    (call callee).SameFields (call noted) ∧ ofJson (call noted) = .ok n ∧
    ∃ tag, ofJson loop = .ok (.unmodelled tag ⟨""⟩ loop) := by
  intro callee noted arg call n loop
  have hn : ofJson (call callee) = .ok n := rfl
  obtain ⟨hnode, hread, hignored⟩ := ofJson_iff_schema (call callee)
  obtain ⟨-, -, hform, -⟩ := hread n hn
  obtain ⟨hlocation, hcontents⟩ := hform .call rfl
  have hcallee : callee.SameFields noted := by
    refine @Json.SameFields.modelled _ _ .global rfl rfl ?_
    intro field hfield
    rcases List.mem_cons.mp hfield with rfl | hfield
    · exact .refl _ _
    · obtain rfl := List.mem_singleton.mp hfield
      exact .refl _ _
  have hcall : (call callee).SameFields (call noted) := by
    refine @Json.SameFields.modelled _ _ .call rfl rfl ?_
    intro field hfield
    rcases List.mem_cons.mp hfield with rfl | hfield
    · exact .refl _ _
    · rcases List.mem_cons.mp hfield with rfl | hfield
      · exact .node hcallee
      · obtain rfl := List.mem_singleton.mp hfield
        exact .refl _ _
  have hloop : ofJson loop =
      .ok (.unmodelled ⟨"AstStatForIn", by decide +kernel⟩ ⟨""⟩ loop) := rfl
  refine ⟨hnode.mp ⟨n, hn⟩, hn, hlocation, hcontents, hcall, (hignored _ hcall).trans hn, ?_⟩
  obtain ⟨tag, htag, -⟩ := ((ofJson_iff_schema loop).2.1 _ hloop).2.2.2 rfl
  exact ⟨tag, hloop.trans (congrArg Except.ok htag)⟩

end Node
end LuauLayout
