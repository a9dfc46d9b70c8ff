/-
  LuauLayout.Proofs.Node.Members

  Reading the members of an object as fields.

  A decoder reads its fields one by one, in the order of their names, and fails at
  the first that does not fit. What a field holds in the sense of the schema is
  what its reading gives, whatever is read before or after it.

    * `IsReading`            — a reading that gives what the fields of a kind hold.
    * `holds_required_iff`, `holds_defaulted_iff`, `holds_nullable_iff` — the three
      ways to read a field, against the schema; below them the fields that occur.
    * `Binding.ofParts_eq_ok_iff`, `Binding.ofItems_eq_ok_iff` — variables.
-/

import LuauLayout.Proofs.Node.Schema
import LuauLayout.Proofs.Node.Spelling

namespace LuauLayout

/-! ## Reading members -/

/-- A value with its readings. -/
def Part.of (v : Json) : Part := ⟨v, (Node.ofJson v).mapError NodeFault.ofChild, Node.nodesOf v⟩

theorem mapError_eq_ok_iff {ε δ α : Type} {f : ε → δ} {r : Except ε α} {a : α} :
    r.mapError f = .ok a ↔ r = .ok a := by
  cases r <;> simp [Except.mapError]

namespace Node

theorem partsOf_eq_map (members : List (String × Json)) :
    partsOf members = members.map fun e => (e.1, Part.of e.2) := by
  induction members with
  | nil => rfl
  | cons e rest ih =>
    obtain ⟨key, v⟩ := e
    rw [partsOf, ih]
    rfl

/-- A list of nodes is read item by item. -/
theorem itemsOf_eq_ok_iff {items : List Json} {ns : List Node} :
    itemsOf items = .ok ns ↔ List.Forall₂ (fun v n => ofJson v = .ok n) items ns := by
  induction items generalizing ns with
  | nil =>
    rw [itemsOf, List.forall₂_nil_left_iff, Except.ok.injEq, eq_comm]
  | cons v rest ih =>
    rw [itemsOf, bind_eq_ok_iff]
    constructor
    · rintro ⟨n, hn, h⟩
      obtain ⟨ns', hns', h⟩ := bind_eq_ok_iff.mp h
      cases h
      exact .cons (mapError_eq_ok_iff.mp hn) (ih.mp hns')
    · rintro (_ | ⟨hn, hns⟩)
      exact ⟨_, mapError_eq_ok_iff.mpr hn, bind_eq_ok_iff.mpr ⟨_, ih.mpr hns, rfl⟩⟩

end Node

/-! ## Reading one member -/

/-- What the reading gives is what a field of this kind holds. -/
def IsReading {α : Type} (kind : FieldKind) (read : Part → Except DataFault α)
    (hold : α → FieldValue) : Prop :=
  ∀ v c, kind.Reads v c ↔ ∃ a, read (.of v) = .ok a ∧ c = hold a

namespace Part

theorem isReading_text : IsReading .text text .text := by
  intro v c
  constructor
  · rintro ⟨⟩
    exact ⟨_, rfl, rfl⟩
  · rintro ⟨s, h, rfl⟩
    cases v <;> cases h
    exact .text s

theorem isReading_location : IsReading .text location fun l => .text l.text := by
  intro v c
  rw [isReading_text]
  constructor
  · rintro ⟨s, h, rfl⟩
    exact ⟨⟨s⟩, by rw [location, h]; rfl, rfl⟩
  · rintro ⟨l, h, rfl⟩
    refine ⟨l.text, ?_, rfl⟩
    rw [location] at h
    cases ht : text (.of v) with
    | error e =>
      rw [ht] at h
      cases h
    | ok s =>
      rw [ht] at h
      cases h
      rfl

theorem isReading_bool : IsReading .bool bool .bool := by
  intro v c
  constructor
  · rintro ⟨⟩
    exact ⟨_, rfl, rfl⟩
  · rintro ⟨b, h, rfl⟩
    cases v <;> cases h
    exact .bool b

theorem isReading_number : IsReading .number number .number := by
  intro v c
  constructor
  · rintro ⟨⟩
    exact ⟨_, rfl, rfl⟩
  · rintro ⟨x, h, rfl⟩
    cases v <;> cases h
    exact .number _

theorem isReading_node : IsReading .node node .node := by
  intro v c
  constructor
  · rintro ⟨⟩
    rename_i n h
    exact ⟨n, mapError_eq_ok_iff.mpr h, rfl⟩
  · rintro ⟨n, h, rfl⟩
    exact .node (mapError_eq_ok_iff.mp h)

theorem isReading_nodes : IsReading .nodes nodes .nodes := by
  intro v c
  constructor
  · rintro ⟨⟩
    rename_i items ns h
    exact ⟨ns, Node.itemsOf_eq_ok_iff.mpr h, rfl⟩
  · rintro ⟨ns, h, rfl⟩
    cases v with
    | list items =>
      have hitems : Node.itemsOf items = .ok ns := by rwa [← Node.nodesOf]
      exact .nodes (Node.itemsOf_eq_ok_iff.mp hitems)
    | _ => cases h

theorem isReading_any : IsReading .any (fun p => .ok p.json) .json := by
  intro v c
  constructor
  · rintro ⟨⟩
    exact ⟨v, rfl, rfl⟩
  · rintro ⟨_, ⟨⟩, rfl⟩
    exact .any v

/-- An annotation is any value that may be `null`. -/
theorem nullable_json (p : Part) : nullable (fun p => .ok p.json) p = .ok p.declaredType? := by
  obtain ⟨json, _, _⟩ := p
  cases json <;> rfl

end Part

/-! ## Reading one field -/

@[simp]
theorem Location.text_inj {l m : Location} : l.text = m.text ↔ l = m := by
  cases l
  cases m
  rw [Location.mk.injEq]

section Fields

variable {α : Type} {members : List (String × Json)} {name : String} {kind : FieldKind}
  {read : Part → Except DataFault α} {hold : α → FieldValue} {c : FieldValue}

theorem readField_partsOf (members : List (String × Json)) (name : String)
    (read : Part → Except DataFault α) : readField (Node.partsOf members) name read =
      match SortedMap.lookup? name members with
      | none => .ok none
      | some v => (read (.of v)).map some := by
  rw [readField, Node.partsOf_eq_map, SortedMap.lookup?_map]
  cases SortedMap.lookup? name members with
  | none => rfl
  | some v => rfl

@[simp]
theorem require_eq_ok_iff {o : Option α} {a : α} : require name o = .ok a ↔ o = some a := by
  cases o <;> simp [require]

theorem map_some_eq_ok_iff {ε : Type} {r : Except ε α} {o : Option α} :
    r.map some = .ok o ↔ ∃ a, r = .ok a ∧ o = some a := by
  cases r <;> simp [Except.map, eq_comm]

/-- A field that has to be there. -/
theorem holds_required_iff (hread : IsReading kind read hold) :
    FormField.Holds ⟨name, kind, .required⟩ (SortedMap.lookup? name members) c ↔
      ∃ a, readField (Node.partsOf members) name read = .ok (some a) ∧ c = hold a := by
  rw [readField_partsOf]
  cases SortedMap.lookup? name members with
  | none =>
    rw [FormField.holds_none_iff]
    constructor
    · intro h
      cases h
    · rintro ⟨a, h, -⟩
      cases h
  | some v =>
    refine (FormField.holds_some_iff ?_).trans ((hread v c).trans ?_)
    · intro _ h
      cases h
    · simp only [map_some_eq_ok_iff, Option.some.injEq, exists_eq_right']

/-- A field that stands for a value when it is missing. -/
theorem holds_defaulted_iff (hread : IsReading kind read hold) {d : α} :
    FormField.Holds ⟨name, kind, .defaulted (hold d)⟩ (SortedMap.lookup? name members) c ↔
      ∃ o, readField (Node.partsOf members) name read = .ok o ∧ c = hold (o.getD d) := by
  rw [readField_partsOf]
  cases SortedMap.lookup? name members with
  | none =>
    rw [FormField.holds_none_iff]
    constructor
    · intro h
      cases h
      exact ⟨none, rfl, rfl⟩
    · rintro ⟨o, h, rfl⟩
      cases h
      rfl
  | some v =>
    refine (FormField.holds_some_iff ?_).trans ((hread v c).trans ⟨?_, ?_⟩)
    · intro _ h
      cases h
    · rintro ⟨a, h, rfl⟩
      exact ⟨some a, map_some_eq_ok_iff.mpr ⟨a, h, rfl⟩, rfl⟩
    · rintro ⟨o, h, rfl⟩
      obtain ⟨a, ha, rfl⟩ := map_some_eq_ok_iff.mp h
      exact ⟨a, ha, rfl⟩

theorem nullable_of_ne_null {v : Json} (hv : v ≠ .null) :
    Part.nullable read (.of v) = (read (.of v)).map some := by
  cases v with
  | null => exact absurd rfl hv
  | _ => rfl

/-- A field that holds nothing when it is missing or `null`. -/
theorem holds_nullable_iff (hread : IsReading kind read hold) :
    FormField.Holds ⟨name, kind, .nullable⟩ (SortedMap.lookup? name members) c ↔
      ∃ o, readField (Node.partsOf members) name (Part.nullable read) = .ok o ∧
        c = o.join.elim .nothing hold := by
  rw [readField_partsOf]
  cases SortedMap.lookup? name members with
  | none =>
    rw [FormField.holds_none_iff]
    constructor
    · intro h
      cases h
      exact ⟨none, rfl, rfl⟩
    · rintro ⟨o, h, rfl⟩
      cases h
      rfl
  | some v =>
    -- `null` never reaches the reader of the field, so `hread` says nothing about it
    by_cases hv : v = .null
    · subst hv
      rw [FormField.holds_null_iff rfl]
      constructor
      · rintro rfl
        exact ⟨some none, rfl, rfl⟩
      · rintro ⟨o, h, rfl⟩
        cases h
        rfl
    · rw [FormField.holds_some_iff fun h => absurd h hv, hread]
      dsimp only
      rw [nullable_of_ne_null hv]
      constructor
      · rintro ⟨a, h, rfl⟩
        refine ⟨some (some a), ?_, rfl⟩
        rw [h]
        rfl
      · rintro ⟨o, h, rfl⟩
        obtain ⟨o', ho', rfl⟩ := map_some_eq_ok_iff.mp h
        obtain ⟨a, ha, rfl⟩ := map_some_eq_ok_iff.mp ho'
        exact ⟨a, ha, rfl⟩

/-- A reading succeeds where the field holds anything at all. -/
theorem exists_holds_required_iff (hread : IsReading kind read hold) :
    (∃ c, FormField.Holds ⟨name, kind, .required⟩ (SortedMap.lookup? name members) c) ↔
      ∃ a, readField (Node.partsOf members) name read = .ok (some a) := by
  simp only [holds_required_iff hread]
  constructor
  · rintro ⟨_, a, h, -⟩
    exact ⟨a, h⟩
  · rintro ⟨a, h⟩
    exact ⟨_, a, h, rfl⟩

theorem exists_holds_defaulted_iff (hread : IsReading kind read hold) {d : α} :
    (∃ c, FormField.Holds ⟨name, kind, .defaulted (hold d)⟩
        (SortedMap.lookup? name members) c) ↔
      ∃ o, readField (Node.partsOf members) name read = .ok o := by
  simp only [holds_defaulted_iff hread]
  constructor
  · rintro ⟨_, o, h, -⟩
    exact ⟨o, h⟩
  · rintro ⟨o, h⟩
    exact ⟨_, o, h, rfl⟩

theorem exists_holds_nullable_iff (hread : IsReading kind read hold) :
    (∃ c, FormField.Holds ⟨name, kind, .nullable⟩ (SortedMap.lookup? name members) c) ↔
      ∃ o, readField (Node.partsOf members) name (Part.nullable read) = .ok o := by
  simp only [holds_nullable_iff hread]
  constructor
  · rintro ⟨_, o, h, -⟩
    exact ⟨o, h⟩
  · rintro ⟨o, h⟩
    exact ⟨_, o, h, rfl⟩

theorem exists_readField_location_iff :
    (∃ o, readField (Node.partsOf members) name (Part.nullable Part.location) = .ok o) ↔
      ∃ o, readField (Node.partsOf members) name (Part.nullable Part.text) = .ok o := by
  rw [← exists_holds_nullable_iff Part.isReading_location,
    exists_holds_nullable_iff Part.isReading_text]

/-- The annotation is the member, unless that is `null`. -/
theorem isAnnotation_iff {m t : Option Json} :
    Json.IsAnnotation m t ↔ (m.map fun v => (Part.of v).declaredType?).join = t := by
  constructor
  · rintro (_ | _ | h)
    · rfl
    · rfl
    · rename_i v
      cases v with
      | null => exact absurd rfl h
      | _ => rfl
  · rintro rfl
    cases m with
    | none => exact .missing
    | some v =>
      cases v with
      | null => exact .null
      | _ => exact .present fun h => by cases h

theorem readField_annotation (members : List (String × Json)) (name : String) :
    readField (Node.partsOf members) name (fun p => .ok p.declaredType?) =
      .ok ((SortedMap.lookup? name members).map fun v => (Part.of v).declaredType?) := by
  rw [readField_partsOf]
  cases SortedMap.lookup? name members with
  | none => rfl
  | some v => rfl

theorem exists_annotation_iff :
    FormField.Holds ⟨name, .any, .nullable⟩ (SortedMap.lookup? name members) c ↔
      ∃ t, Json.IsAnnotation (SortedMap.lookup? name members) t ∧ c = t.elim .nothing .json := by
  rw [holds_nullable_iff Part.isReading_any, funext Part.nullable_json, readField_annotation]
  simp only [Except.ok.injEq, exists_eq_left', isAnnotation_iff]

/-- Anything is an annotation. -/
theorem exists_holds_annotation (members : List (String × Json)) (name : String) :
    ∃ c, FormField.Holds ⟨name, .any, .nullable⟩ (SortedMap.lookup? name members) c :=
  ⟨_, exists_annotation_iff.mpr ⟨_, isAnnotation_iff.mpr rfl, rfl⟩⟩

/-- A text that has to be there is the member itself. -/
@[simp]
theorem holds_text_iff {m : Option Json} {s : String} :
    FormField.Holds ⟨name, .text, .required⟩ m (.text s) ↔ m = some (.text s) := by
  constructor
  · rintro (⟨⟨⟩, -⟩ | _ | h)
    · rfl
    · cases h
  · rintro rfl
    refine .present (.text s) ?_
    intro h
    cases h

@[simp]
theorem readField_text_iff {s : String} :
    readField (Node.partsOf members) name Part.text = .ok (some s) ↔
      SortedMap.lookup? name members = some (.text s) := by
  rw [← holds_text_iff, holds_required_iff Part.isReading_text]
  simp only [FieldValue.text.injEq, exists_eq_right']

@[simp]
theorem readField_location_iff {l : Location} :
    readField (Node.partsOf members) name Part.location = .ok (some l) ↔
      SortedMap.lookup? name members = some (.text l.text) := by
  rw [← holds_text_iff, holds_required_iff Part.isReading_location]
  simp only [FieldValue.text.injEq, Location.text_inj, exists_eq_right']

end Fields

/-! ## Variables -/

namespace Binding

variable {members : List (String × Json)} {b : Binding}

/-- A variable from the members of an object. -/
theorem ofParts_eq_ok_iff : ofParts (Node.partsOf members) = .ok b ↔
    (Json.object members).IsVariable b := by
  rw [ofParts]
  simp only [bind_eq_ok_iff, readField_annotation, require_eq_ok_iff, Except.ok.injEq,
    exists_eq_left', ↓existsAndEq, true_and, readField_location_iff, readField_text_iff]
  constructor
  · rintro ⟨l, s, hl, hs, h⟩
    cases h
    exact .object hl hs (isAnnotation_iff.mpr rfl)
  · rintro ⟨⟩
    rename_i hlocation hname htype
    refine ⟨b.location, b.name, hlocation, hname, ?_⟩
    rw [isAnnotation_iff.mp htype]
    rfl

/-- Only the parts themselves matter here, not what else they could be read as. -/
theorem ofJson_object (members : List (String × Json)) :
    ofJson (.object members) = ofParts (Node.partsOf members) := by
  have hread {α : Type} (name : String) (read : Part → Except DataFault α)
      (hplain : ∀ v, read (.plain v) = read (.of v)) :
      readField (members.map fun e => (e.1, Part.plain e.2)) name read =
        readField (Node.partsOf members) name read := by
    rw [readField, readField, Node.partsOf_eq_map, SortedMap.lookup?_map, SortedMap.lookup?_map]
    cases SortedMap.lookup? name members with
    | none => rfl
    | some v => exact congrArg (Except.map some) (hplain v)
  rw [ofJson, ofParts, ofParts, hread _ _ fun _ => rfl, hread _ _ fun _ => rfl,
    hread _ _ fun _ => rfl]

/-- A variable from a list. -/
theorem ofItems_eq_ok_iff {items : List Json} {b : Binding} :
    ofItems items = .ok b ↔ (Json.list items).IsVariable b := by
  constructor
  · intro h
    -- the reader takes location and name off the front, and looks at the length only then
    match items, h with
    | [location], h =>
      obtain ⟨_, -, h⟩ := bind_eq_ok_iff.mp h
      cases h
    | location :: name :: rest, h =>
      obtain ⟨l, hl, h⟩ := bind_eq_ok_iff.mp h
      obtain ⟨s, hs, h⟩ := bind_eq_ok_iff.mp h
      -- a location or a name that is no text is refused
      cases location <;> cases hl
      cases name <;> cases hs
      match rest, h with
      | [], h =>
        cases h
        exact .pair _ _
      | [v], h =>
        cases h
        exact .triple _ _ (isAnnotation_iff.mpr rfl)
  · rintro (_ | ⟨l, name⟩ | ⟨l, name, htype⟩)
    · rfl
    · rw [← isAnnotation_iff.mp htype]
      rfl

end Binding

theorem Part.isReading_binding :
    IsReading .binding (fun p => Binding.ofJson p.json) .binding := by
  intro v c
  have hvariable (b : Binding) : v.IsVariable b ↔ Binding.ofJson v = .ok b := by
    cases v with
    | object members => rw [Binding.ofJson_object, Binding.ofParts_eq_ok_iff]
    | list items => rw [Binding.ofJson, Binding.ofItems_eq_ok_iff]
    | _ =>
      constructor
      · intro h
        cases h
      · intro h
        cases h
  constructor
  · rintro ⟨⟩
    rename_i b h
    exact ⟨b, (hvariable b).mp h, rfl⟩
  · rintro ⟨b, h, rfl⟩
    exact .binding ((hvariable b).mpr h)

/-! ## The fields that occur -/

section Fields

variable {members : List (String × Json)} {name : String}

@[simp]
theorem holds_bool_iff {b : Bool} :
    FormField.Holds ⟨name, .bool, .required⟩ (SortedMap.lookup? name members) (.bool b) ↔
      readField (Node.partsOf members) name Part.bool = .ok (some b) := by
  rw [holds_required_iff Part.isReading_bool]
  simp

@[simp]
theorem holds_number_iff {x : Double} :
    FormField.Holds ⟨name, .number, .required⟩ (SortedMap.lookup? name members) (.number x) ↔
      readField (Node.partsOf members) name Part.number = .ok (some x) := by
  rw [holds_required_iff Part.isReading_number]
  simp

@[simp]
theorem holds_node_iff {n : Node} :
    FormField.Holds ⟨name, .node, .required⟩ (SortedMap.lookup? name members) (.node n) ↔
      readField (Node.partsOf members) name Part.node = .ok (some n) := by
  rw [holds_required_iff Part.isReading_node]
  simp

@[simp]
theorem holds_nodes_iff {ns : List Node} :
    FormField.Holds ⟨name, .nodes, .required⟩ (SortedMap.lookup? name members) (.nodes ns) ↔
      readField (Node.partsOf members) name Part.nodes = .ok (some ns) := by
  rw [holds_required_iff Part.isReading_nodes]
  simp

@[simp]
theorem holds_binding_iff {b : Binding} :
    FormField.Holds ⟨name, .binding, .required⟩ (SortedMap.lookup? name members) (.binding b) ↔
      readField (Node.partsOf members) name (fun p => Binding.ofJson p.json) = .ok (some b) := by
  rw [holds_required_iff Part.isReading_binding]
  simp

@[simp]
theorem holds_bool_defaulted_iff {d b : Bool} :
    FormField.Holds ⟨name, .bool, .defaulted (.bool d)⟩ (SortedMap.lookup? name members) (.bool b) ↔
      ∃ o, readField (Node.partsOf members) name Part.bool = .ok o ∧ o.getD d = b := by
  rw [holds_defaulted_iff Part.isReading_bool]
  simp [eq_comm]

@[simp]
theorem holds_nodes_defaulted_iff {ds ns : List Node} :
    FormField.Holds ⟨name, .nodes, .defaulted (.nodes ds)⟩ (SortedMap.lookup? name members)
        (.nodes ns) ↔
      ∃ o, readField (Node.partsOf members) name Part.nodes = .ok o ∧ o.getD ds = ns := by
  rw [holds_defaulted_iff Part.isReading_nodes]
  simp [eq_comm]

theorem elim_eq_elim_iff {α : Type} {hold : α → FieldValue} (hinj : Function.Injective hold)
    (hhold : ∀ a, hold a ≠ .nothing) {o o' : Option α} :
    o.elim .nothing hold = o'.elim .nothing hold ↔ o' = o := by
  cases o <;> cases o' <;> simp [hhold, (hhold _).symm, hinj.eq_iff, eq_comm]

@[simp]
theorem holds_nodes_nullable_iff {ns : Option (List Node)} :
    FormField.Holds ⟨name, .nodes, .nullable⟩ (SortedMap.lookup? name members)
        (ns.elim .nothing .nodes) ↔
      ∃ o, readField (Node.partsOf members) name (Part.nullable Part.nodes) = .ok o ∧
        o.join = ns := by
  rw [holds_nullable_iff Part.isReading_nodes]
  have hinj : Function.Injective FieldValue.nodes := fun _ _ h => FieldValue.nodes.inj h
  simp only [elim_eq_elim_iff hinj (fun _ => FieldValue.noConfusion)]

@[simp]
theorem holds_text_nullable_iff {s : Option String} :
    FormField.Holds ⟨name, .text, .nullable⟩ (SortedMap.lookup? name members)
        (s.elim .nothing .text) ↔
      ∃ o, readField (Node.partsOf members) name (Part.nullable Part.text) = .ok o ∧
        o.join = s := by
  have hinj : Function.Injective FieldValue.text := fun _ _ h => FieldValue.text.inj h
  rw [holds_nullable_iff Part.isReading_text]
  simp only [elim_eq_elim_iff hinj (fun _ => FieldValue.noConfusion)]

@[simp]
theorem holds_location_nullable_iff {l : Option Location} :
    FormField.Holds ⟨name, .text, .nullable⟩ (SortedMap.lookup? name members)
        (l.elim .nothing fun l => .text l.text) ↔
      ∃ o, readField (Node.partsOf members) name (Part.nullable Part.location) = .ok o ∧
        o.join = l := by
  have hinj : Function.Injective fun l : Location => FieldValue.text l.text :=
    fun _ _ h => Location.text_inj.mp (FieldValue.text.inj h)
  rw [holds_nullable_iff Part.isReading_location]
  simp only [elim_eq_elim_iff hinj (fun _ => FieldValue.noConfusion)]

@[simp]
theorem holds_annotation_iff {t : Option Json} :
    FormField.Holds ⟨name, .any, .nullable⟩ (SortedMap.lookup? name members)
        (t.elim .nothing .json) ↔
      Json.IsAnnotation (SortedMap.lookup? name members) t := by
  have hinj : Function.Injective FieldValue.json := fun _ _ h => FieldValue.json.inj h
  rw [exists_annotation_iff]
  simp only [elim_eq_elim_iff hinj (fun _ => FieldValue.noConfusion), exists_eq_right]

end Fields

end LuauLayout
