/-
  LuauLayout.Node.Decode

  Nodes from JSON values.

  A node is an object with a text under `type`. If that is the tag of a form,
  the other members have to fit the form: each field in the ascending order of
  the names, and the first that does not fit is the fault; then each required
  field in the order of the form, and the first that is missing is the fault.
  Members that the form does not know are ignored. A node under any other tag
  is kept as it is.

    * `Part`          — a member together with its readings as a node and as a
      list of nodes.
    * `Node.ofJson`   — the node that a value is.
    * `Binding.ofJson`— the variable that a value is.
-/

import LuauLayout.Node.Basic

namespace LuauLayout

/-- What a field is expected to hold. -/
inductive Wanted where
  | text
  | bool
  | number
  | list
  | binding
  deriving DecidableEq, Repr

/-- Why the members of an object do not fit a form. -/
inductive DataFault where
  | missingField (name : String)
  | invalidType (found : Json) (wanted : Wanted)
  /-- A variable given as a list of too few parts, or of too many. -/
  | tooShort (length : Nat)
  | tooLong (length : Nat)
  /-- A child without a tag, or with members that do not fit its form. -/
  | untaggedChild
  | undecodableChild

/-- Why a value is no node. -/
inductive NodeFault where
  | untagged
  | data (fault : DataFault)

/-- What becomes of a fault when the node is the child of another. -/
def NodeFault.ofChild : NodeFault → DataFault
  | .untagged => .untaggedChild
  | .data _ => .undecodableChild

/-- A value with its readings as a node and as a list of nodes. -/
structure Part where
  json : Json
  node : Except DataFault Node
  nodes : Except DataFault (List Node)

namespace Part

/-! ## Reading one field -/

def text (p : Part) : Except DataFault String :=
  match p.json with
  | .text s => .ok s
  | v => .error (.invalidType v .text)

def location (p : Part) : Except DataFault Location := p.text.map Location.mk

def bool (p : Part) : Except DataFault Bool :=
  match p.json with
  | .bool b => .ok b
  | v => .error (.invalidType v .bool)

def number (p : Part) : Except DataFault Double :=
  match p.json with
  | .number n => .ok n.toDouble
  | v => .error (.invalidType v .number)

/-- Any value; `null` stands for none. -/
def declaredType? (p : Part) : Option Json :=
  match p.json with
  | .null => none
  | v => some v

/-- A field that may be `null`. -/
def nullable {α : Type} (read : Part → Except DataFault α) (p : Part) :
    Except DataFault (Option α) :=
  match p.json with
  | .null => .ok none
  | _ => (read p).map some

end Part

/-- Reads a field if it is there. -/
def readField {α : Type} (parts : List (String × Part)) (name : String)
    (read : Part → Except DataFault α) : Except DataFault (Option α) :=
  match SortedMap.lookup? name parts with
  | none => .ok none
  | some p => (read p).map some

/-- Insists on a field. -/
def require {α : Type} (name : String) : Option α → Except DataFault α
  | some a => .ok a
  | none => .error (.missingField name)

/-- A part whose readings as nodes are not asked for. -/
def Part.plain (v : Json) : Part :=
  ⟨v, .error .untaggedChild, .error (.invalidType v .list)⟩

/-! ## Variables -/

namespace Binding

/-- A variable from the members of an object. -/
def ofParts (parts : List (String × Part)) : Except DataFault Binding := do
  let location ← readField parts "location" Part.location
  let declaredType ← readField parts "luauType" fun p => .ok p.declaredType?
  let name ← readField parts "name" Part.text
  return ⟨← require "location" location, ← require "name" name, declaredType.join⟩

/-- A variable from a list: location, name, and the annotation or nothing. -/
def ofItems (items : List Json) : Except DataFault Binding :=
  match items with
  | [] => .error (.tooShort 0)
  | [location] => do
    -- a location that is none is the fault, not the name that is missing
    let _ ← (Part.plain location).location
    .error (.tooShort 1)
  | location :: name :: rest => do
    let location ← (Part.plain location).location
    let name ← (Part.plain name).text
    match rest with
    | [] => return ⟨location, name, none⟩
    | [declaredType] => return ⟨location, name, (Part.plain declaredType).declaredType?⟩
    | _ => .error (.tooLong items.length)

/-- The variable that a value is: an object or a list. -/
def ofJson : Json → Except DataFault Binding
  | .object members => ofParts (members.map fun (k, v) => (k, Part.plain v))
  | .list items => ofItems items
  | v => .error (.invalidType v .binding)

end Binding

/-! ## Nodes -/

namespace Node

/-- A form that holds nothing but its location. -/
def ofLocation (parts : List (String × Part)) (a : Atom) : Except DataFault Node := do
  let location ← readField parts "location" Part.location
  return .atom (← require "location" location) a

/-- Targets and values, of a declaration or of an assignment. -/
def ofAssignment (parts : List (String × Part))
    (make : Location → List Node → Option (List Node) → Node) : Except DataFault Node := do
  let location ← readField parts "location" Part.location
  let values ← readField parts "values" (Part.nullable Part.nodes)
  let targets ← readField parts "vars" Part.nodes
  return make (← require "location" location) (← require "vars" targets) values.join

/-- A node of a form, from the members of an object. -/
def ofParts (parts : List (String × Part)) : Form → Except DataFault Node
  -- in every form: first the readings, by name, then what is required, by the order of the form
  | .block => do
    let body ← readField parts "body" Part.nodes
    let hasEnd ← readField parts "hasEnd" Part.bool
    let location ← readField parts "location" Part.location
    return .block (← require "location" location) (hasEnd.getD false) (body.getD [])
  | .localDecl => ofAssignment parts .localDecl
  | .assign => ofAssignment parts .assign
  | .ret => do
    let values ← readField parts "list" Part.nodes
    let location ← readField parts "location" Part.location
    return .ret (← require "location" location) (values.getD [])
  | .exprStat => do
    let expr ← readField parts "expr" Part.node
    let location ← readField parts "location" Part.location
    return .exprStat (← require "location" location) (← require "expr" expr)
  | .breakStat => ofLocation parts .breakStat
  | .continueStat => ofLocation parts .continueStat
  | .varargs => ofLocation parts .varargs
  | .nil => ofLocation parts .nil
  | .binding => do
    let b ← Binding.ofParts parts
    return .atom b.location (.binding b.name b.declaredType)
  | .global => do
    let name ← readField parts "global" Part.text
    let location ← readField parts "location" Part.location
    return .atom (← require "location" location) (.global (← require "global" name))
  | .localRef => do
    let binding ← readField parts "local" fun p => Binding.ofJson p.json
    let location ← readField parts "location" Part.location
    return .atom (← require "location" location) (.localRef (← require "local" binding))
  | .indexName => do
    let base ← readField parts "expr" Part.node
    let name ← readField parts "index" Part.text
    let nameLocation ← readField parts "indexLocation" (Part.nullable Part.location)
    let location ← readField parts "location" Part.location
    let op ← readField parts "op" (Part.nullable Part.text)
    return .indexName (← require "location" location) (← require "expr" base)
      (← require "index" name) nameLocation.join op.join
  | .group => do
    let inner ← readField parts "expr" Part.node
    let location ← readField parts "location" Part.location
    return .group (← require "location" location) (← require "expr" inner)
  | .call => do
    let args ← readField parts "args" Part.nodes
    let callee ← readField parts "func" Part.node
    let location ← readField parts "location" Part.location
    return .call (← require "location" location) (← require "func" callee) (args.getD [])
  | .unary => do
    let operand ← readField parts "expr" Part.node
    let location ← readField parts "location" Part.location
    let op ← readField parts "op" Part.text
    return .unary (← require "location" location) (← require "op" op) (← require "expr" operand)
  | .binary => do
    let left ← readField parts "left" Part.node
    let location ← readField parts "location" Part.location
    let op ← readField parts "op" Part.text
    let right ← readField parts "right" Part.node
    return .binary (← require "location" location) (← require "op" op) (← require "left" left)
      (← require "right" right)
  | .bool => do
    let location ← readField parts "location" Part.location
    let value ← readField parts "value" Part.bool
    return .atom (← require "location" location) (.bool (← require "value" value))
  | .number => do
    let location ← readField parts "location" Part.location
    let value ← readField parts "value" Part.number
    return .atom (← require "location" location) (.number (← require "value" value))
  | .text => do
    let location ← readField parts "location" Part.location
    let value ← readField parts "value" Part.text
    return .atom (← require "location" location) (.text (← require "value" value))

/-- A node from the members of an object, given their readings. -/
def ofMembers (members : List (String × Json)) (parts : List (String × Part)) :
    Except NodeFault Node :=
  match (SortedMap.lookup? "type" members).bind Json.asText? with
  | none => .error .untagged
  | some tag =>
    match h : Form.ofTag? tag with
    | some form => (ofParts parts form).mapError .data
    | none =>
      -- nothing is required of a node that is kept as it is
      let location := ((SortedMap.lookup? "location" members).bind Json.asText?).getD ""
      .ok (.unmodelled ⟨tag, h⟩ ⟨location⟩ (.object members))

mutual

/-- The node that a value is. -/
def ofJson : Json → Except NodeFault Node
  | .object members => ofMembers members (partsOf members)
  | _ => .error .untagged

/-- The members of an object with their readings. -/
def partsOf : List (String × Json) → List (String × Part)
  | [] => []
  | (key, v) :: rest =>
    (key, ⟨v, (ofJson v).mapError NodeFault.ofChild, nodesOf v⟩) :: partsOf rest

/-- The list of nodes that a value is. -/
def nodesOf : Json → Except DataFault (List Node)
  | .list items => itemsOf items
  | v => .error (.invalidType v .list)

/-- The nodes that values are; the first that is none is the fault. -/
def itemsOf : List Json → Except DataFault (List Node)
  | [] => .ok []
  | v :: rest => do
    let n ← (ofJson v).mapError NodeFault.ofChild
    let ns ← itemsOf rest
    return n :: ns

end

end Node
end LuauLayout
