/-
  LuauLayout.Render.Registry

  Which renderer is in charge of a kind of node.

  A registry is a finite map from tags to renderers, listed in ascending order
  of the tags. It may be changed at will: a tag may be bound to any renderer,
  also to one that was made for another form, and every binding may be removed.

    * `register`, `remove`, `get?`, `has`, `list`, `size` — the map.
    * `take`              — a removal that tells what it has dropped.
    * `Renderer`          — a renderer of this library, or one from outside.
    * `Registry.standard` — every renderer of this library under its own tag.
-/

import LuauLayout.Render.Action
import LuauLayout.SortedMap

namespace LuauLayout

/-- A finite map from tags. -/
structure Registry (ρ : Type) where
  entries : List (String × ρ)
  ordered : SortedMap.Ordered entries

namespace Registry

variable {ρ σ : Type}

/-- A registry without entries. -/
def empty : Registry ρ := ⟨[], SortedMap.ordered_nil⟩

instance : Inhabited (Registry ρ) := ⟨empty⟩

/-- What is registered under a tag. -/
def get? (r : Registry ρ) (kind : String) : Option ρ := SortedMap.lookup? kind r.entries

/-- Whether something is registered under a tag. -/
def has (r : Registry ρ) (kind : String) : Bool := (r.get? kind).isSome

/-- Adds or replaces what is registered under a tag. -/
def register (r : Registry ρ) (kind : String) (x : ρ) : Registry ρ :=
  ⟨SortedMap.insert kind x r.entries, SortedMap.ordered_insert kind x r.ordered⟩

/-- Drops what is registered under a tag. -/
def remove (r : Registry ρ) (kind : String) : Registry ρ :=
  ⟨SortedMap.erase kind r.entries, SortedMap.ordered_erase kind r.ordered⟩

/-- Drops what is registered under a tag, and tells what it was. -/
def take (r : Registry ρ) (kind : String) : Option ρ × Registry ρ :=
  ((SortedMap.extract kind r.entries).1, ⟨(SortedMap.extract kind r.entries).2, by
    rw [SortedMap.extract_eq kind r.ordered]
    exact SortedMap.ordered_erase kind r.ordered⟩)

/-- The tags under which something is registered, in ascending order. -/
def list (r : Registry ρ) : List String := r.entries.map (·.1)

/-- How many tags have something registered. -/
def size (r : Registry ρ) : Nat := r.entries.length

def isEmpty (r : Registry ρ) : Bool := r.entries.isEmpty

/-- Changes every entry, and no tag. -/
def map (f : ρ → σ) (r : Registry ρ) : Registry σ :=
  ⟨r.entries.map fun e => (e.1, f e.2), SortedMap.ordered_map f r.ordered⟩

/-- The registry with these entries; of two under one tag the later stays. -/
def ofList (entries : List (String × ρ)) : Registry ρ :=
  entries.foldl (fun r e => r.register e.1 e.2) empty

/-- The registry as an outline of its tags. -/
def outline (r : Registry ρ) : Outline :=
  .record "RendererRegistry" [("kinds", .list "" (r.list.map Outline.quoted))]

theorem has_eq_true_iff {r : Registry ρ} {kind : String} :
    r.has kind = true ↔ ∃ x, r.get? kind = some x := Option.isSome_iff_exists

theorem has_eq_false_iff {r : Registry ρ} {kind : String} :
    r.has kind = false ↔ r.get? kind = none := by
  rw [has, Option.isSome_eq_false_iff, Option.isNone_iff_eq_none]

theorem get?_register (r : Registry ρ) (kind : String) (x : ρ) (k : String) :
    (r.register kind x).get? k = if k = kind then some x else r.get? k := by
  by_cases h : k = kind
  · subst h
    simp [get?, register, SortedMap.lookup?_insert_self]
  · simp [get?, register, h, SortedMap.lookup?_insert_of_ne h]

theorem get?_remove (r : Registry ρ) (kind k : String) :
    (r.remove kind).get? k = if k = kind then none else r.get? k :=
  SortedMap.lookup?_erase kind k r.entries

/-- Taking tells what was registered, and leaves what dropping leaves. -/
theorem take_eq (r : Registry ρ) (kind : String) : r.take kind = (r.get? kind, r.remove kind) := by
  have h := SortedMap.extract_eq kind r.ordered
  simp only [take, remove, get?, h]

theorem has_iff_mem_list {r : Registry ρ} {kind : String} : r.has kind = true ↔ kind ∈ r.list := by
  rw [has_eq_true_iff]
  exact SortedMap.exists_lookup?_iff

theorem get?_map (f : ρ → σ) (r : Registry ρ) (k : String) :
    (r.map f).get? k = (r.get? k).map f :=
  SortedMap.lookup?_map f k r.entries

end Registry

/-- A renderer. -/
inductive Renderer where
  /-- The renderer that this library has for a form. -/
  | native (form : Form)
  /-- The renderer for a block among statements, with `do` and `end` around it. -/
  | doBlock
  /-- Any other. -/
  | custom (run : Node → Render Unit)

namespace Renderer

/-- The tag for blocks among statements. No form has it: where a dump has a node under it, the node
    is unmodelled, and the renderer of such blocks refuses it. -/
def doBlockTag : String := "DoBlock"

/-- The renderers of this library under their own tags. -/
def standardEntries : List (String × Renderer) :=
  (doBlockTag, .doBlock) :: Form.all.map fun f => (f.tag, .native f)

end Renderer

/-- The registry with every renderer of this library. -/
def Registry.standard : Registry Renderer := .ofList Renderer.standardEntries

end LuauLayout
