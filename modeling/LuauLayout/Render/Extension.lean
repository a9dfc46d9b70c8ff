/-
  LuauLayout.Render.Extension

  Renderers from outside that hand nodes back.

  A renderer of this library recurses along the nodes. One from outside may read
  further nodes out of the JSON value of an unmodelled node and hand them back to
  the registry it is itself an entry of. `Registry.close n` ties that knot for `n`
  levels: at each level the extensions get the registry closed one level deeper,
  and below the last level a registry without entries.

  A node that comes out of a JSON value is nested more deeply than the one it
  comes out of, and a JSON text is at most `Json.maxDepth` levels deep. So the
  levels of `Registry.tie` are never used up by a renderer that hands on only
  what it has read.

    * `close_plain`      — without extensions the number of levels is immaterial.
    * `get?_close_plain` — an entry that is no extension stays what it is.
-/

import LuauLayout.Json.Reader
import LuauLayout.Render.Registry

namespace LuauLayout

/-- What may be registered: a renderer, or one that is given the registry to hand nodes back to. -/
inductive Entry where
  | plain (r : Renderer)
  | extension (run : Registry Renderer → Node → Render Unit)

namespace Entry

/-- The entry as a renderer, given the registry that an extension hands nodes back to. -/
def resolve (inner : Registry Renderer) : Entry → Renderer
  | .plain r => r
  | .extension run => .custom (run inner)

end Entry

namespace Registry

/-- The registry of renderers whose extensions may hand nodes back `n` levels deep. -/
def close : Nat → Registry Entry → Registry Renderer
  | 0, reg => reg.map (Entry.resolve .empty)
  | n + 1, reg => reg.map (Entry.resolve (reg.close n))

/-- The registry of renderers, with a level for every level of a JSON text. -/
def tie (reg : Registry Entry) : Registry Renderer := reg.close (Json.maxDepth + 1)

/-- The registry with every renderer of this library, open to extensions. -/
def standardEntries : Registry Entry := Registry.standard.map .plain

/-! ## Entries that hand nothing back -/

theorem has_close (n : Nat) (reg : Registry Entry) (kind : String) :
    (reg.close n).has kind = reg.has kind := by
  cases n <;> simp [close, has, get?_map]

/-- An entry that is no extension stays what it is. -/
theorem get?_close_plain {reg : Registry Entry} {kind : String} {r : Renderer}
    (h : reg.get? kind = some (.plain r)) (n : Nat) : (reg.close n).get? kind = some r := by
  cases n <;> simp [close, get?_map, h, Entry.resolve]

/-- Without extensions the number of levels is immaterial. -/
theorem close_plain (reg : Registry Renderer) (n : Nat) : (reg.map Entry.plain).close n = reg := by
  have h : ∀ inner, (reg.map Entry.plain).map (Entry.resolve inner) = reg := by
    intro inner
    obtain ⟨entries, ordered⟩ := reg
    simp [map, Entry.resolve, Function.comp_def]
  cases n <;> exact h _

theorem tie_standardEntries : standardEntries.tie = .standard := close_plain _ _

end Registry
end LuauLayout
