/-
  LuauLayout.Proofs.Render.Standard

  What the standard registry holds, and the registries that are parts of it.

  The standard registry holds for every form the renderer of that form, and the
  one for blocks among statements under a tag that no form has. Its parts are
  the registries that hold nothing else; taking entries away leads from one part
  to another. In a part, the tag of a modelled node determines its renderer.

    * `Registry.removeAll` — a registry without the entries under some tags.
    * `Registry.IsPart`    — every entry is an entry of the standard registry.
    * `Node.tagAt`         — the tag under which the renderer of a node is looked
      up; a block among statements does not go by its own.
-/

import LuauLayout.Proofs.Node.Traversal
import LuauLayout.Render.Dispatch
import Mathlib.Data.List.Induction

namespace LuauLayout
namespace Registry

variable {ρ : Type}

/-! ## Registries from lists -/

theorem get?_empty (k : String) : (empty : Registry ρ).get? k = none := rfl

theorem get?_ofList_concat (entries : List (String × ρ)) (e : String × ρ) (k : String) :
    (ofList (entries ++ [e])).get? k = if k = e.1 then some e.2 else (ofList entries).get? k := by
  rw [ofList, List.foldl_append, List.foldl_cons, List.foldl_nil, get?_register]
  rfl

/-- A registry holds nothing but what it was made from. -/
theorem mem_of_get?_ofList {entries : List (String × ρ)} {k : String} {x : ρ}
    (h : (ofList entries).get? k = some x) : (k, x) ∈ entries := by
  induction entries using List.reverseRecOn with
  | nil => exact absurd h (by rw [ofList, List.foldl_nil, get?_empty]; simp)
  | append_singleton entries e ih =>
    rw [get?_ofList_concat] at h
    rw [List.mem_append]
    split at h
    · rename_i hk
      cases h
      exact .inr (by rw [hk]; exact List.mem_singleton_self _)
    · exact .inl (ih h)

/-- Of entries under different tags none is lost. -/
theorem get?_ofList_of_mem {entries : List (String × ρ)} {k : String} {x : ρ}
    (hn : (entries.map (·.1)).Nodup) (h : (k, x) ∈ entries) :
    (ofList entries).get? k = some x := by
  induction entries using List.reverseRecOn with
  | nil => exact absurd h List.not_mem_nil
  | append_singleton entries e ih =>
    rw [List.map_append, List.nodup_append] at hn
    obtain ⟨hn, -, hdisjoint⟩ := hn
    rw [get?_ofList_concat]
    -- the last entry is seen first; it hides no other, since the tags differ
    rcases List.mem_append.mp h with h | h
    · have hne : k ≠ e.1 := hdisjoint k (List.mem_map_of_mem h) e.1 (by simp)
      rw [if_neg hne]
      exact ih hn h
    · rw [List.mem_singleton] at h
      subst h
      rw [if_pos rfl]

/-- Drops what is registered under any of the tags. -/
def removeAll (reg : Registry ρ) (kinds : List String) : Registry ρ := kinds.foldl remove reg

theorem get?_removeAll (reg : Registry ρ) (kinds : List String) (k : String) :
    (reg.removeAll kinds).get? k = if k ∈ kinds then none else reg.get? k := by
  induction kinds generalizing reg with
  | nil => rfl
  | cons kind rest ih =>
    show ((reg.remove kind).removeAll rest).get? k = _
    rw [ih, get?_remove]
    by_cases hk : k = kind
    · simp [hk]
    · by_cases hr : k ∈ rest <;> simp [hk, hr]

/-! ## The standard registry -/

theorem nodup_standardEntries : (Renderer.standardEntries.map (·.1)).Nodup := by
  decide +kernel

/-- The renderer of a form is registered under the tag of the form. -/
theorem get?_standard_tag (f : Form) : standard.get? f.tag = some (.native f) := by
  apply get?_ofList_of_mem nodup_standardEntries
  exact List.mem_cons_of_mem _ (List.mem_map_of_mem (f := fun f => (f.tag, Renderer.native f))
    (Form.mem_all f))

theorem get?_standard_doBlockTag :
    standard.get? Renderer.doBlockTag = some .doBlock :=
  get?_ofList_of_mem nodup_standardEntries List.mem_cons_self

/-- Nothing else is registered. -/
theorem eq_of_get?_standard {k : String} {r : Renderer} (h : standard.get? k = some r) :
    (k = Renderer.doBlockTag ∧ r = .doBlock) ∨ ∃ f : Form, k = f.tag ∧ r = .native f := by
  rcases List.mem_cons.mp (mem_of_get?_ofList h) with h | h
  · cases h
    exact .inl ⟨rfl, rfl⟩
  · obtain ⟨f, -, hf⟩ := List.mem_map.mp h
    cases hf
    exact .inr ⟨f, rfl, rfl⟩

/-! ## Its parts -/

/-- Every entry is an entry of the standard registry. -/
def IsPart (reg : Registry Renderer) : Prop :=
  ∀ k r, reg.get? k = some r → standard.get? k = some r

theorem isPart_standard : standard.IsPart := fun _ _ h => h

theorem IsPart.removeAll {reg : Registry Renderer} (h : reg.IsPart) (kinds : List String) :
    (reg.removeAll kinds).IsPart := by
  intro k r hr
  rw [get?_removeAll] at hr
  split at hr
  · cases hr
  · exact h k r hr

end Registry

/-- The tag under which the renderer of a node is looked up. -/
def Node.tagAt : Position → Node → String
  | .statement, .block .. => Renderer.doBlockTag
  | _, n => n.kind

theorem Node.tagAt_operand (n : Node) : n.tagAt .operand = n.kind := by
  cases n <;> rfl

/-- The renderer that the standard registry has for a node at a position, if it has one. -/
def Node.renderer? (p : Position) : Node → Option Renderer
  | .block .. =>
    match p with
    | .statement => some .doBlock
    | .operand => some (.native .block)
  | .unmodelled tag .. => if tag.text = Renderer.doBlockTag then some .doBlock else none
  | n => n.form?.map .native

namespace Registry

/-- An unmodelled node has a renderer only if its tag is that of the blocks among statements. -/
theorem get?_standard_foreign (tag : ForeignTag) : standard.get? tag.text =
    if tag.text = Renderer.doBlockTag then some .doBlock else none := by
  by_cases h : tag.text = Renderer.doBlockTag
  · rw [if_pos h, h, get?_standard_doBlockTag]
  · rw [if_neg h]
    cases hg : standard.get? tag.text with
    | none => rfl
    | some r =>
      rcases eq_of_get?_standard hg with ⟨hk, -⟩ | ⟨f, hk, -⟩
      · exact absurd hk h
      · have hf := Form.ofTag?_tag f
        rw [← hk, tag.noForm] at hf
        cases hf

theorem get?_standard_tagAt (p : Position) (n : Node) :
    standard.get? (n.tagAt p) = n.renderer? p := by
  cases n with
  | block =>
    cases p with
    | statement => exact get?_standard_doBlockTag
    | operand => exact get?_standard_tag .block
  | unmodelled tag => cases p <;> exact get?_standard_foreign tag
  | atom l a => cases p <;> exact get?_standard_tag a.form
  | localDecl => cases p <;> exact get?_standard_tag .localDecl
  | assign => cases p <;> exact get?_standard_tag .assign
  | ret => cases p <;> exact get?_standard_tag .ret
  | exprStat => cases p <;> exact get?_standard_tag .exprStat
  | indexName => cases p <;> exact get?_standard_tag .indexName
  | group => cases p <;> exact get?_standard_tag .group
  | call => cases p <;> exact get?_standard_tag .call
  | unary => cases p <;> exact get?_standard_tag .unary
  | binary => cases p <;> exact get?_standard_tag .binary

/-- A part of the standard registry has the standard renderer for a node, or none. -/
theorem IsPart.renderer?_eq {reg : Registry Renderer} (h : reg.IsPart) {p : Position} {n : Node}
    {r : Renderer} (hr : reg.get? (n.tagAt p) = some r) : n.renderer? p = some r := by
  rw [← get?_standard_tagAt]
  exact h _ _ hr

end Registry
end LuauLayout
