/-
  LuauLayout.Proofs.Render.BuiltIn

  Registries without renderers from outside.

  The renderers of this library may stand under any tags, also under tags of
  other forms and under tags that no form has. Then nodes may be refused or left
  unsupported, but what is done to a text is of a limited kind all the same: a
  write goes over what stands there, to a place that a location names.

    * `Registry.IsBuiltIn`  — every entry is a renderer of this library.
    * `Action.IsPlain`      — what such renderers do.
    * `Plain`               — a rendering that does nothing else, with a rule
      for every step.
    * `rendersPlainly`      — the induction along the nodes.
    * `plain_walk`          — the walk over a document.
-/

import LuauLayout.Proofs.Node.Spelling
import LuauLayout.Proofs.Render.Position

namespace LuauLayout

/-! ## Registries -/

/-- A renderer of this library. -/
def Renderer.IsBuiltIn : Renderer → Prop
  | .native _ => True
  | .doBlock => True
  | .custom _ => False

namespace Registry

/-- Every entry is a renderer of this library, whatever its tag. -/
def IsBuiltIn (reg : Registry Renderer) : Prop := ∀ k r, reg.get? k = some r → r.IsBuiltIn

theorem isBuiltIn_standard : standard.IsBuiltIn := by
  intro k r h
  rcases eq_of_get?_standard h with ⟨-, rfl⟩ | ⟨f, -, rfl⟩ <;> trivial

theorem IsBuiltIn.register {reg : Registry Renderer} (h : reg.IsBuiltIn) (kind : String)
    {r : Renderer} (hr : r.IsBuiltIn) : (reg.register kind r).IsBuiltIn := by
  intro k s hs
  rw [get?_register] at hs
  split at hs
  · cases hs
    exact hr
  · exact h k s hs

theorem IsBuiltIn.remove {reg : Registry Renderer} (h : reg.IsBuiltIn) (kind : String) :
    (reg.remove kind).IsBuiltIn := by
  intro k r hr
  rw [get?_remove] at hr
  split at hr
  · cases hr
  · exact h k r hr

end Registry

/-! ## Places that a location names -/

/-- The last character of a span ends no further than the span does. -/
theorem Span.isWithinLimit_last {s : Span} (h : s.stop.IsWithinLimit) : s.last.IsWithinLimit :=
  ⟨h.1, Nat.le_trans (Nat.sub_le s.stop.column 1) h.2⟩

/-! ## What the renderers of this library do -/

/-- A write goes over what stands there, to a place within the limit. -/
def Action.IsPlain : Action → Prop
  | .write _ place mode => mode = .overwrite ∧ place.IsWithinLimit
  | .append _ => True
  | .report _ => True

namespace Render

variable {α β : Type}

/-- All that a rendering does is plain, also if it fails. -/
def Plain (m : Render α) : Prop := ∀ a ∈ m.actions, a.IsPlain

namespace Plain

theorem of_quiet {m : Render α} (h : m.actions = []) : Plain m := by
  intro a ha
  rw [h] at ha
  cases ha

theorem act {a : Action} (h : a.IsPlain) : Plain (act a) := by
  intro b hb
  rw [List.mem_singleton.mp hb]
  exact h

theorem pure (a : α) : Plain (Pure.pure a) := of_quiet rfl

theorem ofExcept (r : Except Failure α) : Plain (ofExcept r) := of_quiet rfl

theorem mismatch (form : Form) (n : Node) : Plain (mismatch form n) := of_quiet rfl

theorem write (text : String) {place : Coordinate} (h : place.IsWithinLimit) :
    Plain (write text place) := act ⟨rfl, h⟩

theorem append (text : String) : Plain (append text) := act trivial

theorem report (n : Node) : Plain (report n) := act trivial

/-- What comes second matters only for the values that the first can end with. -/
theorem bind_of_ok {m : Render α} {f : α → Render β} (hm : Plain m)
    (hf : ∀ a, m.result = .ok a → Plain (f a)) : Plain (m >>= f) := by
  cases h : m.result with
  | error e =>
    rw [Render.bind_of_error h]
    exact hm
  | ok a =>
    intro x hx
    rw [Render.bind_of_ok h] at hx
    rcases List.mem_append.mp hx with hx | hx
    · exact hm x hx
    · exact hf a h x hx

theorem bind {m : Render α} {f : α → Render β} (hm : Plain m) (hf : ∀ a, Plain (f a)) :
    Plain (m >>= f) := bind_of_ok hm fun a _ => hf a

/-- Reading a span does nothing, and both its ends are within the limit. -/
theorem span_bind (l : Location) {f : Span → Render β}
    (hf : ∀ s : Span, s.start.IsWithinLimit → s.stop.IsWithinLimit → Plain (f s)) :
    Plain (Render.ofExcept l.span >>= f) := by
  refine bind_of_ok (ofExcept l.span) fun s hs => ?_
  obtain ⟨hstart, hstop⟩ := Location.isWithinLimit_of_span hs
  exact hf s hstart hstop

theorem writeAtStart (l : Location) (text : String) : Plain (writeAtStart l text) := by
  refine bind_of_ok (ofExcept l.start) fun place hplace => ?_
  cases hs : l.span with
  | error e =>
    rw [Location.start, hs] at hplace
    cases hplace
  | ok s =>
    rw [Location.start, hs] at hplace
    cases hplace
    exact write text (Location.isWithinLimit_of_span hs).1

theorem ite {c : Prop} [Decidable c] {m k : Render α} (hm : Plain m) (hk : Plain k) :
    Plain (if c then m else k) := by
  split
  · exact hm
  · exact hk

theorem appendIf (due : Bool) (text : String) : Plain (appendIf due text) :=
  ite (append text) (pure ())

theorem unlessHalted (d : Dispatch) {k : Render Unit} (hk : Plain k) : Plain (unlessHalted d k) :=
  ite (pure ()) hk

theorem only {r : Renderer} (hr : r.IsBuiltIn) {form : Form} {n : Node} {own : Render Unit}
    (h : Plain own) : Plain (only r form n own) := by
  cases r with
  | custom run => cases hr
  | doBlock => exact mismatch .block n
  | native f => exact ite h (mismatch f n)

end Plain

variable {reg : Registry Renderer} {n : Node}

/-- Whatever renderer of this library a node is given, it does plain things. -/
def RendersPlainly (reg : Registry Renderer) (n : Node) : Prop :=
  ∀ r : Renderer, r.IsBuiltIn → Plain (renderWith reg r n)

namespace RendersPlainly

theorem dispatchAt (h : RendersPlainly reg n) (hreg : reg.IsBuiltIn) (p : Position) :
    Plain (dispatchAt reg p n) := by
  rw [Render.dispatchAt]
  cases hg : reg.get? (n.tagAt p) with
  | some r => exact .bind (h r (hreg _ r hg)) fun _ => .pure _
  | none => exact .ite (.pure _) (.bind (.report n) fun _ => .pure _)

theorem listNodes {ns : List Node} (h : ∀ n ∈ ns, RendersPlainly reg n) (hreg : reg.IsBuiltIn)
    (sep : String) (started : Bool) : Plain (listNodes reg sep started ns) := by
  induction ns generalizing started with
  | nil => exact .pure _
  | cons n rest ih =>
    obtain ⟨hn, hrest⟩ := List.forall_mem_cons.mp h
    have hnode := hn.dispatchAt hreg .operand
    cases hg : reg.has n.kind with
    | true =>
      rw [listNodes_cons_of_has sep started rest hg]
      exact .bind (.appendIf started sep) fun _ => .bind hnode fun _ => ih hrest true
    | false =>
      rw [listNodes_cons_of_not_has sep started rest hg]
      exact .bind hnode fun d => .ite (.pure _) (ih hrest started)

theorem walkNodes {ns : List Node} (h : ∀ n ∈ ns, RendersPlainly reg n)
    (hreg : reg.IsBuiltIn) : Plain (walkNodes reg ns) := by
  induction ns with
  | nil => exact .pure _
  | cons n rest ih =>
    obtain ⟨hn, hrest⟩ := List.forall_mem_cons.mp h
    rw [walkNodes_cons]
    exact .bind (hn.dispatchAt hreg .statement) fun d => .ite (.pure _) (ih hrest)

theorem assignValues {values : Option (List Node)}
    (h : ∀ vs ∈ values, ∀ n ∈ vs, RendersPlainly reg n) (hreg : reg.IsBuiltIn) (t : Dispatch) :
    Plain (assignValues reg t values) := by
  cases values with
  | none => exact .pure _
  | some values =>
    rw [assignValues_some]
    refine .bind (.appendIf _ _) fun _ => ?_
    exact .bind (listNodes (h values rfl) hreg "," false) fun d => .pure _

/-- What a declaration and an assignment have in common. -/
theorem targets_values {targets : List Node} {values : Option (List Node)}
    (ht : ∀ n ∈ targets, RendersPlainly reg n)
    (hv : ∀ vs ∈ values, ∀ n ∈ vs, RendersPlainly reg n) (hreg : reg.IsBuiltIn) :
    Plain (do
      let t ← Render.listNodes reg "," false targets
      let _ ← Render.assignValues reg t values) := by
  refine .bind (listNodes ht hreg "," false) fun t => ?_
  exact .bind (assignValues hv hreg t) fun _ => .pure _

end RendersPlainly

/-- On the nodes: a renderer that is handed a node of its own form does plain things and lays out
    the nodes below; one that is handed another node refuses it. -/
theorem rendersPlainly (hreg : reg.IsBuiltIn) (n : Node) : RendersPlainly reg n := by
  induction n using Node.induct with
  | atom l a => exact fun r hr => .only hr (.writeAtStart l a.source)
  | block l hasEnd body ih =>
    intro r hr
    have hbody := RendersPlainly.walkNodes ih hreg
    cases r with
    | custom run => cases hr
    | doBlock =>
      refine .span_bind l fun s hstart hstop => ?_
      refine .bind (.write "do" hstart) fun _ => .bind hbody fun _ => ?_
      exact .ite (.write "end" hstop) (.pure _)
    | native f =>
      cases f with
      | block => exact .bind hbody fun _ => .pure _
      | _ => exact .mismatch _ _
  | localDecl l targets values iht ihv =>
    intro r hr
    refine .only hr (.bind (.writeAtStart l "local") fun _ => ?_)
    exact RendersPlainly.targets_values iht ihv hreg
  | assign l targets values iht ihv =>
    intro r hr
    exact .only hr (RendersPlainly.targets_values iht ihv hreg)
  | ret l values ih =>
    intro r hr
    refine .only hr (.bind (.writeAtStart l "return") fun _ => ?_)
    exact .bind (RendersPlainly.listNodes ih hreg "," false) fun _ => .pure _
  | exprStat l e ih =>
    intro r hr
    exact .only hr (.bind (ih.dispatchAt hreg .operand) fun _ => .pure _)
  | indexName l base name nl op ih =>
    intro r hr
    refine .only hr (.bind (ih.dispatchAt hreg .operand) fun d => .unlessHalted d ?_)
    refine .bind (.append _) fun _ => ?_
    cases nl with
    | some nl => exact .writeAtStart nl name
    | none => exact .append name
  | group l e ih =>
    intro r hr
    refine .only hr (.span_bind l fun s hstart hstop => .bind (.write "(" hstart) fun _ => ?_)
    refine .bind (ih.dispatchAt hreg .operand) fun d => .unlessHalted d ?_
    exact .write ")" (Span.isWithinLimit_last hstop)
  | call l callee args ihc iha =>
    intro r hr
    -- of the span only the end is written to, and only if nothing in between has halted
    refine .only hr (.span_bind l fun s _ hstop => ?_)
    refine .bind (ihc.dispatchAt hreg .operand) fun d => .unlessHalted d ?_
    refine .bind (.append "(") fun _ => ?_
    refine .bind (RendersPlainly.listNodes iha hreg "," false) fun d => .unlessHalted d ?_
    exact .write ")" (Span.isWithinLimit_last hstop)
  | unary l op e ih =>
    intro r hr
    refine .only hr (.bind (.writeAtStart l _) fun _ => ?_)
    exact .bind (ih.dispatchAt hreg .operand) fun _ => .pure _
  | binary l op left right ihl ihr =>
    intro r hr
    refine .only hr (.bind (ihl.dispatchAt hreg .operand) fun d => .unlessHalted d ?_)
    exact .bind (.append _) fun _ => .bind (ihr.dispatchAt hreg .operand) fun _ => .pure _
  | unmodelled tag l data =>
    intro r hr
    cases r with
    | custom run => cases hr
    | doBlock => exact .mismatch _ _
    | native f => exact .mismatch _ _

/-- A walk does plain things only. -/
theorem plain_walk (hreg : reg.IsBuiltIn) (b : Block) : Plain (walk reg b) :=
  RendersPlainly.walkNodes (fun n _ => rendersPlainly hreg n) hreg

end Render
end LuauLayout
