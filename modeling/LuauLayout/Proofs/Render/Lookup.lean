/-
  LuauLayout.Proofs.Render.Lookup

  Only the entries that a document uses matter.

  A renderer is looked up for every node, in four places: for a single node, for
  an element of a list, for a block among statements, and for the first value of
  an assignment ahead of the ` = `. All look under tags of the document's own
  nodes or under that of the blocks among statements. So two registries that
  agree there make the same of the document, also if entries are missing, or
  stand under the tag of another form, so that nodes are reported or refused.

    * `Registry.AgreeOn` — two registries hold the same for some nodes.
    * `renderWith_congr_of_own` — a renderer either is that of the node's form,
      or does not use the registry.
    * `alike_of_agreeOn` — the induction along the nodes.
    * `reconstruct_eq_of_agree` — documents, and entries put in or taken out.
-/

import LuauLayout.Proofs.Render.Congruence

namespace LuauLayout

/-! ## What is looked up for a tree -/

/-- A property of all nodes of a list and of all nodes below them. -/
theorem Node.forall_mem_occurrencesIn {p : Position} {ns : List Node} {q : Occurrence → Prop} :
    (∀ o ∈ occurrencesIn p ns, q o) ↔ ∀ n ∈ ns, ∀ o ∈ n.occurrences p, q o := by
  induction ns with
  | nil =>
    rw [occurrencesIn]
    simp
  | cons n rest ih => rw [occurrencesIn, List.forall_mem_append, ih, List.forall_mem_cons]

namespace Registry

variable {reg reg' : Registry Renderer}

/-- Two registries hold the same, or both nothing, for every node where it stands. -/
def AgreeOn (reg reg' : Registry Renderer) (os : List Occurrence) : Prop :=
  ∀ o ∈ os, reg.get? (o.node.tagAt o.position) = reg'.get? (o.node.tagAt o.position)

theorem AgreeOn.of_cons {o : Occurrence} {os : List Occurrence} (h : AgreeOn reg reg' (o :: os)) :
    reg.get? (o.node.tagAt o.position) = reg'.get? (o.node.tagAt o.position) ∧
      AgreeOn reg reg' os := List.forall_mem_cons.mp h

theorem AgreeOn.of_append {os qs : List Occurrence} (h : AgreeOn reg reg' (os ++ qs)) :
    AgreeOn reg reg' os ∧ AgreeOn reg reg' qs := List.forall_mem_append.mp h

/-- A tag is the kind of a node, or that of the blocks among statements. -/
theorem agreeOn_of_kinds {os : List Occurrence}
    (hdo : reg.get? Renderer.doBlockTag = reg'.get? Renderer.doBlockTag)
    (h : ∀ o ∈ os, reg.get? o.node.kind = reg'.get? o.node.kind) : AgreeOn reg reg' os := by
  intro o ho
  obtain ⟨p, n⟩ := o
  have hkind : reg.get? n.kind = reg'.get? n.kind := h _ ho
  cases p with
  | operand =>
    rw [n.tagAt_operand]
    exact hkind
  | statement =>
    cases n with
    | block => exact hdo
    | _ => exact hkind

theorem agreeOn_register {os : List Occurrence} {kind : String}
    (h : ∀ o ∈ os, o.node.tagAt o.position ≠ kind) (r : Renderer) :
    AgreeOn (reg.register kind r) reg os := by
  intro o ho
  rw [get?_register, if_neg (h o ho)]

theorem agreeOn_remove {os : List Occurrence} {kind : String}
    (h : ∀ o ∈ os, o.node.tagAt o.position ≠ kind) : AgreeOn (reg.remove kind) reg os := by
  intro o ho
  rw [get?_remove, if_neg (h o ho)]

end Registry

namespace Render

variable {reg reg' : Registry Renderer} {p : Position} {n : Node}

/-! ## Renderers under tags of other forms -/

/-- The renderer of a form refuses every other node. -/
theorem renderWith_native_of_ne {f : Form} (h : n.form? ≠ some f) :
    renderWith reg (.native f) n = mismatch f n := by
  -- the way round in which the branches of the renderer compare the forms
  have hne : ∀ g, n.form? = some g → f ≠ g := by
    rintro g hg rfl
    exact h hg
  cases n with
  | block =>
    cases f with
    | block => exact absurd rfl h
    | _ => rfl
  | unmodelled => rfl
  | atom l a => exact if_neg (hne a.form rfl)
  | localDecl => exact if_neg (hne .localDecl rfl)
  | assign => exact if_neg (hne .assign rfl)
  | ret => exact if_neg (hne .ret rfl)
  | exprStat => exact if_neg (hne .exprStat rfl)
  | indexName => exact if_neg (hne .indexName rfl)
  | group => exact if_neg (hne .group rfl)
  | call => exact if_neg (hne .call rfl)
  | unary => exact if_neg (hne .unary rfl)
  | binary => exact if_neg (hne .binary rfl)

/-- A renderer does the same with two registries if the one for the node's form does, and the one
    for blocks among statements: any other does not use them. -/
theorem renderWith_congr_of_own
    (hown : ∀ f, n.form? = some f →
      renderWith reg (.native f) n = renderWith reg' (.native f) n)
    (hdo : renderWith reg .doBlock n = renderWith reg' .doBlock n) (r : Renderer) :
    renderWith reg r n = renderWith reg' r n := by
  cases r with
  | custom run => cases n <;> rfl
  | doBlock => exact hdo
  | native f =>
    by_cases hf : n.form? = some f
    · exact hown f hf
    · rw [renderWith_native_of_ne hf, renderWith_native_of_ne hf]

/-- Two registries that hold the same for a node make the same of it if every renderer does. -/
theorem Alike.of_entry (h : reg.get? (n.tagAt p) = reg'.get? (n.tagAt p))
    (hr : ∀ r, renderWith reg r n = renderWith reg' r n) : Alike reg reg' p n n := by
  cases hg : reg.get? (n.tagAt p) with
  | none => exact .of_none hg (h ▸ hg)
  | some r => exact .of_some hg (h ▸ hg) (hr r)

theorem Alike.of_own {f : Form} (h : reg.get? (n.tagAt p) = reg'.get? (n.tagAt p))
    (hf : n.form? = some f)
    (hown : renderWith reg (.native f) n = renderWith reg' (.native f) n)
    (hdo : renderWith reg .doBlock n = renderWith reg' .doBlock n) : Alike reg reg' p n n := by
  refine .of_entry h (renderWith_congr_of_own (fun g hg => ?_) hdo)
  rw [hf] at hg
  cases hg
  exact hown

/-! ## Along the nodes -/

theorem thinned_of_agreeOn {ns : List Node}
    (ih : ∀ n ∈ ns, ∀ p, Registry.AgreeOn reg reg' (n.occurrences p) → Alike reg reg' p n n)
    (h : Registry.AgreeOn reg reg' (Node.occurrencesIn p ns)) :
    Thinned (Alike reg reg' p) (Passed reg p) ns ns := by
  have hall := Node.forall_mem_occurrencesIn.mp h
  exact .of_self fun n hn => ih n hn p (hall n hn)

theorem assignValues_eq_of_agreeOn {values : Option (List Node)}
    (ih : ∀ vs ∈ values, ∀ n ∈ vs, ∀ p,
      Registry.AgreeOn reg reg' (n.occurrences p) → Alike reg reg' p n n)
    (h : Registry.AgreeOn reg reg' (Node.occurrencesInValues values)) (t : Dispatch) :
    assignValues reg t values = assignValues reg' t values := by
  cases values with
  | none => rfl
  | some vs =>
    cases vs with
    | nil => rfl
    | cons v rest =>
      obtain ⟨ihv, ihrest⟩ := List.forall_mem_cons.mp (ih _ rfl)
      rw [Node.occurrencesInValues, Node.occurrencesIn] at h
      obtain ⟨hv, hrest⟩ := h.of_append
      exact assignValues_cons_congr (ihv .operand hv) (thinned_of_agreeOn ihrest hrest) t

/-- Two registries that hold the same for a node and all nodes below it make the same of it. -/
theorem alike_of_agreeOn (n : Node) (p : Position)
    (h : Registry.AgreeOn reg reg' (n.occurrences p)) : Alike reg reg' p n n := by
  -- the entry of the node itself may be any renderer, so each case is about the one that its
  -- form has, and the others follow from `renderWith_congr_of_own`
  induction n using Node.induct generalizing p with
  | atom l a =>
    rw [Node.occurrences] at h
    exact .of_own h.of_cons.1 rfl (renderWith_atom_congr (.refl _ l) rfl rfl) rfl
  | block l hasEnd body ih =>
    rw [Node.occurrences] at h
    obtain ⟨hself, hbody⟩ := h.of_cons
    have hwalk := walkNodes_congr (thinned_of_agreeOn ih hbody)
    -- either renderer of blocks may stand under either tag
    exact .of_own hself rfl (renderWith_block_congr hwalk)
      (renderWith_doBlock_congr (.refl _ l) hwalk)
  | localDecl l targets values iht ihv =>
    rw [Node.occurrences] at h
    obtain ⟨hself, hbelow⟩ := h.of_cons
    obtain ⟨ht, hv⟩ := hbelow.of_append
    have htargets := listNodes_congr (thinned_of_agreeOn iht ht) "," false
    have hvalues := assignValues_eq_of_agreeOn ihv hv
    exact .of_own hself rfl (renderWith_localDecl_congr (.refl _ l) htargets hvalues) rfl
  | assign l targets values iht ihv =>
    rw [Node.occurrences] at h
    obtain ⟨hself, hbelow⟩ := h.of_cons
    obtain ⟨ht, hv⟩ := hbelow.of_append
    have htargets := listNodes_congr (thinned_of_agreeOn iht ht) "," false
    have hvalues := assignValues_eq_of_agreeOn ihv hv
    exact .of_own hself rfl (renderWith_assign_congr htargets hvalues) rfl
  | ret l values ih =>
    rw [Node.occurrences] at h
    obtain ⟨hself, hv⟩ := h.of_cons
    have hvalues := listNodes_congr (thinned_of_agreeOn ih hv) "," false
    exact .of_own hself rfl (renderWith_ret_congr (.refl _ l) hvalues) rfl
  | exprStat l e ih =>
    rw [Node.occurrences] at h
    obtain ⟨hself, he⟩ := h.of_cons
    exact .of_own hself rfl (renderWith_exprStat_congr (ih .operand he).dispatchAt_eq) rfl
  | indexName l base name nl op ih =>
    rw [Node.occurrences] at h
    obtain ⟨hself, hbase⟩ := h.of_cons
    exact .of_own hself rfl
      (renderWith_indexName_congr (ih .operand hbase).dispatchAt_eq (Location.rel_eqOn_refl _ nl)) rfl
  | group l e ih =>
    rw [Node.occurrences] at h
    obtain ⟨hself, he⟩ := h.of_cons
    exact .of_own hself rfl (renderWith_group_congr (.refl _ l) (ih .operand he).dispatchAt_eq) rfl
  | call l callee args ihc iha =>
    rw [Node.occurrences] at h
    obtain ⟨hself, hbelow⟩ := h.of_cons
    obtain ⟨hcallee, ha⟩ := hbelow.of_append
    have hargs := listNodes_congr (thinned_of_agreeOn iha ha) "," false
    exact .of_own hself rfl
      (renderWith_call_congr (.refl _ l) (ihc .operand hcallee).dispatchAt_eq hargs) rfl
  | unary l op e ih =>
    rw [Node.occurrences] at h
    obtain ⟨hself, he⟩ := h.of_cons
    exact .of_own hself rfl (renderWith_unary_congr (.refl _ l) (ih .operand he).dispatchAt_eq) rfl
  | binary l op left right ihl ihr =>
    rw [Node.occurrences] at h
    obtain ⟨hself, hbelow⟩ := h.of_cons
    obtain ⟨hleft, hright⟩ := hbelow.of_append
    exact .of_own hself rfl
      (renderWith_binary_congr (ihl .operand hleft).dispatchAt_eq
        (ihr .operand hright).dispatchAt_eq) rfl
  | unmodelled tag l data =>
    -- it has no form, so every renderer of this library refuses it
    rw [Node.occurrences] at h
    refine .of_entry h.of_cons.1 (renderWith_congr_of_own (fun f hf => ?_) rfl)
    cases hf

theorem walk_eq_of_agreeOn {b : Block} (h : reg.AgreeOn reg' b.occurrences) :
    walk reg b = walk reg' b :=
  walkNodes_congr (thinned_of_agreeOn (fun n _ p => alike_of_agreeOn n p) h)

end Render

/-! ## Documents -/

/-- Only the entries that a document uses matter. Two registries that hold the same, or both
    nothing, for the kinds of its nodes and for blocks among statements give the same text and
    outcome with the same reports, or the same failure. So a renderer may be put in, exchanged or
    taken out under any tag under which no node of the document is looked up. -/
theorem reconstruct_eq_of_agree (b : Block) :
    (∀ reg reg' : Registry Renderer,
      reg.get? Renderer.doBlockTag = reg'.get? Renderer.doBlockTag →
      (∀ o ∈ b.occurrences, reg.get? o.node.kind = reg'.get? o.node.kind) →
      reconstruct reg b = reconstruct reg' b) ∧
    ∀ (reg : Registry Renderer) (kind : String),
      (∀ o ∈ b.occurrences, o.node.tagAt o.position ≠ kind) →
      (∀ r, reconstruct (reg.register kind r) b = reconstruct reg b) ∧
        reconstruct (reg.remove kind) b = reconstruct reg b := by
  refine ⟨?_, ?_⟩
  · intro reg reg' hdo hkinds
    exact reconstruct_congr (Render.walk_eq_of_agreeOn (Registry.agreeOn_of_kinds hdo hkinds))
  · intro reg kind hkind
    refine ⟨fun r => ?_, ?_⟩
    · exact reconstruct_congr (Render.walk_eq_of_agreeOn (Registry.agreeOn_register hkind r))
    · exact reconstruct_congr (Render.walk_eq_of_agreeOn (Registry.agreeOn_remove hkind))

/-- Two registries in disarray: one that has the renderer of blocks among statements for blocks
    anywhere and none for variables, and the same with a renderer more and one less. The document
    has neither a `break` nor a call, so both report its variable and lay out its value, a block,
    from `do` to `end`. Nor does any block stand among its statements, so the renderer of those
    may go as well. -/
theorem reconstruct_eq_of_agree_disarrayed :
    let reg := (Registry.standard.register "AstStatBlock" .doBlock).remove "AstLocal"
    let reg' := (reg.register "AstStatBreak" (.native .ret)).remove "AstExprCall"
    let x : Node := .atom ⟨"0,6 - 0,7"⟩ (.binding "x" none)
    let body : Node := .block ⟨"1,0 - 1,3"⟩ true []
    let b : Block := ⟨⟨""⟩, false, [.localDecl ⟨"0,0 - 0,7"⟩ [x] (some [body])]⟩
    reg.get? Renderer.doBlockTag = reg'.get? Renderer.doBlockTag ∧
      (∀ o ∈ b.occurrences, reg.get? o.node.kind = reg'.get? o.node.kind) ∧
      (∀ o ∈ b.occurrences, o.node.tagAt o.position ≠ Renderer.doBlockTag) ∧
      reconstruct reg b = reconstruct reg' b ∧
      reconstruct (reg.remove Renderer.doBlockTag) b = reconstruct reg b ∧
      (reconstruct reg b).2.toOption = some ⟨"local = \ndo end", .incomplete [.ofNode x]⟩ := by
  intro reg reg' x body b
  have hget : ∀ k, k ≠ "AstStatBreak" → k ≠ "AstExprCall" → reg.get? k = reg'.get? k := by
    intro k hbreak hcall
    have hcalls : reg'.get? k = (reg.register "AstStatBreak" (.native .ret)).get? k := by
      rw [Registry.get?_remove, if_neg hcall]
    rw [hcalls, Registry.get?_register, if_neg hbreak]
  have hdo := hget Renderer.doBlockTag (by decide) (by decide)
  have habsent : ∀ o ∈ b.occurrences, o.node.kind ≠ "AstStatBreak" ∧ o.node.kind ≠ "AstExprCall" :=
    by decide +kernel
  have hkinds : ∀ o ∈ b.occurrences, reg.get? o.node.kind = reg'.get? o.node.kind := by
    intro o ho
    obtain ⟨hbreak, hcall⟩ := habsent o ho
    exact hget _ hbreak hcall
  have hblocks : ∀ o ∈ b.occurrences, o.node.tagAt o.position ≠ Renderer.doBlockTag := by
    decide +kernel
  obtain ⟨hagree, hentry⟩ := reconstruct_eq_of_agree b
  exact ⟨hdo, hkinds, hblocks, hagree reg reg' hdo hkinds,
    (hentry reg Renderer.doBlockTag hblocks).2, by decide +kernel⟩

end LuauLayout
