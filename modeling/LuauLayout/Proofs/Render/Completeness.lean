/-
  LuauLayout.Proofs.Render.Completeness

  No unsupported node is passed over in silence.

  A registry from which entries were taken does not support every node. Each
  renderer has its own way with an unsupported child: some stop, some go on, a
  list breaks off, and a block among statements is looked up under another tag.
  Whatever the way, a run that succeeds reports the first unsupported node of
  the tree, and all it reports are unsupported nodes in their order.

    * `Occurrence.isSupported` — whether the registry has a renderer for a node
      where it stands, or the node is a type annotation.
    * `Covers`                 — what was reported, against what there was to
      report.
    * `Reporting`              — the rule for one rendering, with the rule of
      sequencing; `reporting_dispatchAt` is the induction along the nodes.
-/

import LuauLayout.Proofs.Render.Position
import LuauLayout.Render.Reconstruction

namespace LuauLayout

/-- Whether a registry has a renderer for a node where it stands. A type annotation needs none. -/
def Occurrence.isSupported (reg : Registry Renderer) (o : Occurrence) : Bool :=
  reg.has (o.node.tagAt o.position) || isTypeTag o.node.kind

/-- The reports on the nodes that are not supported, in the order of the nodes. -/
def dueReports (reg : Registry Renderer) (os : List Occurrence) : List Unsupported :=
  (os.filter fun o => !o.isSupported reg).map fun o => .ofNode o.node

theorem dueReports_append (reg : Registry Renderer) (xs ys : List Occurrence) :
    dueReports reg (xs ++ ys) = dueReports reg xs ++ dueReports reg ys := by
  rw [dueReports, List.filter_append, List.map_append]
  rfl

theorem dueReports_cons_of_supported {reg : Registry Renderer} {o : Occurrence}
    (h : o.isSupported reg = true) (os : List Occurrence) :
    dueReports reg (o :: os) = dueReports reg os := by
  rw [dueReports, List.filter_cons_of_neg (by simp [h])]
  rfl

theorem dueReports_cons_of_not_supported {reg : Registry Renderer} {o : Occurrence}
    (h : o.isSupported reg = false) (os : List Occurrence) :
    dueReports reg (o :: os) = .ofNode o.node :: dueReports reg os := by
  rw [dueReports, List.filter_cons_of_pos (by simp [h])]
  rfl

theorem dueReports_eq_nil_iff {reg : Registry Renderer} {os : List Occurrence} :
    dueReports reg os = [] ↔ ∀ o ∈ os, o.isSupported reg = true := by
  rw [dueReports, List.map_eq_nil_iff, List.filter_eq_nil_iff]
  simp

/-! ## What was reported, against what there was to report -/

/-- Only what was due was reported, in the same order, and the first was not left out. -/
structure Covers (made due : List Unsupported) : Prop where
  sublist : made.Sublist due
  head?_eq : made.head? = due.head?

namespace Covers

theorem refl (due : List Unsupported) : Covers due due := ⟨List.Sublist.refl _, rfl⟩

theorem append {made made' due due' : List Unsupported} (h : Covers made due)
    (h' : Covers made' due') : Covers (made ++ made') (due ++ due') := by
  refine ⟨h.sublist.append h'.sublist, ?_⟩
  rw [List.head?_append, List.head?_append, h.head?_eq, h'.head?_eq]

/-- Who has reported something may leave the rest unreported. -/
theorem append_right {made due : List Unsupported} (h : Covers made due) (hne : made ≠ [])
    (more : List Unsupported) : Covers made (due ++ more) := by
  refine ⟨h.sublist.trans (List.sublist_append_left due more), ?_⟩
  obtain ⟨u, rest, rfl⟩ := List.exists_cons_of_ne_nil hne
  rw [List.head?_append, ← h.head?_eq]
  rfl

/-- Nothing was reported only if nothing was due. -/
theorem eq_nil_iff {made due : List Unsupported} (h : Covers made due) : made = [] ↔ due = [] := by
  rw [← List.head?_eq_none_iff, h.head?_eq, List.head?_eq_none_iff]

end Covers

namespace Render

variable {α β : Type}

/-- If it succeeds, a rendering has covered what there was to report. -/
def Reporting (m : Render α) (due : List Unsupported) : Prop :=
  ∀ a, m.result = .ok a → Covers (reports m.actions) due

namespace Reporting

theorem of_quiet {m : Render α} (h : reports m.actions = []) : Reporting m [] := by
  intro a _
  rw [h]
  exact .refl []

theorem pure (a : α) : Reporting (Pure.pure a) [] := of_quiet rfl

theorem write (text : String) (place : Coordinate) : Reporting (write text place) [] := of_quiet rfl

theorem append (text : String) : Reporting (append text) [] := of_quiet rfl

theorem ofExcept (r : Except Failure α) : Reporting (ofExcept r) [] := of_quiet rfl

theorem fail (e : Failure) (due : List Unsupported) :
    Reporting (Render.fail e : Render α) due := by
  intro a h
  cases h

/-- A second rendering owes the rest, unless the first has reported something. -/
theorem bind_of_halted {m : Render α} {f : α → Render β} {due more : List Unsupported}
    (hm : Reporting m due)
    (hf : ∀ a, m.result = .ok a →
      Reporting (f a) more ∨ (reports m.actions ≠ [] ∧ Reporting (f a) [])) :
    Reporting (m >>= f) (due ++ more) := by
  intro b hb
  cases hr : m.result with
  | error e =>
    rw [Render.bind_of_error hr] at hb
    cases hb
  | ok a =>
    rw [Render.bind_of_ok hr] at hb ⊢
    rw [reports_append]
    -- either both are covered, or the first has reported and the second has nothing to add
    rcases hf a hr with h | ⟨hne, h⟩
    · exact (hm a hr).append (h b hb)
    · have hnil : reports (f a).actions = [] := (h b hb).eq_nil_iff.mpr rfl
      rw [hnil, List.append_nil]
      exact (hm a hr).append_right hne more

theorem bind {m : Render α} {f : α → Render β} {due more : List Unsupported}
    (hm : Reporting m due) (hf : ∀ a, Reporting (f a) more) :
    Reporting (m >>= f) (due ++ more) :=
  bind_of_halted hm fun a _ => .inl (hf a)

/-- What comes before the reports. -/
theorem bind_quiet {m : Render α} {f : α → Render β} {due : List Unsupported}
    (hm : Reporting m []) (hf : ∀ a, Reporting (f a) due) : Reporting (m >>= f) due :=
  bind hm hf

/-- What comes behind the reports. -/
theorem quiet_bind {m : Render α} {f : α → Render β} {due : List Unsupported}
    (hm : Reporting m due) (hf : ∀ a, Reporting (f a) []) : Reporting (m >>= f) due := by
  have h := bind hm hf
  rwa [List.append_nil] at h

theorem writeAtStart (l : Location) (text : String) : Reporting (writeAtStart l text) [] :=
  bind_quiet (.ofExcept l.start) fun place => .write text place

end Reporting

theorem Reporting.appendIf (due : Bool) (text : String) : Reporting (appendIf due text) [] := by
  cases due
  · exact .pure ()
  · exact .append text

/-! ## Halts -/

/-- A rendering that ends with an unsupported node has reported one. -/
def Telling (m : Render Dispatch) : Prop :=
  m.result = .ok .unsupported → reports m.actions ≠ []

namespace Telling

theorem pure {d : Dispatch} (hd : d ≠ .unsupported) : Telling (Pure.pure d) := by
  intro h
  exact absurd (Except.ok.inj h) hd

/-- The second rendering has to tell, unless the first has reported something. -/
theorem bind_of_halted {m : Render α} {f : α → Render Dispatch}
    (hf : ∀ a, m.result = .ok a → Telling (f a) ∨ reports m.actions ≠ []) :
    Telling (m >>= f) := by
  intro h
  cases hr : m.result with
  | error e =>
    rw [Render.bind_of_error hr] at h
    cases h
  | ok a =>
    rw [Render.bind_of_ok hr] at h ⊢
    rw [reports_append]
    rcases hf a hr with ht | hne
    · exact List.append_ne_nil_of_right_ne_nil _ (ht h)
    · exact List.append_ne_nil_of_left_ne_nil hne _

theorem bind {m : Render α} {f : α → Render Dispatch} (hf : ∀ a, Telling (f a)) :
    Telling (m >>= f) :=
  bind_of_halted fun a _ => .inl (hf a)

theorem dispatchAt (reg : Registry Renderer) (p : Position) (n : Node) :
    Telling (dispatchAt reg p n) := by
  cases hg : reg.get? (n.tagAt p) with
  | some r =>
    rw [dispatchAt_of_some hg]
    exact bind fun _ => pure (by decide)
  | none =>
    cases ht : isTypeTag n.kind with
    | true =>
      rw [dispatchAt_of_ignored hg ht]
      exact pure (by decide)
    | false =>
      rw [dispatchAt_of_unsupported hg ht]
      exact fun _ => List.cons_ne_nil _ _

theorem listNodes (reg : Registry Renderer) (sep : String) (started : Bool) (ns : List Node) :
    Telling (listNodes reg sep started ns) := by
  induction ns generalizing started with
  | nil =>
    rw [Render.listNodes]
    exact pure (by decide)
  | cons n rest ih =>
    cases h : reg.has n.kind with
    | true =>
      rw [listNodes_cons_of_has sep started rest h]
      exact bind fun _ => bind fun _ => ih true
    | false =>
      rw [listNodes_cons_of_not_has sep started rest h]
      refine bind_of_halted fun d hd => ?_
      by_cases hu : d = .unsupported
      · subst hu
        exact .inr (dispatchAt reg .operand n hd)
      · rw [if_neg hu]
        exact .inl (ih started)

end Telling

/-- The rest of a node is owed unless its child halted. -/
theorem Reporting.bind_unlessHalted {m : Render Dispatch} {k : Render Unit}
    {due more : List Unsupported} (hm : Reporting m due) (ht : Telling m)
    (hk : Reporting k more) :
    Reporting (m >>= fun d => unlessHalted d k) (due ++ more) := by
  refine hm.bind_of_halted fun d hd => ?_
  by_cases h : d = .unsupported
  · subst h
    exact .inr ⟨ht hd, .pure ()⟩
  · rw [unlessHalted, if_neg h]
    exact .inl hk

/-! ## Along the nodes -/

variable {reg : Registry Renderer}

/-- An annotation has no nodes below it. -/
theorem occurrences_of_isTypeTag {n : Node} (h : isTypeTag n.kind = true) (p : Position) :
    n.occurrences p = [⟨p, n⟩] := by
  cases n with
  | unmodelled => rw [Node.occurrences]
  | atom l a => exact absurd h (by rw [Node.kind, isTypeTag_tag]; exact Bool.false_ne_true)
  | _ => exact absurd h (by rw [Node.kind, isTypeTag_tag]; exact Bool.false_ne_true)

/-- A node owes its own report, or what its renderer owes for the nodes below it. -/
theorem reporting_of_below (hreg : reg.IsPart) {p : Position} {n : Node}
    {below : List Occurrence} (hbelow : n.occurrences p = ⟨p, n⟩ :: below)
    (hown : ∀ r, n.renderer? p = some r → Reporting (renderWith reg r n) (dueReports reg below)) :
    Reporting (dispatchAt reg p n) (dueReports reg (n.occurrences p)) := by
  cases hg : reg.get? (n.tagAt p) with
  | some r =>
    have hs : (Occurrence.mk p n).isSupported reg = true := by
      simp [Occurrence.isSupported, Registry.has, hg]
    rw [dispatchAt_of_some hg, hbelow, dueReports_cons_of_supported hs]
    exact (hown r (hreg.renderer?_eq hg)).quiet_bind fun _ => .pure _
  | none =>
    cases ht : isTypeTag n.kind with
    | true =>
      have hs : (Occurrence.mk p n).isSupported reg = true := by
        simp [Occurrence.isSupported, ht]
      rw [dispatchAt_of_ignored hg ht, occurrences_of_isTypeTag ht,
        dueReports_cons_of_supported hs]
      exact .pure _
    | false =>
      have hs : (Occurrence.mk p n).isSupported reg = false := by
        simp [Occurrence.isSupported, Registry.has, hg, ht]
      rw [dispatchAt_of_unsupported hg ht, hbelow, dueReports_cons_of_not_supported hs]
      -- the report on the node itself stands in for all that is due below it
      exact fun _ _ => ⟨List.cons_sublist_cons.mpr (List.nil_sublist _), rfl⟩

theorem reporting_of_renderer (hreg : reg.IsPart) {p : Position} {n : Node} {r : Renderer}
    {below : List Occurrence} (hr : n.renderer? p = some r)
    (hbelow : n.occurrences p = ⟨p, n⟩ :: below)
    (hown : Reporting (renderWith reg r n) (dueReports reg below)) :
    Reporting (dispatchAt reg p n) (dueReports reg (n.occurrences p)) := by
  apply reporting_of_below hreg hbelow
  intro r' hr'
  rw [hr] at hr'
  cases hr'
  exact hown

theorem reporting_listNodes {ns : List Node} (sep : String) (started : Bool)
    (h : ∀ n ∈ ns, Reporting (dispatchAt reg .operand n) (dueReports reg (n.occurrences .operand))) :
    Reporting (listNodes reg sep started ns) (dueReports reg (Node.occurrencesIn .operand ns)) := by
  induction ns generalizing started with
  | nil =>
    rw [listNodes, Node.occurrencesIn]
    exact .pure _
  | cons n rest ih =>
    obtain ⟨hn, hrest⟩ := List.forall_mem_cons.mp h
    rw [Node.occurrencesIn, dueReports_append]
    cases hk : reg.has n.kind with
    | true =>
      rw [listNodes_cons_of_has sep started rest hk]
      exact .bind_quiet (.appendIf started sep) fun _ => hn.bind fun _ => ih true hrest
    | false =>
      rw [listNodes_cons_of_not_has sep started rest hk]
      refine hn.bind_of_halted fun d hd => ?_
      -- a node that halts the list has been reported, and so the rest may be left out
      by_cases hu : d = .unsupported
      · subst hu
        exact .inr ⟨Telling.dispatchAt reg .operand n hd, .pure _⟩
      · rw [if_neg hu]
        exact .inl (ih started hrest)

theorem reporting_walkNodes {ns : List Node}
    (h : ∀ n ∈ ns,
      Reporting (dispatchAt reg .statement n) (dueReports reg (n.occurrences .statement))) :
    Reporting (walkNodes reg ns) (dueReports reg (Node.occurrencesIn .statement ns)) := by
  induction ns with
  | nil =>
    rw [walkNodes, Node.occurrencesIn]
    exact .pure _
  | cons n rest ih =>
    obtain ⟨hn, hrest⟩ := List.forall_mem_cons.mp h
    rw [Node.occurrencesIn, dueReports_append, walkNodes_cons]
    refine hn.bind_of_halted fun d hd => ?_
    by_cases hu : d = .unsupported
    · subst hu
      exact .inr ⟨Telling.dispatchAt reg .statement n hd, .pure _⟩
    · rw [if_neg hu]
      exact .inl (ih hrest)

theorem reporting_assignValues (t : Dispatch) {values : Option (List Node)}
    (h : ∀ vs ∈ values, ∀ n ∈ vs,
      Reporting (dispatchAt reg .operand n) (dueReports reg (n.occurrences .operand))) :
    Reporting (assignValues reg t values) (dueReports reg (Node.occurrencesInValues values)) := by
  cases values with
  | none =>
    rw [assignValues, Node.occurrencesInValues]
    exact .pure t
  | some vs =>
    rw [assignValues_some, Node.occurrencesInValues]
    refine .bind_quiet (.appendIf _ _) fun _ => ?_
    exact (reporting_listNodes "," false (h vs rfl)).quiet_bind fun _ => .pure _

/-- Wherever a node stands, a run that succeeds has covered what there is to report of it. -/
theorem reporting_dispatchAt (hreg : reg.IsPart) (n : Node) (p : Position) :
    Reporting (dispatchAt reg p n) (dueReports reg (n.occurrences p)) := by
  induction n using Node.induct generalizing p with
  | atom l a =>
    refine reporting_of_renderer hreg rfl rfl ?_
    rw [renderWith_atom]
    exact .writeAtStart l a.source
  | block l hasEnd body ih =>
    have hbody := reporting_walkNodes fun n hn => ih n hn .statement
    -- a block has two renderers, one for each position
    cases p with
    | statement =>
      refine reporting_of_renderer hreg rfl rfl ?_
      rw [renderWith_doBlock]
      refine .bind_quiet (.ofExcept _) fun span => .bind_quiet (.write _ _) fun _ => ?_
      refine hbody.quiet_bind fun _ => ?_
      cases hasEnd
      · exact .pure ()
      · exact .write "end" span.stop
    | operand =>
      refine reporting_of_renderer hreg rfl rfl ?_
      rw [renderWith_block]
      exact hbody.quiet_bind fun _ => .pure ()
  | localDecl l targets values iht ihv =>
    refine reporting_of_renderer hreg rfl rfl ?_
    have ht := reporting_listNodes "," false fun n hn => iht n hn .operand
    rw [renderWith_localDecl, dueReports_append]
    refine .bind_quiet (.writeAtStart l "local") fun _ => ht.bind fun t => ?_
    exact (reporting_assignValues t fun vs hvs n hn => ihv vs hvs n hn .operand).quiet_bind
      fun _ => .pure ()
  | assign l targets values iht ihv =>
    refine reporting_of_renderer hreg rfl rfl ?_
    have ht := reporting_listNodes "," false fun n hn => iht n hn .operand
    rw [renderWith_assign, dueReports_append]
    refine ht.bind fun t => ?_
    exact (reporting_assignValues t fun vs hvs n hn => ihv vs hvs n hn .operand).quiet_bind
      fun _ => .pure ()
  | ret l values ih =>
    refine reporting_of_renderer hreg rfl rfl ?_
    have hv := reporting_listNodes "," false fun n hn => ih n hn .operand
    rw [renderWith_ret]
    exact .bind_quiet (.writeAtStart l "return") fun _ => hv.quiet_bind fun _ => .pure ()
  | exprStat l e ih =>
    refine reporting_of_renderer hreg rfl rfl ?_
    rw [renderWith_exprStat]
    exact (ih .operand).quiet_bind fun _ => .pure ()
  | indexName l base name nl op ih =>
    refine reporting_of_renderer hreg rfl rfl ?_
    rw [renderWith_indexName, ← List.append_nil (dueReports _ _)]
    refine (ih .operand).bind_unlessHalted (.dispatchAt reg .operand base) ?_
    refine .bind_quiet (.append _) fun _ => ?_
    cases nl with
    | none => exact .append name
    | some nl => exact .writeAtStart nl name
  | group l e ih =>
    refine reporting_of_renderer hreg rfl rfl ?_
    rw [renderWith_group, ← List.append_nil (dueReports _ _)]
    refine .bind_quiet (.ofExcept _) fun span => .bind_quiet (.write _ _) fun _ => ?_
    exact (ih .operand).bind_unlessHalted (.dispatchAt reg .operand e) (.write _ _)
  | call l callee args ihc iha =>
    refine reporting_of_renderer hreg rfl rfl ?_
    have ha := reporting_listNodes "," false fun n hn => iha n hn .operand
    rw [renderWith_call, dueReports_append]
    refine .bind_quiet (.ofExcept _) fun span => ?_
    refine (ihc .operand).bind_unlessHalted (.dispatchAt reg .operand callee) ?_
    refine .bind_quiet (.append "(") fun _ => ?_
    rw [← List.append_nil (dueReports _ _)]
    exact ha.bind_unlessHalted (.listNodes reg "," false args) (.write _ _)
  | unary l op e ih =>
    refine reporting_of_renderer hreg rfl rfl ?_
    rw [renderWith_unary]
    exact .bind_quiet (.writeAtStart l _) fun _ => (ih .operand).quiet_bind fun _ => .pure ()
  | binary l op left right ihl ihr =>
    refine reporting_of_renderer hreg rfl rfl ?_
    rw [renderWith_binary, dueReports_append]
    refine (ihl .operand).bind_unlessHalted (.dispatchAt reg .operand left) ?_
    exact .bind_quiet (.append _) fun _ => (ihr .operand).quiet_bind fun _ => .pure ()
  | unmodelled tag l data =>
    refine reporting_of_below hreg rfl fun r hr => ?_
    -- the one renderer there may be for it refuses it
    have hr : r = .doBlock := by
      rw [Node.renderer?] at hr
      split at hr
      · cases hr
        rfl
      · cases hr
    rw [hr, renderWith_unmodelled]
    exact .fail _ _

/-- The same of a document. -/
theorem reporting_walk (hreg : reg.IsPart) (b : Block) :
    Reporting (walk reg b) (dueReports reg b.occurrences) :=
  reporting_walkNodes fun n _ => reporting_dispatchAt hreg n .statement

end Render

/-- A reconstruction that succeeds has carried out the whole walk. -/
theorem reconstruct_eq_ok_iff {reg : Registry Renderer} {b : Block} {us : List Unsupported}
    {r : Reconstruction} :
    reconstruct reg b = (us, .ok r) ↔
      us = reports (Render.walk reg b).actions ∧ (∃ d, (Render.walk reg b).result = .ok d) ∧
        r = ⟨(Buffer.empty.performAll (Render.walk reg b).actions).render, .ofReports us⟩ := by
  rw [reconstruct, Context.run, Prod.mk.injEq]
  show (reports _ = us ∧ _) ↔ _
  cases (Render.walk reg b).result with
  | error e =>
    constructor
    · rintro ⟨-, h⟩
      cases h
    · rintro ⟨-, ⟨d, h⟩, -⟩
      cases h
  | ok d =>
    constructor
    · rintro ⟨rfl, h⟩
      cases h
      exact ⟨rfl, ⟨d, rfl⟩, rfl⟩
    · rintro ⟨rfl, -, rfl⟩
      exact ⟨rfl, rfl⟩

/-- What a run gives, from its two parts. -/
theorem reconstruct_eq_ok {reg : Registry Renderer} {b : Block} {us : List Unsupported}
    {r : Reconstruction} (hus : (reconstruct reg b).1 = us)
    (hr : (reconstruct reg b).2.toOption = some r) : reconstruct reg b = (us, .ok r) :=
  Prod.ext hus (eq_ok_of_toOption hr)

/-- With any entries taken from the standard registry, a document that is laid out is complete
    exactly when all its nodes are supported. The reports made are those of the outcome; they are
    reports on unsupported nodes of the document in their order, and the first unsupported node
    is among them. -/
theorem complete_iff_supported {reg : Registry Renderer} {kinds : List String}
    (hreg : reg = Registry.standard.removeAll kinds) {b : Block} {us : List Unsupported}
    {r : Reconstruction} (h : reconstruct reg b = (us, .ok r)) :
    (r.outcome = .complete ↔ ∀ o ∈ b.occurrences, o.isSupported reg = true) ∧
      r.outcome.unsupported = us ∧
      (∃ os : List Occurrence, os.Sublist b.occurrences ∧
        (∀ o ∈ os, o.isSupported reg = false) ∧ us = os.map fun o => .ofNode o.node) ∧
      us.head? = (b.occurrences.find? fun o => !o.isSupported reg).map fun o => .ofNode o.node := by
  have hpart : reg.IsPart := hreg ▸ Registry.isPart_standard.removeAll kinds
  obtain ⟨rfl, ⟨d, hd⟩, rfl⟩ := reconstruct_eq_ok_iff.mp h
  have hcovers := Render.reporting_walk hpart b d hd
  refine ⟨?_, Outcome.unsupported_ofReports _, ?_, ?_⟩
  · rw [← dueReports_eq_nil_iff, ← hcovers.eq_nil_iff]
    cases reports (Render.walk reg b).actions <;> simp [Outcome.ofReports]
  · obtain ⟨os, hos, heq⟩ := List.sublist_map_iff.mp hcovers.sublist
    refine ⟨os, hos.trans List.filter_sublist, fun o ho => ?_, heq⟩
    have := (List.mem_filter.mp (hos.subset ho)).2
    simpa using this
  · rw [hcovers.head?_eq, dueReports, List.head?_map, List.head?_filter]

/-- A call with an argument that nobody lays out, and a block behind it for which the renderer has
    been taken away: the call is left open, both are reported, and the block's body is not. -/
theorem complete_iff_supported_without_doBlock :
    let reg := Registry.standard.removeAll ["DoBlock"]
    let table : Node := .unmodelled ⟨"AstExprTable", by decide +kernel⟩ ⟨"0,2 - 0,4"⟩ (.object [])
    let block : Node := .block ⟨"1,0 - 2,0"⟩ true [.unmodelled ⟨"AstStatFor", by decide +kernel⟩ ⟨""⟩ .null]
    let call : Node := .call ⟨"0,0 - 0,5"⟩ (.atom ⟨"0,0 - 0,1"⟩ (.global "f")) [table]
    let b : Block := ⟨⟨"0,0 - 3,0"⟩, false, [.exprStat ⟨""⟩ call, block]⟩
    let us := [Unsupported.ofNode table, .ofNode block]
    let r : Reconstruction := ⟨"f(", .incomplete us⟩
    reconstruct reg b = (us, .ok r) ∧
      (r.outcome = .complete ↔ ∀ o ∈ b.occurrences, o.isSupported reg = true) ∧
      us.head? = (b.occurrences.find? fun o => !o.isSupported reg).map fun o => .ofNode o.node := by
  intro reg table block call b us r
  have hrun : reconstruct reg b = (us, .ok r) :=
    reconstruct_eq_ok (by decide +kernel) (by decide +kernel)
  obtain ⟨hcomplete, -, -, hfirst⟩ := complete_iff_supported rfl hrun
  exact ⟨hrun, hcomplete, hfirst⟩

end LuauLayout
