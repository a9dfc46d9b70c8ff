/-
  LuauLayout.Proofs.Render.Failing

  When laying out a document fails, and with what.

  A rendering fails at the first of its checks that fails, and otherwise it
  succeeds: nothing else can stop it. `Settles` is this rule for one rendering,
  with the rule of sequencing; along the nodes it gives the checks listed in
  `LuauLayout.Proofs.Node.Reading`.

  With the standard registry a check fails in one of two ways. A location that
  has to be read names no span, or an unmodelled node stands under the tag of
  the blocks among statements, so that the renderer of those blocks is handed a
  node that is none.

    * `firstFault`         — the failure of the first check that fails.
    * `Settles`            — a rendering ends as its checks do.
    * `fails_iff_malformed`, `kindMismatch_iff_reached` — the two ways.
-/

import LuauLayout.Proofs.Node.Reading

namespace LuauLayout

/-- The failure that a check gives, if it fails. -/
def Check.fault? : Check → Option Failure
  | .span l =>
    match l.read with
    | .error fault => some (.malformedSpan l fault)
    | .ok _ => none
  | .block tag => some (.kindMismatch Form.block.tag tag)

theorem Check.fault?_span_of_ok {l : Location} {s : Span} (h : l.read = .ok s) :
    (Check.span l).fault? = none := by
  rw [fault?, h]

theorem Check.fault?_span_of_error {l : Location} {fault : SpanFault} (h : l.read = .error fault) :
    (Check.span l).fault? = some (.malformedSpan l fault) := by
  rw [fault?, h]

/-- A location passes exactly when it names a span. -/
theorem Check.fault?_span_eq_none_iff {l : Location} :
    (Check.span l).fault? = none ↔ l.NamesSpan := by
  cases h : l.read with
  | ok s => exact ⟨fun _ => ⟨s, h⟩, fun _ => fault?_span_of_ok h⟩
  | error fault =>
    rw [fault?_span_of_error h]
    constructor
    · intro hn
      cases hn
    · rintro ⟨s, hs⟩
      rw [h] at hs
      cases hs

/-- A location that names no span fails with its fault. -/
theorem Check.fault?_span_eq_some_iff {l : Location} {e : Failure} :
    (Check.span l).fault? = some e ↔ ∃ fault, l.read = .error fault ∧ e = .malformedSpan l fault := by
  cases h : l.read with
  | ok s =>
    rw [fault?_span_of_ok h]
    constructor
    · intro hn
      cases hn
    · rintro ⟨fault, hfault, -⟩
      cases hfault
  | error fault =>
    rw [fault?_span_of_error h]
    constructor
    · rintro ⟨⟩
      exact ⟨fault, rfl, rfl⟩
    · rintro ⟨fault', hfault, rfl⟩
      cases hfault
      rfl

/-- The failure of the first check that fails. -/
def firstFault (cs : List Check) : Option Failure := cs.findSome? Check.fault?

theorem firstFault_append (cs ds : List Check) :
    firstFault (cs ++ ds) = (firstFault cs).or (firstFault ds) := List.findSome?_append

namespace Render

variable {α β : Type}

/-- A rendering fails at the first of some checks that fails, and otherwise it ends with a value
    that has a given property. -/
def Settles (m : Render α) (cs : List Check) (post : α → Prop) : Prop :=
  match firstFault cs with
  | some e => m.result = .error e
  | none => ∃ a, m.result = .ok a ∧ post a

namespace Settles

theorem of_ok {m : Render α} {a : α} {post : α → Prop} (h : m.result = .ok a) (ha : post a) :
    Settles m [] post := ⟨a, h, ha⟩

theorem of_unit {m : Render Unit} (h : m.result = .ok ()) : Settles m [] fun _ => True :=
  of_ok h trivial

theorem pure {a : α} {post : α → Prop} (h : post a) : Settles (Pure.pure a) [] post := of_ok rfl h

theorem append (text : String) : Settles (Render.append text) [] fun _ => True := of_unit rfl

theorem write (text : String) (place : Coordinate) :
    Settles (Render.write text place) [] fun _ => True := of_unit rfl

theorem appendIf (due : Bool) (text : String) :
    Settles (Render.appendIf due text) [] fun _ => True := by
  cases due
  · exact pure trivial
  · exact append text

/-- The checks of a second rendering come behind those of the first. -/
theorem bind {m : Render α} {f : α → Render β} {cs ds : List Check} {mid : α → Prop}
    {post : β → Prop} (hm : Settles m cs mid) (hf : ∀ a, mid a → Settles (f a) ds post) :
    Settles (m >>= f) (cs ++ ds) post := by
  unfold Settles at hm hf ⊢
  rw [firstFault_append]
  cases hc : firstFault cs with
  | some e =>
    rw [hc] at hm
    have he : m.result = .error e := hm
    rw [bind_of_error he]
    exact rfl
  | none =>
    rw [hc] at hm
    obtain ⟨a, ha, hmid⟩ := hm
    rw [bind_of_ok ha]
    exact hf a hmid

/-- What comes before without a check. -/
theorem first {m : Render α} {f : α → Render β} {cs : List Check} {mid : α → Prop} {post : β → Prop}
    (hm : Settles m [] mid) (hf : ∀ a, mid a → Settles (f a) cs post) :
    Settles (m >>= f) cs post := bind hm hf

/-- What comes behind without a check. -/
theorem last {m : Render α} {f : α → Render β} {cs : List Check} {mid : α → Prop} {post : β → Prop}
    (hm : Settles m cs mid) (hf : ∀ a, mid a → Settles (f a) [] post) :
    Settles (m >>= f) cs post := by
  have h := bind hm hf
  rwa [List.append_nil] at h

theorem span (l : Location) :
    Settles (ofExcept l.span) [.span l] fun s => l.read = .ok s := by
  unfold Settles
  rw [firstFault, List.findSome?_singleton]
  cases h : l.read with
  | ok s =>
    rw [Check.fault?_span_of_ok h]
    exact ⟨s, by rw [ofExcept, Location.span, h]; rfl, rfl⟩
  | error fault =>
    rw [Check.fault?_span_of_error h]
    show l.span = _
    rw [Location.span, h]
    rfl

theorem fail (tag : String) :
    Settles (Render.fail (.kindMismatch Form.block.tag tag) : Render α) [.block tag]
      fun _ => True := rfl

theorem writeAtStart (l : Location) (text : String) :
    Settles (Render.writeAtStart l text) [.span l] fun _ => True := by
  unfold Settles
  rw [firstFault, List.findSome?_singleton]
  cases h : l.read with
  | ok s =>
    rw [Check.fault?_span_of_ok h]
    refine ⟨(), ?_, trivial⟩
    have hs : (ofExcept l.start).result = .ok s.start := by
      rw [ofExcept, Location.start, Location.span, h]
      rfl
    rw [Render.writeAtStart, bind_of_ok hs]
    rfl
  | error fault =>
    rw [Check.fault?_span_of_error h]
    have hs : (ofExcept l.start).result = .error (.malformedSpan l fault) := by
      rw [ofExcept, Location.start, Location.span, h]
      rfl
    show (Render.writeAtStart l text).result = _
    rw [Render.writeAtStart, bind_of_error hs]

theorem unlessHalted {d : Dispatch} {k : Render Unit} {cs : List Check}
    (hk : d ≠ .unsupported → Settles k cs fun _ => True) :
    Settles (unlessHalted d k) (if d = .unsupported then [] else cs) fun _ => True := by
  by_cases h : d = .unsupported
  · rw [Render.unlessHalted, if_pos h, if_pos h]
    exact pure trivial
  · rw [Render.unlessHalted, if_neg h, if_neg h]
    exact hk h

theorem unlessHalted_nil {d : Dispatch} {k : Render Unit} (hk : Settles k [] fun _ => True) :
    Settles (Render.unlessHalted d k) [] fun _ => True := by
  have h := unlessHalted (d := d) fun _ => hk
  rwa [ite_self] at h

end Settles

/-! ## Along the nodes -/

/-- A node with a renderer settles as that renderer does. -/
theorem settles_of_renderer {p : Position} {n : Node} {r : Renderer} {cs : List Check}
    (hr : n.renderer? p = some r)
    (hown : Settles (renderWith .standard r n) cs fun _ => True) :
    Settles (dispatchAt .standard p n) cs (· = n.fate) := by
  have hg : Registry.standard.get? (n.tagAt p) = some r := by
    rw [Registry.get?_standard_tagAt, hr]
  rw [dispatchAt_of_some hg, Node.fate_of_renderer? hr]
  exact hown.last fun _ _ => .pure rfl

/-- A node without a renderer is passed over or reported, and nothing is checked. -/
theorem settles_of_no_renderer {p : Position} {n : Node} (hr : n.renderer? p = none) :
    Settles (dispatchAt .standard p n) [] (· = n.fate) := by
  have hg : Registry.standard.get? (n.tagAt p) = none := by
    rw [Registry.get?_standard_tagAt, hr]
  rw [Node.fate_of_no_renderer hr]
  cases ht : isTypeTag n.kind with
  | true =>
    rw [dispatchAt_of_ignored hg ht]
    exact .pure rfl
  | false =>
    rw [dispatchAt_of_unsupported hg ht]
    exact .first (.of_unit rfl) fun _ _ => .pure rfl

theorem settles_listNodes {ns : List Node} (sep : String) (started : Bool)
    (h : ∀ n ∈ ns,
      Settles (dispatchAt .standard .operand n) (n.checks .operand) (· = n.fate)) :
    Settles (listNodes .standard sep started ns) (Node.checksIn .operand ns) fun _ => True := by
  induction ns generalizing started with
  | nil =>
    rw [listNodes, Node.checksIn]
    exact .pure trivial
  | cons n rest ih =>
    obtain ⟨hn, hrest⟩ := List.forall_mem_cons.mp h
    rw [Node.checksIn]
    cases hk : Registry.standard.has n.kind with
    | true =>
      -- whoever has a renderer does not halt the list
      have hfate : n.fate = .rendered := by
        rw [Registry.has, ← n.tagAt_operand, Registry.get?_standard_tagAt] at hk
        obtain ⟨r, hr⟩ := Option.isSome_iff_exists.mp hk
        exact Node.fate_of_renderer? hr
      rw [listNodes_cons_of_has sep started rest hk, hfate, if_neg (by decide)]
      exact .first (.appendIf started sep) fun _ _ => hn.bind fun _ _ => ih true hrest
    | false =>
      rw [listNodes_cons_of_not_has sep started rest hk]
      refine hn.bind fun d hd => ?_
      subst hd
      by_cases hu : n.fate = .unsupported
      · rw [if_pos hu, if_pos hu]
        exact .pure trivial
      · rw [if_neg hu, if_neg hu]
        exact ih started hrest

theorem settles_walkNodes {ns : List Node}
    (h : ∀ n ∈ ns,
      Settles (dispatchAt .standard .statement n) (n.checks .statement) (· = n.fate)) :
    Settles (walkNodes .standard ns) (Node.checksIn .statement ns) fun _ => True := by
  induction ns with
  | nil =>
    rw [walkNodes, Node.checksIn]
    exact .pure trivial
  | cons n rest ih =>
    obtain ⟨hn, hrest⟩ := List.forall_mem_cons.mp h
    rw [Node.checksIn, walkNodes_cons]
    refine hn.bind fun d hd => ?_
    subst hd
    by_cases hu : n.fate = .unsupported
    · rw [if_pos hu, if_pos hu]
      exact .pure trivial
    · rw [if_neg hu, if_neg hu]
      exact ih hrest

theorem settles_assignValues (t : Dispatch) {values : Option (List Node)}
    (h : ∀ vs ∈ values, ∀ n ∈ vs,
      Settles (dispatchAt .standard .operand n) (n.checks .operand) (· = n.fate)) :
    Settles (assignValues .standard t values) (Node.checksInValues values) fun _ => True := by
  cases values with
  | none =>
    rw [assignValues, Node.checksInValues]
    exact .pure trivial
  | some vs =>
    rw [assignValues_some, Node.checksInValues]
    refine .first (.appendIf _ _) fun _ _ => ?_
    exact (settles_listNodes "," false (h vs rfl)).last fun _ _ => .pure trivial

/-- Wherever a node stands, laying it out ends as its checks do. -/
theorem settles_dispatchAt (n : Node) (p : Position) :
    Settles (dispatchAt .standard p n) (n.checks p) (· = n.fate) := by
  induction n using Node.induct generalizing p with
  | atom l a =>
    refine settles_of_renderer rfl ?_
    rw [renderWith_atom, Node.checks]
    exact .writeAtStart l a.source
  | block l hasEnd body ih =>
    have hbody := settles_walkNodes fun n hn => ih n hn .statement
    -- the location is read for a block among statements only
    cases p with
    | statement =>
      refine settles_of_renderer rfl ?_
      rw [renderWith_doBlock, Node.checks]
      refine .bind (.span l) fun span _ => .first (.write _ _) fun _ _ => ?_
      refine hbody.last fun _ _ => ?_
      cases hasEnd
      · exact .pure trivial
      · exact .write "end" span.stop
    | operand =>
      refine settles_of_renderer rfl ?_
      rw [renderWith_block, Node.checks]
      exact hbody.last fun _ _ => .pure trivial
  | localDecl l targets values iht ihv =>
    refine settles_of_renderer rfl ?_
    have ht := settles_listNodes "," false fun n hn => iht n hn .operand
    rw [renderWith_localDecl, Node.checks]
    refine .bind (.writeAtStart l "local") fun _ _ => ht.bind fun t _ => ?_
    exact (settles_assignValues t fun vs hvs n hn => ihv vs hvs n hn .operand).last
      fun _ _ => .pure trivial
  | assign l targets values iht ihv =>
    refine settles_of_renderer rfl ?_
    have ht := settles_listNodes "," false fun n hn => iht n hn .operand
    rw [renderWith_assign, Node.checks]
    refine ht.bind fun t _ => ?_
    exact (settles_assignValues t fun vs hvs n hn => ihv vs hvs n hn .operand).last
      fun _ _ => .pure trivial
  | ret l values ih =>
    refine settles_of_renderer rfl ?_
    have hv := settles_listNodes "," false fun n hn => ih n hn .operand
    rw [renderWith_ret, Node.checks]
    exact .bind (.writeAtStart l "return") fun _ _ => hv.last fun _ _ => .pure trivial
  | exprStat l e ih =>
    refine settles_of_renderer rfl ?_
    rw [renderWith_exprStat, Node.checks]
    exact (ih .operand).last fun _ _ => .pure trivial
  | indexName l base name nl op ih =>
    -- its own location is not read; that of its name is, behind the base
    refine settles_of_renderer rfl ?_
    rw [renderWith_indexName, Node.checks]
    refine (ih .operand).bind fun d hd => ?_
    subst hd
    refine .unlessHalted fun _ => .first (.append _) fun _ _ => ?_
    cases nl with
    | none => exact .append name
    | some nl => exact .writeAtStart nl name
  | group l e ih =>
    refine settles_of_renderer rfl ?_
    rw [renderWith_group, Node.checks]
    refine .bind (.span l) fun span _ => .first (.write _ _) fun _ _ => ?_
    refine (ih .operand).last fun d _ => ?_
    exact .unlessHalted_nil (.write ")" span.last)
  | call l callee args ihc iha =>
    refine settles_of_renderer rfl ?_
    have ha := settles_listNodes "," false fun n hn => iha n hn .operand
    rw [renderWith_call, Node.checks]
    refine .bind (.span l) fun span _ => (ihc .operand).bind fun d hd => ?_
    subst hd
    refine .unlessHalted fun _ => .first (.append "(") fun _ _ => ha.last fun d _ => ?_
    exact .unlessHalted_nil (.write ")" span.last)
  | unary l op e ih =>
    refine settles_of_renderer rfl ?_
    rw [renderWith_unary, Node.checks]
    exact .bind (.writeAtStart l _) fun _ _ => (ih .operand).last fun _ _ => .pure trivial
  | binary l op left right ihl ihr =>
    refine settles_of_renderer rfl ?_
    rw [renderWith_binary, Node.checks]
    refine (ihl .operand).bind fun d hd => ?_
    subst hd
    refine .unlessHalted fun _ => .first (.append _) fun _ _ => ?_
    exact (ihr .operand).last fun _ _ => .pure trivial
  | unmodelled tag l data =>
    rw [Node.checks]
    by_cases ht : tag.text = Renderer.doBlockTag
    · have hr : (Node.unmodelled tag l data).renderer? p = some .doBlock := by
        cases p <;> exact if_pos ht
      rw [if_pos ht]
      refine settles_of_renderer hr ?_
      rw [renderWith_unmodelled]
      exact .fail tag.text
    · have hr : (Node.unmodelled tag l data).renderer? p = none := by
        cases p <;> exact if_neg ht
      rw [if_neg ht]
      exact settles_of_no_renderer hr

/-- Laying out a document ends as its checks do. -/
theorem settles_walk (b : Block) : Settles (walk .standard b) b.checks fun _ => True :=
  settles_walkNodes fun n _ => settles_dispatchAt n .statement

end Render

/-! ## Documents -/

theorem reconstruct_snd (reg : Registry Renderer) (b : Block) : (reconstruct reg b).2 =
    (Render.walk reg b).result.map fun _ => (Context.empty.run (Render.walk reg b)).1.finish := rfl

/-- A document fails with the failure of its first check that fails. -/
theorem reconstruct_eq_error_iff {b : Block} {e : Failure} :
    (reconstruct .standard b).2 = .error e ↔ firstFault b.checks = some e := by
  have h := Render.settles_walk b
  unfold Render.Settles at h
  rw [reconstruct_snd]
  cases hc : firstFault b.checks with
  | some e' =>
    rw [hc] at h
    have hw : (Render.walk .standard b).result = .error e' := h
    rw [hw]
    constructor
    · rintro ⟨⟩
      rfl
    · rintro ⟨⟩
      rfl
  | none =>
    rw [hc] at h
    obtain ⟨d, hd, -⟩ := h
    rw [hd]
    constructor
    · intro he
      cases he
    · intro he
      cases he

/-- What fails among locations is the first that names no span. -/
theorem firstFault_spans_eq_some_iff {ls : List Location} {e : Failure} :
    firstFault (ls.map .span) = some e ↔ ∃ before l after fault,
      ls = before ++ l :: after ∧ (∀ k ∈ before, k.NamesSpan) ∧ l.read = .error fault ∧
        e = .malformedSpan l fault := by
  rw [firstFault, List.findSome?_map, List.findSome?_eq_some_iff]
  constructor
  · rintro ⟨before, l, after, rfl, hl, hbefore⟩
    obtain ⟨fault, hr, rfl⟩ := Check.fault?_span_eq_some_iff.mp hl
    have hbefore : ∀ k ∈ before, k.NamesSpan := fun k hk =>
      Check.fault?_span_eq_none_iff.mp (hbefore k hk)
    exact ⟨before, l, after, fault, rfl, hbefore, hr, rfl⟩
  · rintro ⟨before, l, after, fault, rfl, hbefore, hl, rfl⟩
    refine ⟨before, l, after, rfl, Check.fault?_span_of_error hl, fun k hk => ?_⟩
    exact Check.fault?_span_eq_none_iff.mpr (hbefore k hk)

theorem Occurrence.fate_ne_of_isSupported {o : Occurrence}
    (h : o.isSupported .standard = true) : o.node.fate ≠ .unsupported := by
  rw [isSupported, Registry.has, Registry.get?_standard_tagAt] at h
  cases hr : o.node.renderer? o.position with
  | some r =>
    rw [Node.fate_of_renderer? hr]
    decide
  | none =>
    rw [hr] at h
    rw [Node.fate_of_no_renderer hr, if_pos (by simpa using h)]
    decide

/-- Of a document without a node under the tag of blocks among statements: it is laid out if all
    its locations that have to be read name spans, it fails with nothing but one of them that
    does not, and if all its nodes are supported it fails with the first of them that does not. -/
theorem fails_iff_malformed {b : Block}
    (hb : ∀ o ∈ b.occurrences, o.node.kind ≠ Renderer.doBlockTag) :
    ((∀ l ∈ b.mustRead, l.NamesSpan) → ∃ r, (reconstruct .standard b).2 = .ok r) ∧
    (∀ e, (reconstruct .standard b).2 = .error e →
      ∃ l ∈ b.mustRead, ∃ fault, l.read = .error fault ∧ e = .malformedSpan l fault) ∧
    ((∀ o ∈ b.occurrences, o.isSupported .standard = true) →
      ((∃ e, (reconstruct .standard b).2 = .error e) ↔ ∃ l ∈ b.mustRead, ¬l.NamesSpan) ∧
      ∀ e, (reconstruct .standard b).2 = .error e ↔ ∃ before l after fault,
        b.mustRead = before ++ l :: after ∧ (∀ k ∈ before, k.NamesSpan) ∧
          l.read = .error fault ∧ e = .malformedSpan l fault) := by
  have hfollows := b.follows_checks
  have hfault : ∀ e, (reconstruct .standard b).2 = .error e →
      ∃ l ∈ b.mustRead, ∃ fault, l.read = .error fault ∧ e = .malformedSpan l fault := by
    intro e he
    rw [reconstruct_eq_error_iff, firstFault] at he
    obtain ⟨c, hc, hce⟩ := List.exists_of_findSome?_eq_some he
    -- a check of the other kind needs a node that is excluded
    cases c with
    | span l =>
      obtain ⟨fault, hr, rfl⟩ := Check.fault?_span_eq_some_iff.mp hce
      exact ⟨l, hfollows.mem_of_span l hc, fault, hr, rfl⟩
    | block tag =>
      obtain ⟨-, o, ho, hk⟩ := hfollows.exists_of_block tag hc
      exact absurd hk (hb o ho)
  have hok : (∀ l ∈ b.mustRead, l.NamesSpan) → ∃ r, (reconstruct .standard b).2 = .ok r := by
    intro hall
    cases hr : (reconstruct .standard b).2 with
    | ok r => exact ⟨r, rfl⟩
    | error e =>
      obtain ⟨l, hl, fault, hfault, -⟩ := hfault e hr
      obtain ⟨s, hs⟩ := hall l hl
      cases hfault.symm.trans hs
  refine ⟨hok, hfault, fun hsupported => ?_⟩
  -- nothing is cut off, so that the checks are the locations themselves
  have hchecks : b.checks = b.mustRead.map .span :=
    hfollows.eq_of_plain fun o ho =>
      ⟨Occurrence.fate_ne_of_isSupported (hsupported o ho), hb o ho⟩
  have hfirst : ∀ e, (reconstruct .standard b).2 = .error e ↔ ∃ before l after fault,
      b.mustRead = before ++ l :: after ∧ (∀ k ∈ before, k.NamesSpan) ∧
        l.read = .error fault ∧ e = .malformedSpan l fault := by
    intro e
    rw [reconstruct_eq_error_iff, hchecks, firstFault_spans_eq_some_iff]
  refine ⟨⟨?_, ?_⟩, hfirst⟩
  · rintro ⟨e, he⟩
    obtain ⟨l, hl, fault, hr, -⟩ := hfault e he
    refine ⟨l, hl, ?_⟩
    rintro ⟨s, hs⟩
    cases hr.symm.trans hs
  · rintro ⟨l, hl, hnot⟩
    cases hc : firstFault b.checks with
    | some e => exact ⟨e, reconstruct_eq_error_iff.mpr hc⟩
    | none =>
      rw [hchecks, firstFault, List.findSome?_map, List.findSome?_eq_none_iff] at hc
      exact absurd (Check.fault?_span_eq_none_iff.mp (hc l hl)) hnot

/-- A call whose callee names its member at half a location, with an argument that stands nowhere:
    the half location is the first that fails, and that of the statement is not read at all. -/
theorem fails_iff_malformed_at_member :
    let callee : Node :=
      .indexName ⟨"0,0 - 0,3"⟩ (.atom ⟨"0,0 - 0,1"⟩ (.global "t")) "f" (some ⟨"0,2"⟩) none
    let call : Node := .call ⟨"0,0 - 0,8"⟩ callee [.atom ⟨"nowhere"⟩ .nil]
    let b : Block := ⟨⟨"0,0 - 1,0"⟩, false, [.exprStat ⟨"?"⟩ call]⟩
    (∀ o ∈ b.occurrences, o.node.kind ≠ Renderer.doBlockTag) ∧
      (∀ o ∈ b.occurrences, o.isSupported .standard = true) ∧
      (reconstruct .standard b).2 = .error (.malformedSpan ⟨"0,2"⟩ .noDash) := by
  intro callee call b
  have hb : ∀ o ∈ b.occurrences, o.node.kind ≠ Renderer.doBlockTag := by decide +kernel
  have hs : ∀ o ∈ b.occurrences, o.isSupported .standard = true := by decide +kernel
  obtain ⟨-, -, hfirst⟩ := fails_iff_malformed hb
  refine ⟨hb, hs, ((hfirst hs).2 _).mpr ?_⟩
  have hcall : (Location.mk "0,0 - 0,8").NamesSpan := ⟨⟨⟨0, 0⟩, ⟨0, 8⟩⟩, by decide +kernel⟩
  have hbase : (Location.mk "0,0 - 0,1").NamesSpan := ⟨⟨⟨0, 0⟩, ⟨0, 1⟩⟩, by decide +kernel⟩
  refine ⟨[⟨"0,0 - 0,8"⟩, ⟨"0,0 - 0,1"⟩], ⟨"0,2"⟩, [⟨"nowhere"⟩], .noDash, rfl, ?_,
    by decide +kernel, rfl⟩
  simp [hcall, hbase]

/-- With the standard registry, a renderer is handed a node of another form exactly when an
    unmodelled node under the tag of the blocks among statements is reached before any check has
    failed; it is then the renderer of those blocks. -/
theorem kindMismatch_iff_reached (b : Block) (expected found : String) :
    (reconstruct .standard b).2 = .error (.kindMismatch expected found) ↔
      expected = Form.block.tag ∧ found = Renderer.doBlockTag ∧
        ∃ before after, b.checks = before ++ .block Renderer.doBlockTag :: after ∧
          ∀ c ∈ before, c.fault? = none := by
  rw [reconstruct_eq_error_iff, firstFault, List.findSome?_eq_some_iff]
  constructor
  · rintro ⟨before, c, after, hchecks, hc, hbefore⟩
    cases c with
    | span l =>
      obtain ⟨fault, -, he⟩ := Check.fault?_span_eq_some_iff.mp hc
      cases he
    | block tag =>
      obtain ⟨rfl, -⟩ := b.follows_checks.exists_of_block tag (by simp [hchecks])
      cases hc
      exact ⟨rfl, rfl, before, after, hchecks, hbefore⟩
  · rintro ⟨rfl, rfl, before, after, hchecks, hbefore⟩
    exact ⟨before, _, after, hchecks, rfl, hbefore⟩

/-- A dump with a statement under the tag of the blocks among statements is read, and the standard
    registry hands that statement to the wrong renderer. -/
theorem exists_dump_kindMismatch : ∃ text b, Block.ofText text = .ok b ∧
    (reconstruct .standard b).2 = .error (.kindMismatch "AstStatBlock" "DoBlock") := by
  let text :=
    "\x7b\"type\":\"AstStatBlock\",\"location\":\"\",\"body\":[\x7b\"type\":\"DoBlock\"\x7d]\x7d"
  -- nodes have no decidable equality, so what is evaluated is whether the first check refuses
  have hrun : ((Block.ofText text).toOption.bind fun b => b.checks.head?.map fun
      | .block tag => tag == "DoBlock"
      | .span _ => false) = some true := by decide +kernel
  cases ht : Block.ofText text with
  | error e =>
    rw [ht] at hrun
    cases hrun
  | ok b =>
    refine ⟨text, b, ht, reconstruct_eq_error_iff.mpr ?_⟩
    rw [ht] at hrun
    obtain ⟨c, hc, hrefused⟩ := Option.map_eq_some_iff.mp hrun
    obtain ⟨cs, hcs⟩ := List.head?_eq_some_iff.mp hc
    rw [hcs]
    cases c with
    | span l => cases hrefused
    | block tag =>
      have htag : tag = "DoBlock" := by simpa using hrefused
      rw [htag]
      rfl

end LuauLayout
