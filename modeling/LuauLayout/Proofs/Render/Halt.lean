/-
  LuauLayout.Proofs.Render.Halt

  A halt is local to its own sequence.

  The statements of a body are walked over one by one. The first for which the
  registry has no renderer is reported and ends the walk, so that what stands
  behind it plays no part. Nothing else ends it but a failure: a list, an
  expression or a block below a statement may halt, and the next statement is
  laid out all the same, also the `end` of a block whose body has halted.

    * `Node.isUnsupportedStatement` — the statement ends the walk over its body.
    * `walkNodes_cons_of_supported` — any other statement is followed by the rest.
    * `walkNodes_append_of_unsupported` — the walk up to the one that ends it.
    * `walkNodes_eq_forM` — a walk without one: all statements, in order.
    * `walkNodes_of_supported` — what it does is what they do one by one.
    * `walk_halts_locally` — the walk over a block.
-/

import LuauLayout.Proofs.Render.Blindness

namespace LuauLayout

/-- Nobody lays the statement out: it is a block and there is no renderer for blocks among
    statements, or there is none for its tag, and it is no type annotation. -/
def Node.isUnsupportedStatement (reg : Registry Renderer) : Node → Bool
  | .block .. => !reg.has Renderer.doBlockTag
  | n => !reg.has n.kind && !isTypeTag n.kind

/-- A block is looked up under the tag of blocks among statements, and it is no annotation. -/
theorem Node.isUnsupportedStatement_eq (reg : Registry Renderer) (n : Node) :
    n.isUnsupportedStatement reg = (!reg.has (n.tagAt .statement) && !isTypeTag n.kind) := by
  cases n with
  | block l hasEnd body =>
    have hkind : isTypeTag (Node.block l hasEnd body).kind = false := isTypeTag_tag .block
    rw [hkind, Bool.not_false, Bool.and_true]
    rfl
  | _ => rfl

namespace Render

variable {α β : Type}

/-! ## Runs of two renderings -/

/-- What comes second matters only for the values that the first can end with. -/
theorem bind_congr_of_ok {m : Render α} {f g : α → Render β}
    (h : ∀ a, m.result = .ok a → f a = g a) : (m >>= f) = (m >>= g) := by
  cases hm : m.result with
  | error e => rw [bind_of_error hm, bind_of_error hm]
  | ok a => rw [bind_of_ok hm, bind_of_ok hm, h a hm]

/-- If both succeed, the second has begun where the first ended. -/
theorem exists_of_bind_ok {m : Render α} {f : α → Render β} {b : β}
    (h : (m >>= f).result = .ok b) :
    ∃ a, m.result = .ok a ∧ (f a).result = .ok b ∧
      (m >>= f).actions = m.actions ++ (f a).actions := by
  cases hm : m.result with
  | error e =>
    rw [bind_of_error hm] at h
    cases h
  | ok a =>
    rw [bind_of_ok hm] at h
    refine ⟨a, rfl, h, ?_⟩
    rw [bind_of_ok hm]

/-! ## Statements -/

variable {reg : Registry Renderer} {n : Node}

theorem dispatchAt_of_isUnsupportedStatement (h : n.isUnsupportedStatement reg = true) :
    dispatchAt reg .statement n = (do report n; return .unsupported) := by
  rw [Node.isUnsupportedStatement_eq, Bool.and_eq_true, Bool.not_eq_true', Bool.not_eq_true'] at h
  obtain ⟨hhas, htype⟩ := h
  exact dispatchAt_of_unsupported (Registry.has_eq_false_iff.mp hhas) htype

/-- Any other statement does not halt its body, whatever halts below it. -/
theorem ne_unsupported_of_supported (h : n.isUnsupportedStatement reg = false) {d : Dispatch}
    (hd : (dispatchAt reg .statement n).result = .ok d) : d ≠ .unsupported := by
  cases hg : reg.get? (n.tagAt .statement) with
  | some r =>
    -- the result of the renderer is dropped: what has halted in it stays below the statement
    rw [dispatchAt_of_some hg] at hd
    obtain ⟨a, -, hrendered, -⟩ := exists_of_bind_ok hd
    cases hrendered
    decide
  | none =>
    have htype : isTypeTag n.kind = true := by
      rw [Node.isUnsupportedStatement_eq, Registry.has, hg] at h
      simpa using h
    rw [dispatchAt_of_ignored hg htype] at hd
    cases hd
    decide

/-- A supported statement, walked over in a body of its own. -/
theorem walkNodes_singleton_of_supported (h : n.isUnsupportedStatement reg = false) :
    walkNodes reg [n] = (do let _ ← dispatchAt reg .statement n; return .rendered) := by
  rw [walkNodes_cons]
  refine bind_congr_of_ok fun d hd => ?_
  rw [if_neg (ne_unsupported_of_supported h hd), walkNodes]

/-- It is followed by the rest of the body, unless it fails. -/
theorem walkNodes_cons_of_supported (h : n.isUnsupportedStatement reg = false)
    (rest : List Node) :
    walkNodes reg (n :: rest) = (do let _ ← walkNodes reg [n]; walkNodes reg rest) := by
  rw [walkNodes_cons, walkNodes_singleton_of_supported h, bind_assoc]
  refine bind_congr_of_ok fun d hd => ?_
  rw [if_neg (ne_unsupported_of_supported h hd), pure_bind]

/-- A walk over supported statements hands on each of them, in order, whatever becomes of it. -/
theorem walkNodes_eq_forM {ns : List Node} (h : ∀ n ∈ ns, n.isUnsupportedStatement reg = false) :
    walkNodes reg ns = (do
      ns.forM fun n => do
        let _ ← dispatchAt reg .statement n
      return .rendered) := by
  induction ns with
  | nil => rfl
  | cons n rest ih =>
    obtain ⟨hn, hrest⟩ := List.forall_mem_cons.mp h
    rw [walkNodes_cons_of_supported hn, walkNodes_singleton_of_supported hn, ih hrest]
    simp only [List.forM_eq_forM, List.forM_cons, bind_assoc, pure_bind]

/-- A walk over supported statements that does not fail goes over all of them, in order, and each
    does what it does in a body of its own. -/
theorem walkNodes_of_supported {ns : List Node}
    (h : ∀ n ∈ ns, n.isUnsupportedStatement reg = false) {d : Dispatch}
    (hd : (walkNodes reg ns).result = .ok d) :
    d = .rendered ∧
      (walkNodes reg ns).actions = ns.flatMap (fun n => (walkNodes reg [n]).actions) ∧
      ∀ n ∈ ns, (walkNodes reg [n]).result = .ok .rendered := by
  induction ns with
  | nil =>
    rw [walkNodes] at hd ⊢
    cases hd
    exact ⟨rfl, rfl, fun n hn => absurd hn List.not_mem_nil⟩
  | cons n rest ih =>
    obtain ⟨hn, hrest⟩ := List.forall_mem_cons.mp h
    rw [walkNodes_cons_of_supported hn] at hd ⊢
    obtain ⟨d', hd', hok, hactions⟩ := exists_of_bind_ok hd
    obtain ⟨hrendered, hflat, hall⟩ := ih hrest hok
    -- the statement by itself has not failed, and then it has been rendered or passed over
    have hfirst : (walkNodes reg [n]).result = .ok .rendered := by
      rw [walkNodes_singleton_of_supported hn] at hd' ⊢
      obtain ⟨a, ha, -, -⟩ := exists_of_bind_ok hd'
      rw [bind_of_ok ha]
      rfl
    refine ⟨hrendered, ?_, List.forall_mem_cons.mpr ⟨hfirst, hall⟩⟩
    rw [hactions, hflat, List.flatMap_cons]

/-- The walk ends at the first unsupported statement, which is reported. -/
theorem walkNodes_append_of_unsupported {pre : List Node} {u : Node}
    (hpre : ∀ n ∈ pre, n.isUnsupportedStatement reg = false)
    (hu : u.isUnsupportedStatement reg = true) (post : List Node) :
    walkNodes reg (pre ++ u :: post) = (do
      let _ ← walkNodes reg pre
      report u
      return .unsupported) := by
  have hhalt : walkNodes reg (u :: post) = (do report u; return .unsupported) := by
    rw [walkNodes_cons, dispatchAt_of_isUnsupportedStatement hu]
    rfl
  rw [walkNodes_append, hhalt]
  -- the statements in front have not ended the walk
  refine bind_congr_of_ok fun d hd => ?_
  obtain ⟨rfl, -, -⟩ := walkNodes_of_supported hpre hd
  exact if_neg (by decide)

/-! ## Blocks among statements -/

/-- A block that owns its `end` has it written, however the walk over its body has ended. -/
theorem walkNodes_doBlock {inner : Block} (hreg : reg.get? Renderer.doBlockTag = some .doBlock)
    (hend : inner.hasEnd = true) {d : Dispatch}
    (hd : (walkNodes reg [inner.toNode]).result = .ok d) :
    ∃ s d', inner.location.span = .ok s ∧ (walk reg inner).result = .ok d' ∧
      (walkNodes reg [inner.toNode]).actions =
        .write "do" s.start .overwrite ::
          ((walk reg inner).actions ++ [.write "end" s.stop .overwrite]) := by
  have hsupported : inner.toNode.isUnsupportedStatement reg = false := by
    rw [Block.toNode, Node.isUnsupportedStatement, Registry.has, hreg]
    rfl
  have hrun : dispatchAt reg .statement inner.toNode = (do
      renderWith reg .doBlock inner.toNode
      return .rendered) := dispatchAt_of_some hreg
  rw [walkNodes_singleton_of_supported hsupported, hrun, Block.toNode, renderWith_doBlock,
    hend] at hd ⊢
  -- one layer at a time: the statement, its renderer, the span, the `do`, the body
  obtain ⟨_, hstatement, -, hactions⟩ := exists_of_bind_ok hd
  obtain ⟨_, hblock, -, hactions'⟩ := exists_of_bind_ok hstatement
  obtain ⟨s, hs, hwords, hactions''⟩ := exists_of_bind_ok hblock
  obtain ⟨_, -, hbody, hwritten⟩ := exists_of_bind_ok hwords
  obtain ⟨d', hd', -, hclosed⟩ := exists_of_bind_ok hbody
  refine ⟨s, d', hs, hd', ?_⟩
  rw [hactions, hactions', hactions'', hwritten, hclosed]
  simp [ofExcept, write, writeIn, act, pure, Render.pure, walk]

/-- A halt is local to its own sequence. A walk over a body ends at the first statement that nobody
    lays out: it does what the walk over the statements in front does and, if that does not fail,
    reports the statement, whatever stands behind. A walk over a body without such a statement
    hands on every statement, in order, and ends at the end of the body unless it fails; so does
    the walk over each statement by itself. If it does not fail, it does what the statements do one
    by one, in their order, none of them cut short by what has halted below another; in particular
    a block among them that owns its `end`, and is given to the renderer of such blocks, is laid
    out up to its `end`, however the walk over its own body has ended. -/
theorem walk_halts_locally (reg : Registry Renderer) (b : Block) :
    (∀ pre u post, b.body = pre ++ u :: post →
      (∀ n ∈ pre, n.isUnsupportedStatement reg = false) → u.isUnsupportedStatement reg = true →
      walk reg b = (do
        let _ ← walk reg { b with body := pre }
        report u
        return .unsupported)) ∧
    ((∀ n ∈ b.body, n.isUnsupportedStatement reg = false) →
      walk reg b = (do
        b.body.forM fun n => do
          let _ ← dispatchAt reg .statement n
        return .rendered) ∧
      (∀ n ∈ b.body, walk reg { b with body := [n] } = (do
        let _ ← dispatchAt reg .statement n
        return .rendered)) ∧
      ∀ d, (walk reg b).result = .ok d →
        d = .rendered ∧
        (walk reg b).actions = b.body.flatMap (fun n => (walk reg { b with body := [n] }).actions) ∧
        (∀ n ∈ b.body, (walk reg { b with body := [n] }).result = .ok .rendered) ∧
        ∀ inner : Block, inner.toNode ∈ b.body → inner.hasEnd = true →
          reg.get? Renderer.doBlockTag = some .doBlock →
          ∃ s d', inner.location.span = .ok s ∧ (walk reg inner).result = .ok d' ∧
            (walk reg { b with body := [inner.toNode] }).actions =
              .write "do" s.start .overwrite ::
                ((walk reg inner).actions ++ [.write "end" s.stop .overwrite])) := by
  refine ⟨?_, ?_⟩
  · intro pre u post hbody hpre hu
    rw [walk, hbody]
    exact walkNodes_append_of_unsupported hpre hu post
  · intro hall
    have hsingle (n : Node) (hn : n ∈ b.body) : walk reg { b with body := [n] } = (do
        let _ ← dispatchAt reg .statement n
        return .rendered) := walkNodes_singleton_of_supported (hall n hn)
    refine ⟨walkNodes_eq_forM hall, hsingle, fun d hd => ?_⟩
    obtain ⟨hrendered, hactions, hok⟩ := walkNodes_of_supported hall hd
    refine ⟨hrendered, hactions, hok, fun inner hinner hend hreg => ?_⟩
    exact walkNodes_doBlock hreg hend (hok _ hinner)

/-- The renderer of `break` has been taken away. A block halts at its `break` and is still closed;
    a `local` behind it halts at its value and is still followed by the next statement. The walk
    over these goes to the end of the body. With another `break` behind them it ends there, in
    front of a statement that stands nowhere. -/
theorem walk_halts_locally_without_break :
    let reg := Registry.standard.remove "AstStatBreak"
    let lookup : Node := .unmodelled ⟨"AstExprIndexExpr", by decide +kernel⟩ ⟨""⟩ .null
    let leave : Node := .atom ⟨"?"⟩ .breakStat
    let lost : Node := .atom ⟨"nowhere"⟩ .continueStat
    let inner : Block := ⟨⟨"0,0 - 2,0"⟩, true, [.exprStat ⟨""⟩ lookup, leave, lost]⟩
    let decl : Node :=
      .localDecl ⟨"3,0 - 3,7"⟩ [.atom ⟨"3,6 - 3,7"⟩ (.binding "x" none)] (some [lookup, lost])
    let pre := [inner.toNode, decl, .atom ⟨"4,0 - 4,8"⟩ .continueStat]
    let front : Block := ⟨⟨""⟩, false, pre⟩
    let b : Block := ⟨⟨""⟩, false, pre ++ leave :: [lost]⟩
    (∀ n ∈ pre, n.isUnsupportedStatement reg = false) ∧ leave.isUnsupportedStatement reg = true ∧
      walk reg b = (do
        let _ ← walk reg front
        report leave
        return .unsupported) ∧
      walk reg front = (do
        pre.forM fun n => do
          let _ ← dispatchAt reg .statement n
        return .rendered) ∧
      walk reg { front with body := [decl] } = (do
        let _ ← dispatchAt reg .statement decl
        return .rendered) ∧
      (walk reg front).result = .ok .rendered ∧ (walk reg inner).result = .ok .unsupported ∧
      (walk reg { front with body := [inner.toNode] }).actions =
        .write "do" ⟨0, 0⟩ .overwrite ::
          ((walk reg inner).actions ++ [.write "end" ⟨2, 0⟩ .overwrite]) ∧
      (reconstruct reg b).2.toOption = some ⟨"do\n\nend\nlocal x\ncontinue",
        .incomplete [.ofNode lookup, .ofNode leave, .ofNode lookup, .ofNode leave]⟩ := by
  intro reg lookup leave lost inner decl pre front b
  have hpre : ∀ n ∈ pre, n.isUnsupportedStatement reg = false := by decide +kernel
  have hleave : leave.isUnsupportedStatement reg = true := by decide +kernel
  have hfront : (walk reg front).result = .ok .rendered := eq_ok_of_toOption (by decide +kernel)
  have hinner : (walk reg inner).result = .ok .unsupported :=
    eq_ok_of_toOption (by decide +kernel)
  have hreg : reg.get? Renderer.doBlockTag = some .doBlock := by
    rw [Registry.get?_remove, if_neg (by decide), Registry.get?_standard_doBlockTag]
  have hspan : inner.location.span = .ok ⟨⟨0, 0⟩, ⟨2, 0⟩⟩ := eq_ok_of_toOption (by decide +kernel)
  obtain ⟨hall, hsingle, hruns⟩ := (walk_halts_locally reg front).2 hpre
  obtain ⟨-, -, -, hblocks⟩ := hruns .rendered hfront
  obtain ⟨s, _, hs, -, hclosed⟩ := hblocks inner List.mem_cons_self rfl hreg
  rw [hspan] at hs
  cases hs
  have hdecl : decl ∈ front.body := List.mem_cons_of_mem _ List.mem_cons_self
  refine ⟨hpre, hleave, ?_, hall, hsingle decl hdecl, hfront, hinner, hclosed, by decide +kernel⟩
  exact (walk_halts_locally reg b).1 pre leave [lost] rfl hpre hleave

end Render
end LuauLayout
