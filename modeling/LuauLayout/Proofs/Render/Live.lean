/-
  LuauLayout.Proofs.Render.Live

  Laying out a text as one goes.

  A rendering is a list of actions, made without a look at the text, and the
  text is made from the list afterwards. Whether that is the same as working on
  the text directly is not plain: what goes on between a buffer and a renderer
  could depend on what has been written. Below the walk is written once more, as
  a program that hands one context on from step to step and changes it in place,
  with early returns. It comes to the same, for any registry and whatever the
  text to begin with.

    * `Live`            — a program over the context, which may fail.
    * `Live.walk`       — the walk in that form, with its parts.
    * `Live.perform`    — a collected rendering, carried out.
    * `perform_pure`, `perform_bind`, ... — one rule for every step.
    * `agrees`          — the induction along the nodes.
    * `walk_eq_perform` — the two walks.
-/

import LuauLayout.Proofs.Render.Position
import LuauLayout.Render.Reconstruction

namespace LuauLayout

/-- A rendering that works on the text as it goes. What it does next may depend on all of the
    text there is. -/
abbrev Live := ExceptT Failure (StateM Context)

namespace Live

variable {α β : Type}

/-- Writes in place of what stands there. -/
def write (text : String) (place : Coordinate) : Live Unit :=
  modify fun cx => { cx with buffer := cx.buffer.writeAt text place .overwrite }

/-- Writes behind the last cell of the text. -/
def append (text : String) : Live Unit :=
  modify fun cx => { cx with buffer := cx.buffer.append text }

/-- Reports a node. -/
def report (n : Node) : Live Unit :=
  modify fun cx => { cx with unsupported := cx.unsupported ++ [.ofNode n] }

/-- Writes at the start of the span that a location names. -/
def writeAtStart (l : Location) (text : String) : Live Unit := do
  let place ← ofExcept l.start
  write text place

/-- Appends a text or does nothing. -/
def appendIf (due : Bool) (text : String) : Live Unit :=
  if due then append text else pure ()

/-- The failure of a renderer that was handed a node of another form. -/
def mismatch (form : Form) (n : Node) : Live Unit := throw (.kindMismatch form.tag n.kind)

/-- Carries out a collected rendering. -/
def perform (m : Render α) : Live α := fun cx => ((cx.run m).2, (cx.run m).1)

/-! ## The walk -/

/-- Hands a node on, given what each renderer would do with it. -/
def handOn (reg : Registry Renderer) (n : Node) (run : Renderer → Live Unit) : Live Dispatch :=
  match reg.get? n.kind with
  | some r => do
    run r
    return .rendered
  | none =>
    if isTypeTag n.kind then return .ignored
    else do
      report n
      return .unsupported

/-- The same for a statement: a block goes to the renderer of blocks among statements. -/
def handOnStatement (reg : Registry Renderer) (n : Node) (run : Renderer → Live Unit) :
    Live Dispatch :=
  match n with
  | .block .. =>
    match reg.get? Renderer.doBlockTag with
    | some r => do
      run r
      return .rendered
    | none => do
      report n
      return .unsupported
  | n => handOn reg n run

/-- The renderer of one form alone. One from outside brings a collected rendering along. -/
def only (r : Renderer) (form : Form) (n : Node) (own : Live Unit) : Live Unit :=
  match r with
  | .custom run => perform (run n)
  | .doBlock => mismatch .block n
  | .native f => if f = form then own else mismatch f n

mutual

/-- One node under a given renderer. -/
def renderWith (reg : Registry Renderer) (r : Renderer) : Node → Live Unit
  | .atom l a => only r a.form (.atom l a) (writeAtStart l a.source)
  | .block l hasEnd body =>
    match r with
    | .custom run => perform (run (.block l hasEnd body))
    | .doBlock => do
      let span ← ofExcept l.span
      write "do" span.start
      let _ ← walkNodes reg body
      if hasEnd then write "end" span.stop
    | .native .block => do
      let _ ← walkNodes reg body
    | .native f => mismatch f (.block l hasEnd body)
  | .localDecl l targets values => only r .localDecl (.localDecl l targets values) do
    writeAtStart l "local"
    let t ← listNodes reg "," false targets
    let _ ← assignValues reg t values
  | .assign l targets values => only r .assign (.assign l targets values) do
    let t ← listNodes reg "," false targets
    let _ ← assignValues reg t values
  | .ret l values => only r .ret (.ret l values) do
    writeAtStart l "return"
    let _ ← listNodes reg "," false values
  | .exprStat l e => only r .exprStat (.exprStat l e) do
    let _ ← handOn reg e fun r => renderWith reg r e
  | .indexName l base name nameLocation op =>
    only r .indexName (.indexName l base name nameLocation op) do
      if (← handOn reg base fun r => renderWith reg r base) = .unsupported then return
      append (op.getD ".")
      match nameLocation with
      | some nl => writeAtStart nl name
      | none => append name
  | .group l e => only r .group (.group l e) do
    let span ← ofExcept l.span
    write "(" span.start
    if (← handOn reg e fun r => renderWith reg r e) = .unsupported then return
    write ")" span.last
  | .call l callee args => only r .call (.call l callee args) do
    let span ← ofExcept l.span
    if (← handOn reg callee fun r => renderWith reg r callee) = .unsupported then return
    append "("
    if (← listNodes reg "," false args) = .unsupported then return
    write ")" span.last
  | .unary l op e => only r .unary (.unary l op e) do
    writeAtStart l (Operator.unarySymbol op)
    let _ ← handOn reg e fun r => renderWith reg r e
  | .binary l op left right => only r .binary (.binary l op left right) do
    if (← handOn reg left fun r => renderWith reg r left) = .unsupported then return
    append (" " ++ Operator.binarySymbol op ++ " ")
    let _ ← handOn reg right fun r => renderWith reg r right
  | .unmodelled tag l data =>
    match r with
    | .custom run => perform (run (.unmodelled tag l data))
    | .doBlock => mismatch .block (.unmodelled tag l data)
    | .native f => mismatch f (.unmodelled tag l data)

/-- The nodes of a list; `started` when one before them has been rendered. -/
def listNodes (reg : Registry Renderer) (separator : String) (started : Bool) :
    List Node → Live Dispatch
  | [] => return .rendered
  | n :: rest =>
    if reg.has n.kind then do
      appendIf started separator
      if (← handOn reg n fun r => renderWith reg r n) = .unsupported then return .unsupported
      listNodes reg separator true rest
    else if isTypeTag n.kind then listNodes reg separator started rest
    else do
      report n
      return .unsupported

/-- The statements of a block. -/
def walkNodes (reg : Registry Renderer) : List Node → Live Dispatch
  | [] => return .rendered
  | n :: rest => do
    if (← handOnStatement reg n fun r => renderWith reg r n) = .unsupported then
      return .unsupported
    walkNodes reg rest

/-- The values of an assignment, behind its targets, and what became of the whole. -/
def assignValues (reg : Registry Renderer) (targets : Dispatch) :
    Option (List Node) → Live Dispatch
  | none => return targets
  | some values => do
    appendIf (values.head?.any fun first => reg.has first.kind) " = "
    let d ← listNodes reg "," false values
    return if targets = .unsupported then .unsupported else d

end

/-- The statements of a block, up to the first unsupported one. -/
def walk (reg : Registry Renderer) (b : Block) : Live Dispatch := walkNodes reg b.body

/-! ## Collecting first changes nothing -/

theorem perform_of_quiet {m : Render α} (h : m.actions = []) : perform m = ofExcept m.result := by
  funext cx
  show (m.result, (⟨_, cx.unsupported ++ reports m.actions⟩ : Context)) = _
  rw [h]
  show (m.result, (⟨cx.buffer, cx.unsupported ++ []⟩ : Context)) = _
  rw [List.append_nil]
  cases m.result <;> rfl

theorem perform_pure (a : α) : perform (pure a) = pure a := perform_of_quiet rfl

theorem perform_ofExcept (r : Except Failure α) : perform (Render.ofExcept r) = ofExcept r :=
  perform_of_quiet rfl

theorem perform_mismatch (form : Form) (n : Node) :
    perform (Render.mismatch form n) = mismatch form n := perform_of_quiet rfl

/-- An action that reports nothing changes the text and nothing else. -/
theorem perform_act {a : Action} (h : reports [a] = []) : perform (Render.act a)
    = modify fun cx : Context => { cx with buffer := cx.buffer.perform a } := by
  funext cx
  show (_, (⟨cx.buffer.perform a, cx.unsupported ++ reports [a]⟩ : Context)) = _
  rw [h, List.append_nil]
  rfl

theorem perform_write (text : String) (place : Coordinate) :
    perform (Render.write text place) = write text place := perform_act rfl

theorem perform_append (text : String) : perform (Render.append text) = append text :=
  perform_act rfl

theorem perform_report (n : Node) : perform (Render.report n) = report n := rfl

/-- What is done second is done in the context that the first has left, unless that failed. -/
theorem perform_bind {m : Render α} {m' : Live α} {f : α → Render β} {f' : α → Live β}
    (hm : perform m = m') (hf : ∀ a, perform (f a) = f' a) :
    perform (m >>= f) = m' >>= f' := by
  subst hm
  funext cx
  cases h : m.result with
  | error e =>
    have hrun : perform m cx = (.error e, cx.performAll m.actions) := by
      rw [← h]
      rfl
    -- the second is not begun, on either side
    rw [Render.bind_of_error h]
    simp only [bind, ExceptT.bind, ExceptT.mk, StateT.bind]
    rw [hrun]
    rfl
  | ok a =>
    have hrun : perform m cx = (.ok a, cx.performAll m.actions) := by
      rw [← h]
      rfl
    simp only [bind, ExceptT.bind, ExceptT.mk, StateT.bind]
    rw [hrun]
    show perform (m >>= f) cx = f' a (cx.performAll m.actions)
    rw [← hf, perform, perform, Context.run_bind_of_ok h]
    rfl

theorem perform_writeAtStart (l : Location) (text : String) :
    perform (Render.writeAtStart l text) = writeAtStart l text :=
  perform_bind (perform_ofExcept l.start) fun place => perform_write text place

theorem perform_if {c : Prop} [Decidable c] {m : Render α} {m' : Live α} {k : Render α}
    {k' : Live α} (hm : perform m = m') (hk : perform k = k') :
    perform (if c then m else k) = if c then m' else k' := by
  split
  · exact hm
  · exact hk

theorem perform_unlessHalted {k : Render Unit} {k' : Live Unit} (h : perform k = k')
    (d : Dispatch) :
    perform (Render.unlessHalted d k) = if d = .unsupported then pure () else k' :=
  perform_if (perform_pure ()) h

theorem perform_appendIf (due : Bool) (text : String) :
    perform (Render.appendIf due text) = appendIf due text :=
  perform_if (perform_append text) (perform_pure ())

/-- The renderer of one form alone does the same if it does the same for that form. -/
theorem perform_only {r : Renderer} {form : Form} {n : Node} {own : Render Unit}
    {own' : Live Unit} (h : perform own = own') :
    perform (Render.only r form n own) = only r form n own' := by
  cases r with
  | custom run => rfl
  | doBlock => exact perform_mismatch .block n
  | native f => exact perform_if h (perform_mismatch f n)

variable {reg : Registry Renderer} {n : Node}

/-- Whatever renderer a node is given, collecting first changes nothing. -/
def Agrees (reg : Registry Renderer) (n : Node) : Prop :=
  ∀ r, perform (Render.renderWith reg r n) = renderWith reg r n

theorem perform_handOn (h : Agrees reg n) :
    perform (Render.dispatchAt reg .operand n) = handOn reg n fun r => renderWith reg r n := by
  rw [← Render.handOn_eq_dispatchAt, Render.handOn, handOn]
  cases reg.get? n.kind with
  | some r => exact perform_bind (h r) fun _ => perform_pure _
  | none =>
    exact perform_if (perform_pure _) (perform_bind (perform_report n) fun _ => perform_pure _)

theorem perform_handOnStatement (h : Agrees reg n) :
    perform (Render.dispatchAt reg .statement n)
      = handOnStatement reg n fun r => renderWith reg r n := by
  cases n with
  | block l hasEnd body =>
    rw [handOnStatement]
    cases hg : reg.get? Renderer.doBlockTag with
    | some r =>
      rw [Render.dispatchAt_of_some (n := .block l hasEnd body) hg]
      exact perform_bind (h r) fun _ => perform_pure _
    | none =>
      rw [Render.dispatchAt_of_unsupported (n := .block l hasEnd body) hg (isTypeTag_tag .block)]
      exact perform_bind (perform_report _) fun _ => perform_pure _
  | _ => exact perform_handOn h

/-- What follows a node with a renderer need not ask what became of the node. -/
theorem handOn_bind_of_has (h : reg.has n.kind = true) (run : Renderer → Live Unit)
    (k : Dispatch → Live β) :
    (handOn reg n run >>= k) = handOn reg n run >>= fun _ => k .rendered := by
  obtain ⟨r, hr⟩ := Registry.has_eq_true_iff.mp h
  rw [handOn, hr]
  simp only [bind_assoc, pure_bind]

theorem perform_listNodes {ns : List Node} (sep : String) (started : Bool)
    (h : ∀ n ∈ ns, Agrees reg n) :
    perform (Render.listNodes reg sep started ns) = listNodes reg sep started ns := by
  induction ns generalizing started with
  | nil => exact perform_pure _
  | cons n rest ih =>
    obtain ⟨hn, hrest⟩ := List.forall_mem_cons.mp h
    cases hg : reg.has n.kind with
    | true =>
      rw [Render.listNodes_cons_of_has sep started rest hg, listNodes, if_pos hg,
        handOn_bind_of_has hg, if_neg (by decide)]
      refine perform_bind (perform_appendIf started sep) fun _ => ?_
      exact perform_bind (perform_handOn hn) fun _ => ih true hrest
    | false =>
      -- the collected list looks the node up once, for both questions
      have hnone : reg.get? n.kind = none := Registry.has_eq_false_iff.mp hg
      have hcollected : Render.listNodes reg sep started (n :: rest) =
          if isTypeTag n.kind then Render.listNodes reg sep started rest
          else (do Render.report n; return .unsupported) := by
        rw [Render.listNodes, hnone]
      rw [hcollected, listNodes, hg, if_neg Bool.false_ne_true]
      refine perform_if (ih started hrest) ?_
      exact perform_bind (perform_report n) fun _ => perform_pure _

theorem perform_walkNodes {ns : List Node} (h : ∀ n ∈ ns, Agrees reg n) :
    perform (Render.walkNodes reg ns) = walkNodes reg ns := by
  induction ns with
  | nil => exact perform_pure _
  | cons n rest ih =>
    obtain ⟨hn, hrest⟩ := List.forall_mem_cons.mp h
    rw [Render.walkNodes_cons, walkNodes]
    exact perform_bind (perform_handOnStatement hn) fun d => perform_if (perform_pure _) (ih hrest)

theorem perform_assignValues (t : Dispatch) {values : Option (List Node)}
    (h : ∀ vs ∈ values, ∀ n ∈ vs, Agrees reg n) :
    perform (Render.assignValues reg t values) = assignValues reg t values := by
  cases values with
  | none => exact perform_pure _
  | some values =>
    rw [Render.assignValues_some, assignValues]
    refine perform_bind (perform_appendIf _ " = ") fun _ => ?_
    exact perform_bind (perform_listNodes "," false (h values rfl)) fun d => perform_pure _

/-- What a declaration and an assignment have in common. -/
theorem perform_targets_values {targets : List Node} {values : Option (List Node)}
    (ht : ∀ n ∈ targets, Agrees reg n) (hv : ∀ vs ∈ values, ∀ n ∈ vs, Agrees reg n) :
    perform (do
        let t ← Render.listNodes reg "," false targets
        let _ ← Render.assignValues reg t values) = (do
      let t ← listNodes reg "," false targets
      let _ ← assignValues reg t values) := by
  refine perform_bind (perform_listNodes "," false ht) fun t => ?_
  exact perform_bind (perform_assignValues t hv) fun _ => perform_pure _

/-- On the nodes: every step of a renderer is a step of the other, and the nodes below agree. -/
theorem agrees (reg : Registry Renderer) (n : Node) : Agrees reg n := by
  induction n using Node.induct with
  | atom l a => exact fun r => perform_only (perform_writeAtStart l a.source)
  | block l hasEnd body ih =>
    -- the one form with two renderers of its own, as a statement and as a body
    intro r
    cases r with
    | custom run => rfl
    | doBlock =>
      refine perform_bind (perform_ofExcept _) fun span => ?_
      refine perform_bind (perform_write _ _) fun _ => ?_
      refine perform_bind (perform_walkNodes ih) fun _ => ?_
      exact perform_if (perform_write _ _) (perform_pure _)
    | native f =>
      cases f with
      | block => exact perform_bind (perform_walkNodes ih) fun _ => perform_pure _
      | _ => exact perform_mismatch _ _
  | localDecl l targets values iht ihv =>
    intro r
    refine perform_only (perform_bind (perform_writeAtStart l _) fun _ => ?_)
    exact perform_targets_values iht ihv
  | assign l targets values iht ihv =>
    intro r
    exact perform_only (perform_targets_values iht ihv)
  | ret l values ih =>
    intro r
    refine perform_only (perform_bind (perform_writeAtStart l _) fun _ => ?_)
    exact perform_bind (perform_listNodes "," false ih) fun _ => perform_pure _
  | exprStat l e ih =>
    intro r
    exact perform_only (perform_bind (perform_handOn ih) fun _ => perform_pure _)
  | indexName l base name nl op ih =>
    intro r
    refine perform_only (perform_bind (perform_handOn ih) (perform_unlessHalted ?_))
    refine perform_bind (perform_append _) fun _ => ?_
    cases nl with
    | some nl => exact perform_writeAtStart nl name
    | none => exact perform_append name
  | group l e ih =>
    intro r
    refine perform_only (perform_bind (perform_ofExcept _) fun span => ?_)
    refine perform_bind (perform_write _ _) fun _ => ?_
    exact perform_bind (perform_handOn ih) (perform_unlessHalted (perform_write _ _))
  | call l callee args ihc iha =>
    intro r
    refine perform_only (perform_bind (perform_ofExcept _) fun span => ?_)
    refine perform_bind (perform_handOn ihc) (perform_unlessHalted ?_)
    refine perform_bind (perform_append _) fun _ => ?_
    refine perform_bind (perform_listNodes "," false iha) (perform_unlessHalted ?_)
    exact perform_write _ _
  | unary l op e ih =>
    intro r
    refine perform_only (perform_bind (perform_writeAtStart l _) fun _ => ?_)
    exact perform_bind (perform_handOn ih) fun _ => perform_pure _
  | binary l op left right ihl ihr =>
    intro r
    refine perform_only (perform_bind (perform_handOn ihl) (perform_unlessHalted ?_))
    refine perform_bind (perform_append _) fun _ => ?_
    exact perform_bind (perform_handOn ihr) fun _ => perform_pure _
  | unmodelled tag l data =>
    intro r
    cases r with
    | custom run => rfl
    | doBlock => exact perform_mismatch _ _
    | native f => exact perform_mismatch _ _

/-- To walk over a text as one goes is to collect the walk and then to carry it out. -/
theorem walk_eq_perform (reg : Registry Renderer) (b : Block) :
    walk reg b = perform (Render.walk reg b) :=
  (perform_walkNodes fun n _ => agrees reg n).symm

end Live
end LuauLayout
