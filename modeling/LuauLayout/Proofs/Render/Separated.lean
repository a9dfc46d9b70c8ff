/-
  LuauLayout.Proofs.Render.Separated

  A list of nodes is a row of single ones.

  A list is laid out in one pass that looks every node up, keeps track of whether
  a separator is due, passes annotations over and ends at the first node that
  nobody handles. What comes of it can be said without the pass: the nodes that
  are handed to a renderer, each as if it stood alone, with a separator between
  two of them, and then the report of the node at which the list ends.

  What a renderer does plays no part in this. So the pass is written below for
  any kind of effect, and the two kinds used here are cases of it: collected
  actions, and programs that work on the context and may look at all of it.

    * `Node.handedOn`, `Node.unhandled?` — the nodes for the renderers, and the
      one that ends the list.
    * `separated`, `haltAt`  — one by one with something in between; the end.
    * `listIn`               — the pass.
    * `listIn_eq_separatedBehind` — what comes of it, by induction on the list.
    * `dispatchList_isSeparated` — the same of the lists of this library.
-/

import LuauLayout.Proofs.Render.Halt

namespace LuauLayout

/-! ## The nodes of a list -/

namespace Node

/-- There is a renderer for the node, or it is an annotation that is passed over. -/
def isHandled (reg : Registry Renderer) (n : Node) : Bool := reg.has n.kind || isTypeTag n.kind

/-- The nodes of a list that are handed to a renderer: those that have one, up to the first node
    that nobody handles. -/
def handedOn (reg : Registry Renderer) (ns : List Node) : List Node :=
  (ns.takeWhile (isHandled reg)).filter fun n => reg.has n.kind

/-- The first node of a list that nobody handles. -/
def unhandled? (reg : Registry Renderer) (ns : List Node) : Option Node :=
  ns.find? fun n => !n.isHandled reg

variable {reg : Registry Renderer} {n : Node}

/-! A node with a renderer is handed on, an annotation leaves the list as it is, and any other node
ends it. -/

theorem handedOn_cons_of_has (h : reg.has n.kind = true) (rest : List Node) :
    handedOn reg (n :: rest) = n :: handedOn reg rest := by
  simp [handedOn, isHandled, h]

theorem handedOn_cons_of_isTypeTag (h : reg.has n.kind = false) (ht : isTypeTag n.kind = true)
    (rest : List Node) : handedOn reg (n :: rest) = handedOn reg rest := by
  simp [handedOn, isHandled, h, ht]

theorem handedOn_cons_of_unhandled (h : n.isHandled reg = false) (rest : List Node) :
    handedOn reg (n :: rest) = [] := by
  simp [handedOn, h]

theorem unhandled?_cons_of_isHandled (h : n.isHandled reg = true) (rest : List Node) :
    unhandled? reg (n :: rest) = unhandled? reg rest := by
  simp [unhandled?, h]

theorem unhandled?_cons_of_unhandled (h : n.isHandled reg = false) (rest : List Node) :
    unhandled? reg (n :: rest) = some n := by
  simp [unhandled?, h]

theorem unhandled?_isSome_iff {ns : List Node} :
    (unhandled? reg ns).isSome ↔ ∃ n ∈ ns, n.isHandled reg = false := by
  simp [unhandled?]

end Node

/-! ## The pass, for any kind of effect -/

section Effects

variable {m : Type → Type} [Monad m] {α β : Type}

/-- A step or nothing. -/
def stepIf (due : Bool) (step : m Unit) : m Unit := if due then step else pure ()

/-- Steps one by one, with another between any two that follow each other. Their values are
    dropped. -/
def separated (step : α → m β) (between : m Unit) : List α → m Unit
  | [] => pure ()
  | x :: rest => do
    let _ ← step x
    rest.forM fun y => do
      between
      let _ ← step y

/-- The same, where one may have been taken already. -/
def separatedBehind (started : Bool) (step : α → m β) (between : m Unit) (xs : List α) : m Unit :=
  if started then xs.forM fun y => do
    between
    let _ ← step y
  else separated step between xs

/-- The end of a list: the node that ends it is reported, if there is one. -/
def haltAt (report : Node → m Unit) : Option Node → m Dispatch
  | none => return .rendered
  | some n => do
    report n
    return .unsupported

/-- The pass over a list: `one` is what becomes of a single node, and `started` says that one has
    been handed on already, so that a separator is due. -/
def listIn (reg : Registry Renderer) (one : Node → m Dispatch) (between : m Unit)
    (report : Node → m Unit) (started : Bool) : List Node → m Dispatch
  | [] => return .rendered
  | n :: rest =>
    if reg.has n.kind then do
      stepIf started between
      if (← one n) = .unsupported then return .unsupported
      listIn reg one between report true rest
    else if isTypeTag n.kind then listIn reg one between report started rest
    else do
      report n
      return .unsupported

/-- What becomes of a single node, as far as it does not depend on the renderers. -/
structure IsDispatch (reg : Registry Renderer) (one : Node → m Dispatch) (report : Node → m Unit) :
    Prop where
  /-- Whatever its renderer does, a node that has one counts as rendered. -/
  renders : ∀ n, reg.has n.kind = true → one n = (do let _ ← one n; return .rendered)
  ignores : ∀ n, reg.has n.kind = false → isTypeTag n.kind = true → one n = pure .ignored
  halts : ∀ n, reg.has n.kind = false → isTypeTag n.kind = false →
    one n = (do report n; return .unsupported)

theorem separatedBehind_nil (started : Bool) (step : α → m β) (between : m Unit) :
    separatedBehind started step between [] = pure () := by
  cases started <;> rfl

variable [LawfulMonad m]

theorem separatedBehind_cons (started : Bool) (step : α → m β) (between : m Unit) (x : α)
    (rest : List α) : separatedBehind started step between (x :: rest) = (do
      stepIf started between
      let _ ← step x
      separatedBehind true step between rest) := by
  cases started with
  | false =>
    rw [stepIf, if_neg Bool.false_ne_true, pure_bind]
    rfl
  | true => simp [separatedBehind, stepIf]

variable {reg : Registry Renderer} {one : Node → m Dispatch} {report : Node → m Unit} {n : Node}

/-- So the list does not end at a node with a renderer, whatever has been reported below it. -/
theorem listIn_cons_of_has (hone : IsDispatch reg one report) (between : m Unit) (started : Bool)
    (rest : List Node) (h : reg.has n.kind = true) :
    listIn reg one between report started (n :: rest) = (do
      stepIf started between
      let _ ← one n
      listIn reg one between report true rest) := by
  have hgoes (k : m Dispatch) :
      (do if (← one n) = .unsupported then return .unsupported else k) = (do let _ ← one n; k) := by
    have hne : ¬Dispatch.rendered = .unsupported := by decide
    rw [hone.renders n h]
    simp only [bind_assoc, pure_bind, if_neg hne]
  rw [listIn, if_pos h]
  exact congrArg _ (funext fun _ => hgoes _)

/-- The pass comes to the nodes that are handed on, separated, and then to the end. -/
theorem listIn_eq_separatedBehind (hone : IsDispatch reg one report) (between : m Unit)
    (started : Bool) (ns : List Node) :
    listIn reg one between report started ns = (do
      separatedBehind started one between (Node.handedOn reg ns)
      haltAt report (Node.unhandled? reg ns)) := by
  induction ns generalizing started with
  | nil =>
    have hnone : Node.handedOn reg [] = [] := rfl
    rw [hnone, separatedBehind_nil, pure_bind]
    rfl
  | cons n rest ih =>
    cases hg : reg.has n.kind with
    | true =>
      have hhandled : n.isHandled reg = true := by rw [Node.isHandled, hg, Bool.true_or]
      rw [Node.handedOn_cons_of_has hg, Node.unhandled?_cons_of_isHandled hhandled,
        listIn_cons_of_has hone between started rest hg, separatedBehind_cons, ih]
      simp only [bind_assoc]
    | false =>
      cases ht : isTypeTag n.kind with
      | true =>
        have hhandled : n.isHandled reg = true := by rw [Node.isHandled, ht, Bool.or_true]
        rw [Node.handedOn_cons_of_isTypeTag hg ht, Node.unhandled?_cons_of_isHandled hhandled,
          ← ih, listIn, hg, ht, if_neg Bool.false_ne_true, if_pos rfl]
      | false =>
        -- neither a renderer nor an annotation: the list ends here
        have hunhandled : n.isHandled reg = false := by rw [Node.isHandled, hg, ht, Bool.or_false]
        rw [Node.handedOn_cons_of_unhandled hunhandled,
          Node.unhandled?_cons_of_unhandled hunhandled, separatedBehind_nil, pure_bind, listIn, hg,
          ht, if_neg Bool.false_ne_true, if_neg Bool.false_ne_true, haltAt]

/-- A list of one node is the node, except that it does not tell what was passed over. -/
theorem listIn_singleton (hone : IsDispatch reg one report) (between : m Unit) (n : Node) :
    listIn reg one between report false [n] = (do
      let d ← one n
      return if d = .unsupported then .unsupported else .rendered) := by
  cases hg : reg.has n.kind with
  | true =>
    rw [listIn_cons_of_has hone between false [] hg, hone.renders n hg]
    simp [stepIf, listIn]
  | false =>
    cases ht : isTypeTag n.kind with
    | true => simp [listIn, hg, ht, hone.ignores n hg ht]
    | false => simp [listIn, hg, ht, hone.halts n hg ht]

end Effects

/-! ## The lists of this library -/

namespace Render

theorem isDispatch_dispatch (reg : Registry Renderer) :
    IsDispatch reg (dispatch reg) report where
  renders := by
    intro n h
    obtain ⟨r, hr⟩ := Registry.has_eq_true_iff.mp h
    rw [dispatch, handOn, hr]
    simp only [bind_assoc, pure_bind]
  ignores := by
    intro n h ht
    rw [dispatch, handOn, Registry.has_eq_false_iff.mp h]
    exact if_pos ht
  halts := by
    intro n h ht
    rw [dispatch, handOn, Registry.has_eq_false_iff.mp h, ht]
    rfl

theorem unsupported_iff_of_haltAt {u : Option Node} {d : Dispatch}
    (h : (haltAt report u).result = .ok d) : d = .unsupported ↔ u.isSome := by
  cases u with
  | none =>
    cases h
    exact iff_of_false (by decide) Bool.false_ne_true
  | some u =>
    cases h
    exact iff_of_true rfl rfl

/-- Collected actions: the recursion along the nodes is the pass. -/
theorem listNodes_eq_listIn (reg : Registry Renderer) (sep : String) (started : Bool)
    (ns : List Node) :
    listNodes reg sep started ns = listIn reg (dispatch reg) (append sep) report started ns := by
  induction ns generalizing started with
  | nil =>
    rw [listNodes]
    rfl
  | cons n rest ih =>
    cases hg : reg.has n.kind with
    | true =>
      rw [listNodes_cons_of_has sep started rest hg, ih, ← dispatch_eq_dispatchAt,
        listIn_cons_of_has (isDispatch_dispatch reg) _ started rest hg]
      rfl
    | false =>
      have hnone : reg.get? n.kind = none := Registry.has_eq_false_iff.mp hg
      rw [listNodes, hnone, listIn, hg, if_neg Bool.false_ne_true, ← ih]

/-- A list is laid out by laying out the nodes that are handed on, and then its end. -/
theorem dispatchList_eq_separated (reg : Registry Renderer) (sep : String) (ns : List Node) :
    dispatchList reg sep ns = (do
      separated (dispatch reg) (append sep) (Node.handedOn reg ns)
      haltAt report (Node.unhandled? reg ns)) := by
  rw [dispatchList, listNodes_eq_listIn]
  exact listIn_eq_separatedBehind (isDispatch_dispatch reg) _ false ns

end Render

namespace Live

/-- One node, where a renderer is a program that may look at the whole context. -/
def dispatchBy (reg : Registry Renderer) (render : Renderer → Node → Live Unit) (n : Node) :
    Live Dispatch := handOn reg n fun r => render r n

/-- A list of nodes, likewise. -/
def dispatchListBy (reg : Registry Renderer) (render : Renderer → Node → Live Unit)
    (sep : String) (ns : List Node) : Live Dispatch :=
  listIn reg (dispatchBy reg render) (append sep) report false ns

theorem isDispatch_dispatchBy (reg : Registry Renderer) (render : Renderer → Node → Live Unit) :
    IsDispatch reg (dispatchBy reg render) report where
  renders := by
    intro n h
    exact (bind_pure (dispatchBy reg render n)).symm.trans (handOn_bind_of_has h _ _)
  ignores := by
    intro n h ht
    rw [dispatchBy, handOn, Registry.has_eq_false_iff.mp h]
    exact if_pos ht
  halts := by
    intro n h ht
    rw [dispatchBy, handOn, Registry.has_eq_false_iff.mp h, ht]
    rfl

theorem listNodes_eq_listIn (reg : Registry Renderer) (sep : String) (started : Bool)
    (ns : List Node) : listNodes reg sep started ns
      = listIn reg (dispatchBy reg (renderWith reg)) (append sep) report started ns := by
  induction ns generalizing started with
  | nil =>
    rw [listNodes]
    rfl
  | cons n rest ih =>
    rw [listNodes, listIn, ih, ih]
    rfl

theorem unsupported_iff_of_haltAt {u : Option Node} {d : Dispatch} {cx cx' : Context}
    (h : haltAt report u cx = (.ok d, cx')) : d = .unsupported ↔ u.isSome := by
  cases u with
  | none =>
    cases h
    exact iff_of_false (by decide) Bool.false_ne_true
  | some u =>
    cases h
    exact iff_of_true rfl rfl

/-- If both succeed, the second has begun in the context that the first left. -/
theorem exists_of_bind_ok {α β : Type} {m : Live α} {f : α → Live β} {cx cx' : Context} {b : β}
    (h : (m >>= f) cx = (.ok b, cx')) : ∃ a mid, m cx = (.ok a, mid) ∧ f a mid = (.ok b, cx') := by
  simp only [bind, ExceptT.bind, ExceptT.mk, StateT.bind] at h
  cases hm : m cx with
  | mk result mid =>
    rw [hm] at h
    cases result with
    | error e => cases h
    | ok a => exact ⟨a, mid, rfl, h⟩

end Live

namespace Render

/-- A list is a row of single nodes. Whatever the registry, what laying out a list does is what is
    done by giving the nodes that have a renderer, up to the first that nobody handles, to their
    renderers one by one, with the separator appended once between any two that follow each other
    and a failure ending it all; and then by reporting the node that nobody handles, if there is
    one. If it does not fail, it tells of a halt exactly if there is such a node, whatever has been
    reported below the others. And a list of one node does what the node does.

    All this holds as well where renderers are programs that may look at the text and at the
    reports before they go on. Laying out a list as one goes is a case of that. -/
theorem dispatchList_isSeparated (reg : Registry Renderer) (sep : String) (ns : List Node) :
    (dispatchList reg sep ns = (do
        separated (dispatch reg) (append sep) (Node.handedOn reg ns)
        haltAt report (Node.unhandled? reg ns)) ∧
      (∀ d, (dispatchList reg sep ns).result = .ok d →
        (d = .unsupported ↔ ∃ n ∈ ns, n.isHandled reg = false)) ∧
      ∀ n, dispatchList reg sep [n] = (do
        let d ← dispatch reg n
        return if d = .unsupported then .unsupported else .rendered)) ∧
    Live.perform (dispatchList reg sep ns) = Live.dispatchListBy reg (Live.renderWith reg) sep ns ∧
    ∀ render : Renderer → Node → Live Unit,
      Live.dispatchListBy reg render sep ns = (do
        separated (Live.dispatchBy reg render) (Live.append sep) (Node.handedOn reg ns)
        haltAt Live.report (Node.unhandled? reg ns)) ∧
      (∀ cx d cx', Live.dispatchListBy reg render sep ns cx = (.ok d, cx') →
        (d = .unsupported ↔ ∃ n ∈ ns, n.isHandled reg = false)) ∧
      ∀ n, Live.dispatchListBy reg render sep [n] = (do
        let d ← Live.dispatchBy reg render n
        return if d = .unsupported then .unsupported else .rendered) := by
  have hlist := dispatchList_eq_separated reg sep ns
  refine ⟨⟨hlist, ?_, ?_⟩, ?_, fun render => ?_⟩
  · intro d hd
    rw [hlist] at hd
    obtain ⟨_, -, hhalt, -⟩ := exists_of_bind_ok hd
    -- the end of the list alone tells of a halt
    rw [← Node.unhandled?_isSome_iff]
    exact unsupported_iff_of_haltAt hhalt
  · intro n
    rw [dispatchList, listNodes_eq_listIn]
    exact listIn_singleton (isDispatch_dispatch reg) _ n
  · rw [dispatchList, Live.perform_listNodes sep false fun n _ => Live.agrees reg n]
    exact Live.listNodes_eq_listIn reg sep false ns
  · have hone := Live.isDispatch_dispatchBy reg render
    have hlive := listIn_eq_separatedBehind hone (Live.append sep) false ns
    refine ⟨hlive, ?_, fun n => listIn_singleton hone _ n⟩
    intro cx d cx' hd
    rw [Live.dispatchListBy, hlive] at hd
    obtain ⟨_, mid, -, hhalt⟩ := Live.exists_of_bind_ok hd
    rw [← Node.unhandled?_isSome_iff]
    exact Live.unsupported_iff_of_haltAt hhalt

/-- Annotations in front of a sum and behind it. The sum halts at its left operand, which is
    reported, and its place in the list counts all the same; so the `nil` behind it is the second
    node that is handed on. The list ends at a group, whose renderer has been taken away. Renderers
    that look whether something has been written come to the same nodes. -/
theorem dispatchList_isSeparated_past_halt :
    let reg := Registry.standard.remove "AstExprGroup"
    let note : Node := .unmodelled ⟨"AstTypeUnion", by decide +kernel⟩ ⟨""⟩ .null
    let cast : Node := .unmodelled ⟨"AstExprTypeAssertion", by decide +kernel⟩ ⟨""⟩ .null
    let sum : Node := .binary ⟨""⟩ "Add" cast cast
    let group : Node := .group ⟨"?"⟩ cast
    let ns := [note, sum, note, .atom ⟨"0,1 - 0,4"⟩ .nil, group, sum]
    let list := dispatchList reg ";" ns
    let look : Renderer → Node → Live Unit :=
      fun _ _ cx => Live.append (if cx.buffer.isEmpty then "first" else "next") cx
    let live := Live.dispatchListBy reg look ";" ns Context.empty
    list.result = .ok .unsupported ∧ (∃ n ∈ ns, n.isHandled reg = false) ∧
      (Context.empty.run list).1 =
        ⟨Buffer.empty.performAll [.append ";", .write "nil" ⟨0, 1⟩ .overwrite],
          [.ofNode cast, .ofNode group]⟩ ∧
      live = (.ok .unsupported, live.2) ∧ live.2.buffer.render = "first;next" ∧
      live.2.unsupported = [.ofNode group] := by
  intro reg note cast sum group ns list look live
  have hlist : list.result = .ok .unsupported := eq_ok_of_toOption (by decide +kernel)
  have hlive : live = (.ok .unsupported, live.2) :=
    Prod.ext (eq_ok_of_toOption (by decide +kernel)) rfl
  obtain ⟨⟨-, hhalt, -⟩, -⟩ := dispatchList_isSeparated reg ";" ns
  have hends : ∃ n ∈ ns, n.isHandled reg = false := (hhalt .unsupported hlist).mp rfl
  refine ⟨hlist, hends, by decide +kernel, hlive, by decide +kernel, by decide +kernel⟩

end Render
end LuauLayout
