/-
  LuauLayout.Proofs.Node.Reading

  Which locations of a tree are read, and when.

  Locations are read late. Some nodes read theirs before anything below them is
  laid out, a member reads that of its name behind its base, and assignments,
  expression statements, members and binary operations read none of their own.
  Of what is listed here, an unsupported child may cut off the rest.

    * `Node.mustRead` — the locations that are read if nothing is cut off.
    * `Node.fate`     — what the standard registry makes of a node.
    * `Node.checks`   — what is checked while a node is laid out: the locations
      read, and the unmodelled nodes that have to be blocks.
-/

import LuauLayout.Proofs.Render.Completeness

namespace LuauLayout

/-- Whether a location names a span. -/
def Location.NamesSpan (l : Location) : Prop := ∃ s, l.read = .ok s

/-- A step at which laying out a node may fail. -/
inductive Check where
  /-- A location has to name a span. -/
  | span (l : Location)
  /-- A node has to be a block, which an unmodelled node under this tag is not. -/
  | block (tag : String)

namespace Node

mutual

/-- The locations of a node and of the nodes below it that have to be read to lay all of them
    out, in the order in which they are read. -/
def mustRead (p : Position) : Node → List Location
  | .atom l _ => [l]
  | .block l _ body =>
    match p with
    | .statement => l :: mustReadIn .statement body
    | .operand => mustReadIn .statement body
  | .localDecl l targets values =>
    l :: (mustReadIn .operand targets ++ mustReadInValues values)
  | .assign _ targets values => mustReadIn .operand targets ++ mustReadInValues values
  | .ret l values => l :: mustReadIn .operand values
  | .exprStat _ e => e.mustRead .operand
  | .indexName _ base _ nl _ => base.mustRead .operand ++ nl.toList
  | .group l e => l :: e.mustRead .operand
  | .call l callee args => l :: (callee.mustRead .operand ++ mustReadIn .operand args)
  | .unary l _ e => l :: e.mustRead .operand
  | .binary _ _ left right => left.mustRead .operand ++ right.mustRead .operand
  | .unmodelled .. => []

/-- The locations that the nodes of a list have to read. -/
def mustReadIn (p : Position) : List Node → List Location
  | [] => []
  | n :: rest => n.mustRead p ++ mustReadIn p rest

/-- The locations that the values of an assignment have to read. -/
def mustReadInValues : Option (List Node) → List Location
  | none => []
  | some values => mustReadIn .operand values

end

/-- What the standard registry makes of a node, unless laying it out fails. -/
def fate : Node → Dispatch
  | .unmodelled tag .. =>
    if tag.text = Renderer.doBlockTag then .rendered
    else if isTypeTag tag.text then .ignored
    else .unsupported
  | _ => .rendered

theorem fate_of_renderer? {p : Position} {n : Node} {r : Renderer} (h : n.renderer? p = some r) :
    n.fate = .rendered := by
  cases n with
  | unmodelled tag =>
    have ht : tag.text = Renderer.doBlockTag := by
      by_contra hne
      rw [renderer?, if_neg hne] at h
      cases h
    rw [fate, if_pos ht]
  | _ => rfl

theorem fate_of_no_renderer {p : Position} {n : Node} (h : n.renderer? p = none) :
    n.fate = if isTypeTag n.kind then .ignored else .unsupported := by
  cases n with
  | unmodelled tag =>
    have ht : tag.text ≠ Renderer.doBlockTag := by
      intro heq
      rw [renderer?, if_pos heq] at h
      cases h
    rw [fate, if_neg ht]
    rfl
  | block =>
    cases p with
    | statement => cases h
    | operand => cases h
  | _ => cases h

mutual

/-- What is checked when a node is laid out with the standard registry, in order. What stands
    behind an unsupported child of a node, or behind an unsupported element of a list, is not
    reached. -/
def checks (p : Position) : Node → List Check
  | .atom l _ => [.span l]
  | .block l _ body =>
    match p with
    | .statement => .span l :: checksIn .statement body
    | .operand => checksIn .statement body
  | .localDecl l targets values =>
    .span l :: (checksIn .operand targets ++ checksInValues values)
  | .assign _ targets values => checksIn .operand targets ++ checksInValues values
  | .ret l values => .span l :: checksIn .operand values
  | .exprStat _ e => e.checks .operand
  | .indexName _ base _ nl _ =>
    base.checks .operand ++ (if base.fate = .unsupported then [] else nl.toList.map .span)
  | .group l e => .span l :: e.checks .operand
  | .call l callee args =>
    .span l ::
      (callee.checks .operand ++
        (if callee.fate = .unsupported then [] else checksIn .operand args))
  | .unary l _ e => .span l :: e.checks .operand
  | .binary _ _ left right =>
    left.checks .operand ++ (if left.fate = .unsupported then [] else right.checks .operand)
  | .unmodelled tag .. =>
    if tag.text = Renderer.doBlockTag then [.block tag.text] else []

/-- What is checked for the nodes of a list. -/
def checksIn (p : Position) : List Node → List Check
  | [] => []
  | n :: rest => n.checks p ++ (if n.fate = .unsupported then [] else checksIn p rest)

/-- What is checked for the values of an assignment. -/
def checksInValues : Option (List Node) → List Check
  | none => []
  | some values => checksIn .operand values

end

end Node

namespace Block

/-- The locations of a document that have to be read to lay all of it out. -/
def mustRead (b : Block) : List Location := Node.mustReadIn .statement b.body

/-- What is checked when a document is laid out with the standard registry. -/
def checks (b : Block) : List Check := Node.checksIn .statement b.body

end Block

/-! ## What is checked, against what has to be read -/

/-- The standard registry lays the node out, and its tag is not that of blocks among statements. -/
def Occurrence.IsPlain (o : Occurrence) : Prop :=
  o.node.fate ≠ .unsupported ∧ o.node.kind ≠ Renderer.doBlockTag

/-- Checks made for some nodes read nothing but locations that have to be read, and all of them
    unless something unsupported cuts them off. -/
structure Follows (cs : List Check) (ls : List Location) (os : List Occurrence) : Prop where
  mem_of_span : ∀ l, .span l ∈ cs → l ∈ ls
  exists_of_block : ∀ tag, .block tag ∈ cs →
    tag = Renderer.doBlockTag ∧ ∃ o ∈ os, o.node.kind = Renderer.doBlockTag
  eq_of_plain : (∀ o ∈ os, o.IsPlain) → cs = ls.map .span

namespace Follows

variable {cs ds : List Check} {ls ks : List Location} {os qs : List Occurrence}

theorem nil (os : List Occurrence) : Follows [] [] os :=
  ⟨fun _ h => absurd h List.not_mem_nil, fun _ h => absurd h List.not_mem_nil, fun _ => rfl⟩

theorem span (l : Location) (h : Follows cs ls os) : Follows (.span l :: cs) (l :: ls) os where
  mem_of_span k hk := by
    rcases List.mem_cons.mp hk with hk | hk
    · cases hk
      exact List.mem_cons_self
    · exact List.mem_cons_of_mem _ (h.mem_of_span k hk)
  exists_of_block tag ht := by
    rcases List.mem_cons.mp ht with ht | ht
    · cases ht
    · exact h.exists_of_block tag ht
  eq_of_plain hos := congrArg (Check.span l :: ·) (h.eq_of_plain hos)

theorem cons (o : Occurrence) (h : Follows cs ls os) : Follows cs ls (o :: os) where
  mem_of_span := h.mem_of_span
  exists_of_block tag ht := by
    obtain ⟨rfl, q, hq, hk⟩ := h.exists_of_block tag ht
    exact ⟨rfl, q, List.mem_cons_of_mem _ hq, hk⟩
  eq_of_plain hos := h.eq_of_plain (List.forall_mem_cons.mp hos).2

theorem append (h : Follows cs ls os) (h' : Follows ds ks qs) :
    Follows (cs ++ ds) (ls ++ ks) (os ++ qs) where
  mem_of_span l hl := by
    rw [List.mem_append] at hl ⊢
    exact hl.imp (h.mem_of_span l) (h'.mem_of_span l)
  exists_of_block tag ht := by
    rcases List.mem_append.mp ht with ht | ht
    · obtain ⟨rfl, o, ho, hk⟩ := h.exists_of_block tag ht
      exact ⟨rfl, o, List.mem_append_left _ ho, hk⟩
    · obtain ⟨rfl, o, ho, hk⟩ := h'.exists_of_block tag ht
      exact ⟨rfl, o, List.mem_append_right _ ho, hk⟩
  eq_of_plain hos := by
    rw [List.forall_mem_append] at hos
    rw [List.map_append, h.eq_of_plain hos.1, h'.eq_of_plain hos.2]

/-- What stands behind an unsupported node may be cut off. -/
theorem cut {n : Node} {p : Position} (h : Follows cs ls (n.occurrences p))
    (h' : Follows ds ks qs) :
    Follows (cs ++ (if n.fate = .unsupported then [] else ds)) (ls ++ ks)
      (n.occurrences p ++ qs) := by
  by_cases hn : n.fate = .unsupported
  · -- the node itself is no plain occurrence, so nothing is claimed about equality
    rw [if_pos hn]
    have hmem : (⟨p, n⟩ : Occurrence) ∈ n.occurrences p :=
      List.mem_of_mem_head? (n.head?_occurrences p)
    refine ⟨fun l hl => ?_, fun tag ht => ?_, fun hos => ?_⟩
    · rw [List.append_nil] at hl
      exact List.mem_append_left _ (h.mem_of_span l hl)
    · rw [List.append_nil] at ht
      obtain ⟨rfl, o, ho, hk⟩ := h.exists_of_block tag ht
      exact ⟨rfl, o, List.mem_append_left _ ho, hk⟩
    · exact absurd hn (hos _ (List.mem_append_left _ hmem)).1
  · rw [if_neg hn]
    exact h.append h'

end Follows

namespace Node

theorem follows_checksIn {p : Position} {ns : List Node}
    (h : ∀ n ∈ ns, Follows (n.checks p) (n.mustRead p) (n.occurrences p)) :
    Follows (checksIn p ns) (mustReadIn p ns) (occurrencesIn p ns) := by
  induction ns with
  | nil =>
    rw [checksIn, mustReadIn, occurrencesIn]
    exact .nil []
  | cons n rest ih =>
    obtain ⟨hn, hrest⟩ := List.forall_mem_cons.mp h
    rw [checksIn, mustReadIn, occurrencesIn]
    exact hn.cut (ih hrest)

theorem follows_checksInValues {values : Option (List Node)}
    (h : ∀ vs ∈ values, ∀ n ∈ vs,
      Follows (n.checks .operand) (n.mustRead .operand) (n.occurrences .operand)) :
    Follows (checksInValues values) (mustReadInValues values) (occurrencesInValues values) := by
  cases values with
  | none =>
    rw [checksInValues, mustReadInValues, occurrencesInValues]
    exact .nil []
  | some vs =>
    rw [checksInValues, mustReadInValues, occurrencesInValues]
    exact follows_checksIn (h vs rfl)

theorem follows_checks (n : Node) (p : Position) :
    Follows (n.checks p) (n.mustRead p) (n.occurrences p) := by
  induction n using Node.induct generalizing p with
  | atom l a =>
    rw [checks, mustRead]
    exact (Follows.nil _).span l
  | block l hasEnd body ih =>
    have hbody := follows_checksIn fun n hn => ih n hn .statement
    -- only among statements is the location of a block read
    cases p with
    | statement =>
      rw [checks, mustRead, occurrences]
      exact (hbody.span l).cons _
    | operand =>
      rw [checks, mustRead, occurrences]
      exact hbody.cons _
  | localDecl l targets values iht ihv =>
    have ht := follows_checksIn fun n hn => iht n hn .operand
    have hv := follows_checksInValues fun vs hvs n hn => ihv vs hvs n hn .operand
    rw [checks, mustRead, occurrences]
    exact ((ht.append hv).span l).cons _
  | assign l targets values iht ihv =>
    have ht := follows_checksIn fun n hn => iht n hn .operand
    have hv := follows_checksInValues fun vs hvs n hn => ihv vs hvs n hn .operand
    rw [checks, mustRead, occurrences]
    exact (ht.append hv).cons _
  | ret l values ih =>
    have hv := follows_checksIn fun n hn => ih n hn .operand
    rw [checks, mustRead, occurrences]
    exact (hv.span l).cons _
  | exprStat l e ih =>
    rw [checks, mustRead, occurrences]
    exact (ih .operand).cons _
  | indexName l base name nl op ih =>
    -- the location of the name is the part that an unsupported base cuts off
    rw [checks, mustRead, occurrences, ← List.append_nil (base.occurrences .operand)]
    refine ((ih .operand).cut ?_).cons _
    cases nl with
    | none => exact .nil []
    | some nl => exact (Follows.nil []).span nl
  | group l e ih =>
    rw [checks, mustRead, occurrences]
    exact ((ih .operand).span l).cons _
  | call l callee args ihc iha =>
    have ha := follows_checksIn fun n hn => iha n hn .operand
    rw [checks, mustRead, occurrences]
    exact (((ihc .operand).cut ha).span l).cons _
  | unary l op e ih =>
    rw [checks, mustRead, occurrences]
    exact ((ih .operand).span l).cons _
  | binary l op left right ihl ihr =>
    rw [checks, mustRead, occurrences]
    exact ((ihl .operand).cut (ihr .operand)).cons _
  | unmodelled tag l data =>
    rw [checks, mustRead, occurrences]
    by_cases ht : tag.text = Renderer.doBlockTag
    · rw [if_pos ht]
      refine ⟨fun k hk => ?_, fun k hk => ?_, fun hos => ?_⟩
      · cases List.mem_singleton.mp hk
      · cases List.mem_singleton.mp hk
        exact ⟨ht, _, List.mem_singleton_self _, ht⟩
      · exact absurd ht (hos _ (List.mem_singleton_self _)).2
    · rw [if_neg ht]
      exact .nil _

end Node

/-- The same of a document. -/
theorem Block.follows_checks (b : Block) : Follows b.checks b.mustRead b.occurrences :=
  Node.follows_checksIn fun n _ => n.follows_checks .statement

end LuauLayout
