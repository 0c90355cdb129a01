import Linkage.Classification

set_option autoImplicit false

namespace Linkage

namespace Item

def import? : Item → Option Import
  | .importing node => some node
  | .exporting _ | .reexporting _ => none

def export? : Item → Option Export
  | .exporting node => some node
  | .importing _ | .reexporting _ => none

def reexport? : Item → Option Reexport
  | .reexporting node => some node
  | .importing _ | .exporting _ => none

end Item

namespace Graph

def ofItems (items : List Item) : Graph :=
  ⟨items.filterMap Item.import?, items.filterMap Item.export?, items.filterMap Item.reexport?⟩

def size (g : Graph) : Nat := g.imports.length + g.exports.length + g.reexports.length

theorem append_assoc (g h k : Graph) : (g.append h).append k = g.append (h.append k) := by
  simp only [append, List.append_assoc]

theorem empty_append (g : Graph) : empty.append g = g := rfl

theorem of_items_cons (item : Item) (items : List Item) :
    ofItems (item :: items) = item.toGraph.append (ofItems items) := by
  cases item <;> rfl

theorem of_items_size (items : List Item) : (ofItems items).size = items.length := by
  induction items with
  | nil => rfl
  | cons item items ih =>
      rw [of_items_cons, List.length_cons, ← ih]
      cases item <;> simp only [size, append, Item.toGraph, List.length_append, List.length_cons, List.length_nil] <;>
        omega

theorem mem_imports (items : List Item) (node : Import) (member : node ∈ (ofItems items).imports) :
    .importing node ∈ items := by
  obtain ⟨item, listed, view⟩ := List.mem_filterMap.mp member
  cases item <;> cases view
  exact listed

theorem mem_reexports (items : List Item) (node : Reexport) (member : node ∈ (ofItems items).reexports) :
    .reexporting node ∈ items := by
  obtain ⟨item, listed, view⟩ := List.mem_filterMap.mp member
  cases item <;> cases view
  exact listed

end Graph

namespace Classification

def context (resolve : Resolution) (source : Bytes) (file directory : Text) : Context :=
  ⟨source, file, fun raw => resolve raw directory (some file)⟩

def Succeeds (ctx : Context) (n : Node) : Prop := ∃ item, (statement ctx n).outcome = .ok item

def item? (ctx : Context) (n : Node) : Option Item :=
  match (statement ctx n).outcome with
  | .ok item => item
  | .error _ => none

def probesOf (ctx : Context) (nodes : List Node) : List Text := nodes.flatMap fun n => (statement ctx n).probes

theorem statement_broken (ctx : Context) (n : Node) (kind : n.kind = Node.errorKind) :
    statement ctx n =
      if n.mentionsModule then .ofExcept (unsupported ctx .unparseable n.span) else .pure none := by
  simp only [statement, kind, beq_self_eq_true, if_true]

theorem statement_import (ctx : Context) (n : Node) (kind : n.kind = "import_statement") :
    statement ctx n = if n.hasError then .ofExcept (unsupported ctx (.malformedStatement .importing) n.span)
      else importStatement ctx n := by
  have other : ("import_statement" == Node.errorKind) = false := by decide
  simp only [statement, kind, other, Bool.false_eq_true, beq_self_eq_true, if_true, if_false]

theorem statement_export (ctx : Context) (n : Node) (kind : n.kind = "export_statement") :
    statement ctx n = if n.hasError then .ofExcept (unsupported ctx (.malformedStatement .exporting) n.span)
      else exportStatement ctx n := by
  have other : ("export_statement" == Node.errorKind) = false := by decide
  have notImport : ("export_statement" == "import_statement") = false := by decide
  simp only [statement, kind, other, notImport, Bool.false_eq_true, beq_self_eq_true, if_true, if_false]

-- The kinds that classification looks into; every other statement is passed over.
def statementKinds : List String := [Node.errorKind, "import_statement", "export_statement"]

theorem statement_aside (ctx : Context) (n : Node) (aside : n.kind ∉ statementKinds) :
    statement ctx n = .pure none := by
  simp only [statementKinds, List.mem_cons, List.not_mem_nil, or_false, not_or] at aside
  simp only [statement, beq_eq_false_iff_ne.mpr aside.1, beq_eq_false_iff_ne.mpr aside.2.1,
    beq_eq_false_iff_ne.mpr aside.2.2, Bool.false_eq_true, if_false]

theorem statement_kind_cases (n : Node) :
    n.kind = Node.errorKind ∨ n.kind = "import_statement" ∨ n.kind = "export_statement" ∨ n.kind ∉ statementKinds := by
  by_cases aside : n.kind ∈ statementKinds
  · simp only [statementKinds, List.mem_cons, List.not_mem_nil, or_false] at aside
    rcases aside with broken | importing | exporting
    · exact Or.inl broken
    · exact Or.inr (Or.inl importing)
    · exact Or.inr (Or.inr (Or.inl exporting))
  · exact Or.inr (Or.inr (Or.inr aside))

theorem statements_cons (ctx : Context) (n : Node) (rest : List Node) :
    statements ctx (n :: rest) = (statement ctx n).bind fun item =>
      (statements ctx rest).bind fun graph => .pure ((contribution item).append graph) := rfl

theorem statements_append (ctx : Context) (left right : List Node) :
    statements ctx (left ++ right) = (statements ctx left).bind fun first =>
      (statements ctx right).bind fun second => .pure (first.append second) := by
  induction left with
  | nil =>
      simp only [List.nil_append, statements, Traced.pure_bind, Graph.empty_append]
      exact (Traced.bind_pure _).symm
  | cons n left ih =>
      rw [List.cons_append, statements_cons, statements_cons, ih]
      simp only [Traced.bind_assoc, Traced.pure_bind, Graph.append_assoc]

theorem contribution_append (item : Option Item) (items : List Item) :
    (contribution item).append (Graph.ofItems items) = Graph.ofItems (item.toList ++ items) := by
  cases item with
  | none => exact Graph.empty_append _
  | some item => exact (Graph.of_items_cons item items).symm

theorem statements_succeed (ctx : Context) (nodes : List Node) (succeed : ∀ n ∈ nodes, Succeeds ctx n) :
    statements ctx nodes = ⟨probesOf ctx nodes, .ok (Graph.ofItems (nodes.filterMap (item? ctx)))⟩ := by
  induction nodes with
  | nil => rfl
  | cons n rest ih =>
      obtain ⟨⟨item, done⟩, later⟩ := List.forall_mem_cons.mp succeed
      have own : item? ctx n = item := by simp only [item?, done]
      have gathered : (n :: rest).filterMap (item? ctx) = item.toList ++ rest.filterMap (item? ctx) := by
        cases item <;> simp [own]
      rw [statements_cons, Traced.bind_ok _ _ _ done, ih later, gathered, ← contribution_append]
      simp [Traced.bind, Traced.pure, probesOf]

theorem statements_first_failure (ctx : Context) (before after : List Node) (n : Node) (failure : Failure)
    (succeed : ∀ earlier ∈ before, Succeeds ctx earlier) (failed : (statement ctx n).outcome = .error failure) :
    statements ctx (before ++ n :: after) = ⟨probesOf ctx (before ++ [n]), .error failure⟩ := by
  rw [statements_append, statements_succeed ctx before succeed, statements_cons, Traced.bind_error _ _ _ failed]
  simp [Traced.bind, probesOf]

theorem succeed_or_first_failure (ctx : Context) (nodes : List Node) :
    (∀ n ∈ nodes, Succeeds ctx n) ∨
      ∃ before n after failure, nodes = before ++ n :: after ∧ (∀ earlier ∈ before, Succeeds ctx earlier) ∧
        (statement ctx n).outcome = .error failure := by
  induction nodes with
  | nil => exact Or.inl (by simp)
  | cons n rest ih =>
      cases outcome : (statement ctx n).outcome with
      | error failure => exact Or.inr ⟨[], n, rest, failure, rfl, by simp, outcome⟩
      | ok item =>
          rcases ih with succeed | ⟨before, failing, after, failure, split, succeed, failed⟩
          · exact Or.inl (List.forall_mem_cons.mpr ⟨⟨item, outcome⟩, succeed⟩)
          · exact Or.inr ⟨n :: before, failing, after, failure, by rw [split]; rfl,
              List.forall_mem_cons.mpr ⟨⟨item, outcome⟩, succeed⟩, failed⟩

theorem statements_ok_iff (ctx : Context) (nodes : List Node) :
    (∃ graph, (statements ctx nodes).outcome = .ok graph) ↔ ∀ n ∈ nodes, Succeeds ctx n := by
  constructor
  · rintro ⟨graph, done⟩
    rcases succeed_or_first_failure ctx nodes with succeed | ⟨before, n, after, failure, split, succeed, failed⟩
    · exact succeed
    · rw [split, statements_first_failure ctx before after n failure succeed failed] at done
      contradiction
  · intro succeed
    exact ⟨_, by rw [statements_succeed ctx nodes succeed]⟩

theorem statements_graph (ctx : Context) (nodes : List Node) (graph : Graph)
    (done : (statements ctx nodes).outcome = .ok graph) : graph = Graph.ofItems (nodes.filterMap (item? ctx)) := by
  rw [statements_succeed ctx nodes ((statements_ok_iff ctx nodes).mp ⟨graph, done⟩)] at done
  cases done
  rfl

theorem statements_append_ok (ctx : Context) (left right : List Node) (g h : Graph)
    (first : (statements ctx left).outcome = .ok g) (second : (statements ctx right).outcome = .ok h) :
    statements ctx (left ++ right) =
      ⟨(statements ctx left).probes ++ (statements ctx right).probes, .ok (g.append h)⟩ := by
  rw [statements_append, Traced.bind_ok _ _ _ first, Traced.bind_ok _ _ _ second]
  simp [Traced.pure]

theorem statements_append_error (ctx : Context) (left right : List Node) (failure : Failure)
    (failed : (statements ctx left).outcome = .error failure) :
    statements ctx (left ++ right) = statements ctx left := by
  rw [statements_append, Traced.bind_error _ _ _ failed, ← failed]

theorem classify_all_or_nothing (resolve : Resolution) (source : Bytes) (file directory : Text) (nodes : List Node) :
    ((∃ graph, (classify resolve source file directory nodes).outcome = .ok graph) ↔
      ∀ n ∈ nodes, Succeeds (context resolve source file directory) n) ∧
    ((∀ n ∈ nodes, Succeeds (context resolve source file directory) n) ∧
        (∃ items, items = nodes.filterMap (item? (context resolve source file directory)) ∧
          (Graph.ofItems items).size = items.length ∧
          classify resolve source file directory nodes =
            ⟨probesOf (context resolve source file directory) nodes, .ok (Graph.ofItems items)⟩) ∨
      ∃ before n after failure, nodes = before ++ n :: after ∧
        (∀ earlier ∈ before, Succeeds (context resolve source file directory) earlier) ∧
        (statement (context resolve source file directory) n).outcome = .error failure ∧
        classify resolve source file directory nodes =
          ⟨probesOf (context resolve source file directory) (before ++ [n]), .error failure⟩) ∧
    ∀ left right, nodes = left ++ right →
      (∀ g h, (classify resolve source file directory left).outcome = .ok g →
        (classify resolve source file directory right).outcome = .ok h →
        classify resolve source file directory nodes =
          ⟨(classify resolve source file directory left).probes ++ (classify resolve source file directory right).probes,
            .ok (g.append h)⟩) ∧
      (∀ failure, (classify resolve source file directory left).outcome = .error failure →
        classify resolve source file directory nodes = classify resolve source file directory left) := by
  refine ⟨statements_ok_iff _ nodes, ?_, ?_⟩
  · rcases succeed_or_first_failure (context resolve source file directory) nodes with
      succeed | ⟨before, n, after, failure, split, succeed, failed⟩
    · exact Or.inl ⟨succeed, _, rfl, Graph.of_items_size _, statements_succeed _ nodes succeed⟩
    · refine Or.inr ⟨before, n, after, failure, split, succeed, failed, ?_⟩
      rw [split]
      exact statements_first_failure _ before after n failure succeed failed
  · intro left right split
    rw [split]
    exact ⟨statements_append_ok _ left right, statements_append_error _ left right⟩

end Classification

end Linkage
