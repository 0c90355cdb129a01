import Linkage.Proofs.StatementRun

set_option autoImplicit false

namespace Linkage

namespace Node

mutual

def weight : Node → Nat
  | ⟨_, _, _, _, _, _, children⟩ => weightAll children + 1

def weightAll : List Node → Nat
  | [] => 0
  | n :: rest => n.weight + weightAll rest

end

-- One node looked through: nothing where a child belongs to an import or export, or else the nodes
-- that are still to be looked into.
def lookThrough (pending : List Node) : List Node → Option (List Node)
  | [] => some pending
  | child :: rest =>
      if moduleKinds.contains child.kind then none
      else if child.kind == errorKind then lookThrough (child :: pending) rest
      else lookThrough pending rest

theorem weight_children (n : Node) : n.weight = weightAll n.children + 1 := by
  cases n
  rfl

theorem look_through_weight (children pending later : List Node) (looked : lookThrough pending children = some later) :
    weightAll later ≤ weightAll children + weightAll pending := by
  induction children generalizing pending with
  | nil =>
      cases looked
      exact Nat.le_add_left _ _
  | cons child rest ih =>
      rw [lookThrough] at looked
      split at looked
      · cases looked
      · split at looked
        · have bound := ih (child :: pending) looked
          simp only [weightAll] at bound ⊢
          omega
        · have bound := ih pending looked
          simp only [weightAll]
          omega

def search (pending : List Node) : Bool :=
  match pending with
  | [] => false
  | n :: pending =>
      match _ : lookThrough pending n.children with
      | none => true
      | some later => search later
termination_by weightAll pending
decreasing_by
  have bound := look_through_weight n.children pending later ‹_›
  simp only [weightAll, weight_children]
  omega

def shows (child : Node) : Bool :=
  moduleKinds.contains child.kind || (child.kind == errorKind && child.mentionsModule)

theorem any_mentions_eq (children : List Node) : anyMentionsModule children = children.any shows := by
  induction children with
  | nil => rfl
  | cons child rest ih => rw [anyMentionsModule, List.any_cons, ih, shows]

theorem mentions_eq (n : Node) : n.mentionsModule = n.children.any shows := by
  cases n
  exact any_mentions_eq _

-- One turn of the loop: a child of a module kind ends it, and otherwise the children say what the
-- nodes found among them say.
theorem look_through_shows (children pending : List Node) :
    (lookThrough pending children).elim true (List.any · mentionsModule) =
      (children.any shows || pending.any mentionsModule) := by
  induction children generalizing pending with
  | nil => rfl
  | cons child rest ih =>
      rw [lookThrough, List.any_cons, shows]
      cases moduleKinds.contains child.kind with
      | true => rfl
      | false =>
          cases child.kind == errorKind with
          | true =>
              refine (ih (child :: pending)).trans ?_
              rw [List.any_cons, Bool.false_or, Bool.true_and, ← Bool.or_assoc, Bool.or_comm (rest.any shows)]
          | false => exact ih pending

theorem look_through_mentions (n : Node) (pending : List Node) :
    (lookThrough pending n.children).elim true (List.any · mentionsModule) = (n :: pending).any mentionsModule := by
  rw [look_through_shows, ← mentions_eq, List.any_cons]

theorem search_cons (n : Node) (pending : List Node) :
    search (n :: pending) = (lookThrough pending n.children).elim true search := by
  rw [search]
  split
  · rename_i looked
    rw [looked]
    rfl
  · rename_i later looked
    rw [looked]
    rfl

theorem search_pending (pending : List Node) : search pending = pending.any mentionsModule := by
  induction pending using search.induct with
  | case1 => rw [search, List.any_nil]
  | case2 n pending looked =>
      rw [search_cons, ← look_through_mentions, looked]
      rfl
  | case3 n pending later looked ih =>
      rw [search_cons, ← look_through_mentions, looked]
      exact ih

-- A node and, one below the other, error nodes.
inductive Chain : Node → Node → Prop where
  | here (n : Node) : Chain n n
  | down (n c last : Node) (listed : c ∈ n.children) (broken : c.kind = errorKind) (onward : Chain c last) :
      Chain n last

def LeadsToModule (n : Node) : Prop := ∃ last, Chain n last ∧ ∃ c ∈ last.children, c.kind ∈ moduleKinds

theorem leads_iff (n : Node) :
    LeadsToModule n ↔ ∃ c ∈ n.children, c.kind ∈ moduleKinds ∨ (c.kind = errorKind ∧ LeadsToModule c) := by
  constructor
  · rintro ⟨last, chain, c, listed, kind⟩
    cases chain with
    | here => exact ⟨c, listed, Or.inl kind⟩
    | down _ next _ found broken onward => exact ⟨next, found, Or.inr ⟨broken, last, onward, c, listed, kind⟩⟩
  · rintro ⟨c, listed, kind | ⟨broken, last, onward, opened⟩⟩
    · exact ⟨n, .here n, c, listed, kind⟩
    · exact ⟨last, .down n c last listed broken onward, opened⟩

mutual

theorem mentions_iff (n : Node) : n.mentionsModule = true ↔ LeadsToModule n := by
  cases n with
  | mk kind start stop named field hasError children =>
      exact (any_mentions_iff children).trans (leads_iff ⟨kind, start, stop, named, field, hasError, children⟩).symm

theorem any_mentions_iff (children : List Node) :
    anyMentionsModule children = true ↔
      ∃ c ∈ children, c.kind ∈ moduleKinds ∨ (c.kind = errorKind ∧ LeadsToModule c) := by
  cases children with
  | nil => simp [anyMentionsModule]
  | cons child rest =>
      rw [anyMentionsModule, Bool.or_eq_true, Bool.or_eq_true, Bool.and_eq_true, List.contains_iff_mem, beq_iff_eq,
        mentions_iff child, any_mentions_iff rest]
      simp only [List.mem_cons, exists_eq_or_imp]

end

-- Children in another order, with anything below those that are no error nodes.
inductive Resembles : List Node → List Node → Prop where
  | none : Resembles [] []
  | pair (c d : Node) (cs ds : List Node) (kind : c.kind = d.kind)
      (inner : c.kind = errorKind → Resembles c.children d.children) (rest : Resembles cs ds) :
      Resembles (c :: cs) (d :: ds)
  | reordered (cs ds : List Node) (order : cs.Perm ds) : Resembles cs ds
  | trans (cs ds es : List Node) (first : Resembles cs ds) (second : Resembles ds es) : Resembles cs es

theorem resembles_shows (cs ds : List Node) (alike : Resembles cs ds) : cs.any shows = ds.any shows := by
  induction alike with
  | none => rfl
  | pair c d cs ds kind _ _ innerIh ih =>
      have own : c.shows = d.shows := by
        rw [shows, shows, kind]
        by_cases broken : d.kind = errorKind
        · rw [mentions_eq c, mentions_eq d, innerIh (kind.trans broken)]
        · rw [beq_eq_false_iff_ne.mpr broken, Bool.false_and, Bool.false_and]
      rw [List.any_cons, List.any_cons, own, ih]
  | reordered cs ds order => exact order.any_eq
  | trans cs ds es _ _ first second => exact first.trans second

end Node

namespace Classification

theorem error_search_exact (n : Node) :
    Node.search [n] = n.mentionsModule ∧
    (n.mentionsModule = true ↔ n.LeadsToModule) ∧
    (∀ m : Node, Node.Resembles n.children m.children → m.mentionsModule = n.mentionsModule) ∧
    ∀ ctx, n.kind = Node.errorKind →
      ((∃ failure, (statement ctx n).outcome = .error failure) ↔ n.LeadsToModule) ∧
      (n.LeadsToModule → statement ctx n = ⟨[], .error (.unsupported .unparseable n.span ctx.file)⟩) ∧
      (¬ n.LeadsToModule → statement ctx n = ⟨[], .ok none⟩) := by
  refine ⟨?_, Node.mentions_iff n, ?_, ?_⟩
  · rw [Node.search_pending, List.any_cons, List.any_nil, Bool.or_false]
  · intro m alike
    rw [Node.mentions_eq m, Node.mentions_eq n, Node.resembles_shows _ _ alike]
  · intro ctx kind
    have fails : n.LeadsToModule →
        statement ctx n = ⟨[], .error (.unsupported .unparseable n.span ctx.file)⟩ := by
      intro leads
      rw [statement_broken ctx n kind, if_pos ((Node.mentions_iff n).mpr leads)]
      rfl
    have yields : ¬ n.LeadsToModule → statement ctx n = ⟨[], .ok none⟩ := by
      intro leads
      rw [statement_broken ctx n kind, if_neg (mt (Node.mentions_iff n).mp leads)]
      rfl
    refine ⟨⟨?_, fun leads => ⟨_, congrArg Traced.outcome (fails leads)⟩⟩, fails, yields⟩
    rintro ⟨failure, failed⟩
    by_cases leads : n.LeadsToModule
    · exact leads
    · rw [yields leads] at failed
      cases failed

def strayExport : Node :=
  ⟨Node.errorKind, 0, 30, true, none, true,
    [⟨"statement_block", 0, 9, true, none, false, [⟨"import_statement", 1, 8, true, none, false, []⟩]⟩,
      ⟨Node.errorKind, 9, 20, true, none, true,
        [⟨"identifier", 9, 10, true, none, false, []⟩,
          ⟨Node.errorKind, 11, 20, true, none, true, [⟨"export", 11, 17, false, none, false, []⟩]⟩]⟩]⟩

def strayExportMoved : Node :=
  ⟨Node.errorKind, 0, 30, true, none, true,
    [⟨Node.errorKind, 0, 11, true, none, true,
        [⟨Node.errorKind, 0, 9, true, none, true, [⟨"export", 0, 6, false, none, false, []⟩]⟩,
          ⟨"identifier", 9, 10, true, none, false, []⟩]⟩,
      ⟨"statement_block", 11, 13, true, none, false, []⟩]⟩

def strayImport : Node :=
  ⟨Node.errorKind, 0, 9, true, none, true,
    [⟨"statement_block", 0, 9, true, none, false, [⟨"import_statement", 1, 8, true, none, false, []⟩]⟩]⟩

theorem stray_export_moved : Node.Resembles strayExport.children strayExportMoved.children := by
  refine .trans _ _ _ (.reordered _ _ (.swap _ _ [])) ?_
  refine .pair _ _ _ _ rfl (fun _ => ?_) (.pair _ _ _ _ rfl (fun broken => absurd broken (by decide)) .none)
  refine .trans _ _ _ (.reordered _ _ (.swap _ _ [])) ?_
  refine .pair _ _ _ _ rfl (fun _ => ?_) (.pair _ _ _ _ rfl (fun broken => absurd broken (by decide)) .none)
  exact .pair _ _ _ _ rfl (fun broken => absurd broken (by decide)) .none

def strayContext : Context :=
  context (Resolver.standard.resolve (Disk.ofLists [] [])) [] (Text.ofString "/d/m.js") (Text.ofString "/d")

theorem error_search_exact_stray :
    strayExport.LeadsToModule ∧ Node.search [strayExport] = true ∧ strayExportMoved.mentionsModule = true ∧
      statement strayContext strayExport =
        ⟨[], .error (.unsupported .unparseable ⟨0, 30⟩ (Text.ofString "/d/m.js"))⟩ ∧
      ¬ strayImport.LeadsToModule ∧ statement strayContext strayImport = ⟨[], .ok none⟩ := by
  obtain ⟨loop, leads, order, broken⟩ := error_search_exact strayExport
  obtain ⟨_, aside, _, passed⟩ := error_search_exact strayImport
  have found : strayExport.mentionsModule = true := rfl
  have unfound : ¬ strayImport.LeadsToModule := fun chain => absurd (aside.mpr chain) (by decide)
  exact ⟨leads.mp found, loop.trans found, (order strayExportMoved stray_export_moved).trans found,
    (broken strayContext rfl).2.1 (leads.mp found), unfound, (passed strayContext rfl).2.2 unfound⟩

end Classification

end Linkage
