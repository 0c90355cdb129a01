import Linkage.Proofs.PartReading
import Linkage.Proofs.Resolution
import Linkage.Proofs.StatementRun

set_option autoImplicit false

namespace Linkage

namespace Literal

inductive EscapeFault : Failure → Prop where
  | outside : EscapeFault .noCodePoint
  | overflow : EscapeFault .codePointOverflow
  | digits (text : Text) : EscapeFault (.numeral .sixteen text)

theorem point_of_fault (n : Int) (failure : Failure) (failed : pointOf n = .error failure) : EscapeFault failure := by
  rw [pointOf] at failed
  split at failed
  · cases failed
    exact .overflow
  · split at failed
    · cases failed
      exact .outside
    · split at failed
      · cases failed
      · cases failed
        exact .outside

theorem hex_point_fault (digits : Text) (failure : Failure) (failed : hexPoint digits = .error failure) :
    EscapeFault failure := by
  rw [hexPoint] at failed
  split at failed
  · exact point_of_fault _ failure failed
  · cases failed
    exact .digits digits

theorem escape_fault (t : Text) (failure : Failure) (failed : escape t = .error failure) : EscapeFault failure := by
  rw [escape, escapeBody] at failed
  split at failed
  · exact hex_point_fault _ failure failed
  · split at failed
    · exact hex_point_fault _ failure failed
    · split at failed
      · exact point_of_fault _ failure failed
      · split at failed
        · cases failed
        · split at failed <;> cases failed

theorem piece_fault (source : Bytes) (n : Node) (failure : Failure) (failed : piece source n = .error failure) :
    n.kind = "escape_sequence" ∧ escape (n.text source) = .error failure := by
  rw [piece] at failed
  split at failed
  · rename_i kind
    exact ⟨eq_of_beq kind, failed⟩
  · split at failed <;> cases failed

theorem pieces_fault (source : Bytes) (nodes : List Node) (failure : Failure)
    (failed : pieces source nodes = .error failure) :
    ∃ n ∈ nodes, n.kind = "escape_sequence" ∧ escape (n.text source) = .error failure := by
  induction nodes with
  | nil => cases failed
  | cons n rest ih =>
      cases first : piece source n with
      | error fault =>
          rw [pieces, first] at failed
          cases failed
          exact ⟨n, by simp, piece_fault source n _ first⟩
      | ok text =>
          cases later : pieces source rest with
          | error fault =>
              rw [pieces, first, later] at failed
              cases failed
              obtain ⟨other, member, fault⟩ := ih later
              exact ⟨other, by simp [member], fault⟩
          | ok more =>
              rw [pieces, first, later] at failed
              cases failed

end Literal

namespace Resolver

theorem first_file_fails (disk : Disk) (paths : List Text) (failure : Failure)
    (failed : (firstFile disk paths).outcome = .error failure) :
    ∃ path ∈ (firstFile disk paths).probes, disk path = .error failure := by
  have ended := first_file_end disk paths
  generalize firstFile disk paths = search at ended failed ⊢
  cases ended with
  | found before after path split refused hit => cases failed
  | broken before after path fault split refused broke =>
      cases failed
      exact ⟨path, by simp, broke⟩
  | exhausted refused => cases failed

theorem resolve_fails (r : Resolver) (disk : Disk) (raw directory : Text) (importer : Option Text) (failure : Failure)
    (failed : (r.resolve disk raw directory importer).outcome = .error failure) :
    failure = .unresolved raw importer ∨
      ∃ path ∈ (r.resolve disk raw directory importer).probes, disk path = .error failure := by
  cases relative : isRelative (splitTransport r.transports raw).2 with
  | false =>
      rw [resolve_package r disk raw directory importer relative] at failed
      cases failed
  | true =>
      rw [resolve_relative r disk raw directory importer relative] at failed ⊢
      rcases Traced.bind_outcome_error _ _ _ failed with ⟨broken, probes⟩ | ⟨found, _, last⟩
      · rw [probes]
        exact Or.inr (first_file_fails disk _ failure broken)
      · cases found with
        | none =>
            cases last
            exact Or.inl rfl
        | some path => cases last

end Resolver

namespace Classification

def Undecodable (source : Bytes) (n : Node) (failure : Failure) : Prop :=
  ∃ literal piece, n.childInField? "source" = some literal ∧ piece ∈ literal.namedChildren ∧
    piece.kind = "escape_sequence" ∧ Literal.escape (piece.text source) = .error failure ∧ Literal.EscapeFault failure

-- The ways to a failure. Only the second and third leave it to others what the failure is: to the
-- escapes of the literal and to the resolution.
inductive Fails (ctx : Context) (n : Node) : Failure → Prop where
  | refused (reason : Unsupported) : Fails ctx n (.unsupported reason n.span ctx.file)
  | undecodable (failure : Failure) (fault : Undecodable ctx.source n failure) : Fails ctx n failure
  | unresolved (literal : Node) (raw : Text) (failure : Failure) (source : n.childInField? "source" = some literal)
      (cooked : Literal.value literal ctx.source = .ok raw) (fault : (ctx.resolve raw).outcome = .error failure)
      (probes : (statement ctx n).probes = (ctx.resolve raw).probes) : Fails ctx n failure
  | clash (kind : n.kind = "import_statement") (both : BindsTwice n) : Fails ctx n (.parts .wholeAndNamed)

theorem module_of_fails (ctx : Context) (n literal : Node) (failure : Failure)
    (source : n.childInField? "source" = some literal) (failed : (moduleOf ctx literal).outcome = .error failure)
    (probes : (statement ctx n).probes = (moduleOf ctx literal).probes) : Fails ctx n failure := by
  cases cooked : Literal.value literal ctx.source with
  | error fault =>
      have broken : moduleOf ctx literal = ⟨[], .error fault⟩ := by
        rw [moduleOf, cooked]
        rfl
      rw [broken] at failed
      cases failed
      obtain ⟨piece, listed, kind, stuck⟩ := Literal.pieces_fault _ _ _ cooked
      exact .undecodable failure ⟨literal, piece, source, listed, kind, stuck, Literal.escape_fault _ _ stuck⟩
  | ok raw =>
      have asked : moduleOf ctx literal = ctx.resolve raw := by
        rw [moduleOf, cooked]
        exact Traced.pure_bind raw ctx.resolve
      rw [asked] at failed probes
      exact .unresolved literal raw failure source cooked failed probes

theorem import_statement_fails (ctx : Context) (n : Node) (failure : Failure) (kind : n.kind = "import_statement")
    (whole : statement ctx n = importStatement ctx n) (failed : (importStatement ctx n).outcome = .error failure) :
    Fails ctx n failure := by
  cases required : n.childOfKind? "import_require_clause" with
  | some clause =>
      simp only [importStatement, required] at failed
      cases failed
  | none =>
      cases source : n.childInField? "source" with
      | none =>
          simp only [importStatement, required, source] at failed
          cases failed
          exact .refused _
      | some literal =>
          simp only [importStatement, required, source] at failed whole
          rcases Traced.bind_outcome_error _ _ _ failed with ⟨first, probes⟩ | ⟨module, _, rest⟩
          · exact module_of_fails ctx n literal failure source first (by rw [whole]; exact probes)
          · rcases Traced.bind_outcome_error _ _ _ rest with ⟨made, _⟩ | ⟨node, _, last⟩
            · rcases import_node_gives ctx n module with gives | ⟨clash, both⟩
              · obtain ⟨reason, rfl⟩ := gives.failure _ _ failure made
                exact .refused reason
              · cases clash.symm.trans made
                exact .clash kind both
            · cases last

theorem export_statement_fails (ctx : Context) (n : Node) (failure : Failure)
    (whole : statement ctx n = exportStatement ctx n) (failed : (exportStatement ctx n).outcome = .error failure) :
    Fails ctx n failure := by
  cases clear : (ExportParts.ofStatement n).isAmbiguous with
  | true =>
      simp only [exportStatement, clear, if_true] at failed
      cases failed
      exact .refused _
  | false =>
      cases source : n.childInField? "source" with
      | none =>
          have bare : (ExportParts.ofStatement n).source = none := source
          simp only [exportStatement, clear, Bool.false_eq_true, if_false, bare] at failed
          rcases Traced.bind_outcome_error _ _ _ failed with ⟨made, _⟩ | ⟨node, _, last⟩
          · obtain ⟨reason, rfl⟩ := (local_export_gives ctx n.span _).failure _ _ failure made
            exact .refused reason
          · cases last
      | some literal =>
          have given : (ExportParts.ofStatement n).source = some literal := source
          simp only [exportStatement, clear, Bool.false_eq_true, if_false, given] at failed whole
          rcases Traced.bind_outcome_error _ _ _ failed with ⟨first, probes⟩ | ⟨module, _, rest⟩
          · exact module_of_fails ctx n literal failure source first (by rw [whole]; exact probes)
          · rcases Traced.bind_outcome_error _ _ _ rest with ⟨made, _⟩ | ⟨node, _, last⟩
            · obtain ⟨reason, rfl⟩ := (reexport_node_gives ctx n.span _ module).failure _ _ failure made
              exact .refused reason
            · cases last

theorem statement_fails (ctx : Context) (n : Node) (failure : Failure)
    (failed : (statement ctx n).outcome = .error failure) : Fails ctx n failure := by
  rcases statement_kind_cases n with broken | importing | exporting | aside
  · rw [statement_broken ctx n broken] at failed
    split at failed <;> cases failed
    exact .refused _
  · have whole := statement_import ctx n importing
    split at whole
    · rw [whole] at failed
      cases failed
      exact .refused _
    · exact import_statement_fails ctx n failure importing whole (whole ▸ failed)
  · have whole := statement_export ctx n exporting
    split at whole
    · rw [whole] at failed
      cases failed
      exact .refused _
    · exact export_statement_fails ctx n failure whole (whole ▸ failed)
  · rw [statement_aside ctx n aside] at failed
    cases failed

theorem statements_fail (ctx : Context) (nodes : List Node) (failure : Failure)
    (failed : (statements ctx nodes).outcome = .error failure) :
    ∃ before n after, nodes = before ++ n :: after ∧ (∀ earlier ∈ before, Succeeds ctx earlier) ∧
      (statement ctx n).outcome = .error failure ∧ (statements ctx nodes).probes = probesOf ctx (before ++ [n]) := by
  rcases succeed_or_first_failure ctx nodes with succeed | ⟨before, n, after, fault, split, succeed, broken⟩
  · rw [statements_succeed ctx nodes succeed] at failed
    cases failed
  · rw [split, statements_first_failure ctx before after n fault succeed broken] at failed ⊢
    cases failed
    exact ⟨before, n, after, rfl, succeed, broken, rfl⟩

-- The failures that a caller is told to expect: a shape that is refused, with the span of its
-- statement and the file of the module, a specifier without a file, and what a probe reports.
inductive Announced (disk : Disk) (file : Text) (n : Node) (probes : List Text) : Failure → Prop where
  | refused (reason : Unsupported) : Announced disk file n probes (.unsupported reason n.span file)
  | unresolved (raw : Text) : Announced disk file n probes (.unresolved raw (some file))
  | probe (path : Text) (failure : Failure) (probed : path ∈ probes) (fault : disk path = .error failure) :
      Announced disk file n probes failure

theorem classify_failures (r : Resolver) (disk : Disk) (source : Bytes) (file directory : Text) (nodes : List Node)
    (failure : Failure) (failed : (classify (r.resolve disk) source file directory nodes).outcome = .error failure) :
    ∃ before n after, nodes = before ++ n :: after ∧
      (∀ earlier ∈ before, Succeeds (context (r.resolve disk) source file directory) earlier) ∧
      (statement (context (r.resolve disk) source file directory) n).outcome = .error failure ∧
      (Announced disk file n (classify (r.resolve disk) source file directory nodes).probes failure ∨
        Undecodable source n failure ∨
        failure = .parts .wholeAndNamed ∧ n.kind = "import_statement" ∧ BindsTwice n) := by
  obtain ⟨before, n, after, split, succeed, broken, probes⟩ :=
    statements_fail (context (r.resolve disk) source file directory) nodes failure failed
  refine ⟨before, n, after, split, succeed, broken, ?_⟩
  cases statement_fails _ n failure broken with
  | refused reason => exact Or.inl (.refused reason)
  | undecodable failure fault => exact Or.inr (Or.inl fault)
  | clash kind both => exact Or.inr (Or.inr ⟨rfl, kind, both⟩)
  | unresolved literal raw failure given cooked fault asked =>
      rcases Resolver.resolve_fails r disk raw directory (some file) failure fault with rfl | ⟨path, probed, denied⟩
      · exact Or.inl (.unresolved raw)
      · refine Or.inl (.probe path failure ?_ denied)
        have own : path ∈ (statement (context (r.resolve disk) source file directory) n).probes := by
          rw [asked]
          exact probed
        have whole : (classify (r.resolve disk) source file directory nodes).probes =
            probesOf (context (r.resolve disk) source file directory) (before ++ [n]) := probes
        rw [whole]
        exact List.mem_flatMap.mpr ⟨n, by simp, own⟩

-- `import "./a"` where the first file to look for may not be looked at.
def deniedSource : Bytes := [105, 109, 112, 111, 114, 116, 32, 34, 46, 47, 97, 34, 59]

def deniedImport : Node :=
  ⟨"import_statement", 0, 13, true, none, false,
    [⟨"import", 0, 6, false, none, false, []⟩,
     ⟨"string", 7, 12, true, some "source", false, [⟨"string_fragment", 8, 11, true, none, false, []⟩]⟩,
     ⟨";", 12, 13, false, none, false, []⟩]⟩

theorem classify_failures_denied :
    (classify (Resolver.standard.resolve (Disk.ofLists [] [Text.ofString "/d/a.js"])) deniedSource
      (Text.ofString "/d/m.js") (Text.ofString "/d") [deniedImport]).outcome =
        .error (.disk .denied (Text.ofString "/d/a.js")) ∧
    ∃ n ∈ [deniedImport],
      Announced (Disk.ofLists [] [Text.ofString "/d/a.js"]) (Text.ofString "/d/m.js") n
          (["/d/a", "/d/a.js"].map Text.ofString) (.disk .denied (Text.ofString "/d/a.js")) ∨
        Undecodable deniedSource n (.disk .denied (Text.ofString "/d/a.js")) ∨
        Failure.disk .denied (Text.ofString "/d/a.js") = .parts .wholeAndNamed ∧ n.kind = "import_statement" ∧
          BindsTwice n := by
  have failed : (classify (Resolver.standard.resolve (Disk.ofLists [] [Text.ofString "/d/a.js"])) deniedSource
      (Text.ofString "/d/m.js") (Text.ofString "/d") [deniedImport]).outcome =
        .error (.disk .denied (Text.ofString "/d/a.js")) := rfl
  obtain ⟨before, n, after, split, _, _, cause⟩ := classify_failures Resolver.standard
    (Disk.ofLists [] [Text.ofString "/d/a.js"]) deniedSource (Text.ofString "/d/m.js") (Text.ofString "/d")
    [deniedImport] _ failed
  exact ⟨failed, n, by rw [split]; simp, cause⟩

-- `import "\u{110000}"`, with an escape one past the last code point.
def beyondSource : Bytes :=
  [105, 109, 112, 111, 114, 116, 32, 34, 92, 117, 123, 49, 49, 48, 48, 48, 48, 125, 34, 59]

def beyondImport : Node :=
  ⟨"import_statement", 0, 20, true, none, false,
    [⟨"import", 0, 6, false, none, false, []⟩,
     ⟨"string", 7, 19, true, some "source", false, [⟨"escape_sequence", 8, 18, true, none, false, []⟩]⟩,
     ⟨";", 19, 20, false, none, false, []⟩]⟩

theorem classify_unannounced_escape :
    classify (Resolver.standard.resolve (Disk.ofLists [] [])) beyondSource (Text.ofString "/d/m.js")
      (Text.ofString "/d") [beyondImport] = ⟨[], .error .noCodePoint⟩ ∧
    ¬ Announced (Disk.ofLists [] []) (Text.ofString "/d/m.js") beyondImport [] .noCodePoint := by
  refine ⟨rfl, ?_⟩
  intro announced
  cases announced with
  | probe path failure probed fault => cases probed

end Classification

end Linkage
