import Linkage.Proofs.Footprint

set_option autoImplicit false

namespace Linkage

namespace Failure

section Lists

variable {α β : Type} (read : α → Except Failure β)

theorem map_cons_ok_iff (entry : α) (entries : List α) (results : List β) :
    (entry :: entries).mapM read = .ok results ↔
      ∃ first rest, read entry = .ok first ∧ entries.mapM read = .ok rest ∧ results = first :: rest := by
  rw [List.mapM_cons]
  constructor
  · intro done
    obtain ⟨first, own, later⟩ := bind_ok _ _ _ done
    obtain ⟨rest, others, last⟩ := bind_ok _ _ _ later
    cases last
    exact ⟨first, rest, own, others, rfl⟩
  · rintro ⟨first, rest, own, others, rfl⟩
    rw [own, ok_bind, others, ok_bind]
    rfl

theorem map_ok_iff (entries : List α) (results : List β) :
    entries.mapM read = .ok results ↔ List.Forall₂ (fun entry result => read entry = .ok result) entries results := by
  induction entries generalizing results with
  | nil =>
      rw [List.mapM_nil, List.forall₂_nil_left_iff]
      constructor
      · intro done
        cases done
        rfl
      · rintro rfl
        rfl
  | cons entry entries ih =>
      rw [map_cons_ok_iff, List.forall₂_cons_left_iff]
      simp only [ih]

theorem map_succeeds_iff (entries : List α) :
    (∃ results, entries.mapM read = .ok results) ↔ ∀ entry ∈ entries, ∃ result, read entry = .ok result := by
  induction entries with
  | nil => exact ⟨fun _ => by simp, fun _ => ⟨[], rfl⟩⟩
  | cons entry entries ih =>
      rw [List.forall_mem_cons, ← ih]
      simp only [map_cons_ok_iff]
      constructor
      · rintro ⟨results, first, rest, own, others, _⟩
        exact ⟨⟨first, own⟩, rest, others⟩
      · rintro ⟨⟨first, own⟩, rest, others⟩
        exact ⟨first :: rest, first, rest, own, others, rfl⟩

-- The failure of the first entry that fails is the failure of all.
theorem map_fails (entries : List α) (failure : Failure) (failed : entries.mapM read = .error failure) :
    ∃ before entry after, entries = before ++ entry :: after ∧
      (∀ earlier ∈ before, ∃ result, read earlier = .ok result) ∧ read entry = .error failure := by
  induction entries with
  | nil => cases failed
  | cons entry entries ih =>
      rw [List.mapM_cons] at failed
      cases own : read entry with
      | error fault =>
          rw [own] at failed
          cases failed
          exact ⟨[], entry, entries, rfl, by simp, own⟩
      | ok first =>
          rw [own, ok_bind] at failed
          cases others : entries.mapM read with
          | ok rest =>
              rw [others] at failed
              cases failed
          | error fault =>
              rw [others] at failed
              cases failed
              obtain ⟨before, last, after, split, earlier, fault⟩ := ih others
              exact ⟨entry :: before, last, after, by rw [split]; rfl,
                List.forall_mem_cons.mpr ⟨⟨first, own⟩, earlier⟩, fault⟩

end Lists

end Failure

namespace VariableKeyword

theorem of_label_iff (word : String) (keyword : VariableKeyword) : ofLabel? word = some keyword ↔ word = keyword.label := by
  constructor
  · intro found
    have same := List.find?_some found
    exact (eq_of_beq same).symm
  · rintro rfl
    cases keyword <;> rfl

end VariableKeyword

namespace Classification

def entriesOf (side : Side) (clause : Node) : List Node :=
  clause.namedChildren.filter (·.kind == specifierKind side)

def declaratorsOf (statement : Node) : List Node :=
  statement.namedChildren.filter (·.kind == "variable_declarator")

section Entries

variable (ctx : Context) (side : Side) (span : Span)

def GivesName (entry : Node) : Prop :=
  (∃ name, entry.childInField? "name" = some name ∧ name.kind ≠ "string") ∧
    ∀ newName, entry.childInField? "alias" = some newName → newName.kind ≠ "string"

def Spells (source : Bytes) (entry : Node) (bound : Binding) : Prop :=
  (∃ name, entry.childInField? "name" = some name ∧ bound.name = name.text source) ∧
    bound.newName = (entry.childInField? "alias").map (·.text source)

-- What is wrong with an entry that gives no name. A missing name comes before all else.
inductive EntryFault (entry : Node) : Unsupported → Prop where
  | nameless (missing : entry.childInField? "name" = none) : EntryFault entry (.malformedSpecifier side)
  | quoted (name : Node) (found : entry.childInField? "name" = some name)
      (string : name.kind = "string" ∨ ∃ newName, entry.childInField? "alias" = some newName ∧ newName.kind = "string") :
      EntryFault entry .stringBindingName

theorem entry_fault_nameless (entry : Node) (reason : Unsupported) (fault : EntryFault side entry reason) :
    ¬ GivesName entry := by
  rintro ⟨⟨own, listed, plain⟩, others⟩
  cases fault with
  | nameless missing => cases missing.symm.trans listed
  | quoted name found string =>
      cases found.symm.trans listed
      rcases string with string | ⟨newName, given, string⟩
      · exact plain string
      · exact others newName given string

theorem spells_unique (source : Bytes) (entry : Node) (a b : Binding) (first : Spells source entry a)
    (second : Spells source entry b) : a = b := by
  obtain ⟨⟨name, found, ofName⟩, ofNewName⟩ := first
  obtain ⟨⟨other, listed, sameName⟩, sameNewName⟩ := second
  cases found.symm.trans listed
  obtain ⟨_, _⟩ := a
  obtain ⟨_, _⟩ := b
  cases ofName
  cases ofNewName
  cases sameName
  cases sameNewName
  rfl

theorem binding_cases (entry : Node) :
    (∃ bound, binding ctx side span entry = .ok bound ∧ GivesName entry ∧ Spells ctx.source entry bound) ∨
      ∃ reason, binding ctx side span entry = .error (.unsupported reason span ctx.file) ∧ EntryFault side entry reason := by
  cases found : entry.childInField? "name" with
  | none =>
      refine Or.inr ⟨.malformedSpecifier side, ?_, .nameless found⟩
      rw [binding, found]
      rfl
  | some name =>
      cases quoted : name.kind == "string" || (entry.childInField? "alias").any (·.kind == "string") with
      | true =>
          refine Or.inr ⟨.stringBindingName, ?_, .quoted name found ?_⟩
          · simp only [binding, found, quoted, if_true]
            rfl
          · simpa [Option.any_eq_true] using quoted
      | false =>
          refine Or.inl ⟨⟨name.text ctx.source, (entry.childInField? "alias").map (·.text ctx.source)⟩, ?_,
            ⟨⟨name, found, ?_⟩, ?_⟩, ⟨name, found, rfl⟩, rfl⟩
          · simp only [binding, found, quoted, Bool.false_eq_true, if_false]
          · simp only [Bool.or_eq_false_iff, beq_eq_false_iff_ne] at quoted
            exact quoted.1
          · intro newName given
            simpa [given] using (Bool.or_eq_false_iff.mp quoted).2

theorem binding_ok_iff (entry : Node) (bound : Binding) :
    binding ctx side span entry = .ok bound ↔ GivesName entry ∧ Spells ctx.source entry bound := by
  rcases binding_cases ctx side span entry with ⟨own, done, gives, spells⟩ | ⟨reason, refused, fault⟩
  · rw [done]
    constructor
    · intro same
      cases same
      exact ⟨gives, spells⟩
    · rintro ⟨_, other⟩
      rw [spells_unique ctx.source entry own bound spells other]
  · rw [refused]
    constructor
    · intro done
      cases done
    · rintro ⟨gives, _⟩
      exact absurd gives (entry_fault_nameless side entry reason fault)

theorem binding_fails (entry : Node) (failure : Failure) (failed : binding ctx side span entry = .error failure) :
    ∃ reason, EntryFault side entry reason ∧ failure = .unsupported reason span ctx.file := by
  rcases binding_cases ctx side span entry with ⟨_, done, _⟩ | ⟨reason, refused, fault⟩
  · cases done.symm.trans failed
  · cases refused.symm.trans failed
    exact ⟨reason, fault, rfl⟩

theorem bindings_map (clause : Node) :
    bindings ctx side span clause = (entriesOf side clause).mapM (binding ctx side span) := by
  rw [bindings, entriesOf]
  generalize clause.namedChildren.filter _ = entries
  induction entries with
  | nil => rfl
  | cons entry entries ih => rw [bindingsOf, ih, List.mapM_cons]

theorem bindings_ok_iff (clause : Node) :
    (∃ bound, bindings ctx side span clause = .ok bound) ↔ ∀ entry ∈ entriesOf side clause, GivesName entry := by
  rw [bindings_map, Failure.map_succeeds_iff]
  constructor
  · intro read entry member
    obtain ⟨bound, done⟩ := read entry member
    exact ((binding_ok_iff ctx side span entry bound).mp done).1
  · intro gives entry member
    rcases binding_cases ctx side span entry with ⟨bound, done, _⟩ | ⟨reason, _, fault⟩
    · exact ⟨bound, done⟩
    · exact absurd (gives entry member) (entry_fault_nameless side entry reason fault)

theorem bindings_spelled (clause : Node) (bound : List Binding) (done : bindings ctx side span clause = .ok bound) :
    List.Forall₂ (Spells ctx.source) (entriesOf side clause) bound := by
  rw [bindings_map, Failure.map_ok_iff] at done
  exact done.imp fun entry binding read => ((binding_ok_iff ctx side span entry binding).mp read).2

theorem bindings_fail (clause : Node) (failure : Failure) (failed : bindings ctx side span clause = .error failure) :
    ∃ before entry after reason, entriesOf side clause = before ++ entry :: after ∧
      (∀ earlier ∈ before, GivesName earlier) ∧ EntryFault side entry reason ∧
      failure = .unsupported reason span ctx.file := by
  rw [bindings_map] at failed
  obtain ⟨before, entry, after, split, earlier, refused⟩ := Failure.map_fails _ _ _ failed
  obtain ⟨reason, fault, same⟩ := binding_fails ctx side span entry failure refused
  refine ⟨before, entry, after, reason, split, ?_, fault, same⟩
  intro passed member
  obtain ⟨bound, read⟩ := earlier passed member
  exact ((binding_ok_iff ctx side span passed bound).mp read).1

end Entries

section Declarators

variable (ctx : Context) (span : Span) (keyword : VariableKeyword)

def DeclaresName (declarator : Node) : Prop :=
  ∃ name, declarator.childInField? "name" = some name ∧ name.kind = "identifier"

def Declares (source : Bytes) (declarator : Node) (item : Declaration × Option VariableKeyword) : Prop :=
  ∃ name, declarator.childInField? "name" = some name ∧ item = (⟨name.text source, none⟩, some keyword)

def declaratorItem (declarator : Node) : Except Failure (Declaration × Option VariableKeyword) :=
  match declarator.childInField? "name" with
  | none => unsupported ctx .destructuring span
  | some name =>
    if name.kind == "identifier" then .ok (⟨name.text ctx.source, none⟩, some keyword)
    else unsupported ctx .destructuring span

theorem declarators_map (nodes : List Node) :
    declarators ctx span keyword nodes = nodes.mapM (declaratorItem ctx span keyword) := by
  induction nodes with
  | nil => rfl
  | cons declarator nodes ih =>
      rw [List.mapM_cons, declarators, declaratorItem, ih]
      cases declarator.childInField? "name" with
      | none => rfl
      | some name => cases named : name.kind == "identifier" <;> simp only [named] <;> rfl

theorem declarator_cases (declarator : Node) :
    (∃ item, declaratorItem ctx span keyword declarator = .ok item ∧ DeclaresName declarator ∧
        Declares keyword ctx.source declarator item) ∨
      declaratorItem ctx span keyword declarator = .error (.unsupported .destructuring span ctx.file) ∧
        ¬ DeclaresName declarator := by
  rw [declaratorItem]
  cases found : declarator.childInField? "name" with
  | none =>
      refine Or.inr ⟨rfl, ?_⟩
      rintro ⟨name, listed, _⟩
      cases found.symm.trans listed
  | some name =>
      by_cases named : name.kind = "identifier"
      · refine Or.inl ⟨_, ?_, ⟨name, found, named⟩, name, found, rfl⟩
        simp only [named, beq_self_eq_true, if_true]
      · refine Or.inr ⟨?_, ?_⟩
        · simp only [beq_eq_false_iff_ne.mpr named, Bool.false_eq_true, if_false]
          rfl
        · rintro ⟨other, listed, kind⟩
          cases found.symm.trans listed
          exact named kind

theorem declarators_ok_iff (nodes : List Node) :
    (∃ items, declarators ctx span keyword nodes = .ok items) ↔ ∀ declarator ∈ nodes, DeclaresName declarator := by
  rw [declarators_map, Failure.map_succeeds_iff]
  apply forall₂_congr
  intro declarator _
  rcases declarator_cases ctx span keyword declarator with ⟨item, done, names, _⟩ | ⟨refused, nameless⟩
  · exact iff_of_true ⟨item, done⟩ names
  · refine iff_of_false ?_ nameless
    rintro ⟨item, done⟩
    cases refused.symm.trans done

theorem declarators_spelled (nodes : List Node) (items : List (Declaration × Option VariableKeyword))
    (done : declarators ctx span keyword nodes = .ok items) :
    List.Forall₂ (Declares keyword ctx.source) nodes items := by
  rw [declarators_map, Failure.map_ok_iff] at done
  refine done.imp fun declarator item read => ?_
  rcases declarator_cases ctx span keyword declarator with ⟨own, made, _, declares⟩ | ⟨refused, _⟩
  · cases made.symm.trans read
    exact declares
  · cases refused.symm.trans read

theorem declarators_fail (nodes : List Node) (failure : Failure)
    (failed : declarators ctx span keyword nodes = .error failure) :
    ∃ before declarator after, nodes = before ++ declarator :: after ∧ (∀ earlier ∈ before, DeclaresName earlier) ∧
      ¬ DeclaresName declarator ∧ failure = .unsupported .destructuring span ctx.file := by
  rw [declarators_map] at failed
  obtain ⟨before, declarator, after, split, earlier, refused⟩ := Failure.map_fails _ _ _ failed
  have passed : ∀ node ∈ before, DeclaresName node :=
    (declarators_ok_iff ctx span keyword before).mp (by rwa [declarators_map, Failure.map_succeeds_iff])
  rcases declarator_cases ctx span keyword declarator with ⟨own, made, _⟩ | ⟨fault, nameless⟩
  · cases made.symm.trans refused
  · cases fault.symm.trans refused
    exact ⟨before, declarator, after, split, passed, nameless, rfl⟩

end Declarators

section Variables

variable (ctx : Context) (span : Span) (n : Node)

theorem variable_items_opened (keyword : VariableKeyword) (opened : opening n = some keyword.label) :
    variableItems ctx span n = declarators ctx span keyword (declaratorsOf n) := by
  have own : VariableKeyword.ofLabel? ((opening n).getD "") = some keyword := by
    rw [opened]
    exact (VariableKeyword.of_label_iff _ _).mpr rfl
  rw [variable_items_opening, own]
  rfl

theorem variable_items_unopened (unopened : ∀ keyword : VariableKeyword, opening n ≠ some keyword.label) :
    variableItems ctx span n = .error (.unsupported (.variableKeyword ((opening n).getD "")) span ctx.file) := by
  have unlabelled : VariableKeyword.ofLabel? ((opening n).getD "") = none := by
    refine Option.eq_none_iff_forall_ne_some.mpr fun keyword found => ?_
    have word := (VariableKeyword.of_label_iff _ _).mp found
    cases first : opening n with
    | none =>
        rw [first] at word
        cases keyword <;> exact absurd word (by decide)
    | some label =>
        rw [first, Option.getD_some] at word
        exact unopened keyword (by rw [first, word])
  rw [variable_items_opening, unlabelled]
  rfl

theorem variable_items_ok_iff :
    (∃ items, variableItems ctx span n = .ok items) ↔
      (∃ keyword : VariableKeyword, opening n = some keyword.label) ∧ ∀ declarator ∈ declaratorsOf n, DeclaresName declarator := by
  by_cases opened : ∃ keyword : VariableKeyword, opening n = some keyword.label
  · obtain ⟨keyword, first⟩ := opened
    rw [variable_items_opened ctx span n keyword first, declarators_ok_iff]
    exact ⟨fun named => ⟨⟨keyword, first⟩, named⟩, fun both => both.2⟩
  · rw [variable_items_unopened ctx span n fun keyword first => opened ⟨keyword, first⟩]
    constructor
    · rintro ⟨items, done⟩
      cases done
    · intro both
      exact absurd both.1 opened

theorem variable_items_spelled (items : List (Declaration × Option VariableKeyword))
    (done : variableItems ctx span n = .ok items) :
    ∃ keyword, opening n = some keyword.label ∧ List.Forall₂ (Declares keyword ctx.source) (declaratorsOf n) items := by
  obtain ⟨⟨keyword, first⟩, _⟩ := (variable_items_ok_iff ctx span n).mp ⟨items, done⟩
  rw [variable_items_opened ctx span n keyword first] at done
  exact ⟨keyword, first, declarators_spelled ctx span keyword _ items done⟩

theorem variable_items_fail (failure : Failure) (failed : variableItems ctx span n = .error failure) :
    (∀ keyword : VariableKeyword, opening n ≠ some keyword.label) ∧
        failure = .unsupported (.variableKeyword ((opening n).getD "")) span ctx.file ∨
      (∃ keyword : VariableKeyword, opening n = some keyword.label) ∧
        ∃ before declarator after, declaratorsOf n = before ++ declarator :: after ∧
          (∀ earlier ∈ before, DeclaresName earlier) ∧ ¬ DeclaresName declarator ∧
          failure = .unsupported .destructuring span ctx.file := by
  by_cases opened : ∃ keyword : VariableKeyword, opening n = some keyword.label
  · obtain ⟨keyword, first⟩ := opened
    rw [variable_items_opened ctx span n keyword first] at failed
    exact Or.inr ⟨⟨keyword, first⟩, declarators_fail ctx span keyword _ failure failed⟩
  · have unopened (keyword : VariableKeyword) : opening n ≠ some keyword.label := fun first => opened ⟨keyword, first⟩
    cases (variable_items_unopened ctx span n unopened).symm.trans failed
    exact Or.inl ⟨unopened, rfl⟩

end Variables

section ImportLists

variable (ctx : Context) (span : Span)

def isNamedList (n : Node) : Bool := n.kind == "named_imports"

theorem import_part_named (parts next : ImportParts) (n : Node) (done : importPart ctx span parts n = .ok next) :
    isNamedList n = true ∧ (∃ bound, bindings ctx .importing span n = .ok bound ∧ next.named = some bound) ∨
      isNamedList n = false ∧ next.named = parts.named := by
  rw [importPart] at done
  split at done
  · rename_i kind
    cases done
    exact Or.inr ⟨by rw [isNamedList, eq_of_beq kind]; rfl, rfl⟩
  · split at done
    · rename_i kind
      refine Or.inr ⟨by rw [isNamedList, eq_of_beq kind]; rfl, ?_⟩
      cases named : n.childOfKind? "identifier" <;> rw [named] at done <;> cases done
      rfl
    · split at done
      · rename_i kind
        obtain ⟨bound, read, last⟩ := Failure.bind_ok _ _ _ done
        cases last
        exact Or.inl ⟨kind, bound, read, rfl⟩
      · rename_i other
        cases done
        exact Or.inr ⟨by simpa [isNamedList] using other, rfl⟩

-- Every list is read, and the last one stays.
theorem import_parts_named (parts last : ImportParts) (nodes : List Node)
    (done : importParts ctx span parts nodes = .ok last) :
    (∀ list ∈ nodes.filter isNamedList, ∃ bound, bindings ctx .importing span list = .ok bound) ∧
      (nodes.filter isNamedList = [] ∧ last.named = parts.named ∨
        ∃ front list bound, nodes.filter isNamedList = front ++ [list] ∧
          bindings ctx .importing span list = .ok bound ∧ last.named = some bound) := by
  induction nodes generalizing parts with
  | nil =>
      cases done
      exact ⟨by simp, Or.inl ⟨rfl, rfl⟩⟩
  | cons n nodes ih =>
      obtain ⟨next, read, rest⟩ := Failure.bind_ok _ _ _ done
      obtain ⟨all, final⟩ := ih next rest
      rcases import_part_named ctx span parts next n read with ⟨isList, bound, own, named⟩ | ⟨other, named⟩
      · rw [List.filter_cons_of_pos isList]
        refine ⟨List.forall_mem_cons.mpr ⟨⟨bound, own⟩, all⟩, Or.inr ?_⟩
        rcases final with ⟨unlisted, kept⟩ | ⟨front, list, later, split, done, kept⟩
        · exact ⟨[], n, bound, by rw [unlisted]; rfl, own, kept.trans named⟩
        · exact ⟨n :: front, list, later, by rw [split]; rfl, done, kept⟩
      · rw [List.filter_cons_of_neg (by simp [other])]
        rcases final with ⟨unlisted, kept⟩ | found
        · exact ⟨all, Or.inl ⟨unlisted, kept.trans named⟩⟩
        · exact ⟨all, Or.inr found⟩

end ImportLists

end Classification

end Linkage
