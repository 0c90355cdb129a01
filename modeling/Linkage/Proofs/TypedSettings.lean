import Linkage.Survey

set_option autoImplicit false

namespace Linkage

namespace Setting

def IsTexts (value : Json) : Prop := ∃ texts, value = .texts texts

def IsInteger (value : Json) : Prop := ∃ n, value = .int n

-- An object whose part under a key, if it is set, is as asked.
def Typed (key : String) (asked : Json → Prop) (value : Json) : Prop :=
  ∃ members, value = .obj members ∧
    ∀ found, Members.get? (Text.ofString key) members = some found → found.isSet = true → asked found

theorem typed_empty (key : String) (asked : Json → Prop) : Typed key asked (.obj []) := by
  refine ⟨[], rfl, ?_⟩
  intro found present
  cases present

theorem typed_present (key : String) (asked : Json → Prop) (members : Members) (value : Json)
    (present : Members.get? (Text.ofString key) members = some value) (own : asked value) :
    Typed key asked (.obj members) := by
  refine ⟨members, rfl, ?_⟩
  intro found listed _
  rw [present] at listed
  cases listed
  exact own

theorem part_typed (key : String) (asked : Json → Prop) (value fallback : Json) (typed : Typed key asked value)
    (standard : asked fallback) : ∃ found, part key value = .ok found ∧ asked (orElse fallback found) := by
  obtain ⟨members, form, own⟩ := typed
  refine ⟨Members.get? (Text.ofString key) members, by rw [form, part], ?_⟩
  cases present : Members.get? (Text.ofString key) members with
  | none => exact standard
  | some found =>
      rw [orElse]
      split
      · rename_i set
        exact own found present set
      · exact standard

theorem section_typed (key : String) (asked : Json → Prop) (value : Json) (typed : Typed key asked value)
    (standard : asked (.obj [])) : ∃ found, section? key value = .ok found ∧ asked found := by
  obtain ⟨found, read, sound⟩ := part_typed key asked value (.obj []) typed standard
  refine ⟨orElse (.obj []) found, ?_, sound⟩
  rw [section?, read, Failure.ok_bind]
  rfl

theorem items_texts (texts : List Text) : items (.texts texts) = .ok (texts.map .str) := rfl

end Setting

open Setting (Typed IsTexts IsInteger)

namespace Settings

structure WellTyped (settings : Settings) : Prop where
  walker : Typed "walker" (fun walker => Typed "extensions" IsTexts walker ∧ Typed "jobs" IsInteger walker) settings
  resolver : Typed "resolver" (fun resolver => Typed "prefixes" IsTexts resolver ∧ Typed "extensions" IsTexts resolver)
    settings

theorem standard_typed : WellTyped standard where
  walker := Setting.typed_present _ _ _ _ rfl
    ⟨Setting.typed_present _ _ _ _ rfl ⟨_, rfl⟩, Setting.typed_present _ _ _ _ rfl ⟨_, rfl⟩⟩
  resolver := Setting.typed_present _ _ _ _ rfl
    ⟨Setting.typed_present _ _ _ _ rfl ⟨_, rfl⟩, Setting.typed_present _ _ _ _ rfl ⟨_, rfl⟩⟩

end Settings

namespace ResolverSettings

theorem entries_typed (key : String) (fallback : List Text) (resolver : Json) (typed : Typed key IsTexts resolver) :
    ∃ texts : List Text, entries key fallback resolver = .ok (texts.map .str) := by
  obtain ⟨found, read, texts, form⟩ := Setting.part_typed key IsTexts resolver (.texts fallback) typed ⟨fallback, rfl⟩
  exact ⟨texts, by rw [entries, read, Failure.ok_bind, form, Setting.items_texts]⟩

theorem of_settings_typed (settings : Settings) (typed : settings.WellTyped) :
    ∃ resolver : Resolver, ofSettings settings = .ok (ofResolver resolver) := by
  obtain ⟨resolver, read, prefixes, extensions⟩ := Setting.section_typed "resolver" _ settings typed.resolver
    ⟨Setting.typed_empty _ _, Setting.typed_empty _ _⟩
  obtain ⟨transports, tagged⟩ := entries_typed "prefixes" Resolver.defaultTransports resolver prefixes
  obtain ⟨endings, ended⟩ := entries_typed "extensions" Resolver.defaultExtensions resolver extensions
  refine ⟨⟨transports, endings⟩, ?_⟩
  rw [ofSettings, read, Failure.ok_bind, tagged, Failure.ok_bind, ended, Failure.ok_bind]
  rfl

end ResolverSettings

namespace Survey

theorem suffixes_texts (texts : List Text) : suffixes (.texts texts) = .ok (texts.map Text.lower) := by
  rw [suffixes, Setting.items_texts, Failure.ok_bind]
  induction texts with
  | nil => rfl
  | cons text texts ih =>
      rw [List.map_cons, List.mapM_cons, ih]
      rfl

theorem jobs_typed (plan : Plan) (walker : Json) (typed : Typed "jobs" IsInteger walker) :
    ∃ jobs, jobsFor plan walker = .ok jobs := by
  rw [jobsFor]
  cases plan.jobs with
  | some jobs => exact ⟨jobs, rfl⟩
  | none =>
      obtain ⟨found, read, n, form⟩ := Setting.part_typed "jobs" IsInteger walker (.int 1) typed ⟨1, rfl⟩
      exact ⟨n, by rw [read, Failure.ok_bind, form, Setting.integer]⟩

theorem resolver_typed (plan : Plan) (settings : Settings) (typed : settings.WellTyped) :
    ∃ resolver, resolverFor plan settings = .ok resolver := by
  rw [resolverFor]
  cases plan.resolver with
  | some resolver => exact ⟨resolver, rfl⟩
  | none =>
      obtain ⟨resolver, read⟩ := ResolverSettings.of_settings_typed settings typed
      exact ⟨_, read⟩

theorem brief_of_typed (host : Host) (plan : Plan) (place project : Path) (settings : Settings) (rules : IgnoreRules)
    (rooted : Project.root host place = .ok project) (given : settingsFor host plan project = .ok settings)
    (typed : settings.WellTyped) (compiled : Project.ignoreRules host project settings = .ok rules) :
    ∃ b wanted, brief host plan place = .ok b ∧ b.project = project ∧ b.rules = rules ∧
      suffixes b.extensions = .ok wanted := by
  obtain ⟨walker, read, listed, counted⟩ := Setting.section_typed "walker" _ settings typed.walker
    ⟨Setting.typed_empty _ _, Setting.typed_empty _ _⟩
  obtain ⟨jobs, asked⟩ := jobs_typed plan walker counted
  obtain ⟨resolver, resolving⟩ := resolver_typed plan settings typed
  obtain ⟨found, present, texts, form⟩ :=
    Setting.part_typed "extensions" IsTexts walker (.texts Resolver.defaultExtensions) listed ⟨_, rfl⟩
  refine ⟨⟨project, jobs, resolver, rules, .texts texts⟩, texts.map Text.lower, ?_, rfl, rfl, suffixes_texts texts⟩
  rw [brief, rooted, Failure.ok_bind, given, Failure.ok_bind, read, Failure.ok_bind, asked, Failure.ok_bind, resolving,
    Failure.ok_bind, compiled, Failure.ok_bind, present, Failure.ok_bind, form]
  rfl

end Survey

end Linkage
