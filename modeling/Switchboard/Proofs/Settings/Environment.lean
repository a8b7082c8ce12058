import Switchboard.Proofs.Settings.Guess
import Switchboard.Settings.Basic

/-!
# Names from the environment

The names of the application and of a shared queue are texts in environment variables.  On the way
into the settings each is put into a table under the key that the name of its variable spells, where
it stays unless a later variable is put at the same place, above it or below it.  Then it is taken
for a text again, and comes out as what is written for the value that it was guessed to be.

Main results:

- Theorem {lit}`ConfigValue.find?_write_self`: what was written at a place is found there.
- Theorem {lit}`ConfigValue.find?_write_of_apart`: what is written elsewhere leaves a place alone.
- Theorem {lit}`Configuration.find?_ofEnvironment`: what is found at the place of a variable.
- Theorem {lit}`Settings.LoadedFrom.names_restored`: which names settings have, when these are the
  names that were set, and when those of two environments are the same.
- Theorem {lit}`Settings.leading_zeros_lost`: names that were set differently and are the same.
-/

namespace Switchboard

/-! ## Values at places -/

namespace ConfigValue

/-- The value at a place: under a key, and so on through tables. -/
def find? (value : ConfigValue) : List String → Option ConfigValue
  | [] => some value
  | key :: rest => (value.get? key).bind fun below => below.find? rest

theorem get?_eq_search (value : ConfigValue) (key : String) :
    value.get? key = Dictionary.search key value.entries := by
  cases value <;> rfl

theorem search_put_self (key : String) (value : ConfigValue)
    (entries : List (String × ConfigValue)) :
    Dictionary.search key (put key value entries) = some value := by
  induction entries with
  | nil => exact if_pos rfl
  | cons entry rest ih =>
    obtain ⟨k, v⟩ := entry
    rw [put]
    split
    · exact if_pos rfl
    · rename_i hne
      rw [Dictionary.search, if_neg (Ne.symm hne), ih]

theorem search_put_of_ne {key other : String} (hne : other ≠ key) (value : ConfigValue)
    (entries : List (String × ConfigValue)) :
    Dictionary.search other (put key value entries) = Dictionary.search other entries := by
  induction entries with
  | nil => exact if_neg hne
  | cons entry rest ih =>
    obtain ⟨k, v⟩ := entry
    rw [put]
    split
    · rename_i heq
      subst heq
      rw [Dictionary.search, Dictionary.search, if_neg hne, if_neg hne]
    · rw [Dictionary.search, Dictionary.search, ih]

end ConfigValue

/-- A place that is not touched when something is written at the end of a path: the path turns off
to another key before either ends. -/
def ConfigPath.Apart : List String → List PathStep → Prop
  | key :: place, .key name :: path => key ≠ Text.lowercase name ∨ Apart place path
  | _, _ => False

instance ConfigPath.decidableApart :
    (place : List String) → (path : List PathStep) → Decidable (ConfigPath.Apart place path)
  | key :: place, .key name :: path =>
    have := decidableApart place path
    inferInstanceAs (Decidable (key ≠ Text.lowercase name ∨ Apart place path))
  | [], _ => isFalse id
  | _ :: _, [] => isFalse id
  | _ :: _, .index _ :: _ => isFalse id

namespace ConfigValue

open ConfigPath

section
variable (target : ConfigValue) (name : String) (value : ConfigValue)

/-- What is no table is put under the key as it is. -/
theorem merge_of_not_table (hvalue : ∀ entries, value ≠ table entries) :
    merge target name value = table (put (Text.lowercase name) value target.entries) := by
  rw [merge]
  exact hvalue

/-- Whatever is laid over a value under a key, it changes nothing but what is under that key. -/
theorem exists_merge_eq :
    ∃ new, merge target name value = table (put (Text.lowercase name) new target.entries) := by
  by_cases htable : ∃ entries, value = table entries
  · obtain ⟨entries, rfl⟩ := htable
    exact ⟨_, by rw [merge]⟩
  · exact ⟨value, merge_of_not_table target name value fun entries heq => htable ⟨entries, heq⟩⟩

theorem get?_table (entries : List (String × ConfigValue)) (key : String) :
    (table entries).get? key = Dictionary.search key entries :=
  rfl

/-- At the end of a path there is what was written, if that is no table. -/
theorem get?_write_last (hvalue : ∀ entries, value ≠ table entries) :
    (target.write [.key name] value).get? (Text.lowercase name) = some value := by
  rw [write, merge_of_not_table target name value hvalue, get?_table, search_put_self]

/-- A path goes on in what is under its first key. -/
theorem get?_write_next (step : PathStep) (path : List PathStep) :
    (target.write (.key name :: step :: path) value).get? (Text.lowercase name) =
      some (((target.get? (Text.lowercase name)).getD nothing).write (step :: path) value) := by
  rw [write, get?_table, search_put_self, get?_eq_search]
  exact List.cons_ne_nil step path

/-- A path leaves all other keys than its first one alone. -/
theorem get?_write_of_ne (path : List PathStep) {key : String} (hne : key ≠ Text.lowercase name) :
    (target.write (.key name :: path) value).get? key = target.get? key := by
  rw [get?_eq_search target]
  cases path with
  | nil =>
    obtain ⟨new, hnew⟩ := exists_merge_eq target name value
    rw [write, hnew, get?_table, search_put_of_ne hne]
  | cons step path =>
    rw [write, get?_table, search_put_of_ne hne]
    exact List.cons_ne_nil step path

end

/-- What is written elsewhere leaves a place alone. -/
theorem find?_write_of_apart {place : List String} {path : List PathStep} (h : Apart place path)
    (target value : ConfigValue) : (target.write path value).find? place = target.find? place := by
  induction path generalizing target place with
  | nil => cases place <;> exact h.elim
  | cons step path ih =>
    cases place with
    | nil => exact h.elim
    | cons key place =>
      cases step with
      | index index => exact h.elim
      | key name =>
        by_cases hkey : key = Text.lowercase name
        · subst hkey
          have hrest : Apart place path := h.resolve_left fun hne => hne rfl
          cases path with
          | nil => cases place <;> exact hrest.elim
          | cons step path =>
            rw [find?, get?_write_next, Option.bind_some, ih hrest, find?]
            cases target.get? (Text.lowercase name) with
            | none =>
              cases place with
              | nil => exact hrest.elim
              | cons key place => rfl
            | some below => rfl
        · rw [find?, get?_write_of_ne target name value path hkey, find?]

/-- What was written at a place is found there, if it is no table. -/
theorem find?_write_self {place : List String} (hne : place ≠ [])
    (hlower : ∀ key ∈ place, Text.lowercase key = key) (target : ConfigValue) {value : ConfigValue}
    (hvalue : ∀ entries, value ≠ table entries) :
    (target.write (place.map PathStep.key) value).find? place = some value := by
  induction place generalizing target with
  | nil => exact absurd rfl hne
  | cons key place ih =>
    have hkey : Text.lowercase key = key := hlower key List.mem_cons_self
    cases place with
    | nil =>
      have hlast := get?_write_last target key value hvalue
      rw [hkey] at hlast
      rw [List.map_singleton, find?, hlast]
      rfl
    | cons next place =>
      have hnext := get?_write_next target key value (.key next) (place.map PathStep.key)
      rw [hkey] at hnext
      rw [List.map_cons, List.map_cons, find?, hnext, Option.bind_some]
      exact ih (List.cons_ne_nil next place)
        (fun k hk => hlower k (List.mem_cons_of_mem key hk)) _

end ConfigValue

/-! ## Variables -/

namespace Configuration

open ConfigPath ConfigValue

/-- The path that the name of a variable stands for, if it is one of the switchboard's. -/
def variablePath? (name : String) : Option (List PathStep) :=
  (variableKey? name).map ofKey

/-- What a variable puts at which path. -/
def assignment? (setting : String × String) : Option (List PathStep × ConfigValue) :=
  (variablePath? setting.1).map fun path => (path, ofGuess setting.2)

theorem ofEnvironment_eq (environment : List (String × String)) :
    ofEnvironment environment = writeAll empty (environment.filterMap assignment?) := by
  rw [ofEnvironment, ofEntries, List.map_filterMap]
  congr 2
  funext setting
  rw [assignment?, variablePath?]
  cases variableKey? setting.1 <;> rfl

/-- A variable is set to a value, and no variable after it touches its place. -/
def Counts (environment : List (String × String)) (name value : String) (place : List String) :
    Prop :=
  ∃ before after, environment = before ++ (name, value) :: after ∧
    ∀ other ∈ after, ∀ path ∈ variablePath? other.1, Apart place path

/-- Values that are written elsewhere leave a place alone. -/
theorem find?_writeAll_of_apart {place : List String}
    {entries : List (List PathStep × ConfigValue)} (h : ∀ entry ∈ entries, Apart place entry.1)
    (configuration : ConfigValue) :
    (writeAll configuration entries).find? place = configuration.find? place := by
  induction entries generalizing configuration with
  | nil => rfl
  | cons entry rest ih =>
    have hrest := ih (fun e he => h e (List.mem_cons_of_mem entry he))
      (configuration.write entry.1 entry.2)
    exact hrest.trans (find?_write_of_apart (h entry List.mem_cons_self) configuration entry.2)

/-- What is found in the place of a variable that counts is what its value is guessed to be. -/
theorem find?_ofEnvironment {environment : List (String × String)} {name value : String}
    {place : List String} (h : Counts environment name value place) (hne : place ≠ [])
    (hlower : ∀ key ∈ place, Text.lowercase key = key)
    (hname : variablePath? name = some (place.map PathStep.key)) :
    (ofEnvironment environment).find? place = some (ofGuess value) := by
  obtain ⟨before, after, rfl, hafter⟩ := h
  have hassignment : assignment? (name, value) = some (place.map PathStep.key, ofGuess value) := by
    rw [assignment?, hname]
    rfl
  have hapart : ∀ entry ∈ after.filterMap assignment?, Apart place entry.1 := by
    intro entry hmem
    obtain ⟨other, hother, heq⟩ := List.mem_filterMap.mp hmem
    obtain ⟨path, hpath, rfl⟩ := Option.map_eq_some_iff.mp heq
    exact hafter other hother path hpath
  have hvalue : ∀ entries, ofGuess value ≠ table entries := by
    intro entries heq
    have hguessed := guessed_ofGuess value
    rw [heq] at hguessed
    cases hguessed
  rw [ofEnvironment_eq, List.filterMap_append, List.filterMap_cons_some hassignment, writeAll,
    List.foldl_append, List.foldl_cons]
  exact (find?_writeAll_of_apart hapart _).trans (find?_write_self hne hlower _ hvalue)

end Configuration

/-! ## Settings -/

namespace Settings

open ConfigValue Switchboard.Configuration

theorem exists_of_bind_eq_ok {ε α β : Type} {first : Except ε α} {next : α → Except ε β} {b : β}
    (h : first >>= next = .ok b) : ∃ a, first = .ok a ∧ next a = .ok b := by
  cases first with
  | error e => cases h
  | ok a => exact ⟨a, rfl, h⟩

theorem exists_of_map_eq_ok {ε α β : Type} {first : Except ε α} {f : α → β} {b : β}
    (h : first.map f = .ok b) : ∃ a, first = .ok a ∧ f a = b := by
  cases first with
  | error e => cases h
  | ok a => exact ⟨a, rfl, Except.ok.inj h⟩

/-- The key of the application's name. -/
def applicationPlace : List String :=
  ["application_name"]

/-- The keys of the name of a shared queue. -/
def queuePlace : List String :=
  ["naming", "queue_name"]

theorem textAt_of_text? {value : ConfigValue} {written : String} (h : value.text? = some written)
    (key : String) : textAt key value = .ok written := by
  rw [textAt, h]

theorem optionalTextAt_of_text? {value : ConfigValue} {written : String}
    (h : value.text? = some written) (key : String) :
    optionalTextAt key value = .ok (some written) := by
  have hvalue : value ≠ .nothing := by
    rintro rfl
    cases h
  rw [optionalTextAt, textAt_of_text? h]
  · rfl
  · exact hvalue

/-- Settings come from a name for the application and from what is set for the naming. -/
theorem ofConfiguration_eq_ok {configuration : ConfigValue} {settings : Settings}
    (h : ofConfiguration configuration = .ok settings) :
    (∃ value, configuration.get? "application_name" = some value ∧
        textAt "application_name" value = .ok settings.applicationName) ∧
      orDefault namingSettings (.perType, none) (configuration.get? "naming") =
        .ok (settings.namingKind, settings.queueName) := by
  unfold ofConfiguration at h
  obtain ⟨name, hname, h⟩ := exists_of_bind_eq_ok h
  obtain ⟨⟨kind, queue⟩, hnaming, h⟩ := exists_of_bind_eq_ok h
  obtain ⟨visibility, -, h⟩ := exists_of_bind_eq_ok h
  obtain ⟨wait, -, h⟩ := exists_of_bind_eq_ok h
  cases name with
  | none => cases h
  | some name =>
    dsimp only at h
    split at h
    · cases h
    · cases h
      refine ⟨?_, hnaming⟩
      cases hvalue : configuration.get? "application_name" with
      | none =>
        rw [hvalue] at hname
        cases hname
      | some value =>
        rw [hvalue] at hname
        obtain ⟨written, hwritten, hsome⟩ := exists_of_map_eq_ok hname
        cases hsome
        exact ⟨value, rfl, hwritten⟩

/-- The name of the application is what its variable comes back as. -/
theorem applicationName_of_find? {configuration : ConfigValue} {settings : Settings}
    (h : ofConfiguration configuration = .ok settings) {value : String}
    (hfind : configuration.find? applicationPlace = some (ofGuess value)) :
    settings.applicationName = restored value := by
  obtain ⟨⟨found, hfound, hname⟩, -⟩ := ofConfiguration_eq_ok h
  rw [applicationPlace, find?, hfound] at hfind
  cases hfind
  rw [textAt_of_text? (text?_ofGuess value)] at hname
  exact (Except.ok.inj hname).symm

/-- The name of a shared queue is what its variable comes back as. -/
theorem queueName_of_find? {configuration : ConfigValue} {settings : Settings}
    (h : ofConfiguration configuration = .ok settings) {value : String}
    (hfind : configuration.find? queuePlace = some (ofGuess value)) :
    settings.queueName = some (restored value) := by
  obtain ⟨-, hnaming⟩ := ofConfiguration_eq_ok h
  obtain ⟨naming, hfound, hbelow⟩ := Option.bind_eq_some_iff.mp hfind
  rw [hfound, orDefault] at hnaming
  obtain ⟨found, hqueue, hlast⟩ := Option.bind_eq_some_iff.mp hbelow
  cases hlast
  cases naming with
  | table entries =>
    have hsearch : Dictionary.search "queue_name" entries = some (ofGuess value) := hqueue
    obtain ⟨kind, -, hrest⟩ := exists_of_bind_eq_ok hnaming
    obtain ⟨queue, hread, hpair⟩ := exists_of_bind_eq_ok hrest
    rw [hsearch, orDefault, optionalTextAt_of_text? (text?_ofGuess value)] at hread
    cases hread
    exact (congrArg Prod.snd (Except.ok.inj hpair)).symm
  | _ => cases hqueue

/-- Settings that were loaded from an environment in which a name for the application and a name for
a shared queue are set. -/
structure LoadedFrom (environment : List (String × String)) (application queue : String)
    (settings : Settings) : Prop where
  loaded : load environment = .ok settings
  application : Counts environment "CQRS__APPLICATION_NAME" application applicationPlace
  queue : Counts environment "CQRS__NAMING__QUEUE_NAME" queue queuePlace

namespace LoadedFrom

variable {environment : List (String × String)} {application queue : String} {settings : Settings}

theorem applicationName_eq (h : LoadedFrom environment application queue settings) :
    settings.applicationName = restored application :=
  applicationName_of_find? h.loaded
    (find?_ofEnvironment h.application (by decide) (by decide +kernel) (by decide +kernel))

theorem queueName_eq (h : LoadedFrom environment application queue settings) :
    settings.queueName = some (restored queue) :=
  queueName_of_find? h.loaded
    (find?_ofEnvironment h.queue (by decide) (by decide +kernel) (by decide +kernel))

/-- The names that settings have from an environment are what is written for the values that were
guessed.  They are what was set if and only if that is in the one form in which its value is
written, and two environments come to the same name if and only if they set values that are alike.
Every tag has the one queue of the two names. -/
theorem names_restored (h : LoadedFrom environment application queue settings)
    (hshared : settings.namingKind = .shared) :
    settings.applicationName = restored application ∧
      settings.queueName = some (restored queue) ∧
      (settings.applicationName = application ↔ Canonical application) ∧
      (settings.queueName = some queue ↔ Canonical queue) ∧
      (∀ tag, settings.queueNaming.queueName tag =
        settings.applicationName ++ "-" ++ restored queue) ∧
      ∀ environment' application' queue' settings',
        LoadedFrom environment' application' queue' settings' →
          (settings.applicationName = settings'.applicationName ↔
            Alike (ofGuess application) (ofGuess application')) ∧
          (settings.queueName = settings'.queueName ↔ Alike (ofGuess queue) (ofGuess queue')) := by
  refine ⟨h.applicationName_eq, h.queueName_eq, ?_, ?_, ?_, ?_⟩
  · rw [h.applicationName_eq]
    exact restored_eq_self_iff application
  · rw [h.queueName_eq, Option.some.injEq]
    exact restored_eq_self_iff queue
  · intro tag
    rw [queueNaming, hshared, h.queueName_eq]
    rfl
  · intro environment' application' queue' settings' h'
    rw [h.applicationName_eq, h'.applicationName_eq, h.queueName_eq, h'.queueName_eq,
      Option.some.injEq]
    exact ⟨restored_eq_iff application application', restored_eq_iff queue queue'⟩

end LoadedFrom

/-- An environment that names an application and a shared queue. -/
def sharedEnvironment (application : String) : List (String × String) :=
  [("CQRS__APPLICATION_NAME", application), ("CQRS__NAMING__STRATEGY", "shared"),
    ("CQRS__NAMING__QUEUE_NAME", "commands")]

/-- The settings of an application with a shared queue. -/
def sharedSettings (application : String) : Settings :=
  ⟨application, .shared, some "commands", defaultVisibilityMillis, defaultWaitMillis⟩

/-- Nothing comes after the names to touch them. -/
theorem loadedFrom_sharedEnvironment {application : String} {settings : Settings}
    (h : load (sharedEnvironment application) = .ok settings) :
    LoadedFrom (sharedEnvironment application) application "commands" settings where
  loaded := h
  application := ⟨[], _, rfl, by decide +kernel⟩
  queue := ⟨(sharedEnvironment application).take 2, [], rfl, by decide +kernel⟩

theorem load_sharedEnvironment_seven :
    load (sharedEnvironment "007") = .ok (sharedSettings "7") ∧
      load (sharedEnvironment "7") = .ok (sharedSettings "7") := by
  decide +kernel

/-- A name with zeros in front does not come back as it was, and is no other than the one without
them. -/
theorem names_restored_seven :
    LoadedFrom (sharedEnvironment "007") "007" "commands" (sharedSettings "7") ∧
      (sharedSettings "7").namingKind = .shared ∧ ¬ Canonical "007" ∧ Canonical "commands" ∧
      Alike (ofGuess "007") (ofGuess "7") := by
  have hseven : LoadedFrom (sharedEnvironment "007") "007" "commands" (sharedSettings "7") :=
    loadedFrom_sharedEnvironment load_sharedEnvironment_seven.1
  have hplain : LoadedFrom (sharedEnvironment "7") "7" "commands" (sharedSettings "7") :=
    loadedFrom_sharedEnvironment load_sharedEnvironment_seven.2
  obtain ⟨-, -, happlication, hqueue, -, hother⟩ := hseven.names_restored rfl
  refine ⟨hseven, rfl, fun hcanonical => ?_, hqueue.mp rfl, ?_⟩
  · exact absurd (happlication.mpr hcanonical) (by decide)
  · exact (hother _ "7" _ _ hplain).1.mp rfl

/-- Zeros in front of a name are lost, in the names of queues too, so that two applications which
are named by different texts share them. -/
theorem leading_zeros_lost :
    load (sharedEnvironment "007") = .ok (sharedSettings "7") ∧
      load (sharedEnvironment "7") = .ok (sharedSettings "7") ∧
      (sharedSettings "7").applicationName ≠ "007" ∧
      (sharedSettings "7").queueNaming.queueName "Ping" = "7-commands" :=
  ⟨load_sharedEnvironment_seven.1, load_sharedEnvironment_seven.2, by decide, by decide⟩

end Settings
end Switchboard
