import ObjectMemory.Settings
import ObjectMemory.Proofs.Text.Numbers

/-!
# Sources of settings

Each setting is taken from the first of three sources that has it.  `FirstOf` says which value that
is, and takes from an environment nothing but what a variable says, an empty one saying nothing
(`Environment.Says`).

The settings meet in two places.  The database path is inside of the install root, wherever that was
taken from, when it has no source of its own; and where there is no install root, a malformed
timeout goes unnoticed.  `ComesTo` has both, and is what resolving comes to (`resolve_eq_iff`).
Since a setting that is explicit never gets to its variable, `ComesTo` is the same for environments
that say the same of the others (`ComesTo.of_agrees`), and so is what they are resolved to.

* `Environment.Says`, `FirstOf` — the sources of one setting;
* `SpellsMilliseconds`, `Configures`, `Rootless`, `Misspells`, `ComesTo` — what settings come to;
* `resolveRoot_eq_ok_iff`, `resolveStore_eq_iff`, `resolveTimeout_eq_ok_iff` — the three settings;
* `Asks`, `Agrees` — the variables that count;
* **`resolve_from_first_sources`** — what is resolved, and from what.
-/

namespace ObjectMemory

/-! ## Sources -/

/-- A variable that is there and not empty says its value. -/
def Environment.Says (environment : Environment) (name text : String) : Prop :=
  environment name = some text ∧ text ≠ ""

/-- A value from the first of three sources that has it: what is explicit, what a variable says,
and a default. -/
inductive FirstOf {α : Type} (explicit : Option α) (environment : Environment) (name : String)
    (means : String → α → Prop) (isDefault : α → Prop) (value : α) : Prop where
  | ofExplicit : explicit = some value → FirstOf explicit environment name means isDefault value
  | ofVariable (text : String) : explicit = none → environment.Says name text → means text value →
      FirstOf explicit environment name means isDefault value
  | ofDefault : explicit = none → (∀ text, ¬ environment.Says name text) → isDefault value →
      FirstOf explicit environment name means isDefault value

section FirstOf

variable {α : Type} {environment other : Environment} {name text : String} {explicit : Option α}
  {means : String → α → Prop} {isDefault : α → Prop} {value setting : α}

lemma Environment.nonEmpty_eq_some_iff :
    environment.nonEmpty name = some text ↔ environment.Says name text := by
  rw [Environment.nonEmpty, Option.filter_eq_some_iff, bne_iff_ne]
  rfl

lemma Environment.nonEmpty_eq_none_iff :
    environment.nonEmpty name = none ↔ ∀ text, ¬ environment.Says name text := by
  simp only [Option.eq_none_iff_forall_ne_some, ne_eq, Environment.nonEmpty_eq_some_iff]

lemma firstOf_explicit :
    FirstOf (some setting) environment name means isDefault value ↔ setting = value := by
  refine ⟨fun h => ?_, fun h => .ofExplicit (congrArg some h)⟩
  cases h with
  | ofExplicit hvalue => exact Option.some.inj hvalue
  | ofVariable _ hnone => cases hnone
  | ofDefault hnone => cases hnone

lemma firstOf_variable (h : environment.nonEmpty name = some text) :
    FirstOf none environment name means isDefault value ↔ means text value := by
  refine ⟨fun hfirst => ?_, .ofVariable text rfl (Environment.nonEmpty_eq_some_iff.mp h)⟩
  cases hfirst with
  | ofExplicit hnone => cases hnone
  | ofVariable other _ hsays hmeans =>
      rw [Environment.nonEmpty_eq_some_iff.mpr hsays] at h
      exact Option.some.inj h ▸ hmeans
  | ofDefault _ hsilent => exact absurd (Environment.nonEmpty_eq_some_iff.mp h) (hsilent text)

lemma firstOf_default (h : environment.nonEmpty name = none) :
    FirstOf none environment name means isDefault value ↔ isDefault value := by
  have hsilent := Environment.nonEmpty_eq_none_iff.mp h
  refine ⟨fun hfirst => ?_, .ofDefault rfl hsilent⟩
  cases hfirst with
  | ofExplicit hnone => cases hnone
  | ofVariable text _ hsays => exact absurd hsays (hsilent text)
  | ofDefault _ _ hdefault => exact hdefault

/-- A variable counts only as far as there is nothing explicit. -/
lemma FirstOf.of_agrees
    (agrees : explicit = none → ∀ text, environment.Says name text ↔ other.Says name text)
    (h : FirstOf explicit environment name means isDefault value) :
    FirstOf explicit other name means isDefault value := by
  cases h with
  | ofExplicit hvalue => exact .ofExplicit hvalue
  | ofVariable text hnone hsays hmeans =>
      exact .ofVariable text hnone ((agrees hnone text).mp hsays) hmeans
  | ofDefault hnone hsilent hdefault =>
      exact .ofDefault hnone (fun text hsays => hsilent text ((agrees hnone text).mpr hsays))
        hdefault

end FirstOf

/-! ## What settings come to -/

/-- A text of a number of milliseconds: digits between blanks, with a plus sign or without, of a
number of 64 bits. -/
def SpellsMilliseconds (text : String) (timeout : ℕ) : Prop :=
  Text.SpellsBetweenBlanks timeout text.toList ∧ timeout < 2 ^ 64

lemma milliseconds?_eq_some_iff {text : String} {timeout : ℕ} :
    milliseconds? text = some timeout ↔ SpellsMilliseconds text timeout :=
  Text.readUnsigned_trim_eq_some_iff

example : milliseconds? "\u3000+00250\n" = some 250 := by decide +kernel

lemma milliseconds?_eq_none_iff {text : String} :
    milliseconds? text = none ↔ ¬ ∃ timeout, SpellsMilliseconds text timeout := by
  simp only [Option.eq_none_iff_forall_ne_some, ne_eq, milliseconds?_eq_some_iff, not_exists]

namespace Settings

variable (settings : Settings) (environment other : Environment) (home : Option String)

/-- Every setting is taken from the first of its sources. -/
structure Configures (configuration : Configuration) : Prop where
  installRoot : FirstOf settings.installRoot environment rootVariable Eq
    (fun root => ∃ directory, home = some directory ∧ joinPath directory ".trashtalk" = root)
    configuration.installRoot
  storePath : FirstOf settings.storePath environment storeVariable Eq
    (joinPath (joinPath configuration.installRoot "db") "instances.db" = ·) configuration.storePath
  busyTimeout : FirstOf settings.busyTimeout environment timeoutVariable SpellsMilliseconds
    (5000 = ·) configuration.busyTimeout

/-- The install root has no source. -/
structure Rootless : Prop where
  not_explicit : settings.installRoot = none
  not_said : ∀ text, ¬ environment.Says rootVariable text
  homeless : home = none

/-- The timeout is taken from a variable that says no number of milliseconds. -/
structure Misspells (text : String) : Prop where
  not_explicit : settings.busyTimeout = none
  said : environment.Says timeoutVariable text
  not_milliseconds : ¬ ∃ timeout, SpellsMilliseconds text timeout

/-- What settings come to: a configuration, or an error.  A missing install root hides a malformed
timeout. -/
def ComesTo : Except SettingsError Configuration → Prop
  | .ok configuration => settings.Configures environment home configuration
  | .error .noHomeDirectory => settings.Rootless environment home
  | .error (.invalidTimeout text) =>
    ¬ settings.Rootless environment home ∧ settings.Misspells environment text

/-- The variables that are asked for a setting: those of the settings that are not explicit. -/
inductive Asks : String → Prop where
  | installRoot : settings.installRoot = none → Asks rootVariable
  | storePath : settings.storePath = none → Asks storeVariable
  | busyTimeout : settings.busyTimeout = none → Asks timeoutVariable

/-- Two environments say the same wherever they are asked. -/
def Agrees : Prop :=
  ∀ name, settings.Asks name → ∀ text, environment.Says name text ↔ other.Says name text

variable {settings environment other home}

/-! ## Each setting -/

lemma resolveRoot_eq_ok_iff {root : String} :
    settings.resolveRoot environment home = .ok root ↔
      FirstOf settings.installRoot environment rootVariable Eq
        (fun root => ∃ directory, home = some directory ∧ joinPath directory ".trashtalk" = root)
        root := by
  rw [resolveRoot.eq_def]
  cases settings.installRoot with
  | some explicit => rw [firstOf_explicit, Except.ok.injEq]
  | none =>
      cases hsays : environment.nonEmpty rootVariable with
      | some text => rw [firstOf_variable hsays, Except.ok.injEq]
      | none =>
          rw [firstOf_default hsays]
          cases home with
          | some directory => simp only [Except.ok.injEq, Option.some.injEq, exists_eq_left']
          | none => simp only [reduceCtorEq, false_and, exists_false]

lemma resolveRoot_eq_error_iff {error : SettingsError} :
    settings.resolveRoot environment home = .error error ↔
      error = .noHomeDirectory ∧ settings.Rootless environment home := by
  constructor
  · intro h
    rw [resolveRoot.eq_def] at h
    split at h
    · cases h
    · cases h
    · cases h
    · next hnone hsilent =>
        exact ⟨(Except.error.inj h).symm, hnone, Environment.nonEmpty_eq_none_iff.mp hsilent, rfl⟩
  · rintro ⟨rfl, hnone, hsilent, rfl⟩
    rw [resolveRoot.eq_def, hnone, Environment.nonEmpty_eq_none_iff.mpr hsilent]

lemma resolveStore_eq_iff {root path : String} :
    settings.resolveStore environment root = path ↔
      FirstOf settings.storePath environment storeVariable Eq
        (joinPath (joinPath root "db") "instances.db" = ·) path := by
  rw [resolveStore]
  cases settings.storePath with
  | some explicit => rw [firstOf_explicit]
  | none =>
      cases hsays : environment.nonEmpty storeVariable with
      | some text => rw [firstOf_variable hsays]
      | none => rw [firstOf_default hsays]

lemma resolveTimeout_eq_ok_iff {timeout : ℕ} :
    settings.resolveTimeout environment = .ok timeout ↔
      FirstOf settings.busyTimeout environment timeoutVariable SpellsMilliseconds (5000 = ·)
        timeout := by
  rw [resolveTimeout]
  cases settings.busyTimeout with
  | some explicit => rw [firstOf_explicit, Except.ok.injEq]
  | none =>
      cases hsays : environment.nonEmpty timeoutVariable with
      | some text =>
          rw [firstOf_variable hsays, ← milliseconds?_eq_some_iff]
          cases hread : milliseconds? text <;> simp [hread]
      | none => rw [firstOf_default hsays, Except.ok.injEq, defaultTimeout]

lemma resolveTimeout_eq_error_iff {error : SettingsError} :
    settings.resolveTimeout environment = .error error ↔
      ∃ text, error = .invalidTimeout text ∧ settings.Misspells environment text := by
  constructor
  · intro h
    rw [resolveTimeout] at h
    split at h
    · cases h
    · next text hnone hsays =>
        split at h
        · cases h
        · next hread =>
            exact ⟨text, (Except.error.inj h).symm, hnone,
              Environment.nonEmpty_eq_some_iff.mp hsays, milliseconds?_eq_none_iff.mp hread⟩
    · cases h
  · rintro ⟨text, rfl, hnone, hsays, hread⟩
    rw [resolveTimeout, hnone, Environment.nonEmpty_eq_some_iff.mpr hsays]
    simp only [milliseconds?_eq_none_iff.mpr hread]

/-! ## All of them -/

lemma resolve_eq_ok_iff {configuration : Configuration} :
    settings.resolve environment home = .ok configuration ↔
      settings.resolveRoot environment home = .ok configuration.installRoot ∧
      settings.resolveStore environment configuration.installRoot = configuration.storePath ∧
      settings.resolveTimeout environment = .ok configuration.busyTimeout := by
  obtain ⟨installRoot, storePath, busyTimeout⟩ := configuration
  rw [resolve]
  cases settings.resolveRoot environment home with
  | error error => simp [bind, Except.bind]
  | ok root =>
      cases settings.resolveTimeout environment with
      | error error => simp [bind, Except.bind]
      | ok timeout => simp +contextual [bind, Except.bind, pure, Except.pure]

lemma resolve_eq_error_iff {error : SettingsError} :
    settings.resolve environment home = .error error ↔
      settings.resolveRoot environment home = .error error ∨
      (∃ root, settings.resolveRoot environment home = .ok root) ∧
        settings.resolveTimeout environment = .error error := by
  rw [resolve]
  cases settings.resolveRoot environment home with
  | error error => simp [bind, Except.bind]
  | ok root =>
      cases settings.resolveTimeout environment <;> simp [bind, Except.bind, pure, Except.pure]

/-- There is an install root unless it has no source. -/
lemma exists_resolveRoot_iff :
    (∃ root, settings.resolveRoot environment home = .ok root) ↔
      ¬ settings.Rootless environment home := by
  cases hroot : settings.resolveRoot environment home with
  | error error =>
      have hrootless := (resolveRoot_eq_error_iff.mp hroot).2
      simp [hrootless]
  | ok root =>
      refine iff_of_true ⟨root, rfl⟩ fun hrootless => ?_
      rw [resolveRoot_eq_error_iff.mpr ⟨rfl, hrootless⟩] at hroot
      cases hroot

/-- Settings are resolved to what they come to. -/
theorem resolve_eq_iff {outcome : Except SettingsError Configuration} :
    settings.resolve environment home = outcome ↔ settings.ComesTo environment home outcome := by
  match outcome with
  | .ok configuration =>
      rw [resolve_eq_ok_iff, resolveRoot_eq_ok_iff, resolveStore_eq_iff, resolveTimeout_eq_ok_iff]
      exact ⟨fun ⟨hroot, hstore, htimeout⟩ => ⟨hroot, hstore, htimeout⟩,
        fun ⟨hroot, hstore, htimeout⟩ => ⟨hroot, hstore, htimeout⟩⟩
  -- only the install root reports the one error, and only the timeout the other
  | .error .noHomeDirectory =>
      rw [resolve_eq_error_iff, resolveRoot_eq_error_iff, resolveTimeout_eq_error_iff]
      simp [ComesTo]
  | .error (.invalidTimeout text) =>
      rw [resolve_eq_error_iff, resolveRoot_eq_error_iff, resolveTimeout_eq_error_iff,
        exists_resolveRoot_iff]
      simp [ComesTo]

/-! ## Environments -/

lemma Agrees.symm (h : settings.Agrees environment other) : settings.Agrees other environment :=
  fun name hasks text => (h name hasks text).symm

lemma Rootless.of_agrees (h : settings.Rootless environment home)
    (agrees : settings.Agrees environment other) : settings.Rootless other home where
  not_explicit := h.not_explicit
  not_said := fun text hsays =>
    h.not_said text ((agrees _ (.installRoot h.not_explicit) text).mpr hsays)
  homeless := h.homeless

/-- What settings come to depends on what their environment says where it is asked. -/
lemma ComesTo.of_agrees {outcome : Except SettingsError Configuration}
    (h : settings.ComesTo environment home outcome) (agrees : settings.Agrees environment other) :
    settings.ComesTo other home outcome := by
  match outcome with
  | .ok configuration =>
      exact
        { installRoot := h.installRoot.of_agrees fun hnone => agrees _ (.installRoot hnone)
          storePath := h.storePath.of_agrees fun hnone => agrees _ (.storePath hnone)
          busyTimeout := h.busyTimeout.of_agrees fun hnone => agrees _ (.busyTimeout hnone) }
  | .error .noHomeDirectory => exact Rootless.of_agrees h agrees
  | .error (.invalidTimeout text) =>
      obtain ⟨hrooted, hnone, hsays, hread⟩ := h
      exact ⟨fun hrootless => hrooted (hrootless.of_agrees agrees.symm), hnone,
        (agrees _ (.busyTimeout hnone) text).mp hsays, hread⟩

lemma resolve_of_agrees (agrees : settings.Agrees environment other) :
    settings.resolve other home = settings.resolve environment home :=
  resolve_eq_iff.mpr ((resolve_eq_iff.mp rfl).of_agrees agrees)

lemma agrees_update {name : String} (h : ¬ settings.Asks name) (said : Option String) :
    settings.Agrees environment (Function.update environment name said) := by
  intro asked hasks text
  have hne : asked ≠ name := fun heq => h (heq ▸ hasks)
  rw [Environment.Says, Environment.Says, Function.update_of_ne hne]

/-- **Settings are taken from the first source of each.**  What is resolved is the configuration in
which every setting is what its first source has.  There is none because of the install root exactly
if that has no source, and because of the timeout exactly if the install root has one and the
timeout is taken from a variable with another text than a number of milliseconds.  Environments that
say the same where they are asked are resolved to the same, and a variable that is not asked may be
anything. -/
theorem resolve_from_first_sources (settings : Settings) (environment : Environment)
    (home : Option String) :
    (∀ configuration, settings.resolve environment home = .ok configuration ↔
      settings.Configures environment home configuration) ∧
    (settings.resolve environment home = .error .noHomeDirectory ↔
      settings.Rootless environment home) ∧
    (∀ text, settings.resolve environment home = .error (.invalidTimeout text) ↔
      ¬ settings.Rootless environment home ∧ settings.Misspells environment text) ∧
    (∀ other, settings.Agrees environment other →
      settings.resolve other home = settings.resolve environment home) ∧
    ∀ name, ¬ settings.Asks name → ∀ said,
      settings.resolve (Function.update environment name said) home
        = settings.resolve environment home := by
  refine ⟨fun configuration => resolve_eq_iff, resolve_eq_iff, fun text => resolve_eq_iff,
    fun other agrees => resolve_of_agrees agrees, fun name hname said => ?_⟩
  exact resolve_of_agrees (agrees_update hname said)

/-- A root that is empty, a path and a timeout that is none. -/
def clutteredEnvironment : Environment := fun name =>
  if name = rootVariable then some ""
  else if name = storeVariable then some "/tmp/x.db"
  else if name = timeoutVariable then some " soon"
  else none

/-- Settings that ask for the root only. -/
def placedSettings : Settings := ⟨none, some "/srv/data.db", some 1000⟩

lemma asks_placedSettings {name : String} (h : placedSettings.Asks name) : name = rootVariable := by
  cases h with
  | installRoot _ => rfl
  | storePath hnone => cases hnone
  | busyTimeout hnone => cases hnone

/-- The clutter is as good as nothing where the timeout is explicit, and so is a number that is too
large.  Where the timeout is not explicit the text is refused with its blank, unless the missing
home directory is reported in its place. -/
theorem resolve_from_first_sources_cluttered :
    (placedSettings.Agrees clutteredEnvironment (fun _ => none) ∧
      placedSettings.resolve (fun _ => none) (some "/home/u")
        = placedSettings.resolve clutteredEnvironment (some "/home/u") ∧
      placedSettings.Configures clutteredEnvironment (some "/home/u")
        ⟨"/home/u/.trashtalk", "/srv/data.db", 1000⟩) ∧
    (¬ placedSettings.Asks timeoutVariable ∧
      placedSettings.resolve (Function.update clutteredEnvironment timeoutVariable
          (some "18446744073709551616")) (some "/home/u")
        = placedSettings.resolve clutteredEnvironment (some "/home/u")) ∧
    Misspells ⟨none, some "/srv/data.db", none⟩ clutteredEnvironment " soon" ∧
    Rootless ⟨none, some "/srv/data.db", none⟩ clutteredEnvironment none := by
  have hagrees : placedSettings.Agrees clutteredEnvironment (fun _ => none) := by
    intro name hasks text
    rw [asks_placedSettings hasks, Environment.Says, Environment.Says]
    refine iff_of_false (fun hsays => hsays.2 ?_) (fun hsays => ?_)
    · exact (Option.some.inj hsays.1).symm
    · cases hsays.1
  have hexplicit : ¬ placedSettings.Asks timeoutVariable := fun hasks =>
    absurd (asks_placedSettings hasks) (by decide)
  obtain ⟨hconfigures, -, -, hother, hupdate⟩ :=
    resolve_from_first_sources placedSettings clutteredEnvironment (some "/home/u")
  obtain ⟨-, -, hmisspells, -⟩ := resolve_from_first_sources ⟨none, some "/srv/data.db", none⟩
    clutteredEnvironment (some "/home/u")
  obtain ⟨-, hrootless, -⟩ := resolve_from_first_sources ⟨none, some "/srv/data.db", none⟩
    clutteredEnvironment none
  exact ⟨⟨hagrees, hother _ hagrees, (hconfigures _).mp (by decide +kernel)⟩,
    ⟨hexplicit, hupdate _ hexplicit _⟩, ((hmisspells _).mp (by decide +kernel)).2,
    hrootless.mp (by decide +kernel)⟩

end Settings

end ObjectMemory
