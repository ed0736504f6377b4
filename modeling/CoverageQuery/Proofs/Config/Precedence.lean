import CoverageQuery.Cli.Run
import CoverageQuery.Proofs.Config.Setting

/-!
# Which source decides a setting

For each setting the command line comes before the environment, the environment before the file and
the file before the built-in value. A file that is named must load; of the files that are looked for
the first that loads is the only one that counts.
-/

namespace CoverageQuery

namespace FileContent

/-- The file can be read, and is a document with these settings. -/
def Holds (file : FileContent) (s : Settings) : Prop :=
  ∃ text root, file = .ok text ∧ Toml.parse? text = some root ∧ s.ReadFrom root

variable {file : FileContent} {s : Settings}

theorem settings_eq_ok_iff : file.settings = .ok s ↔ file.Holds s := by
  unfold Holds
  cases file with
  | error fault => simp [settings]
  | ok text =>
    have hparse : Settings.parse? text = some s ↔ _ := Settings.parse?_eq_some_iff
    cases hs : Settings.parse? text with
    | none =>
      rw [hs] at hparse
      simpa [settings, hs] using hparse
    | some t =>
      rw [hs] at hparse
      simpa [settings, hs] using hparse

theorem settings?_eq_some_iff : file.settings? = some s ↔ file.Holds s := by
  rw [settings?, toOption_eq_some_iff, settings_eq_ok_iff]

theorem settings?_eq_none_iff : file.settings? = none ↔ ∀ s, ¬file.Holds s := by
  simp only [← settings?_eq_some_iff, Option.eq_none_iff_forall_ne_some, ne_eq]

theorem findSome?_settings?_eq_none_iff {files : List FileContent} :
    files.findSome? settings? = none ↔ ∀ f ∈ files, ∀ s, ¬f.Holds s := by
  simp only [List.findSome?_eq_none_iff, settings?_eq_none_iff]

theorem settings_of_not_holds {text : String} (h : ∀ s, ¬Holds (.ok text) s) :
    settings (.ok text) = .error .malformed := by
  cases hparse : Settings.parse? text with
  | none => simp [settings, hparse]
  | some s =>
    obtain ⟨root, hroot, hread⟩ := Settings.parse?_eq_some_iff.mp hparse
    exact absurd ⟨text, root, rfl, hroot, hread⟩ (h s)

end FileContent

namespace Config

/-- The paths that are looked at in turn: the user's file, the file of the system and the one in the
working directory. The first of them is left out for a user without a directory for such files. A
slash is put after that directory unless it ends in one or is empty. -/
inductive SearchPaths : Option String → List String → Prop
  | none : SearchPaths none ["/etc/datacube/config.toml", "./datacube.toml"]
  | user {directory : String} (hne : directory ≠ "") (h : ∀ d, directory ≠ d ++ "/") :
      SearchPaths (some directory) [directory ++ "/datacube/config.toml",
        "/etc/datacube/config.toml", "./datacube.toml"]
  | slash (directory : String) :
      SearchPaths (some (directory ++ "/")) [directory ++ "/datacube/config.toml",
        "/etc/datacube/config.toml", "./datacube.toml"]
  | empty :
      SearchPaths (some "") ["datacube/config.toml", "/etc/datacube/config.toml", "./datacube.toml"]

theorem inDirectory_of_last {directory : String} {c : Char}
    (h : directory.toList.getLast? = some c) (hc : c ≠ '/') (name : String) :
    inDirectory directory name = directory ++ "/" ++ name := by
  unfold inDirectory
  split
  · next hnone =>
    rw [h] at hnone
    cases hnone
  · next hslash =>
    rw [h] at hslash
    exact absurd (Option.some.inj hslash) hc
  · rfl

theorem inDirectory_of_ne {directory : String} (hne : directory ≠ "")
    (h : ∀ d, directory ≠ d ++ "/") (name : String) :
    inDirectory directory name = directory ++ "/" ++ name := by
  cases hlast : directory.toList.getLast? with
  | none => exact absurd (String.toList_eq_nil_iff.mp (List.getLast?_eq_none_iff.mp hlast)) hne
  | some c =>
    apply inDirectory_of_last hlast
    rintro rfl
    obtain ⟨front, hfront⟩ := List.getLast?_eq_some_iff.mp hlast
    apply h (String.ofList front)
    rw [← String.toList_inj, String.toList_append, String.toList_ofList, hfront]
    rfl

theorem inDirectory_slash (directory name : String) :
    inDirectory (directory ++ "/") name = directory ++ "/" ++ name := by
  have hlast : (directory ++ "/").toList.getLast? = some '/' := by
    rw [String.toList_append]
    exact List.getLast?_concat
  simp only [inDirectory, hlast]

theorem candidates_of_inDirectory {directory d : String}
    (h : inDirectory directory "datacube" = d ++ "/" ++ "datacube") :
    candidates (some directory) =
      [d ++ "/datacube/config.toml", "/etc/datacube/config.toml", "./datacube.toml"] := by
  have hlast : (d ++ "/" ++ "datacube").toList.getLast? = some 'e' := by
    rw [String.toList_append, List.getLast?_append]
    rfl
  have hpath : inDirectory (inDirectory directory "datacube") "config.toml" =
      d ++ "/datacube/config.toml" := by
    rw [h, inDirectory_of_last hlast (by decide), String.append_assoc, String.append_assoc,
      String.append_assoc]
    rfl
  rw [candidates, Option.toList_some, List.map_singleton, hpath]
  rfl

theorem searchPaths_iff {userDirectory : Option String} {paths : List String} :
    SearchPaths userDirectory paths ↔ paths = candidates userDirectory := by
  constructor
  · rintro (_ | ⟨hne, h⟩ | directory | _)
    · rfl
    · exact (candidates_of_inDirectory (inDirectory_of_ne hne h _)).symm
    · exact (candidates_of_inDirectory (inDirectory_slash directory _)).symm
    · rfl
  · rintro rfl
    cases userDirectory with
    | none => exact .none
    | some directory =>
      by_cases hne : directory = ""
      · subst hne
        exact .empty
      · by_cases h : ∃ d, directory = d ++ "/"
        · obtain ⟨d, rfl⟩ := h
          rw [candidates_of_inDirectory (inDirectory_slash d _)]
          exact .slash d
        · rw [not_exists] at h
          rw [candidates_of_inDirectory (inDirectory_of_ne hne h _)]
          exact .user hne h

/-- The settings of the first file that loads. Where none does, no setting comes from a file. -/
inductive FirstHeld : List FileContent → Settings → Prop
  | found {before after : List FileContent} {file : FileContent} {s : Settings}
      (hbefore : ∀ f ∈ before, ∀ t, ¬f.Holds t) (h : file.Holds s) :
      FirstHeld (before ++ file :: after) s
  | none {files : List FileContent} (h : ∀ f ∈ files, ∀ t, ¬f.Holds t) : FirstHeld files {}

theorem search_eq (files : List FileContent) (env : Environment) :
    search files env =
      (builtIn.override ((files.findSome? FileContent.settings?).getD {})).override
        env.settings := by
  unfold search
  cases files.findSome? FileContent.settings? <;> rfl

theorem firstHeld_iff {files : List FileContent} {s : Settings} :
    FirstHeld files s ↔ s = (files.findSome? FileContent.settings?).getD {} := by
  constructor
  · rintro (⟨hbefore, h⟩ | h)
    · rw [List.findSome?_append, FileContent.findSome?_settings?_eq_none_iff.mpr hbefore,
        Option.none_or, List.findSome?_cons, FileContent.settings?_eq_some_iff.mpr h,
        Option.getD_some]
    · rw [FileContent.findSome?_settings?_eq_none_iff.mpr h, Option.getD_none]
  · rintro rfl
    cases hfound : files.findSome? FileContent.settings? with
    | none => exact .none (FileContent.findSome?_settings?_eq_none_iff.mp hfound)
    | some s =>
      obtain ⟨before, file, after, rfl, hfile, hbefore⟩ := List.findSome?_eq_some_iff.mp hfound
      refine .found ?_ (FileContent.settings?_eq_some_iff.mp hfile)
      intro f hf
      exact FileContent.settings?_eq_none_iff.mp (hbefore f hf)

/-- The value of a setting is the one from the command line, else the one from the environment, else
the one from the file, else the built-in one. -/
inductive Prevails (flags : Settings) (env : Environment) (file : Settings) (k : Setting) :
    k.Value → Prop
  | flag {value : k.Value} (h : flags.get? k = some value) : Prevails flags env file k value
  | environment {value : k.Value} (hflag : flags.get? k = none) (h : env.Gives k value) :
      Prevails flags env file k value
  | file {value : k.Value} (hflag : flags.get? k = none) (henv : ∀ v, ¬env.Gives k v)
      (h : file.get? k = some value) : Prevails flags env file k value
  | builtIn (hflag : flags.get? k = none) (henv : ∀ v, ¬env.Gives k v) (h : file.get? k = none) :
      Prevails flags env file k (Config.builtIn.get k)

theorem get_eq_iff_prevails {flags : Settings} {env : Environment} {file : Settings} {k : Setting}
    {value : k.Value} :
    (((Config.builtIn.override file).override env.settings).override flags).get k = value ↔
      Prevails flags env file k value := by
  rw [get_override, get_override, get_override]
  constructor
  · rintro rfl
    cases hflag : flags.get? k with
    | some v => exact .flag hflag
    | none =>
      cases henv : env.settings.get? k with
      | some v => exact .environment hflag (Environment.get?_settings.mp henv)
      | none =>
        have hsilent := Environment.get?_settings_eq_none_iff.mp henv
        cases hfile : file.get? k with
        | some v => exact .file hflag hsilent hfile
        | none => exact .builtIn hflag hsilent hfile
  · rintro (h | ⟨hflag, h⟩ | ⟨hflag, henv, h⟩ | ⟨hflag, henv, h⟩)
    · simp [h]
    · simp [hflag, Environment.get?_settings.mpr h]
    · simp [hflag, Environment.get?_settings_eq_none_iff.mpr henv, h]
    · simp [hflag, Environment.get?_settings_eq_none_iff.mpr henv, h]

/-- Every setting of the configuration has the value that its sources decide on. -/
def Follows (c : Config) (flags : Settings) (env : Environment) (file : Settings) : Prop :=
  ∀ k value, c.get k = value ↔ Prevails flags env file k value

section Search

variable {file : FileContent} {s : Settings}

theorem search_of_holds (h : file.Holds s) (before after after' : List FileContent)
    (env : Environment) :
    search (before ++ file :: after) env = search (before ++ file :: after') env := by
  have hfile := FileContent.settings?_eq_some_iff.mpr h
  simp only [search, List.findSome?_append, List.findSome?_cons, hfile]

theorem search_of_not_holds (h : ∀ s, ¬file.Holds s) (before after : List FileContent)
    (env : Environment) : search (before ++ file :: after) env = search (before ++ after) env := by
  have hfile := FileContent.settings?_eq_none_iff.mpr h
  simp only [search, List.findSome?_append, List.findSome?_cons, hfile]

end Search

end Config

namespace Cli.Invocation

open Config

/-- The settings that the command line can give. -/
def flags (i : Invocation) : Settings := { endpoint := i.endpoint }

variable {i : Invocation} {m : Machine} {path : String}

theorem configuration_of_none (h : i.config = none) :
    i.configuration m =
      .ok ((search ((candidates m.userDirectory).map m.file) m.environment).override i.flags) := by
  rw [configuration, h]
  rfl

theorem configuration_of_holds (h : i.config = some path) {file : Settings}
    (hfile : (m.file path).Holds file) :
    i.configuration m =
      .ok (((builtIn.override file).override m.environment.settings).override i.flags) := by
  rw [configuration, h]
  simp only [loadWith, load, FileContent.settings_eq_ok_iff.mpr hfile]
  rfl

theorem configuration_of_error (h : i.config = some path) {e : ConfigError}
    (hfile : (m.file path).settings = .error e) :
    i.configuration m = .error (e.message path) := by
  rw [configuration, h]
  simp only [loadWith, load, hfile]
  rfl

section Variable

variable {env : Environment} {k l : Setting}

theorem get?_settings_of_ne (henv : ∀ name, name ≠ k.envName → env name = m.environment name)
    (hne : l ≠ k) : env.settings.get? l = m.environment.settings.get? l := by
  have hname : l.envName ≠ k.envName := fun h => hne (Setting.envName_injective h)
  apply Option.ext
  intro value
  rw [Environment.get?_settings, Environment.get?_settings, Environment.Gives, Environment.Gives,
    henv _ hname]

theorem get_configuration_of_ne (henv : ∀ name, name ≠ k.envName → env name = m.environment name)
    (hne : l ≠ k) {c d : Config} (hc : i.configuration m = .ok c)
    (hd : i.configuration { m with environment := env } = .ok d) : d.get l = c.get l := by
  have hsettings := get?_settings_of_ne henv hne
  cases hconfig : i.config with
  | none =>
    rw [configuration_of_none hconfig] at hc hd
    cases hc
    cases hd
    simp only [search_eq, get_override, hsettings]
  | some path =>
    cases hfile : (m.file path).settings with
    | error e =>
      rw [configuration_of_error hconfig hfile] at hc
      cases hc
    | ok file =>
      have hholds := FileContent.settings_eq_ok_iff.mp hfile
      rw [configuration_of_holds hconfig hholds] at hc
      rw [configuration_of_holds (m := { m with environment := env }) hconfig hholds] at hd
      cases hc
      cases hd
      simp only [get_override, hsettings]

end Variable

/-- Without a named file every setting of the configuration comes from the command line, else from
the environment, else from the first candidate that loads, else it is built in; the candidates are
the user's file, the file of the system and the one in the working directory. A named file takes
their place, and must load. So neither what stands behind the first candidate that loads nor a
candidate that does not load makes a difference, a variable of the environment makes one for its own
setting only, and it makes no difference to read the environment again. -/
theorem configuration_follows (i : Invocation) (m : Machine) :
    (i.config = none → ∃ paths file c, SearchPaths m.userDirectory paths ∧
      FirstHeld (paths.map m.file) file ∧ i.configuration m = .ok c ∧
        c.Follows i.flags m.environment file) ∧
    (∀ path, i.config = some path →
      (∀ file, (m.file path).Holds file →
        ∃ c, i.configuration m = .ok c ∧ c.Follows i.flags m.environment file) ∧
      (∀ fault, m.file path = .error fault →
        i.configuration m = .error ((ConfigError.unreadable fault).message path)) ∧
      ∀ text, m.file path = .ok text → (∀ file, ¬(m.file path).Holds file) →
        i.configuration m = .error (ConfigError.malformed.message path)) ∧
    (∀ before file after after' s, file.Holds s →
      search (before ++ file :: after) m.environment =
        search (before ++ file :: after') m.environment) ∧
    (∀ before file after, (∀ s, ¬file.Holds s) →
      search (before ++ file :: after) m.environment = search (before ++ after) m.environment) ∧
    (∀ (k : Setting) (env : Environment),
      (∀ name, name ≠ k.envName → env name = m.environment name) →
        ∀ c d, i.configuration m = .ok c → i.configuration { m with environment := env } = .ok d →
          ∀ l, l ≠ k → d.get l = c.get l) ∧
    ∀ c : Config, (c.override m.environment.settings).override m.environment.settings =
      c.override m.environment.settings := by
  refine ⟨?_, ?_, ?_, ?_, ?_, ?_⟩
  · intro h
    refine ⟨_, _, _, searchPaths_iff.mpr rfl, firstHeld_iff.mpr rfl, configuration_of_none h, ?_⟩
    intro k value
    rw [search_eq]
    exact get_eq_iff_prevails
  · intro path h
    refine ⟨?_, ?_, ?_⟩
    · intro file hfile
      exact ⟨_, configuration_of_holds h hfile, fun k value => get_eq_iff_prevails⟩
    · intro fault hfault
      apply configuration_of_error h
      rw [hfault]
      rfl
    · intro text htext hfile
      apply configuration_of_error h
      rw [htext] at hfile ⊢
      exact FileContent.settings_of_not_holds hfile
  · intro before file after after' s h
    exact search_of_holds h before after after' m.environment
  · intro before file after h
    exact search_of_not_holds h before after m.environment
  · intro k env henv c d hc hd l hne
    exact get_configuration_of_ne henv hne hc hd
  · intro c
    exact c.override_override m.environment.settings

/-- The user's file does not parse and there is none of the system, so the one in the working
directory counts; the environment has a version, which beats the one of the file, and a timeout that
is no number. -/
theorem configuration_follows_local :
    let i : Invocation :=
      { config := none, endpoint := some "http://flag", command := .capabilities none }
    let m : Machine :=
      { environment := fun name =>
          if name = "DATACUBE_VERSION" then some "2.1"
          else if name = "DATACUBE_TIMEOUT_SECS" then some "soon" else none
        userDirectory := some "/home/user/.config"
        file := fun path =>
          if path = "/home/user/.config/datacube/config.toml" then .ok "[service\nversion = '1.0'"
          else if path = "./datacube.toml" then
            .ok "[service]\nversion = '2.0'\nrequest_timeout_secs = 5\n[logging]\nlevel = 'warn'"
          else .error .missing
        channel := ⟨[], fun _ _ => .ok []⟩ }
    i.configuration m = .ok ⟨"http://flag", "WCS", "2.1", 5, "warn", "pretty"⟩ := by
  intro i m
  obtain ⟨paths, file, c, hpaths, hfile, hc, hfollows⟩ := (configuration_follows i m).1 rfl
  have hfound : ((candidates m.userDirectory).map m.file).findSome? FileContent.settings? =
      some { version := some "2.0", timeoutSecs := some 5, logLevel := some "warn" } := by
    decide +kernel
  obtain rfl := searchPaths_iff.mp hpaths
  rw [firstHeld_iff, hfound, Option.getD_some] at hfile
  subst hfile
  rw [hc, Except.ok.injEq]
  apply eq_of_get
  intro k
  rw [hfollows]
  cases k with
  | endpoint => exact .flag rfl
  | service => exact .builtIn rfl (Environment.get?_settings_eq_none_iff.mp rfl) rfl
  | version => exact .environment rfl ⟨_, rfl, rfl⟩
  | timeoutSecs => exact .file rfl (Environment.get?_settings_eq_none_iff.mp rfl) rfl
  | logLevel => exact .file rfl (Environment.get?_settings_eq_none_iff.mp rfl) rfl
  | logFormat => exact .builtIn rfl (Environment.get?_settings_eq_none_iff.mp rfl) rfl

end Cli.Invocation

end CoverageQuery
