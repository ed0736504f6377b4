import CoverageQuery.Config.Search
import CoverageQuery.Proofs.Steps

/-!
# Settings one by one

Each of the six settings has a variable in the environment, a place in a configuration file and a
built-in value. What an environment and a document say about a setting is stated here for each of
them alone, and the functions that collect settings are shown to find exactly that.
-/

namespace CoverageQuery

inductive Setting where
  | endpoint | service | version | timeoutSecs | logLevel | logFormat
deriving DecidableEq

/-- Every setting is a text but for the timeout, which is a number of seconds. -/
abbrev Setting.Value : Setting → Type
  | timeoutSecs => UInt64
  | endpoint | service | version | logLevel | logFormat => String

/-- What a source says about a setting. -/
def Settings.get? (s : Settings) : (k : Setting) → Option k.Value
  | .endpoint => s.endpoint
  | .service => s.service
  | .version => s.version
  | .timeoutSecs => s.timeoutSecs
  | .logLevel => s.logLevel
  | .logFormat => s.logFormat

namespace Config

def get (c : Config) : (k : Setting) → k.Value
  | .endpoint => c.endpoint
  | .service => c.service
  | .version => c.version
  | .timeoutSecs => c.timeoutSecs
  | .logLevel => c.logLevel
  | .logFormat => c.logFormat

theorem eq_of_get {c d : Config} (h : ∀ k, c.get k = d.get k) : c = d := by
  obtain ⟨endpoint, service, version, timeoutSecs, logLevel, logFormat⟩ := c
  obtain rfl : endpoint = _ := h .endpoint
  obtain rfl : service = _ := h .service
  obtain rfl : version = _ := h .version
  obtain rfl : timeoutSecs = _ := h .timeoutSecs
  obtain rfl : logLevel = _ := h .logLevel
  obtain rfl : logFormat = _ := h .logFormat
  rfl

@[simp] theorem get_override (c : Config) (s : Settings) (k : Setting) :
    (c.override s).get k = (s.get? k).getD (c.get k) := by
  cases k <;> rfl

/-- What a source says once it need not say again. -/
theorem override_override (c : Config) (s : Settings) :
    (c.override s).override s = c.override s := by
  apply eq_of_get
  intro k
  rw [get_override, get_override]
  cases s.get? k <;> rfl

end Config

/-- The text is digits, perhaps with a plus before them, for a number of seconds of 64 bits. -/
def Seconds (text : String) (seconds : UInt64) : Prop :=
  ∃ plus digits : List Char, (plus = [] ∨ plus = ['+']) ∧ text.toList = plus ++ digits ∧
    digits ≠ [] ∧ (∀ c ∈ digits, c.isDigit = true) ∧ digitsValue digits = seconds.toNat

/-- A word is read from its digits, if there are any and their value fits. -/
theorem word_of_digits_eq_some_iff {digits : List Char} {seconds : UInt64} :
    (if digits ≠ [] ∧ digits.all Char.isDigit ∧ digitsValue digits < UInt64.size then
      some (UInt64.ofNat (digitsValue digits)) else none) = some seconds ↔
    digits ≠ [] ∧ (∀ c ∈ digits, c.isDigit = true) ∧ digitsValue digits = seconds.toNat := by
  constructor
  · intro h
    split at h
    · next hfits =>
      cases h
      exact ⟨hfits.1, List.all_eq_true.mp hfits.2.1, (UInt64.toNat_ofNat_of_lt' hfits.2.2).symm⟩
    · cases h
  · rintro ⟨hne, hdigits, hvalue⟩
    rw [if_pos ⟨hne, List.all_eq_true.mpr hdigits, hvalue ▸ seconds.toNat_lt⟩, hvalue,
      UInt64.ofNat_toNat]

/-- A plus is no digit, so it is known where the digits begin. -/
theorem readSeconds?_eq_some_iff {text : String} {seconds : UInt64} :
    readSeconds? text = some seconds ↔ Seconds text seconds := by
  unfold readSeconds? Seconds
  simp only [word_of_digits_eq_some_iff]
  split
  · next rest htext =>
    rw [htext]
    constructor
    · intro h
      exact ⟨['+'], rest, .inr rfl, rfl, h⟩
    · rintro ⟨plus, digits, rfl | rfl, hsplit, h⟩
      · rw [List.nil_append] at hsplit
        subst hsplit
        exact absurd (h.2.1 '+' (List.mem_cons_self ..)) (by decide)
      · cases hsplit
        exact h
  · next hplus =>
    constructor
    · intro h
      exact ⟨[], text.toList, .inl rfl, rfl, h⟩
    · rintro ⟨plus, digits, rfl | rfl, hsplit, h⟩
      · rw [hsplit]
        exact h
      · exact absurd hsplit (hplus digits)

namespace Setting

/-- The variable of the environment for the setting. -/
def envName : Setting → String
  | endpoint => "DATACUBE_ENDPOINT"
  | service => "DATACUBE_SERVICE"
  | version => "DATACUBE_VERSION"
  | timeoutSecs => "DATACUBE_TIMEOUT_SECS"
  | logLevel => "DATACUBE_LOG_LEVEL"
  | logFormat => "DATACUBE_LOG_FORMAT"

theorem envName_injective {k l : Setting} (h : k.envName = l.envName) : k = l := by
  cases k <;> cases l <;> simp_all [envName]

/-- The value that the text of a variable is for the setting. -/
def Reads : (k : Setting) → String → k.Value → Prop
  | timeoutSecs, text, value => Seconds text value
  | endpoint, text, value | service, text, value | version, text, value | logLevel, text, value
  | logFormat, text, value => value = text

end Setting

/-- The environment sets the variable of the setting to a text for this value. -/
def Environment.Gives (env : Environment) (k : Setting) (value : k.Value) : Prop :=
  ∃ text, env k.envName = some text ∧ k.Reads text value

theorem Environment.get?_settings {env : Environment} {k : Setting} {value : k.Value} :
    env.settings.get? k = some value ↔ env.Gives k value := by
  cases k with
  | timeoutSecs =>
    simp only [Gives, Setting.Reads, ← readSeconds?_eq_some_iff]
    exact Option.bind_eq_some_iff
  | _ => exact ⟨fun h => ⟨_, h, rfl⟩, fun ⟨_, h, hvalue⟩ => hvalue ▸ h⟩

theorem Environment.get?_settings_eq_none_iff {env : Environment} {k : Setting} :
    env.settings.get? k = none ↔ ∀ value, ¬env.Gives k value := by
  simp only [← get?_settings, Option.eq_none_iff_forall_ne_some, ne_eq]

namespace Setting

/-- The table of a document that the setting stands in. -/
def table : Setting → String
  | endpoint | service | version | timeoutSecs => "service"
  | logLevel | logFormat => "logging"

/-- The place of the setting in its table, where this is written as an array. -/
def place : Setting → Nat
  | endpoint | logLevel => 0
  | service | logFormat => 1
  | version => 2
  | timeoutSecs => 3

/-- The name of the setting in its table. -/
def key : Setting → String
  | endpoint => "endpoint"
  | service => "service"
  | version => "version"
  | timeoutSecs => "request_timeout_secs"
  | logLevel => "level"
  | logFormat => "format"

/-- The value of a document that stands for a value of the setting. -/
def Denotes : (k : Setting) → Toml.Value → k.Value → Prop
  | timeoutSecs, found, value => ∃ n : Int64, found = .integer n ∧ n.toInt = value.toNat
  | endpoint, found, value | service, found, value | version, found, value
  | logLevel, found, value | logFormat, found, value => found = .string value

/-- A setting that is not found is not given, and what is found is of the right type. -/
def Given (k : Setting) (found : Option Toml.Value) (value : Option k.Value) : Prop :=
  (found = none ∧ value = none) ∨ ∃ v w, found = some v ∧ value = some w ∧ k.Denotes v w

/-- What a table holds for the setting. -/
def inTable? (k : Setting) (table : Option Toml.Value) : Option Toml.Value := do
  let table ← table
  let field ← table.field?
  field k.place k.key

end Setting

namespace Toml

/-- There is no table, or what stands in its stead has fields. -/
def IsTable? (table : Option Value) : Prop := ∀ v, table = some v → v.field?.isSome

theorem string?_eq_some_iff {found : Option Value} {text : Option String} :
    string? found = some text ↔
      (found = none ∧ text = none) ∨ ∃ v w, found = some v ∧ text = some w ∧ v = .string w := by
  cases found with
  | none => simp [string?, eq_comm]
  | some v => cases v <;> simp [string?, eq_comm]

theorem toInt_eq_toNat_iff {i : Int64} {n : UInt64} :
    i.toInt = n.toNat ↔ 0 ≤ i.toInt ∧ i.toUInt64 = n := by
  have hvalue : 0 ≤ i.toInt → (i.toUInt64.toNat : Int) = i.toInt := by
    intro h
    rw [Int64.toNat_toUInt64_of_le (Int64.le_iff_toInt_le.mpr h), ← Int64.toNat_toInt,
      Int.toNat_of_nonneg h]
  constructor
  · intro h
    have hnonneg : 0 ≤ i.toInt := h ▸ Int.natCast_nonneg _
    refine ⟨hnonneg, UInt64.toNat_inj.mp ?_⟩
    have := hvalue hnonneg
    omega
  · rintro ⟨hnonneg, rfl⟩
    exact (hvalue hnonneg).symm

theorem natural?_eq_some_iff {found : Option Value} {n : Option UInt64} :
    natural? found = some n ↔
      (found = none ∧ n = none) ∨
        ∃ v w, found = some v ∧ n = some w ∧ ∃ i : Int64, v = .integer i ∧ i.toInt = w.toNat := by
  simp only [toInt_eq_toNat_iff]
  cases found with
  | none => simp [natural?, eq_comm]
  | some v =>
    cases v with
    | integer i => by_cases hsign : 0 ≤ i.toInt <;> simp [natural?, hsign, eq_comm]
    | _ => simp [natural?]

end Toml

namespace Setting

/-- What is found for a setting, if it is of the right type. -/
def ofToml? : (k : Setting) → Option Toml.Value → Option (Option k.Value)
  | timeoutSecs => Toml.natural?
  | endpoint | service | version | logLevel | logFormat => Toml.string?

theorem given_iff {k : Setting} {found : Option Toml.Value} {value : Option k.Value} :
    k.Given found value ↔ k.ofToml? found = some value := by
  cases k with
  | timeoutSecs => exact Toml.natural?_eq_some_iff.symm
  | _ => exact Toml.string?_eq_some_iff.symm

end Setting

namespace Settings

open Setting

theorem withService_eq_some_iff {table : Option Toml.Value} {s : Settings} :
    withService {} table = some s ↔
      Toml.IsTable? table ∧ Setting.Given .endpoint (inTable? .endpoint table) s.endpoint ∧
        Setting.Given .service (inTable? .service table) s.service ∧
        Setting.Given .version (inTable? .version table) s.version ∧
        Setting.Given .timeoutSecs (inTable? .timeoutSecs table) s.timeoutSecs ∧
        s.logLevel = none ∧ s.logFormat = none := by
  obtain ⟨endpoint, service, version, timeoutSecs, logLevel, logFormat⟩ := s
  simp only [given_iff, ofToml?]
  cases table with
  | none =>
    constructor
    · rintro ⟨⟩
      exact ⟨nofun, rfl, rfl, rfl, rfl, rfl, rfl⟩
    · rintro ⟨-, ⟨⟩, ⟨⟩, ⟨⟩, ⟨⟩, rfl, rfl⟩
      rfl
  | some v =>
    cases hfield : v.field? with
    | none => simp [withService, Toml.IsTable?, hfield]
    | some field =>
      simp only [withService, Toml.IsTable?, hfield, inTable?, place, key, Option.bind_eq_bind,
        Option.bind_some, Option.bind_eq_some_iff, Option.some_inj]
      constructor
      · rintro ⟨_, hendpoint, _, hservice, _, hversion, _, htimeoutSecs, ⟨⟩⟩
        refine ⟨?_, hendpoint, hservice, hversion, htimeoutSecs, rfl, rfl⟩
        rintro _ rfl
        rw [hfield, Option.isSome_some]
      · rintro ⟨-, hendpoint, hservice, hversion, htimeoutSecs, rfl, rfl⟩
        exact ⟨_, hendpoint, _, hservice, _, hversion, _, htimeoutSecs, rfl⟩

theorem withLogging_eq_some_iff {table : Option Toml.Value} {s t : Settings}
    (hlevel : s.logLevel = none) (hformat : s.logFormat = none) :
    s.withLogging table = some t ↔
      Toml.IsTable? table ∧ Setting.Given .logLevel (inTable? .logLevel table) t.logLevel ∧
        Setting.Given .logFormat (inTable? .logFormat table) t.logFormat ∧
        { t with logLevel := none, logFormat := none } = s := by
  obtain ⟨endpoint, service, version, timeoutSecs, logLevel, logFormat⟩ := s
  obtain ⟨endpoint', service', version', timeoutSecs', logLevel', logFormat'⟩ := t
  cases hlevel
  cases hformat
  simp only [given_iff, ofToml?]
  cases table with
  | none =>
    constructor
    · rintro ⟨⟩
      exact ⟨nofun, rfl, rfl, rfl⟩
    · rintro ⟨-, ⟨⟩, ⟨⟩, ⟨⟩⟩
      rfl
  | some v =>
    cases hfield : v.field? with
    | none => simp [withLogging, Toml.IsTable?, hfield]
    | some field =>
      simp only [withLogging, Toml.IsTable?, hfield, inTable?, place, key, Option.bind_eq_bind,
        Option.bind_some, Option.bind_eq_some_iff, Option.some_inj]
      constructor
      · rintro ⟨_, hlevel, _, hformat, ⟨⟩⟩
        refine ⟨?_, hlevel, hformat, rfl⟩
        rintro _ rfl
        rw [hfield, Option.isSome_some]
      · rintro ⟨-, hlevel, hformat, ⟨⟩⟩
        exact ⟨_, hlevel, _, hformat, rfl⟩

/-- What a document says about every setting: the tables are tables if they are there at all, and
what they hold for a setting is of the right type. -/
structure ReadFrom (root : Toml.Entries) (s : Settings) : Prop where
  tables : ∀ k : Setting, Toml.IsTable? (Toml.Entries.get? root k.table)
  given : ∀ k : Setting, k.Given (k.inTable? (Toml.Entries.get? root k.table)) (s.get? k)

theorem parse?_eq_some_iff {text : String} {s : Settings} :
    parse? text = some s ↔ ∃ root, Toml.parse? text = some root ∧ s.ReadFrom root := by
  unfold parse?
  simp only [Option.bind_eq_bind, Option.bind_eq_some_iff]
  constructor
  · rintro ⟨root, hroot, t, hservice, hlogging⟩
    refine ⟨root, hroot, ?_⟩
    obtain ⟨htable, hendpoint, hservice, hversion, htimeoutSecs, hlevel, hformat⟩ :=
      withService_eq_some_iff.mp hservice
    obtain ⟨htable', hlevel', hformat', rfl⟩ :=
      (withLogging_eq_some_iff hlevel hformat).mp hlogging
    constructor
    · rintro (_ | _) <;> assumption
    · rintro (_ | _) <;> assumption
  · rintro ⟨root, hroot, htables, hgiven⟩
    refine ⟨root, hroot, { s with logLevel := none, logFormat := none }, ?_, ?_⟩
    · exact withService_eq_some_iff.mpr ⟨htables .endpoint, hgiven .endpoint, hgiven .service,
        hgiven .version, hgiven .timeoutSecs, rfl, rfl⟩
    · exact (withLogging_eq_some_iff rfl rfl).mpr
        ⟨htables .logLevel, hgiven .logLevel, hgiven .logFormat, rfl⟩

end Settings

end CoverageQuery
