import CodeAtlas.Command.Basic
import CodeAtlas.Disk.Basic
import CodeAtlas.Json.Decode
import CodeAtlas.Log.Filter
import CodeAtlas.Snapshot.Json
import CodeAtlas.Text.Character
import CodeAtlas.Toml.Document

/-!
# Configuration

Settings of the build, the cache and the log. They are read from a TOML text in which every key has
to be known, may be overridden by the environment, and are checked before use.

## Architecture

- **Layer A**: the settings;
- **Layer B**: messages without what they quote;
- **Layer C**: what can be wrong with the settings;
- **Layer D**: reading;
- **Layer E**: the environment;
- **Layer F**: checking;
- **Layer G**: finding the file.
-/

namespace CodeAtlas

/-! ## Layer A: settings -/

/-- Settings of the build (`BuildConfig`). Times are in milliseconds. -/
structure BuildOptions where
  /-- How many units are analyzed at a time; without a number the machine decides. -/
  workers : Option Nat := none
  /-- A fixed wait for more changes before a build. -/
  debounceMs : Option Nat := none
  backoffBaseMs : Nat := 250
  backoffCapMs : Nat := 10000
  /-- The longest an external toolchain may run. -/
  invocationTimeoutMs : Nat := 300000
  /-- How long a query waits for the index before it takes another answer. -/
  fallbackTimeoutMs : Nat := 500
  compiler : String := "rustc"
  edition : String := "2021"
  target : Option String := none
  extraArgs : List String := []
  deriving Repr, DecidableEq, Inhabited

/-- Settings of the snapshot cache (`CacheConfig`). -/
structure CacheOptions where
  enabled : Bool := true
  dir : Option Path := none
  deriving Repr, DecidableEq, Inhabited

/-- Settings of the log (`LoggingConfig`). -/
structure LogOptions where
  level : String := "info"
  json : Bool := false
  deriving Repr, DecidableEq, Inhabited

/-- **The configuration** (`KilnConfig`). -/
structure Config where
  build : BuildOptions := {}
  cache : CacheOptions := {}
  logging : LogOptions := {}
  deriving Repr, DecidableEq, Inhabited

/-! ## Layer B: redacted messages

Messages about a configuration quote values of it. What stands between double quotes is replaced,
so that no value ends up in a log; a backslash inside quotes takes the next character with it. -/

namespace Redaction

/-- What stands for a quoted text. -/
def mask : List Char := "<redacted>".toList

/-- Where the scan of a message stands. -/
inductive Zone where
  | outside
  /-- Between quotes; `escaped` right behind a backslash. -/
  | inside (escaped : Bool)
  deriving Repr, DecidableEq, Inhabited

/-- What the scan makes of the characters from a zone on. -/
def scan : Zone → List Char → List Char
  | .outside, [] => []
  -- a quote that is never closed hides the rest
  | .inside _, [] => mask
  | .outside, c :: rest => c :: scan (if c == '"' then .inside false else .outside) rest
  | .inside true, _ :: rest => scan (.inside false) rest
  | .inside false, c :: rest =>
    if c == '\\' then scan (.inside true) rest
    else if c == '"' then mask ++ '"' :: scan .outside rest
    else scan (.inside false) rest

end Redaction

/-- **A message without what it quotes** (`redact_quoted`). -/
def redactQuoted (message : String) : String :=
  String.ofList (Redaction.scan .outside message.toList)

/-! ## Layer C: faults -/

/-- Settings that cannot be used. -/
inductive UnfitSetting where
  | workersNotANumber
  | noWorkers
  | noBackoff
  | capBelowBase
  | noInvocationTime
  | noCompiler
  | level (fault : FilterFault)
  deriving Repr, DecidableEq, Inhabited

/-- The wording of an unfit setting. -/
def UnfitSetting.message : UnfitSetting → String
  | .workersNotANumber => "KILN_WORKERS must be a number"
  | .noWorkers => "build.workers must be at least 1"
  | .noBackoff => "build.crash_backoff_base_ms must be positive"
  | .capBelowBase => "build.crash_backoff_cap_ms must not be below the base"
  | .noInvocationTime => "build.invocation_timeout_ms must be positive"
  | .noCompiler => "build.rustc must not be empty"
  | .level fault => "logging.level: " ++ fault.message

/-- Why there is no configuration (`ConfigError`). -/
inductive ConfigFault where
  | unreadable (path : Path) (fault : IoFault)
  /-- The text is no TOML document. -/
  | notToml
  /-- The document does not have the shape of a configuration. -/
  | misshapen (fault : DecodeFault)
  | unfit (setting : UnfitSetting)
  deriving Repr, DecidableEq, Inhabited

/-- Whether a fault ends everything, rather than that the configuration is refused. -/
def ConfigFault.isFatal : ConfigFault → Bool
  | .unfit (.level fault) => fault.isFatal
  | _ => false

/-- The wording of a fault; a document that cannot be read at all has none. -/
def ConfigFault.message? : ConfigFault → Option String
  | .unreadable p fault => some ("failed to read config file " ++ p.text ++ ": " ++ fault.message)
  | .notToml => none
  | .misshapen fault => some ("failed to parse toml config: " ++ redactQuoted fault.message)
  | .unfit (.level (.badCut fault)) => some fault.message
  | .unfit setting => some ("invalid configuration: " ++ setting.message)

/-! ## Layer D: reading -/

open Json

/-- A number of milliseconds. -/
def asMillis : Json → Except DecodeFault Nat := asNat 0x10000000000000000 "u64"

/-- A number of workers. -/
def asCount : Json → Except DecodeFault Nat := asNat 0x10000000000000000 "usize"

/-- Any text. -/
def asString : Json → Except DecodeFault String := asText "a string"

/-- How the settings of the build are read. -/
def BuildOptions.shape : RecordShape BuildOptions where
  title := "struct BuildConfig"
  fields :=
    [("workers", fit asCount), ("debounce_ms", fit asMillis),
     ("crash_backoff_base_ms", fit asMillis), ("crash_backoff_cap_ms", fit asMillis),
     ("invocation_timeout_ms", fit asMillis), ("fallback_timeout_ms", fit asMillis),
     ("rustc", fit asString), ("edition", fit asString), ("target", fit asString),
     ("extra_args", fit (asList asString))]
  build f := do
    let d : BuildOptions := {}
    let workers ← f.defaulted "workers" none fun v => (asCount v).map some
    let debounceMs ← f.defaulted "debounce_ms" none fun v => (asMillis v).map some
    let backoffBaseMs ← f.defaulted "crash_backoff_base_ms" d.backoffBaseMs asMillis
    let backoffCapMs ← f.defaulted "crash_backoff_cap_ms" d.backoffCapMs asMillis
    let invocationTimeoutMs ← f.defaulted "invocation_timeout_ms" d.invocationTimeoutMs asMillis
    let fallbackTimeoutMs ← f.defaulted "fallback_timeout_ms" d.fallbackTimeoutMs asMillis
    let compiler ← f.defaulted "rustc" d.compiler asString
    let edition ← f.defaulted "edition" d.edition asString
    let target ← f.defaulted "target" none fun v => (asString v).map some
    let extraArgs ← f.defaulted "extra_args" [] (asList asString)
    pure ⟨workers, debounceMs, backoffBaseMs, backoffCapMs, invocationTimeoutMs, fallbackTimeoutMs,
      compiler, edition, target, extraArgs⟩
  closed := true
  exactLength := false

/-- How the settings of the cache are read. -/
def CacheOptions.shape : RecordShape CacheOptions where
  title := "struct CacheConfig"
  fields := [("enabled", fit asBool), ("dir", fit Path.ofJson)]
  build f := do
    let enabled ← f.defaulted "enabled" true asBool
    let dir ← f.defaulted "dir" none fun v => (Path.ofJson v).map some
    pure ⟨enabled, dir⟩
  closed := true
  exactLength := false

/-- How the settings of the log are read. -/
def LogOptions.shape : RecordShape LogOptions where
  title := "struct LoggingConfig"
  fields := [("level", fit asString), ("json", fit asBool)]
  build f := do
    let level ← f.defaulted "level" "info" asString
    let json ← f.defaulted "json" false asBool
    pure ⟨level, json⟩
  closed := true
  exactLength := false

namespace Config

/-- How a configuration is read. -/
def shape : RecordShape Config where
  title := "struct KilnConfig"
  fields :=
    [("build", fit BuildOptions.shape.decode), ("cache", fit CacheOptions.shape.decode),
     ("logging", fit LogOptions.shape.decode)]
  build f := do
    let build ← f.defaulted "build" {} BuildOptions.shape.decode
    let cache ← f.defaulted "cache" {} CacheOptions.shape.decode
    let logging ← f.defaulted "logging" {} LogOptions.shape.decode
    pure ⟨build, cache, logging⟩
  closed := true
  exactLength := false

/-- **Reads a configuration** (`load_from_str`). -/
def ofText (s : String) : Except ConfigFault Config :=
  match Toml.read? s with
  | none => .error .notToml
  | some v =>
    match shape.decode v with
    | .ok c => .ok c
    | .error fault => .error (.misshapen fault)

/-! ## Layer E: the environment -/

/-- The configuration with the cache folder of the environment, if it names one. -/
def withCacheDir (c : Config) (env : Environment) : Config :=
  match env.get? "KILN_CACHE_DIR" with
  | some dir => if dir.isEmpty then c else { c with cache := { c.cache with dir := some ⟨dir⟩ } }
  | none => c

/-- The number of workers of the environment, if it is not blank. -/
def workersOf (env : Environment) : Except ConfigFault (Option Nat) :=
  match env.get? "KILN_WORKERS" with
  | none => .ok none
  | some text =>
    if (trim text).isEmpty then .ok none
    else
      match Decimal.word? (trim text) with
      | some n => .ok (some n)
      | none => .error (.unfit .workersNotANumber)

/-- **Overrides settings by the environment** (`apply_env_overrides`). The cache folder is set even
if the number of workers is refused. -/
def override (c : Config) (env : Environment) : Config × Except ConfigFault Unit :=
  let c := c.withCacheDir env
  match workersOf env with
  | .error fault => (c, .error fault)
  | .ok none => (c, .ok ())
  | .ok (some n) => ({ c with build := { c.build with workers := some n } }, .ok ())

end Config

/-! ## Layer F: checking -/

namespace LogOptions

/-- The directives of a level (`normalize_level_directives`): some words for levels are brought to
one form. -/
def directives (level : String) : String :=
  let t := trim level
  if t.isEmpty then "info"
  else
    let lower := t.map Char.toLower
    -- anything else may be a list of directives, so its case is kept
    if ["trace", "debug", "info", "warn", "error"].contains lower then lower
    else if lower == "warning" then "warn"
    else t

/-- The filter that a text between commas describes. -/
def parseFilter (text : String) : Except FilterFault LogFilter := do
  let parts := (text.toList.splitOn ',').filter fun p => !p.isEmpty
  let ds ← parts.mapM fun p => Directive.read p (trimChars p)
  pure (LogFilter.ofDirectives ds)

/-- The filter of the first text that describes one; without any, a level of its own. -/
def firstFilter : List String → Except FilterFault LogFilter
  | [] => .ok (LogFilter.ofLevel .info)
  | text :: rest =>
    match parseFilter text with
    | .ok f => .ok f
    | .error fault => if fault.isFatal then .error fault else firstFilter rest

/-- **The filter in effect** (`env_filter`): the configured level with the directives of the
environment on top; what cannot be read is left out. -/
def filter (o : LogOptions) (env : Environment) : Except FilterFault LogFilter :=
  let own := directives o.level
  let extra := trim (env.getD "RUST_LOG" "")
  -- together if both can be read, else whichever can
  firstFilter (if extra.isEmpty then [own] else [own ++ "," ++ extra, extra, own])

end LogOptions

namespace Config

/-- The first setting that cannot be used. -/
def unfit? (c : Config) : Option UnfitSetting :=
  if c.build.workers == some 0 then some .noWorkers
  else if c.build.backoffBaseMs == 0 then some .noBackoff
  else if c.build.backoffCapMs < c.build.backoffBaseMs then some .capBelowBase
  else if c.build.invocationTimeoutMs == 0 then some .noInvocationTime
  else if (trim c.build.compiler).isEmpty then some .noCompiler
  else
    match LogOptions.parseFilter (LogOptions.directives c.logging.level) with
    | .ok _ => none
    | .error fault => some (.level fault)

/-- **Checks a configuration.** -/
def validate (c : Config) : Except ConfigFault Unit :=
  match c.unfit? with
  | some setting => .error (.unfit setting)
  | none => .ok ()

end Config

/-! ## Layer G: finding the file

The environment names the file, or it lies in the root of the workspace under one of two names. -/

namespace Config

/-- A path in canonical form, or as it is if it leads to nothing. -/
def settled (disk : Disk) (p : Path) : Path :=
  match disk.canonicalize p with
  | .ok q => q
  | .error _ => p

/-- **The configuration file of a workspace** (`discover_config_path`). One that the environment
names need not exist. -/
def discover (env : Environment) (disk : Disk) (root : Path) : Option Path :=
  match env.get? "KILN_CONFIG_PATH" with
  | some named => some (settled disk (root.join ⟨named⟩))
  | none =>
    let candidates := ["kiln.toml", ".kiln.toml"].map root.child
    (candidates.find? disk.isFile).map (settled disk)

/-- Reads the configuration in a file (`load_from_path`). -/
def ofFile (disk : Disk) (p : Path) : Except ConfigFault Config :=
  match disk.readText p with
  | .ok s => ofText s
  | .error fault => .error (.unreadable p fault)

/-- **The configuration of a workspace**, overridden and checked, and the file it comes from
(`load_for_workspace`). -/
def load (env : Environment) (disk : Disk) (root : Path) :
    Except ConfigFault (Config × Option Path) := do
  let path := discover env disk root
  let c ← match path with
    | some p => ofFile disk p
    | none => pure {}
  -- what the environment sets is checked like what the file sets
  let (c, overridden) := c.override env
  overridden
  c.validate
  pure (c, path)

end Config

end CodeAtlas
