import Mathlib.Data.Rat.Defs
import ConductorBridge.Bot

/-!
# Loading the configuration

`load_config` reads the `[conductor]` table of `config.toml`. It exits with a logged reason
when the file is missing, the section is not enabled, or the token or the user id is not
set, and otherwise returns the token, `int(user_id)`, the heartbeat interval (15 minutes by
default) and the profile list (`["default"]` by default). Its checks are Python truth tests,
so a setting passes when its value is truthy, whatever its type.
-/

namespace ConductorBridge

/-- A TOML float as `toml.load` returns it: a finite value, exactly, an infinity, or NaN. -/
inductive TomlFloat where
  | finite (value : ℚ)
  | infinite (negative : Bool)
  | nan

/-- A value `toml.load` returns. A date or a time keeps its text. -/
inductive Toml where
  | str (value : String)
  | int (value : Int)
  | float (value : TomlFloat)
  | bool (value : Bool)
  | datetime (text : String)
  | arr (items : List Toml)
  | table (entries : List (String × Toml))

namespace Toml

/-- `value.get(key, default)`: only a table has `.get`. -/
def get (value : Toml) (key : String) (default : Toml) : Except PyException Toml :=
  match value with
  | .table entries => .ok ((entries.lookup key).getD default)
  | _ => .error .attributeError

/-- `bool(value)`: an empty string or container and a zero number are false; NaN, the
infinities and dates and times are true. -/
def truthy : Toml → Bool
  | .str s => s != ""
  | .int n => n != 0
  | .float (.finite q) => q.num != 0
  | .float _ => true
  | .bool b => b
  | .datetime _ => true
  | .arr items => !items.isEmpty
  | .table entries => !entries.isEmpty

/-- `int(value)`: a float is truncated toward zero, and `parseInt` is the interpreter's reading
of a string. -/
def toInt (parseInt : String → Except PyException Int) : Toml → Except PyException Int
  | .int n => .ok n
  | .bool b => .ok (if b then 1 else 0)
  | .float (.finite q) => .ok (q.num.tdiv (Int.ofNat q.den))
  | .float (.infinite _) => .error .overflowError
  | .float .nan => .error .valueError
  | .str s => parseInt s
  | .datetime _ => .error .typeError
  | .arr _ => .error .typeError
  | .table _ => .error .typeError

/-- A string value. -/
def asString? : Toml → Option String
  | .str s => some s
  | _ => none

end Toml

/-- How `load_config` fails: the reason it logs before `sys.exit(1)`, or an exception. -/
inductive ConfigFailure where
  | exit (reason : String)
  | raised (error : PyException)
  deriving DecidableEq

/-- The dict `load_config` returns: the values as the document has them, with `user_id`
through `int()`. -/
structure LoadedConfig where
  token : Toml
  userId : Int
  heartbeatInterval : Toml
  profiles : Toml

/-- A lookup or a conversion of `load_config` that may raise. -/
def raising {α : Type} : Except PyException α → Except ConfigFailure α :=
  Except.mapError .raised

/-- `load_config()`, on the table `toml.load` returns for `config.toml`, `none` when the file
does not exist. -/
def loadConfig (configPath : String) (parseInt : String → Except PyException Int) :
    Option (List (String × Toml)) → Except ConfigFailure LoadedConfig
  | none => .error (.exit ("Config not found: " ++ configPath))
  | some document => do
    let conductorCfg ← raising ((Toml.table document).get "conductor" (.table []))
    let enabled ← raising (conductorCfg.get "enabled" (.bool false))
    if !enabled.truthy then
      throw (.exit "[conductor] section missing or not enabled in config.toml")
    let tg ← raising (conductorCfg.get "telegram" (.table []))
    let token ← raising (tg.get "token" (.str ""))
    let userId ← raising (tg.get "user_id" (.int 0))
    if !token.truthy then throw (.exit "conductor.telegram.token not set in config.toml")
    if !userId.truthy then throw (.exit "conductor.telegram.user_id not set in config.toml")
    let profiles ← raising (conductorCfg.get "profiles" (.arr [.str "default"]))
    let user ← raising (userId.toInt parseInt)
    let interval ← raising (conductorCfg.get "heartbeat_interval" (.int 15))
    pure ⟨token, user, interval, profiles⟩

/-- The `Config` the model runs on, when the values have the types the code uses: a string
token, an integer interval (a boolean as 0 or 1) and a list of strings. -/
def LoadedConfig.typed (loaded : LoadedConfig) : Option Config := do
  let token ← loaded.token.asString?
  let interval ← match loaded.heartbeatInterval with
    | .int n => some n
    | .bool b => some (if b then 1 else 0)
    | _ => none
  let profiles ← match loaded.profiles with
    | .arr items => items.mapM Toml.asString?
    | _ => none
  pure ⟨token, loaded.userId, interval, profiles⟩

/-- `config.toml` for a configuration, with `user` as its `user_id`: an enabled `[conductor]`
table with the interval and the profiles, and its `[conductor.telegram]` table. -/
def Config.documentWith (config : Config) (user : Toml) : List (String × Toml) :=
  [("conductor",
    .table [("enabled", .bool true), ("heartbeat_interval", .int config.heartbeatInterval),
    ("profiles", .arr (config.profiles.map .str)),
    ("telegram", .table [("token", .str config.token), ("user_id", user)])])]

theorem Toml.get_eq_ok {value : Toml} {key : String} {default item : Toml}
    (found : value.get key default = .ok item) :
    ∃ entries, value = .table entries ∧ item = (entries.lookup key).getD default := by
  cases value <;> simp_all [Toml.get]

theorem raising_eq_ok {α : Type} {result : Except PyException α} {value : α} :
    raising result = .ok value ↔ result = .ok value := by
  cases result <;> simp [raising, Except.mapError]

theorem bind_eq_ok {α β : Type} {first : Except ConfigFailure α} {next : α → Except ConfigFailure β}
    {value : β} (ok : first >>= next = .ok value) : ∃ middle, first = .ok middle ∧
      next middle = .ok value := by
  cases first with
  | error failure => cases ok
  | ok middle => exact ⟨middle, rfl, ok⟩

/-- `if not value: sys.exit(1)` goes on only for a truthy value. -/
theorem check_ok {β : Type} {passes : Bool} {failure : ConfigFailure}
    {rest : PUnit → Except ConfigFailure β}
    {value : β} (ok :
      (if (!passes) = true then throw failure >>= rest else pure PUnit.unit >>= rest) = .ok value) :
    passes = true ∧ rest PUnit.unit = .ok value := by
  cases passes
  · cases ok
  · exact ⟨rfl, ok⟩

/-- A section read with the empty table as its default that holds anything was present. -/
theorem Toml.lookup_of_get_table {entries found : List (String × Toml)} {key : String}
    (read : (Toml.table entries).get key (.table []) = .ok (.table found)) (holds : found ≠ []) :
    entries.lookup key = some (.table found) := by
  simp only [Toml.get, Except.ok.injEq] at read
  cases present : entries.lookup key with
  | none => rw [present, Option.getD_none, Toml.table.injEq] at read; exact absurd read.symm holds
  | some value => rw [present, Option.getD_some] at read; rw [read]

/-- A setting read with a falsy default passes its truth test only when it is present. -/
theorem present_of_truthy {setting : Option Toml} {default : Toml}
    (passes : (setting.getD default).truthy = true) (falsy : default.truthy = false) : ∃ value,
      setting = some value ∧ value.truthy = true := by
  cases setting with
  | none => simp_all
  | some value => exact ⟨value, rfl, passes⟩

section Load

variable (configPath : String) (parseInt : String → Except PyException Int)

/-- What `load_config` accepts and returns: the required settings present and truthy, `int()`
of the user id, and the interval and the profiles as written or their defaults. -/
theorem loadConfig_ok {file : Option (List (String × Toml))} {loaded : LoadedConfig}
    (ok : loadConfig configPath parseInt file = .ok loaded) :
    ∃ document entries telegram enabled userId, file = some document ∧
      document.lookup "conductor" = some (.table entries) ∧
      entries.lookup "enabled" = some enabled ∧ enabled.truthy = true ∧
      entries.lookup "telegram" = some (.table telegram) ∧
      telegram.lookup "token" = some loaded.token ∧ loaded.token.truthy = true ∧
      telegram.lookup "user_id" = some userId ∧ userId.truthy = true ∧
        userId.toInt parseInt = .ok loaded.userId ∧
      loaded.heartbeatInterval = (entries.lookup "heartbeat_interval").getD (.int 15) ∧
      loaded.profiles = (entries.lookup "profiles").getD (.arr [.str "default"]) := by
  obtain _ | document := file
  · cases ok
  obtain ⟨conductorCfg, fetched, ok⟩ := bind_eq_ok ok
  obtain ⟨enabled, enabledRead, ok⟩ := bind_eq_ok ok
  obtain ⟨enabledCheck, ok⟩ := check_ok ok
  obtain ⟨tg, tgRead, ok⟩ := bind_eq_ok ok
  obtain ⟨token, tokenRead, ok⟩ := bind_eq_ok ok
  obtain ⟨userId, userRead, ok⟩ := bind_eq_ok ok
  obtain ⟨tokenCheck, ok⟩ := check_ok ok
  obtain ⟨userCheck, ok⟩ := check_ok ok
  obtain ⟨profiles, profilesRead, ok⟩ := bind_eq_ok ok
  obtain ⟨user, converted, ok⟩ := bind_eq_ok ok
  obtain ⟨interval, intervalRead, ok⟩ := bind_eq_ok ok
  cases ok
  obtain ⟨entries, rfl, rfl⟩ := Toml.get_eq_ok (raising_eq_ok.mp enabledRead)
  obtain ⟨telegram, rfl, rfl⟩ := Toml.get_eq_ok (raising_eq_ok.mp tokenRead)
  obtain ⟨_, same, rfl⟩ := Toml.get_eq_ok (raising_eq_ok.mp userRead)
  cases same
  obtain ⟨_, same, rfl⟩ := Toml.get_eq_ok (raising_eq_ok.mp profilesRead)
  cases same
  obtain ⟨_, same, rfl⟩ := Toml.get_eq_ok (raising_eq_ok.mp intervalRead)
  cases same
  obtain ⟨enabled, enabledFound, enabledTruthy⟩ := present_of_truthy enabledCheck rfl
  obtain ⟨token, tokenFound, tokenTruthy⟩ := present_of_truthy tokenCheck rfl
  obtain ⟨userId, userFound, userTruthy⟩ := present_of_truthy userCheck rfl
  have conductorFound :=
    Toml.lookup_of_get_table (raising_eq_ok.mp fetched) (by rintro rfl; cases enabledFound)
  have telegramFound :=
    Toml.lookup_of_get_table (raising_eq_ok.mp tgRead) (by rintro rfl; cases tokenFound)
  refine ⟨document, entries, telegram, enabled, userId, rfl, conductorFound, enabledFound,
    enabledTruthy, telegramFound, by simp [tokenFound],
    by simpa [tokenFound] using tokenTruthy, userFound, userTruthy, ?_, rfl, rfl⟩
  simpa [raising_eq_ok, userFound] using converted

/-- A document with only the required settings: the interval and the profiles take their
defaults. -/
theorem loadConfig_ok_defaults :
    loadConfig "/home/user/.agent-deck/config.toml" (fun _ => .error .valueError)
        (some [("conductor", .table [("enabled", .bool true),
          ("telegram", .table [("token", .str "token"), ("user_id", .int 7)])])]) =
      .ok ⟨.str "token", 7, .int 15, .arr [.str "default"]⟩ ∧
    ∃ document entries telegram enabled userId,
      some [("conductor", Toml.table [("enabled", .bool true),
          ("telegram", .table [("token", .str "token"), ("user_id", .int 7)])])] = some document ∧
      document.lookup "conductor" = some (.table entries) ∧
      entries.lookup "enabled" = some enabled ∧ enabled.truthy = true ∧
      entries.lookup "telegram" = some (.table telegram) ∧
      telegram.lookup "token" = some (.str "token") ∧ (Toml.str "token").truthy = true ∧
      telegram.lookup "user_id" = some userId ∧ userId.truthy = true ∧
      userId.toInt (fun _ => .error .valueError) = .ok 7 ∧
      Toml.int 15 = (entries.lookup "heartbeat_interval").getD (.int 15) ∧
      Toml.arr [.str "default"] = (entries.lookup "profiles").getD (.arr [.str "default"]) :=
  have ok : loadConfig "/home/user/.agent-deck/config.toml" (fun _ => .error .valueError)
      (some [("conductor", .table [("enabled", .bool true),
        ("telegram", .table [("token", .str "token"), ("user_id", .int 7)])])]) =
      .ok ⟨.str "token", 7, .int 15, .arr [.str "default"]⟩ := rfl
  ⟨ok, loadConfig_ok "/home/user/.agent-deck/config.toml" (fun _ => .error .valueError) ok⟩

/-- `int()` of a float strictly between -1 and 1 is 0. -/
theorem toInt_fraction {q : ℚ} (small : q.num.natAbs < q.den) :
    (Toml.float (.finite q)).toInt parseInt = .ok 0 := by
  show Except.ok (q.num.tdiv (Int.ofNat q.den)) = .ok 0
  cases numerator : q.num with
  | ofNat n =>
    rw [numerator] at small
    simp [Int.tdiv, Nat.div_eq_of_lt (show n < q.den from small)]
  | negSucc n =>
    rw [numerator] at small
    simp [Int.tdiv, Nat.div_eq_of_lt (show n + 1 < q.den from small)]

theorem mapM_asString (profiles : List String) :
    (profiles.map Toml.str).mapM Toml.asString? = some profiles := by
  induction profiles with
  | nil => rfl
  | cons profile rest inductionHypothesis =>
    rw [List.map_cons, List.mapM_cons, inductionHypothesis]
    rfl

/-- A configuration written out with a truthy `user_id` loads back with `int(user_id)`. -/
theorem loadConfig_documentWith (config : Config) (token : config.token ≠ "") {value : Toml}
    (truthy : value.truthy = true) {user : Int} (converted : value.toInt parseInt = .ok user) :
    ∃ loaded, loadConfig configPath parseInt (some (config.documentWith value)) = .ok loaded ∧
      loaded.typed = some { config with userId := user } := by
  refine ⟨⟨.str config.token, user, .int config.heartbeatInterval, .arr (config.profiles.map .str)⟩,
    ?_, ?_⟩
  · have named : (Toml.str config.token).truthy = true := by simpa [Toml.truthy] using token
    have enabled : (Toml.bool true).truthy = true := rfl
    simp only [loadConfig, Config.documentWith, Toml.get, raising, Except.mapError,
      List.lookup_cons,
      String.reduceBEq, List.lookup_nil, Option.getD_some, named, enabled, truthy, converted,
        bind, Except.bind,
      Bool.not_true, Bool.false_eq_true, if_false, pure, Except.pure]
  · simp only [LoadedConfig.typed, Toml.asString?, mapM_asString]
    rfl

end Load

end ConductorBridge
