import Mathlib.Algebra.Ring.Int.Defs
import Mathlib.Data.List.Nodup
import ConductorBridge.Prog
import ConductorBridge.Text

/-!
# The agent-deck CLI gateway

`run_cli` runs `agent-deck [-p <profile>] <args>` and turns a timeout or a missing binary
into a failed `CompletedProcess`, so its callers meet one kind of failure. The helpers
above it read the exit code and then either the text or the JSON of the output, and
`ensure_conductor_running` starts, or creates and starts, a profile's conductor session
when its status reads `"error"`.
-/

namespace ConductorBridge

/-- `RESPONSE_TIMEOUT`: how long to wait for a conductor's reply, in seconds. -/
def responseTimeout : Nat := 300

/-- What the bridge takes from the interpreter and the file system: `str()` on decoded values,
and the path `str(CONDUCTOR_DIR / profile)`. -/
structure Host where
  pyStr : Json → String
  pyStr_str : ∀ s, pyStr (.str s) = s
  pyStr_int : ∀ n : Int, pyStr (.int n) = toString n
  conductorPath : String → String

/-- A host that prints strings and integers as Python does and anything else as `...`, with
the home directory `/home/user`. -/
def Host.sample : Host where
  pyStr
    | .str s => s
    | .int n => toString n
    | _ => "..."
  pyStr_str _ := rfl
  pyStr_int _ := rfl
  conductorPath profile := "/home/user/.agent-deck/conductor/" ++ profile

/-- `conductor_session_title(profile)`. -/
def conductorSessionTitle (profile : String) : String := "conductor-" ++ profile

/-- The command line `run_cli` builds: `-p <profile>` for a non-empty profile only. -/
def cliCommand (args : List String) (profile : Option String) : List String :=
  "agent-deck" :: ((match profile with
    | some name => if name = "" then [] else ["-p", name]
    | none => []) ++ args)

/-- `run_cli(*args, profile=profile, timeout=timeout)`. -/
def runCli (args : List String) (profile : Option String := none) (timeout : Nat := 120) :
    Prog CompletedProcess :=
  .subprocess (cliCommand args profile) timeout fun
    | .completed result => .pure result
    | .timeoutExpired => .pure ⟨1, "", .error .jsonDecodeError, "timeout"⟩
    | .fileNotFound => .pure ⟨1, "", .error .jsonDecodeError, "not found"⟩
    | .undecodable => .raise .unicodeDecodeError

/-- `get_session_status(session, profile)`: the `status` field of `session show --json`,
`"error"` for a failed command, for output that is not JSON and for a missing field. -/
def getSessionStatus (session : String) (profile : Option String := none) : Prog Json := do
  let result ← runCli ["session", "show", session, "--json"] profile 30
  if result.returncode ≠ 0 then pure (.str "error")
  else
    match result.loads with
    | .ok data => Prog.ofExcept (data.get "status" (.str "error"))
    | .error .jsonDecodeError => pure (.str "error")
    | .error error => .raise error

/-- `get_session_output(session, profile)`. -/
def getSessionOutput (session : String) (profile : Option String := none) : Prog String := do
  let result ← runCli ["session", "output", session, "-q"] profile 30
  if result.returncode ≠ 0 then pure ("[Error getting output: " ++ stripStr result.stderr ++ "]")
  else pure (stripStr result.stdout)

/-- The command line of `send_to_conductor`. -/
def sendArgs (session message : String) (waitForReply : Bool) (replyTimeout : Nat) :
    List String :=
  if waitForReply then
    ["session", "send", session, message, "--wait", "--timeout", toString replyTimeout ++ "s", "-q"]
  else ["session", "send", session, message, "--no-wait"]

/-- `send_to_conductor(session, message, profile, wait_for_reply, response_timeout)`:
whether the send succeeded, and the stripped reply. -/
def sendToConductor (session message : String) (profile : Option String := none)
    (waitForReply : Bool := false) (replyTimeout : Nat := responseTimeout) :
    Prog (Bool × String) := do
  let result ← runCli (sendArgs session message waitForReply replyTimeout) profile
    (if waitForReply then max (replyTimeout + 30) 60 else 30)
  if result.returncode ≠ 0 then pure (false, "") else pure (true, stripStr result.stdout)

/-- The keys of a status summary, in the order of the `totals` dict. -/
def statusKeys : List String := ["waiting", "running", "idle", "error", "total"]

/-- `{"waiting": 0, "running": 0, "idle": 0, "error": 0, "total": 0}`. -/
def zeroSummary : Json := .obj (statusKeys.map fun key => (key, .int 0))

/-- `get_status_summary(profile)`: the decoded output of `status --json`, the zero
summary for a failed command or output that is not JSON. -/
def getStatusSummary (profile : Option String := none) : Prog Json := do
  let result ← runCli ["status", "--json"] profile 30
  if result.returncode ≠ 0 then pure zeroSummary
  else
    match result.loads with
    | .ok summary => pure summary
    | .error .jsonDecodeError => pure zeroSummary
    | .error error => .raise error

/-- `d[key] = value` on a dict: a new key goes last, a present one keeps its place. -/
def dictSet {β : Type} (dict : List (String × β)) (key : String) (value : β) :
    List (String × β) :=
  if dict.any (·.1 == key) then dict.map fun entry => if entry.1 = key then (key, value) else entry
  else dict ++ [(key, value)]

theorem dictSet_fresh {β : Type} {dict : List (String × β)} {key : String}
    (fresh : ∀ entry ∈ dict, entry.1 ≠ key) (value : β) :
    dictSet dict key value = dict ++ [(key, value)] := by
  rw [dictSet, if_neg]
  intro present
  obtain ⟨entry, mem, same⟩ := List.any_eq_true.mp present
  exact fresh entry mem (beq_iff_eq.mp same)

/-- `for key in totals: totals[key] += summary.get(key, 0)`. -/
def addSummary (totals : List (String × Json)) (summary : Json) :
    Except PyException (List (String × Json)) :=
  totals.mapM fun entry => do
    let count ← summary.get entry.1 (.int 0)
    let total ← entry.2.add count
    pure (entry.1, total)

/-- What `get_status_summary_all` returns: `totals` and `per_profile`. -/
structure StatusAggregate where
  totals : List (String × Json)
  perProfile : List (String × Json)

/-- The loop of `get_status_summary_all` over the profiles still to fetch. -/
def getStatusSummaryLoop (aggregate : StatusAggregate) : List String → Prog StatusAggregate
  | [] => pure aggregate
  | profile :: rest => do
    let summary ← getStatusSummary profile
    let totals ← Prog.ofExcept (addSummary aggregate.totals summary)
    getStatusSummaryLoop ⟨totals, dictSet aggregate.perProfile profile summary⟩ rest

/-- `get_status_summary_all(profiles)`. -/
def getStatusSummaryAll (profiles : List String) : Prog StatusAggregate :=
  getStatusSummaryLoop ⟨statusKeys.map fun key => (key, .int 0), []⟩ profiles

/-- `get_sessions_list(profile)`: the `sessions` field of an object, a bare array, and
`[]` for anything else or a failure. -/
def getSessionsList (profile : Option String := none) : Prog Json := do
  let result ← runCli ["list", "--json"] profile 30
  if result.returncode ≠ 0 then pure (.arr [])
  else
    match result.loads with
    | .ok (.obj fields) => pure ((fields.lookup "sessions").getD (.arr []))
    | .ok (.arr items) => pure (.arr items)
    | .ok _ => pure (.arr [])
    | .error .jsonDecodeError => pure (.arr [])
    | .error error => .raise error

/-- `get_sessions_list_all(profiles)`: every session, tagged with its profile. -/
def getSessionsListAll : List String → Prog (List (String × Json))
  | [] => pure []
  | profile :: rest => do
    let sessions ← getSessionsList profile
    let items ← Prog.ofExcept sessions.iter
    let others ← getSessionsListAll rest
    pure (items.map (profile, ·) ++ others)

/-- The tail of `ensure_conductor_running` once a start was attempted: wait five
seconds for the session to initialise, then read its status again. -/
def settleAndCheck (profile : String) : Prog Bool := do
  Prog.pause 5
  let status ← getSessionStatus (conductorSessionTitle profile) profile
  pure !(status.eqStr "error")

/-- `ensure_conductor_running(profile)`: nothing to do unless the conductor's status reads
`"error"`; then start it, or create and start it, and check its status again. -/
def ensureConductorRunning (host : Host) (profile : String) : Prog Bool := do
  let sessionTitle := conductorSessionTitle profile
  let status ← getSessionStatus sessionTitle profile
  if status.eqStr "error" then do
    let started ← runCli ["session", "start", sessionTitle] profile 60
    if started.returncode ≠ 0 then do
      let created ← runCli ["add", host.conductorPath profile, "-t", sessionTitle, "-c", "claude",
        "-g", "infra"] profile 60
      if created.returncode ≠ 0 then pure false
      else do
        let _ ← runCli ["session", "start", sessionTitle] profile 60
        settleAndCheck profile
    else settleAndCheck profile
  else pure true

/-! ## Every path of the gateway calls

Every path of a gateway call ends, runs `agent-deck` for the profile it was given, and
delivers no chat message. -/

/-- The requests of a gateway call for `profile`: runs of `agent-deck` with that profile's
flag, and sleeps. -/
def CallsFor (profile : Option String) : Request → Prop
  | .subprocess cmd _ => ∃ args, cmd = cliCommand args profile
  | .deliver _ _ => False
  | .sleep _ => True

/-- Every path of `prog` ends, making only the requests of a gateway call for `profile`. -/
def GatewayCall {α : Type} (profile : Option String) (prog : Prog α) : Prop :=
  prog.Sat (CallsFor profile) (fun _ => True) (fun _ => True)

section GatewayCall

variable {α β : Type} {profile : Option String}

theorem GatewayCall.bind {prog : Prog α} {next : α → Prog β} (first : GatewayCall profile prog)
    (second : ∀ value, GatewayCall profile (next value)) : GatewayCall profile (prog.bind next) :=
  Prog.Sat.bind first fun value _ => second value

theorem gatewayCall_ofExcept (result : Except PyException α) :
    GatewayCall profile (Prog.ofExcept result) :=
  Prog.sat_ofExcept (fun _ _ => trivial) (fun _ _ => trivial)

theorem sat_runCli {allowed : Request → Prop} (args : List String) (timeout : Nat)
    (issued : allowed (.subprocess (cliCommand args profile) timeout)) :
    (runCli args profile timeout).Sat allowed (fun _ => True) (fun _ => True) :=
  ⟨issued, fun outcome => by cases outcome <;> trivial⟩

theorem runCli_gateway (args : List String) (timeout : Nat) :
    GatewayCall profile (runCli args profile timeout) :=
  sat_runCli args timeout ⟨args, rfl⟩

theorem getSessionStatus_gateway (session : String) :
    GatewayCall profile (getSessionStatus session profile) := by
  refine (runCli_gateway _ _).bind fun result => ?_
  split
  · trivial
  · split
    · exact gatewayCall_ofExcept _
    all_goals trivial

theorem getStatusSummary_gateway : GatewayCall profile (getStatusSummary profile) := by
  refine (runCli_gateway _ _).bind fun result => ?_
  split
  · trivial
  · split <;> trivial

theorem getSessionsList_gateway : GatewayCall profile (getSessionsList profile) := by
  refine (runCli_gateway _ _).bind fun result => ?_
  split
  · trivial
  · split <;> trivial

theorem sendToConductor_gateway (session message : String) (waitForReply : Bool)
    (replyTimeout : Nat) :
    GatewayCall profile (sendToConductor session message profile waitForReply replyTimeout) := by
  refine (runCli_gateway _ _).bind fun result => ?_
  split <;> trivial

end GatewayCall

theorem settleAndCheck_gateway (profile : String) : GatewayCall profile (settleAndCheck profile) :=
  GatewayCall.bind (Prog.sat_pause 5 trivial) fun _ =>
    getSessionStatus_gateway _ |>.bind fun _ => trivial

theorem ensureConductorRunning_gateway (host : Host) (profile : String) :
    GatewayCall profile (ensureConductorRunning host profile) := by
  refine (getSessionStatus_gateway _).bind fun status => ?_
  split
  · refine (runCli_gateway _ _).bind fun started => ?_
    split
    · refine (runCli_gateway _ _).bind fun created => ?_
      split
      · trivial
      · exact (runCli_gateway _ _).bind fun _ => settleAndCheck_gateway profile
    · exact settleAndCheck_gateway profile
  · trivial

/-! ## Runs of the gateway calls

Each lemma plays one gateway call against the answer it reads first, so that a caller's
run is computed call by call, never by unfolding the callee. -/

theorem getStatusSummary_run_ok (profile : Option String) (result : CompletedProcess)
    (summary : Json) (exited : result.returncode = 0) (decoded : result.loads = .ok summary)
    (more : List Answer) :
    (getStatusSummary profile).run (.outcome (.completed result) :: more) =
      ⟨[.subprocess (cliCommand ["status", "--json"] profile) 30], some (.ok summary), more⟩ := by
  simp [getStatusSummary, runCli, Prog.run_bind, Prog.run, Prog.Run.andThen, exited, decoded]

theorem getSessionsList_run_arr (profile : Option String) (result : CompletedProcess)
    (items : List Json) (exited : result.returncode = 0) (decoded : result.loads = .ok (.arr items))
    (more : List Answer) :
    (getSessionsList profile).run (.outcome (.completed result) :: more) =
      ⟨[.subprocess (cliCommand ["list", "--json"] profile) 30],
        some (.ok (.arr items)), more⟩ := by
  simp [getSessionsList, runCli, Prog.run_bind, Prog.run, Prog.Run.andThen, exited, decoded]

theorem sendToConductor_run_ok (session message : String) (profile : Option String)
    (waitForReply : Bool) (replyTimeout : Nat) (result : CompletedProcess)
    (exited : result.returncode = 0) (more : List Answer) :
    (sendToConductor session message profile waitForReply replyTimeout).run
        (.outcome (.completed result) :: more) =
      ⟨[.subprocess (cliCommand (sendArgs session message waitForReply replyTimeout) profile)
          (if waitForReply then max (replyTimeout + 30) 60 else 30)],
        some (.ok (true, stripStr result.stdout)), more⟩ := by
  simp [sendToConductor, runCli, Prog.run_bind, Prog.run, Prog.Run.andThen, exited]

theorem ensureConductorRunning_run_up (host : Host) (profile : String) (result : CompletedProcess)
    (fields : List (String × Json)) (exited : result.returncode = 0)
    (decoded : result.loads = .ok (.obj fields))
    (up : ((fields.lookup "status").getD (.str "error")).eqStr "error" = false)
      (more : List Answer) :
    (ensureConductorRunning host profile).run (.outcome (.completed result) :: more) =
      ⟨[.subprocess
        (cliCommand ["session", "show", conductorSessionTitle profile, "--json"] profile) 30],
        some (.ok true), more⟩ := by
  simp [ensureConductorRunning, getSessionStatus, runCli, Prog.run_bind, Prog.run, Prog.Run.andThen,
    exited, decoded, up]

/-- `ensure_all_conductors_running(profiles)`. -/
def ensureAllConductorsRunning (host : Host) : List String → Prog (List (String × Bool)) :=
  go []
where
  go (results : List (String × Bool)) : List String → Prog (List (String × Bool))
    | [] => pure results
    | profile :: rest => do
      let running ← ensureConductorRunning host profile
      go (dictSet results profile running) rest

/-! ## What `session show` reports -/

/-- `session show --json` answered `outcome`, read as a status: `"error"` for a failure or
output that is not JSON, an object's `status` field, `"error"` when it is absent. -/
inductive ShowsStatus : SubprocessOutcome → Json → Prop where
  | timeout : ShowsStatus .timeoutExpired (.str "error")
  | notFound : ShowsStatus .fileNotFound (.str "error")
  | failed {result : CompletedProcess} :
      result.returncode ≠ 0 → ShowsStatus (.completed result) (.str "error")
  | notJson {result : CompletedProcess} :
      result.returncode = 0 → result.loads = .error .jsonDecodeError →
      ShowsStatus (.completed result) (.str "error")
  | object {result : CompletedProcess} {fields : List (String × Json)} :
      result.returncode = 0 → result.loads = .ok (.obj fields) →
      ShowsStatus (.completed result) ((fields.lookup "status").getD (.str "error"))

/-- An answer that is text and, exiting 0, not JSON or an object shows a status. -/
theorem showsStatus_of_decoded {outcome : SubprocessOutcome} (readable : outcome ≠ .undecodable)
    (decoded : ∀ result, outcome = .completed result → result.returncode = 0 →
      result.loads = .error .jsonDecodeError ∨ ∃ fields, result.loads = .ok (.obj fields)) :
    ∃ status, ShowsStatus outcome status := by
  cases outcome with
  | timeoutExpired => exact ⟨_, .timeout⟩
  | fileNotFound => exact ⟨_, .notFound⟩
  | undecodable => exact absurd rfl readable
  | completed result =>
    by_cases exited : result.returncode = 0
    · rcases decoded result rfl exited with notJson | ⟨fields, object⟩
      · exact ⟨_, .notJson exited notJson⟩
      · exact ⟨_, .object exited object⟩
    · exact ⟨_, .failed exited⟩

theorem getSessionStatus_run_shows {outcome : SubprocessOutcome} {status : Json}
    (shows : ShowsStatus outcome status) (session : String) (profile : Option String)
    (more : List Answer) :
    (getSessionStatus session profile).run (.outcome outcome :: more) =
      ⟨[.subprocess (cliCommand ["session", "show", session, "--json"] profile) 30],
        some (.ok status), more⟩ := by
  cases shows <;> simp [getSessionStatus, runCli, Prog.run_bind, Prog.run, Prog.Run.andThen, *]

/-- `ensure_conductor_running` stops after its `session show` iff the status is not `"error"`. -/
theorem ensureConductorRunning_run_fast_iff (host : Host) (profile : String)
    {outcome : SubprocessOutcome} {status : Json} (shows : ShowsStatus outcome status)
    (more : List Answer) :
    (ensureConductorRunning host profile).run (.outcome outcome :: more) =
        ⟨[.subprocess
          (cliCommand ["session", "show", conductorSessionTitle profile, "--json"] profile) 30],
          some (.ok true), more⟩ ↔
      status.eqStr "error" = false := by
  simp only [ensureConductorRunning, Prog.monad_bind, Prog.run_bind,
    getSessionStatus_run_shows shows, Prog.Run.andThen]
  cases reads : status.eqStr "error"
  · simp [Prog.run]
  · simp only [if_true, runCli, Prog.monad_bind, Prog.bind]
    obtain ⟨rest, starts⟩ := Prog.run_subprocess_requests _ _ _ more
    rw [starts]
    simp

/-- `session show --json` printing `{"status": "stopped"}`: `get_session_status` returns
`"stopped"`, outside its four statuses, and `ensure_conductor_running` takes its fast path. -/
theorem getSessionStatus_stopped :
    (getSessionStatus "conductor-ops" "ops").run
        [.outcome (.completed
          ⟨0, "\x7b\"status\": \"stopped\"\x7d", .ok (.obj [("status", .str "stopped")]), ""⟩)] =
      ⟨[.subprocess (cliCommand ["session", "show", "conductor-ops", "--json"] "ops") 30],
        some (.ok (.str "stopped")), []⟩ ∧
    (ensureConductorRunning Host.sample "ops").run
        [.outcome (.completed
          ⟨0, "\x7b\"status\": \"stopped\"\x7d", .ok (.obj [("status", .str "stopped")]), ""⟩)] =
      ⟨[.subprocess (cliCommand ["session", "show", "conductor-ops", "--json"] "ops") 30],
        some (.ok true), []⟩ :=
  ⟨rfl, rfl⟩

/-! ## What `list --json` lists -/

/-- `list --json` answered `outcome`, read as the spec reads the tool: the bare array, an
object's `sessions` array, and nothing for every other shape or failure. -/
inductive ListsSessions : SubprocessOutcome → List Json → Prop where
  | timeout : ListsSessions .timeoutExpired []
  | notFound : ListsSessions .fileNotFound []
  | failed {result : CompletedProcess} : result.returncode ≠ 0 →
    ListsSessions (.completed result) []
  | notJson {result : CompletedProcess} :
      result.returncode = 0 → result.loads = .error .jsonDecodeError →
        ListsSessions (.completed result) []
  | bare {result : CompletedProcess} {items : List Json} :
      result.returncode = 0 → result.loads = .ok (.arr items) →
        ListsSessions (.completed result) items
  | field {result : CompletedProcess} {fields : List (String × Json)} {items : List Json} :
      result.returncode = 0 → result.loads = .ok (.obj fields) →
      fields.lookup "sessions" = some (.arr items) → ListsSessions (.completed result) items
  | noField {result : CompletedProcess} {fields : List (String × Json)} :
      result.returncode = 0 → result.loads = .ok (.obj fields) → fields.lookup "sessions" = none →
      ListsSessions (.completed result) []
  | scalar {result : CompletedProcess} {value : Json} :
      result.returncode = 0 → result.loads = .ok value → (∀ items, value ≠ .arr items) →
      (∀ fields, value ≠ .obj fields) → ListsSessions (.completed result) []

/-- An answer of `list --json` whose output, when the command exits 0, is not JSON or is a
JSON value whose `sessions` field, if it is an object holding one, is an array. -/
def ListShaped : SubprocessOutcome → Prop
  | .completed result => result.returncode = 0 → result.loads = .error .jsonDecodeError ∨
      ∃ value, result.loads = .ok value ∧ ∀ fields sessions, value = .obj fields →
        fields.lookup "sessions" = some sessions → ∃ items, sessions = .arr items
  | .undecodable => False
  | _ => True

theorem listsSessions_of_shaped {outcome : SubprocessOutcome} (shaped : ListShaped outcome) :
    ∃ items, ListsSessions outcome items := by
  cases outcome with
  | timeoutExpired => exact ⟨_, .timeout⟩
  | fileNotFound => exact ⟨_, .notFound⟩
  | undecodable => exact shaped.elim
  | completed result =>
    by_cases exited : result.returncode = 0
    · rcases shaped exited with notJson | ⟨value, decoded, sessionsArray⟩
      · exact ⟨_, .notJson exited notJson⟩
      match value, decoded, sessionsArray with
      | .arr _, decoded, _ => exact ⟨_, .bare exited decoded⟩
      | .obj fields, decoded, sessionsArray =>
        cases found : fields.lookup "sessions" with
        | none => exact ⟨_, .noField exited decoded found⟩
        | some sessions =>
          obtain ⟨items, rfl⟩ := sessionsArray fields sessions rfl found
          exact ⟨_, .field exited decoded found⟩
      | .null, decoded, _ | .bool _, decoded, _ | .int _, decoded, _ | .float _, decoded, _
      | .str _, decoded, _ => exact ⟨_, .scalar exited decoded (fun _ => nofun) fun _ => nofun⟩
    · exact ⟨_, .failed exited⟩

theorem exists_forall₂_listsSessions : ∀ {outcomes : List SubprocessOutcome},
    (∀ outcome ∈ outcomes, ListShaped outcome) → ∃ lists, List.Forall₂ ListsSessions outcomes lists
  | [], _ => ⟨[], .nil⟩
  | outcome :: _, shaped => by
    obtain ⟨items, listed⟩ := listsSessions_of_shaped (shaped outcome (List.mem_cons_self _ _))
    obtain ⟨lists, rest⟩ := exists_forall₂_listsSessions fun other mem =>
      shaped other (List.mem_cons_of_mem _ mem)
    exact ⟨items :: lists, .cons listed rest⟩

theorem getSessionsList_run_lists {outcome : SubprocessOutcome} {items : List Json}
    (listed : ListsSessions outcome items) (profile : Option String) (more : List Answer) :
    (getSessionsList profile).run (.outcome outcome :: more) =
      ⟨[.subprocess (cliCommand ["list", "--json"] profile) 30],
        some (.ok (.arr items)), more⟩ := by
  cases listed with
  | @scalar result value exited decoded notArray notObject =>
    cases value <;> simp_all [getSessionsList, runCli, Prog.run_bind, Prog.run, Prog.Run.andThen]
  | _ => simp [getSessionsList, runCli, Prog.run_bind, Prog.run, Prog.Run.andThen, *]

/-- `get_sessions_list_all` collects each profile with each of its sessions, in order. -/
theorem getSessionsListAll_run_lists :
    ∀ (profiles : List String) {outcomes : List SubprocessOutcome} {lists : List (List Json)},
      outcomes.length = profiles.length → List.Forall₂ ListsSessions outcomes lists →
      ∀ more : List Answer, (getSessionsListAll profiles).run (outcomes.map .outcome ++ more) =
        ⟨profiles.map fun (profile : String) =>
          .subprocess (cliCommand ["list", "--json"] profile) 30,
          some (.ok ((profiles.zip lists).map fun entry => entry.2.map (entry.1, ·)).flatten), more⟩
  | [], [], _, _, .nil, more => rfl
  | profile :: profiles, outcome :: outcomes, items :: lists, lengths, .cons listed rest, more => by
    simp only [getSessionsListAll, List.map_cons, List.cons_append, Prog.monad_bind, Prog.run_bind,
      getSessionsList_run_lists listed, Prog.Run.andThen, Json.iter, Prog.ofExcept_ok,
      Prog.bind_pure_left, getSessionsListAll_run_lists profiles (Nat.succ.inj lengths) rest more]
    simp [Prog.run]

/-! ## Ensuring every conductor -/

/-- The keys of a dict with keys `seen` once `keys` are assigned in order: a new key goes
last, a present one keeps its place. -/
def assignedKeys (seen : List String) : List String → List String
  | [] => seen
  | key :: rest => assignedKeys (if key ∈ seen then seen else seen ++ [key]) rest

theorem assignedKeys_nodup : ∀ {seen : List String} (keys : List String), seen.Nodup →
    (assignedKeys seen keys).Nodup
  | _, [], distinct => distinct
  | seen, key :: rest, distinct => by
    refine assignedKeys_nodup rest ?_
    split
    · exact distinct
    · exact List.nodup_append.mpr ⟨distinct, List.nodup_singleton key,
        List.disjoint_singleton.mpr (by assumption)⟩

theorem mem_assignedKeys {k : String} : ∀ {seen : List String} (keys : List String),
    k ∈ assignedKeys seen keys ↔ k ∈ seen ∨ k ∈ keys
  | _, [] => by simp [assignedKeys]
  | seen, key :: rest => by
    rw [assignedKeys, mem_assignedKeys rest, List.mem_cons]
    split
    · constructor
      · exact fun found => found.imp_right .inr
      · rintro (old | rfl | later)
        exacts [.inl old, .inl (by assumption), .inr later]
    · simp only [List.mem_append, List.mem_singleton, or_assoc]

theorem assignedKeys_of_nodup : ∀ {seen : List String} (keys : List String), (seen ++ keys).Nodup →
    assignedKeys seen keys = seen ++ keys
  | _, [], _ => (List.append_nil _).symm
  | seen, key :: rest, distinct => by
    have fresh : key ∉ seen :=
      fun old => List.disjoint_of_nodup_append distinct old (List.mem_cons_self _ _)
    rw [assignedKeys, if_neg fresh, assignedKeys_of_nodup rest (by simpa using distinct)]
    simp

theorem dictSet_keys {β : Type} (dict : List (String × β)) (key : String) (value : β) :
    (dictSet dict key value).map Prod.fst =
      if key ∈ dict.map Prod.fst then dict.map Prod.fst else dict.map Prod.fst ++ [key] := by
  have present : dict.any (·.1 == key) = true ↔ key ∈ dict.map Prod.fst := by
    simp only [List.any_eq_true, beq_iff_eq, List.mem_map]
  unfold dictSet
  by_cases found : key ∈ dict.map Prod.fst
  · rw [if_pos (present.mpr found), if_pos found, List.map_map]
    exact List.map_congr_left fun entry _ => by by_cases same : entry.1 = key <;> simp [same]
  · rw [if_neg (mt present.mp found), if_neg found, List.map_append]
    rfl

/-- The requests of gateway calls for any of `profiles`. -/
def CallsAmong (profiles : List String) : Request → Prop
  | .subprocess cmd _ => ∃ profile ∈ profiles, ∃ args, cmd = cliCommand args profile
  | .deliver _ _ => False
  | .sleep _ => True

theorem GatewayCall.among {α : Type} {prog : Prog α} {profile : String} {profiles : List String}
    (call : GatewayCall profile prog) (listed : profile ∈ profiles) :
    prog.Sat (CallsAmong profiles) (fun _ => True) (fun _ => True) :=
  Prog.Sat.mono call
    (fun request made => match request, made with
      | .subprocess _ _, ⟨args, issued⟩ => ⟨profile, listed, args, issued⟩
      | .sleep _, _ => trivial)
    (fun _ _ => trivial) (fun _ _ => trivial)

/-- Every path of the loop of `get_status_summary_all` ends and calls for its profiles only. -/
theorem getStatusSummaryLoop_sat (profiles : List String) :
    ∀ (aggregate : StatusAggregate) (pending : List String),
      (∀ profile ∈ pending, profile ∈ profiles) →
      (getStatusSummaryLoop aggregate pending).Sat (CallsAmong profiles) (fun _ => True)
        (fun _ => True)
  | _, [], _ => trivial
  | _, profile :: rest, listed =>
    (getStatusSummary_gateway.among (listed profile (List.mem_cons_self _ _))).bind fun _ _ =>
      (Prog.sat_ofExcept (fun _ _ => trivial) (fun _ _ => trivial)).bind fun _ _ =>
        getStatusSummaryLoop_sat profiles _ rest fun other mem =>
          listed other (List.mem_cons_of_mem _ mem)

/-- Every path of `get_sessions_list_all` ends and calls for its profiles only. -/
theorem getSessionsListAll_sat (profiles : List String) :
    ∀ pending : List String, (∀ profile ∈ pending, profile ∈ profiles) →
      (getSessionsListAll pending).Sat (CallsAmong profiles) (fun _ => True) (fun _ => True)
  | [], _ => trivial
  | profile :: rest, listed =>
    (getSessionsList_gateway.among (listed profile (List.mem_cons_self _ _))).bind fun _ _ =>
      (Prog.sat_ofExcept (fun _ _ => trivial) (fun _ _ => trivial)).bind fun _ _ =>
        (getSessionsListAll_sat profiles rest fun other mem =>
          listed other (List.mem_cons_of_mem _ mem)).bind
          fun _ _ => trivial

theorem ensureAllConductorsRunning_go_sat (host : Host) (profiles : List String) :
    ∀ (results : List (String × Bool)) (pending : List String),
      (∀ profile ∈ pending, profile ∈ profiles) →
      (ensureAllConductorsRunning.go host results pending).Sat (CallsAmong profiles)
        (fun final => final.map Prod.fst = assignedKeys (results.map Prod.fst) pending)
          (fun _ => True)
  | _, [], _ => rfl
  | results, profile :: rest, listed =>
    ((ensureConductorRunning_gateway host profile).among
      (listed profile (List.mem_cons_self _ _))).bind
      fun running _ => by
        have later :=
          ensureAllConductorsRunning_go_sat host profiles (dictSet results profile running) rest
          fun other mem => listed other (List.mem_cons_of_mem _ mem)
        rwa [dictSet_keys] at later

/-- Every path of `ensure_all_conductors_running` ends and calls only for listed profiles; its
keys are the listed profiles, each once, and for distinct profiles the list. -/
theorem ensureAllConductorsRunning_keys (host : Host) (profiles : List String) :
    (ensureAllConductorsRunning host profiles).Sat (CallsAmong profiles)
      (fun results => (results.map Prod.fst).Nodup ∧
        (∀ profile, profile ∈ results.map Prod.fst ↔ profile ∈ profiles) ∧
        (profiles.Nodup → results.map Prod.fst = profiles))
      (fun _ => True) :=
  (ensureAllConductorsRunning_go_sat host profiles [] profiles fun _ => id).mono (fun _ => id)
    (fun results keys => by
      rw [keys]
      exact ⟨assignedKeys_nodup profiles List.nodup_nil, fun profile => by simp [mem_assignedKeys],
        fun distinct => assignedKeys_of_nodup profiles distinct⟩)
    (fun _ _ => trivial)

/-! ## Aggregating the status summaries -/

/-- What `summary.get(key, 0)` reads as a Python integer, `0` for any other value. -/
def counter (key : String) (fields : List (String × Json)) : Int :=
  match (fields.lookup key).getD (.int 0) with
  | .int n => n
  | _ => 0

/-- The `totals` dict holding `count key` under each key. -/
def totalsOf (count : String → Int) : List (String × Json) :=
  statusKeys.map fun key => (key, .int (count key))

theorem addSummary_counters (count : String → Int) (fields : List (String × Json))
    (keys : List String)
    (integers : ∀ key ∈ keys, ∃ n : Int, (fields.lookup key).getD (.int 0) = .int n) :
    addSummary (keys.map fun key => (key, .int (count key))) (.obj fields) =
      .ok (keys.map fun key => (key, .int (count key + counter key fields))) := by
  induction keys with
  | nil => rfl
  | cons key rest inductionHypothesis =>
    obtain ⟨n, found⟩ := integers key (List.mem_cons_self _ _)
    have later := inductionHypothesis fun other mem => integers other (List.mem_cons_of_mem _ mem)
    unfold addSummary at later ⊢
    rw [List.map_cons, List.mapM_cons, later]
    simp [counter, found]

/-- `per_profile` once each profile's summary is assigned in turn, from `perProfile`. -/
def assignSummaries (perProfile : List (String × Json)) (profiles : List String)
    (summaries : List (List (String × Json))) : List (String × Json) :=
  (profiles.zip (summaries.map .obj)).foldl
    (fun dict entry => dictSet dict entry.1 entry.2) perProfile

theorem assignSummaries_fresh : ∀ {perProfile : List (String × Json)} {profiles : List String}
    (summaries : List (List (String × Json))), profiles.Nodup →
    (∀ profile ∈ profiles, ∀ entry ∈ perProfile, entry.1 ≠ profile) →
    assignSummaries perProfile profiles summaries = perProfile ++ profiles.zip (summaries.map .obj)
  | _, [], _, _, _ => (List.append_nil _).symm
  | _, _ :: _, [], _, _ => (List.append_nil _).symm
  | perProfile, profile :: rest, fields :: others, distinct, fresh => by
    obtain ⟨outside, distinct⟩ := List.nodup_cons.mp distinct
    have later := @assignSummaries_fresh (perProfile ++ [(profile, .obj fields)]) rest
      others distinct fun other mem entry present => by
        rcases List.mem_append.mp present with earlier | added
        · exact fresh other (List.mem_cons_of_mem _ mem) entry earlier
        · rw [List.mem_singleton.mp added]
          exact fun same : profile = other => outside (same ▸ mem)
    simp only [assignSummaries, List.map_cons, List.zip_cons_cons, List.foldl_cons,
      dictSet_fresh (fresh profile (List.mem_cons_self _ _))] at later ⊢
    rw [later, List.append_assoc, List.singleton_append]

theorem getStatusSummaryLoop_run (count : String → Int) (perProfile : List (String × Json))
    (profiles : List String) (summaries : List (List (String × Json)))
    (lengths : summaries.length = profiles.length)
    (integers : ∀ fields ∈ summaries, ∀ key ∈ statusKeys, ∃ n : Int,
      (fields.lookup key).getD (.int 0) = .int n)
    (more : List Answer) :
    (getStatusSummaryLoop ⟨totalsOf count, perProfile⟩ profiles).run
        (summaries.map
          (fun fields => .outcome (.completed ⟨0, "", .ok (.obj fields), ""⟩)) ++ more) =
      ⟨profiles.map fun (profile : String) =>
        .subprocess (cliCommand ["status", "--json"] profile) 30,
        some (.ok ⟨totalsOf fun key => count key + (summaries.map (counter key)).sum,
          assignSummaries perProfile profiles summaries⟩), more⟩ := by
  induction profiles generalizing summaries count perProfile with
  | nil =>
    cases summaries with
    | nil => simp [getStatusSummaryLoop, assignSummaries, Prog.run]
    | cons _ _ => cases lengths
  | cons profile rest inductionHypothesis =>
    cases summaries with
    | nil => cases lengths
    | cons fields others =>
      have later := inductionHypothesis (fun key => count key + counter key fields)
        (dictSet perProfile profile (.obj fields)) others (Nat.succ.inj lengths)
        (fun other mem => integers other (List.mem_cons_of_mem _ mem))
      simp only [totalsOf] at later
      have fetched := getStatusSummary_run_ok profile ⟨0, "", .ok (.obj fields), ""⟩ (.obj fields)
        rfl rfl
      simp only [getStatusSummaryLoop, List.map_cons, List.cons_append, Prog.monad_bind,
        Prog.run_bind, fetched, Prog.Run.andThen, totalsOf,
        addSummary_counters count fields _ (integers fields (List.mem_cons_self _ _)),
        Prog.ofExcept_ok, Prog.bind_pure_left, later]
      simp [Int.add_assoc, assignSummaries]

end ConductorBridge
