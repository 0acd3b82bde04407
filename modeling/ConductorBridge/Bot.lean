import ConductorBridge.Cli
import ConductorBridge.Routing
import ConductorBridge.Split

/-!
# The Telegram handlers

`create_bot` registers six handlers over one authorised user id, the profile list and its
first profile, the default. Every handler checks the sender before anything else. The
message handler routes a text to a profile, makes sure that profile's conductor is
running, forwards the text and relays the reply in chunks; the command handlers report
status, list sessions, print help and restart a conductor.
-/

namespace ConductorBridge

/-- The `[conductor]` settings `load_config` returns. -/
structure Config where
  token : String
  userId : Int
  heartbeatInterval : Int
  profiles : List String

/-- An inbound message: `message.from_user.id` and `message.text`, `none` for a message
without text. -/
structure Message where
  senderId : Int
  text : Option String

/-- What `create_bot` closes its handlers over. `profiles[0]` exists: on an empty list
`create_bot` raises `IndexError` before it registers any handler. -/
structure Bot where
  authorizedUser : Int
  profiles : List String
  defaultProfile : String
  profiles_head : profiles.head? = some defaultProfile

/-- `create_bot(config)`, leaving out the Telegram client it also builds. -/
def createBot (config : Config) : Except PyException Bot :=
  match config.profiles with
  | [] => .error .indexError
  | first :: rest => .ok ⟨config.userId, first :: rest, first, rfl⟩

theorem createBot_ok {config : Config} {bot : Bot} (built : createBot config = .ok bot) :
    bot.authorizedUser = config.userId ∧ bot.profiles = config.profiles := by
  unfold createBot at built
  split at built
  · cases built
  · next first rest listed =>
    cases built
    exact ⟨rfl, listed.symm⟩

/-- `is_slack_authorized(user_id)` of the Slack variant, over its `allowed_users`: an empty
list lets everyone in. -/
def isSlackAuthorized (allowedUsers : List String) (userId : String) : Bool :=
  if allowedUsers.isEmpty then true
  else if userId ∉ allowedUsers then false
  else true

/-- The handlers `create_bot` registers, in the dispatcher's order. -/
inductive Handler where
  | start
  | status
  | sessions
  | help
  | restart
  | message
  deriving DecidableEq, Repr

namespace Bot

variable (host : Host) (bot : Bot)

theorem defaultProfile_mem : bot.defaultProfile ∈ bot.profiles :=
  List.mem_of_mem_head? bot.profiles_head

/-- `is_authorized(message)`. -/
def isAuthorized (message : Message) : Bool := message.senderId == bot.authorizedUser

/-- `f"[{profile}] " if len(profiles) > 1 else ""`. -/
def profileTag (profile : String) : String :=
  if bot.profiles.length > 1 then "[" ++ profile ++ "] " else ""

/-- `cmd_start`. -/
def cmdStart (message : Message) : Prog Unit :=
  if !bot.isAuthorized message then pure ()
  else
    Prog.send .reply ("Conductor bridge active.\nProfiles: " ++ ", ".intercalate bot.profiles ++
      "\nCommands: /status /sessions /help /restart\n" ++
      "Route to profile: /p <profile> <message> or <profile>: <message>\n" ++
      "Default profile: " ++ bot.defaultProfile)

/-- The first five lines of `cmd_status`, read off the `totals` dict. -/
def totalsLines (totals : Json) : Except PyException (List String) := do
  let total ← totals.getItem "total"
  let running ← totals.getItem "running"
  let waiting ← totals.getItem "waiting"
  let idle ← totals.getItem "idle"
  let error ← totals.getItem "error"
  pure ["Total: " ++ host.pyStr total ++ " sessions", "  Running: " ++ host.pyStr running,
    "  Waiting: " ++ host.pyStr waiting, "  Idle: " ++ host.pyStr idle,
    "  Error: " ++ host.pyStr error]

/-- The line of `cmd_status` for one profile, indexing its summary `p[...]` directly. -/
def profileLine (profile : String) (summary : Json) : Except PyException String := do
  let total ← summary.getItem "total"
  let running ← summary.getItem "running"
  let waiting ← summary.getItem "waiting"
  let idle ← summary.getItem "idle"
  let error ← summary.getItem "error"
  pure ("[" ++ profile ++ "] " ++ host.pyStr total ++ "s (" ++ host.pyStr running ++ "R " ++
    host.pyStr waiting ++ "W " ++ host.pyStr idle ++ "I " ++ host.pyStr error ++ "E)")

/-- The text `cmd_status` answers with: the totals, then, with two or more profiles, a
blank line and one line per profile. -/
def statusText (aggregate : StatusAggregate) : Except PyException String := do
  let lines ← totalsLines host (.obj aggregate.totals)
  let breakdown ← if bot.profiles.length > 1 then do
      let profileLines ← bot.profiles.mapM fun profile => do
        let summary ← (Json.obj aggregate.perProfile).getItem profile
        profileLine host profile summary
      pure ("" :: profileLines)
    else pure []
  pure ("\n".intercalate (lines ++ breakdown))

/-- `cmd_status`. -/
def cmdStatus (message : Message) : Prog Unit :=
  if !bot.isAuthorized message then pure ()
  else do
    let aggregate ← getStatusSummaryAll bot.profiles
    let text ← Prog.ofExcept (statusText host bot aggregate)
    Prog.send .reply text

/-- `STATUS_ICONS.get(status, "❓")`: a list or a dict is not hashable. -/
def statusIcon : Json → Except PyException String
  | .str "running" => .ok "🟢"
  | .str "waiting" => .ok "🟡"
  | .str "idle" => .ok "⚪"
  | .str "error" => .ok "🔴"
  | .arr _ => .error .typeError
  | .obj _ => .error .typeError
  | _ => .ok "❓"

/-- The line of `cmd_sessions` for one session record. -/
def sessionLine (profile : String) (session : Json) : Except PyException String := do
  let status ← session.get "status" (.str "")
  let icon ← statusIcon status
  let title ← session.get "title" (.str "untitled")
  let tool ← session.get "tool" (.str "")
  pure (icon ++ " " ++ bot.profileTag profile ++ host.pyStr title ++ " (" ++ host.pyStr tool ++ ")")

/-- `cmd_sessions`. -/
def cmdSessions (message : Message) : Prog Unit :=
  if !bot.isAuthorized message then pure ()
  else do
    let allSessions ← getSessionsListAll bot.profiles
    if allSessions.isEmpty then Prog.send .reply "No sessions found."
    else do
      let lines ← Prog.ofExcept (allSessions.mapM fun entry => sessionLine host bot entry.1 entry.2)
      Prog.send .reply ("\n".intercalate lines)

/-- `cmd_help`. -/
def cmdHelp (message : Message) : Prog Unit :=
  if !bot.isAuthorized message then pure ()
  else
    Prog.send .reply ("Conductor Commands:\n" ++
      "/status    - Aggregated status across all profiles\n" ++
      "/sessions  - List all sessions (all profiles)\n" ++
      "/restart   - Restart a conductor (default or specify profile)\n" ++
      "/help      - This message\n\n" ++
      "Profiles: " ++ ", ".intercalate bot.profiles ++ "\n" ++
      "Route: /p <profile> <message> or <profile>: <message>\n" ++
      "Default: messages go to " ++ bot.defaultProfile ++ " conductor")

/-- The profile `/restart <profile>` names, the default one otherwise. -/
def restartTarget (text : String) : String :=
  match splitOnce (stripStr text).data with
  | [_, argument] =>
    if String.mk argument ∈ bot.profiles then String.mk argument else bot.defaultProfile
  | _ => bot.defaultProfile

/-- `cmd_restart`. -/
def cmdRestart (message : Message) : Prog Unit :=
  if !bot.isAuthorized message then pure ()
  else
    match message.text with
    | none => .raise .attributeError
    | some text => do
      let target := bot.restartTarget text
      Prog.send .reply ("Restarting conductor for [" ++ target ++ "]...")
      let result ← runCli ["session", "restart", conductorSessionTitle target] target 60
      if result.returncode = 0 then Prog.send .reply ("Conductor [" ++ target ++ "] restarted.")
      else Prog.send .reply ("Restart failed: " ++ stripStr result.stderr)

/-- The loop of `handle_message` that sends the reply's chunks, each behind the tag. -/
def sendChunks (tag : String) : List String → Prog Unit
  | [] => pure ()
  | chunk :: rest => do
    Prog.send .reply (if tag ≠ "" then tag ++ chunk else chunk)
    sendChunks tag rest

/-- `handle_message` once the conductor of `target` runs: forward the text and relay the
reply. -/
def relayReply (target cleaned : String) : Prog Unit := do
  let (ok, response) ← sendToConductor (conductorSessionTitle target) cleaned target true
    responseTimeout
  if !ok then Prog.send .reply ("[Failed to send message to conductor [" ++ target ++ "].]")
  else do
    let tag := bot.profileTag target
    Prog.send .reply (tag ++ "...")
    match splitMessage response.data with
    | some chunks => sendChunks tag (chunks.map String.mk)
    | none => .diverge

/-- `handle_message`. -/
def handleMessage (message : Message) : Prog Unit :=
  if !bot.isAuthorized message then pure ()
  else
    match message.text with
    | none => pure ()
    | some text =>
      if text = "" then pure ()
      else do
        let parsed := parseProfilePrefix text bot.profiles
        let target := parsed.1.getD bot.defaultProfile
        let cleaned := if parsed.2 = "" then text else parsed.2
        let running ← ensureConductorRunning host target
        if !running then
          Prog.send .reply ("[Could not start conductor for " ++ target ++ ". Check agent-deck.]")
        else bot.relayReply target cleaned

/-- The handler the dispatcher picked, run on `message`. -/
def handle : Handler → Message → Prog Unit
  | .start => bot.cmdStart
  | .status => bot.cmdStatus host
  | .sessions => bot.cmdSessions host
  | .help => bot.cmdHelp
  | .restart => bot.cmdRestart
  | .message => bot.handleMessage host

/-! ## The sender check -/

/-- A message from anyone but the authorised user makes no handler do anything: no
`agent-deck` call and no reply. -/
theorem handle_unauthorized (handler : Handler) (message : Message)
    (stranger : message.senderId ≠ bot.authorizedUser) :
      bot.handle host handler message = .pure () := by
  have denied : bot.isAuthorized message = false := by simp [isAuthorized, stranger]
  cases handler <;>
    simp [handle, cmdStart, cmdStatus, cmdSessions, cmdHelp, cmdRestart, handleMessage, denied]

theorem handle_unauthorized_stranger :
    (⟨2, some "/status"⟩ : Message).senderId ≠
      (⟨1, ["default"], "default", rfl⟩ : Bot).authorizedUser ∧
      (⟨1, ["default"], "default", rfl⟩ : Bot).handle Host.sample .status ⟨2, some "/status"⟩ =
        .pure () :=
  ⟨by decide, handle_unauthorized Host.sample _ .status _ (by decide)⟩

/-! ## Relaying a reply -/

theorem sendChunks_run (tag : String) (chunks : List String) (more : List Answer) :
    (sendChunks tag chunks).run (List.replicate chunks.length (.delivery true) ++ more) =
      ⟨chunks.map fun chunk => .deliver .reply (if tag = "" then chunk else tag ++ chunk),
        some (.ok ()), more⟩ := by
  induction chunks with
  | nil => rfl
  | cons chunk rest inductionHypothesis =>
    simp only [sendChunks, Prog.monad_bind, Prog.run_bind, List.length_cons, List.replicate_succ,
      List.cons_append]
    simp [Prog.send, Prog.run, Prog.Run.andThen, inductionHypothesis]

/-- A reply the conductor sent back is relayed as the typing indicator and then one
message per chunk of `split_message`, each behind the profile tag. -/
theorem relayReply_run (target cleaned : String) (result : CompletedProcess)
    (sent : result.returncode = 0) (chunks : List String)
    (split : (splitMessage (stripStr result.stdout).data).map (List.map String.mk) = some chunks)
    (more : List Answer) :
    (bot.relayReply target cleaned).run (.outcome (.completed result) :: .delivery true ::
        List.replicate chunks.length (.delivery true) ++ more) =
      ⟨.subprocess (cliCommand
        (sendArgs (conductorSessionTitle target) cleaned true responseTimeout)
          target) (max (responseTimeout + 30) 60) ::
        .deliver .reply (bot.profileTag target ++ "...") ::
        chunks.map (fun chunk => .deliver .reply
          (if bot.profileTag target = "" then chunk else bot.profileTag target ++ chunk)),
        some (.ok ()), more⟩ := by
  obtain ⟨pieces, found, rfl⟩ := Option.map_eq_some'.mp split
  have relayed := sendChunks_run (bot.profileTag target) (pieces.map String.mk) more
  rw [List.length_map] at relayed
  simp only [relayReply, Prog.monad_bind, Prog.run_bind, List.cons_append,
    sendToConductor_run_ok _ _ _ _ _ result sent]
  simp [Prog.run, Prog.Run.andThen, Prog.send, found, relayed]

/-! ## What the message handler sends -/

/-- What `handle_message` may request once it routed a text to `target`: `agent-deck` for it,
sleeps, and as replies the failure texts, the typing indicator and tagged chunks. -/
def RelayRequest (target : String) : Request → Prop
  | .subprocess cmd _ => ∃ args, cmd = cliCommand args target
  | .deliver destination text => destination = .reply ∧
      (text = "[Could not start conductor for " ++ target ++ ". Check agent-deck.]" ∨
        text = "[Failed to send message to conductor [" ++ target ++ "].]" ∨
        text = bot.profileTag target ++ "..." ∨
        ∃ chunk : String, chunk.length ≤ tgMaxLength ∧
          text = if bot.profileTag target ≠ "" then bot.profileTag target ++ chunk else chunk)
  | .sleep _ => True

section Relay

variable {target : String}

theorem relay_of_gatewayCall {α : Type} {prog : Prog α} (call : GatewayCall target prog) :
    prog.Sat (bot.RelayRequest target) (fun _ => True) (fun _ => True) :=
  Prog.Sat.mono call
    (fun request made => match request, made with
      | .subprocess _ _, issued => issued
      | .sleep _, _ => trivial)
    (fun _ _ => trivial) (fun _ _ => trivial)

theorem send_relay {text : String} (allowed : bot.RelayRequest target (.deliver .reply text)) :
    (Prog.send .reply text).Sat (bot.RelayRequest target) (fun _ => True) (fun _ => True) :=
  ⟨allowed, fun delivered => by cases delivered <;> trivial⟩

theorem sendChunks_sat (chunks : List String)
    (short : ∀ chunk ∈ chunks, chunk.length ≤ tgMaxLength) :
    (sendChunks (bot.profileTag target) chunks).Sat (bot.RelayRequest target) (fun _ => True)
      (fun _ => True) := by
  induction chunks with
  | nil => trivial
  | cons chunk rest inductionHypothesis =>
    refine (bot.send_relay
      ⟨rfl, .inr (.inr (.inr ⟨chunk, short chunk (List.mem_cons_self _ _), rfl⟩))⟩).bind
      fun _ _ => inductionHypothesis fun later mem => short later (List.mem_cons_of_mem _ mem)

theorem relayReply_sat (cleaned : String) :
    (bot.relayReply target cleaned).Sat (bot.RelayRequest target) (fun _ => True)
      (fun _ => True) := by
  refine (bot.relay_of_gatewayCall (sendToConductor_gateway _ _ _ _)).bind
    fun ⟨ok, response⟩ _ => ?_
  dsimp only
  split
  · exact bot.send_relay ⟨rfl, .inr (.inl rfl)⟩
  refine (bot.send_relay ⟨rfl, .inr (.inr (.inl rfl))⟩).bind fun _ _ => ?_
  obtain ⟨chunks, split⟩ := splitMessage_eq_some (by decide : 0 < tgMaxLength) response.data
  rw [split]
  exact bot.sendChunks_sat _ fun chunk mem => by
    obtain ⟨piece, member, rfl⟩ := List.mem_map.mp mem
    exact splitMessage_chunk_length_of_eq split piece member

/-- What `handle_message` sends of the conductor's stripped `reply`: the typing indicator,
and each chunk `split_message` cuts from the reply, behind the profile tag. -/
def Relayed (target reply text : String) : Prop :=
  text = bot.profileTag target ++ "..." ∨
    ∃ chunks, (splitMessage reply.data).map (List.map String.mk) = some chunks ∧
      ∃ chunk ∈ chunks,
        text = if bot.profileTag target ≠ "" then bot.profileTag target ++ chunk else chunk

/-- A delivery `relayReply` may make once `session send` answered `outcome`. -/
def RelayAnswer (target : String) (outcome : SubprocessOutcome) : Request → Prop
  | .deliver destination text => destination = .reply ∧
      (text = "[Failed to send message to conductor [" ++ target ++ "].]" ∨
        ∃ result, outcome = .completed result ∧ result.returncode = 0 ∧
          bot.Relayed target (stripStr result.stdout) text)
  | _ => True

theorem sat_send {allowed : Request → Prop} {text : String}
    (sent : allowed (.deliver .reply text)) :
    (Prog.send .reply text).Sat allowed (fun _ => True) (fun _ => True) :=
  ⟨sent, fun delivered => by cases delivered <;> trivial⟩

theorem sendChunks_sat_of {allowed : Request → Prop} (tag : String) :
    ∀ chunks : List String,
      (∀ chunk ∈ chunks, allowed (.deliver .reply (if tag ≠ "" then tag ++ chunk else chunk))) →
      (sendChunks tag chunks).Sat allowed (fun _ => True) (fun _ => True)
  | [], _ => trivial
  | chunk :: rest, each => (sat_send (each chunk (List.mem_cons_self _ _))).bind fun _ _ =>
      sendChunks_sat_of tag rest fun later mem => each later (List.mem_cons_of_mem _ mem)

/-- `relayReply` opens with its `session send`; what follows delivers what the answer allows. -/
theorem relayReply_after (cleaned : String) :
    ∃ next, bot.relayReply target cleaned =
        .subprocess (cliCommand
          (sendArgs (conductorSessionTitle target) cleaned true responseTimeout)
          target) (max (responseTimeout + 30) 60) next ∧
      ∀ outcome, (next outcome).Sat (bot.RelayAnswer target outcome) (fun _ => True)
        (fun _ => True) := by
  refine ⟨_, rfl, fun outcome => ?_⟩
  have failed : ∀ outcome, (Prog.send .reply ("[Failed to send message to conductor [" ++ target ++
      "].]")).Sat (bot.RelayAnswer target outcome) (fun _ => True) (fun _ => True) :=
    fun _ => sat_send ⟨rfl, .inl rfl⟩
  cases outcome with
  | completed result =>
    by_cases sent : result.returncode = 0
    · simp only [sent, ne_eq, not_true_eq_false, if_false, Prog.monad_pure, Prog.bind_pure_left,
        Bool.not_true, Bool.false_eq_true]
      obtain ⟨chunks, split⟩ := splitMessage_eq_some (by decide : 0 < tgMaxLength)
        (stripStr result.stdout).data
      refine (sat_send ⟨rfl, .inr ⟨result, rfl, sent, .inl rfl⟩⟩).bind fun _ _ => ?_
      rw [split]
      exact sendChunks_sat_of _ _ fun chunk mem =>
        ⟨rfl, .inr ⟨result, rfl, sent, .inr ⟨_, by rw [split]; rfl, chunk, mem, rfl⟩⟩⟩
    · simp only [sent, ne_eq, not_false_eq_true, if_true, Prog.monad_pure, Prog.bind_pure_left]
      exact failed _
  | timeoutExpired => exact failed _
  | fileNotFound => exact failed _
  | undecodable => trivial

/-- In every run `relayReply` delivers the failure text or what it relays of the reply. -/
theorem relayReply_delivers (cleaned : String) (answers : List Answer)
    {destination : Destination} {text : String}
    (made : .deliver destination text ∈ ((bot.relayReply target cleaned).run answers).requests) :
    destination = .reply ∧ (text = "[Failed to send message to conductor [" ++ target ++ "].]" ∨
      ∃ result more, answers = .outcome (.completed result) :: more ∧ result.returncode = 0 ∧
        bot.Relayed target (stripStr result.stdout) text) := by
  obtain ⟨next, opens, after⟩ := @relayReply_after bot target cleaned
  rw [opens] at made
  match answers, made with
  | .outcome outcome :: more, made =>
    rcases List.mem_cons.mp made with same | later
    · cases same
    · obtain ⟨reply, kind⟩ := ((after outcome).run more).1 _ later
      exact ⟨reply, kind.imp_right fun ⟨result, answered, sent, relayed⟩ =>
        ⟨result, more, by rw [answered], sent, relayed⟩⟩
  | [], made => simp [Prog.run] at made
  | .delivery _ :: _, made => simp [Prog.run] at made

end Relay

/-! ## The sender check on every path -/

/-- What the handlers may request: `agent-deck` runs for a configured profile, sleeps, and
replies to the message being handled. -/
def BotRequest : Request → Prop
  | .subprocess cmd _ => ∃ profile ∈ bot.profiles, ∃ args, cmd = cliCommand args profile
  | .deliver destination _ => destination = .reply
  | .sleep _ => True

/-- A request a handler makes while it handles `message`: one the handlers may make, made
for a message of the authorised user. -/
def HandlerRequest (message : Message) (request : Request) : Prop :=
  message.senderId = bot.authorizedUser ∧ bot.BotRequest request

section Guard

variable {message : Message} {body : Prog Unit}

/-- Behind `if not is_authorized(message): return`, each request is for the authorised user. -/
theorem sat_guarded {allowed : Request → Prop}
    (sat : body.Sat allowed (fun _ => True) (fun _ => True)) :
    (if !bot.isAuthorized message then pure () else body).Sat
      (fun request => message.senderId = bot.authorizedUser ∧ allowed request) (fun _ => True)
        (fun _ => True) := by
  cases admitted : bot.isAuthorized message
  · trivial
  · have sender : message.senderId = bot.authorizedUser := by simpa [isAuthorized] using admitted
    exact sat.mono (fun _ made => ⟨sender, made⟩) (fun _ _ => trivial) (fun _ _ => trivial)

end Guard

/-- `handle_message` drops a message, or makes sure a configured conductor runs and relays. -/
theorem handleMessage_cases (message : Message) :
    bot.handleMessage host message = .pure () ∨
      ∃ target ∈ bot.profiles, ∃ cleaned, message.senderId = bot.authorizedUser ∧
        bot.handleMessage host message = (ensureConductorRunning host target).bind fun running =>
          if !running then
            Prog.send .reply ("[Could not start conductor for " ++ target ++ ". Check agent-deck.]")
          else bot.relayReply target cleaned := by
  unfold handleMessage
  split
  · exact .inl rfl
  next admitted =>
  split
  · exact .inl rfl
  next text _ =>
  split
  · exact .inl rfl
  refine .inr ⟨_, ?_, _, by simpa [isAuthorized] using admitted, rfl⟩
  cases parsed : parseProfilePrefix text bot.profiles with
  | mk profile _ =>
    cases profile with
    | none => exact bot.defaultProfile_mem
    | some profile => exact (parseProfilePrefix_eq_some parsed).1

theorem ensured_relay_sat (target cleaned : String) :
    ((ensureConductorRunning host target).bind fun running =>
        if !running then
          Prog.send .reply ("[Could not start conductor for " ++ target ++ ". Check agent-deck.]")
        else bot.relayReply target cleaned).Sat (bot.RelayRequest target) (fun _ => True)
          (fun _ => True) :=
  (bot.relay_of_gatewayCall (ensureConductorRunning_gateway host _)).bind fun running _ => by
    split
    · exact bot.send_relay ⟨rfl, .inl rfl⟩
    · exact bot.relayReply_sat _

/-- `handle_message` serves one configured profile, and only for the authorised user. -/
theorem handleMessage_routed (message : Message) :
    ∃ target ∈ bot.profiles, (bot.handleMessage host message).Sat
      (fun request => message.senderId = bot.authorizedUser ∧ bot.RelayRequest target request)
      (fun _ => True) (fun _ => True) := by
  rcases bot.handleMessage_cases host message with quiet |
    ⟨target, configured, cleaned, sender, opens⟩
  · exact ⟨_, bot.defaultProfile_mem, by rw [quiet]; trivial⟩
  · exact ⟨target, configured, opens ▸ (bot.ensured_relay_sat host target cleaned).mono
      (fun _ made => ⟨sender, made⟩) (fun _ _ => trivial) (fun _ _ => trivial)⟩

/-- Every path of `handle_message` ends and serves one configured profile `t`; in every run it
replies only with the failure texts or what it relays of the reply of `t`'s conductor. -/
theorem handleMessage_relays (message : Message) :
    ∃ target ∈ bot.profiles,
      (bot.handleMessage host message).Sat (bot.RelayRequest target) (fun _ => True)
        (fun _ => True) ∧
      ∀ answers destination text,
        .deliver destination text ∈ ((bot.handleMessage host message).run answers).requests →
        text = "[Could not start conductor for " ++ target ++ ". Check agent-deck.]" ∨
        text = "[Failed to send message to conductor [" ++ target ++ "].]" ∨
        ∃ requests result more, (ensureConductorRunning host target).run answers =
            ⟨requests, some (.ok true), .outcome (.completed result) :: more⟩ ∧
          result.returncode = 0 ∧ bot.Relayed target (stripStr result.stdout) text := by
  rcases bot.handleMessage_cases host message with quiet | ⟨target, configured, cleaned, _, opens⟩
  · refine ⟨_, bot.defaultProfile_mem, by rw [quiet]; trivial, fun answers _ _ made => ?_⟩
    rw [quiet] at made
    cases made
  refine ⟨target, configured, opens ▸ bot.ensured_relay_sat host target cleaned,
    fun answers destination text made => ?_⟩
  rw [opens, Prog.run_bind] at made
  rcases Prog.Run.mem_andThen made with early | ⟨running, returned, later⟩
  · exact ((ensureConductorRunning_gateway host target).run answers).1 _ early |>.elim
  cases running
  · simp only [Bool.not_false, ↓reduceIte, Prog.run_send_requests, List.mem_singleton,
      Request.deliver.injEq] at later
    exact .inl later.2
  · obtain ⟨_, kind⟩ := bot.relayReply_delivers cleaned _ later
    exact .inr (kind.imp_right fun ⟨result, more, answered, sent, relayed⟩ =>
      ⟨_, result, more, by rw [← answered, ← returned], sent, relayed⟩)

theorem restartTarget_mem (text : String) : bot.restartTarget text ∈ bot.profiles := by
  unfold restartTarget
  split
  · split
    · assumption
    · exact bot.defaultProfile_mem
  · exact bot.defaultProfile_mem

section Handlers

theorem send_reply (text : String) :
    (Prog.send .reply text).Sat bot.BotRequest (fun _ => True) (fun _ => True) :=
  ⟨rfl, fun delivered => by cases delivered <;> trivial⟩

theorem botRequest_of_among {α : Type} {prog : Prog α}
    (sat : prog.Sat (CallsAmong bot.profiles) (fun _ => True) (fun _ => True)) :
    prog.Sat bot.BotRequest (fun _ => True) (fun _ => True) :=
  sat.mono
    (fun request made => match request, made with
      | .subprocess _ _, issued => issued
      | .sleep _, _ => trivial)
    (fun _ _ => trivial) (fun _ _ => trivial)

theorem botRequest_of_relay {target : String} (configured : target ∈ bot.profiles) :
    ∀ {request : Request}, bot.RelayRequest target request → bot.BotRequest request
  | .subprocess _ _, ⟨args, issued⟩ => ⟨target, configured, args, issued⟩
  | .deliver _ _, ⟨reply, _⟩ => reply
  | .sleep _, _ => trivial

variable (message : Message)

theorem cmdStatus_sat :
    (bot.cmdStatus host message).Sat (bot.HandlerRequest message) (fun _ => True) (fun _ => True) :=
  bot.sat_guarded <|
    (bot.botRequest_of_among (getStatusSummaryLoop_sat bot.profiles _ _ fun _ => id)).bind
      fun _ _ =>
      (Prog.sat_ofExcept (fun _ _ => trivial) (fun _ _ => trivial)).bind fun _ _ => bot.send_reply _

theorem cmdSessions_sat :
    (bot.cmdSessions host message).Sat (bot.HandlerRequest message) (fun _ => True)
      (fun _ => True) :=
  bot.sat_guarded <|
    (bot.botRequest_of_among (getSessionsListAll_sat bot.profiles _ fun _ => id)).bind fun _ _ => by
      split
      · exact bot.send_reply _
      · exact (Prog.sat_ofExcept (fun _ _ => trivial) (fun _ _ => trivial)).bind fun _ _ =>
          bot.send_reply _

theorem cmdRestart_sat :
    (bot.cmdRestart message).Sat (bot.HandlerRequest message) (fun _ => True) (fun _ => True) := by
  refine bot.sat_guarded ?_
  split
  · trivial
  refine (bot.send_reply _).bind fun _ _ =>
    (sat_runCli _ _ ⟨_, bot.restartTarget_mem _, _, rfl⟩).bind fun _ _ => ?_
  split <;> exact bot.send_reply _

/-- Every handler ends on every path and makes only requests the handlers may make, each for a
message of the authorised user. -/
theorem handle_sat (handler : Handler) :
    (bot.handle host handler message).Sat (bot.HandlerRequest message) (fun _ => True)
      (fun _ => True) := by
  cases handler with
  | start => exact bot.sat_guarded (bot.send_reply _)
  | status => exact bot.cmdStatus_sat host message
  | sessions => exact bot.cmdSessions_sat host message
  | help => exact bot.sat_guarded (bot.send_reply _)
  | restart => exact bot.cmdRestart_sat message
  | message =>
    obtain ⟨target, configured, routed⟩ := bot.handleMessage_routed host message
    exact routed.mono (fun _ made => ⟨made.1, bot.botRequest_of_relay configured made.2⟩)
      (fun _ _ => trivial) (fun _ _ => trivial)

end Handlers

/-! ## `/status` on complete summaries -/

section Status

/-- Every counter of `fields` is present and an integer. -/
def Complete (fields : List (String × Json)) : Prop :=
  ∀ key ∈ statusKeys, ∃ n : Int, fields.lookup key = some (.int n)

theorem getItem_totalsOf (count : String → Int) {key : String} (known : key ∈ statusKeys) :
    (Json.obj (totalsOf count)).getItem key = .ok (.int (count key)) := by
  simp only [statusKeys, List.mem_cons, List.mem_singleton, List.not_mem_nil, or_false] at known
  rcases known with rfl | rfl | rfl | rfl | rfl <;> rfl

theorem totalsLines_totalsOf (count : String → Int) :
    totalsLines host (.obj (totalsOf count)) =
      .ok ["Total: " ++ toString (count "total") ++ " sessions",
        "  Running: " ++ toString (count "running"),
        "  Waiting: " ++ toString (count "waiting"), "  Idle: " ++ toString (count "idle"),
        "  Error: " ++ toString (count "error")] := by
  simp [totalsLines, getItem_totalsOf, statusKeys, host.pyStr_int]

theorem getItem_complete {fields : List (String × Json)} (complete : Complete fields) {key : String}
    (known : key ∈ statusKeys) : (Json.obj fields).getItem key =
      .ok (.int (counter key fields)) := by
  obtain ⟨n, found⟩ := complete key known
  simp [Json.getItem, counter, found]

theorem profileLine_complete (profile : String) {fields : List (String × Json)}
    (complete : Complete fields) :
    profileLine host profile (.obj fields) =
      .ok ("[" ++ profile ++ "] " ++ toString (counter "total" fields) ++ "s (" ++
        toString (counter "running" fields) ++ "R " ++
          toString (counter "waiting" fields) ++ "W " ++
        toString (counter "idle" fields) ++ "I " ++ toString (counter "error" fields) ++ "E)") := by
  simp [profileLine, getItem_complete complete, statusKeys, host.pyStr_int]

theorem lookup_zip {β : Type} {keys : List String} (distinct : keys.Nodup) :
    ∀ {values : List β}, ∀ pair ∈ keys.zip values,
      (keys.zip values).lookup pair.1 = some pair.2 := by
  induction keys with
  | nil => intro values pair mem; simp at mem
  | cons key rest inductionHypothesis =>
    intro values pair mem
    obtain ⟨outside, distinct⟩ := List.nodup_cons.mp distinct
    cases values with
    | nil => simp at mem
    | cons value others =>
      rcases List.mem_cons.mp mem with rfl | later
      · simp
      · have other : pair.1 ≠ key := fun same => outside (same ▸ (List.of_mem_zip later).1)
        rw [List.zip_cons_cons, List.lookup_cons, beq_false_of_ne other]
        exact inductionHypothesis distinct pair later

theorem mapM_profileLines (table : List (String × Json)) :
    ∀ (profiles : List String) (summaries : List (List (String × Json))),
      summaries.length = profiles.length →
      (∀ pair ∈ profiles.zip summaries, table.lookup pair.1 = some (.obj pair.2)) →
      (∀ fields ∈ summaries, Complete fields) →
      profiles.mapM (fun profile => do
          let summary ← (Json.obj table).getItem profile
          profileLine host profile summary) =
        .ok ((profiles.zip summaries).map fun pair =>
          "[" ++ pair.1 ++ "] " ++ toString (counter "total" pair.2) ++ "s (" ++
            toString (counter "running" pair.2) ++ "R " ++
              toString (counter "waiting" pair.2) ++ "W " ++
            toString (counter "idle" pair.2) ++ "I " ++ toString (counter "error" pair.2) ++ "E)")
  | [], [], _, _, _ => rfl
  | profile :: profiles, fields :: summaries, lengths, found, complete => by
    have here := found (profile, fields) (List.mem_cons_self _ _)
    have later := mapM_profileLines table profiles summaries (Nat.succ.inj lengths)
      (fun pair mem => found pair (List.mem_cons_of_mem _ mem))
      (fun other mem => complete other (List.mem_cons_of_mem _ mem))
    simp only at here
    rw [List.mapM_cons, later]
    simp [Json.getItem, here,
      profileLine_complete host profile (complete fields (List.mem_cons_self _ _))]

end Status

/-! ## `/sessions` -/

section Sessions

/-- A session record `cmd_sessions` prints: a dict whose `status`, when present, can be
looked up in `STATUS_ICONS`, that is, it is not a list or a dict. -/
def PrintableRecord (session : Json) : Prop :=
  ∃ fields, session = .obj fields ∧ ∀ status, fields.lookup "status" = some status →
    (∀ items, status ≠ .arr items) ∧ ∀ entries, status ≠ .obj entries

theorem statusIcon_ok {status : Json} (notArray : ∀ items, status ≠ .arr items)
    (notObject : ∀ entries, status ≠ .obj entries) : ∃ icon, statusIcon status = .ok icon := by
  unfold statusIcon
  split <;> simp_all

theorem sessionLine_ok (profile : String) {session : Json} (printable : PrintableRecord session) :
    ∃ line, bot.sessionLine host profile session = .ok line := by
  obtain ⟨fields, rfl, hashable⟩ := printable
  obtain ⟨icon, found⟩ : ∃ icon, statusIcon ((fields.lookup "status").getD (.str "")) =
    .ok icon := by
    cases status : fields.lookup "status" with
    | none => exact ⟨_, rfl⟩
    | some value => exact statusIcon_ok (hashable value status).1 (hashable value status).2
  simp [sessionLine, found]

theorem mapM_eq_ok {α β : Type} {f : α → Except PyException β} :
    ∀ {xs : List α}, (∀ x ∈ xs, ∃ y, f x = .ok y) → ∃ ys, xs.mapM f = .ok ys
  | [], _ => ⟨[], rfl⟩
  | x :: _, each => by
    obtain ⟨y, first⟩ := each x (List.mem_cons_self _ _)
    obtain ⟨ys, rest⟩ := mapM_eq_ok fun other mem => each other (List.mem_cons_of_mem _ mem)
    exact ⟨y :: ys, by rw [List.mapM_cons, first, rest]; rfl⟩

theorem mapM_sessionLine_ok (profiles : List String) {lists : List (List Json)}
    (printable : ∀ items ∈ lists, ∀ session ∈ items, PrintableRecord session) :
    ∃ lines, (((profiles.zip lists).map fun entry => entry.2.map (entry.1, ·)).flatten).mapM
      (fun entry => bot.sessionLine host entry.1 entry.2) = .ok lines :=
  mapM_eq_ok fun entry mem => by
    simp only [List.mem_flatten, List.mem_map] at mem
    obtain ⟨_, ⟨pair, paired, rfl⟩, inPair⟩ := mem
    obtain ⟨session, listed, rfl⟩ := List.mem_map.mp inPair
    exact bot.sessionLine_ok host _ (printable pair.2 (List.of_mem_zip paired).2 session listed)

end Sessions

end Bot

/-- `list --json` printing `{"sessions": null}`: `get_sessions_list` returns `None`, not a
list, and `/sessions` raises `TypeError` iterating it, with no reply. -/
theorem cmdSessions_null_sessions :
    (getSessionsList "ops").run [.outcome (.completed ⟨0, "\x7b\"sessions\": null\x7d",
        .ok (.obj [("sessions", .null)]), ""⟩)] =
      ⟨[.subprocess (cliCommand ["list", "--json"] "ops") 30], some (.ok .null), []⟩ ∧
    ((⟨1, ["ops"], "ops", rfl⟩ : Bot).cmdSessions Host.sample ⟨1, some "/sessions"⟩).run
        [.outcome (.completed
          ⟨0, "\x7b\"sessions\": null\x7d", .ok (.obj [("sessions", .null)]), ""⟩)] =
      ⟨[.subprocess (cliCommand ["list", "--json"] "ops") 30], some (.error .typeError), []⟩ :=
  ⟨rfl, rfl⟩

/-- A conductor reply of 4096 characters, as `stdout.strip()` leaves it. -/
def longReply : String := String.mk (List.replicate 4096 'x')

theorem stripStr_longReply : stripStr longReply = longReply := by
  have kept : strip (List.replicate 4096 'x') = List.replicate 4096 'x' := by
    rw [strip, lstrip, dropWhile_of_head? (show (List.replicate 4096 'x').head? = some 'x' from rfl)
      rfl, rstrip, List.rdropWhile_eq_self_iff]
    intro nonempty
    rw [List.getLast_replicate]
    decide
  rw [stripStr, longReply, kept]

/-- With two profiles, a 4096-character reply fits `split_message` as one chunk, and
`handle_message` sends it behind the tag `[default] `: 4106 characters. -/
theorem handleMessage_long_reply (host : Host) :
    Request.deliver .reply ("[default] " ++ longReply) ∈
        (((⟨1, ["default", "work"], "default", rfl⟩ : Bot).handleMessage host
          ⟨1, some "hello"⟩).run
          [.outcome (.completed ⟨0, "", .ok (.obj [("status", .str "running")]), ""⟩),
            .outcome (.completed ⟨0, longReply, .error .jsonDecodeError, ""⟩),
            .delivery true, .delivery true]).requests ∧
      tgMaxLength < ("[default] " ++ longReply).length := by
  have length : ("[default] " ++ longReply).length = 4106 := by
    simp only [String.length_append, longReply, String.length_mk, List.length_replicate]
    rfl
  refine ⟨?_, by rw [length]; decide⟩
  have split : (splitMessage (stripStr longReply).data).map (List.map String.mk) =
      some [longReply] := by
    have fits : longReply.data.length ≤ tgMaxLength := by
      rw [longReply, List.length_replicate]
      decide
    rw [stripStr_longReply, splitMessage, if_pos fits]
    rfl
  have relayed := Bot.relayReply_run ⟨1, ["default", "work"], "default", rfl⟩ "default" "hello"
    ⟨0, longReply, .error .jsonDecodeError, ""⟩ rfl [longReply] split []
  have ensured :=
    ensureConductorRunning_run_up host "default"
      ⟨0, "", .ok (.obj [("status", .str "running")]), ""⟩ _
    rfl rfl rfl
    [.outcome (.completed ⟨0, longReply, .error .jsonDecodeError, ""⟩), .delivery true,
      .delivery true]
  have routed :
    ((⟨1, ["default", "work"], "default", rfl⟩ : Bot).handleMessage host ⟨1, some "hello"⟩) =
      (ensureConductorRunning host "default").bind fun running =>
        if !running then Prog.send .reply
          "[Could not start conductor for default. Check agent-deck.]"
        else Bot.relayReply ⟨1, ["default", "work"], "default", rfl⟩ "default" "hello" := rfl
  rw [routed, Prog.run_bind]
  simp only [Prog.Run.andThen, ensured, Bool.not_true, Bool.false_eq_true, if_false,
    List.length_singleton, List.replicate_one, List.singleton_append, List.append_nil] at relayed ⊢
  simp [relayed, Bot.profileTag]

/-- `session show --json` printing `[]`: `.get` raises `AttributeError`, which nothing up to
`handle_message` catches. -/
theorem handleMessage_array_status (host : Host) :
    (((⟨1, ["default"], "default", rfl⟩ : Bot).handleMessage host ⟨1, some "hi"⟩).run
        [.outcome (.completed ⟨0, "[]", .ok (.arr []), ""⟩)]).result =
      some (.error .attributeError) := rfl

/-- With two profiles whose `status --json` both print `{}`, the totals read every
counter as `0`, but the per-profile line indexes `p['total']` and raises `KeyError`. -/
theorem cmdStatus_empty_summaries (host : Host) :
    (((⟨1, ["default", "work"], "default", rfl⟩ : Bot).cmdStatus host ⟨1, some "/status"⟩).run
        [.outcome (.completed ⟨0, "\x7b\x7d", .ok (.obj []), ""⟩),
          .outcome (.completed ⟨0, "\x7b\x7d", .ok (.obj []), ""⟩)]).result =
      some (.error (.keyError "total")) := rfl


end ConductorBridge
