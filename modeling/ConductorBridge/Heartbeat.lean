import ConductorBridge.Bot

/-!
# The heartbeat

Every interval, `heartbeat_loop` visits the profiles in order. A profile whose summary
reads no waiting and no erroring session is left after one `status --json` call. For any
other, the loop lists the sessions, describes the waiting and the erroring ones other than
the conductor itself, makes sure the conductor runs, sends it the description and passes an
alert on to the user when the reply asks for attention. Each profile's iteration sits in a
`try` of its own, so nothing it meets stops the loop; only the sleep, outside every `try`,
can end it, with `OverflowError` for an interval past the range of a float.
-/

namespace ConductorBridge

section Heartbeat

variable (host : Host) (config : Config)

/-- `f"{s_title} (project: {s_path})"`. -/
def sessionDetail (title path : Json) : String :=
  host.pyStr title ++ " (project: " ++ host.pyStr path ++ ")"

/-- The `for s in sessions` loop of `heartbeat_loop`, with the two detail lists as its
accumulator. -/
def collectDetails (sessionTitle : String) :
    List String × List String → List Json → Except PyException (List String × List String)
  | details, [] => pure details
  | (waitingDetails, errorDetails), s :: rest => do
    let title ← s.get "title" (.str "untitled")
    let status ← s.get "status" (.str "")
    let path ← s.get "path" (.str "")
    if title.eqStr sessionTitle then collectDetails sessionTitle (waitingDetails, errorDetails) rest
    else if status.eqStr "waiting" then
      collectDetails sessionTitle
        (waitingDetails ++ [sessionDetail host title path], errorDetails) rest
    else if status.eqStr "error" then
      collectDetails sessionTitle
        (waitingDetails, errorDetails ++ [sessionDetail host title path]) rest
    else collectDetails sessionTitle (waitingDetails, errorDetails) rest

/-- `" ".join(parts)`: the counts, each detail list that is not empty, and the closing
request. -/
def heartbeatMessage (profile : String) (waiting running idle error : Json)
    (details : List String × List String) : String :=
  " ".intercalate
    (["[HEARTBEAT] [" ++ profile ++ "] Status: " ++ host.pyStr waiting ++ " waiting, " ++
        host.pyStr running ++ " running, " ++ host.pyStr idle ++ " idle, " ++ host.pyStr error ++
        " error."] ++
      (if details.1.isEmpty then [] else
        ["Waiting sessions: " ++ ", ".intercalate details.1 ++ "."]) ++
      (if details.2.isEmpty then [] else
        ["Error sessions: " ++ ", ".intercalate details.2 ++ "."]) ++
      ["Check if any need auto-response or user attention."])

/-- The body of the `try` block of `heartbeat_loop` for one profile. -/
def heartbeatCheck (profile : String) : Prog Unit := do
  let sessionTitle := conductorSessionTitle profile
  let summary ← getStatusSummary profile
  let waiting ← Prog.ofExcept (summary.get "waiting" (.int 0))
  let running ← Prog.ofExcept (summary.get "running" (.int 0))
  let idle ← Prog.ofExcept (summary.get "idle" (.int 0))
  let error ← Prog.ofExcept (summary.get "error" (.int 0))
  if waiting.eqZero && error.eqZero then pure ()
  else do
    let sessions ← getSessionsList profile
    let records ← Prog.ofExcept sessions.iter
    let details ← Prog.ofExcept (collectDetails host sessionTitle ([], []) records)
    let heartbeatMsg := heartbeatMessage host profile waiting running idle error details
    let started ← ensureConductorRunning host profile
    if !started then pure ()
    else do
      let (ok, response) ← sendToConductor sessionTitle heartbeatMsg profile true responseTimeout
      if !ok then pure ()
      else if containsText "NEED:" response then
        let tag := if config.profiles.length > 1 then "[" ++ profile ++ "] " else ""
        (Prog.send (.chat config.userId) (tag ++ "Conductor alert:\n" ++ response)).tryCatch
          fun _ => pure ()
      else pure ()

/-- One profile's iteration of `heartbeat_loop`: every exception is logged and the loop
goes on with the next profile. -/
def heartbeatProfile (profile : String) : Prog Unit :=
  (heartbeatCheck host config profile).tryCatch fun _ => pure ()

/-- One tick of `heartbeat_loop`: sleep the interval, then visit every profile in order. -/
def heartbeatTick (intervalSeconds : Nat) : Prog Unit := do
  Prog.asyncSleep intervalSeconds
  config.profiles.forM (heartbeatProfile host config)

/-- `heartbeat_loop(bot, config)`, unrolled for `ticks` ticks: nothing for a non-positive
interval, else the endless loop, with the ticks past `ticks` left as `diverge`. -/
def heartbeatLoop (ticks : Nat) : Prog Unit :=
  if config.heartbeatInterval ≤ 0 then pure () else loop ticks
where
  loop : Nat → Prog Unit
    | 0 => .diverge
    | n + 1 => do
      heartbeatTick host config (config.heartbeatInterval * 60).toNat
      loop n

/-! ## The session details -/

/-- `s.get("status", "") == status` for a session record. -/
def recordStatusIs (status : String) (record : List (String × Json)) : Bool :=
  ((record.lookup "status").getD (.str "")).eqStr status

/-- `s.get("title", "untitled") == title` for a session record. -/
def recordTitleIs (title : String) (record : List (String × Json)) : Bool :=
  ((record.lookup "title").getD (.str "untitled")).eqStr title

/-- The detail line of a session record. -/
def recordDetail (record : List (String × Json)) : String :=
  sessionDetail host ((record.lookup "title").getD (.str "untitled"))
    ((record.lookup "path").getD (.str ""))

/-- The records the heartbeat lists as `status`: those with that status, other than the
conductor's own. -/
def listedAs (sessionTitle status : String) (records : List (List (String × Json))) :
    List (List (String × Json)) :=
  records.filter fun record => !recordTitleIs sessionTitle record && recordStatusIs status record

theorem listedAs_cons (sessionTitle status : String) (record : List (String × Json))
    (rest : List (List (String × Json))) :
    listedAs sessionTitle status (record :: rest) =
      listedAs sessionTitle status [record] ++ listedAs sessionTitle status rest :=
  List.filter_append [record] rest

theorem recordStatusIs_exclusive {record : List (String × Json)}
    (waiting : recordStatusIs "waiting" record = true) : recordStatusIs "error" record = false := by
  unfold recordStatusIs at *
  generalize (record.lookup "status").getD (.str "") = value at *
  cases value <;> simp_all [Json.eqStr]

theorem collectDetails_obj_cons (sessionTitle : String) (record : List (String × Json))
    (rest : List Json) (waitingDetails errorDetails : List String) :
    collectDetails host sessionTitle (waitingDetails, errorDetails) (.obj record :: rest) =
      collectDetails host sessionTitle
        (waitingDetails ++ (listedAs sessionTitle "waiting" [record]).map (recordDetail host),
          errorDetails ++ (listedAs sessionTitle "error" [record]).map (recordDetail host))
            rest := by
  have exclusive := @recordStatusIs_exclusive record
  simp only [collectDetails, Json.get_obj, ok_bind, listedAs, List.filter_cons, List.filter_nil]
  unfold recordTitleIs recordStatusIs recordDetail at *
  split_ifs <;> simp_all

/-- Over records the detail loop lists the waiting and erroring sessions but the conductor. -/
theorem collectDetails_records (sessionTitle : String) (records : List (List (String × Json)))
    (waitingDetails errorDetails : List String) :
    collectDetails host sessionTitle (waitingDetails, errorDetails) (records.map .obj) =
      .ok (waitingDetails ++ (listedAs sessionTitle "waiting" records).map (recordDetail host),
        errorDetails ++ (listedAs sessionTitle "error" records).map (recordDetail host)) := by
  induction records generalizing waitingDetails errorDetails with
  | nil => simp [collectDetails, listedAs]; rfl
  | cons record rest inductionHypothesis =>
    rw [List.map_cons, collectDetails_obj_cons, inductionHypothesis,
      listedAs_cons sessionTitle "waiting" record rest,
      listedAs_cons sessionTitle "error" record rest]
    simp only [List.map_append, List.append_assoc]

/-! ## Every run of the loop -/

/-- What the heartbeat may request: `agent-deck` runs for a configured profile, sleeps, and
chat messages to the authorised user. -/
def HeartbeatRequest : Request → Prop
  | .subprocess cmd _ => ∃ profile ∈ config.profiles, ∃ args, cmd = cliCommand args profile
  | .deliver destination _ => destination = .chat config.userId
  | .sleep _ => True

theorem GatewayCall.heartbeat {α : Type} {profile : String} {prog : Prog α}
    (call : GatewayCall profile prog) (configured : profile ∈ config.profiles) :
    prog.Sat (HeartbeatRequest config) (fun _ => True) (fun _ => True) :=
  Prog.Sat.mono call
    (fun request made => match request, made with
      | .subprocess _ _, ⟨args, issued⟩ => ⟨profile, configured, args, issued⟩
      | .sleep _, _ => trivial)
    (fun _ _ => trivial) (fun _ _ => trivial)

/-- Every path of a profile's check ends, calls for that profile and alerts only the user. -/
theorem heartbeatCheck_sat {profile : String} (configured : profile ∈ config.profiles) :
    (heartbeatCheck host config profile).Sat (HeartbeatRequest config) (fun _ => True)
      (fun _ => True) := by
  have pure_ok : ∀ {α : Type} (result : Except PyException α),
      (Prog.ofExcept result).Sat (HeartbeatRequest config) (fun _ => True) (fun _ => True) :=
    fun result => GatewayCall.heartbeat config (gatewayCall_ofExcept result) configured
  refine (getStatusSummary_gateway.heartbeat config configured).bind fun summary _ => ?_
  refine (pure_ok _).bind fun waiting _ => (pure_ok _).bind fun running _ => ?_
  refine (pure_ok _).bind fun idle _ => (pure_ok _).bind fun error _ => ?_
  split
  · trivial
  refine (getSessionsList_gateway.heartbeat config configured).bind fun sessions _ => ?_
  refine (pure_ok _).bind fun records _ => (pure_ok _).bind fun details _ => ?_
  refine ((ensureConductorRunning_gateway host profile).heartbeat config configured).bind
    fun started _ => ?_
  split
  · trivial
  refine ((sendToConductor_gateway _ _ _ _).heartbeat config configured).bind
    fun ⟨ok, response⟩ _ => ?_
  dsimp only
  split
  · trivial
  split
  · exact Prog.Sat.tryCatch ⟨rfl, fun delivered => by cases delivered <;> trivial⟩
      fun _ _ => trivial
  · trivial

/-- The overflow of a tick's `asyncio.sleep`, the one exception that leaves the loop. -/
def SleepOverflow (intervalSeconds : Nat) (error : PyException) : Prop :=
  error = .overflowError ∧ Prog.floatLimit ≤ intervalSeconds

theorem heartbeatTick_sat (intervalSeconds : Nat) :
    (heartbeatTick host config intervalSeconds).Sat (HeartbeatRequest config) (fun _ => True)
      (SleepOverflow intervalSeconds) := by
  refine Prog.Sat.bind (Prog.sat_asyncSleep intervalSeconds trivial) fun _ _ => ?_
  suffices visits : ∀ profiles ⊆ config.profiles,
      (profiles.forM (heartbeatProfile host config)).Sat (HeartbeatRequest config) (fun _ => True)
        (SleepOverflow intervalSeconds) from visits _ (List.Subset.refl _)
  intro profiles configured
  induction profiles with
  | nil => trivial
  | cons profile rest inductionHypothesis =>
    have iteration : (heartbeatProfile host config profile).Sat (HeartbeatRequest config)
        (fun _ => True) (SleepOverflow intervalSeconds) :=
      Prog.Sat.tryCatch
        (heartbeatCheck_sat host config (configured (List.mem_cons_self profile rest)))
        fun _ _ => trivial
    exact iteration.bind fun _ _ =>
      inductionHypothesis fun _ later => configured (List.mem_cons_of_mem profile later)

theorem heartbeatLoop_within (ticks : Nat) (answers : List Answer) :
    ((heartbeatLoop host config ticks).run answers).Within (HeartbeatRequest config)
      (SleepOverflow (config.heartbeatInterval * 60).toNat) := by
  unfold heartbeatLoop
  split
  · exact Prog.Sat.within (show (Prog.pure () : Prog Unit).Sat (HeartbeatRequest config)
      (fun _ => True) (SleepOverflow _) from trivial) answers
  · induction ticks generalizing answers with
    | zero => exact ⟨fun _ made => (by cases made), fun _ ended => (by cases ended)⟩
    | succ ticks inductionHypothesis =>
      rw [heartbeatLoop.loop, Prog.monad_bind, Prog.run_bind]
      exact (Prog.Sat.within (heartbeatTick_sat host config _) answers).andThen
        fun _ unread => inductionHypothesis unread

/-- The `session send ... --wait` call that hands the conductor of `profile` a message. -/
def conductorSend (profile message : String) : Request :=
  .subprocess (cliCommand
    (sendArgs (conductorSessionTitle profile) message true responseTimeout) profile)
    (max (responseTimeout + 30) 60)

/-- A quiet summary costs the `status --json` call and nothing else. -/
theorem heartbeatProfile_run_quiet (profile : String) (answers more : List Answer)
    (statusRequests : List Request) (fields : List (String × Json))
    (fetched : (getStatusSummary profile).run answers =
      ⟨statusRequests, some (.ok (.obj fields)), more⟩)
    (quiet : (((fields.lookup "waiting").getD (.int 0)).eqZero &&
      ((fields.lookup "error").getD (.int 0)).eqZero) = true) :
    (heartbeatProfile host config profile).run answers = ⟨statusRequests, some (.ok ()), more⟩ := by
  rw [Bool.and_eq_true] at quiet
  simp [heartbeatProfile, heartbeatCheck, Prog.run_tryCatch, Prog.run_bind, fetched,
    Prog.Run.andThen,
    quiet, Prog.run, Prog.Run.recover]

/-- A busy summary, a record listing and a running conductor: the conductor is sent the
heartbeat message with the counts and the other waiting and erroring sessions. -/
theorem heartbeatProfile_run_sends (profile : String)
    (answers afterStatus afterList more : List Answer)
    (statusRequests listRequests ensureRequests : List Request) (fields : List (String × Json))
    (records : List (List (String × Json))) (result : CompletedProcess)
    (fetched : (getStatusSummary profile).run answers =
      ⟨statusRequests, some (.ok (.obj fields)), afterStatus⟩)
    (busy : (((fields.lookup "waiting").getD (.int 0)).eqZero &&
      ((fields.lookup "error").getD (.int 0)).eqZero) = false)
    (listed : (getSessionsList profile).run afterStatus =
      ⟨listRequests, some (.ok (.arr (records.map .obj))), afterList⟩)
    (ensured : (ensureConductorRunning host profile).run afterList =
      ⟨ensureRequests, some (.ok true), .outcome (.completed result) :: more⟩)
    (exited : result.returncode = 0) :
    ∃ rest, ((heartbeatProfile host config profile).run answers).requests =
      statusRequests ++ listRequests ++ ensureRequests ++
        conductorSend profile
          (heartbeatMessage host profile ((fields.lookup "waiting").getD (.int 0))
            ((fields.lookup "running").getD (.int 0)) ((fields.lookup "idle").getD (.int 0))
            ((fields.lookup "error").getD (.int 0))
            ((listedAs (conductorSessionTitle profile) "waiting" records).map (recordDetail host),
              (listedAs (conductorSessionTitle profile) "error" records).map
                (recordDetail host))) :: rest := by
  have notQuiet : ¬ (((fields.lookup "waiting").getD (.int 0)).eqZero = true ∧
      ((fields.lookup "error").getD (.int 0)).eqZero = true) := by
    rw [← Bool.and_eq_true, busy]
    exact Bool.false_ne_true
  obtain ⟨handled, recovered⟩ :=
    Prog.requests_recover ((heartbeatCheck host config profile).run answers)
    fun _ => (pure () : Prog Unit).run
  rw [heartbeatProfile, Prog.run_tryCatch, recovered]
  simp [heartbeatCheck, Prog.run_bind, fetched, Prog.Run.andThen, notQuiet, listed, Json.iter,
    collectDetails_records, ensured, sendToConductor_run_ok _ _ _ _ _ result exited, conductorSend]

theorem deliver_not_mem_of_gateway {α : Type} {profile : Option String} {prog : Prog α}
    {answers : List Answer} {requests : List Request} {result : Option (Except PyException α)}
    {unread : List Answer} (call : GatewayCall profile prog)
    (ran : prog.run answers = ⟨requests, result, unread⟩) (destination : Destination)
      (text : String) :
    .deliver destination text ∉ requests := fun made =>
  (call.run answers).1 (.deliver destination text) (by rw [ran]; exact made)

/-- A reply containing `NEED:` goes to the authorised user as a tagged alert, and nothing else
is delivered; the iteration ends normally, delivered or not. -/
theorem heartbeatProfile_alerts (profile : String)
    (answers afterStatus afterList more : List Answer)
    (statusRequests listRequests ensureRequests : List Request) (fields : List (String × Json))
    (records : List (List (String × Json))) (result : CompletedProcess) (delivered : Bool)
    (fetched : (getStatusSummary profile).run answers =
      ⟨statusRequests, some (.ok (.obj fields)), afterStatus⟩)
    (busy : (((fields.lookup "waiting").getD (.int 0)).eqZero &&
      ((fields.lookup "error").getD (.int 0)).eqZero) = false)
    (listed : (getSessionsList profile).run afterStatus =
      ⟨listRequests, some (.ok (.arr (records.map .obj))), afterList⟩)
    (ensured : (ensureConductorRunning host profile).run afterList =
      ⟨ensureRequests, some (.ok true), .outcome (.completed result) ::
        .delivery delivered :: more⟩)
    (exited : result.returncode = 0) :
    ((heartbeatProfile host config profile).run answers).result = some (.ok ()) ∧
      ∀ destination text,
        .deliver destination text ∈ ((heartbeatProfile host config profile).run answers).requests ↔
          containsText "NEED:" (stripStr result.stdout) ∧ destination = .chat config.userId ∧
            text = (if config.profiles.length > 1 then "[" ++ profile ++ "] " else "") ++
              "Conductor alert:\n" ++ stripStr result.stdout := by
  have notQuiet : ¬ (((fields.lookup "waiting").getD (.int 0)).eqZero = true ∧
      ((fields.lookup "error").getD (.int 0)).eqZero = true) := by
    rw [← Bool.and_eq_true, busy]
    exact Bool.false_ne_true
  have noStatus := deliver_not_mem_of_gateway getStatusSummary_gateway fetched
  have noList := deliver_not_mem_of_gateway getSessionsList_gateway listed
  have noEnsure := deliver_not_mem_of_gateway (ensureConductorRunning_gateway host profile) ensured
  simp [heartbeatProfile, heartbeatCheck, Prog.run_tryCatch, Prog.run_bind, fetched,
    Prog.Run.andThen,
    notQuiet, listed, Json.iter, collectDetails_records, ensured,
    sendToConductor_run_ok _ _ _ _ _ result exited]
  by_cases need : containsText "NEED:" (stripStr result.stdout) <;> cases delivered <;>
    simp [need, Prog.send, Prog.run, Prog.run_tryCatch, Prog.Run.recover, noStatus,
      noList, noEnsure]

end Heartbeat

theorem heartbeatProfile_alerts_review :
    ((heartbeatProfile Host.sample ⟨"token", 1, 15, ["ops", "dev"]⟩ "ops").run
        [.outcome (.completed ⟨0, "", .ok (.obj [("waiting", .int 1), ("error", .int 0)]), ""⟩),
          .outcome (.completed ⟨0, "", .ok (.arr [.obj [("title", .str "build-1"),
            ("status", .str "waiting"), ("path", .str "/repo")]]), ""⟩),
          .outcome (.completed ⟨0, "", .ok (.obj [("status", .str "running")]), ""⟩),
          .outcome (.completed ⟨0, "NEED: review PR", .error .jsonDecodeError, ""⟩),
          .delivery true]).result = some (.ok ()) ∧
      ∀ destination text, .deliver destination text ∈
          ((heartbeatProfile Host.sample ⟨"token", 1, 15, ["ops", "dev"]⟩ "ops").run
            [.outcome (.completed ⟨0, "", .ok (.obj [("waiting", .int 1), ("error", .int 0)]), ""⟩),
              .outcome (.completed ⟨0, "", .ok (.arr [.obj [("title", .str "build-1"),
                ("status", .str "waiting"), ("path", .str "/repo")]]), ""⟩),
              .outcome (.completed ⟨0, "", .ok (.obj [("status", .str "running")]), ""⟩),
              .outcome (.completed ⟨0, "NEED: review PR", .error .jsonDecodeError, ""⟩),
              .delivery true]).requests ↔
        containsText "NEED:" (stripStr "NEED: review PR") ∧ destination = .chat 1 ∧
          text = (if ["ops", "dev"].length > 1 then "[" ++ "ops" ++ "] " else "") ++
            "Conductor alert:\n" ++ stripStr "NEED: review PR" :=
  heartbeatProfile_alerts Host.sample ⟨"token", 1, 15, ["ops", "dev"]⟩ "ops" _ _ _ _ _ _ _
    [("waiting", .int 1), ("error", .int 0)]
    [[("title", .str "build-1"), ("status", .str "waiting"), ("path", .str "/repo")]] _ true rfl
      rfl rfl rfl rfl

end ConductorBridge
