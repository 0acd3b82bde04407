import ConductorBridge.Heartbeat

/-!
# What the bridge costs

`run_cli` blocks in `subprocess.run` until the tool exits or the call's timeout expires, and
a sleep holds its task for its length; the event loop runs nothing else meanwhile. So the
timeouts and sleeps on a path bound how long the path can keep the bridge waiting, and the
`agent-deck` runs and chat messages on it bound the load it puts on the tool and the chat.
Each bound below holds on every path, whatever the tool and the chat transport answer, and
so of every run (`Prog.Bounded.run`).
-/

namespace ConductorBridge

namespace Request

/-- One for a run of `agent-deck`. -/
def calls : Request → Nat
  | .subprocess _ _ => 1
  | _ => 0

/-- One for a chat message. -/
def messages : Request → Nat
  | .deliver _ _ => 1
  | _ => 0

/-- How long a request may hold its task, in seconds: a run's timeout, a sleep's length. -/
def waitLimit : Request → Nat
  | .subprocess _ timeout => timeout
  | .deliver _ _ => 0
  | .sleep seconds => seconds

end Request

open Prog

section Gateway

variable {weight : Request → Nat} {profile : Option String}

theorem runCli_bounded (args : List String) (timeout : Nat) :
    (runCli args profile timeout).Bounded weight
      (weight (.subprocess (cliCommand args profile) timeout)) :=
  ⟨le_rfl, fun outcome => by cases outcome <;> trivial⟩

/-- A run of `agent-deck` followed by pure work costs the run. -/
theorem runCli_bind_bounded {β : Type} {next : CompletedProcess → Prog β} (args : List String)
    (timeout : Nat) (free : ∀ result, (next result).Bounded weight 0) :
    ((runCli args profile timeout).bind next).Bounded weight
      (weight (.subprocess (cliCommand args profile) timeout)) := by
  refine ⟨le_rfl, fun outcome => ?_⟩
  rw [Nat.sub_self]
  cases outcome with
  | undecodable => trivial
  | _ => exact free _

theorem getSessionStatus_bounded (session : String) :
    (getSessionStatus session profile).Bounded weight
      (weight (.subprocess (cliCommand ["session", "show", session, "--json"] profile) 30)) :=
  runCli_bind_bounded _ _ fun _ => by
    split
    · trivial
    · split
      · exact bounded_ofExcept _
      all_goals trivial

theorem getStatusSummary_bounded :
    (getStatusSummary profile).Bounded weight
      (weight (.subprocess (cliCommand ["status", "--json"] profile) 30)) :=
  runCli_bind_bounded _ _ fun _ => by split <;> (try split) <;> trivial

theorem getSessionsList_bounded :
    (getSessionsList profile).Bounded weight
      (weight (.subprocess (cliCommand ["list", "--json"] profile) 30)) :=
  runCli_bind_bounded _ _ fun _ => by split <;> (try split) <;> trivial

theorem sendToConductor_bounded (session message : String) (waitForReply : Bool)
    (replyTimeout : Nat) :
    (sendToConductor session message profile waitForReply replyTimeout).Bounded weight
      (weight (.subprocess (cliCommand (sendArgs session message waitForReply replyTimeout) profile)
        (if waitForReply then max (replyTimeout + 30) 60 else 30))) :=
  runCli_bind_bounded _ _ fun _ => by split <;> trivial

end Gateway

section Ensure

variable {weight : Request → Nat}

/-- The requests of the longest path of `ensure_conductor_running`: the status, a start that
fails, the creation, the second start, the five-second wait and the status again. -/
def ensureWorstPath (host : Host) (profile : String) : List Request :=
  [.subprocess (cliCommand ["session", "show", conductorSessionTitle profile, "--json"] profile) 30,
    .subprocess (cliCommand ["session", "start", conductorSessionTitle profile] profile) 60,
    .subprocess (cliCommand ["add", host.conductorPath profile, "-t", conductorSessionTitle profile,
      "-c", "claude", "-g", "infra"] profile) 60,
    .subprocess (cliCommand ["session", "start", conductorSessionTitle profile] profile) 60,
    .sleep 5,
    .subprocess (cliCommand ["session", "show", conductorSessionTitle profile, "--json"] profile)
      30]

theorem settleAndCheck_bounded (profile : String) :
    (settleAndCheck profile).Bounded weight (weight (.sleep 5) +
      weight (.subprocess
        (cliCommand ["session", "show", conductorSessionTitle profile, "--json"] profile) 30)) :=
  (bounded_pause 5).bind fun _ => (getSessionStatus_bounded _).bind_free fun _ => by trivial

/-- No path of `ensure_conductor_running` costs more than its longest one. -/
theorem ensureConductorRunning_bounded (host : Host) (profile : String) :
    (ensureConductorRunning host profile).Bounded
      weight (totalWeight weight (ensureWorstPath host profile)) := by
  simp only [ensureWorstPath, totalWeight, Nat.add_zero]
  refine (getSessionStatus_bounded _).bind_le (by omega) fun status => ?_
  split
  · refine (runCli_bounded _ _).bind_le (by omega) fun started => ?_
    split
    · refine (runCli_bounded _ _).bind_le (by omega) fun created => ?_
      split
      · trivial
      · exact (runCli_bounded _ _).bind_le (by omega) fun _ =>
          (settleAndCheck_bounded profile).mono (by omega)
    · exact (settleAndCheck_bounded profile).mono (by omega)
  · trivial

end Ensure

/-! ## The handlers -/

section Handlers

variable {weight : Request → Nat} (host : Host) (bot : Bot)

theorem bounded_send_free (free : ∀ destination text, weight (.deliver destination text) = 0)
    (destination : Destination) (text : String) (n : Nat) :
      (Prog.send destination text).Bounded weight n :=
  ⟨by rw [free]; exact Nat.zero_le n, fun delivered => by cases delivered <;> trivial⟩

theorem sendChunks_bounded (free : ∀ destination text, weight (.deliver destination text) = 0)
    (tag : String) : ∀ chunks : List String, (Bot.sendChunks tag chunks).Bounded weight 0
  | [] => trivial
  | _ :: rest => (bounded_send_free free _ _ 0).bind fun _ => sendChunks_bounded free tag rest

theorem relayReply_bounded (free : ∀ destination text, weight (.deliver destination text) = 0)
    (target cleaned : String) :
    (bot.relayReply target cleaned).Bounded weight (weight (conductorSend target cleaned)) := by
  refine (sendToConductor_bounded _ _ _ _).bind_free fun ⟨ok, response⟩ => ?_
  dsimp only
  split
  · exact bounded_send_free free _ _ 0
  refine (bounded_send_free free _ _ 0).bind_le (Nat.zero_le _) fun _ => ?_
  split
  · exact sendChunks_bounded free _ _
  · trivial

/-- With free chat messages, `handle_message` costs at most its ensure path and one send. -/
theorem handleMessage_bounded (free : ∀ destination text, weight (.deliver destination text) = 0)
    {budget : Nat} (uniform : ∀ profile text,
      totalWeight weight (ensureWorstPath host profile) +
        weight (conductorSend profile text) ≤ budget)
    (message : Message) : (bot.handleMessage host message).Bounded weight budget := by
  unfold Bot.handleMessage
  split
  · trivial
  split
  · trivial
  rename_i text _
  split
  · trivial
  dsimp only
  generalize parseProfilePrefix text bot.profiles = parsed
  have fits := uniform (parsed.1.getD bot.defaultProfile) (if parsed.2 = "" then text else parsed.2)
  refine (ensureConductorRunning_bounded host _).bind_le (by omega) fun running => ?_
  split
  · exact bounded_send_free free _ _ _
  · exact (relayReply_bounded bot free _ _).mono (by omega)

theorem getStatusSummaryLoop_bounded : ∀ (aggregate : StatusAggregate) (pending : List String),
    (getStatusSummaryLoop aggregate pending).Bounded weight
      (totalWeight weight
        (pending.map fun (profile : String) =>
          .subprocess (cliCommand ["status", "--json"] profile) 30))
  | _, [] => trivial
  | _, _ :: rest =>
    getStatusSummary_bounded.bind fun _ =>
      Bounded.ofExcept_bind _ fun _ => getStatusSummaryLoop_bounded _ rest

theorem getSessionsListAll_bounded : ∀ pending : List String,
    (getSessionsListAll pending).Bounded weight
      (totalWeight weight
        (pending.map fun (profile : String) =>
          .subprocess (cliCommand ["list", "--json"] profile) 30))
  | [] => trivial
  | _ :: rest =>
    getSessionsList_bounded.bind fun _ => Bounded.ofExcept_bind _ fun _ =>
      (getSessionsListAll_bounded rest).bind_free fun _ => by trivial

variable (free : ∀ destination text, weight (.deliver destination text) = 0) (message : Message)
include free

theorem cmdStart_bounded : (bot.cmdStart message).Bounded weight 0 := by
  unfold Bot.cmdStart
  split
  · trivial
  · exact bounded_send_free free _ _ 0

theorem cmdHelp_bounded : (bot.cmdHelp message).Bounded weight 0 := by
  unfold Bot.cmdHelp
  split
  · trivial
  · exact bounded_send_free free _ _ 0

theorem cmdStatus_bounded :
    (bot.cmdStatus host message).Bounded weight
      (totalWeight weight (bot.profiles.map fun (profile : String) =>
        .subprocess (cliCommand ["status", "--json"] profile) 30)) := by
  unfold Bot.cmdStatus
  split
  · trivial
  · exact (getStatusSummaryLoop_bounded _ _).bind_free fun _ =>
      Bounded.ofExcept_bind _ fun _ => bounded_send_free free _ _ 0

theorem cmdSessions_bounded :
    (bot.cmdSessions host message).Bounded weight
      (totalWeight weight (bot.profiles.map fun (profile : String) =>
        .subprocess (cliCommand ["list", "--json"] profile) 30)) := by
  unfold Bot.cmdSessions
  split
  · trivial
  refine (getSessionsListAll_bounded _).bind_free fun _ => ?_
  split
  · exact bounded_send_free free _ _ 0
  · exact Bounded.ofExcept_bind _ fun _ => bounded_send_free free _ _ 0

theorem cmdRestart_bounded {budget : Nat} (uniform : ∀ profile : String,
      weight (.subprocess (cliCommand ["session", "restart", conductorSessionTitle profile] profile)
        60) ≤ budget) :
    (bot.cmdRestart message).Bounded weight budget := by
  unfold Bot.cmdRestart
  split
  · trivial
  split
  · trivial
  rename_i text _
  dsimp only
  have fits := uniform (bot.restartTarget text)
  refine (bounded_send_free free _ _ 0).bind_le (Nat.zero_le _) fun _ => ?_
  refine (runCli_bounded _ _).bind_le (by omega) fun _ => ?_
  split <;> exact bounded_send_free free _ _ _

end Handlers

namespace Bot

variable (bot : Bot)

/-- The most `agent-deck` runs a path of each handler makes. -/
def callBudget : Handler → Nat
  | .start => 0
  | .status => bot.profiles.length
  | .sessions => bot.profiles.length
  | .help => 0
  | .restart => 1
  | .message => 6

/-- The most seconds a path of each handler can spend in `agent-deck` timeouts and sleeps. -/
def waitBudget : Handler → Nat
  | .start => 0
  | .status => 30 * bot.profiles.length
  | .sessions => 30 * bot.profiles.length
  | .help => 0
  | .restart => 60
  | .message => 575

end Bot

/-- A handler runs `agent-deck` at most `callBudget` times and waits at most `waitBudget`
seconds, whatever the tool and the chat transport answer. -/
theorem handle_cost (host : Host) (bot : Bot) (handler : Handler) (message : Message)
    (answers : List Answer) :
    totalWeight Request.calls ((bot.handle host handler message).run answers).requests ≤
      bot.callBudget handler ∧
      totalWeight Request.waitLimit ((bot.handle host handler message).run answers).requests ≤
        bot.waitBudget handler := by
  have callsFree : ∀ destination text, Request.calls (.deliver destination text) = 0 :=
    fun _ _ => rfl
  have waitFree : ∀ destination text, Request.waitLimit (.deliver destination text) = 0 :=
    fun _ _ => rfl
  refine ⟨Bounded.run ?_ answers, Bounded.run ?_ answers⟩ <;> cases handler
  · exact cmdStart_bounded bot callsFree message
  · exact (cmdStatus_bounded host bot callsFree message).mono
      ((totalWeight_map_le fun _ _ => (le_rfl : _ ≤ 1)).trans (by simp [Bot.callBudget]))
  · exact (cmdSessions_bounded host bot callsFree message).mono
      ((totalWeight_map_le fun _ _ => (le_rfl : _ ≤ 1)).trans (by simp [Bot.callBudget]))
  · exact cmdHelp_bounded bot callsFree message
  · exact cmdRestart_bounded bot callsFree message fun _ => le_rfl
  · exact handleMessage_bounded host bot callsFree
      (fun _ _ => by
        simp [ensureWorstPath, totalWeight, conductorSend, Request.calls, Bot.callBudget])
      message
  · exact cmdStart_bounded bot waitFree message
  · exact (cmdStatus_bounded host bot waitFree message).mono
      ((totalWeight_map_le fun _ _ => (le_rfl : _ ≤ 30)).trans
        (by simp only [Bot.waitBudget]; omega))
  · exact (cmdSessions_bounded host bot waitFree message).mono
      ((totalWeight_map_le fun _ _ => (le_rfl : _ ≤ 30)).trans
        (by simp only [Bot.waitBudget]; omega))
  · exact cmdHelp_bounded bot waitFree message
  · exact cmdRestart_bounded bot waitFree message fun _ => le_rfl
  · exact handleMessage_bounded host bot waitFree
      (fun _ _ => by
        simp [ensureWorstPath, totalWeight, conductorSend, Request.waitLimit, responseTimeout,
          Bot.waitBudget]) message

/-! ## The heartbeat -/

section Heartbeat

variable {weight : Request → Nat} (host : Host) (config : Config)

/-- A profile's check costs its status and list calls, its ensure path, a send and an alert. -/
theorem heartbeatCheck_bounded (profile : String) {send alert : Nat}
    (sendBound : ∀ text, weight (conductorSend profile text) ≤ send)
    (alertBound : ∀ text, weight (.deliver (.chat config.userId) text) ≤ alert) :
    (heartbeatCheck host config profile).Bounded weight
      (weight (.subprocess (cliCommand ["status", "--json"] profile) 30) +
        (weight (.subprocess (cliCommand ["list", "--json"] profile) 30) +
          (totalWeight weight (ensureWorstPath host profile) + (send + alert)))) := by
  unfold heartbeatCheck
  refine getStatusSummary_bounded.bind fun _ => Bounded.ofExcept_bind _ fun waiting =>
    Bounded.ofExcept_bind _ fun running => Bounded.ofExcept_bind _ fun idle =>
      Bounded.ofExcept_bind _ fun error => ?_
  split
  · trivial
  refine getSessionsList_bounded.bind fun _ => Bounded.ofExcept_bind _ fun _ =>
    Bounded.ofExcept_bind _ fun details =>
      (ensureConductorRunning_bounded host profile).bind fun _ => ?_
  split
  · trivial
  refine ((sendToConductor_bounded _ _ _ _).mono (sendBound _)).bind fun ⟨ok, response⟩ => ?_
  dsimp only
  split
  · trivial
  split
  · exact ((bounded_send _ _).mono (alertBound _)).tryCatch fun _ => by trivial
  · trivial

theorem forM_bounded {f : String → Prog Unit} {budget : Nat} :
    ∀ {profiles : List String}, (∀ profile ∈ profiles, (f profile).Bounded weight budget) →
      (profiles.forM f).Bounded weight (profiles.length * budget)
  | [], _ => trivial
  | profile :: rest, each => by
    rw [List.length_cons, Nat.succ_mul, Nat.add_comm]
    exact (each profile (List.mem_cons_self _ _)).bind fun _ =>
      forM_bounded fun other mem => each other (List.mem_cons_of_mem _ mem)

/-- Each unrolled tick costs its sleep and at most `budget` per profile. -/
theorem heartbeatLoop_bounded {budget : Nat}
    (each : ∀ profile, (heartbeatProfile host config profile).Bounded weight budget) (ticks : Nat) :
    (heartbeatLoop host config ticks).Bounded weight
      (ticks * (weight (.sleep (config.heartbeatInterval * 60).toNat) + config.profiles.length *
        budget)) := by
  unfold heartbeatLoop
  split
  · trivial
  induction ticks with
  | zero => trivial
  | succ ticks inductionHypothesis =>
    rw [Nat.succ_mul, Nat.add_comm]
    exact ((bounded_asyncSleep _).bind fun _ => forM_bounded fun profile _ => each profile).bind
      fun _ => inductionHypothesis

end Heartbeat

/-- A profile's iteration costs what its check costs: its `except` only logs. -/
theorem heartbeatProfile_bounded (host : Host) (config : Config) (weight : Request → Nat)
    (send alert : Nat)
    (sendBound : ∀ profile text, weight (conductorSend profile text) ≤ send)
    (alertBound : ∀ text, weight (.deliver (.chat config.userId) text) ≤ alert) (profile : String) :
    (heartbeatProfile host config profile).Bounded weight
      (weight (.subprocess (cliCommand ["status", "--json"] profile) 30) +
        (weight (.subprocess (cliCommand ["list", "--json"] profile) 30) +
          (totalWeight weight (ensureWorstPath host profile) + (send + alert)))) :=
  (heartbeatCheck_bounded host config profile (sendBound profile) alertBound).tryCatch
    fun _ => trivial

/-- One profile's heartbeat iteration runs `agent-deck` at most eight times, sends at most one
alert and waits at most 635 seconds. -/
theorem heartbeatProfile_costs (host : Host) (config : Config) (profile : String) :
    (heartbeatProfile host config profile).Bounded Request.calls 8 ∧
      (heartbeatProfile host config profile).Bounded Request.messages 1 ∧
      (heartbeatProfile host config profile).Bounded Request.waitLimit 635 :=
  ⟨(heartbeatProfile_bounded host config Request.calls 1 0 (fun _ _ => le_rfl) (fun _ => le_rfl)
    profile).mono
      (by simp [Request.calls, ensureWorstPath, totalWeight]),
    (heartbeatProfile_bounded host config Request.messages 0 1 (fun _ _ => le_rfl) (fun _ => le_rfl)
      profile).mono
      (by simp [Request.messages, ensureWorstPath, totalWeight]),
    (heartbeatProfile_bounded host config Request.waitLimit 330
      0 (fun _ _ => le_rfl) (fun _ => le_rfl) profile).mono
      (by simp [Request.waitLimit, ensureWorstPath, totalWeight])⟩

/-- Each heartbeat tick runs `agent-deck` at most eight times and alerts at most once per
profile, and waits at most its interval and 635 seconds per profile. -/
theorem heartbeatLoop_cost (host : Host) (config : Config) (ticks : Nat) (answers : List Answer) :
    totalWeight Request.calls ((heartbeatLoop host config ticks).run answers).requests ≤
        ticks * (8 * config.profiles.length) ∧
      totalWeight Request.messages ((heartbeatLoop host config ticks).run answers).requests ≤
        ticks * config.profiles.length ∧
      totalWeight Request.waitLimit ((heartbeatLoop host config ticks).run answers).requests ≤
        ticks * ((config.heartbeatInterval * 60).toNat + 635 * config.profiles.length) := by
  refine ⟨Bounded.run ?_ answers, Bounded.run ?_ answers, Bounded.run ?_ answers⟩
  · refine (heartbeatLoop_bounded host config
      (fun profile => (heartbeatProfile_costs host config profile).1)
      ticks).mono ?_
    simp [Request.calls, Nat.mul_comm]
  · refine (heartbeatLoop_bounded host config
      (fun profile => (heartbeatProfile_costs host config profile).2.1)
      ticks).mono ?_
    simp [Request.messages]
  · refine (heartbeatLoop_bounded host config
      (fun profile => (heartbeatProfile_costs host config profile).2.2)
      ticks).mono ?_
    simp [Request.waitLimit, Nat.mul_comm]

end ConductorBridge
