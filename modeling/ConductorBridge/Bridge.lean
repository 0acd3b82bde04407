import ConductorBridge.Cost
import ConductorBridge.LoadConfig

/-!
# The running bridge

`main` builds the bot from the configuration, starts `heartbeat_loop` as a background task
and polls Telegram; the dispatcher handles every update in a task of its own. A `Bridge` is
the pool of unfinished tasks. A step admits an update to one of the handlers, lets one task
make its next request and go on with whatever the world answers, drops a handler task that
returned or raised, or starts the heartbeat's next tick.

Tasks interleave at every request. The event loop switches tasks only at an `await`, and
`subprocess.run` blocks it, so each order it can pick is one of these: what holds of every
run here holds of the bridge whatever the updates, the answers and the scheduling.
-/

namespace ConductorBridge

/-- The task a request comes from: the heartbeat, or the handler of an update. -/
inductive Origin where
  | heartbeat
  | update (message : Message)

/-- The unfinished tasks: the heartbeat (none once `heartbeat_loop` returned) and one handler
task per update being handled, next to its message. -/
structure Bridge where
  heartbeat : Option (Prog Unit)
  handlers : List (Message × Prog Unit)

namespace Bridge

variable (host : Host) (config : Config) (bot : Bot)

/-- `main` once `create_bot` returned: `heartbeat_loop` returns at once for a non-positive
interval and otherwise starts its first tick; no update has arrived. -/
def start : Bridge where
  heartbeat := if config.heartbeatInterval ≤ 0 then none
    else some (heartbeatTick host config (config.heartbeatInterval * 60).toNat)
  handlers := []

/-- One step of the running bridge, with the request it makes, if any. -/
inductive Step : Bridge → Option (Origin × Request) → Bridge → Prop where
  /-- The dispatcher takes an update and starts a handler on it. -/
  | arrive (heartbeat : Option (Prog Unit)) (handlers : List (Message × Prog Unit))
    (handler : Handler)
      (message : Message) :
      Step ⟨heartbeat, handlers⟩ none
        ⟨heartbeat, handlers ++ [(message, bot.handle host handler message)]⟩
  /-- A handler task makes its next request. -/
  | handle (heartbeat : Option (Prog Unit)) (before after : List (Message × Prog Unit))
    (message : Message)
      {task next : Prog Unit} {request : Request} (step : task.Next request next) :
      Step ⟨heartbeat, before ++ (message, task) :: after⟩ (some (.update message, request))
        ⟨heartbeat, before ++ (message, next) :: after⟩
  /-- A handler task that returned, or raised into the dispatcher, which logs it, is dropped. -/
  | finish (heartbeat : Option (Prog Unit)) (before after : List (Message × Prog Unit))
    (message : Message)
      {task : Prog Unit} (finished : task.Finished) :
      Step ⟨heartbeat, before ++ (message, task) :: after⟩ none ⟨heartbeat, before ++ after⟩
  /-- The heartbeat makes its next request. -/
  | beat (handlers : List (Message × Prog Unit)) {task next : Prog Unit} {request : Request}
      (step : task.Next request next) :
      Step ⟨some task, handlers⟩ (some (.heartbeat, request)) ⟨some next, handlers⟩
  /-- A tick ended: `while True` starts the next one. -/
  | tick (handlers : List (Message × Prog Unit)) :
      Step ⟨some (.pure ()), handlers⟩ none
        ⟨some (heartbeatTick host config (config.heartbeatInterval * 60).toNat), handlers⟩
  /-- An exception out of the loop ends the heartbeat task. -/
  | stop (handlers : List (Message × Prog Unit)) (error : PyException) :
      Step ⟨some (.raise error), handlers⟩ none ⟨none, handlers⟩

/-- A run of steps from `first` to `last`, with the requests it made in order. -/
inductive Steps (first : Bridge) : List (Origin × Request) → Bridge → Prop where
  | refl : Steps first [] first
  | tail {trace : List (Origin × Request)} {bridge last : Bridge}
    {made : Option (Origin × Request)} :
      Steps first trace bridge → Step host config bot bridge made last →
        Steps first (trace ++ made.toList) last

/-- What a task may request: the heartbeat what `HeartbeatRequest` allows, a handler what
`HandlerRequest` allows for its message. -/
def Allowed : Origin × Request → Prop
  | (.heartbeat, request) => HeartbeatRequest config request
  | (.update message, request) => bot.HandlerRequest message request

/-- What every reachable state satisfies: every task's paths end on allowed requests, and the
heartbeat raises only its sleep's overflow and, below it, runs iff the interval is positive. -/
structure Invariant (bridge : Bridge) : Prop where
  heartbeat_isSome : (config.heartbeatInterval * 60).toNat < Prog.floatLimit →
    (bridge.heartbeat.isSome ↔ 0 < config.heartbeatInterval)
  heartbeat_sat : ∀ task, bridge.heartbeat = some task →
    task.Sat (HeartbeatRequest config) (fun _ => True)
      (SleepOverflow (config.heartbeatInterval * 60).toNat)
  handlers_sat : ∀ entry ∈ bridge.handlers,
    entry.2.Sat (bot.HandlerRequest entry.1) (fun _ => True) (fun _ => True)

theorem invariant_start : Invariant config bot (start host config) := by
  by_cases disabled : config.heartbeatInterval ≤ 0
  · refine ⟨?_, ?_, by simp [start]⟩ <;> simp [start, disabled]
  · refine ⟨?_, ?_, by simp [start]⟩
    · simp [start, disabled]
      omega
    · simp only [start, disabled, if_false, Option.some.injEq]
      rintro _ rfl
      exact heartbeatTick_sat host config _

section Preservation

variable {host config bot}
variable {bridge : Bridge} (invariant : Invariant config bot bridge)
include invariant

theorem Invariant.handlers_of_mem {before after : List (Message × Prog Unit)} {message : Message}
    {task : Prog Unit} (pool : bridge.handlers = before ++ (message, task) :: after) :
    (∀ entry ∈ before ++ after,
      entry.2.Sat (bot.HandlerRequest entry.1) (fun _ => True) (fun _ => True)) ∧
      task.Sat (bot.HandlerRequest message) (fun _ => True) (fun _ => True) := by
  have each := invariant.handlers_sat
  rw [pool] at each
  exact ⟨fun entry mem =>
    each entry (by simp only [List.mem_append, List.mem_cons] at mem ⊢; tauto),
    each (message, task) (by simp)⟩

/-- Each step keeps the invariant, and the request it makes, if any, is allowed. -/
theorem Invariant.step {made : Option (Origin × Request)} {next : Bridge}
    (step : Step host config bot bridge made next) :
    Invariant config bot next ∧ ∀ event ∈ made.toList, Allowed config bot event := by
  obtain ⟨isSome, heartbeatSat, handlersSat⟩ := invariant
  cases step with
  | arrive heartbeat handlers handler message =>
    refine ⟨⟨isSome, heartbeatSat, fun entry mem => ?_⟩, by simp⟩
    rcases List.mem_append.mp mem with old | new
    · exact handlersSat entry old
    · rw [List.mem_singleton.mp new]
      exact bot.handle_sat host message handler
  | handle heartbeat before after message step =>
    obtain ⟨others, sat⟩ := Invariant.handlers_of_mem ⟨isSome, heartbeatSat, handlersSat⟩ rfl
    obtain ⟨allowed, continues⟩ := sat.next step
    refine ⟨⟨isSome, heartbeatSat, fun entry mem => ?_⟩, by simpa [Allowed] using allowed⟩
    simp only [List.mem_append, List.mem_cons] at mem
    rcases mem with old | rfl | old
    · exact others entry (List.mem_append_left _ old)
    · exact continues
    · exact others entry (List.mem_append_right _ old)
  | finish heartbeat before after message finished =>
    obtain ⟨others, _⟩ := Invariant.handlers_of_mem ⟨isSome, heartbeatSat, handlersSat⟩ rfl
    exact ⟨⟨isSome, heartbeatSat, others⟩, by simp⟩
  | beat handlers step =>
    obtain ⟨allowed, continues⟩ := (heartbeatSat _ rfl).next step
    refine ⟨⟨isSome, fun task same => ?_, handlersSat⟩, by simpa [Allowed] using allowed⟩
    rwa [← Option.some.inj same]
  | tick handlers =>
    refine ⟨⟨isSome, fun task same => ?_, handlersSat⟩, by simp⟩
    rw [← Option.some.inj same]
    exact heartbeatTick_sat host config _
  | stop handlers error =>
    refine ⟨⟨fun fits => absurd (heartbeatSat _ rfl).2 (Nat.not_le.mpr fits), nofun, handlersSat⟩,
      by simp⟩

end Preservation

/-- Every run from the start keeps the invariant and makes only allowed requests. -/
theorem Steps.invariant {trace : List (Origin × Request)} {bridge : Bridge}
    (run : Steps host config bot (start host config) trace bridge) :
    Invariant config bot bridge ∧ ∀ event ∈ trace, Allowed config bot event := by
  induction run with
  | refl => exact ⟨invariant_start host config bot, by simp⟩
  | tail _ step inductionHypothesis =>
    obtain ⟨invariant, earlier⟩ := inductionHypothesis
    obtain ⟨kept, allowed⟩ := invariant.step step
    refine ⟨kept, fun event mem => ?_⟩
    rcases List.mem_append.mp mem with old | new
    exacts [earlier event old, allowed event new]

/-- What the configuration lets the bridge request: the heartbeat's requests, and for updates of
the authorised user only, `agent-deck` for a configured profile, sleeps and replies. -/
def Permitted (config : Config) : Origin × Request → Prop
  | (.heartbeat, request) => HeartbeatRequest config request
  | (.update message, .subprocess cmd _) =>
    message.senderId = config.userId ∧ ∃ profile ∈ config.profiles, ∃ args,
      cmd = cliCommand args profile
  | (.update message, .deliver destination _) =>
    message.senderId = config.userId ∧ destination = .reply
  | (.update message, .sleep _) => message.senderId = config.userId

theorem permitted_of_allowed {config : Config} {bot : Bot} (built : createBot config = .ok bot)
    {event : Origin × Request} (allowed : Allowed config bot event) : Permitted config event := by
  obtain ⟨user, profiles⟩ := createBot_ok built
  match event, allowed with
  | (.heartbeat, _), allowed => exact allowed
  | (.update _, .subprocess _ _), ⟨sender, issued⟩ => exact ⟨sender.trans user, profiles ▸ issued⟩
  | (.update _, .deliver _ _), ⟨sender, reply⟩ => exact ⟨sender.trans user, reply⟩
  | (.update _, .sleep _), ⟨sender, _⟩ => exact sender.trans user

/-- Profile `ops`, user 1, a 15-minute heartbeat: its first sleep, a dropped `/status` from
user 2, and a `/restart` whose reply is not delivered. -/
theorem steps_restart_sample :
    Steps Host.sample ⟨"token", 1, 15, ["ops"]⟩
      ⟨1, ["ops"], "ops", rfl⟩ (start Host.sample ⟨"token", 1, 15, ["ops"]⟩)
      [(.heartbeat, .sleep 900),
        (.update ⟨1, some "/restart"⟩, .deliver .reply "Restarting conductor for [ops]...")]
      ⟨some (["ops"].forM (heartbeatProfile Host.sample ⟨"token", 1, 15, ["ops"]⟩)), []⟩ := by
  have run := @Steps.refl Host.sample ⟨"token", 1, 15, ["ops"]⟩ ⟨1, ["ops"], "ops", rfl⟩
    (start Host.sample ⟨"token", 1, 15, ["ops"]⟩)
  have run := run.tail (.beat [] (.sleep _ _))
  have run := run.tail (.arrive _ [] .status ⟨2, some "/status"⟩)
  have run := run.tail (.finish _ [] [] _ trivial)
  have run := run.tail (.arrive _ [] .restart ⟨1, some "/restart"⟩)
  have run := run.tail (.handle _ [] [] _ (.deliver _ _ _ false))
  exact run.tail (.finish _ [] [] _ trivial)

/-- In every run, a request made for an update is made for a message of `config.userId`. -/
theorem Steps.update_sender {host : Host} {config : Config}
    {bot : Bot} (built : createBot config = .ok bot)
    {trace : List (Origin × Request)} {bridge : Bridge}
      (run : Steps host config bot (start host config) trace bridge)
    {message : Message} {request : Request} (made : (.update message, request) ∈ trace) :
    message.senderId = config.userId :=
  ((Steps.invariant host config bot run).2 _ made).1.trans (createBot_ok built).1

/-- A fractional `user_id` in (-1, 1) such as `0.5` is truthy and `int()` makes it 0: the
bridge then makes no request for a message of any real user. -/
theorem fractional_user_refused (host : Host) (configPath : String)
    (parseInt : String → Except PyException Int) (config : Config)
      (token : config.token ≠ "") (q : ℚ)
    (nonzero : q.num ≠ 0) (small : q.num.natAbs < q.den) :
    (∃ loaded, loadConfig configPath parseInt
      (some (config.documentWith (.float (.finite q)))) = .ok loaded ∧
        loaded.typed = some { config with userId := 0 }) ∧
      ∀ (bot : Bot) (trace : List (Origin × Request)) (bridge : Bridge),
        createBot { config with userId := 0 } = .ok bot →
        Steps host { config with userId := 0 } bot (start host { config with userId := 0 })
          trace bridge →
        ∀ (message : Message) (request : Request), (.update message, request) ∈ trace →
          message.senderId = 0 :=
  ⟨loadConfig_documentWith configPath parseInt config token (by simpa [Toml.truthy] using nonzero)
      (toInt_fraction parseInt small),
    fun _ _ _ built run _ _ made => run.update_sender built made⟩

theorem fractional_user_refused_half :
    ("token" : String) ≠ "" ∧ (mkRat 1 2).num ≠ 0 ∧ (mkRat 1 2).num.natAbs < (mkRat 1 2).den ∧
      (∃ loaded, loadConfig "/home/user/.agent-deck/config.toml" (fun _ => .error .valueError)
          (some (Config.documentWith ⟨"token", 7, 15, ["ops"]⟩ (.float (.finite (mkRat 1 2))))) =
            .ok loaded ∧
        loaded.typed = some ⟨"token", 0, 15, ["ops"]⟩) ∧
      ∀ (bot : Bot) (trace : List (Origin × Request)) (bridge : Bridge),
        createBot ⟨"token", 0, 15, ["ops"]⟩ = .ok bot →
        Steps Host.sample ⟨"token", 0, 15, ["ops"]⟩
          bot (start Host.sample ⟨"token", 0, 15, ["ops"]⟩) trace bridge →
        ∀ (message : Message) (request : Request), (.update message, request) ∈ trace →
          message.senderId = 0 :=
  ⟨by decide, by decide, by decide,
    fractional_user_refused Host.sample "/home/user/.agent-deck/config.toml"
      (fun _ => .error .valueError) ⟨"token", 7, 15, ["ops"]⟩ (by decide) (mkRat 1 2) (by decide)
      (by decide)⟩

/-! ## The heartbeat's pace

Each tick of `heartbeat_loop` opens with its sleep, and everything else it does is paid for
per profile. So however the handlers interleave with it, the heartbeat's work so far is at
most a tick's budget for each interval it has slept. -/

open Prog

/-- The requests the heartbeat made in a trace, in order. -/
def heartbeatRequests : List (Origin × Request) → List Request
  | [] => []
  | (.heartbeat, request) :: rest => request :: heartbeatRequests rest
  | (.update _, _) :: rest => heartbeatRequests rest

theorem heartbeatRequests_append (trace more : List (Origin × Request)) :
    heartbeatRequests (trace ++ more) = heartbeatRequests trace ++ heartbeatRequests more := by
  induction trace with
  | nil => rfl
  | cons event rest inductionHypothesis =>
    obtain ⟨_ | _, _⟩ := event <;> simp [heartbeatRequests, inductionHypothesis]

/-- The ticks a heartbeat has begun: its sleeps of the interval. -/
def tickCount (config : Config) (made : List Request) : Nat :=
  made.count (.sleep (config.heartbeatInterval * 60).toNat)

theorem tickCount_append_sleep (config : Config) (made : List Request) :
    tickCount config (made ++ [.sleep (config.heartbeatInterval * 60).toNat]) =
      tickCount config made + 1 := by
  simp [tickCount]

theorem tickCount_le_append (config : Config) (made more : List Request) :
    tickCount config made ≤ tickCount config (made ++ more) := by
  simp [tickCount]

theorem heartbeatTick_of_fits (host : Host) (config : Config)
    {seconds : Nat} (fits : seconds < floatLimit) :
    heartbeatTick host config seconds = .sleep
      seconds (config.profiles.forM (heartbeatProfile host config)) := by
  unfold heartbeatTick asyncSleep
  rw [if_pos fits]
  rfl

theorem heartbeatTick_of_overflows (host : Host) (config : Config) {seconds : Nat}
    (overflows : ¬ seconds < floatLimit) : heartbeatTick host config seconds =
      .raise .overflowError := by
  unfold heartbeatTick asyncSleep
  rw [if_neg overflows]
  rfl

/-- The heartbeat's `weight` against its ticks: what was spent, and what the tick under way may
still spend, stay within `budget` per tick slept. -/
def Paced (host : Host) (config : Config) (weight : Request → Nat) (budget : Nat)
    (made : List Request) :
    Option (Prog Unit) → Prop
  | some task => (task = heartbeatTick host config (config.heartbeatInterval * 60).toNat ∧
        totalWeight weight made ≤ budget * tickCount config made) ∨
      ∃ left, task.Bounded weight left ∧ totalWeight weight made + left ≤
        budget * tickCount config made
  | none => totalWeight weight made ≤ budget * tickCount config made

section Pace

variable {host : Host} {config : Config} {weight : Request → Nat} {budget : Nat}
    {made : List Request}

theorem Paced.spent {heartbeat : Option (Prog Unit)}
    (paced : Paced host config weight budget made heartbeat) :
    totalWeight weight made ≤ budget * tickCount config made := by
  match heartbeat, paced with
  | none, paced => exact paced
  | some _, .inl ⟨_, paid⟩ => exact paid
  | some _, .inr ⟨_, _, paid⟩ => omega

/-- The sleep opening a tick grants its budget; any other request is paid from what is left. -/
theorem Paced.next {task next : Prog Unit} {request : Request}
    (paced : Paced host config weight budget made (some task)) (step : task.Next request next)
    (free : weight (.sleep (config.heartbeatInterval * 60).toNat) = 0)
    (tick : (config.profiles.forM (heartbeatProfile host config)).Bounded weight budget) :
    Paced host config weight budget (made ++ [request]) (some next) := by
  rcases paced with ⟨rfl, paid⟩ | ⟨left, bounded, paid⟩
  · by_cases fits : (config.heartbeatInterval * 60).toNat < floatLimit
    case neg => rw [heartbeatTick_of_overflows host config fits] at step; cases step
    rw [heartbeatTick_of_fits host config fits] at step
    cases step
    refine .inr ⟨budget, tick, ?_⟩
    rw [tickCount_append_sleep, totalWeight_append, Nat.mul_succ]
    simp only [totalWeight, free]
    omega
  · obtain ⟨cost, rest⟩ := bounded.next step
    have more := Nat.mul_le_mul_left budget (tickCount_le_append config made [request])
    refine .inr ⟨left - weight request, rest, ?_⟩
    rw [totalWeight_append]
    simp only [totalWeight]
    omega

/-- A tick that returned has spent no more than its budget, and the next one starts. -/
theorem Paced.tick (paced : Paced host config weight budget made (some (.pure ()))) :
    Paced host config weight budget
      made (some (heartbeatTick host config (config.heartbeatInterval * 60).toNat)) :=
  .inl ⟨rfl, paced.spent⟩

theorem Paced.stop {error : PyException}
    (paced : Paced host config weight budget made (some (.raise error))) :
    Paced host config weight budget made none :=
  paced.spent

/-- In every run the heartbeat keeps pace with any budget a tick's profiles keep within. -/
theorem Steps.paced {bot : Bot} {trace : List (Origin × Request)} {bridge : Bridge}
    (free : weight (.sleep (config.heartbeatInterval * 60).toNat) = 0)
    (tick : (config.profiles.forM (heartbeatProfile host config)).Bounded weight budget)
    (run : Steps host config bot (start host config) trace bridge) :
    Paced host config weight budget (heartbeatRequests trace) bridge.heartbeat := by
  induction run with
  | refl =>
    by_cases disabled : config.heartbeatInterval ≤ 0
    · simp [start, disabled, Paced, heartbeatRequests, totalWeight]
    · simp only [start, disabled, if_false]
      exact .inl ⟨rfl, by simp [heartbeatRequests, totalWeight]⟩
  | tail _ step inductionHypothesis =>
    rw [heartbeatRequests_append]
    cases step with
    | arrive => simpa [heartbeatRequests] using inductionHypothesis
    | handle => simpa [heartbeatRequests] using inductionHypothesis
    | finish => simpa [heartbeatRequests] using inductionHypothesis
    | beat handlers step => exact inductionHypothesis.next step free tick
    | tick handlers => simpa [heartbeatRequests] using inductionHypothesis.tick
    | stop handlers error => simpa [heartbeatRequests] using inductionHypothesis.stop

end Pace

/-- However the handlers interleave, the heartbeat has made at most eight `agent-deck` runs and
one alert per profile for each interval it has slept. -/
theorem heartbeat_paced {host : Host} {config : Config} {bot : Bot}
    {trace : List (Origin × Request)}
    {bridge : Bridge} (run : Steps host config bot (start host config) trace bridge) :
    totalWeight Request.calls (heartbeatRequests trace) ≤
        config.profiles.length * 8 * tickCount config (heartbeatRequests trace) ∧
      totalWeight Request.messages (heartbeatRequests trace) ≤
        config.profiles.length * tickCount config (heartbeatRequests trace) :=
  ⟨(run.paced rfl
    (forM_bounded fun profile _ => (heartbeatProfile_costs host config profile).1)).spent,
    Nat.mul_one config.profiles.length ▸
      (run.paced rfl
        (forM_bounded fun profile _ => (heartbeatProfile_costs host config profile).2.1)).spent⟩

theorem heartbeat_paced_restart :
    Steps Host.sample ⟨"token", 1, 15, ["ops"]⟩
      ⟨1, ["ops"], "ops", rfl⟩ (start Host.sample ⟨"token", 1, 15, ["ops"]⟩)
        [(.heartbeat, .sleep 900),
          (.update ⟨1, some "/restart"⟩, .deliver .reply "Restarting conductor for [ops]...")]
        ⟨some (["ops"].forM (heartbeatProfile Host.sample ⟨"token", 1, 15, ["ops"]⟩)), []⟩ ∧
      totalWeight Request.calls (heartbeatRequests [(.heartbeat, .sleep 900),
          (.update ⟨1, some "/restart"⟩, .deliver .reply "Restarting conductor for [ops]...")]) ≤
        [("ops" : String)].length * 8 * tickCount
          ⟨"token", 1, 15, ["ops"]⟩ (heartbeatRequests [(.heartbeat, .sleep 900),
          (.update ⟨1, some "/restart"⟩, .deliver .reply "Restarting conductor for [ops]...")]) ∧
      totalWeight Request.messages (heartbeatRequests [(.heartbeat, .sleep 900),
          (.update ⟨1, some "/restart"⟩, .deliver .reply "Restarting conductor for [ops]...")]) ≤
        [("ops" : String)].length * tickCount
          ⟨"token", 1, 15, ["ops"]⟩ (heartbeatRequests [(.heartbeat, .sleep 900),
          (.update ⟨1, some "/restart"⟩, .deliver .reply "Restarting conductor for [ops]...")]) :=
  ⟨steps_restart_sample, heartbeat_paced steps_restart_sample⟩

end Bridge

end ConductorBridge
