import ConductorBridge.Json

/-!
# Bridge programs

The bridge acts on the world in three ways: it runs `agent-deck` as a subprocess, it
delivers chat messages, and it sleeps. A `Prog` is the finite tree of what a piece of
the bridge does: each request node branches on every answer the world can give, so a
property of every path is a property of every behaviour of the tool and of the chat
transport. `Prog.run` plays a tree against a script of answers; `Prog.Sat` is the
every-path reading the proofs use, and `Prog.Sat.run` connects the two.
-/

namespace ConductorBridge

/-- What `subprocess.run` records of a finished `agent-deck` process, next to what
`json.loads` makes of its standard output; each caller reads one or the other. -/
structure CompletedProcess where
  returncode : Int
  stdout : String
  loads : Except PyException Json
  stderr : String

/-- How `subprocess.run(cmd, capture_output=True, text=True, timeout=...)` ends. -/
inductive SubprocessOutcome where
  | completed (result : CompletedProcess)
  | timeoutExpired
  | fileNotFound
  /-- The output is not valid text, and decoding it raises `UnicodeDecodeError`. -/
  | undecodable

/-- Where a chat message goes: a reply to the message being handled (`message.answer`)
or a new message to a chat (`bot.send_message`). -/
inductive Destination where
  | reply
  | chat (chatId : Int)
  deriving DecidableEq, Repr

/-- A request the bridge makes of the world, as it appears in a run's trace. -/
inductive Request where
  | subprocess (cmd : List String) (timeout : Nat)
  | deliver (destination : Destination) (text : String)
  | sleep (seconds : Nat)
  deriving DecidableEq, Repr

/-- The world's answer to a request: how a subprocess ended, or whether a message was
delivered. A sleep needs no answer. -/
inductive Answer where
  | outcome (outcome : SubprocessOutcome)
  | delivery (delivered : Bool)

/-- A piece of the bridge as the tree of its requests. `diverge` is a loop that does
not end. -/
inductive Prog (α : Type) where
  | pure (value : α)
  | raise (error : PyException)
  | diverge
  | subprocess (cmd : List String) (timeout : Nat) (next : SubprocessOutcome → Prog α)
  | deliver (destination : Destination) (text : String) (next : Bool → Prog α)
  | sleep (seconds : Nat) (next : Prog α)

namespace Prog

variable {α β : Type}

/-- Sequencing: `next` runs on the value of every path of `prog` that returns. -/
def bind : Prog α → (α → Prog β) → Prog β
  | .pure value, next => next value
  | .raise error, _ => .raise error
  | .diverge, _ => .diverge
  | .subprocess cmd timeout k, next => .subprocess cmd timeout fun outcome => (k outcome).bind next
  | .deliver destination text k, next =>
    .deliver destination text fun delivered => (k delivered).bind next
  | .sleep seconds k, next => .sleep seconds (k.bind next)

instance : Monad Prog where
  pure := .pure
  bind := .bind

@[simp] theorem bind_pure_left (value : α) (next : α → Prog β) :
    (Prog.pure value).bind next = next value := rfl

@[simp] theorem monad_pure (value : α) : (Pure.pure value : Prog α) = .pure value := rfl

@[simp] theorem monad_bind (prog : Prog α) (next : α → Prog β) : prog >>= next = prog.bind next :=
  rfl

/-- `try: prog except Exception: handler`. -/
def tryCatch : Prog α → (PyException → Prog α) → Prog α
  | .pure value, _ => .pure value
  | .raise error, handler => handler error
  | .diverge, _ => .diverge
  | .subprocess cmd timeout k, handler =>
    .subprocess cmd timeout fun outcome => (k outcome).tryCatch handler
  | .deliver destination text k, handler =>
    .deliver destination text fun delivered => (k delivered).tryCatch handler
  | .sleep seconds k, handler => .sleep seconds (k.tryCatch handler)

/-- `time.sleep(seconds)`. -/
def pause (seconds : Nat) : Prog Unit := .sleep seconds (.pure ())

/-- The least `int` that `float()` rejects, `2 ^ 1024 - 2 ^ 970`: it rounds past the largest
double. -/
def floatLimit : Nat := (Nat.pow 2 54 - 1) * Nat.pow (Nat.pow 2 194) 5

/-- `await asyncio.sleep(seconds)`: the event loop adds the delay to its float clock, which
raises `OverflowError` for a delay `float()` rejects. -/
def asyncSleep (seconds : Nat) : Prog Unit :=
  if seconds < floatLimit then pause seconds else .raise .overflowError

/-- Deliver `text`; a failed delivery raises. -/
def send (destination : Destination) (text : String) : Prog Unit :=
  .deliver destination text fun delivered => if delivered then .pure () else .raise .telegramError

/-- A pure computation that may raise, as a program. -/
def ofExcept : Except PyException α → Prog α
  | .ok value => .pure value
  | .error error => .raise error

@[simp] theorem ofExcept_ok (value : α) : ofExcept (.ok value) = .pure value := rfl

@[simp] theorem ofExcept_error (error : PyException) :
    (ofExcept (.error error) : Prog α) = .raise error :=
  rfl

/-! ## Runs against a script of answers -/

/-- What a run did: its requests, how it ended (`none` when the answers ran out or did not fit,
or it diverged), and the answers left unread. -/
structure Run (α : Type) where
  requests : List Request
  result : Option (Except PyException α)
  unread : List Answer

/-- Play `prog` against `answers`, one answer per subprocess or delivery. -/
def run : Prog α → List Answer → Run α
  | .pure value, answers => ⟨[], some (.ok value), answers⟩
  | .raise error, answers => ⟨[], some (.error error), answers⟩
  | .diverge, answers => ⟨[], none, answers⟩
  | .subprocess cmd timeout k, .outcome outcome :: answers =>
    let rest := (k outcome).run answers
    ⟨.subprocess cmd timeout :: rest.requests, rest.result, rest.unread⟩
  | .subprocess cmd timeout _, answers => ⟨[.subprocess cmd timeout], none, answers⟩
  | .deliver destination text k, .delivery delivered :: answers =>
    let rest := (k delivered).run answers
    ⟨.deliver destination text :: rest.requests, rest.result, rest.unread⟩
  | .deliver destination text _, answers => ⟨[.deliver destination text], none, answers⟩
  | .sleep seconds k, answers =>
    let rest := k.run answers
    ⟨.sleep seconds :: rest.requests, rest.result, rest.unread⟩

/-- Continue a run of `prog` by `next` on the value it returned. -/
def Run.andThen (first : Run α) (next : α → List Answer → Run β) : Run β :=
  match first.result with
  | some (.ok value) =>
    let rest := next value first.unread
    ⟨first.requests ++ rest.requests, rest.result, rest.unread⟩
  | some (.error error) => ⟨first.requests, some (.error error), first.unread⟩
  | none => ⟨first.requests, none, first.unread⟩

@[simp] theorem run_send_requests (destination : Destination) (text : String)
    (answers : List Answer) :
    ((send destination text).run answers).requests = [.deliver destination text] := by
  match answers with
  | .delivery delivered :: _ => cases delivered <;> rfl
  | [] => rfl
  | .outcome _ :: _ => rfl

theorem Run.mem_andThen {first : Run α} {next : α → List Answer → Run β} {request : Request}
    (made : request ∈ (first.andThen next).requests) :
    request ∈ first.requests ∨
      ∃ value, first.result = some (.ok value) ∧ request ∈ (next value first.unread).requests := by
  unfold Run.andThen at made
  split at made
  · next value found => exact (List.mem_append.mp made).imp_right fun later => ⟨value, found, later⟩
  all_goals exact .inl made

theorem run_bind (prog : Prog α) (next : α → Prog β) (answers : List Answer) :
    (prog.bind next).run answers = (prog.run answers).andThen fun value => (next value).run := by
  induction prog generalizing answers with
  | pure value => simp [bind, run, Run.andThen]
  | raise error => rfl
  | diverge => rfl
  | subprocess cmd timeout k inductionHypothesis =>
    match answers with
    | .outcome outcome :: answers =>
      simp only [bind, run, inductionHypothesis, Run.andThen]
      split <;> simp_all
    | [] => rfl
    | .delivery _ :: _ => rfl
  | deliver destination text k inductionHypothesis =>
    match answers with
    | .delivery delivered :: answers =>
      simp only [bind, run, inductionHypothesis, Run.andThen]
      split <;> simp_all
    | [] => rfl
    | .outcome _ :: _ => rfl
  | sleep seconds k inductionHypothesis =>
    simp only [bind, run, inductionHypothesis, Run.andThen]
    split <;> simp_all

/-- Continue a run of `prog` by `handler` on the exception it raised. -/
def Run.recover (first : Run α) (handler : PyException → List Answer → Run α) : Run α :=
  match first.result with
  | some (.error error) =>
    let rest := handler error first.unread
    ⟨first.requests ++ rest.requests, rest.result, rest.unread⟩
  | _ => first

theorem run_tryCatch (prog : Prog α) (handler : PyException → Prog α) (answers : List Answer) :
    (prog.tryCatch handler).run answers =
      (prog.run answers).recover fun error => (handler error).run := by
  induction prog generalizing answers with
  | pure value => rfl
  | raise error => simp [tryCatch, run, Run.recover]
  | diverge => rfl
  | subprocess cmd timeout k inductionHypothesis =>
    match answers with
    | .outcome outcome :: answers =>
      simp only [tryCatch, run, inductionHypothesis, Run.recover]
      split <;> simp_all
    | [] => rfl
    | .delivery _ :: _ => rfl
  | deliver destination text k inductionHypothesis =>
    match answers with
    | .delivery delivered :: answers =>
      simp only [tryCatch, run, inductionHypothesis, Run.recover]
      split <;> simp_all
    | [] => rfl
    | .outcome _ :: _ => rfl
  | sleep seconds k inductionHypothesis =>
    simp only [tryCatch, run, inductionHypothesis, Run.recover]
    split <;> simp_all

theorem requests_recover (first : Run α) (handler : PyException → List Answer → Run α) :
    ∃ rest, (first.recover handler).requests = first.requests ++ rest := by
  unfold Run.recover
  split
  · exact ⟨_, rfl⟩
  · exact ⟨[], (List.append_nil _).symm⟩

/-- A subprocess request is the first request of every run of the program it heads. -/
theorem run_subprocess_requests (cmd : List String) (timeout : Nat)
    (next : SubprocessOutcome → Prog α) (answers : List Answer) :
    ∃ rest, ((Prog.subprocess cmd timeout next).run answers).requests =
      .subprocess cmd timeout :: rest := by
  match answers with
  | .outcome _ :: _ => exact ⟨_, rfl⟩
  | [] => exact ⟨[], rfl⟩
  | .delivery _ :: _ => exact ⟨[], rfl⟩

/-- A run that ends reads its answers from the front: answers added after stay unread. -/
theorem run_append (prog : Prog α) (answers more : List Answer)
    (ends : (prog.run answers).result.isSome) :
    prog.run (answers ++ more) =
      { prog.run answers with unread := (prog.run answers).unread ++ more } := by
  induction prog generalizing answers with
  | pure value => rfl
  | raise error => rfl
  | diverge => simp [run] at ends
  | subprocess cmd timeout k inductionHypothesis =>
    match answers with
    | .outcome outcome :: answers =>
      simp only [List.cons_append, run, List.append_eq] at ends ⊢
      rw [inductionHypothesis outcome answers ends]
    | [] => simp [run] at ends
    | .delivery _ :: _ => simp [run] at ends
  | deliver destination text k inductionHypothesis =>
    match answers with
    | .delivery delivered :: answers =>
      simp only [List.cons_append, run, List.append_eq] at ends ⊢
      rw [inductionHypothesis delivered answers ends]
    | [] => simp [run] at ends
    | .outcome _ :: _ => simp [run] at ends
  | sleep seconds k inductionHypothesis =>
    simp only [run] at ends ⊢
    rw [inductionHypothesis answers ends]

theorem run_append_of_eq {prog : Prog α} {answers : List Answer} {requests : List Request}
    {result : Except PyException α} {unread : List Answer}
    (ends : prog.run answers = ⟨requests, some result, unread⟩) (more : List Answer) :
    prog.run (answers ++ more) = ⟨requests, some result, unread ++ more⟩ := by
  rw [run_append prog answers more (by simp [ends]), ends]

/-! ## Every path -/

/-- On every path of `prog`: each request is `allowed`, a returned value satisfies
`returns`, a raised exception satisfies `raises`, and the path ends. -/
def Sat (allowed : Request → Prop) (returns : α → Prop) (raises : PyException → Prop) :
    Prog α → Prop
  | .pure value => returns value
  | .raise error => raises error
  | .diverge => False
  | .subprocess cmd timeout k =>
    allowed (.subprocess cmd timeout) ∧ ∀ outcome, (k outcome).Sat allowed returns raises
  | .deliver destination text k =>
    allowed (.deliver destination text) ∧ ∀ delivered, (k delivered).Sat allowed returns raises
  | .sleep seconds k => allowed (.sleep seconds) ∧ k.Sat allowed returns raises

section Sat

variable {allowed : Request → Prop} {returns : α → Prop} {raises : PyException → Prop}

@[simp] theorem sat_pure (value : α) : (Prog.pure value).Sat allowed returns raises ↔
    returns value :=
  Iff.rfl

@[simp] theorem sat_raise (error : PyException) :
    (Prog.raise error : Prog α).Sat allowed returns raises ↔ raises error := Iff.rfl

theorem Sat.bind {prog : Prog α} {next : α → Prog β} {continues : β → Prop}
    (first : prog.Sat allowed returns raises)
    (second : ∀ value, returns value → (next value).Sat allowed continues raises) :
    (prog.bind next).Sat allowed continues raises := by
  induction prog with
  | pure value => exact second value first
  | raise error => exact first
  | diverge => exact first
  | subprocess cmd timeout k inductionHypothesis =>
    exact ⟨first.1, fun outcome => inductionHypothesis outcome (first.2 outcome)⟩
  | deliver destination text k inductionHypothesis =>
    exact ⟨first.1, fun delivered => inductionHypothesis delivered (first.2 delivered)⟩
  | sleep seconds k inductionHypothesis => exact ⟨first.1, inductionHypothesis first.2⟩

theorem Sat.tryCatch {prog : Prog α} {handler : PyException → Prog α}
    {handled : PyException → Prop} (body : prog.Sat allowed returns raises)
    (recovers : ∀ error, raises error → (handler error).Sat allowed returns handled) :
    (prog.tryCatch handler).Sat allowed returns handled := by
  induction prog with
  | pure value => exact body
  | raise error => exact recovers error body
  | diverge => exact body
  | subprocess cmd timeout k inductionHypothesis =>
    exact ⟨body.1, fun outcome => inductionHypothesis outcome (body.2 outcome)⟩
  | deliver destination text k inductionHypothesis =>
    exact ⟨body.1, fun delivered => inductionHypothesis delivered (body.2 delivered)⟩
  | sleep seconds k inductionHypothesis => exact ⟨body.1, inductionHypothesis body.2⟩

theorem Sat.mono {prog : Prog α} {allowed' : Request → Prop} {returns' : α → Prop}
    {raises' : PyException → Prop} (sat : prog.Sat allowed returns raises)
    (onRequest : ∀ request, allowed request → allowed' request)
    (onReturn : ∀ value, returns value → returns' value)
    (onRaise : ∀ error, raises error → raises' error) : prog.Sat allowed' returns' raises' := by
  induction prog with
  | pure value => exact onReturn value sat
  | raise error => exact onRaise error sat
  | diverge => exact sat
  | subprocess cmd timeout k inductionHypothesis =>
    exact ⟨onRequest _ sat.1, fun outcome => inductionHypothesis outcome (sat.2 outcome)⟩
  | deliver destination text k inductionHypothesis =>
    exact ⟨onRequest _ sat.1, fun delivered => inductionHypothesis delivered (sat.2 delivered)⟩
  | sleep seconds k inductionHypothesis => exact ⟨onRequest _ sat.1, inductionHypothesis sat.2⟩

theorem sat_ofExcept {result : Except PyException α}
    (ok : ∀ value, result = .ok value → returns value)
    (error : ∀ error, result = .error error → raises error) :
    (ofExcept result).Sat allowed returns raises := by
  cases result with
  | ok value => exact ok value rfl
  | error e => exact error e rfl

/-- What holds on every path holds of every run, whatever the answers. -/
theorem Sat.run {prog : Prog α} (sat : prog.Sat allowed returns raises) (answers : List Answer) :
    (∀ request ∈ (prog.run answers).requests, allowed request) ∧
      (∀ value, (prog.run answers).result = some (.ok value) → returns value) ∧
      (∀ error, (prog.run answers).result = some (.error error) → raises error) := by
  induction prog generalizing answers with
  | pure value => simpa [Prog.run] using sat
  | raise error => simpa [Prog.run] using sat
  | diverge => simp [Prog.run]
  | subprocess cmd timeout k inductionHypothesis =>
    match answers with
    | .outcome outcome :: answers =>
      obtain ⟨requests, returned, raised⟩ := inductionHypothesis outcome (sat.2 outcome) answers
      exact ⟨by simpa [Prog.run, sat.1] using requests, returned, raised⟩
    | [] => simp [Prog.run, sat.1]
    | .delivery _ :: _ => simp [Prog.run, sat.1]
  | deliver destination text k inductionHypothesis =>
    match answers with
    | .delivery delivered :: answers =>
      obtain ⟨requests, returned, raised⟩ := inductionHypothesis delivered (sat.2 delivered) answers
      exact ⟨by simpa [Prog.run, sat.1] using requests, returned, raised⟩
    | [] => simp [Prog.run, sat.1]
    | .outcome _ :: _ => simp [Prog.run, sat.1]
  | sleep seconds k inductionHypothesis =>
    obtain ⟨requests, returned, raised⟩ := inductionHypothesis sat.2 answers
    exact ⟨by simpa [Prog.run, sat.1] using requests, returned, raised⟩

end Sat

/-! ## Safe runs -/

theorem sat_pause {allowed : Request → Prop} {raises : PyException → Prop} (seconds : Nat)
    (sleeps : allowed (.sleep seconds)) : (pause seconds).Sat allowed (fun _ => True) raises :=
  ⟨sleeps, trivial⟩

theorem sat_asyncSleep {allowed : Request → Prop} (seconds : Nat)
    (sleeps : allowed (.sleep seconds)) :
    (asyncSleep seconds).Sat allowed (fun _ => True)
      (fun error => error = .overflowError ∧ floatLimit ≤ seconds) := by
  unfold asyncSleep
  split
  · exact ⟨sleeps, trivial⟩
  · exact ⟨rfl, by omega⟩

/-- A run that made only `allowed` requests and, if it raised, raised what `raises` allows. -/
structure Run.Within (allowed : Request → Prop) (raises : PyException → Prop) (run : Run α) :
    Prop where
  requests_allowed : ∀ request ∈ run.requests, allowed request
  raised : ∀ error, run.result = some (.error error) → raises error

theorem Sat.within {allowed : Request → Prop} {returns : α → Prop} {raises : PyException → Prop}
    {prog : Prog α} (sat : prog.Sat allowed returns raises) (answers : List Answer) :
    (prog.run answers).Within allowed raises :=
  let ⟨requests, _, raised⟩ := sat.run answers
  ⟨requests, raised⟩

theorem Run.Within.andThen {allowed : Request → Prop} {raises : PyException → Prop}
    {first : Run α} {next : α → List Answer → Run β} (within : first.Within allowed raises)
    (rest : ∀ value unread, (next value unread).Within allowed raises) :
    (first.andThen next).Within allowed raises := by
  obtain ⟨requests, result, unread⟩ := first
  match result, within with
  | none, within => exact ⟨within.requests_allowed, by simp [Run.andThen]⟩
  | some (.error raisedError), within =>
    refine ⟨within.requests_allowed, fun error same => within.raised error ?_⟩
    simp only [Run.andThen, Option.some.injEq, Except.error.injEq] at same
    rw [same]
  | some (.ok value), within =>
    have later := rest value unread
    refine ⟨?_, later.raised⟩
    simp only [Run.andThen, List.mem_append]
    rintro request (earlier | later')
    exacts [within.requests_allowed request earlier, later.requests_allowed request later']

/-! ## One request at a time

A task of the running bridge advances one request at a time, interleaved with the other
tasks. `Next` is that step; a run against a script of answers is a chain of them. -/

/-- `prog` makes `request` and, on one answer of the world, goes on as `next`. -/
inductive Next : Prog α → Request → Prog α → Prop where
  | subprocess (cmd : List String) (timeout : Nat) (k : SubprocessOutcome → Prog α)
      (outcome : SubprocessOutcome) :
        Next (.subprocess cmd timeout k) (.subprocess cmd timeout) (k outcome)
  | deliver (destination : Destination) (text : String) (k : Bool → Prog α) (delivered : Bool) :
      Next (.deliver destination text k) (.deliver destination text) (k delivered)
  | sleep (seconds : Nat) (k : Prog α) : Next (.sleep seconds k) (.sleep seconds) k

/-- A program that has returned or raised. -/
def Finished : Prog α → Prop
  | .pure _ | .raise _ => True
  | _ => False

section Steps

variable {allowed : Request → Prop} {returns : α → Prop} {raises : PyException → Prop}
  {prog : Prog α}

theorem Sat.next {request : Request} {next : Prog α} (sat : prog.Sat allowed returns raises)
    (step : prog.Next request next) : allowed request ∧ next.Sat allowed returns raises := by
  cases step with
  | subprocess cmd timeout k outcome => exact ⟨sat.1, sat.2 outcome⟩
  | deliver destination text k delivered => exact ⟨sat.1, sat.2 delivered⟩
  | sleep seconds k => exact sat

/-- On every path `prog` returns or raises: it has finished, or it can make a request and
every step it can make leads to a program that ends. -/
inductive Ends : Prog α → Prop where
  | finished {prog : Prog α} : prog.Finished → Ends prog
  | next {prog : Prog α} : (∃ request next, prog.Next request next) →
      (∀ request next, prog.Next request next → Ends next) → Ends prog

/-- A program whose every path ends finishes after finitely many requests. -/
theorem Sat.ends (sat : prog.Sat allowed returns raises) : prog.Ends := by
  induction prog with
  | pure value => exact .finished trivial
  | raise error => exact .finished trivial
  | diverge => exact sat.elim
  | subprocess cmd timeout k inductionHypothesis =>
    refine .next ⟨_, _, .subprocess cmd timeout k .timeoutExpired⟩ fun _ _ step => ?_
    cases step with
    | subprocess _ _ _ outcome => exact inductionHypothesis outcome (sat.2 outcome)
  | deliver destination text k inductionHypothesis =>
    refine .next ⟨_, _, .deliver destination text k true⟩ fun _ _ step => ?_
    cases step with
    | deliver _ _ _ delivered => exact inductionHypothesis delivered (sat.2 delivered)
  | sleep seconds k inductionHypothesis =>
    refine .next ⟨_, _, .sleep seconds k⟩ fun _ _ step => ?_
    cases step with
    | sleep _ _ => exact inductionHypothesis sat.2

end Steps

/-! ## What a path costs

A weight counts what a request costs: a run of `agent-deck`, a chat message, or the seconds
the request may hold the task. `Bounded` says every path's requests weigh at most a budget,
and `Bounded.run` reads that off every run. -/

/-- The total `weight` of a list of requests. -/
def totalWeight (weight : Request → Nat) : List Request → Nat
  | [] => 0
  | request :: rest => weight request + totalWeight weight rest

@[simp] theorem totalWeight_append (weight : Request → Nat) (first second : List Request) :
    totalWeight weight (first ++ second) = totalWeight weight first + totalWeight
      weight second := by
  induction first with
  | nil => simp [totalWeight]
  | cons request rest inductionHypothesis => simp [totalWeight, inductionHypothesis, Nat.add_assoc]

theorem totalWeight_map_le {β : Type} {weight : Request → Nat} {f : β → Request} {bound : Nat} :
    ∀ {items : List β}, (∀ item ∈ items, weight (f item) ≤ bound) →
      totalWeight weight (items.map f) ≤ items.length * bound
  | [], _ => Nat.zero_le _
  | item :: rest, each => by
    have here := each item (List.mem_cons_self _ _)
    have later := totalWeight_map_le fun other mem => each other (List.mem_cons_of_mem _ mem)
    rw [List.map_cons, totalWeight, List.length_cons, Nat.succ_mul]
    omega

/-- On every path of `prog` the requests' `weight`s add up to at most `budget`. -/
def Bounded (weight : Request → Nat) : Nat → Prog α → Prop
  | _, .pure _ => True
  | _, .raise _ => True
  | _, .diverge => True
  | budget, .subprocess cmd timeout k => weight (.subprocess cmd timeout) ≤ budget ∧
    ∀ outcome, (k outcome).Bounded weight (budget - weight (.subprocess cmd timeout))
  | budget, .deliver destination text k => weight (.deliver destination text) ≤ budget ∧
    ∀ delivered, (k delivered).Bounded weight (budget - weight (.deliver destination text))
  | budget, .sleep seconds k => weight (.sleep seconds) ≤ budget ∧
    k.Bounded weight (budget - weight (.sleep seconds))

section Bounded

variable {weight : Request → Nat} {prog : Prog α} {m n : Nat}

theorem Bounded.mono (bounded : prog.Bounded weight m) (le : m ≤ n) : prog.Bounded weight n := by
  induction prog generalizing m n with
  | pure value => trivial
  | raise error => trivial
  | diverge => trivial
  | subprocess cmd timeout k inductionHypothesis =>
    exact ⟨bounded.1.trans le, fun outcome =>
      inductionHypothesis outcome (bounded.2 outcome) (by omega)⟩
  | deliver destination text k inductionHypothesis =>
    exact ⟨bounded.1.trans le, fun delivered =>
      inductionHypothesis delivered (bounded.2 delivered) (by omega)⟩
  | sleep seconds k inductionHypothesis =>
    exact ⟨bounded.1.trans le, inductionHypothesis bounded.2 (by omega)⟩

theorem Bounded.bind {next : α → Prog β} (first : prog.Bounded weight m)
    (second : ∀ value, (next value).Bounded weight n) :
      (prog.bind next).Bounded weight (m + n) := by
  induction prog generalizing m with
  | pure value => exact second value |>.mono (Nat.le_add_left n m)
  | raise error => trivial
  | diverge => trivial
  | subprocess cmd timeout k inductionHypothesis =>
    have cost := first.1
    exact ⟨by omega, fun outcome => (inductionHypothesis outcome (first.2 outcome)).mono (by omega)⟩
  | deliver destination text k inductionHypothesis =>
    have cost := first.1
    exact ⟨by omega, fun delivered =>
      (inductionHypothesis delivered (first.2 delivered)).mono (by omega)⟩
  | sleep seconds k inductionHypothesis =>
    have cost := first.1
    exact ⟨by omega, (inductionHypothesis first.2).mono (by omega)⟩

/-- A handler that requests nothing adds nothing: every `except` of the bridge only logs. -/
theorem Bounded.tryCatch {handler : PyException → Prog α} (body : prog.Bounded weight m)
    (recovers : ∀ error, (handler error).Bounded weight 0) :
      (prog.tryCatch handler).Bounded weight m := by
  induction prog generalizing m with
  | pure value => trivial
  | raise error => exact (recovers error).mono (Nat.zero_le m)
  | diverge => trivial
  | subprocess cmd timeout k inductionHypothesis =>
    exact ⟨body.1, fun outcome => inductionHypothesis outcome (body.2 outcome)⟩
  | deliver destination text k inductionHypothesis =>
    exact ⟨body.1, fun delivered => inductionHypothesis delivered (body.2 delivered)⟩
  | sleep seconds k inductionHypothesis => exact ⟨body.1, inductionHypothesis body.2⟩

theorem bounded_ofExcept (result : Except PyException α) : (ofExcept result).Bounded weight n := by
  cases result <;> trivial

/-- Sequencing with the budget passed down: what is left after `prog` pays for the rest. -/
theorem Bounded.bind_le {next : α → Prog β} {budget : Nat} (first : prog.Bounded weight m)
    (le : m ≤ budget) (second : ∀ value, (next value).Bounded weight (budget - m)) :
    (prog.bind next).Bounded weight budget :=
  (first.bind second).mono (by omega)

theorem Bounded.bind_free {next : α → Prog β} (first : prog.Bounded weight m)
    (rest : ∀ value, (next value).Bounded weight 0) : (prog.bind next).Bounded weight m :=
  first.bind rest

theorem Bounded.ofExcept_bind {next : α → Prog β} (result : Except PyException α)
    (rest : ∀ value, (next value).Bounded weight n) :
      ((ofExcept result).bind next).Bounded weight n := by
  cases result with
  | ok value => exact rest value
  | error error => trivial

theorem bounded_send (destination : Destination) (text : String) :
    (send destination text).Bounded weight (weight (.deliver destination text)) :=
  ⟨le_rfl, fun delivered => by cases delivered <;> trivial⟩

theorem bounded_pause (seconds : Nat) : (pause seconds).Bounded weight (weight (.sleep seconds)) :=
  ⟨le_rfl, trivial⟩

theorem bounded_asyncSleep (seconds : Nat) :
    (asyncSleep seconds).Bounded weight (weight (.sleep seconds)) := by
  unfold asyncSleep
  split
  · exact bounded_pause seconds
  · trivial

/-- A step pays for its request out of the budget, and what is left bounds the rest. -/
theorem Bounded.next {request : Request} {next : Prog α} (bounded : prog.Bounded weight n)
    (step : prog.Next request next) : weight request ≤ n ∧
      next.Bounded weight (n - weight request) := by
  cases step with
  | subprocess cmd timeout k outcome => exact ⟨bounded.1, bounded.2 outcome⟩
  | deliver destination text k delivered => exact ⟨bounded.1, bounded.2 delivered⟩
  | sleep seconds k => exact bounded

/-- What every path costs bounds every run, whatever the answers. -/
theorem Bounded.run (bounded : prog.Bounded weight n) (answers : List Answer) :
    totalWeight weight (prog.run answers).requests ≤ n := by
  induction prog generalizing n answers with
  | pure value => simp [Prog.run, totalWeight]
  | raise error => simp [Prog.run, totalWeight]
  | diverge => simp [Prog.run, totalWeight]
  | subprocess cmd timeout k inductionHypothesis =>
    match answers with
    | .outcome outcome :: answers =>
      have rest := inductionHypothesis outcome (bounded.2 outcome) answers
      have cost := bounded.1
      simp only [Prog.run, totalWeight]
      omega
    | [] => simpa [Prog.run] using bounded.1
    | .delivery _ :: _ => simpa [Prog.run] using bounded.1
  | deliver destination text k inductionHypothesis =>
    match answers with
    | .delivery delivered :: answers =>
      have rest := inductionHypothesis delivered (bounded.2 delivered) answers
      have cost := bounded.1
      simp only [Prog.run, totalWeight]
      omega
    | [] => simpa [Prog.run] using bounded.1
    | .outcome _ :: _ => simpa [Prog.run] using bounded.1
  | sleep seconds k inductionHypothesis =>
    have rest := inductionHypothesis bounded.2 answers
    have cost := bounded.1
    simp only [Prog.run, totalWeight]
    omega

end Bounded

end Prog

end ConductorBridge
