import Plug.Enrichment

/-!
# One tool call: its attempts and the requests it sends

A call makes an attempt; an attempt ends before its request leaves, is abandoned
by its caller, or is answered. After a lost session the router may reconnect and
make a second attempt. There are two bodies for this, the direct call and the
background task, and they decide about the second attempt differently: the direct
call reads the hints the tool is routed with, the task reads none.

What an attempt meets is chosen outside the router, so a run is given by the
list of what its attempts meet. A list that ends early is a run in progress.
-/

namespace Plug.ToolCalls

open Text Enrichment

/-- The ways the connection layer reports that a request failed. -/
inductive ServiceError where
  | mcpError
  | transportSend (message : List Char)
  | transportClosed
  | unexpectedResponse
  | cancelled
  | timeout
deriving DecidableEq

/-- A session or transport failure, after which a reconnect is worth trying. -/
def isSessionError : ServiceError → Bool
  | .transportSend message =>
    let lowered := toLowercase message
    contains "404".toList lowered || contains "session not found".toList lowered ||
      contains "connection refused".toList lowered ||
      contains "connection reset".toList lowered || contains "broken pipe".toList lowered
  | .transportClosed => true
  | _ => false

/-- A failure that proves the server never took the call. -/
def neverReachedServer : ServiceError → Bool
  | .transportSend message =>
    let lowered := toLowercase message
    contains "404".toList lowered || contains "session not found".toList lowered ||
      contains "connection refused".toList lowered
  | _ => false

/-- How the wait for an answer ended. -/
inductive Answer where
  | toolResult
  | inputRequired
  | unexpected
  | error (error : ServiceError)
deriving DecidableEq

/-- The exits of the direct call before its request is handed over. The last
six come after the circuit breaker has admitted the call. -/
inductive Stop where
  | keptFromClient
  | unrouted
  | unloaded
  | unhealthy
  | circuitOpen
  | duplicate
  | busy
  | semaphoreClosed
  | upstreamMissing
  | expiredContinuation
  | sendFailed
deriving DecidableEq

/-- The parts of a continued round. Only a round without any of them may be
sent again. -/
structure ToolRoundInput where
  inputResponses : Bool
  requestState : Bool
  expectedRoute : Bool

def ToolRoundInput.fresh (round : ToolRoundInput) : Bool :=
  !round.inputResponses && !round.requestState && !round.expectedRoute

/-- What the direct call does with an answer: report to the circuit breaker, or
not, and end; or make a second attempt. -/
inductive Verdict where
  | ended (breakerReport : Option Bool)
  | retry
deriving DecidableEq

/-- The outcome arms of the direct call, in the source's order. `reconnects` is
the outcome of the reconnect, where one is made. -/
def verdict (round : ToolRoundInput) (isRetry safeToRepeat : Bool) (answer : Answer)
    (reconnects : Bool) : Verdict :=
  match answer with
  | .toolResult => .ended (some true)
  | .inputRequired => .ended (some true)
  | .error error =>
    if isSessionError error && !(neverReachedServer error || safeToRepeat) then .ended none
    else if isSessionError error && !isRetry && round.fresh then
      if reconnects then .retry else .ended (some false)
    else if error = .timeout then .ended none
    else .ended (some false)
  | .unexpected => .ended none

/-- A tool in the merged catalog: what the server lists, and the name its hints
are read off. -/
structure ListedTool where
  upstream : Tool
  finalName : List Char

/-- The hints of a tool found under the requested name. A name that only routes,
such as the server's own, finds none. -/
def safeToRepeat (listed : Option ListedTool) : Bool :=
  listed.any fun tool => (normalizeAnnotations tool.upstream tool.finalName).harmless

/-- What one attempt meets. `abandoned` is a caller that drops the call before
or after the request has been handed over. -/
inductive Meets where
  | stopped (stop : Stop)
  | abandoned (sent : Bool)
  | answered (answer : Answer) (reconnects : Bool)

structure Attempt where
  listed : Option ListedTool
  meets : Meets

/-- The requests handed over by the direct call, each with its answer. -/
def callToolInner (round : ToolRoundInput) : Bool → List Attempt → List (Option Answer)
  | _, [] => []
  | isRetry, attempt :: rest =>
    match attempt.meets with
    | .stopped _ => []
    | .abandoned sent => if sent then [none] else []
    | .answered answer reconnects =>
      some answer ::
        match verdict round isRetry (safeToRepeat attempt.listed) answer reconnects with
        | .ended _ => []
        | .retry => callToolInner round true rest

/-- What one round of the background task's loop meets. `unrecorded` is a task
whose record is gone once its request has been handed over. -/
inductive TaskMeets where
  | semaphoreClosed
  | busy
  | upstreamMissing
  | sendFailed
  | unrecorded
  | aborted (sent : Bool)
  | answered (answer : Answer) (reconnects : Bool)

/-- The requests handed over by the background task, each with its answer. -/
def executeToolTask : Bool → List TaskMeets → List (Option Answer)
  | _, [] => []
  | allowRetry, round :: rest =>
    match round with
    | .semaphoreClosed | .busy | .upstreamMissing | .sendFailed => []
    | .unrecorded => [none]
    | .aborted sent => if sent then [none] else []
    | .answered (.error error) reconnects =>
      some (.error error) ::
        if isSessionError error && allowRetry && reconnects then executeToolTask false rest else []
    | .answered answer _ => [some answer]

/-- A second request is justified by an error that proves the first never
arrived, or by the server's own word that a second run does no harm. -/
def repeatJustified (tool : Tool) : List (Option Answer) → Bool
  | first :: _ :: _ =>
    tool.declaredHarmless || match first with
      | some (.error error) => neverReachedServer error
      | _ => false
  | _ => true

def Meets.sends : Meets → Bool
  | .stopped _ => false
  | .abandoned sent => sent
  | .answered _ _ => true

def TaskMeets.sends : TaskMeets → Bool
  | .unrecorded => true
  | .aborted sent => sent
  | .answered _ _ => true
  | _ => false

/-- An error after which the call may have reached the server, on a session
that is worth a reconnect. -/
def lostMidCall (error : ServiceError) : Bool :=
  isSessionError error && !neverReachedServer error

/-- The direct call loses its session mid-call, is routed as harmless without
the server's word, and its second attempt gets as far as the request. -/
def callHazard (tool : Tool) (round : ToolRoundInput) (isRetry : Bool) : List Attempt → Bool
  | ⟨listed, .answered (.error error) reconnects⟩ :: rest =>
    lostMidCall error && safeToRepeat listed && !tool.declaredHarmless && !isRetry &&
      round.fresh && reconnects && rest.head?.any fun second => second.meets.sends
  | _ => false

/-- The task loses its session mid-call without the server's word that a second
run does no harm, and its second round gets as far as the request. -/
def taskHazard (tool : Tool) (isRetry : Bool) : List TaskMeets → Bool
  | .answered (.error error) reconnects :: rest =>
    lostMidCall error && !tool.declaredHarmless && !isRetry && reconnects &&
      rest.head?.any TaskMeets.sends
  | _ => false

/-- A proof that the call never arrived is a session error. -/
theorem isSessionError_of_neverReachedServer (error : ServiceError)
    (never : neverReachedServer error = true) : isSessionError error = true := by
  cases error with
  | transportSend message =>
    simp only [neverReachedServer, isSessionError, Bool.or_eq_true] at never ⊢
    exact .inl (.inl never)
  | _ => cases never

/-- A second attempt is made exactly after a lost session, on a fresh round of
a first attempt, if the call is harmless or never arrived and the reconnect works. -/
theorem verdict_eq_retry (round : ToolRoundInput) (isRetry harmless : Bool)
    (error : ServiceError) (reconnects : Bool) :
    verdict round isRetry harmless (.error error) reconnects = .retry ↔
      isSessionError error = true ∧ (neverReachedServer error = true ∨ harmless = true) ∧
        isRetry = false ∧ round.fresh = true ∧ reconnects = true := by
  simp only [verdict]
  split
  · simp_all
  · rename_i kept
    have harmful : isSessionError error = true →
        neverReachedServer error = true ∨ harmless = true := by
      intro session
      rw [← Bool.or_eq_true]
      simpa only [session, Bool.true_and, Bool.not_eq_true', Bool.not_eq_false] using kept
    split
    · split <;> simp_all
    · split <;> simp_all

/-- Whether the attempts that follow send anything is up to the first of them. -/
theorem callToolInner_isEmpty (round : ToolRoundInput) (isRetry : Bool)
    (attempts : List Attempt) :
    (callToolInner round isRetry attempts).isEmpty =
      !attempts.head?.any fun attempt => attempt.meets.sends := by
  match attempts with
  | [] => rfl
  | ⟨listed, .stopped stop⟩ :: rest => rfl
  | ⟨listed, .abandoned sent⟩ :: rest => cases sent <;> rfl
  | ⟨listed, .answered answer reconnects⟩ :: rest => rfl

theorem executeToolTask_isEmpty (allowRetry : Bool) (rounds : List TaskMeets) :
    (executeToolTask allowRetry rounds).isEmpty = !rounds.head?.any TaskMeets.sends := by
  match rounds with
  | [] => rfl
  | .aborted sent :: rest => cases sent <;> rfl
  | .answered answer reconnects :: rest => cases answer <;> rfl
  | .semaphoreClosed :: rest => rfl
  | .busy :: rest => rfl
  | .upstreamMissing :: rest => rfl
  | .sendFailed :: rest => rfl
  | .unrecorded :: rest => rfl

/-- After a failed first request, a second one needs a justification. -/
theorem repeatJustified_error (tool : Tool) (error : ServiceError)
    (later : List (Option Answer)) :
    repeatJustified tool (some (.error error) :: later) =
      (later.isEmpty || (tool.declaredHarmless || neverReachedServer error)) := by
  cases later <;> simp [repeatJustified]

/-- The direct call repeats without justification exactly in its hazard. -/
theorem callToolInner_justified (tool : Tool) (round : ToolRoundInput) (isRetry : Bool)
    (attempts : List Attempt) :
    repeatJustified tool (callToolInner round isRetry attempts) =
      !callHazard tool round isRetry attempts := by
  match attempts with
  | [] => rfl
  | ⟨listed, .stopped stop⟩ :: rest => rfl
  | ⟨listed, .abandoned sent⟩ :: rest => cases sent <;> rfl
  | ⟨listed, .answered .toolResult reconnects⟩ :: rest => rfl
  | ⟨listed, .answered .inputRequired reconnects⟩ :: rest => rfl
  | ⟨listed, .answered .unexpected reconnects⟩ :: rest => rfl
  | ⟨listed, .answered (.error error) reconnects⟩ :: rest =>
    have retries := verdict_eq_retry round isRetry (safeToRepeat listed) error reconnects
    have silent := callToolInner_isEmpty round true rest
    have session := isSessionError_of_neverReachedServer error
    simp only [callToolInner, callHazard, lostMidCall, repeatJustified_error]
    cases decided : verdict round isRetry (safeToRepeat listed) (.error error) reconnects with
    | ended report =>
      have idle : ¬ (isSessionError error = true ∧
          (neverReachedServer error = true ∨ safeToRepeat listed = true) ∧
          isRetry = false ∧ round.fresh = true ∧ reconnects = true) := by
        rw [← retries, decided]
        simp
      simp only [List.isEmpty_nil, Bool.true_or]
      grind
    | retry =>
      obtain ⟨lost, harmless, rfl, fresh, rfl⟩ := retries.mp decided
      simp only [silent, lost, fresh]
      grind

/-- The task repeats without justification exactly in its hazard. -/
theorem executeToolTask_justified (tool : Tool) (isRetry : Bool) (rounds : List TaskMeets) :
    repeatJustified tool (executeToolTask (!isRetry) rounds) = !taskHazard tool isRetry rounds := by
  match rounds with
  | [] => rfl
  | .aborted sent :: rest => cases sent <;> rfl
  | .answered .toolResult reconnects :: rest => rfl
  | .answered .inputRequired reconnects :: rest => rfl
  | .answered .unexpected reconnects :: rest => rfl
  | .semaphoreClosed :: rest => rfl
  | .busy :: rest => rfl
  | .upstreamMissing :: rest => rfl
  | .sendFailed :: rest => rfl
  | .unrecorded :: rest => rfl
  | .answered (.error error) reconnects :: rest =>
    have silent := executeToolTask_isEmpty false rest
    have session := isSessionError_of_neverReachedServer error
    simp only [executeToolTask, taskHazard, lostMidCall, repeatJustified_error]
    split
    · rename_i repeats
      simp only [silent]
      grind
    · rename_i ends
      simp only [List.isEmpty_nil, Bool.true_or]
      grind

/-- A request leaves a second time only with justification, on either path,
exactly if the path's hazard is not met. -/
theorem second_request_justified (tool : Tool) (round : ToolRoundInput) (isRetry : Bool)
    (attempts : List Attempt) (rounds : List TaskMeets) :
    (repeatJustified tool (callToolInner round isRetry attempts) = true ↔
        callHazard tool round isRetry attempts = false) ∧
      (repeatJustified tool (executeToolTask (!isRetry) rounds) = true ↔
        taskHazard tool isRetry rounds = false) := by
  rw [callToolInner_justified, executeToolTask_justified]
  simp

/-- A tool whose server declares nothing and whose name starts by reading. -/
def getAndClear : ListedTool where
  upstream := ⟨none, none, none, none⟩
  finalName := "get_and_clear".toList

/-- Both paths send a call again that may have run, for a tool its server says
nothing about: the direct call on the word of the tool's name, the task on none. -/
theorem unjustified_second_request :
    getAndClear.upstream.declaredHarmless = false ∧
      neverReachedServer .transportClosed = false ∧
      callToolInner ⟨false, false, false⟩ false
          [⟨some getAndClear, .answered (.error .transportClosed) true⟩,
            ⟨some getAndClear, .answered .toolResult true⟩] =
        [some (.error .transportClosed), some .toolResult] ∧
      executeToolTask true
          [.answered (.error .transportClosed) true, .answered .toolResult true] =
        [some (.error .transportClosed), some .toolResult] := by
  decide +kernel

end Plug.ToolCalls
