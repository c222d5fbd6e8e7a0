import Zangpu.Services.Chat.Forwarding
import Zangpu.Services.Chat.Settlement.Knowledge

/-!
What the settlement protocol guarantees.

Owns: that the ledger and the credit service agree in every state of every run; that a
settlement is written ahead and its arguments never disagree; that the provider is asked
for one process of a client's request identifier; that `[DONE]` is the word for a
completed, settled stream; and that a final frame is the last one.

Does not own: that requests end.
-/

set_option autoImplicit false

namespace Zangpu.Services.Chat

open Zangpu.Foundation
open Zangpu.Api
open Zangpu.Models
open Zangpu.Integrations.OpenWebUI
open Zangpu.Services.Quota
open Zangpu.Services.Streaming
open Zangpu.Workers.Recovery

variable {deployment : Deployment}

/-! ## Accounts along a history -/

/-- What an account never takes back. -/
structure Account.Precedes (earlier later : Account) : Prop where
  chat : later.chat = earlier.chat
  forwarded : earlier.forwarded = true → later.forwarded = true
  closed : earlier.closed = true → later.closed = true

namespace Account

theorem Precedes.refl (account : Account) : account.Precedes account := ⟨rfl, id, id⟩

theorem Precedes.trans {first second third : Account} (early : first.Precedes second)
    (late : second.Precedes third) : first.Precedes third where
  chat := late.chat.trans early.chat
  forwarded forwarded := late.forwarded (early.forwarded forwarded)
  closed closed := late.closed (early.closed closed)

variable (parser : Parser) (account : Account)

theorem sent_precedes (call : Call) : account.Precedes (account.sent call) := by
  cases call with
  | forwardChat => exact ⟨rfl, fun _ => rfl, id⟩
  | recordUsage | cancelCredit => exact ⟨rfl, id, id⟩
  | _ => exact .refl account

theorem heard_precedes (call : Call) (answer : Except Failure call.Answer) :
    account.Precedes (account.heard parser call answer) := by
  cases answer with
  | error failure =>
      cases call with
      | reserveCredit => cases failure <;> exact ⟨rfl, id, id⟩
      | _ => exact .refl account
  | ok answer =>
      cases call with
      | streamNext => cases answer <;> exact ⟨rfl, id, id⟩
      | settleCredit =>
          show account.Precedes (if _ then _ else _)
          split
          · exact ⟨rfl, id, id⟩
          · exact .refl account
      | reserveQuota | reserveCredit | recordCredit | forwardChat | recordUsage | cancelCredit
      | terminalize => exact ⟨rfl, id, id⟩
      | _ => exact .refl account

theorem after_precedes (event : Event backend) : account.Precedes (account.after parser event) := by
  cases event with
  | sent call => exact account.sent_precedes call
  | lost call => exact .refl account
  | emitted frame =>
      refine ⟨rfl, id, ?_⟩
      intro closed
      show (account.closed || frame.isFinal) = true
      rw [closed]
      rfl
  | answered call answer =>
      show account.Precedes (if _ then _ else _)
      split
      · exact account.heard_precedes parser call answer
      · exact .refl account

/-- The account after a history, newest event first. -/
def along : List (Event backend) → Account
  | [] => account
  | event :: earlier => (along earlier).after parser event

theorem along_precedes (later earlier : List (Event backend)) :
    (account.along parser earlier).Precedes (account.along parser (later ++ earlier)) := by
  induction later with
  | nil => exact .refl _
  | cons event later inductionHypothesis =>
      exact inductionHypothesis.trans (after_precedes parser _ event)

theorem along_chat (history : List (Event backend)) :
    (account.along parser history).chat = account.chat := by
  have precedes := along_precedes parser account history []
  rw [List.append_nil] at precedes
  exact precedes.chat

end Account

/-- The standing of a live request is that of its account. -/
theorem standing_live (account : Account) (history : List (Event backend)) :
    deployment.settlement.phase (.live account) history =
      .live (account.along deployment.service.parser history) := by
  induction history with
  | nil => rfl
  | cons event earlier inductionHypothesis =>
      show Standing.after _ (deployment.settlement.phase _ earlier) event = _
      rw [inductionHypothesis]
      rfl

theorem start_live {role : Role} {chat : ChatRequest} (live : chat ∈ role.chat?) :
    Standing.start role = .live (.start chat) := by
  cases role with
  | execute request | stream request =>
      cases live
      rfl
  | recovery now => cases live

/-! ## Every state of every run -/

section Runs

variable {world : World} {condition : Condition backend Role Unit World} {system : ChatSystem}

/-- The ledger and the credit service agree in every state of every run. -/
theorem stores_agree (agreed : Agreed world)
    (run : Reaches deployment.behaviour condition ⟨world, [], []⟩ system) :
    Agreed system.world := (settlement_holds agreed run).sound

/-! ### Settlements -/

/-- A settlement is sent once its usage is in the ledger. -/
theorem settlement_is_written_ahead (agreed : Agreed world)
    (run : Reaches deployment.behaviour condition ⟨world, [], []⟩ system) {next : ChatSystem}
    {pid : Nat} {happening : Happening backend}
    (step : Step deployment.behaviour system (.moved pid happening) next)
    {operationId serviceUserId : String} {promptTokens completionTokens : Int}
    (sent : Event.sent (Call.settleCredit operationId serviceUserId promptTokens completionTokens) ∈
      happening.events) :
    UsageStands system.world.ledger operationId (promptTokens, completionTokens) := by
  have holds := settlement_holds agreed run
  cases step with
  | move found moves =>
      have licensed := (holds.keeps pid _ found).licensed_sent moves sent
      exact licensed

/-- All settlements that were ever sent for an operation ask for the tokens that the
ledger has recorded for it. -/
theorem settlements_agree (agreed : Agreed world)
    (run : Reaches deployment.behaviour condition ⟨world, [], []⟩ system)
    {left right : ChatProcess} (leftMember : left ∈ system.processes)
    (rightMember : right ∈ system.processes) {operationId leftUser rightUser : String}
    {leftPrompt leftCompletion rightPrompt rightCompletion : Int}
    (leftSent : Event.sent (Call.settleCredit operationId leftUser leftPrompt leftCompletion) ∈
      left.history)
    (rightSent : Event.sent (Call.settleCredit operationId rightUser rightPrompt rightCompletion) ∈
      right.history) :
    leftPrompt = rightPrompt ∧ leftCompletion = rightCompletion ∧
      UsageStands system.world.ledger operationId (leftPrompt, leftCompletion) := by
  have start : (settlementContract deployment).Holds ⟨world, [], []⟩ :=
    Contract.Holds.initial agreed
  have leftStands : UsageStands system.world.ledger operationId (leftPrompt, leftCompletion) :=
    start.sent_licensed (by intro process member; cases member) run leftMember leftSent
  have rightStands : UsageStands system.world.ledger operationId (rightPrompt, rightCompletion) :=
    start.sent_licensed (by intro process member; cases member) run rightMember rightSent
  have same := leftStands.unique rightStands
  exact ⟨congrArg Prod.fst same, congrArg Prod.snd same, leftStands⟩

/-! ### The provider -/

/-- Every request has its own operation identifier. -/
def Distinct (system : ChatSystem) : Prop :=
  ∀ (first second : Nat) (left right : ChatProcess) (chat other : ChatRequest),
    system.processes[first]? = some left → system.processes[second]? = some right →
    chat ∈ left.role.chat? → other ∈ right.role.chat? → chat.operationId = other.operationId →
    first = second

/-- A move changes no role. -/
theorem role_of_set {pid other : Nat} {process moved candidate : ChatProcess}
    (found : system.processes[pid]? = some process) (same : moved.role = process.role)
    (after : (system.processes.set pid moved)[other]? = some candidate) :
    ∃ former, system.processes[other]? = some former ∧ former.role = candidate.role := by
  rcases getElem?_set_cases found after with ⟨rfl, rfl⟩ | ⟨_, old⟩
  · exact ⟨process, found, same.symm⟩
  · exact ⟨candidate, old, rfl⟩

theorem Distinct.step {occurrence : Occurrence backend Role} {after : ChatSystem}
    (distinct : Distinct system) (step : Step deployment.behaviour system occurrence after) :
    Distinct after := by
  intro first second left right chat other leftFound rightFound leftLive rightLive same
  cases step with
  | start allowed =>
      have unused : ∀ request, ∀ process : ChatProcess, request ∈ Role.chat? _ →
          process ∈ system.processes → ∀ earlier ∈ process.role.chat?,
          earlier.operationId ≠ request.operationId :=
        fun request process fresh member => (allowed request fresh).2.2 process member
      rcases getElem?_append_cases leftFound with ⟨leftLast, rfl⟩ | leftOld
      · rcases getElem?_append_cases rightFound with ⟨rightLast, rfl⟩ | rightOld
        · exact leftLast.trans rightLast.symm
        · exact absurd same.symm (unused chat right leftLive (List.mem_of_getElem? rightOld) other
            rightLive)
      · rcases getElem?_append_cases rightFound with ⟨rightLast, rfl⟩ | rightOld
        · exact absurd same (unused other left rightLive (List.mem_of_getElem? leftOld) chat
            leftLive)
        · exact distinct _ _ _ _ _ _ leftOld rightOld leftLive rightLive same
  | move found moves =>
      obtain ⟨formerLeft, leftOld, leftRole⟩ := role_of_set found moves.role_eq leftFound
      obtain ⟨formerRight, rightOld, rightRole⟩ := role_of_set found moves.role_eq rightFound
      exact distinct _ _ _ _ _ _ leftOld rightOld (leftRole ▸ leftLive) (rightRole ▸ rightLive)
        same
  | apply | drop | drift =>
      exact distinct _ _ _ _ _ _ leftFound rightFound leftLive rightLive same

theorem distinct_of_reaches
    (run : Reaches deployment.behaviour condition ⟨world, [], []⟩ system) : Distinct system :=
  run.invariant (fun _ _ _ distinct step _ => distinct.step step)
    (by intro first second left right chat other found; cases found)

/-- The process has asked the provider. -/
def Asks (process : ChatProcess) : Prop :=
  ∃ call request, Call.forwarded? call = some request ∧ Event.sent call ∈ process.history

/-- The call of a non-streaming request to the provider. -/
def isForward : Event backend → Bool
  | .sent (.forwardChat _ _) => true
  | _ => false

/-- What a live request was told at any point of its history still holds. -/
theorem account_knows (agreed : Agreed world)
    (run : Reaches deployment.behaviour condition ⟨world, [], []⟩ system) {process : ChatProcess}
    (member : process ∈ system.processes) {chat : ChatRequest} (live : chat ∈ process.role.chat?)
    {later earlier : List (Event backend)} (history : process.history = later ++ earlier) :
    ((Account.start chat).along deployment.service.parser earlier).Knows system.world := by
  have start : (settlementContract deployment).Holds ⟨world, [], []⟩ :=
    Contract.Holds.initial agreed
  have knows := start.knew (by intro process member; cases member) run process member earlier
    ⟨later, history.symm⟩
  rw [start_live live, standing_live] at knows
  exact knows

/-- A live request sent and yielded what the protocol permits. -/
theorem lawful_of_live (agreed : Agreed world)
    (run : Reaches deployment.behaviour condition ⟨world, [], []⟩ system) {process : ChatProcess}
    (member : process ∈ system.processes) {chat : ChatRequest} (live : chat ∈ process.role.chat?) :
    Lawful deployment.settlement (.live (.start chat)) process.history := by
  obtain ⟨pid, found⟩ := List.mem_iff_getElem?.mp member
  have lawful := ((settlement_holds agreed run).keeps pid process found).disciplined.lawful
  rw [start_live live] at lawful
  exact lawful

/-- A call in the history of a live request was permitted by the account before it. -/
theorem permitted_of_lawful {chat : ChatRequest} {later earlier : List (Event backend)} {call : Call}
    (lawful : Lawful deployment.settlement (.live (.start chat)) (later ++ .sent call :: earlier)) :
    ((Account.start chat).along deployment.service.parser earlier).permitsCall call := by
  have permitted := lawful.earlier.1
  rw [standing_live] at permitted
  exact permitted

/-- A process that asked the provider has its client's row for the request. -/
theorem requestStands_of_asks (agreed : Agreed world)
    (run : Reaches deployment.behaviour condition ⟨world, [], []⟩ system) {process : ChatProcess}
    (member : process ∈ system.processes) {chat : ChatRequest} (live : chat ∈ process.role.chat?)
    (asks : Asks process) :
    RequestStands system.world.ledger chat.operationId chat.caller.apiClientId
      chat.caller.requestId chat.request.model := by
  obtain ⟨call, request, forwards, sent⟩ := asks
  obtain ⟨later, earlier, history⟩ := List.append_of_mem sent
  have lawful := lawful_of_live agreed run member live
  rw [history] at lawful
  have permitted := permitted_of_lawful lawful
  have reserved : ((Account.start chat).along deployment.service.parser earlier).reserved = true := by
    cases call with
    | forwardChat | streamNext => exact permitted.2.1
    | _ => cases forwards
  have split : process.history = (later ++ [.sent call]) ++ earlier := by simp [history]
  have stands := (account_knows agreed run member live split).reserved reserved
  rw [Account.along_chat] at stands
  exact stands

/-- A request that has been forwarded is known to be. -/
theorem forwarded_of_sent (account : Account) (parser : Parser) {history : List (Event backend)}
    {event : Event backend} (member : event ∈ history) (forwards : isForward event = true) :
    (account.along parser history).forwarded = true := by
  obtain ⟨later, earlier, rfl⟩ := List.append_of_mem member
  have forwarded : (account.along parser (event :: earlier)).forwarded = true := by
    unfold isForward at forwards
    split at forwards
    · rfl
    · cases forwards
  have rest := account.along_precedes parser later (event :: earlier)
  exact rest.forwarded forwarded

/-- A non-streaming request is forwarded at most once. -/
theorem countP_isForward {chat : ChatRequest} {history : List (Event backend)}
    (lawful : Lawful deployment.settlement (.live (.start chat)) history) :
    history.countP isForward ≤ 1 := by
  induction history with
  | nil => exact Nat.zero_le 1
  | cons event earlier inductionHypothesis =>
      have here : Lawful deployment.settlement (.live (.start chat)) ([] ++ event :: earlier) := lawful
      by_cases forwards : isForward event = true
      · rw [List.countP_cons_of_pos forwards]
        have none : earlier.countP isForward = 0 := by
          rw [List.countP_eq_zero]
          intro former member again
          have forwarded := forwarded_of_sent (.start chat) deployment.service.parser member again
          unfold isForward at forwards
          split at forwards
          · have permitted := permitted_of_lawful here
            rw [permitted.2.2.2] at forwarded
            cases forwarded
          · cases forwards
        omega
      · rw [List.countP_cons_of_neg forwards]
        have before : Lawful deployment.settlement (.live (.start chat)) ([event] ++ earlier) :=
          lawful
        exact inductionHypothesis before.earlier

/-- The provider is asked for a request identifier of a client by one process at most,
and by a non-streaming one once. -/
theorem forwarded_once (agreed : Agreed world)
    (run : Reaches deployment.behaviour condition ⟨world, [], []⟩ system) {first second : Nat}
    {left right : ChatProcess} {chat other : ChatRequest}
    (leftFound : system.processes[first]? = some left)
    (rightFound : system.processes[second]? = some right) (leftLive : chat ∈ left.role.chat?)
    (rightLive : other ∈ right.role.chat?)
    (client : chat.caller.apiClientId = other.caller.apiClientId)
    (request : chat.caller.requestId = other.caller.requestId) (leftAsks : Asks left)
    (rightAsks : Asks right) : first = second ∧ left.history.countP isForward ≤ 1 := by
  have leftMember := List.mem_of_getElem? leftFound
  have rightMember := List.mem_of_getElem? rightFound
  refine ⟨?_, countP_isForward (lawful_of_live agreed run leftMember leftLive)⟩
  obtain ⟨row, found, rowClient, rowRequest, _⟩ :=
    requestStands_of_asks agreed run leftMember leftLive leftAsks
  obtain ⟨twin, twinFound, twinClient, twinRequest, _⟩ :=
    requestStands_of_asks agreed run rightMember rightLive rightAsks
  have same : row = twin := (settlement_holds agreed run).sound.conserved.requestUnique row
    (Table.mem_of_find? found) twin (Table.mem_of_find? twinFound)
    (rowClient.trans (client.trans twinClient.symm))
    (rowRequest.trans (request.trans twinRequest.symm))
  have operation : chat.operationId = other.operationId :=
    (Table.key_of_find? found).symm.trans (same ▸ Table.key_of_find? twinFound)
  exact distinct_of_reaches run _ _ _ _ _ _ leftFound rightFound leftLive rightLive operation

/-! ### Frames -/

/-- The chunk of an answered read. -/
def readChunk : Event backend → Option Bytes
  | .answered call answer =>
      match call, answer with
      | .streamNext _ _, .ok chunk => chunk
      | _, _ => none
  | _ => none

/-- The decoder fed with the chunks a history has read. -/
def decoded (parser : Parser) : List (Event backend) → OpenAIStreamDecoder
  | [] => .new
  | event :: earlier =>
      match readChunk event with
      | some chunk => ((decoded parser earlier).feed parser chunk).2
      | none => decoded parser earlier

theorem along_decoder (parser : Parser) (chat : ChatRequest) (history : List (Event backend)) :
    ((Account.start chat).along parser history).decoder = decoded parser history := by
  induction history with
  | nil => rfl
  | cons event earlier inductionHypothesis =>
      show (((Account.start chat).along parser earlier).after parser event).decoder = _
      unfold decoded
      rw [← inductionHypothesis]
      generalize (Account.start chat).along parser earlier = account
      cases event with
      | sent call => cases call <;> rfl
      | lost | emitted => rfl
      | answered call answer =>
          show (if _ then _ else _ : Account).decoder = _
          split
          · cases answer with
            | error failure =>
                cases call with
                | reserveCredit => cases failure <;> rfl
                | _ => rfl
            | ok answer =>
                cases call with
                | streamNext => cases answer <;> rfl
                | settleCredit =>
                    show (if _ then _ else _ : Account).decoder = _
                    split <;> rfl
                | _ => rfl
          · rename_i foreign
            cases call with
            | streamNext => exact absurd rfl foreign
            | _ => rfl

/-- A frame in the history of a live request was permitted by the account before it. -/
theorem permitsFrame_of_lawful {chat : ChatRequest} {later earlier : List (Event backend)}
    {frame : Frame}
    (lawful : Lawful deployment.settlement (.live (.start chat))
      (later ++ .emitted frame :: earlier)) :
    ((Account.start chat).along deployment.service.parser earlier).permitsFrame frame := by
  have permitted := lawful.earlier.1
  rw [standing_live] at permitted
  exact permitted

/-- `[DONE]` is yielded for a completed operation only, with the usage that its decoder
accepted, recorded in the ledger and charged by the credit service. -/
theorem done_is_settled (agreed : Agreed world)
    (run : Reaches deployment.behaviour condition ⟨world, [], []⟩ system) {process : ChatProcess}
    (member : process ∈ system.processes) {chat : ChatRequest} (live : chat ∈ process.role.chat?)
    {later earlier : List (Event backend)}
    (history : process.history = later ++ .emitted .done :: earlier) :
    ∃ usage row charged, (decoded deployment.service.parser earlier).usage = some usage ∧
      system.world.ledger.operations.find? chat.operationId = some row ∧
      row.status = .completed ∧ row.promptTokens = usage.promptTokens ∧
      row.completionTokens = usage.completionTokens ∧
      ConclusionStands system.world.credit chat.operationId
        (.succeeded usage.promptTokens usage.completionTokens charged) := by
  have lawful := lawful_of_live agreed run member live
  rw [history] at lawful
  obtain ⟨completed, usage, accepted, recorded⟩ := (permitsFrame_of_lawful lawful).2 rfl
  have split : process.history = (later ++ [.emitted .done]) ++ earlier := by simp [history]
  have knows := account_knows agreed run member live split
  obtain ⟨row, found, ended⟩ := knows.completed completed
  obtain ⟨same, sameFound, _, counted⟩ := knows.recorded _ recorded
  rw [Account.along_chat] at found sameFound
  obtain rfl := Option.some.inj (found.symm.trans sameFound)
  have tokens : row.promptTokens = usage.promptTokens ∧
      row.completionTokens = usage.completionTokens :=
    ⟨congrArg Prod.fst counted, congrArg Prod.snd counted⟩
  obtain ⟨charged, stands⟩ := (settlement_holds agreed run).sound.completed row
    (Table.mem_of_find? found) ended
  have keyed : row.id = chat.operationId := Table.key_of_find? found
  rw [tokens.1, tokens.2, keyed] at stands
  exact ⟨usage, row, charged, (along_decoder _ chat earlier) ▸ accepted, found, ended, tokens.1,
    tokens.2, stands⟩

/-- Nothing is yielded after `[DONE]` or an error. -/
theorem final_frame_is_last (agreed : Agreed world)
    (run : Reaches deployment.behaviour condition ⟨world, [], []⟩ system) {process : ChatProcess}
    (member : process ∈ system.processes) {chat : ChatRequest} (live : chat ∈ process.role.chat?)
    {frame : Frame} (final : frame.isFinal = true) {later earlier : List (Event backend)}
    (history : process.history = later ++ .emitted frame :: earlier) :
    ∀ other, .emitted other ∉ later := by
  intro other yielded
  obtain ⟨last, middle, rfl⟩ := List.append_of_mem yielded
  have lawful := lawful_of_live agreed run member live
  rw [history, List.append_assoc, List.cons_append] at lawful
  have unclosed := (permitsFrame_of_lawful lawful).1
  have closed : ((Account.start chat).along deployment.service.parser
      (.emitted frame :: earlier)).closed = true := by
    show (_ || frame.isFinal) = true
    rw [final, Bool.or_true]
  have still := ((Account.start chat).along_precedes deployment.service.parser middle
    (.emitted frame :: earlier)).closed closed
  rw [unclosed] at still
  cases still

end Runs

/-! ## A settled stream -/

/-- A chunk object with its usage. -/
def meteredText : String :=
  "\x7b\"object\":\"chat.completion.chunk\",\"id\":\"1\",\"model\":\"model\",\"choices\":[]," ++
    "\"usage\":\x7b\"prompt_tokens\":3,\"completion_tokens\":4,\"total_tokens\":7\x7d\x7d"

def meteredPayload : Json := .dict [("object", .str "chat.completion.chunk"), ("id", .str "1"),
  ("model", .str "model"), ("choices", .list []), ("usage", .dict [("prompt_tokens", .int 3),
    ("completion_tokens", .int 4), ("total_tokens", .int 7)])]

/-- A parser, as far as the sample stream goes. -/
def meteredParser : Parser where
  loads data := if data = ascii meteredText then some meteredPayload else none
  coerceInt
    | .int value => some value
    | _ => none

def meteredChunk : Bytes := ascii ("data: " ++ meteredText ++ "\n\ndata: [DONE]\n\n")

def streamingDeployment : Deployment :=
  { sampleDeployment with service := { sampleService with parser := meteredParser } }

/-- The sample host, with a provider that streams one chunk. -/
def streamingHost : Host backend World where
  reading := (streamingDeployment.host sampleHosting).reading
  answer
    | .streamNext _ _, world => (.ok (some meteredChunk), world)
    | call, world => (streamingDeployment.host sampleHosting).answer call world

theorem streamingHost_lawful (call : Call) (world : World) :
    streamingDeployment.behaviour.semantics world call (streamingHost.answer call world).1
      (streamingHost.answer call world).2 := by
  cases call with
  | streamNext => exact .passive rfl _
  | _ => exact host_lawful streamingDeployment sampleHosting _ world

def streamingChat : ChatRequest :=
  { uncappedChat with request := { uncappedChat.request with stream := true } }

@[irreducible] def streamingRun (count : Nat) : World × ChatProcess :=
  (Process.fresh (.stream streamingChat) (streamingDeployment.behaviour.program
    (.stream streamingChat))).interactions streamingHost (sampleWorld sampleUser) count

theorem streamingRun_reaches (count : Nat) :
    Reaches streamingDeployment.behaviour (fun _ _ => True) ⟨sampleWorld sampleUser, [], []⟩
      ⟨(streamingRun count).1, [(streamingRun count).2], []⟩ := by
  unfold streamingRun
  apply Process.interactions_reach streamingHost_lawful
  intro started member
  exact ⟨rfl, rfl, fun _ absent => by cases absent⟩

/-- What the sample stream shows. -/
inductive Sign where
  | asked
  | settled
  | done
  deriving DecidableEq

def signOf : Event backend → Option Sign
  | .sent (.streamNext _ _) => some .asked
  | .sent (.settleCredit operationId _ promptTokens completionTokens) =>
      if operationId = "operation" ∧ promptTokens = 3 ∧ completionTokens = 4 then some .settled
      else none
  | .emitted .done => some .done
  | _ => none

/-- The run of a stream that asks the provider, settles and ends with `[DONE]`. -/
structure Streamed (system : ChatSystem) (process : ChatProcess) : Prop where
  run : Reaches streamingDeployment.behaviour (fun _ _ => True) ⟨sampleWorld sampleUser, [], []⟩
    system
  found : system.processes[0]? = some process
  live : streamingChat ∈ process.role.chat?
  shows : ∀ sign ∈ [Sign.asked, .settled, .done], sign ∈ process.history.filterMap signOf

theorem streamed_of_alone {world : World} {process : ChatProcess}
    (run : Reaches streamingDeployment.behaviour (fun _ _ => True)
      ⟨sampleWorld sampleUser, [], []⟩ ⟨world, [process], []⟩)
    (outcome : streamingChat ∈ process.role.chat? ∧ ∀ sign ∈ [Sign.asked, .settled, .done],
      sign ∈ process.history.filterMap signOf) : Streamed ⟨world, [process], []⟩ process :=
  ⟨run, rfl, outcome.1, outcome.2⟩

theorem exists_streamed : ∃ system process, Streamed system process :=
  ⟨_, _, streamed_of_alone (streamingRun_reaches 36) (by decide +kernel)⟩

theorem asks_of_shown {process : ChatProcess} (shown : .asked ∈ process.history.filterMap signOf) :
    Asks process := by
  obtain ⟨event, member, sign⟩ := List.mem_filterMap.mp shown
  unfold signOf at sign
  split at sign
  · exact ⟨_, _, rfl, member⟩
  · split at sign <;> cases sign
  · cases sign
  · cases sign

theorem settled_of_shown {history : List (Event backend)}
    (shown : .settled ∈ history.filterMap signOf) : ∃ serviceUserId,
      Event.sent (Call.settleCredit "operation" serviceUserId 3 4) ∈ history := by
  obtain ⟨event, member, sign⟩ := List.mem_filterMap.mp shown
  unfold signOf at sign
  split at sign
  · cases sign
  · split at sign
    · rename_i operationId serviceUserId promptTokens completionTokens same
      obtain ⟨rfl, rfl, rfl⟩ := same
      exact ⟨serviceUserId, member⟩
    · cases sign
  · cases sign
  · cases sign

theorem done_of_shown {history : List (Event backend)} (shown : .done ∈ history.filterMap signOf) :
    ∃ later earlier, history = later ++ .emitted .done :: earlier := by
  obtain ⟨event, member, sign⟩ := List.mem_filterMap.mp shown
  unfold signOf at sign
  split at sign
  · cases sign
  · split at sign <;> cases sign
  · exact List.append_of_mem member
  · cases sign

theorem stores_agree_stream : ∃ system process, Streamed system process ∧ Agreed system.world := by
  obtain ⟨system, process, streamed⟩ := exists_streamed
  exact ⟨system, process, streamed, stores_agree (agreed_empty _) streamed.run⟩

theorem settlements_agree_stream : ∃ system process serviceUserId, Streamed system process ∧
    Event.sent (Call.settleCredit "operation" serviceUserId 3 4) ∈ process.history ∧
      UsageStands system.world.ledger "operation" (3, 4) := by
  obtain ⟨system, process, streamed⟩ := exists_streamed
  obtain ⟨serviceUserId, sent⟩ := settled_of_shown (streamed.shows _ (by simp))
  have member := List.mem_of_getElem? streamed.found
  exact ⟨system, process, serviceUserId, streamed, sent, (settlements_agree (agreed_empty _)
    streamed.run member member sent sent).2.2⟩

theorem forwarded_once_stream : ∃ system process, Streamed system process ∧ Asks process ∧
    process.history.countP isForward ≤ 1 := by
  obtain ⟨system, process, streamed⟩ := exists_streamed
  have asks := asks_of_shown (streamed.shows _ (by simp))
  exact ⟨system, process, streamed, asks, (forwarded_once (agreed_empty _) streamed.run
    streamed.found streamed.found streamed.live streamed.live rfl rfl asks asks).2⟩

theorem done_is_settled_stream : ∃ system process usage row charged, Streamed system process ∧
    system.world.ledger.operations.find? streamingChat.operationId = some row ∧
      row.status = .completed ∧ row.promptTokens = usage.promptTokens ∧
      row.completionTokens = ChatUsage.completionTokens usage ∧
      ConclusionStands system.world.credit streamingChat.operationId
        (.succeeded usage.promptTokens usage.completionTokens charged) := by
  obtain ⟨system, process, streamed⟩ := exists_streamed
  obtain ⟨later, earlier, history⟩ := done_of_shown (streamed.shows _ (by simp))
  obtain ⟨usage, row, charged, _, rest⟩ := done_is_settled (agreed_empty _) streamed.run
    (List.mem_of_getElem? streamed.found) streamed.live history
  exact ⟨system, process, usage, row, charged, streamed, rest⟩

theorem final_frame_is_last_stream : ∃ system process later earlier, Streamed system process ∧
    process.history = later ++ .emitted .done :: earlier ∧ ∀ other, .emitted other ∉ later := by
  obtain ⟨system, process, streamed⟩ := exists_streamed
  obtain ⟨later, earlier, history⟩ := done_of_shown (streamed.shows _ (by simp))
  exact ⟨system, process, later, earlier, streamed, history, final_frame_is_last (agreed_empty _)
    streamed.run (List.mem_of_getElem? streamed.found) streamed.live rfl history⟩

/-- The program is about to send the settlement of the sample stream. -/
def settlesNext (code : Program backend Unit) : Bool :=
  match code with
  | .await call _ => signOf (.sent call) = some .settled
  | _ => false

/-- A process about to send it does so in a step. -/
theorem sends_of_waits {world : World} {process : ChatProcess}
    (waits : settlesNext process.code = true ∧ process.sent = false) :
    ∃ (next : ChatSystem) (happening : Happening backend) (serviceUserId : String),
      Step streamingDeployment.behaviour ⟨world, [process], []⟩ (.moved 0 happening) next ∧
      Event.sent (Call.settleCredit "operation" serviceUserId 3 4) ∈ happening.events := by
  obtain ⟨settles, unsent⟩ := waits
  unfold settlesNext at settles
  split at settles
  · rename_i call continuation at_
    have shown : Sign.settled ∈ [Event.sent call].filterMap signOf :=
      List.mem_filterMap.mpr ⟨_, List.mem_singleton.mpr rfl, of_decide_eq_true settles⟩
    obtain ⟨serviceUserId, sent⟩ := settled_of_shown shown
    have found : (⟨world, [process], []⟩ : ChatSystem).processes[0]? = some process := rfl
    exact ⟨_, _, serviceUserId, Step.move found (Moves.send at_ unsent), sent⟩
  · cases settles

theorem settlement_is_written_ahead_stream : ∃ (system next : ChatSystem)
    (happening : Happening backend) (serviceUserId : String),
    Step streamingDeployment.behaviour system (.moved 0 happening) next ∧
    Event.sent (Call.settleCredit "operation" serviceUserId 3 4) ∈ happening.events ∧
    UsageStands system.world.ledger "operation" (3, 4) := by
  obtain ⟨next, happening, serviceUserId, step, sent⟩ := @sends_of_waits (streamingRun 26).1
    (streamingRun 26).2 (by decide +kernel)
  exact ⟨_, next, happening, serviceUserId, step, sent,
    settlement_is_written_ahead (agreed_empty _) (streamingRun_reaches 26) step sent⟩

end Zangpu.Services.Chat
