import Zangpu.Services.Chat.Hosting
import Zangpu.Services.Chat.Reservations

/-!
What is forwarded to the provider.

Owns: the payload of a forwarded request, with and without a stream, and the cap on
output tokens it carries; and that every forwarded payload is backed by a
reservation of the input estimate and the admitted output, while it carries that
output as its cap for the requests that name one.

Does not own: the provider's own defaults.
-/

set_option autoImplicit false

namespace Zangpu.Services.Chat

open Zangpu.Foundation
open Zangpu.Api
open Zangpu.Models
open Zangpu.Services.Streaming

/-! ## Payloads -/

/-- The fields of a request that only its payload carries, as they are dumped; null
where they are absent. -/
structure Sampling where
  temperature : Json
  topP : Json
  stop : Json

def dumpMessage (message : ChatMessageRequest) : Json :=
  .dict [("role", .str message.role.text), ("content", .str message.content)]

def dumpTokens (tokens : Option Int) : Json := (tokens.map Json.int).getD .null

/-- `bifrost_payload`: the fields of the request in order, without the null ones. -/
def bifrostPayload (request : ChatCompletionRequest) (sampling : Sampling) :
    List (String × Json) :=
  [("model", .str request.model), ("messages", .list (request.messages.map dumpMessage)),
    ("stream", .bool request.stream), ("temperature", sampling.temperature),
    ("top_p", sampling.topP), ("max_tokens", dumpTokens request.maxTokens),
    ("max_completion_tokens", dumpTokens request.maxCompletionTokens),
    ("stop", sampling.stop)].filter fun entry => !entry.2.isNull

/-- `payload[key] = value`. -/
def setEntry (payload : List (String × Json)) (key : String) (value : Json) :
    List (String × Json) :=
  if payload.any fun entry => entry.1 = key then
    payload.map fun entry => if entry.1 = key then (key, value) else entry
  else payload ++ [(key, value)]

/-- The payload `stream_chat_completion` posts. -/
def streamPayload (payload : List (String × Json)) : List (String × Json) :=
  setEntry (setEntry payload "stream" (.bool true)) "stream_options"
    (.dict [("include_usage", .bool true)])

/-- The payload a call posts to the provider. -/
def Call.payload? (sampling : Sampling) : Call → Option (List (String × Json))
  | forwardChat request _ => some (bifrostPayload request sampling)
  | streamNext request _ => some (streamPayload (bifrostPayload request sampling))
  | _ => none

/-- The request behind a payload. -/
def Call.forwarded? : Call → Option ChatCompletionRequest
  | forwardChat request _ | streamNext request _ => some request
  | _ => none

/-! ## Output caps -/

def Json.int? : Json → Option Int
  | .int value => some value
  | _ => none

/-- The output cap a payload states: `max_tokens`, or else `max_completion_tokens`. -/
def outputCap (payload : List (String × Json)) : Option Int :=
  (Json.int? (Json.get payload "max_tokens")).or
    (Json.int? (Json.get payload "max_completion_tokens"))

theorem get_cons_self (key : String) (value : Json) (entries : List (String × Json)) :
    Json.get ((key, value) :: entries) key = value := by
  simp [Json.get]

theorem get_cons_of_ne {key other : String} (different : other ≠ key) (value : Json)
    (entries : List (String × Json)) :
    Json.get ((key, value) :: entries) other = Json.get entries other := by
  simp [Json.get, List.lookup_cons, beq_false_of_ne different]

theorem get_of_absent {key : String} {entries : List (String × Json)}
    (absent : key ∉ entries.map Prod.fst) : Json.get entries key = .null := by
  induction entries with
  | nil => rfl
  | cons entry rest inductionHypothesis =>
      rw [List.map_cons, List.mem_cons, not_or] at absent
      rw [← inductionHypothesis absent.2]
      exact get_cons_of_ne absent.1 _ _

/-- Leaving the null entries out changes no lookup. -/
theorem get_filter_isNull (key : String) {entries : List (String × Json)}
    (unique : (entries.map Prod.fst).Nodup) :
    Json.get (entries.filter fun entry => !entry.2.isNull) key = Json.get entries key := by
  induction entries with
  | nil => rfl
  | cons entry rest inductionHypothesis =>
      obtain ⟨name, value⟩ := entry
      obtain ⟨absent, unique⟩ := List.nodup_cons.mp unique
      have kept := inductionHypothesis unique
      rw [List.filter_cons]
      by_cases same : key = name
      · subst same
        rw [get_cons_self]
        cases value with
        | null => exact kept.trans (get_of_absent absent)
        | _ => exact get_cons_self _ _ _
      · rw [get_cons_of_ne same, ← kept]
        split
        · exact get_cons_of_ne same _ _
        · rfl

theorem get_setEntry_of_ne {key other : String} (different : other ≠ key) (value : Json)
    (payload : List (String × Json)) :
    Json.get (setEntry payload key value) other = Json.get payload other := by
  have appended : ∀ entries : List (String × Json),
      Json.get (entries ++ [(key, value)]) other = Json.get entries other := by
    intro entries
    induction entries with
    | nil => exact get_cons_of_ne different _ _
    | cons entry rest inductionHypothesis =>
        by_cases same : other = entry.1
        · subst same
          exact (get_cons_self _ _ _).trans (get_cons_self _ _ _).symm
        · exact (get_cons_of_ne same _ _).trans
            (inductionHypothesis.trans (get_cons_of_ne same _ _).symm)
  have replaced : ∀ entries : List (String × Json),
      Json.get (entries.map fun entry => if entry.1 = key then (key, value) else entry) other =
        Json.get entries other := by
    intro entries
    induction entries with
    | nil => rfl
    | cons entry rest inductionHypothesis =>
        obtain ⟨name, stored⟩ := entry
        rw [List.map_cons]
        by_cases named : name = key
        · rw [if_pos named, get_cons_of_ne different, inductionHypothesis,
            get_cons_of_ne (named ▸ different)]
        · rw [if_neg named]
          by_cases same : other = name
          · subst same
            rw [get_cons_self, get_cons_self]
          · rw [get_cons_of_ne same, get_cons_of_ne same, inductionHypothesis]
  unfold setEntry
  split
  · exact replaced payload
  · exact appended payload

theorem int?_dumpTokens (tokens : Option Int) : Json.int? (dumpTokens tokens) = tokens := by
  cases tokens <;> rfl

/-- A payload states the tokens that its request names. -/
theorem outputCap_bifrostPayload (request : ChatCompletionRequest) (sampling : Sampling) :
    outputCap (bifrostPayload request sampling) = request.requestedTokens := by
  unfold outputCap bifrostPayload
  rw [get_filter_isNull _ (by simp), get_filter_isNull _ (by simp)]
  show (Json.int? (dumpTokens request.maxTokens)).or
    (Json.int? (dumpTokens request.maxCompletionTokens)) = _
  rw [int?_dumpTokens, int?_dumpTokens]
  rfl

theorem outputCap_streamPayload (payload : List (String × Json)) :
    outputCap (streamPayload payload) = outputCap payload := by
  unfold outputCap streamPayload
  rw [get_setEntry_of_ne (by decide), get_setEntry_of_ne (by decide),
    get_setEntry_of_ne (by decide), get_setEntry_of_ne (by decide)]

theorem outputCap_of_payload {call : Call} {request : ChatCompletionRequest} {sampling : Sampling}
    {payload : List (String × Json)} (forwards : call.forwarded? = some request)
    (posts : call.payload? sampling = some payload) :
    outputCap payload = request.requestedTokens := by
  cases call with
  | forwardChat | streamNext =>
      cases forwards
      cases posts
      simp only [outputCap_streamPayload, outputCap_bifrostPayload]
  | _ => cases forwards

section History

variable {chat : ChatRequest}

/-- A policy becomes known by being loaded. -/
theorem policy_after {dialogue : Dialogue} {event : Event backend} {policy : CallerPolicy}
    (known : (dialogue.after chat event).policy = some policy) :
    dialogue.policy = some policy ∨
      ∃ caller now, event = .answered (.loadPolicy caller now) (.ok policy) := by
  cases event with
  | sent call => cases call <;> exact Or.inl known
  | lost | emitted => exact Or.inl known
  | answered call answer =>
      cases call with
      | loadPolicy caller now =>
          cases answer with
          | ok loaded =>
              obtain rfl := Option.some.inj known
              exact Or.inr ⟨caller, now, rfl⟩
          | error failure => exact Or.inl known
      | _ => exact Or.inl (by cases answer <;> exact known)

theorem policy_loaded {history : List (Event backend)} {policy : CallerPolicy}
    (known : (Dialogue.learnt chat history).policy = some policy) :
    ∃ caller now, .answered (.loadPolicy caller now) (.ok policy) ∈ history := by
  induction history with
  | nil => cases known
  | cons event earlier inductionHypothesis =>
      rcases policy_after known with known | ⟨caller, now, rfl⟩
      · obtain ⟨caller, now, member⟩ := inductionHypothesis known
        exact ⟨caller, now, List.mem_cons_of_mem _ member⟩
      · exact ⟨caller, now, List.mem_cons_self⟩

/-- The first reservation stays the reservation. -/
theorem reservation_kept {later earlier : List (Event backend)} {arguments : ReserveArguments}
    (reserved : (Dialogue.learnt chat earlier).reservation = some arguments) :
    (Dialogue.learnt chat (later ++ earlier)).reservation = some arguments := by
  induction later with
  | nil => exact reserved
  | cons event later inductionHypothesis =>
      rcases reservation_after chat (.learnt chat (later ++ earlier)) event with
        same | ⟨absent, _⟩
      · exact same.trans inductionHypothesis
      · rw [absent] at inductionHypothesis
        cases inductionHypothesis

end History

/-! ## Forwarded requests -/

section Forwarded

variable {deployment : Deployment} {condition : Condition backend Role Unit World} {world : World}
  {system : ChatSystem} {process : ChatProcess} {chat : ChatRequest} {call : Call}
  {request : ChatCompletionRequest}

/-- A request is forwarded as it came, under a loaded policy that admits its output,
with the estimate and that output reserved in the ledger. -/
theorem forwarded_is_covered
    (run : Reaches deployment.behaviour condition ⟨world, [], []⟩ system)
    (member : process ∈ system.processes) (live : chat ∈ process.role.chat?)
    (forwards : call.forwarded? = some request) (sent : Event.sent call ∈ process.history) :
    request = chat.request ∧ ∃ caller now policy admitted row,
      .answered (.loadPolicy caller now) (.ok policy) ∈ process.history ∧
      request.admittedOutputTokens policy.maxOutputTokensPerRequest
        deployment.service.globalMaxOutputTokens = .ok admitted ∧
      system.world.ledger.operations.find? chat.operationId = some row ∧
      row.reservedTokens = estimatePromptTokens request + admitted := by
  obtain ⟨later, earlier, history⟩ := List.append_of_mem sent
  have lawful := (conversation_disciplined run process member).lawful
  have knows := conversation_knows run member
  unfold Process.phase at knows
  rw [start_of_live live, history] at lawful knows
  rw [phase_live] at knows
  have permitted : deployment.conversation.permits (.live chat (.learnt chat earlier))
      (.sent call) := by
    rw [← phase_live deployment]
    exact lawful.earlier.1
  have tells : request = chat.request ∧
      (Dialogue.learnt chat earlier).Covered deployment.service chat := by
    cases call with
    | forwardChat | streamNext =>
        cases forwards
        exact permitted.2
    | _ => cases forwards
  obtain ⟨same, arguments, reserved, operation, policy, admitted, known, admits, tokens⟩ := tells
  obtain ⟨caller, now, loaded⟩ := policy_loaded known
  have reservedSent : (Dialogue.learnt chat (.sent call :: earlier)).reservation =
      some arguments := by
    cases call <;> exact reserved
  obtain ⟨row, found, reservedTokens⟩ := knows arguments (reservation_kept reservedSent)
  refine ⟨same, caller, now, policy, admitted, row, ?_, same ▸ admits, operation ▸ found, ?_⟩
  · rw [history]
    exact List.mem_append_right _ (List.mem_cons_of_mem _ loaded)
  · rw [reservedTokens, tokens, same]

/-- The output a request names is the output it is admitted with. -/
theorem admitted_eq_requested {clientLimit globalLimit admitted requested : Int}
    (admits : request.admittedOutputTokens clientLimit globalLimit = .ok admitted)
    (names : request.requestedTokens = some requested) : requested = admitted := by
  unfold ChatCompletionRequest.admittedOutputTokens at admits
  rw [names] at admits
  split at admits
  · cases admits
  · dsimp only at admits
    split at admits
    · cases admits
    · exact Except.ok.inj admits

/-- The payload of a forwarded request states the admitted output as its cap, with
the estimate and that output reserved, exactly for the requests that name a cap. -/
theorem forwarded_cap_iff_named {sampling : Sampling} {payload : List (String × Json)}
    (run : Reaches deployment.behaviour condition ⟨world, [], []⟩ system)
    (member : process ∈ system.processes) (live : chat ∈ process.role.chat?)
    (sent : Event.sent call ∈ process.history) (forwards : call.forwarded? = some request)
    (posts : call.payload? sampling = some payload) :
    ∃ caller now policy admitted row,
      .answered (.loadPolicy caller now) (.ok policy) ∈ process.history ∧
      chat.request.admittedOutputTokens policy.maxOutputTokensPerRequest
        deployment.service.globalMaxOutputTokens = .ok admitted ∧
      system.world.ledger.operations.find? chat.operationId = some row ∧
      ((outputCap payload = some admitted ∧
          row.reservedTokens = estimatePromptTokens chat.request + admitted) ↔
        chat.request.requestedTokens.isSome = true) := by
  obtain ⟨rfl, caller, now, policy, admitted, row, loaded, admits, found, reserved⟩ :=
    forwarded_is_covered run member live forwards sent
  refine ⟨caller, now, policy, admitted, row, loaded, admits, found, ?_⟩
  rw [outputCap_of_payload forwards posts]
  constructor
  · rintro ⟨states, _⟩
    rw [states]
    rfl
  · intro named
    obtain ⟨requested, names⟩ := Option.isSome_iff_exists.mp named
    rw [names, admitted_eq_requested admits names]
    exact ⟨rfl, reserved⟩

end Forwarded

/-! ### Two requests -/

def sampleUser : String := "12345678-1234-5678-1234-567812345678"

def plainSampling : Sampling := ⟨.null, .null, .null⟩

/-- The event forwards a request whose payload states the given cap. -/
def forwardsWithCap (cap : Option Int) : Event backend → Bool
  | .sent (.forwardChat request _) => outputCap (bifrostPayload request plainSampling) = cap
  | _ => false

theorem exists_forwardsWithCap {cap : Option Int} {history : List (Event backend)}
    (any : history.any (forwardsWithCap cap) = true) :
    ∃ request virtualKey, .sent (.forwardChat request virtualKey) ∈ history ∧
      outputCap (bifrostPayload request plainSampling) = cap := by
  obtain ⟨event, member, forwards⟩ := List.any_eq_true.mp any
  unfold forwardsWithCap at forwards
  split at forwards
  · rename_i request virtualKey
    exact ⟨request, virtualKey, member, of_decide_eq_true forwards⟩
  · cases forwards

/-- A request that names its cap. -/
def cappedChat : ChatRequest := sampleChat (some 16) (by simp)

/-- A request without a cap. -/
def uncappedChat : ChatRequest := sampleChat none uncapped_bounded

theorem forwarded_cap_iff_named_sample : ∃ (system : ChatSystem) (process : ChatProcess)
    (request : ChatCompletionRequest) (virtualKey : String) (admitted : Int)
    (row : ApiCallOperation),
    Reaches sampleDeployment.behaviour (fun _ _ => True) ⟨sampleWorld sampleUser, [], []⟩ system ∧
      process ∈ system.processes ∧
      .sent (.forwardChat request virtualKey) ∈ process.history ∧
      outputCap (bifrostPayload request plainSampling) = some admitted ∧
      system.world.ledger.operations.find? "operation" = some row ∧
      row.reservedTokens = estimatePromptTokens cappedChat.request + admitted := by
  have outcome : (sampleRun sampleUser cappedChat 30).2.history.any
        (forwardsWithCap (some 16)) = true ∧
      cappedChat ∈ (sampleRun sampleUser cappedChat 30).2.role.chat? := by decide +kernel
  obtain ⟨forwarded, role⟩ := outcome
  obtain ⟨request, virtualKey, sent, _⟩ := exists_forwardsWithCap forwarded
  obtain ⟨caller, now, policy, admitted, row, loaded, admits, found, covered⟩ :=
    forwarded_cap_iff_named (sampleRun_reaches sampleUser cappedChat 30)
      (List.mem_singleton.mpr rfl) role sent rfl (@rfl _ (some (bifrostPayload request
        plainSampling)))
  obtain ⟨states, reserved⟩ := covered.mpr rfl
  exact ⟨_, _, request, virtualKey, admitted, row, sampleRun_reaches sampleUser cappedChat 30,
    List.mem_singleton.mpr rfl, sent, states, found, reserved⟩

/-- A request without a cap is forwarded without one. -/
theorem forwarded_payload_uncapped :
    ¬∀ (system : ChatSystem) (process : ChatProcess) (call : Call) (sampling : Sampling)
      (payload : List (String × Json)),
      Reaches sampleDeployment.behaviour (fun _ _ => True) ⟨sampleWorld sampleUser, [], []⟩
        system → process ∈ system.processes → .sent call ∈ process.history →
      call.payload? sampling = some payload → (outputCap payload).isSome = true := by
  intro capped
  have forwarded : (sampleRun sampleUser uncappedChat 30).2.history.any
      (forwardsWithCap none) = true := by decide +kernel
  obtain ⟨request, virtualKey, sent, missing⟩ := exists_forwardsWithCap forwarded
  have states := capped _ _ (.forwardChat request virtualKey) plainSampling _
    (sampleRun_reaches sampleUser uncappedChat 30) (List.mem_singleton.mpr rfl) sent rfl
  rw [missing] at states
  cases states

end Zangpu.Services.Chat
