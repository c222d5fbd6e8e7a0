import Mathlib.Tactic.Common

/-!
The decoder of the upstream event stream.

Owns: the incremental line and event decoder `OpenAIStreamDecoder`, with what it
keeps when it raises; the usage evidence it accepts at most once; the frames it
relays.

Does not own: the JSON parser and the integer coercion of the validation
library, which are parameters; and the stream the bytes come from.
-/

set_option autoImplicit false

namespace Zangpu.Services.Streaming

abbrev Bytes := List UInt8

def ascii (text : String) : Bytes := text.toList.map fun character => UInt8.ofNat character.toNat

def maxSseLineBytes : Nat := 1048576

def sseDone : Bytes := ascii "data: [DONE]\n\n"

def newline : UInt8 := 10

/-! ## Payloads -/

inductive Json where
  | null
  | bool (value : Bool)
  | int (value : Int)
  | float (text : String)
  | str (value : String)
  | list (items : List Json)
  | dict (entries : List (String × Json))

namespace Json

/-- `payload.get(key)` of a dictionary, `None` when the key is missing. -/
def get (entries : List (String × Json)) (key : String) : Json :=
  (entries.lookup key).getD .null

/-- `is None`. -/
def isNull : Json → Bool
  | null => true
  | _ => false

end Json

/-- `json.loads` on bytes, `none` when it raises, and the lenient reading of an
integer field. -/
structure Parser where
  loads : Bytes → Option Json
  coerceInt : Json → Option Int

/-- `2**63 - 1`. -/
def usageMax : Int := 9223372036854775807

structure ChatUsage where
  promptTokens : Int
  completionTokens : Int
  totalTokens : Int
  promptNonnegative : 0 ≤ promptTokens
  completionNonnegative : 0 ≤ completionTokens
  totalBounded : totalTokens ≤ usageMax
  totalMatches : totalTokens = promptTokens + completionTokens
  deriving DecidableEq

/-- `ChatUsage.model_validate`. -/
def Parser.validateUsage (parser : Parser) : Json → Option ChatUsage
  | .dict entries => do
      let prompt ← parser.coerceInt (Json.get entries "prompt_tokens")
      let completion ← parser.coerceInt (Json.get entries "completion_tokens")
      let total ← parser.coerceInt (Json.get entries "total_tokens")
      if valid : 0 ≤ prompt ∧ 0 ≤ completion ∧ total ≤ usageMax ∧ total = prompt + completion then
        some ⟨prompt, completion, total, valid.1, valid.2.1, valid.2.2.1, valid.2.2.2⟩
      else none
  | _ => none

/-- A string field of a chunk and the bound on its length. -/
def boundedText (bound : Nat) : Json → Bool
  | .str value => 1 ≤ value.toList.length && value.toList.length ≤ bound
  | _ => false

/-- The choices of a chunk, when they are a list of at most 128. -/
def choicesOf : Json → Option (List Json)
  | .list items => if items.length ≤ 128 then some items else none
  | _ => none

def isChunkObject : Json → Bool
  | .str value => value = "chat.completion.chunk"
  | _ => false

/-- The entries of a payload that passes the shape checks, with its choices. -/
def chunkOf : Json → Option (List (String × Json) × List Json)
  | .dict entries => do
      let choices ← choicesOf (Json.get entries "choices")
      if isChunkObject (Json.get entries "object") && boundedText 128 (Json.get entries "id") &&
          boundedText 255 (Json.get entries "model") && (entries.lookup "error").isNone then
        some (entries, choices)
      else none
  | _ => none

/-! ## Decoder -/

structure OpenAIStreamDecoder where
  buffer : Bytes
  dataLines : List Bytes
  done : Bool
  usage : Option ChatUsage
  deriving DecidableEq

/-- `BifrostProtocolError`. -/
inductive ProtocolError where
  | bifrostProtocolError
  deriving DecidableEq, Repr

namespace OpenAIStreamDecoder

def new : OpenAIStreamDecoder := ⟨[], [], false, none⟩

/-- The lines of a buffer, each with the buffer behind it. -/
def lineBreaks : Bytes → Bytes → List (Bytes × Bytes)
  | _, [] => []
  | line, byte :: rest =>
      if byte = newline then (line.reverse, rest) :: lineBreaks [] rest
      else lineBreaks (byte :: line) rest

def stripCarriageReturn (line : Bytes) : Bytes :=
  if line.getLast? = some 13 then line.dropLast else line

/-- The value behind `data:`, without one leading space. -/
def dataValue (line : Bytes) : Bytes :=
  match line.drop 5 with
  | 32 :: value => value
  | value => value

variable (parser : Parser)

/-- `_finish_event`: relay the collected event, or raise. -/
def finishEvent (decoder : OpenAIStreamDecoder) :
    Except ProtocolError (Option Bytes) × OpenAIStreamDecoder :=
  if decoder.dataLines = [] then (.ok none, decoder)
  else
    let data := List.intercalate [newline] decoder.dataLines
    let cleared := { decoder with dataLines := [] }
    if data = ascii "[DONE]" then
      if cleared.done ∨ cleared.usage = none then (.error .bifrostProtocolError, cleared)
      else (.ok (some sseDone), { cleared with done := true })
    else if cleared.done then (.error .bifrostProtocolError, cleared)
    else
      match (parser.loads data).bind chunkOf with
      | none => (.error .bifrostProtocolError, cleared)
      | some (entries, choices) =>
          let frame := ascii "data: " ++ data ++ ascii "\n\n"
          match Json.get entries "usage" with
          | .null =>
              if choices = [] then (.error .bifrostProtocolError, cleared)
              else (.ok (some frame), cleared)
          | usagePayload =>
              match parser.validateUsage usagePayload, cleared.usage with
              | some usage, none => (.ok (some frame), { cleared with usage := some usage })
              | _, _ => (.error .bifrostProtocolError, cleared)

/-- One line of the stream. -/
def feedLine (decoder : OpenAIStreamDecoder) (line : Bytes) :
    Except ProtocolError (Option Bytes) × OpenAIStreamDecoder :=
  let line := stripCarriageReturn line
  if maxSseLineBytes < line.length then (.error .bifrostProtocolError, decoder)
  else if decoder.done ∧ line ≠ [] then (.error .bifrostProtocolError, decoder)
  else if line = [] then decoder.finishEvent parser
  else if (ascii ":").isPrefixOf line then (.ok none, decoder)
  else if ¬ (ascii "data:").isPrefixOf line then (.error .bifrostProtocolError, decoder)
  else (.ok none, { decoder with dataLines := decoder.dataLines ++ [dataValue line] })

/-- The lines of one chunk in order; the frames they complete. -/
def feedLines : List (Bytes × Bytes) → OpenAIStreamDecoder →
    Except ProtocolError (List Bytes) × OpenAIStreamDecoder
  | [], decoder => (.ok [], decoder)
  | (line, rest) :: more, decoder =>
      match feedLine parser { decoder with buffer := rest } line with
      | (.error failure, left) => (.error failure, left)
      | (.ok frame, left) =>
          match feedLines more left with
          | (.error failure, last) => (.error failure, last)
          | (.ok frames, last) => (.ok (frame.toList ++ frames), last)

def feed (decoder : OpenAIStreamDecoder) (chunk : Bytes) :
    Except ProtocolError (List Bytes) × OpenAIStreamDecoder :=
  if chunk = [] ∨ decoder.done then (.error .bifrostProtocolError, decoder)
  else
    let filled := { decoder with buffer := decoder.buffer ++ chunk }
    if maxSseLineBytes < filled.buffer.length ∧ newline ∉ filled.buffer then
      (.error .bifrostProtocolError, filled)
    else feedLines parser (lineBreaks [] filled.buffer) filled

def finish (decoder : OpenAIStreamDecoder) : Except ProtocolError Unit :=
  if decoder.buffer ≠ [] ∨ decoder.dataLines ≠ [] ∨ ¬ decoder.done ∨ decoder.usage = none then
    .error .bifrostProtocolError
  else .ok ()

/-! ## What decoding keeps -/

variable {parser}

/-- Usage evidence, once accepted, stays. -/
def Keeps (before after : OpenAIStreamDecoder) : Prop :=
  ∀ usage, before.usage = some usage → after.usage = some usage

theorem Keeps.trans {first second third : OpenAIStreamDecoder} (left : Keeps first second)
    (right : Keeps second third) : Keeps first third :=
  fun usage had => right usage (left usage had)

theorem finishEvent_keeps (decoder : OpenAIStreamDecoder) :
    Keeps decoder (decoder.finishEvent parser).2 := by
  intro usage had
  unfold finishEvent
  dsimp only
  repeat' split
  all_goals first | exact had | simp_all

theorem feedLine_keeps (decoder : OpenAIStreamDecoder) (line : Bytes) :
    Keeps decoder (feedLine parser decoder line).2 := by
  intro usage had
  unfold feedLine
  dsimp only
  repeat' split
  all_goals first | exact had | exact finishEvent_keeps decoder usage had

theorem feedLines_keeps (lines : List (Bytes × Bytes)) (decoder : OpenAIStreamDecoder) :
    Keeps decoder (feedLines parser lines decoder).2 := by
  induction lines generalizing decoder with
  | nil => exact fun _ had => had
  | cons head tail inductionHypothesis =>
      obtain ⟨line, rest⟩ := head
      have first : Keeps decoder (feedLine parser { decoder with buffer := rest } line).2 :=
        fun usage had => feedLine_keeps { decoder with buffer := rest } line usage had
      unfold feedLines
      split
      · rename_i failure left fed
        rw [fed] at first
        exact first
      · rename_i frame left fed
        rw [fed] at first
        have rest := first.trans (inductionHypothesis left)
        split
        · rename_i failure last more
          rw [more] at rest
          exact rest
        · rename_i frames last more
          rw [more] at rest
          exact rest

/-- Feeding a chunk never drops accepted usage, whether it raises or not. -/
theorem feed_keeps (decoder : OpenAIStreamDecoder) (chunk : Bytes) :
    Keeps decoder (feed parser decoder chunk).2 := by
  unfold feed
  split
  · exact fun _ had => had
  · simp only
    split
    · exact fun _ had => had
    · exact fun usage had => feedLines_keeps _ _ usage had

end OpenAIStreamDecoder

end Zangpu.Services.Streaming
