import Zangpu.Sdk.Streaming

/-!
The event stream in the JavaScript client.

Owns: the `TextDecoder` of the body, the loop of `streamChatCompletions` over its
chunks and the lines of its buffer, and its outcome.

Does not own: the reader that hands over the chunks. A decoded text holds no lone
surrogates, so its code units are read as characters.
-/

set_option autoImplicit false

namespace Zangpu.Sdk.JavaScript

open Zangpu.Foundation
open Zangpu.Services.Streaming (Bytes Json)

/-- `new TextDecoder("utf-8", { fatal: true })`: the bytes of a truncated character,
and whether the byte order mark can no longer come. -/
structure TextDecoder where
  pending : Bytes
  bomSeen : Bool
  deriving DecidableEq

def TextDecoder.new : TextDecoder := ⟨[], false⟩

def byteOrderMark : Char := Char.ofNat 0xfeff

/-- `decode(chunk, { stream: true })`, `none` when it throws. -/
def TextDecoder.decode (decoder : TextDecoder) (chunk : Bytes) :
    Option (List Char × TextDecoder) :=
  match Utf8.decodePiece (decoder.pending ++ chunk) with
  | none => none
  | some (text, pending) =>
      if decoder.bomSeen = false ∧ text.head? = some byteOrderMark then
        some (text.drop 1, ⟨pending, true⟩)
      else some (text, ⟨pending, decoder.bomSeen || text ≠ []⟩)

/-- A line without one trailing carriage return. -/
def stripReturn (rawLine : List Char) : List Char :=
  if rawLine.getLast? = some '\r' then rawLine.dropLast else rawLine

/-- The value of a data line. -/
def dataValue (line : List Char) : List Char :=
  if line.take 6 = "data: ".toList then line.drop 6 else line.drop 5

def lineStep (parse : List Char → Option Json) (state : LineState) (rawLine : List Char) :
    LineStep :=
  let rawLineBytes := byteLength rawLine + 1
  let line := stripReturn rawLine
  if maxSseEventBytes < rawLineBytes then .ended .protocolError
  else if line = [] then
    if state.dataLines = [] then .next ⟨[], 0⟩
    else dispatch parse state.dataLines
  else if line.head? = some ':' then
    if state.dataLines ≠ [] then .ended .protocolError else .next state
  else if line.take 5 ≠ "data:".toList then .ended .protocolError
  else
    let eventBytes := state.eventBytes + rawLineBytes
    if maxSseEventBytes < eventBytes then .ended .protocolError
    else .next ⟨state.dataLines ++ [dataValue line], eventBytes⟩

/-- Where the loop over the lines of the buffer stops: short of a line break, or at an
end with the rest of the buffer. -/
inductive Drained where
  | waiting (state : LineState) (buffer : List Char)
  | ended (ending : StreamEnding) (buffer : List Char)

/-- The loop over the lines of the buffer, given as its pieces between line breaks. -/
def drain (parse : List Char → Option Json) : LineState → List (List Char) → List Json × Drained
  | state, [] => ([], .waiting state [])
  | state, [buffer] => ([], .waiting state buffer)
  | state, rawLine :: next :: rest =>
      match lineStep parse state rawLine with
      | .next state => drain parse state (next :: rest)
      | .event data state =>
          let (events, drained) := drain parse state (next :: rest)
          (data :: events, drained)
      | .ended ending => ([], .ended ending (['\n'].intercalate (next :: rest)))

/-- The end after `[DONE]` wants an empty buffer. -/
def finish (ending : StreamEnding) (buffer : List Char) : StreamEnding :=
  match ending with
  | .done => if buffer = [] then .done else .protocolError
  | other => other

/-- The loop over the chunks. A body that runs out ends short of `[DONE]`, whatever is
left in the decoder and in the buffer. -/
def readChunks (parse : List Char → Option Json) :
    TextDecoder → LineState → List Char → List Bytes → StreamOutcome
  | _, _, _, [] => ([], .protocolError)
  | decoder, state, buffer, chunk :: rest =>
      match decoder.decode chunk with
      | none => ([], .protocolError)
      | some (text, decoder) =>
          match drain parse state ((buffer ++ text).splitOn '\n') with
          | (events, .ended ending buffer) => (events, finish ending buffer)
          | (events, .waiting state buffer) =>
              if maxSseEventBytes < byteLength buffer then (events, .protocolError)
              else
                let (later, ending) := readChunks parse decoder state buffer rest
                (events ++ later, ending)

def streamChatCompletions (parse : List Char → Option Json) (chunks : List Bytes) :
    StreamOutcome :=
  readChunks parse .new .new [] chunks

end Zangpu.Sdk.JavaScript
