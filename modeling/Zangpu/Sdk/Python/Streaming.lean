import Zangpu.Sdk.Streaming

/-!
The event stream in the Python client.

Owns: `str.splitlines`, the loop of `stream_chat_completions` over the lines of the
response, and its outcome.

Does not own: the transport, which hands over the lines of the text decoded with
replacement.
-/

set_option autoImplicit false

namespace Zangpu.Sdk.Python

open Zangpu.Foundation
open Zangpu.Services.Streaming (Bytes Json)

/-- The characters that end a line for `str.splitlines`. -/
def isLineBreak (character : Char) : Bool :=
  [10, 11, 12, 13, 28, 29, 30, 133, 8232, 8233].contains character.toNat

/-- The lines of a text, with the line so far, reversed. -/
def splitlinesFrom : List Char → List Char → List (List Char)
  | line, [] => if line = [] then [] else [line.reverse]
  | line, '\r' :: '\n' :: rest => line.reverse :: splitlinesFrom [] rest
  | line, character :: rest =>
      if isLineBreak character then line.reverse :: splitlinesFrom [] rest
      else splitlinesFrom (character :: line) rest

def splitlines (text : List Char) : List (List Char) := splitlinesFrom [] text

/-- The value of a data line, without one leading space. -/
def dataValue (line : List Char) : List Char :=
  let value := line.drop 5
  if value.head? = some ' ' then value.drop 1 else value

def lineStep (parse : List Char → Option Json) (state : LineState) (line : List Char) :
    LineStep :=
  if line = [] then
    if state.dataLines = [] then .next state
    else dispatch parse state.dataLines
  else if line.head? = some ':' then
    if state.dataLines ≠ [] then .ended .protocolError else .next state
  else if line.take 5 ≠ "data:".toList then .ended .protocolError
  else
    let eventBytes := state.eventBytes + byteLength (dataValue line)
    if maxSseEventBytes < eventBytes then .ended .protocolError
    else .next ⟨state.dataLines ++ [dataValue line], eventBytes⟩

/-- The loop over the lines. Lines that run out before `[DONE]` are an error. -/
def readLines (parse : List Char → Option Json) : LineState → List (List Char) → StreamOutcome
  | _, [] => ([], .protocolError)
  | state, line :: rest =>
      match lineStep parse state line with
      | .next state => readLines parse state rest
      | .event data state =>
          let (events, ending) := readLines parse state rest
          (data :: events, ending)
      | .ended ending => ([], ending)

def streamChatCompletions (parse : List Char → Option Json) (chunks : List Bytes) :
    StreamOutcome :=
  readLines parse .new (splitlines (Utf8.decodeReplacing chunks.flatten))

end Zangpu.Sdk.Python
