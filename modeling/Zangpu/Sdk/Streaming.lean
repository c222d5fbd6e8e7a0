import Mathlib.Algebra.GroupWithZero.Nat
import Zangpu.Foundation.Utf8
import Zangpu.Services.Streaming

/-!
What both stream clients share.

Owns: the size limit of one event, what an event text says, how an iteration ends,
and what one line does to a client.

Does not own: the JSON parser, which is a parameter; the request, the status and the
headers of the response, which are checked before its body is read; and the contents
of the API error, which both clients build from the event.
-/

set_option autoImplicit false

namespace Zangpu.Sdk

open Zangpu.Foundation
open Zangpu.Services.Streaming (Bytes Json)

/-- `MAX_SSE_EVENT_BYTES`. -/
def maxSseEventBytes : Nat := 1024 * 1024

/-- The length of a text in UTF-8. -/
def byteLength (text : List Char) : Nat := (Utf8.encode text).length

/-- What an event text says. -/
inductive EventReading where
  | done
  | event (data : Json)
  | apiError (data : Json)
  | malformed

/-- `[DONE]`, or a JSON object, which is an error when it has the key `error`. -/
def readEvent (parse : List Char → Option Json) (eventText : List Char) : EventReading :=
  if eventText = "[DONE]".toList then .done
  else
    match parse eventText with
    | some (.dict entries) =>
        if (entries.lookup "error").isSome then .apiError (.dict entries)
        else .event (.dict entries)
    | _ => .malformed

/-- How an iteration ends: after `[DONE]`, with the API error of an event, or with a
protocol error. -/
inductive StreamEnding where
  | done
  | apiError (data : Json)
  | protocolError

/-- What a client keeps between lines. -/
structure LineState where
  dataLines : List (List Char)
  eventBytes : Nat
  deriving DecidableEq

def LineState.new : LineState := ⟨[], 0⟩

/-- What one line does: nothing more, an event, or an end. -/
inductive LineStep where
  | next (state : LineState)
  | event (data : Json) (state : LineState)
  | ended (ending : StreamEnding)

/-- The blank line behind some data lines. -/
def dispatch (parse : List Char → Option Json) (dataLines : List (List Char)) : LineStep :=
  match readEvent parse (['\n'].intercalate dataLines) with
  | .done => .ended .done
  | .event data => .event data .new
  | .apiError data => .ended (.apiError data)
  | .malformed => .ended .protocolError

/-- The events delivered and the ending. -/
abbrev StreamOutcome := List Json × StreamEnding

end Zangpu.Sdk
