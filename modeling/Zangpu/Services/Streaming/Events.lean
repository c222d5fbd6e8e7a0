import Zangpu.Services.Streaming.Chunking

/-!
The events of an accepted stream.

Owns: the event grammar of a list of lines; a sequence of feeds; what an event
must carry to be relayed and metered; and the agreement of every accepted
sequence of feeds with the grammar, event by event.

Does not own: the JSON parser, and what reads the relayed frames.
-/

set_option autoImplicit false

namespace Zangpu.Services.Streaming

namespace OpenAIStreamDecoder

/-! ## The event grammar -/

/-- The data of the events of some lines, and the data lines collected behind the
last of them. A line that is neither blank, a comment nor data has no reading. -/
def readLines : List Bytes → List Bytes → Option (List Bytes × List Bytes)
  | collected, [] => some ([], collected)
  | collected, line :: more =>
      let text := stripCarriageReturn line
      if maxSseLineBytes < text.length then none
      else if text = [] then
        if collected = [] then readLines [] more
        else (readLines [] more).map fun read =>
          (List.intercalate [newline] collected :: read.1, read.2)
      else if (ascii ":").isPrefixOf text then readLines collected more
      else if (ascii "data:").isPrefixOf text then
        readLines (collected ++ [dataValue text]) more
      else none

/-- The data of the event that ends a stream. -/
def doneMarker : Bytes := ascii "[DONE]"

/-- The frame of an event. -/
def relayed (data : Bytes) : Bytes := ascii "data: " ++ data ++ ascii "\n\n"

theorem sseDone_eq : sseDone = relayed doneMarker := by decide

theorem relayed_injective {left right : Bytes} (same : relayed left = relayed right) :
    left = right :=
  List.append_cancel_left (List.append_cancel_right same)

variable (parser : Parser)

/-- Feeds one after another, while none raises. -/
def feeds : OpenAIStreamDecoder → List Bytes →
    Except ProtocolError (List Bytes × OpenAIStreamDecoder)
  | decoder, [] => .ok ([], decoder)
  | decoder, chunk :: more =>
      match decoder.feed parser chunk with
      | (.error failure, _) => .error failure
      | (.ok frames, left) =>
          match feeds left more with
          | .error failure => .error failure
          | .ok (later, last) => .ok (frames ++ later, last)

/-- Event data is a chunk object without an error member, with this usage field. -/
structure IsChunk (data : Bytes) (usage : Json) : Prop where
  notDone : data ≠ doneMarker
  object : ∃ entries, parser.loads data = some (.dict entries) ∧
    Json.get entries "object" = .str "chat.completion.chunk" ∧
    entries.lookup "error" = none ∧ Json.get entries "usage" = usage

/-- The usage field of event data, null when there is none. -/
def usageField (data : Bytes) : Json :=
  match parser.loads data with
  | some (.dict entries) => Json.get entries "usage"
  | _ => .null

/-- Events that a decoder relays from one usage evidence to another: every event
is a chunk, and evidence comes from an event when there was none before. -/
inductive Metered : Option ChatUsage → List Bytes → Option ChatUsage → Prop where
  | nil (usage : Option ChatUsage) : Metered usage [] usage
  | silent {data : Bytes} {more : List Bytes} {before after : Option ChatUsage}
      (chunk : IsChunk parser data .null) (rest : Metered before more after) :
      Metered before (data :: more) after
  | counted {data : Bytes} {more : List Bytes} {payload : Json} {usage : ChatUsage}
      {after : Option ChatUsage} (chunk : IsChunk parser data payload) (present : payload ≠ .null)
      (valid : parser.validateUsage payload = some usage)
      (rest : Metered (some usage) more after) : Metered none (data :: more) after

/-! ## One line -/

section Lines

variable {parser}

theorem isChunk_of_chunkOf {data : Bytes} {entries : List (String × Json)} {choices : List Json}
    (other : data ≠ doneMarker)
    (read : (parser.loads data).bind chunkOf = some (entries, choices)) :
    IsChunk parser data (Json.get entries "usage") := by
  obtain ⟨payload, loaded, shaped⟩ := Option.bind_eq_some_iff.mp read
  cases payload with
  | dict members =>
      simp only [chunkOf, Option.bind_eq_bind, Option.bind_eq_some_iff] at shaped
      obtain ⟨list, _, checked⟩ := shaped
      split at checked
      · rename_i passes
        cases checked
        simp only [Bool.and_eq_true, Option.isNone_iff_eq_none] at passes
        obtain ⟨⟨⟨object, _⟩, _⟩, noError⟩ := passes
        refine ⟨other, entries, loaded, ?_, noError, rfl⟩
        cases named : Json.get entries "object" with
        | str text =>
            rw [named] at object
            rw [of_decide_eq_true object]
        | _ => rw [named] at object; cases object
      · cases checked
  | _ => cases shaped

/-- What a blank line relays of an open decoder with collected data. -/
theorem finishEvent_reads {decoder left : OpenAIStreamDecoder} {frame : Option Bytes}
    (open_ : decoder.done = false) (filled : decoder.dataLines ≠ [])
    (finished : decoder.finishEvent parser = (.ok frame, left)) :
    frame = some (relayed (List.intercalate [newline] decoder.dataLines)) ∧ left.dataLines = [] ∧
      ((left.done = true ∧ List.intercalate [newline] decoder.dataLines = doneMarker ∧
          left.usage = decoder.usage ∧ decoder.usage ≠ none) ∨
        (left.done = false ∧ Metered parser decoder.usage
          [List.intercalate [newline] decoder.dataLines] left.usage)) := by
  unfold finishEvent at finished
  rw [if_neg filled] at finished
  dsimp only at finished
  generalize List.intercalate [newline] decoder.dataLines = data at finished ⊢
  split at finished
  · rename_i marker
    split at finished
    · cases finished
    · rename_i metered
      cases finished
      rw [not_or] at metered
      exact ⟨by rw [marker]; exact congrArg some sseDone_eq, rfl,
        Or.inl ⟨rfl, marker, rfl, metered.2⟩⟩
  · rename_i other
    rw [open_] at finished
    simp only [Bool.false_eq_true, ↓reduceIte] at finished
    split at finished
    · cases finished
    · rename_i entries choices read
      have chunk := isChunk_of_chunkOf other read
      split at finished
      · rename_i absent
        split at finished
        · cases finished
        · cases finished
          rw [absent] at chunk
          exact ⟨rfl, rfl, Or.inr ⟨rfl, .silent chunk (.nil _)⟩⟩
      · rename_i present
        split at finished
        · rename_i usage valid none
          cases finished
          refine ⟨rfl, rfl, Or.inr ⟨rfl, ?_⟩⟩
          dsimp only at none ⊢
          rw [none]
          exact .counted chunk present valid (.nil _)
        · cases finished

/-- What the lines of an open decoder read and relay. -/
structure Reading (parser : Parser) (decoder : OpenAIStreamDecoder) (lines : List Bytes)
    (frames : List Bytes) (last : OpenAIStreamDecoder) (events : List Bytes) : Prop where
  read : readLines decoder.dataLines lines =
    some (if last.done then events ++ [doneMarker] else events, last.dataLines)
  frames : frames = events.map relayed ++ if last.done then [sseDone] else []
  metered : Metered parser decoder.usage events last.usage
  ended : last.done = true → last.usage ≠ none ∧ last.dataLines = []

/-- The lines behind the end read nothing. -/
theorem readLines_blank {lines : List Bytes}
    (blank : ∀ line ∈ lines, stripCarriageReturn line = []) : readLines [] lines = some ([], []) := by
  induction lines with
  | nil => rfl
  | cons line more inductionHypothesis =>
      rw [readLines, blank line List.mem_cons_self]
      exact inductionHypothesis fun other member => blank other (List.mem_cons_of_mem _ member)

/-- A line that does not raise: an event is dispatched, or a line is collected or
skipped. -/
theorem feedLine_reads {decoder left : OpenAIStreamDecoder} {line : Bytes}
    {frame : Option Bytes} (open_ : decoder.done = false)
    (fed : feedLine parser decoder line = (.ok frame, left)) :
    (frame = none ∧ left.done = false ∧ left.usage = decoder.usage ∧
        ∀ more, readLines decoder.dataLines (line :: more) = readLines left.dataLines more) ∨
      (∃ data, frame = some (relayed data) ∧ left.dataLines = [] ∧
        (∀ more, readLines decoder.dataLines (line :: more) =
          (readLines [] more).map fun read => (data :: read.1, read.2)) ∧
        ((left.done = true ∧ data = doneMarker ∧ left.usage = decoder.usage ∧
            decoder.usage ≠ none) ∨
          (left.done = false ∧ Metered parser decoder.usage [data] left.usage))) := by
  unfold feedLine at fed
  dsimp only at fed
  split at fed
  · cases fed
  · rename_i short
    split at fed
    · cases fed
    · split at fed
      · rename_i blank
        by_cases filled : decoder.dataLines = []
        · rw [finishEvent, if_pos filled] at fed
          cases fed
          refine Or.inl ⟨rfl, open_, rfl, fun more => ?_⟩
          rw [readLines]
          rw [if_neg short, if_pos blank, if_pos filled, filled]
        · obtain ⟨frameEq, cleared, outcome⟩ := finishEvent_reads open_ filled fed
          refine Or.inr ⟨_, frameEq, cleared, fun more => ?_, outcome⟩
          rw [readLines]
          rw [if_neg short, if_pos blank, if_neg filled]
      · rename_i text
        split at fed
        · rename_i comment
          cases fed
          refine Or.inl ⟨rfl, open_, rfl, fun more => ?_⟩
          rw [readLines]
          rw [if_neg short, if_neg text, if_pos comment]
        · rename_i comment
          split at fed
          · cases fed
          · rename_i field
            cases fed
            refine Or.inl ⟨rfl, open_, rfl, fun more => ?_⟩
            rw [readLines]
            rw [if_neg short, if_neg text, if_neg comment, if_pos (not_not.mp field)]

theorem Metered.append {before middle after : Option ChatUsage} {first second : List Bytes}
    (left : Metered parser before first middle) (right : Metered parser middle second after) :
    Metered parser before (first ++ second) after := by
  induction left with
  | nil => exact right
  | silent chunk _ inductionHypothesis => exact .silent chunk (inductionHypothesis right)
  | counted chunk present valid _ inductionHypothesis =>
      exact .counted chunk present valid (inductionHypothesis right)

theorem runLines_reads {lines : List Bytes} {decoder last : OpenAIStreamDecoder}
    {frames : List Bytes} (open_ : decoder.done = false)
    (ran : runLines parser lines decoder = .ok (frames, last)) :
    ∃ events, Reading parser decoder lines frames last events := by
  induction lines generalizing decoder frames with
  | nil =>
      cases ran
      exact ⟨[], by simp [open_, readLines], by simp [open_], .nil _, by simp [open_]⟩
  | cons line more inductionHypothesis =>
      rw [runLines] at ran
      rcases fed : feedLine parser decoder line with ⟨_ | frame, left⟩
      · rw [fed] at ran
        cases ran
      · rw [fed] at ran
        dsimp only at ran
        split at ran
        · cases ran
        · rename_i later final followed
          cases ran
          rcases feedLine_reads open_ fed with ⟨rfl, still, usage, reads⟩ |
            ⟨data, rfl, cleared, reads, ⟨done, marker, usage, metered⟩ | ⟨still, metered⟩⟩
          · obtain ⟨events, reading⟩ := inductionHypothesis still followed
            refine ⟨events, (reads more).trans reading.read, reading.frames, ?_, reading.ended⟩
            rw [← usage]
            exact reading.metered
          · -- Only blank lines are accepted behind the end.
            have behind := runLines_behind parser more done cleared
            have blank : ∀ line ∈ more, stripCarriageReturn line = [] := by
              by_contra text
              rw [behind.2 (by simpa using text)] at followed
              cases followed
            rw [behind.1 blank] at followed
            cases followed
            refine ⟨[], ?_, ?_, ?_, fun _ => ⟨usage ▸ metered, cleared⟩⟩
            · rw [reads more, readLines_blank blank, done, cleared, marker]
              rfl
            · rw [done, marker, ← sseDone_eq]
              rfl
            · rw [usage]
              exact .nil _
          · obtain ⟨events, reading⟩ := inductionHypothesis still followed
            refine ⟨data :: events, ?_, ?_, metered.append reading.metered, reading.ended⟩
            · have behind := reading.read
              rw [cleared] at behind
              rw [reads more, behind]
              cases last.done <;> rfl
            · rw [reading.frames]
              rfl

end Lines

/-! ## Feeds -/

section Feeds

variable {parser}

theorem runLines_append (first second : List Bytes) (decoder : OpenAIStreamDecoder) :
    runLines parser (first ++ second) decoder =
      match runLines parser first decoder with
      | .error failure => .error failure
      | .ok (frames, left) =>
          match runLines parser second left with
          | .error failure => .error failure
          | .ok (later, last) => .ok (frames ++ later, last) := by
  induction first generalizing decoder with
  | nil =>
      simp only [List.nil_append, runLines]
      cases runLines parser second decoder <;> rfl
  | cons line more inductionHypothesis =>
      rw [List.cons_append, runLines, runLines]
      rcases feedLine parser decoder line with ⟨_ | frame, left⟩
      · rfl
      · dsimp only
        rw [inductionHypothesis]
        cases runLines parser more left with
        | error failure => rfl
        | ok read =>
            dsimp only
            cases runLines parser second read.2 with
            | error failure => rfl
            | ok final =>
                dsimp only
                rw [List.append_assoc]

/-- Feeds that raise nothing run the complete lines of all their bytes. -/
theorem feeds_ok {chunks : List Bytes} {decoder last : OpenAIStreamDecoder} {frames : List Bytes}
    (unbroken : newline ∉ decoder.buffer)
    (fed : feeds parser decoder chunks = .ok (frames, last)) :
    ∃ left, runLines parser (completeLines (decoder.buffer ++ chunks.flatten)) decoder =
      .ok (frames, left) ∧ last.done = left.done ∧ last.usage = left.usage := by
  induction chunks generalizing decoder frames with
  | nil =>
      cases fed
      rw [List.flatten_nil, List.append_nil, completeLines_unterminated unbroken]
      exact ⟨_, rfl, rfl, rfl⟩
  | cons chunk more inductionHypothesis =>
      rw [feeds] at fed
      by_cases refused : chunk = [] ∨ decoder.done
      · rw [feed, if_pos refused] at fed
        cases fed
      · rw [not_or] at refused
        have one := feed_eq parser refused.1 (eq_false_of_ne_true refused.2)
        rw [List.flatten_cons, ← List.append_assoc, completeLines_append, runLines_append]
        split at one
        · rcases result : decoder.feed parser chunk with ⟨_ | batch, left⟩
          · rw [result] at fed
            cases fed
          · rw [result] at one
            cases one
        · cases ran : runLines parser (completeLines (decoder.buffer ++ chunk)) decoder with
          | error failure =>
              rw [ran] at one
              dsimp only at one
              rcases result : decoder.feed parser chunk with ⟨_ | batch, left⟩
              · rw [result] at fed
                cases fed
              · rw [result] at one
                cases one
          | ok read =>
              obtain ⟨batch, left⟩ := read
              rw [ran] at one
              dsimp only at one ⊢
              rw [one] at fed
              dsimp only at fed
              split at fed
              · cases fed
              · rename_i later final followed
                cases fed
                obtain ⟨behind, ranBehind, done, usage⟩ :=
                  inductionHypothesis (residual_unbroken _) followed
                have rebuffered := @runLines_withBuffer parser
                  (completeLines (residual (decoder.buffer ++ chunk) ++ more.flatten)) left
                  (residual (decoder.buffer ++ chunk))
                rw [show (left.withBuffer (residual (decoder.buffer ++ chunk))).buffer =
                  residual (decoder.buffer ++ chunk) from rfl] at ranBehind
                rw [rebuffered] at ranBehind
                cases unbuffered : runLines parser
                    (completeLines (residual (decoder.buffer ++ chunk) ++ more.flatten)) left with
                | error failure =>
                    rw [unbuffered] at ranBehind
                    cases ranBehind
                | ok read =>
                    rw [unbuffered] at ranBehind
                    cases ranBehind
                    exact ⟨_, rfl, done, usage⟩

end Feeds

/-! ## Metering -/

section Metering

variable {parser}

theorem usageField_eq {data : Bytes} {usage : Json} (chunk : IsChunk parser data usage) :
    usageField parser data = usage := by
  obtain ⟨entries, loaded, _, _, field⟩ := chunk.object
  rw [usageField, loaded]
  exact field

/-- The data of the events with a usage field. -/
def meteredEvents (parser : Parser) (events : List Bytes) : List Bytes :=
  events.filter fun data => !(usageField parser data).isNull

theorem Metered.kept {usage : ChatUsage} {events : List Bytes} {after : Option ChatUsage}
    (metered : Metered parser (some usage) events after) :
    meteredEvents parser events = [] ∧ after = some usage := by
  generalize had : some usage = before at metered
  induction metered with
  | nil => exact ⟨rfl, rfl⟩
  | silent chunk _ inductionHypothesis =>
      obtain ⟨none, same⟩ := inductionHypothesis had
      refine ⟨?_, same⟩
      rw [meteredEvents, List.filter_cons, usageField_eq chunk]
      exact none
  | counted => cases had

theorem Metered.once {events : List Bytes} {usage : ChatUsage}
    (metered : Metered parser none events (some usage)) :
    ∃ data, meteredEvents parser events = [data] ∧
      parser.validateUsage (usageField parser data) = some usage := by
  generalize had : (none : Option ChatUsage) = before at metered
  generalize got : some usage = after at metered
  induction metered with
  | nil =>
      rw [← had] at got
      cases got
  | silent chunk _ inductionHypothesis =>
      obtain ⟨data, single, valid⟩ := inductionHypothesis had got
      refine ⟨data, ?_, valid⟩
      rw [meteredEvents, List.filter_cons, usageField_eq chunk]
      exact single
  | @counted data more payload counted after chunk present valid rest =>
      rw [← got] at rest
      obtain ⟨none, same⟩ := rest.kept
      refine ⟨data, ?_, ?_⟩
      · rw [meteredEvents, List.filter_cons, usageField_eq chunk]
        cases payload with
        | null => exact absurd rfl present
        | _ => exact congrArg (List.cons data) none
      · rw [usageField_eq chunk, valid]
        exact same.symm.trans got

theorem Metered.chunks {before after : Option ChatUsage} {events : List Bytes}
    (metered : Metered parser before events after) :
    ∀ data ∈ events, IsChunk parser data (usageField parser data) := by
  induction metered with
  | nil => exact List.forall_mem_nil _
  | silent chunk _ inductionHypothesis =>
      refine List.forall_mem_cons.mpr ⟨?_, inductionHypothesis⟩
      rw [usageField_eq chunk]
      exact chunk
  | counted chunk _ _ _ inductionHypothesis =>
      refine List.forall_mem_cons.mpr ⟨?_, inductionHypothesis⟩
      rw [usageField_eq chunk]
      exact chunk

end Metering

/-- **The decoder accepts only complete, fully metered streams.** When a sequence
of feeds raises nothing and reaches the end, the lines of its bytes read as
events and the marker behind them, with nothing left; the frames are those of the
events in order and the DONE frame, once and last; every event is a chunk object
without an error member; and exactly one of them carries usage, the decoder's,
whose total is the sum of its parts. -/
theorem accepts_only_metered_streams (parser : Parser) (chunks frames : List Bytes)
    (last : OpenAIStreamDecoder) (fed : feeds parser new chunks = .ok (frames, last))
    (done : last.done = true) :
    ∃ events usage,
      readLines [] (completeLines chunks.flatten) = some (events ++ [doneMarker], []) ∧
      frames = events.map relayed ++ [sseDone] ∧ sseDone ∉ events.map relayed ∧
      (∀ data ∈ events, ∃ entries, parser.loads data = some (.dict entries) ∧
        Json.get entries "object" = .str "chat.completion.chunk" ∧
        entries.lookup "error" = none) ∧
      last.usage = some usage ∧
      usage.totalTokens = usage.promptTokens + usage.completionTokens ∧
      ∃ data, meteredEvents parser events = [data] ∧
        parser.validateUsage (usageField parser data) = some usage := by
  obtain ⟨left, ran, sameDone, sameUsage⟩ := feeds_ok List.not_mem_nil fed
  obtain ⟨events, reading⟩ := runLines_reads rfl ran
  rw [sameDone] at done
  obtain ⟨metered, cleared⟩ := reading.ended done
  obtain ⟨usage, evidence⟩ := Option.ne_none_iff_exists'.mp metered
  have read := reading.read
  have relays := reading.frames
  have events_metered := reading.metered
  rw [evidence] at events_metered
  rw [done, cleared] at read
  rw [done] at relays
  refine ⟨events, usage, read, relays, ?_, ?_, sameUsage.trans evidence, usage.totalMatches,
    events_metered.once⟩
  · intro member
    obtain ⟨data, dataMember, same⟩ := List.mem_map.mp member
    rw [sseDone_eq] at same
    exact (events_metered.chunks data dataMember).notDone (relayed_injective same)
  · intro data member
    obtain ⟨entries, loaded, object, noError, _⟩ := (events_metered.chunks data member).object
    exact ⟨entries, loaded, object, noError⟩

theorem accepts_only_metered_streams_sample :
    ∃ events, readLines [] (completeLines [endedStream].flatten) =
      some (events ++ [doneMarker], []) := by
  have fed : feeds usageParser new [endedStream] =
      .ok ([relayed usagePayload, sseDone],
        ⟨[], [], true, some ⟨1, 1, 2, by decide, by decide, by decide, by decide⟩⟩) := by
    decide +kernel
  obtain ⟨events, _, read, _⟩ := accepts_only_metered_streams usageParser [endedStream] _ _ fed rfl
  exact ⟨events, read⟩

end OpenAIStreamDecoder

end Zangpu.Services.Streaming
