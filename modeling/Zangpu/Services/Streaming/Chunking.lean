import Zangpu.Services.Streaming

/-!
The stream decoder under different divisions of its input into chunks.

Owns: the complete lines and the rest of a byte string, and how both compose;
the decoder loop of `_stream_response` over a list of chunks; and the exact byte
strings on which that loop does not depend on the division.

Does not own: what the loop does with a frame, and where the chunks come from.
-/

set_option autoImplicit false

namespace Zangpu.Services.Streaming

namespace OpenAIStreamDecoder

/-! ## Lines -/

/-- The lines of a byte string that end in a newline. -/
def completeLines (bytes : Bytes) : List Bytes := (lineBreaks [] bytes).map Prod.fst

/-- What follows the last newline. -/
def residual (bytes : Bytes) : Bytes :=
  match (lineBreaks [] bytes).getLast? with
  | some (_, rest) => rest
  | none => bytes

theorem lineBreaks_partial {line : Bytes} (read : Bytes) (unbroken : newline ∉ line) :
    lineBreaks read line = [] := by
  induction line generalizing read with
  | nil => rfl
  | cons byte rest inductionHypothesis =>
      rw [List.mem_cons, not_or] at unbroken
      rw [lineBreaks, if_neg (fun same => unbroken.1 same.symm)]
      exact inductionHypothesis _ unbroken.2

theorem lineBreaks_line {line : Bytes} (read rest : Bytes) (unbroken : newline ∉ line) :
    lineBreaks read (line ++ newline :: rest) =
      (read.reverse ++ line, rest) :: lineBreaks [] rest := by
  induction line generalizing read with
  | nil => simp [lineBreaks]
  | cons byte more inductionHypothesis =>
      rw [List.mem_cons, not_or] at unbroken
      rw [List.cons_append, lineBreaks, if_neg (fun same => unbroken.1 same.symm),
        inductionHypothesis _ unbroken.2]
      simp

/-- A byte string is a partial line, or a line and what follows it. -/
theorem linesInduction {motive : Bytes → Prop}
    (partialLine : ∀ line, newline ∉ line → motive line)
    (completeLine : ∀ line rest, newline ∉ line → motive rest →
      motive (line ++ newline :: rest)) (bytes : Bytes) : motive bytes := by
  induction size : bytes.length using Nat.strongRecOn generalizing bytes with
  | _ bound inductionHypothesis =>
      by_cases broken : newline ∈ bytes
      · obtain ⟨line, rest, rfl, unbroken⟩ := List.eq_append_cons_of_mem broken
        have shorter : rest.length < bound := by
          rw [← size, List.length_append, List.length_cons]
          omega
        exact completeLine line rest unbroken (inductionHypothesis _ shorter rest rfl)
      · exact partialLine bytes broken

theorem completeLines_unterminated {line : Bytes} (unbroken : newline ∉ line) :
    completeLines line = [] := by
  rw [completeLines, lineBreaks_partial [] unbroken, List.map_nil]

theorem completeLines_line {line : Bytes} (rest : Bytes) (unbroken : newline ∉ line) :
    completeLines (line ++ newline :: rest) = line :: completeLines rest := by
  rw [completeLines, lineBreaks_line [] rest unbroken, List.map_cons]
  rfl

theorem residual_unterminated {line : Bytes} (unbroken : newline ∉ line) : residual line = line := by
  rw [residual, lineBreaks_partial [] unbroken]
  rfl

theorem residual_line {line : Bytes} (rest : Bytes) (unbroken : newline ∉ line) :
    residual (line ++ newline :: rest) = residual rest := by
  rw [residual, lineBreaks_line [] rest unbroken, List.getLast?_cons, residual]
  cases (lineBreaks [] rest).getLast? <;> rfl

theorem residual_unbroken (bytes : Bytes) : newline ∉ residual bytes := by
  induction bytes using linesInduction with
  | partialLine line unbroken => rwa [residual_unterminated unbroken]
  | completeLine line rest unbroken inductionHypothesis => rwa [residual_line rest unbroken]

/-- The lines of a byte string and of what follows it. -/
theorem completeLines_append (bytes more : Bytes) :
    completeLines (bytes ++ more) = completeLines bytes ++ completeLines (residual bytes ++ more) := by
  induction bytes using linesInduction with
  | partialLine line unbroken =>
      rw [completeLines_unterminated unbroken, residual_unterminated unbroken, List.nil_append]
  | completeLine line rest unbroken inductionHypothesis =>
      rw [List.append_assoc, List.cons_append, completeLines_line _ unbroken,
        completeLines_line _ unbroken, residual_line _ unbroken, inductionHypothesis,
        List.cons_append]

/-! ## Lines without chunks -/

section Runs

variable (parser : Parser)

/-- The decoder with another buffer. -/
def withBuffer (decoder : OpenAIStreamDecoder) (buffer : Bytes) : OpenAIStreamDecoder :=
  { decoder with buffer := buffer }

/-- Lines one after another, whatever is buffered behind them. -/
def runLines : List Bytes → OpenAIStreamDecoder →
    Except ProtocolError (List Bytes × OpenAIStreamDecoder)
  | [], decoder => .ok ([], decoder)
  | line :: more, decoder =>
      match feedLine parser decoder line with
      | (.error failure, _) => .error failure
      | (.ok frame, left) =>
          match runLines more left with
          | .error failure => .error failure
          | .ok (frames, last) => .ok (frame.toList ++ frames, last)

variable {parser}

variable (parser) in
theorem finishEvent_withBuffer (decoder : OpenAIStreamDecoder) (buffer : Bytes) :
    (decoder.withBuffer buffer).finishEvent parser =
      ((decoder.finishEvent parser).1, (decoder.finishEvent parser).2.withBuffer buffer) := by
  unfold finishEvent withBuffer
  dsimp only
  repeat' split
  all_goals rfl

theorem feedLine_withBuffer (decoder : OpenAIStreamDecoder) (buffer line : Bytes) :
    feedLine parser (decoder.withBuffer buffer) line =
      ((feedLine parser decoder line).1, (feedLine parser decoder line).2.withBuffer buffer) := by
  have finished := finishEvent_withBuffer parser decoder buffer
  unfold feedLine
  dsimp only
  rw [finished]
  unfold withBuffer
  dsimp only
  repeat' split
  all_goals rfl

theorem runLines_withBuffer (lines : List Bytes) (decoder : OpenAIStreamDecoder)
    (buffer : Bytes) :
    runLines parser lines (decoder.withBuffer buffer) =
      (runLines parser lines decoder).map fun read => (read.1, read.2.withBuffer buffer) := by
  induction lines generalizing decoder with
  | nil => rfl
  | cons line more inductionHypothesis =>
      rw [runLines, runLines, feedLine_withBuffer]
      rcases feedLine parser decoder line with ⟨_ | frame, left⟩
      · rfl
      · dsimp only
        rw [inductionHypothesis]
        cases runLines parser more left <;> rfl

/-- Feeding the lines of a buffer is feeding its complete lines. -/
theorem feedLines_eq (bytes : Bytes) (decoder : OpenAIStreamDecoder) :
    match runLines parser (completeLines bytes) decoder with
    | .error failure => (feedLines parser (lineBreaks [] bytes) (decoder.withBuffer bytes)).1 =
        .error failure
    | .ok (frames, last) => feedLines parser (lineBreaks [] bytes) (decoder.withBuffer bytes) =
        (.ok frames, last.withBuffer (residual bytes)) := by
  induction bytes using linesInduction generalizing decoder with
  | partialLine line unbroken =>
      rw [completeLines_unterminated unbroken, lineBreaks_partial [] unbroken,
        residual_unterminated unbroken]
      rfl
  | completeLine line rest unbroken inductionHypothesis =>
      rw [completeLines_line rest unbroken, lineBreaks_line [] rest unbroken,
        residual_line rest unbroken, runLines, feedLines]
      have rebuffered : feedLine parser
          { decoder.withBuffer (line ++ newline :: rest) with buffer := rest } line =
          ((feedLine parser decoder line).1,
            (feedLine parser decoder line).2.withBuffer rest) :=
        feedLine_withBuffer decoder rest line
      rw [List.reverse_nil, List.nil_append, rebuffered]
      rcases feedLine parser decoder line with ⟨_ | frame, left⟩
      · rfl
      · have followed := inductionHypothesis left
        dsimp only at followed ⊢
        cases ran : runLines parser (completeLines rest) left with
        | error failure =>
            rw [ran] at followed
            dsimp only at followed ⊢
            rcases fed : feedLines parser (lineBreaks [] rest) (left.withBuffer rest) with
              ⟨_ | frames, last⟩
            · rfl
            · rw [fed] at followed
              cases followed
        | ok read =>
            rw [ran] at followed
            dsimp only at followed ⊢
            rw [followed]

/-- The partial line is too long before its end is seen. -/
def Overflows (buffered : Bytes) : Prop :=
  maxSseLineBytes < buffered.length ∧ newline ∉ buffered

instance (buffered : Bytes) : Decidable (Overflows buffered) :=
  inferInstanceAs (Decidable (_ ∧ _))

variable (parser) in
/-- Feeding one chunk, by the lines it completes. -/
theorem feed_eq {decoder : OpenAIStreamDecoder} {chunk : Bytes} (filled : chunk ≠ [])
    (open_ : decoder.done = false) :
    if Overflows (decoder.buffer ++ chunk) then
      (decoder.feed parser chunk).1 = .error .bifrostProtocolError
    else
      match runLines parser (completeLines (decoder.buffer ++ chunk)) decoder with
      | .error failure => (decoder.feed parser chunk).1 = .error failure
      | .ok (frames, last) => decoder.feed parser chunk =
          (.ok frames, last.withBuffer (residual (decoder.buffer ++ chunk))) := by
  have accepted : ¬(chunk = [] ∨ decoder.done = true) := by simp [filled, open_]
  unfold feed Overflows
  rw [if_neg accepted]
  dsimp only
  split
  · rfl
  · exact feedLines_eq (decoder.buffer ++ chunk) decoder

/-! ## The end of a stream -/

/-- The lines up to and with the one that ends the stream, what they leave, and
the lines behind. -/
structure Ending where
  before : List Bytes
  frames : List Bytes
  decoder : OpenAIStreamDecoder
  after : List Bytes

variable (parser) in
/-- Where the lines end the stream, if they do before the decoder raises. -/
def ending? : OpenAIStreamDecoder → List Bytes → Option Ending
  | _, [] => none
  | decoder, line :: more =>
      match feedLine parser decoder line with
      | (.error _, _) => none
      | (.ok frame, left) =>
          if left.done then some ⟨[line], frame.toList, left, more⟩
          else (ending? left more).map fun ending =>
            { ending with before := line :: ending.before, frames := frame.toList ++ ending.frames }

/-- What a line that does not raise leaves of an open decoder: it stays open and
yields no DONE frame, or it ends the stream with one. -/
inductive LineEffect (decoder : OpenAIStreamDecoder) (line : Bytes) :
    Option Bytes × OpenAIStreamDecoder → Prop where
  | quiet {left : OpenAIStreamDecoder} (open_ : left.done = false) :
      LineEffect decoder line (none, left)
  | relayed {frame : Bytes} {left : OpenAIStreamDecoder} (open_ : left.done = false)
      (data : frame ≠ sseDone) : LineEffect decoder line (some frame, left)
  | ended {left : OpenAIStreamDecoder} (done : left.done = true) (cleared : left.dataLines = []) :
      LineEffect decoder line (some sseDone, left)

/-- A relayed frame carries data other than the marker. -/
theorem relayed_ne_sseDone {data : Bytes} (other : data ≠ ascii "[DONE]") :
    ascii "data: " ++ data ++ ascii "\n\n" ≠ sseDone := by
  have marker : sseDone = ascii "data: " ++ ascii "[DONE]" ++ ascii "\n\n" := by decide
  rw [marker]
  intro same
  exact other (List.append_cancel_left (List.append_cancel_right same))

theorem finishEvent_effect {decoder left : OpenAIStreamDecoder} {line : Bytes}
    {frame : Option Bytes} (open_ : decoder.done = false)
    (finished : decoder.finishEvent parser = (.ok frame, left)) :
    LineEffect decoder line (frame, left) := by
  unfold finishEvent at finished
  dsimp only at finished
  split at finished
  · cases finished
    exact .quiet open_
  · split at finished
    · split at finished
      · cases finished
      · cases finished
        exact .ended rfl rfl
    · rename_i other
      rw [open_] at finished
      simp only [Bool.false_eq_true, ↓reduceIte] at finished
      split at finished
      · cases finished
      · split at finished
        · split at finished <;> cases finished
          exact .relayed rfl (relayed_ne_sseDone other)
        · split at finished <;> cases finished
          exact .relayed rfl (relayed_ne_sseDone other)

theorem feedLine_effect {decoder left : OpenAIStreamDecoder} {line : Bytes}
    {frame : Option Bytes} (open_ : decoder.done = false)
    (fed : feedLine parser decoder line = (.ok frame, left)) :
    LineEffect decoder line (frame, left) := by
  unfold feedLine at fed
  dsimp only at fed
  split at fed
  · cases fed
  · split at fed
    · cases fed
    · split at fed
      · exact finishEvent_effect open_ fed
      · split at fed
        · cases fed
          exact .quiet open_
        · split at fed <;> cases fed
          exact .quiet open_

/-- A line that does not raise has at most the greatest length, and one more byte
only for its carriage return. -/
theorem feedLine_bounded {decoder left : OpenAIStreamDecoder} {line : Bytes}
    {frame : Option Bytes} (fed : feedLine parser decoder line = (.ok frame, left)) :
    line.length ≤ maxSseLineBytes + 1 := by
  unfold feedLine at fed
  dsimp only at fed
  split at fed
  · cases fed
  · rename_i short
    unfold stripCarriageReturn at short
    split at short
    · rw [List.length_dropLast] at short
      omega
    · omega

variable (parser) in
/-- Behind the end, a blank line changes nothing and any other line raises. -/
theorem feedLine_behind {decoder : OpenAIStreamDecoder} {line : Bytes}
    (done : decoder.done = true) (cleared : decoder.dataLines = []) :
    (stripCarriageReturn line = [] → feedLine parser decoder line = (.ok none, decoder)) ∧
      (stripCarriageReturn line ≠ [] →
        (feedLine parser decoder line).1 = .error .bifrostProtocolError) := by
  constructor
  · intro blank
    unfold feedLine finishEvent
    simp [blank, cleared]
  · intro text
    unfold feedLine
    simp [done, text]

variable (parser) in
theorem runLines_behind {decoder : OpenAIStreamDecoder} (lines : List Bytes)
    (done : decoder.done = true) (cleared : decoder.dataLines = []) :
    ((∀ line ∈ lines, stripCarriageReturn line = []) →
        runLines parser lines decoder = .ok ([], decoder)) ∧
      ((∃ line ∈ lines, stripCarriageReturn line ≠ []) →
        runLines parser lines decoder = .error .bifrostProtocolError) := by
  induction lines with
  | nil => exact ⟨fun _ => rfl, fun ⟨_, member, _⟩ => by cases member⟩
  | cons line more inductionHypothesis =>
      obtain ⟨blank, text⟩ := @feedLine_behind parser _ line done cleared
      rw [runLines]
      constructor
      · intro blanks
        rw [blank (blanks line List.mem_cons_self)]
        dsimp only
        rw [inductionHypothesis.1 fun other member => blanks other (List.mem_cons_of_mem _ member)]
        rfl
      · rintro ⟨other, member, nonblank⟩
        by_cases first : stripCarriageReturn line = []
        · rw [blank first]
          rcases List.mem_cons.mp member with rfl | later
          · exact (nonblank first).elim
          · dsimp only
            rw [inductionHypothesis.2 ⟨other, later, nonblank⟩]
        · have raised := text first
          rcases fed : feedLine parser decoder line with ⟨_ | frame, left⟩
          · rfl
          · rw [fed] at raised
            cases raised

/-- The lines of an open decoder that do not end the stream. -/
theorem runLines_open {lines : List Bytes} {decoder last : OpenAIStreamDecoder}
    {frames : List Bytes} (open_ : decoder.done = false)
    (unended : ending? parser decoder lines = none)
    (ran : runLines parser lines decoder = .ok (frames, last)) :
    last.done = false ∧ sseDone ∉ frames := by
  induction lines generalizing decoder frames with
  | nil =>
      cases ran
      exact ⟨open_, List.not_mem_nil⟩
  | cons line more inductionHypothesis =>
      rw [runLines] at ran
      rw [ending?] at unended
      rcases fed : feedLine parser decoder line with ⟨_ | frame, left⟩
      · rw [fed] at ran
        cases ran
      · rw [fed] at ran unended
        dsimp only at ran unended
        have follow (still : left.done = false) (quiet : sseDone ∉ frame.toList) :
            last.done = false ∧ sseDone ∉ frames := by
          rw [still] at unended
          simp only [Bool.false_eq_true, ↓reduceIte, Option.map_eq_none_iff] at unended
          split at ran
          · cases ran
          · rename_i rest later followed
            cases ran
            obtain ⟨open_, unsaid⟩ := inductionHypothesis still unended followed
            exact ⟨open_, List.not_mem_append quiet unsaid⟩
        cases feedLine_effect open_ fed with
        | quiet still => exact follow still List.not_mem_nil
        | relayed still data => exact follow still (by simpa using data.symm)
        | ended done =>
            rw [done] at unended
            cases unended

/-- An end of the stream: the marker is the last frame, and the lines behind it are
accepted exactly when they are blank. -/
structure Ends (parser : Parser) (lines : List Bytes) (decoder : OpenAIStreamDecoder)
    (ending : Ending) : Prop where
  marked : ending.frames.getLast? = some sseDone
  done : ending.decoder.done = true
  started : ending.before ≠ []
  whole : ending.before ++ ending.after = lines
  accepted : (∀ line ∈ ending.after, stripCarriageReturn line = []) →
    runLines parser lines decoder = .ok (ending.frames, ending.decoder)
  rejected : (∃ line ∈ ending.after, stripCarriageReturn line ≠ []) →
    runLines parser lines decoder = .error .bifrostProtocolError

theorem Ends.cons {line : Bytes} {more : List Bytes} {decoder left : OpenAIStreamDecoder}
    {frame : Option Bytes} {ending : Ending} (ends : Ends parser more left ending)
    (fed : feedLine parser decoder line = (.ok frame, left)) :
    Ends parser (line :: more) decoder
      { ending with before := line :: ending.before, frames := frame.toList ++ ending.frames } where
  marked := by
    dsimp only
    rw [List.getLast?_append, ends.marked]
    rfl
  done := ends.done
  started := List.cons_ne_nil _ _
  whole := by rw [← ends.whole, List.cons_append]
  accepted blank := by
    rw [runLines, fed]
    dsimp only
    rw [ends.accepted blank]
  rejected text := by
    rw [runLines, fed]
    dsimp only
    rw [ends.rejected text]

theorem runLines_ending {lines : List Bytes} {decoder : OpenAIStreamDecoder} {ending : Ending}
    (open_ : decoder.done = false) (ended : ending? parser decoder lines = some ending) :
    Ends parser lines decoder ending := by
  induction lines generalizing decoder ending with
  | nil => cases ended
  | cons line more inductionHypothesis =>
      rw [ending?] at ended
      rcases fed : feedLine parser decoder line with ⟨_ | frame, left⟩
      · rw [fed] at ended
        cases ended
      · rw [fed] at ended
        dsimp only at ended
        have follow (still : left.done = false) : Ends parser (line :: more) decoder ending := by
          rw [still] at ended
          simp only [Bool.false_eq_true, ↓reduceIte, Option.map_eq_some_iff] at ended
          obtain ⟨rest, later, rfl⟩ := ended
          exact (inductionHypothesis still later).cons fed
        cases feedLine_effect open_ fed with
        | quiet still => exact follow still
        | relayed still => exact follow still
        | ended done cleared =>
            rw [done] at ended
            simp only [↓reduceIte, Option.some.injEq] at ended
            subst ended
            obtain ⟨blank, text⟩ := runLines_behind parser more done cleared
            exact {
              marked := rfl
              done := done
              started := List.cons_ne_nil _ _
              whole := rfl
              accepted := fun blanks => by
                rw [runLines, fed]
                dsimp only
                rw [blank blanks]
                rfl
              rejected := fun texts => by
                rw [runLines, fed]
                dsimp only
                rw [text texts] }

theorem ending?_withBuffer (lines : List Bytes) (decoder : OpenAIStreamDecoder)
    (buffer : Bytes) :
    ending? parser (decoder.withBuffer buffer) lines =
      (ending? parser decoder lines).map fun ending =>
        { ending with decoder := ending.decoder.withBuffer buffer } := by
  induction lines generalizing decoder with
  | nil => rfl
  | cons line more inductionHypothesis =>
      rw [ending?, ending?, feedLine_withBuffer]
      rcases feedLine parser decoder line with ⟨_ | frame, left⟩
      · rfl
      · dsimp only
        rw [show (left.withBuffer buffer).done = left.done from rfl, inductionHypothesis]
        split
        · rfl
        · rw [Option.map_map, Option.map_map]
          rfl

/-- Lines that do not end the stream pass the rest on to the decoder they leave. -/
theorem ending?_append {lines : List Bytes} (more : List Bytes) {decoder : OpenAIStreamDecoder}
    (open_ : decoder.done = false) :
    ending? parser decoder (lines ++ more) =
      match ending? parser decoder lines with
      | some ending => some { ending with after := ending.after ++ more }
      | none =>
          match runLines parser lines decoder with
          | .error _ => none
          | .ok (frames, last) => (ending? parser last more).map fun ending =>
              { ending with before := lines ++ ending.before, frames := frames ++ ending.frames } := by
  induction lines generalizing decoder with
  | nil =>
      show ending? parser decoder more = (ending? parser decoder more).map _
      cases ending? parser decoder more <;> rfl
  | cons line rest inductionHypothesis =>
      rw [List.cons_append, ending?, ending?, runLines]
      rcases fed : feedLine parser decoder line with ⟨_ | frame, left⟩
      · rfl
      · dsimp only
        have follow (still : left.done = false) := inductionHypothesis still
        split
        · rfl
        · rename_i still
          rw [follow (by simpa using still)]
          cases ending? parser left rest with
          | some ending => rfl
          | none =>
              dsimp only [Option.map_none]
              cases runLines parser rest left with
              | error failure => rfl
              | ok read =>
                  dsimp only
                  rw [Option.map_map]
                  congr 1
                  funext ending
                  simp [List.append_assoc]

end Runs

/-! ## Chunks -/

/-- What the decoder loop of a stream ends with. -/
structure Decoded where
  frames : List Bytes
  usage : Option ChatUsage
  done : Bool
  deriving DecidableEq

/-- The decoder loop of `_stream_response`: chunks in order, up to the batch of
frames that ends with the marker, and `finish` when they run out before. -/
def decodeChunks (parser : Parser) : OpenAIStreamDecoder → List Bytes →
    Except ProtocolError Decoded
  | decoder, [] =>
      match decoder.finish with
      | .error failure => .error failure
      | .ok () => .ok ⟨[], decoder.usage, decoder.done⟩
  | decoder, chunk :: more =>
      match decoder.feed parser chunk with
      | (.error failure, _) => .error failure
      | (.ok frames, left) =>
          if frames.getLast? = some sseDone then .ok ⟨frames, left.usage, left.done⟩
          else
            match decodeChunks parser left more with
            | .error failure => .error failure
            | .ok decoded => .ok { decoded with frames := frames ++ decoded.frames }

/-- Between chunks: the marker has not come, and the buffer is a partial line. -/
structure Between (decoder : OpenAIStreamDecoder) : Prop where
  open_ : decoder.done = false
  unbroken : newline ∉ decoder.buffer

theorem between_new : Between new := ⟨rfl, List.not_mem_nil⟩

section Loop

variable {parser : Parser} {decoder : OpenAIStreamDecoder} {chunk : Bytes} {more : List Bytes}

theorem decodeChunks_nil (between : Between decoder) :
    decodeChunks parser decoder [] = .error .bifrostProtocolError := by
  have unfinished : decoder.finish = .error .bifrostProtocolError := by
    unfold finish
    rw [if_pos (Or.inr (Or.inr (Or.inl (by simp [between.open_]))))]
  rw [decodeChunks, unfinished]

theorem ending?_partial {buffered : Bytes} (unbroken : newline ∉ buffered) :
    ending? parser decoder (completeLines buffered) = none := by
  rw [completeLines_unterminated unbroken]
  rfl

theorem decodeChunks_of_error {failure : ProtocolError}
    (raised : (decoder.feed parser chunk).1 = .error failure) :
    decodeChunks parser decoder (chunk :: more) = .error .bifrostProtocolError := by
  rw [decodeChunks]
  rcases fed : decoder.feed parser chunk with ⟨_ | frames, left⟩
  · rfl
  · rw [fed] at raised
    cases raised

/-- After a chunk whose lines do not end the stream, the loop goes on behind them. -/
theorem decodeChunks_of_open {frames : List Bytes} {last : OpenAIStreamDecoder}
    (filled : chunk ≠ []) (between : Between decoder)
    (bounded : ¬Overflows (decoder.buffer ++ chunk))
    (unended : ending? parser decoder (completeLines (decoder.buffer ++ chunk)) = none)
    (ran : runLines parser (completeLines (decoder.buffer ++ chunk)) decoder = .ok (frames, last)) :
    Between (last.withBuffer (residual (decoder.buffer ++ chunk))) ∧
      decodeChunks parser decoder (chunk :: more) =
        match decodeChunks parser (last.withBuffer (residual (decoder.buffer ++ chunk))) more with
        | .error failure => .error failure
        | .ok decoded => .ok { decoded with frames := frames ++ decoded.frames } := by
  obtain ⟨open_, unsaid⟩ := runLines_open between.open_ unended ran
  have fed := feed_eq parser filled between.open_
  rw [if_neg bounded, ran] at fed
  dsimp only at fed
  refine ⟨⟨open_, residual_unbroken _⟩, ?_⟩
  rw [decodeChunks, fed]
  dsimp only
  rw [if_neg]
  intro final
  exact unsaid (List.mem_of_getLast? final)

/-- The loop on a stream that never ends or raises before its end. -/
theorem decodeChunks_unended (chunks : List Bytes) (filled : ∀ chunk ∈ chunks, chunk ≠ [])
    (between : Between decoder)
    (unended : ending? parser decoder (completeLines (decoder.buffer ++ chunks.flatten)) = none) :
    decodeChunks parser decoder chunks = .error .bifrostProtocolError := by
  induction chunks generalizing decoder with
  | nil => exact decodeChunks_nil between
  | cons chunk more inductionHypothesis =>
      have nonempty := filled chunk List.mem_cons_self
      have fed := feed_eq parser nonempty between.open_
      rw [List.flatten_cons, ← List.append_assoc, completeLines_append,
        ending?_append _ between.open_] at unended
      by_cases overflows : Overflows (decoder.buffer ++ chunk)
      · rw [if_pos overflows] at fed
        exact decodeChunks_of_error fed
      · rw [if_neg overflows] at fed
        cases first : ending? parser decoder (completeLines (decoder.buffer ++ chunk)) with
        | some ending =>
            rw [first] at unended
            cases unended
        | none =>
            rw [first] at unended
            cases ran : runLines parser (completeLines (decoder.buffer ++ chunk)) decoder with
            | error failure =>
                rw [ran] at fed
                exact decodeChunks_of_error fed
            | ok read =>
                obtain ⟨frames, last⟩ := read
                rw [ran] at unended
                simp only [Option.map_eq_none_iff] at unended
                obtain ⟨next, loop⟩ := @decodeChunks_of_open _ _ _ more _ _ nonempty between
                  overflows first ran
                have later : ending? parser (last.withBuffer (residual (decoder.buffer ++ chunk)))
                    (completeLines (residual (decoder.buffer ++ chunk) ++ more.flatten)) = none := by
                  rw [ending?_withBuffer, unended, Option.map_none]
                rw [loop, inductionHypothesis
                  (fun other member => filled other (List.mem_cons_of_mem _ member)) next later]

/-- The first line is at least as long as what is buffered of it. -/
theorem buffered_le_line {buffered rest line : Bytes} {lines : List Bytes}
    (unbroken : newline ∉ buffered) (first : completeLines (buffered ++ rest) = line :: lines) :
    buffered.length ≤ line.length := by
  induction rest using linesInduction with
  | partialLine tail short =>
      rw [completeLines_unterminated (List.not_mem_append unbroken short)] at first
      cases first
  | completeLine tail after short =>
      rw [← List.append_assoc, completeLines_line _ (List.not_mem_append unbroken short)] at first
      cases first
      rw [List.length_append]
      exact Nat.le_add_right _ _

/-- The loop on a stream that ends, with no line so long that a chunk boundary
before its newline overflows, and blank lines behind its end. -/
theorem decodeChunks_ending {ending : Ending} (chunks : List Bytes)
    (filled : ∀ chunk ∈ chunks, chunk ≠ []) (between : Between decoder)
    (ended : ending? parser decoder (completeLines (decoder.buffer ++ chunks.flatten)) =
      some ending)
    (short : ∀ line ∈ ending.before, line.length ≤ maxSseLineBytes)
    (blank : ∀ line ∈ ending.after, stripCarriageReturn line = []) :
    decodeChunks parser decoder chunks =
      .ok ⟨ending.frames, ending.decoder.usage, true⟩ := by
  induction chunks generalizing decoder ending with
  | nil =>
      rw [List.flatten_nil, List.append_nil, ending?_partial between.unbroken] at ended
      cases ended
  | cons chunk more inductionHypothesis =>
      have nonempty := filled chunk List.mem_cons_self
      have fed := feed_eq parser nonempty between.open_
      rw [List.flatten_cons, ← List.append_assoc] at ended
      have bounded : ¬Overflows (decoder.buffer ++ chunk) := by
        rintro ⟨long, unbroken⟩
        have ends := runLines_ending between.open_ ended
        cases before : ending.before with
        | nil => exact ends.started before
        | cons line others =>
            have first := ends.whole
            rw [before, List.cons_append] at first
            have buffered := buffered_le_line unbroken first.symm
            have bound := short line (before ▸ List.mem_cons_self)
            omega
      rw [if_neg bounded] at fed
      rw [completeLines_append, ending?_append _ between.open_] at ended
      cases first : ending? parser decoder (completeLines (decoder.buffer ++ chunk)) with
      | some early =>
          rw [first] at ended
          simp only [Option.some.injEq] at ended
          subst ended
          have ends := runLines_ending between.open_ first
          rw [ends.accepted fun line member => blank line (List.mem_append_left _ member)] at fed
          dsimp only at fed
          rw [decodeChunks, fed]
          dsimp only
          rw [if_pos ends.marked]
          simp [withBuffer, ends.done]
      | none =>
          rw [first] at ended
          cases ran : runLines parser (completeLines (decoder.buffer ++ chunk)) decoder with
          | error failure =>
              rw [ran] at ended
              cases ended
          | ok read =>
              obtain ⟨frames, last⟩ := read
              rw [ran] at ended
              simp only [Option.map_eq_some_iff] at ended
              obtain ⟨rest, later, rfl⟩ := ended
              obtain ⟨next, loop⟩ := @decodeChunks_of_open _ _ _ more _ _ nonempty between
                bounded first ran
              have rebuffered : ending? parser
                  (last.withBuffer (residual (decoder.buffer ++ chunk)))
                  (completeLines (residual (decoder.buffer ++ chunk) ++ more.flatten)) =
                  some { rest with decoder :=
                    rest.decoder.withBuffer (residual (decoder.buffer ++ chunk)) } := by
                rw [ending?_withBuffer, later, Option.map_some]
              rw [loop, inductionHypothesis
                (fun other member => filled other (List.mem_cons_of_mem _ member)) next rebuffered
                (fun line member => short line (List.mem_append_right _ member)) blank]
              rfl

/-! ## Divisions by lines -/

/-- A line as the stream carries it. -/
def terminated (line : Bytes) : Bytes := line ++ [newline]

theorem terminated_ne_nil (line : Bytes) : terminated line ≠ [] :=
  List.append_ne_nil_of_right_ne_nil _ (List.cons_ne_nil _ _)

theorem completeLines_terminated {line : Bytes} (unbroken : newline ∉ line) :
    completeLines (terminated line) = [line] := by
  rw [terminated, completeLines_line [] unbroken]
  rfl

theorem residual_terminated {line : Bytes} (unbroken : newline ∉ line) :
    residual (terminated line) = [] := by
  rw [terminated, residual_line [] unbroken]
  rfl

theorem completeLines_unbroken (bytes : Bytes) : ∀ line ∈ completeLines bytes, newline ∉ line := by
  induction bytes using linesInduction with
  | partialLine line unbroken =>
      rw [completeLines_unterminated unbroken]
      exact fun _ member => absurd member List.not_mem_nil
  | completeLine line rest unbroken inductionHypothesis =>
      rw [completeLines_line rest unbroken]
      intro other member
      rcases List.mem_cons.mp member with rfl | later
      · exact unbroken
      · exact inductionHypothesis other later

theorem flatten_lines (bytes : Bytes) :
    ((completeLines bytes).map terminated).flatten ++ residual bytes = bytes := by
  induction bytes using linesInduction with
  | partialLine line unbroken =>
      rw [completeLines_unterminated unbroken, residual_unterminated unbroken]
      rfl
  | completeLine line rest unbroken inductionHypothesis =>
      rw [completeLines_line rest unbroken, residual_line rest unbroken, List.map_cons,
        List.flatten_cons, List.append_assoc, inductionHypothesis, terminated]
      simp

/-- Feeding one line with its newline is one line of the decoder. -/
theorem feed_terminated {line : Bytes} (unbroken : newline ∉ line)
    (open_ : decoder.done = false) (empty : decoder.buffer = []) {frame : Option Bytes}
    {left : OpenAIStreamDecoder} (read : feedLine parser decoder line = (.ok frame, left)) :
    decoder.feed parser (terminated line) = (.ok frame.toList, left.withBuffer []) := by
  have fed := feed_eq parser (terminated_ne_nil line) open_
  have bounded : ¬Overflows (decoder.buffer ++ terminated line) := by
    rintro ⟨_, unbroken⟩
    exact unbroken (by simp [terminated])
  rw [if_neg bounded, empty, List.nil_append, completeLines_terminated unbroken,
    residual_terminated unbroken, runLines, read] at fed
  simpa [runLines] using fed

/-- Line by line, a stream that ends is decoded. -/
theorem decodeChunks_byLine {lines : List Bytes} {ending : Ending} (rest : List Bytes)
    (unbroken : ∀ line ∈ lines, newline ∉ line) (open_ : decoder.done = false)
    (empty : decoder.buffer = []) (ended : ending? parser decoder lines = some ending) :
    decodeChunks parser decoder (lines.map terminated ++ rest) =
      .ok ⟨ending.frames, ending.decoder.usage, true⟩ := by
  induction lines generalizing decoder ending with
  | nil => cases ended
  | cons line more inductionHypothesis =>
      rw [ending?] at ended
      rcases read : feedLine parser decoder line with ⟨_ | frame, left⟩
      · rw [read] at ended
        cases ended
      · rw [read] at ended
        dsimp only at ended
        rw [List.map_cons, List.cons_append, decodeChunks,
          feed_terminated (unbroken line List.mem_cons_self) open_ empty read]
        dsimp only
        have follow (still : left.done = false) (quiet : frame.toList.getLast? ≠ some sseDone) :
            (if frame.toList.getLast? = some sseDone then
              .ok ⟨frame.toList, (left.withBuffer []).usage, (left.withBuffer []).done⟩
            else
              match decodeChunks parser (left.withBuffer []) (more.map terminated ++ rest) with
              | .error failure => .error failure
              | .ok decoded => .ok { decoded with frames := frame.toList ++ decoded.frames }) =
              (.ok ⟨ending.frames, ending.decoder.usage, true⟩ :
                Except ProtocolError Decoded) := by
          rw [still] at ended
          simp only [Bool.false_eq_true, ↓reduceIte, Option.map_eq_some_iff] at ended
          obtain ⟨tail, later, rfl⟩ := ended
          have rebuffered : ending? parser (left.withBuffer []) more =
              some { tail with decoder := tail.decoder.withBuffer [] } := by
            rw [ending?_withBuffer, later, Option.map_some]
          have reopened : (left.withBuffer []).done = false := still
          rw [if_neg quiet, inductionHypothesis
            (fun other member => unbroken other (List.mem_cons_of_mem _ member)) reopened rfl
            rebuffered]
          rfl
        cases feedLine_effect open_ read with
        | quiet still => exact follow still (by simp)
        | relayed still data => exact follow still (by simpa using data)
        | ended done =>
            rw [done] at ended
            simp only [↓reduceIte, Option.some.injEq] at ended
            subst ended
            have marked : (some sseDone).toList.getLast? = some sseDone := rfl
            rw [if_pos marked]
            simp [withBuffer, done]

/-- A line one byte too long, cut before its newline, overflows. -/
theorem decodeChunks_cut {lines : List Bytes} {ending : Ending} {long : Bytes} (rest : List Bytes)
    (unbroken : ∀ line ∈ lines, newline ∉ line) (open_ : decoder.done = false)
    (empty : decoder.buffer = []) (ended : ending? parser decoder lines = some ending)
    (member : long ∈ ending.before) (exceeds : long.length = maxSseLineBytes + 1) :
    ∃ chunks : List Bytes, (∀ chunk ∈ chunks, chunk ≠ []) ∧
      chunks.flatten = (lines.map terminated).flatten ∧
      decodeChunks parser decoder (chunks ++ rest) = .error .bifrostProtocolError := by
  induction lines generalizing decoder ending with
  | nil => cases ended
  | cons line more inductionHypothesis =>
      by_cases here : line.length = maxSseLineBytes + 1
      · have nonempty : line ≠ [] := by
          rintro rfl
          cases here
        refine ⟨line :: [newline] :: more.map terminated, ?_, by simp [terminated], ?_⟩
        · intro chunk chosen
          rcases List.mem_cons.mp chosen with rfl | chosen
          · exact nonempty
          · rcases List.mem_cons.mp chosen with rfl | chosen
            · exact List.cons_ne_nil _ _
            · obtain ⟨source, _, rfl⟩ := List.mem_map.mp chosen
              exact terminated_ne_nil source
        · have fed := feed_eq parser nonempty open_
          have overflows : Overflows (decoder.buffer ++ line) := by
            rw [empty, List.nil_append]
            exact ⟨by omega, unbroken line List.mem_cons_self⟩
          rw [if_pos overflows] at fed
          exact decodeChunks_of_error fed
      · rw [ending?] at ended
        rcases read : feedLine parser decoder line with ⟨_ | frame, left⟩
        · rw [read] at ended
          cases ended
        · rw [read] at ended
          dsimp only at ended
          split at ended
          · cases ended
            rw [List.mem_singleton] at member
            exact (here (member ▸ exceeds)).elim
          · rename_i still
            obtain ⟨tail, later, rfl⟩ := Option.map_eq_some_iff.mp ended
            have rebuffered : ending? parser (left.withBuffer []) more =
                some { tail with decoder := tail.decoder.withBuffer [] } := by
              rw [ending?_withBuffer, later, Option.map_some]
            have inside : long ∈ tail.before := by
              rcases List.mem_cons.mp member with rfl | inside
              · exact (here exceeds).elim
              · exact inside
            obtain ⟨chunks, filled, whole, raised⟩ := inductionHypothesis
              (fun other chosen => unbroken other (List.mem_cons_of_mem _ chosen))
              (by simpa [withBuffer] using still) rfl rebuffered inside
            refine ⟨terminated line :: chunks, ?_, by simp [whole], ?_⟩
            · intro chunk chosen
              rcases List.mem_cons.mp chosen with rfl | chosen
              · exact terminated_ne_nil line
              · exact filled chunk chosen
            · rw [List.cons_append, decodeChunks,
                feed_terminated (unbroken line List.mem_cons_self) open_ empty read]
              dsimp only
              rw [if_neg, raised]
              cases feedLine_effect open_ read with
              | quiet => simp
              | relayed _ data => simpa using data
              | ended done => exact (still done).elim

theorem ending?_bounded {lines : List Bytes} {ending : Ending}
    (ended : ending? parser decoder lines = some ending) :
    ∀ line ∈ ending.before, line.length ≤ maxSseLineBytes + 1 := by
  induction lines generalizing decoder ending with
  | nil => cases ended
  | cons line more inductionHypothesis =>
      rw [ending?] at ended
      rcases read : feedLine parser decoder line with ⟨_ | frame, left⟩
      · rw [read] at ended
        cases ended
      · rw [read] at ended
        dsimp only at ended
        intro other member
        split at ended
        · cases ended
          rw [List.mem_singleton] at member
          exact member ▸ feedLine_bounded read
        · obtain ⟨tail, later, rfl⟩ := Option.map_eq_some_iff.mp ended
          rcases List.mem_cons.mp member with rfl | inside
          · exact feedLine_bounded read
          · exact inductionHypothesis later other inside

end Loop

/-! ## Independence -/

/-- A division of a byte string into non-empty chunks. -/
structure Divides (chunks : List Bytes) (bytes : Bytes) : Prop where
  filled : ∀ chunk ∈ chunks, chunk ≠ []
  whole : chunks.flatten = bytes

/-- Every two divisions of the byte string are decoded alike. -/
def ChunkingIndependent (parser : Parser) (bytes : Bytes) : Prop :=
  ∀ left right, Divides left bytes → Divides right bytes →
    decodeChunks parser .new left = decodeChunks parser .new right

/-- If the lines of the byte string end the stream, then no line up to its end has
one byte more than the greatest length, and every complete line behind it is blank. -/
def EndsCleanly (parser : Parser) (bytes : Bytes) : Prop :=
  ∀ ending, ending? parser .new (completeLines bytes) = some ending →
    (∀ line ∈ ending.before, line.length ≠ maxSseLineBytes + 1) ∧
      ∀ line ∈ ending.after, stripCarriageReturn line = []

theorem divides_lines (bytes : Bytes) :
    ∃ rest, Divides ((completeLines bytes).map terminated ++ rest) bytes ∧
      rest.flatten = residual bytes ∧ ∀ chunk ∈ rest, chunk ≠ [] := by
  have lines : ∀ chunk ∈ (completeLines bytes).map terminated, chunk ≠ [] := by
    intro chunk member
    obtain ⟨line, _, rfl⟩ := List.mem_map.mp member
    exact terminated_ne_nil line
  by_cases nothing : residual bytes = []
  · refine ⟨[], ⟨by simpa using lines, ?_⟩, nothing.symm, fun _ member => by cases member⟩
    have whole := flatten_lines bytes
    rw [nothing, List.append_nil] at whole
    rwa [List.append_nil]
  · have single : ∀ chunk ∈ [residual bytes], chunk ≠ [] := by
      intro chunk member
      rw [List.mem_singleton] at member
      exact member ▸ nothing
    refine ⟨[residual bytes], ⟨?_, ?_⟩, by simp, single⟩
    · intro chunk member
      exact (List.mem_append.mp member).elim (lines chunk) (single chunk)
    · rw [List.flatten_append, List.flatten_singleton]
      exact flatten_lines bytes

/-- **Decoding is independent of chunking exactly** on the byte strings that end
cleanly. -/
theorem chunking_independent_iff (parser : Parser) (bytes : Bytes) :
    ChunkingIndependent parser bytes ↔ EndsCleanly parser bytes := by
  constructor
  · intro independent ending ended
    obtain ⟨rest, divides, whole, filled⟩ := divides_lines bytes
    have decoded := decodeChunks_byLine rest (completeLines_unbroken bytes) rfl rfl ended
    constructor
    · intro line member exceeds
      obtain ⟨chunks, nonempty, flat, raised⟩ := decodeChunks_cut rest
        (completeLines_unbroken bytes) rfl rfl ended member exceeds
      have cut : Divides (chunks ++ rest) bytes := by
        refine ⟨fun chunk chosen =>
          (List.mem_append.mp chosen).elim (nonempty chunk) (filled chunk), ?_⟩
        rw [List.flatten_append, flat, whole]
        exact flatten_lines bytes
      have same := independent _ _ divides cut
      rw [decoded, raised] at same
      cases same
    · intro line member
      by_contra text
      have nonempty : bytes ≠ [] := by
        rintro rfl
        cases ended
      have single : Divides [bytes] bytes := by
        refine ⟨fun chunk chosen => ?_, List.flatten_singleton⟩
        rw [List.mem_singleton] at chosen
        exact chosen ▸ nonempty
      have same := independent _ _ divides single
      have fed := @feed_eq parser new bytes nonempty rfl
      have raised : (new.feed parser bytes).1 = .error .bifrostProtocolError := by
        rw [show new.buffer ++ bytes = bytes from rfl,
          (runLines_ending rfl ended).rejected ⟨line, member, text⟩] at fed
        split at fed <;> exact fed
      rw [decoded, decodeChunks_of_error raised] at same
      cases same
  · intro clean left right leftDivides rightDivides
    cases ended : ending? parser .new (completeLines bytes) with
    | none =>
        have unended (chunks : List Bytes) (divides : Divides chunks bytes) :
            decodeChunks parser .new chunks = .error .bifrostProtocolError := by
          refine decodeChunks_unended chunks divides.filled between_new ?_
          rw [divides.whole]
          exact ended
        rw [unended left leftDivides, unended right rightDivides]
    | some ending =>
        obtain ⟨lengths, blank⟩ := clean ending ended
        have short : ∀ line ∈ ending.before, line.length ≤ maxSseLineBytes := by
          intro line member
          have bound := ending?_bounded ended line member
          have other := lengths line member
          omega
        have decoded (chunks : List Bytes) (divides : Divides chunks bytes) :
            decodeChunks parser .new chunks =
              .ok ⟨ending.frames, ending.decoder.usage, true⟩ := by
          refine decodeChunks_ending chunks divides.filled between_new ?_ short blank
          rw [divides.whole]
          exact ended
        rw [decoded left leftDivides, decoded right rightDivides]

/-! ### A line behind the end -/

/-- The last chunk of a stream, with its usage. -/
def usagePayload : Bytes :=
  ascii ("\x7b\"id\":\"chatcmpl-1\",\"object\":\"chat.completion.chunk\",\"model\":\"model-1\"," ++
    "\"choices\":[],\"usage\":\x7b\"prompt_tokens\":1,\"completion_tokens\":1," ++
    "\"total_tokens\":2\x7d\x7d")

/-- `json.loads` on that payload. -/
def usageParser : Parser where
  loads data :=
    if data = usagePayload then
      some (.dict [("id", .str "chatcmpl-1"), ("object", .str "chat.completion.chunk"),
        ("model", .str "model-1"), ("choices", .list []),
        ("usage", .dict [("prompt_tokens", .int 1), ("completion_tokens", .int 1),
          ("total_tokens", .int 2)])])
    else none
  coerceInt
    | .int value => some value
    | _ => none

/-- A stream up to its end. -/
def endedStream : Bytes := ascii "data: " ++ usagePayload ++ ascii "\n\n" ++ sseDone

def behindEnd : Bytes := ascii "data: unexpected\n\n"

/-- A line behind the end raises in the chunk of the end and is not read in the next. -/
theorem chunking_decides_rejection :
    ¬ChunkingIndependent usageParser (endedStream ++ behindEnd) := by
  have single : Divides [endedStream ++ behindEnd] (endedStream ++ behindEnd) := by
    refine ⟨fun chunk member => ?_, by simp⟩
    rw [List.mem_singleton] at member
    subst member
    exact List.append_ne_nil_of_right_ne_nil _ (by decide)
  have double : Divides [endedStream, behindEnd] (endedStream ++ behindEnd) := by
    refine ⟨fun chunk member => ?_, by simp⟩
    simp only [List.mem_cons, List.not_mem_nil, or_false] at member
    rcases member with rfl | rfl
    · exact List.append_ne_nil_of_right_ne_nil _ (by decide)
    · decide
  intro independent
  have same := independent _ _ single double
  have raised : decodeChunks usageParser .new [endedStream ++ behindEnd] =
      .error .bifrostProtocolError := by decide +kernel
  have accepted : (decodeChunks usageParser .new [endedStream, behindEnd]).isOk = true := by
    decide +kernel
  rw [← same, raised] at accepted
  cases accepted

end OpenAIStreamDecoder

end Zangpu.Services.Streaming
