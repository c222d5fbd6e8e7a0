import Zangpu.Sdk.Python.Streaming
import Zangpu.Sdk.JavaScript.Streaming

/-!
The two stream clients side by side.

Owns: the streams on which the Python and the JavaScript client cannot differ, their
agreement on these for every division into chunks, and a stream on which they differ.

Does not own: the two clients.
-/

set_option autoImplicit false

namespace Zangpu.Sdk

open Zangpu.Foundation
open Zangpu.Services.Streaming (Bytes Json)

/-! ## The common streams -/

def PlainLine (line : List Char) : Prop :=
  ∀ character ∈ line, Python.isLineBreak character = false

theorem plainLine_iff {line : List Char} :
    PlainLine line ↔ line.all (Python.isLineBreak · = false) = true := by
  rw [List.all_eq_true]
  exact forall₂_congr fun character _ => decide_eq_true_iff.symm

/-- What the JavaScript client has counted for the event behind a line. -/
def countAfter (count : Nat) (rawLine : List Char) : Nat :=
  if JavaScript.stripReturn rawLine = [] then 0
  else if (JavaScript.stripReturn rawLine).head? = some ':' then count
  else count + (byteLength rawLine + 1)

/-- The pieces of a text between line breaks on which the clients go together, given
the state of the Python client and the count of the JavaScript client: up to the line
that ends the iteration, lines end in a line feed or a carriage return and a line
feed and break nowhere else, nothing follows `[DONE]`, and a line that the Python
client accepts is within the limit of the JavaScript client. -/
def Harmless (parse : List Char → Option Json) : LineState → Nat → List (List Char) → Prop
  | _, _, [] => True
  | _, _, [buffer] => PlainLine buffer
  | state, count, rawLine :: next :: rest =>
      PlainLine (JavaScript.stripReturn rawLine) ∧
        match Python.lineStep parse state (JavaScript.stripReturn rawLine) with
        | .next state =>
            byteLength rawLine + 1 ≤ maxSseEventBytes ∧
              countAfter count rawLine ≤ maxSseEventBytes ∧
              Harmless parse state (countAfter count rawLine) (next :: rest)
        | .event _ state => Harmless parse state 0 (next :: rest)
        | .ended .done => next :: rest = [[]]
        | .ended _ => True

/-- One of the lines ends the iteration. -/
def Ends (parse : List Char → Option Json) : LineState → List (List Char) → Prop
  | _, [] => False
  | _, [_] => False
  | state, rawLine :: next :: rest =>
      match Python.lineStep parse state (JavaScript.stripReturn rawLine) with
      | .next state => Ends parse state (next :: rest)
      | .event _ state => Ends parse state (next :: rest)
      | .ended _ => True

/-- The clients are in the same state, and the JavaScript client has counted no less. -/
structure Tracks (client python : LineState) : Prop where
  dataLines : client.dataLines = python.dataLines
  counted : python.eventBytes ≤ client.eventBytes
  fresh : python.dataLines = [] → python.eventBytes = 0

theorem Tracks.new : Tracks .new .new := ⟨rfl, Nat.le_refl _, fun _ => rfl⟩

/-! ## One line -/

theorem byteLength_append (left right : List Char) :
    byteLength (left ++ right) = byteLength left + byteLength right := by
  rw [byteLength, Utf8.encode_append, List.length_append]
  rfl

theorem byteLength_drop (line : List Char) (count : Nat) :
    byteLength (line.drop count) ≤ byteLength line := by
  have whole := byteLength_append (line.take count) (line.drop count)
  rw [List.take_append_drop] at whole
  omega

theorem byteLength_stripReturn (rawLine : List Char) :
    byteLength (JavaScript.stripReturn rawLine) ≤ byteLength rawLine := by
  unfold JavaScript.stripReturn
  split
  · next ends =>
      obtain ⟨front, rfl⟩ := List.getLast?_eq_some_iff.mp ends
      rw [List.dropLast_concat, byteLength_append]
      exact Nat.le_add_right _ _
  · exact Nat.le_refl _

/-- A line that is blank for both clients is at most a carriage return. -/
theorem byteLength_blank {rawLine : List Char} (blank : JavaScript.stripReturn rawLine = []) :
    byteLength rawLine ≤ 1 := by
  unfold JavaScript.stripReturn at blank
  split at blank
  · next ends =>
      obtain ⟨front, rfl⟩ := List.getLast?_eq_some_iff.mp ends
      rw [List.dropLast_concat] at blank
      subst blank
      decide
  · subst blank
    decide

/-- Both clients read the same value off a data line. -/
theorem dataValue_eq {line : List Char} (data : line.take 5 = "data:".toList) :
    JavaScript.dataValue line = Python.dataValue line := by
  have shape : line = "data:".toList ++ line.drop 5 := by
    rw [← data, List.take_append_drop]
  unfold JavaScript.dataValue Python.dataValue
  generalize line.drop 5 = value at shape
  subst shape
  cases value with
  | nil => decide
  | cons character rest =>
      by_cases space : character = ' '
      · subst space
        rfl
      · have other : ¬("data:".toList ++ character :: rest).take 6 = "data: ".toList := by
          intro same
          have last := congrArg List.getLast? same
          simp at last
          exact space last
        rw [if_neg other]
        simp [space]

theorem byteLength_dataValue (line : List Char) :
    byteLength (Python.dataValue line) ≤ byteLength line := by
  unfold Python.dataValue
  simp only
  split
  · exact Nat.le_trans (byteLength_drop _ 1) (byteLength_drop line 5)
  · exact byteLength_drop line 5

/-- Only a blank line delivers an event or ends without a protocol error. -/
theorem blank_of_lineStep {parse : List Char → Option Json} {state : LineState}
    {line : List Char} (some_ : line ≠ []) :
    (∃ after, Python.lineStep parse state line = .next after) ∨
      Python.lineStep parse state line = .ended .protocolError := by
  unfold Python.lineStep
  rw [if_neg some_]
  split
  · split
    · exact Or.inr rfl
    · exact Or.inl ⟨_, rfl⟩
  · split
    · exact Or.inr rfl
    · simp only
      split
      · exact Or.inr rfl
      · exact Or.inl ⟨_, rfl⟩

theorem dispatch_ne_next (parse : List Char → Option Json) (dataLines : List (List Char))
    {after : LineState} : dispatch parse dataLines ≠ .next after := by
  unfold dispatch
  split <;> exact nofun

section Lines

variable {parse : List Char → Option Json} {client python : LineState} {rawLine : List Char}

/-- Where the Python client goes on within the limits, the JavaScript client goes on
in the same state. -/
theorem lineStep_next {after : LineState} (tracks : Tracks client python)
    (step : Python.lineStep parse python (JavaScript.stripReturn rawLine) = .next after)
    (lineLimit : byteLength rawLine + 1 ≤ maxSseEventBytes)
    (eventLimit : countAfter client.eventBytes rawLine ≤ maxSseEventBytes) :
    ∃ next, JavaScript.lineStep parse client rawLine = .next next ∧ Tracks next after ∧
      next.eventBytes = countAfter client.eventBytes rawLine := by
  have small : ¬maxSseEventBytes < byteLength rawLine + 1 := Nat.not_lt.mpr lineLimit
  by_cases blank : JavaScript.stripReturn rawLine = []
  · have zero : countAfter client.eventBytes rawLine = 0 := if_pos blank
    by_cases none : python.dataLines = []
    · have stays : Python.lineStep parse python (JavaScript.stripReturn rawLine) =
          .next python := by
        rw [blank, Python.lineStep, if_pos rfl, if_pos none]
      have goes : JavaScript.lineStep parse client rawLine = .next ⟨[], 0⟩ := by
        rw [JavaScript.lineStep]
        simp only
        rw [if_neg small, if_pos blank, if_pos (tracks.dataLines.trans none)]
      rw [stays] at step
      cases step
      refine ⟨_, goes, ⟨none.symm, ?_, tracks.fresh⟩, zero.symm⟩
      exact Nat.le_of_eq (tracks.fresh none)
    · rw [blank, Python.lineStep, if_pos rfl, if_neg none] at step
      exact absurd step (dispatch_ne_next _ _)
  · unfold countAfter at eventLimit ⊢
    rw [if_neg blank] at eventLimit ⊢
    rw [Python.lineStep, if_neg blank] at step
    rw [JavaScript.lineStep]
    simp only at step ⊢
    rw [if_neg small, if_neg blank]
    by_cases comment : (JavaScript.stripReturn rawLine).head? = some ':'
    · rw [if_pos comment] at step ⊢
      rw [if_pos comment]
      by_cases none : python.dataLines = []
      · rw [if_neg (not_not_intro none)] at step
        rw [if_neg (not_not_intro (tracks.dataLines.trans none))]
        cases step
        exact ⟨_, rfl, tracks, rfl⟩
      · rw [if_pos none] at step
        cases step
    · rw [if_neg comment] at step eventLimit ⊢
      rw [if_neg comment]
      by_cases data : (JavaScript.stripReturn rawLine).take 5 = "data:".toList
      · rw [if_neg (not_not_intro data)] at step ⊢
        have value := byteLength_dataValue (JavaScript.stripReturn rawLine)
        have line := byteLength_stripReturn rawLine
        have counted := tracks.counted
        rw [if_neg (by omega)] at step ⊢
        cases step
        refine ⟨_, rfl, ⟨?_, ?_, ?_⟩, rfl⟩
        · show client.dataLines ++ _ = python.dataLines ++ _
          rw [tracks.dataLines, dataValue_eq data]
        · show _ + _ ≤ _ + _
          omega
        · intro none
          exact absurd none (List.append_ne_nil_of_right_ne_nil _ (List.cons_ne_nil _ _))
      · rw [if_pos data] at step
        cases step

/-- Where the Python client delivers an event or ends without a protocol error, the
JavaScript client does the same. -/
theorem lineStep_eq (tracks : Tracks client python)
    (moves : ∀ after,
      Python.lineStep parse python (JavaScript.stripReturn rawLine) ≠ .next after)
    (accepts : Python.lineStep parse python (JavaScript.stripReturn rawLine) ≠
      .ended .protocolError) :
    JavaScript.stripReturn rawLine = [] ∧ JavaScript.lineStep parse client rawLine =
      Python.lineStep parse python (JavaScript.stripReturn rawLine) := by
  by_cases blank : JavaScript.stripReturn rawLine = []
  · have short := byteLength_blank blank
    have small : ¬maxSseEventBytes < byteLength rawLine + 1 := by
      unfold maxSseEventBytes
      omega
    have some_ : python.dataLines ≠ [] := by
      intro none
      apply moves python
      rw [blank, Python.lineStep, if_pos rfl, if_pos none]
    refine ⟨blank, ?_⟩
    rw [JavaScript.lineStep]
    simp only
    rw [if_neg small, if_pos blank, if_neg (tracks.dataLines.symm ▸ some_), blank,
      Python.lineStep, if_pos rfl, if_neg some_, tracks.dataLines]
  · rcases @blank_of_lineStep parse python _ blank with ⟨after, next⟩ | error
    · exact absurd next (moves after)
    · exact absurd error accepts

/-- A line that the Python client rejects is rejected by the JavaScript client. -/
theorem lineStep_protocolError (tracks : Tracks client python)
    (step : Python.lineStep parse python (JavaScript.stripReturn rawLine) =
      .ended .protocolError) :
    JavaScript.lineStep parse client rawLine = .ended .protocolError := by
  rw [JavaScript.lineStep]
  simp only
  by_cases large : maxSseEventBytes < byteLength rawLine + 1
  · rw [if_pos large]
  · rw [if_neg large]
    by_cases blank : JavaScript.stripReturn rawLine = []
    · rw [blank, Python.lineStep, if_pos rfl] at step
      rw [if_pos blank, tracks.dataLines]
      by_cases none : python.dataLines = []
      · rw [if_pos none] at step
        cases step
      · rw [if_neg none] at step ⊢
        exact step
    · rw [Python.lineStep, if_neg blank] at step
      rw [if_neg blank, tracks.dataLines]
      by_cases comment : (JavaScript.stripReturn rawLine).head? = some ':'
      · rw [if_pos comment] at step ⊢
        by_cases none : python.dataLines = []
        · rw [if_neg (not_not_intro none)] at step
          cases step
        · rw [if_pos none]
      · rw [if_neg comment] at step ⊢
        by_cases data : (JavaScript.stripReturn rawLine).take 5 = "data:".toList
        · simp only at step
          rw [if_neg (not_not_intro data)] at step ⊢
          have value := byteLength_dataValue (JavaScript.stripReturn rawLine)
          have line := byteLength_stripReturn rawLine
          have counted := tracks.counted
          split at step
          · rw [if_pos (by omega)]
          · cases step
        · rw [if_pos data]

end Lines

/-! ## The lines of a text -/

theorem splitlinesFrom_plain {plain : List Char} (isPlain : PlainLine plain)
    (line rest : List Char) :
    Python.splitlinesFrom line (plain ++ rest) =
      Python.splitlinesFrom (plain.reverse ++ line) rest := by
  induction plain generalizing line with
  | nil => rfl
  | cons character others inductionHypothesis =>
      have here := isPlain character List.mem_cons_self
      have return_ : character ≠ '\r' := by
        rintro rfl
        cases here
      rw [List.cons_append, Python.splitlinesFrom.eq_3 _ _ _ (fun _ is => absurd is return_), here,
        if_neg Bool.false_ne_true,
        inductionHypothesis (fun other member => isPlain other (List.mem_cons_of_mem _ member)),
        List.reverse_cons, List.append_assoc]
      rfl

/-- A line is read to its line feed. -/
theorem splitlines_line {rawLine : List Char} (plain : PlainLine (JavaScript.stripReturn rawLine))
    (rest : List Char) :
    Python.splitlines (rawLine ++ '\n' :: rest) =
      JavaScript.stripReturn rawLine :: Python.splitlines rest := by
  unfold Python.splitlines
  by_cases ends : rawLine.getLast? = some '\r'
  · obtain ⟨front, rfl⟩ := List.getLast?_eq_some_iff.mp ends
    have strips : JavaScript.stripReturn (front ++ ['\r']) = front := by
      rw [JavaScript.stripReturn, if_pos ends, List.dropLast_concat]
    rw [strips] at plain ⊢
    rw [List.append_assoc, splitlinesFrom_plain plain]
    simp [Python.splitlinesFrom]
  · have strips : JavaScript.stripReturn rawLine = rawLine := if_neg ends
    rw [strips] at plain ⊢
    rw [splitlinesFrom_plain plain]
    simp [Python.splitlinesFrom, Python.isLineBreak]

/-- A text without line breaks is one line at most. -/
theorem splitlines_plain {plain : List Char} (isPlain : PlainLine plain) :
    Python.splitlines plain = if plain = [] then [] else [plain] := by
  have whole := splitlinesFrom_plain isPlain [] []
  rw [List.append_nil, List.append_nil] at whole
  rw [Python.splitlines, whole, Python.splitlinesFrom]
  simp

/-- A line without its carriage return has no line feed, and neither has the line. -/
theorem notMem_of_plain {rawLine : List Char} (plain : PlainLine (JavaScript.stripReturn rawLine)) :
    '\n' ∉ rawLine := by
  intro member
  unfold JavaScript.stripReturn at plain
  split at plain
  · next ends =>
      obtain ⟨front, rfl⟩ := List.getLast?_eq_some_iff.mp ends
      rw [List.dropLast_concat] at plain
      rcases List.mem_append.mp member with inside | last
      · cases plain '\n' inside
      · cases List.mem_singleton.mp last
  · cases plain '\n' member

/-! ## The pieces of a growing text -/

/-- A text without line feeds in front goes to the first piece. -/
theorem splitOn_append {front : List Char} (none : '\n' ∉ front) (rest : List Char) :
    ∃ first others, rest.splitOn '\n' = first :: others ∧
      (front ++ rest).splitOn '\n' = (front ++ first) :: others := by
  induction front with
  | nil =>
      obtain ⟨first, others, split⟩ := List.exists_cons_of_ne_nil (List.splitOn_ne_nil '\n' rest)
      exact ⟨first, others, split, split⟩
  | cons character front inductionHypothesis =>
      rw [List.mem_cons, not_or] at none
      obtain ⟨first, others, split, grown⟩ := inductionHypothesis none.2
      refine ⟨first, others, split, ?_⟩
      rw [List.cons_append, List.splitOn_cons_eq_if_modifyHead, grown, if_neg]
      · rfl
      · rw [beq_iff_eq]
        exact fun same => none.1 same.symm

/-- What comes later goes to the last piece. -/
theorem exists_last_piece (text : List Char) :
    ∃ lines last, text.splitOn '\n' = lines ++ [last] ∧ '\n' ∉ last ∧
      ∀ rest, (text ++ rest).splitOn '\n' = lines ++ (last ++ rest).splitOn '\n' := by
  induction text with
  | nil => exact ⟨[], [], rfl, List.not_mem_nil, fun rest => rfl⟩
  | cons character text inductionHypothesis =>
      obtain ⟨lines, last, split, none, grown⟩ := inductionHypothesis
      by_cases feed : character = '\n'
      · subst feed
        refine ⟨[] :: lines, last, ?_, none, fun rest => ?_⟩
        · rw [List.splitOn_cons_eq_if_modifyHead, if_pos BEq.rfl, split, List.cons_append]
        · rw [List.cons_append, List.splitOn_cons_eq_if_modifyHead, if_pos BEq.rfl, grown,
            List.cons_append]
      · have other : ¬(character == '\n') = true := by rwa [beq_iff_eq]
        cases lines with
        | nil =>
            have whole : text = last := by
              have back := @List.intercalate_splitOn _ text _ _ '\n'
              rw [split] at back
              exact (back.symm.trans (List.append_nil last))
            subst whole
            refine ⟨[], character :: text, ?_, ?_, fun rest => rfl⟩
            · rw [List.splitOn_cons_eq_if_modifyHead, if_neg other, split]
              rfl
            · rw [List.mem_cons, not_or]
              exact ⟨fun same => feed same.symm, none⟩
        | cons line lines =>
            refine ⟨(character :: line) :: lines, last, ?_, none, fun rest => ?_⟩
            · rw [List.splitOn_cons_eq_if_modifyHead, if_neg other, split]
              rfl
            · rw [List.cons_append, List.splitOn_cons_eq_if_modifyHead, if_neg other, grown]
              rfl

theorem splitlines_cons {rawLine : List Char} {pieces : List (List Char)} (more : pieces ≠ [])
    (plain : PlainLine (JavaScript.stripReturn rawLine)) (later : List Char) :
    Python.splitlines (['\n'].intercalate (rawLine :: pieces) ++ later) =
      JavaScript.stripReturn rawLine ::
        Python.splitlines (['\n'].intercalate pieces ++ later) := by
  rw [List.intercalate_cons_of_ne_nil more, List.append_assoc, List.append_assoc]
  exact splitlines_line plain _

/-! ## The loop over the lines -/

section Loops

variable {parse : List Char → Option Json} {client python : LineState}

theorem drain_cons (client : LineState) (rawLine : List Char) {pieces : List (List Char)}
    (more : pieces ≠ []) :
    JavaScript.drain parse client (rawLine :: pieces) =
      match JavaScript.lineStep parse client rawLine with
      | .next state => JavaScript.drain parse state pieces
      | .event data state =>
          (data :: (JavaScript.drain parse state pieces).1, (JavaScript.drain parse state pieces).2)
      | .ended ending => ([], .ended ending (['\n'].intercalate pieces)) := by
  obtain ⟨next, rest, rfl⟩ := List.exists_cons_of_ne_nil more
  exact JavaScript.drain.eq_3 parse client rawLine next rest

theorem harmless_cons {count : Nat} {rawLine : List Char} {pieces : List (List Char)}
    (more : pieces ≠ []) (harmless : Harmless parse python count (rawLine :: pieces)) :
    PlainLine (JavaScript.stripReturn rawLine) ∧
      match Python.lineStep parse python (JavaScript.stripReturn rawLine) with
      | .next state =>
          byteLength rawLine + 1 ≤ maxSseEventBytes ∧
            countAfter count rawLine ≤ maxSseEventBytes ∧
            Harmless parse state (countAfter count rawLine) pieces
      | .event _ state => Harmless parse state 0 pieces
      | .ended .done => pieces = [[]]
      | .ended _ => True := by
  obtain ⟨next, rest, rfl⟩ := List.exists_cons_of_ne_nil more
  exact harmless

theorem ends_cons {rawLine : List Char} {pieces : List (List Char)} (more : pieces ≠ [])
    (ends : Ends parse python (rawLine :: pieces)) :
    match Python.lineStep parse python (JavaScript.stripReturn rawLine) with
    | .next state => Ends parse state pieces
    | .event _ state => Ends parse state pieces
    | .ended _ => True := by
  obtain ⟨next, rest, rfl⟩ := List.exists_cons_of_ne_nil more
  exact ends

theorem dispatch_event {dataLines : List (List Char)} {data : Json} {after : LineState}
    (delivers : dispatch parse dataLines = .event data after) : after = .new := by
  unfold dispatch at delivers
  split at delivers <;> cases delivers
  rfl

theorem lineStep_event {line : List Char} {data : Json} {after : LineState}
    (delivers : Python.lineStep parse python line = .event data after) : after = .new := by
  by_cases blank : line = []
  · rw [Python.lineStep, if_pos blank] at delivers
    split at delivers
    · cases delivers
    · exact dispatch_event delivers
  · rcases @blank_of_lineStep parse python _ blank with ⟨next, goes⟩ | error
    · rw [goes] at delivers
      cases delivers
    · rw [error] at delivers
      cases delivers

/-- The outcome of a client that goes on with some events delivered. -/
def StreamOutcome.after (events : List Json) (outcome : StreamOutcome) : StreamOutcome :=
  (events ++ outcome.1, outcome.2)

/-- What the Python client makes of a text. -/
def Python.readText (parse : List Char → Option Json) (state : LineState) (text : List Char) :
    StreamOutcome :=
  Python.readLines parse state (Python.splitlines text)

/-- Where the JavaScript client is done with some lines: it has ended as the Python
client does, or waits in the same state short of the last piece. -/
inductive Drains (parse : List Char → Option Json) (client python : LineState)
    (lines : List (List Char)) (last rest later : List Char) : Prop where
  | ended (events : List Json) (ending : StreamEnding) (buffer : List Char)
      (drains : JavaScript.drain parse client (lines ++ [last]) =
        (events, .ended ending buffer))
      (reads : Python.readText parse python
        (['\n'].intercalate (lines ++ (last ++ rest).splitOn '\n') ++ later) =
          (events, JavaScript.finish ending buffer))
  | waiting (events : List Json) (nextClient nextPython : LineState)
      (drains : JavaScript.drain parse client (lines ++ [last]) =
        (events, .waiting nextClient last))
      (tracks : Tracks nextClient nextPython)
      (harmless : Harmless parse nextPython nextClient.eventBytes ((last ++ rest).splitOn '\n'))
      (ends : Ends parse python (lines ++ (last ++ rest).splitOn '\n') →
        Ends parse nextPython ((last ++ rest).splitOn '\n'))
      (reads : Python.readText parse python
        (['\n'].intercalate (lines ++ (last ++ rest).splitOn '\n') ++ later) =
          StreamOutcome.after events (Python.readText parse nextPython (last ++ rest ++ later)))

theorem only_blank {lines : List (List Char)} {last rest : List Char}
    (blank : lines ++ (last ++ rest).splitOn '\n' = [[]]) : lines = [] ∧ last = [] := by
  rcases List.append_eq_singleton_iff.mp blank with ⟨none, piece⟩ | ⟨_, piece⟩
  · have back := @List.intercalate_splitOn _ (last ++ rest) _ _ '\n'
    rw [piece] at back
    exact ⟨none, (List.append_eq_nil_iff.mp back.symm).1⟩
  · exact absurd piece (List.splitOn_ne_nil _ _)

theorem drains {lines : List (List Char)} {last rest : List Char} (tracks : Tracks client python)
    (harmless :
      Harmless parse python client.eventBytes (lines ++ (last ++ rest).splitOn '\n'))
    (later : List Char) : Drains parse client python lines last rest later := by
  induction lines generalizing client python with
  | nil =>
      refine .waiting [] client python rfl tracks harmless id ?_
      rw [List.nil_append, List.intercalate_splitOn]
      rfl
  | cons rawLine lines inductionHypothesis =>
      have more : lines ++ (last ++ rest).splitOn '\n' ≠ [] :=
        List.append_ne_nil_of_right_ne_nil _ (List.splitOn_ne_nil _ _)
      have moreHere : lines ++ [last] ≠ [] :=
        List.append_ne_nil_of_right_ne_nil _ (List.cons_ne_nil _ _)
      rw [List.cons_append] at harmless
      obtain ⟨plain, harmlessStep⟩ := harmless_cons more harmless
      have split := splitlines_cons more plain later
      have endsStep := @ends_cons parse python rawLine _ more
      have goes := @drain_cons parse client rawLine _ moreHere
      cases step : Python.lineStep parse python (JavaScript.stripReturn rawLine) with
      | next after =>
          rw [step] at harmlessStep endsStep
          obtain ⟨lineLimit, eventLimit, harmlessLater⟩ := harmlessStep
          obtain ⟨next, clientStep, tracksNext, count⟩ :=
            lineStep_next tracks step lineLimit eventLimit
          rw [clientStep] at goes
          have reads : Python.readText parse python
              (['\n'].intercalate (rawLine :: (lines ++ (last ++ rest).splitOn '\n')) ++ later) =
                Python.readText parse after
                  (['\n'].intercalate (lines ++ (last ++ rest).splitOn '\n') ++ later) := by
            rw [Python.readText, split, Python.readLines, step]
            rfl
          rw [← count] at harmlessLater
          cases inductionHypothesis tracksNext harmlessLater with
          | ended events ending buffer drainsLater readsLater =>
              exact .ended events ending buffer (goes.trans drainsLater) (reads.trans readsLater)
          | waiting events nextClient nextPython drainsLater tracksLater harmlessRest endsRest
              readsLater =>
              exact .waiting events nextClient nextPython (goes.trans drainsLater) tracksLater
                harmlessRest (fun ends => endsRest (endsStep ends)) (reads.trans readsLater)
      | event data after =>
          have new := lineStep_event step
          subst new
          obtain ⟨_, same⟩ := lineStep_eq tracks (by rw [step]; exact nofun)
            (by rw [step]; exact nofun)
          rw [step] at harmlessStep endsStep
          rw [same, step] at goes
          simp only at goes
          have reads : Python.readText parse python
              (['\n'].intercalate (rawLine :: (lines ++ (last ++ rest).splitOn '\n')) ++ later) =
                StreamOutcome.after [data] (Python.readText parse .new
                  (['\n'].intercalate (lines ++ (last ++ rest).splitOn '\n') ++ later)) := by
            rw [Python.readText, split, Python.readLines, step]
            rfl
          cases inductionHypothesis Tracks.new harmlessStep with
          | ended events ending buffer drainsLater readsLater =>
              rw [drainsLater] at goes
              rw [readsLater] at reads
              exact .ended (data :: events) ending buffer goes reads
          | waiting events nextClient nextPython drainsLater tracksLater harmlessRest endsRest
              readsLater =>
              rw [drainsLater] at goes
              rw [readsLater] at reads
              exact .waiting (data :: events) nextClient nextPython goes tracksLater
                harmlessRest (fun ends => endsRest (endsStep ends)) reads
      | ended ending =>
          have reads : Python.readText parse python
              (['\n'].intercalate (rawLine :: (lines ++ (last ++ rest).splitOn '\n')) ++ later) =
                ([], ending) := by
            rw [Python.readText, split, Python.readLines, step]
          cases ending with
          | done =>
              obtain ⟨_, same⟩ := lineStep_eq tracks (by rw [step]; exact nofun)
                (by rw [step]; exact nofun)
              rw [step] at harmlessStep
              rw [same, step] at goes
              obtain ⟨none, blank⟩ := only_blank harmlessStep
              subst none blank
              exact .ended [] .done [] goes reads
          | apiError data =>
              obtain ⟨_, same⟩ := lineStep_eq tracks (by rw [step]; exact nofun)
                (by rw [step]; exact nofun)
              rw [same, step] at goes
              exact .ended [] (.apiError data) _ goes reads
          | protocolError =>
              rw [lineStep_protocolError tracks step] at goes
              exact .ended [] .protocolError _ goes reads

theorem readText_last {last : List Char} (plain : PlainLine last) :
    Python.readText parse python last = ([], .protocolError) := by
  rw [Python.readText, splitlines_plain plain]
  by_cases blank : last = []
  · rw [if_pos blank]
    rfl
  · rw [if_neg blank, Python.readLines]
    rcases @blank_of_lineStep parse python _ blank with ⟨after, next⟩ | error
    · rw [next]
      rfl
    · rw [error]

/-- A buffer beyond the limit of the JavaScript client is the start of a line that the
Python client rejects. -/
theorem readText_oversized {count : Nat} {buffer rest later : List Char} (noFeed : '\n' ∉ buffer)
    (large : maxSseEventBytes < byteLength buffer)
    (harmless : Harmless parse python count ((buffer ++ rest).splitOn '\n'))
    (closed : later = [] ∨ Ends parse python ((buffer ++ rest).splitOn '\n')) :
    Python.readText parse python (buffer ++ rest ++ later) = ([], .protocolError) := by
  have back := @List.intercalate_splitOn _ (buffer ++ rest) _ _ '\n'
  obtain ⟨first, others, _, pieces⟩ := splitOn_append noFeed rest
  rw [pieces] at harmless closed back
  cases others with
  | nil =>
      rw [List.intercalate_singleton] at back
      rw [← back]
      rcases closed with none | ends
      · rw [none, List.append_nil]
        exact readText_last harmless
      · exact ends.elim
  | cons next others =>
      have more : next :: others ≠ [] := List.cons_ne_nil _ _
      obtain ⟨plain, harmlessStep⟩ := harmless_cons more harmless
      have long : maxSseEventBytes < byteLength (buffer ++ first) := by
        rw [byteLength_append]
        omega
      have notBlank : JavaScript.stripReturn (buffer ++ first) ≠ [] := by
        intro blank
        have short := byteLength_blank blank
        unfold maxSseEventBytes at long
        omega
      rw [← back, Python.readText, splitlines_cons more plain, Python.readLines]
      rcases @blank_of_lineStep parse python _ notBlank with ⟨after, goes⟩ | error
      · rw [goes] at harmlessStep
        omega
      · rw [error]

/-! ## The loop over the chunks -/

theorem pending_eq {text : List Char} {left right : Bytes} (cutLeft : Utf8.Pending left)
    (cutRight : Utf8.Pending right) (same : left = Utf8.encode text ++ right) :
    text = [] ∧ right = left := by
  have nothing := @Utf8.decodePiece_encode [] _ cutLeft
  rw [Utf8.encode_nil, List.nil_append] at nothing
  have everything := @Utf8.decodePiece_encode text _ cutRight
  rw [← same, nothing, Option.some.injEq, Prod.mk.injEq] at everything
  exact ⟨everything.1.symm, everything.2.symm⟩

/-- A decoder that cannot meet a byte order mark decodes what a chunk completes. -/
theorem decode_eq {decoder : JavaScript.TextDecoder} {chunk middle : Bytes}
    {text rest : List Char} (cut : Utf8.Pending middle)
    (bytes : decoder.pending ++ chunk = Utf8.encode text ++ middle)
    (mark : decoder.bomSeen = true ∨ (text ++ rest).head? ≠ some JavaScript.byteOrderMark) :
    ∃ next, decoder.decode chunk = some (text, next) ∧ next.pending = middle ∧
      (next.bomSeen = true ∨ rest.head? ≠ some JavaScript.byteOrderMark) := by
  have noMark : ¬(decoder.bomSeen = false ∧ text.head? = some JavaScript.byteOrderMark) := by
    rintro ⟨unseen, first⟩
    rw [List.head?_append, first, unseen] at mark
    rcases mark with seen | other
    · cases seen
    · exact other rfl
  refine ⟨⟨middle, decoder.bomSeen || text ≠ []⟩, ?_, rfl, ?_⟩
  · rw [JavaScript.TextDecoder.decode, bytes, Utf8.decodePiece_encode cut]
    exact if_neg noMark
  · rcases mark with seen | other
    · exact Or.inl (by rw [seen]; rfl)
    · cases text with
      | nil => exact Or.inr other
      | cons character others => exact Or.inl (by simp)

/-- The clients amid a stream: the JavaScript client holds a buffer, its decoder holds
the start of a character, and both have the same text ahead. -/
structure Reads (parse : List Char → Option Json) (decoder : JavaScript.TextDecoder)
    (client python : LineState) (buffer : List Char) (read unread : List Bytes)
    (text : List Char) (pending : Bytes) : Prop where
  bytes : decoder.pending ++ read.flatten = Utf8.encode text ++ pending
  cut : Utf8.Pending pending
  held : Utf8.Pending decoder.pending
  mark : decoder.bomSeen = true ∨ text.head? ≠ some JavaScript.byteOrderMark
  noFeed : '\n' ∉ buffer
  tracks : Tracks client python
  harmless : Harmless parse python client.eventBytes ((buffer ++ text).splitOn '\n')
  closed : (unread = [] ∧ pending = []) ∨ Ends parse python ((buffer ++ text).splitOn '\n')

theorem readChunks_eq {decoder : JavaScript.TextDecoder} {buffer : List Char}
    {read unread : List Bytes} {text : List Char} {pending : Bytes}
    (reads : Reads parse decoder client python buffer read unread text pending) :
    JavaScript.readChunks parse decoder client buffer (read ++ unread) =
      Python.readText parse python
        (buffer ++ text ++ Utf8.decodeReplacing (pending ++ unread.flatten)) := by
  induction read generalizing decoder client python buffer text with
  | nil =>
      have bytes := reads.bytes
      rw [List.flatten_nil, List.append_nil] at bytes
      obtain ⟨none, _⟩ := pending_eq reads.held reads.cut bytes
      subst none
      have harmless := reads.harmless
      have closed := reads.closed
      rw [List.append_nil, List.splitOn_eq_singleton reads.noFeed] at harmless closed
      rcases closed with ⟨noChunks, noPending⟩ | ends
      · subst noChunks noPending
        rw [List.append_nil, List.flatten_nil, List.append_nil]
        have nothing : buffer ++ Utf8.decodeReplacing ([] ++ []) = buffer := List.append_nil buffer
        rw [nothing, readText_last harmless]
        rfl
      · exact ends.elim
  | cons chunk read inductionHypothesis =>
      have bytes := reads.bytes
      rw [List.flatten_cons, ← List.append_assoc] at bytes
      obtain ⟨now, rest, middle, front, cutMiddle, whole, back⟩ := Utf8.exists_cut reads.cut bytes
      subst whole
      obtain ⟨next, decodes, held, mark⟩ := decode_eq cutMiddle front reads.mark
      obtain ⟨lines, last, pieces, noFeed, grown⟩ := exists_last_piece (buffer ++ now)
      have harmless := reads.harmless
      have closed := reads.closed
      have text := @List.intercalate_splitOn _ (buffer ++ (now ++ rest)) _ _ '\n'
      rw [← List.append_assoc, grown] at harmless closed text
      generalize laterEq : Utf8.decodeReplacing (pending ++ unread.flatten) = later at *
      rw [← List.append_assoc, ← text, List.cons_append, JavaScript.readChunks, decodes]
      simp only
      rw [pieces]
      cases drains reads.tracks harmless later with
      | ended events ending rest drained result =>
          rw [drained, result]
      | waiting events nextClient nextPython drained tracks harmlessRest endsRest result =>
          rw [drained, result]
          have closedRest := closed.imp_right endsRest
          simp only
          by_cases large : maxSseEventBytes < byteLength last
          · have cutOff : later = [] ∨ Ends parse nextPython ((last ++ rest).splitOn '\n') := by
              refine closedRest.imp_left ?_
              rintro ⟨noChunks, noPending⟩
              rw [← laterEq, noChunks, noPending]
              rfl
            rw [if_pos large, readText_oversized noFeed large harmlessRest cutOff,
              StreamOutcome.after, List.append_nil]
          · have goesOn : Reads parse next nextClient nextPython last read unread rest pending :=
              ⟨held.symm ▸ back, reads.cut, held.symm ▸ cutMiddle, mark, noFeed, tracks,
                harmlessRest, closedRest⟩
            rw [if_neg large, inductionHypothesis goesOn]
            rfl

end Loops

/-- A stream on which the clients go together: chunks of well-formed UTF-8 without a
byte order mark in front, whose lines are harmless, and which end the stream, unless
they are all there is of it. Chunks behind the end are anything. -/
def Common (parse : List Char → Option Json) (chunks : List Bytes) : Prop :=
  ∃ read unread text pending, chunks = read ++ unread ∧
    read.flatten = Utf8.encode text ++ pending ∧ Utf8.Pending pending ∧
    text.head? ≠ some JavaScript.byteOrderMark ∧ Harmless parse .new 0 (text.splitOn '\n') ∧
    ((unread = [] ∧ pending = []) ∨ Ends parse .new (text.splitOn '\n'))

/-- On a common stream both clients deliver the same events and end the same way. -/
theorem stream_clients_agree (parse : List Char → Option Json) (chunks : List Bytes)
    (common : Common parse chunks) :
    JavaScript.streamChatCompletions parse chunks =
      Python.streamChatCompletions parse chunks := by
  obtain ⟨read, unread, text, pending, rfl, bytes, cut, mark, harmless, closed⟩ := common
  have reads : Reads parse .new .new .new [] read unread text pending :=
    ⟨bytes, cut, Or.inl rfl, Or.inr mark, List.not_mem_nil, Tracks.new, harmless, closed⟩
  have decoded : Utf8.decodeReplacing (read ++ unread).flatten =
      text ++ Utf8.decodeReplacing (pending ++ unread.flatten) := by
    rw [List.flatten_append, bytes, List.append_assoc, Utf8.decodeReplacing_append]
  rw [JavaScript.streamChatCompletions, readChunks_eq reads, Python.streamChatCompletions, decoded]
  rfl

/-- A comment, an event and the end, cut inside a character of the comment. -/
def cutStream : List Bytes :=
  [Utf8.encode ": ".toList ++ [0xc3],
    [0xa9] ++ Utf8.encode "\r\n\ndata: \x7b\x7d\n\ndata: [DONE]\n\n".toList]

def parseEmpty (text : List Char) : Option Json :=
  if text = "\x7b\x7d".toList then some (.dict []) else none

theorem cutStream_common : Common parseEmpty cutStream := by
  have pieces : ": é\r\n\ndata: \x7b\x7d\n\ndata: [DONE]\n\n".toList.splitOn '\n' =
      [": é\r".toList, [], "data: \x7b\x7d".toList, [], "data: [DONE]".toList, [], []] := by
    decide
  have comment : Python.lineStep parseEmpty .new (JavaScript.stripReturn ": é\r".toList) =
      .next .new := rfl
  have blank : Python.lineStep parseEmpty .new (JavaScript.stripReturn []) = .next .new := rfl
  have data : Python.lineStep parseEmpty .new
      (JavaScript.stripReturn "data: \x7b\x7d".toList) = .next ⟨["\x7b\x7d".toList], 2⟩ := rfl
  have event : Python.lineStep parseEmpty ⟨["\x7b\x7d".toList], 2⟩
      (JavaScript.stripReturn []) = .event (.dict []) .new := rfl
  have mark : Python.lineStep parseEmpty .new
      (JavaScript.stripReturn "data: [DONE]".toList) = .next ⟨["[DONE]".toList], 6⟩ := rfl
  have done : Python.lineStep parseEmpty ⟨["[DONE]".toList], 6⟩
      (JavaScript.stripReturn []) = .ended .done := rfl
  refine ⟨cutStream, [], ": é\r\n\ndata: \x7b\x7d\n\ndata: [DONE]\n\n".toList, [],
    (List.append_nil _).symm, by decide, Or.inl rfl, by decide, ?_, Or.inl ⟨rfl, rfl⟩⟩
  rw [pieces]
  simp only [Harmless, comment, blank, data, event, mark, done, plainLine_iff]
  decide

theorem stream_clients_agree_sample :
    Common parseEmpty cutStream ∧
      JavaScript.streamChatCompletions parseEmpty cutStream =
        Python.streamChatCompletions parseEmpty cutStream :=
  ⟨cutStream_common, stream_clients_agree parseEmpty cutStream cutStream_common⟩

/-! ## A line separator inside an event -/

/-- The text of an event that holds a line separator inside a string. -/
def separatorEvent : List Char := "\x7b\"a\":\"\u2028\"\x7d".toList

def parseSeparator (text : List Char) : Option Json :=
  if text = separatorEvent then some (.dict [("a", .str "\u2028")]) else none

/-- The event and the end, in one chunk. -/
def separatorStream : List Bytes :=
  [Utf8.encode ("data: ".toList ++ separatorEvent ++ "\n\ndata: [DONE]\n\n".toList)]

/-- The JavaScript client delivers the event and ends. The Python client reads the
event as two lines and ends with a protocol error. -/
theorem stream_clients_differ :
    ¬∀ parse chunks, JavaScript.streamChatCompletions parse chunks =
      Python.streamChatCompletions parse chunks := by
  intro agree
  have same := agree parseSeparator separatorStream
  have delivered : (JavaScript.streamChatCompletions parseSeparator separatorStream).1.length = 1 :=
    by decide
  have missed : (Python.streamChatCompletions parseSeparator separatorStream).1.length = 0 := by
    decide
  rw [same, missed] at delivered
  cases delivered

end Zangpu.Sdk
