import Zangpu.Sdk.Streaming.Agreement
import Zangpu.Services.Streaming.Events

/-!
Relayed frames on their way to a customer.

Owns: the reading of one relayed frame by the decoder's own line rules and by the
event rules of the JavaScript client; and the exact event data that both read
back as relayed.

Does not own: the division of frames into network chunks.
-/

set_option autoImplicit false

namespace Zangpu.Sdk

open Zangpu.Foundation
open Zangpu.Services.Streaming (Bytes Json Parser ascii newline maxSseLineBytes sseDone)
open Zangpu.Services.Streaming.OpenAIStreamDecoder

/-! ## The decoder's line rules -/

/-- The lines of the frame of some data are one event with that data. -/
def ReadsOwn (data : Bytes) : Prop :=
  readLines [] (completeLines (relayed data)) = some ([data], [])

/-- The size of some data lines, joined and ended. -/
def joinedSize (lines : List Bytes) : Nat := (lines.map fun line => line.length + 1).sum

theorem joinedSize_append (left right : List Bytes) :
    joinedSize (left ++ right) = joinedSize left + joinedSize right := by
  rw [joinedSize, List.map_append, List.sum_append]
  rfl

theorem length_intercalate {lines : List Bytes} (some_ : lines ≠ []) :
    (List.intercalate [newline] lines).length + 1 = joinedSize lines := by
  induction lines with
  | nil => exact absurd rfl some_
  | cons line more inductionHypothesis =>
      cases more with
      | nil => simp [joinedSize, List.intercalate]
      | cons next rest =>
          have joined := inductionHypothesis (List.cons_ne_nil next rest)
          have shape : List.intercalate [newline] (line :: next :: rest) =
              line ++ newline :: List.intercalate [newline] (next :: rest) := by
            simp [List.intercalate, List.intersperse]
          rw [shape, List.length_append, List.length_cons]
          simp only [joinedSize, List.map_cons, List.sum_cons] at joined ⊢
          omega

theorem length_stripCarriageReturn (line : Bytes) :
    (stripCarriageReturn line).length ≤ line.length := by
  unfold stripCarriageReturn
  split
  · rw [List.length_dropLast]
    omega
  · exact Nat.le_refl _

theorem length_dataValue (line : Bytes) : (dataValue line).length ≤ line.length - 5 := by
  unfold dataValue
  rw [← List.length_drop]
  split
  · rename_i value shape
    rw [shape, List.length_cons]
    omega
  · exact Nat.le_refl _

/-- Reading never yields more data than the lines hold without their breaks. -/
theorem readLines_size {lines : List Bytes} {collected events rest : List Bytes}
    (read : readLines collected lines = some (events, rest)) :
    joinedSize events + joinedSize rest ≤ joinedSize collected + (lines.map List.length).sum := by
  induction lines generalizing collected events rest with
  | nil =>
      cases read
      simp [joinedSize]
  | cons line more inductionHypothesis =>
      rw [readLines] at read
      rw [List.map_cons, List.sum_cons]
      split at read
      · cases read
      · split at read
        · split at read
          · rename_i empty
            have shorter := inductionHypothesis read
            rw [empty]
            omega
          · rename_i filled
            obtain ⟨⟨later, left⟩, readMore, equal⟩ := Option.map_eq_some_iff.mp read
            cases equal
            have shorter := inductionHypothesis readMore
            have joined := length_intercalate filled
            simp only [joinedSize, List.map_cons, List.sum_cons, List.map_nil, List.sum_nil]
              at shorter joined ⊢
            omega
        · split at read
          · have shorter := inductionHypothesis read
            omega
          · split at read
            · rename_i field
              have shorter := inductionHypothesis read
              have five : 5 ≤ (stripCarriageReturn line).length :=
                (List.isPrefixOf_iff_prefix.mp field).length_le
              have value := length_dataValue (stripCarriageReturn line)
              have stripped := length_stripCarriageReturn line
              rw [joinedSize_append] at shorter
              simp only [joinedSize, List.map_cons, List.sum_cons, List.map_nil, List.sum_nil]
                at shorter ⊢
              omega
            · cases read

/-- Complete lines take up their bytes, breaks included. -/
theorem joinedSize_completeLines (bytes : Bytes) :
    joinedSize (completeLines bytes) ≤ bytes.length := by
  induction bytes using linesInduction with
  | partialLine line unbroken =>
      rw [completeLines_unterminated unbroken]
      exact Nat.zero_le _
  | completeLine line rest unbroken inductionHypothesis =>
      rw [completeLines_line rest unbroken, List.length_append, List.length_cons]
      simp only [joinedSize, List.map_cons, List.sum_cons] at inductionHypothesis ⊢
      omega

theorem joinedSize_eq (lines : List Bytes) :
    joinedSize lines = (lines.map List.length).sum + lines.length := by
  induction lines with
  | nil => rfl
  | cons line more inductionHypothesis =>
      simp only [joinedSize, List.map_cons, List.sum_cons, List.length_cons]
        at inductionHypothesis ⊢
      omega

/-- The prefix of a relayed line. -/
def dataPrefix : Bytes := ascii "data: "

theorem relayed_eq (data : Bytes) : relayed data = dataPrefix ++ data ++ [newline, newline] := rfl

theorem newline_notMem_dataPrefix : newline ∉ dataPrefix := by decide

theorem stripCarriageReturn_dataPrefix (data : Bytes) :
    stripCarriageReturn (dataPrefix ++ data) = dataPrefix ++ stripCarriageReturn data := by
  rcases List.eq_nil_or_concat data with rfl | ⟨front, byte, rfl⟩
  · decide
  · unfold stripCarriageReturn
    rw [List.concat_eq_append, ← List.append_assoc, List.getLast?_concat, List.getLast?_concat, List.dropLast_concat,
      List.dropLast_concat]
    split
    · rfl
    · rw [List.append_assoc]

/-- The lines of the frame of unbroken data. -/
theorem completeLines_relayed {data : Bytes} (unbroken : newline ∉ data) :
    completeLines (relayed data) = [dataPrefix ++ data, []] := by
  have line : newline ∉ dataPrefix ++ data :=
    List.not_mem_append newline_notMem_dataPrefix unbroken
  rw [relayed_eq, show dataPrefix ++ data ++ [newline, newline] =
    (dataPrefix ++ data) ++ newline :: ([] ++ newline :: []) from rfl,
    completeLines_line _ line, completeLines_line _ List.not_mem_nil,
    completeLines_unterminated List.not_mem_nil]

/-- The first line of a frame puts its value first. -/
theorem readLines_dataPrefix (line : Bytes) (more : List Bytes) :
    readLines [] ((dataPrefix ++ line) :: more) =
      if maxSseLineBytes < (stripCarriageReturn line).length + 6 then none
      else readLines [stripCarriageReturn line] more := by
  have size : (dataPrefix ++ stripCarriageReturn line).length =
      (stripCarriageReturn line).length + 6 := by
    rw [List.length_append, Nat.add_comm]
    rfl
  have value : dataValue (dataPrefix ++ stripCarriageReturn line) = stripCarriageReturn line := rfl
  rw [readLines, stripCarriageReturn_dataPrefix, size]
  split
  · rfl
  · rw [if_neg (List.append_ne_nil_of_left_ne_nil (by decide) _), if_neg, if_pos, value]
    · rfl
    · exact List.isPrefixOf_iff_prefix.mpr ⟨32 :: stripCarriageReturn line, rfl⟩
    · intro comment
      cases comment

/-- Unbroken data reads back without one trailing carriage return. -/
theorem readLines_relayed {data : Bytes} (unbroken : newline ∉ data) :
    readLines [] (completeLines (relayed data)) =
      if maxSseLineBytes < (stripCarriageReturn data).length + 6 then none
      else some ([stripCarriageReturn data], []) := by
  have dispatched : readLines [stripCarriageReturn data] [[]] =
      some ([stripCarriageReturn data], []) := by
    simp [readLines, stripCarriageReturn, List.intercalate]
  rw [completeLines_relayed unbroken, readLines_dataPrefix, dispatched]

theorem stripCarriageReturn_eq_iff {data : Bytes} :
    stripCarriageReturn data = data ↔ data.getLast? ≠ some 13 := by
  unfold stripCarriageReturn
  split
  · rename_i ends
    refine iff_of_false ?_ (not_not.mpr ends)
    intro same
    have size := congrArg List.length same
    obtain ⟨front, rfl⟩ := List.getLast?_eq_some_iff.mp ends
    rw [List.dropLast_concat, List.length_append] at size
    exact absurd size (by simp)
  · rename_i ends
    exact iff_of_true rfl ends

theorem completeLines_ne_nil {bytes : Bytes} (broken : newline ∈ bytes) :
    completeLines bytes ≠ [] := by
  obtain ⟨line, more, rfl, unbroken⟩ := List.eq_append_cons_of_mem broken
  rw [completeLines_line more unbroken]
  exact List.cons_ne_nil _ _

/-- Broken data reads back shorter: every further line loses its break. -/
theorem not_readsOwn_of_newline {data : Bytes} (broken : newline ∈ data) : ¬ReadsOwn data := by
  obtain ⟨line, more, rfl, unbroken⟩ := List.eq_append_cons_of_mem broken
  intro reads
  have first : newline ∉ dataPrefix ++ line :=
    List.not_mem_append newline_notMem_dataPrefix unbroken
  have shape : relayed (line ++ newline :: more) =
      (dataPrefix ++ line) ++ newline :: (more ++ [newline] ++ [newline]) := by
    simp [relayed_eq]
  have two : 2 ≤ (completeLines (more ++ [newline] ++ [newline])).length := by
    rw [completeLines_append, List.length_append]
    have left := List.length_pos_iff.mpr
      (completeLines_ne_nil (List.mem_append_right more (List.mem_singleton_self newline)))
    have right := List.length_pos_iff.mpr (completeLines_ne_nil
      (List.mem_append_right (residual (more ++ [newline])) (List.mem_singleton_self newline)))
    omega
  rw [ReadsOwn, shape, completeLines_line _ first, readLines_dataPrefix] at reads
  split at reads
  · cases reads
  · have shorter := readLines_size reads
    have bytes := joinedSize_completeLines (more ++ [newline] ++ [newline])
    have stripped := length_stripCarriageReturn line
    rw [joinedSize_eq] at bytes
    simp only [joinedSize, List.map_cons, List.sum_cons, List.map_nil, List.sum_nil,
      List.length_append, List.length_cons, List.length_nil] at shorter bytes
    omega

/-- **Own rules.** Data reads back from its frame exactly when it is one line that
does not end in a carriage return and fits the limit with its prefix. -/
theorem readsOwn_iff {data : Bytes} :
    ReadsOwn data ↔
      newline ∉ data ∧ data.getLast? ≠ some 13 ∧ data.length + 6 ≤ maxSseLineBytes := by
  by_cases unbroken : newline ∉ data
  · rw [ReadsOwn, readLines_relayed unbroken]
    by_cases plain : data.getLast? ≠ some 13
    · rw [stripCarriageReturn_eq_iff.mpr plain]
      split
      · rename_i long
        exact iff_of_false (fun none => by cases none) fun all => by omega
      · rename_i short
        exact iff_of_true rfl ⟨unbroken, plain, by omega⟩
    · refine iff_of_false ?_ fun all => plain all.2.1
      intro reads
      split at reads
      · cases reads
      · have single := congrArg Prod.fst (Option.some.inj reads)
        exact plain (stripCarriageReturn_eq_iff.mp (List.cons.inj single).1)
  · exact iff_of_false (not_readsOwn_of_newline (not_not.mp unbroken)) fun all => unbroken all.1

/-! ## The event rules of the JavaScript client -/

/-- The texts of the events that the lines of a buffer dispatch, with the state and
the partial line behind them, when no line ends the iteration. -/
def eventTexts (parse : List Char → Option Json) :
    LineState → List (List Char) → Option (List (List Char) × LineState × List Char)
  | state, [] => some ([], state, [])
  | state, [buffer] => some ([], state, buffer)
  | state, rawLine :: next :: rest =>
      match JavaScript.lineStep parse state rawLine with
      | .next after => eventTexts parse after (next :: rest)
      | .event _ after => (eventTexts parse after (next :: rest)).map fun read =>
          (['\n'].intercalate state.dataLines :: read.1, read.2)
      | .ended _ => none

/-- An event that a line delivers is what the parser says about its text. -/
theorem event_of_lineStep {parse : List Char → Option Json} {state after : LineState}
    {rawLine : List Char} {data : Json}
    (stepped : JavaScript.lineStep parse state rawLine = .event data after) :
    parse (['\n'].intercalate state.dataLines) = some data := by
  have dispatched : dispatch parse state.dataLines = .event data after := by
    unfold JavaScript.lineStep at stepped
    dsimp only at stepped
    split_ifs at stepped
    exact stepped
  unfold dispatch readEvent at dispatched
  split at dispatched
  · cases dispatched
  · rename_i delivered read
    split at read
    · cases read
    · split at read
      · rename_i entries parsed
        split at read
        · cases read
        · cases read
          cases dispatched
          exact parsed
      · cases read
  · cases dispatched
  · cases dispatched

/-- The client's loop delivers what the parser says about these texts. -/
theorem drain_of_eventTexts {parse : List Char → Option Json} {state after : LineState}
    {pieces texts : List (List Char)} {buffer : List Char}
    (read : eventTexts parse state pieces = some (texts, after, buffer)) :
    ∃ events, JavaScript.drain parse state pieces = (events, .waiting after buffer) ∧
      texts.map parse = events.map some := by
  induction pieces generalizing state texts with
  | nil =>
      cases read
      exact ⟨[], rfl, rfl⟩
  | cons rawLine more inductionHypothesis =>
      cases more with
      | nil =>
          cases read
          exact ⟨[], rfl, rfl⟩
      | cons next rest =>
          cases stepped : JavaScript.lineStep parse state rawLine with
          | next following =>
              simp only [eventTexts, stepped] at read
              simp only [JavaScript.drain, stepped]
              exact inductionHypothesis read
          | event data following =>
              simp only [eventTexts, stepped] at read
              simp only [JavaScript.drain, stepped]
              obtain ⟨⟨later, behind⟩, readRest, equal⟩ := Option.map_eq_some_iff.mp read
              cases equal
              obtain ⟨events, drained, same⟩ := inductionHypothesis readRest
              rw [drained]
              refine ⟨data :: events, rfl, ?_⟩
              rw [List.map_cons, List.map_cons, same, event_of_lineStep stepped]
          | ended ending =>
              simp only [eventTexts, stepped] at read
              cases read

/-- The text of the frame of some data is one event with the text of that data. -/
def ReadsInClient (parse : List Char → Option Json) (data : Bytes) : Prop :=
  ∃ frameText text, Utf8.decode (relayed data) = some frameText ∧ Utf8.decode data = some text ∧
    eventTexts parse .new (frameText.splitOn '\n') = some ([text], .new, [])

/-- Data that is a text which the parser reads as an object without an error. -/
def ParsesAsEvent (parse : List Char → Option Json) (data : Bytes) : Prop :=
  ∃ text entries, Utf8.decode data = some text ∧ parse text = some (.dict entries) ∧
    entries.lookup "error" = none

/-- What the client does with one event text: it delivers an object without an
error, and ends otherwise. -/
theorem dispatch_single {parse : List Char → Option Json} {text : List Char}
    (other : text ≠ "[DONE]".toList) :
    (∃ entries, parse text = some (.dict entries) ∧ entries.lookup "error" = none ∧
        dispatch parse [text] = .event (.dict entries) .new) ∨
      ((¬∃ entries, parse text = some (.dict entries) ∧ entries.lookup "error" = none) ∧
        ∃ ending, dispatch parse [text] = .ended ending) := by
  have joined : ['\n'].intercalate [text] = text := by simp [List.intercalate]
  unfold dispatch readEvent
  rw [joined, if_neg other]
  cases parsed : parse text with
  | none =>
      refine Or.inr ⟨?_, _, rfl⟩
      rintro ⟨_, absent, _⟩
      cases absent
  | some payload =>
      cases payload with
      | dict entries =>
          cases named : entries.lookup "error" with
          | none => exact Or.inl ⟨entries, rfl, named, by simp [named]⟩
          | some value =>
              refine Or.inr ⟨?_, .apiError (.dict entries), by simp [named]⟩
              rintro ⟨members, same, absent⟩
              cases same
              rw [named] at absent
              cases absent
      | _ =>
          refine Or.inr ⟨?_, _, rfl⟩
          rintro ⟨_, absent, _⟩
          cases absent

/-- The event rules on the text of one plain line of data. -/
theorem eventTexts_line {parse : List Char → Option Json} {text : List Char}
    (other : text ≠ "[DONE]".toList) (plain : text.getLast? ≠ some '\r') :
    eventTexts parse .new ["data: ".toList ++ text, [], []] = some ([text], .new, []) ↔
      byteLength text + 7 ≤ maxSseEventBytes ∧
        ∃ entries, parse text = some (.dict entries) ∧ entries.lookup "error" = none := by
  have kept : JavaScript.stripReturn ("data: ".toList ++ text) = "data: ".toList ++ text := by
    refine if_neg fun ends => plain ?_
    rcases List.eq_nil_or_concat text with rfl | ⟨front, last, rfl⟩
    · exact absurd ends (by decide)
    · rw [List.concat_eq_append, ← List.append_assoc, List.getLast?_concat] at ends
      rw [List.concat_eq_append, List.getLast?_concat]
      exact ends
  have size : byteLength ("data: ".toList ++ text) + 1 = byteLength text + 7 := by
    rw [byteLength_append, show byteLength "data: ".toList = 6 from by decide]
    omega
  have value : JavaScript.dataValue ("data: ".toList ++ text) = text := rfl
  have filled : "data: ".toList ++ text ≠ [] := List.append_ne_nil_of_left_ne_nil (by decide) _
  have noComment : ("data: ".toList ++ text).head? ≠ some ':' := by
    intro comment
    cases comment
  have field : ("data: ".toList ++ text).take 5 = "data:".toList := rfl
  have step : JavaScript.lineStep parse .new ("data: ".toList ++ text) =
      if maxSseEventBytes < byteLength text + 7 then .ended .protocolError
      else .next ⟨[text], byteLength text + 7⟩ := by
    unfold JavaScript.lineStep
    simp only [kept, size, value, filled, noComment, field, LineState.new, ↓reduceIte,
      List.nil_append, Nat.zero_add, ne_eq, not_true_eq_false]
    split
    · rfl
    · rfl
  have blank : ∀ count, JavaScript.lineStep parse ⟨[text], count⟩ [] = dispatch parse [text] :=
    fun count => rfl
  rw [eventTexts, step]
  split
  · rename_i following stepped
    split at stepped
    · cases stepped
    · rename_i short
      cases stepped
      rw [eventTexts, blank]
      rcases @dispatch_single parse text other with ⟨entries, parsed, noError, delivered⟩ |
        ⟨unparsed, ending, ended⟩
      · rw [delivered]
        exact iff_of_true (by simp [eventTexts, List.intercalate])
          ⟨by omega, entries, parsed, noError⟩
      · rw [ended]
        exact iff_of_false (fun none => by cases none) fun all => unparsed all.2
  · rename_i stepped
    split at stepped <;> cases stepped
  · rename_i ending stepped
    split at stepped
    · rename_i long
      exact iff_of_false (fun none => by cases none) fun all => by omega
    · cases stepped

/-- **Client rules.** Data that is one plain line reads back in the client exactly
when it fits the limit with its prefix and its break and parses as an event. -/
theorem readsInClient_iff {parse : List Char → Option Json} {data : Bytes}
    (other : data ≠ doneMarker) (unbroken : newline ∉ data) (plain : data.getLast? ≠ some 13) :
    ReadsInClient parse data ↔ data.length + 7 ≤ maxSseEventBytes ∧ ParsesAsEvent parse data := by
  by_cases isText : ∃ text, data = Utf8.encode text
  · obtain ⟨text, rfl⟩ := isText
    have decoded : Utf8.decode (Utf8.encode text) = some text := Utf8.decode_eq_some_iff.mpr rfl
    have frame : relayed (Utf8.encode text) =
        Utf8.encode ("data: ".toList ++ text ++ ['\n', '\n']) := by
      rw [Utf8.encode_append, Utf8.encode_append]
      rfl
    have decodedFrame : Utf8.decode (relayed (Utf8.encode text)) =
        some ("data: ".toList ++ text ++ ['\n', '\n']) := Utf8.decode_eq_some_iff.mpr frame
    have unbrokenText : '\n' ∉ "data: ".toList ++ text := by
      refine List.not_mem_append (by decide) fun member => unbroken ?_
      exact List.mem_flatMap.mpr ⟨'\n', member, by decide⟩
    have pieces : ("data: ".toList ++ text ++ ['\n', '\n']).splitOn '\n' =
        ["data: ".toList ++ text, [], []] := by
      obtain ⟨first, others, split, grown⟩ := splitOn_append unbrokenText ['\n', '\n']
      rw [show ['\n', '\n'].splitOn '\n' = [[], [], []] from by decide] at split
      cases split
      rw [grown, List.append_nil]
    have notDone : text ≠ "[DONE]".toList := by
      rintro rfl
      exact other (by decide)
    have plainText : text.getLast? ≠ some '\r' := by
      intro ends
      obtain ⟨front, rfl⟩ := List.getLast?_eq_some_iff.mp ends
      refine plain ?_
      rw [Utf8.encode_append, show Utf8.encode ['\r'] = [13] from by decide, List.getLast?_concat]
    have read := @eventTexts_line parse text notDone plainText
    constructor
    · rintro ⟨frameText, ownText, sameFrame, sameText, reads⟩
      rw [decodedFrame] at sameFrame
      rw [decoded] at sameText
      cases sameFrame
      cases sameText
      rw [pieces, read] at reads
      obtain ⟨short, entries, parsed, noError⟩ := reads
      exact ⟨short, text, entries, decoded, parsed, noError⟩
    · rintro ⟨short, ownText, entries, sameText, parsed, noError⟩
      rw [decoded] at sameText
      cases sameText
      refine ⟨_, text, decodedFrame, decoded, ?_⟩
      rw [pieces, read]
      exact ⟨short, entries, parsed, noError⟩
  · have undecoded : ∀ text, Utf8.decode data ≠ some text := fun text decoded =>
      isText ⟨text, Utf8.decode_eq_some_iff.mp decoded⟩
    refine iff_of_false ?_ ?_
    · rintro ⟨_, text, _, decoded, _⟩
      exact undecoded text decoded
    · rintro ⟨_, text, _, decoded, _⟩
      exact undecoded text decoded

/-! ## Frames -/

/-- The data of the events of a byte string, without the marker. -/
def eventData (bytes : Bytes) : List Bytes :=
  match readLines [] (completeLines bytes) with
  | some (events, _) => events.filter fun data => decide (data ≠ doneMarker)
  | none => []

/-- The frame of some data is one event with that data for both readers. -/
def ReadsBack (parse : List Char → Option Json) (data : Bytes) : Prop :=
  ReadsOwn data ∧ ReadsInClient parse data

/-- Data that both readers take from its frame unchanged. -/
structure Relayable (parse : List Char → Option Json) (data : Bytes) : Prop where
  oneLine : newline ∉ data
  plain : data.getLast? ≠ some 13
  short : data.length + 7 ≤ maxSseEventBytes
  parses : ParsesAsEvent parse data

/-- **Emitted frames that decode back.** Whatever feeds raise nothing, the frames
before the end are those of the events of their bytes, in order, and the frame of
an event reads back as that event in the decoder and in the client exactly when its
data is one line, does not end in a carriage return, fits the client's limit with
its prefix and its break, and parses there as an object without an error. -/
theorem relayed_frames_read_back_iff (parser : Parser) (parse : List Char → Option Json)
    (chunks frames : List Bytes) (last : Services.Streaming.OpenAIStreamDecoder)
    (fed : feeds parser new chunks = .ok (frames, last)) :
    (frames.filter fun frame => decide (frame ≠ sseDone)) =
        (eventData chunks.flatten).map relayed ∧
      ∀ data ∈ eventData chunks.flatten, ReadsBack parse data ↔ Relayable parse data := by
  obtain ⟨left, ran, _, _⟩ := feeds_ok List.not_mem_nil fed
  obtain ⟨events, reading⟩ := runLines_reads rfl ran
  have notDone : ∀ data ∈ events, data ≠ doneMarker := fun data member =>
    (reading.metered.chunks data member).notDone
  have data_eq : eventData chunks.flatten = events := by
    have read := reading.read
    have kept : (events.filter fun data => decide (data ≠ doneMarker)) = events :=
      List.filter_eq_self.mpr fun data member => decide_eq_true (notDone data member)
    rw [show (new : Services.Streaming.OpenAIStreamDecoder).dataLines = [] from rfl,
      show (new : Services.Streaming.OpenAIStreamDecoder).buffer = [] from rfl,
      List.nil_append] at read
    rw [eventData, read]
    dsimp only
    split
    · rw [List.filter_append, kept]
      simp
    · exact kept
  rw [data_eq]
  constructor
  · have relays : ((events.map relayed).filter fun frame => decide (frame ≠ sseDone)) =
        events.map relayed := by
      refine List.filter_eq_self.mpr fun frame member => decide_eq_true ?_
      obtain ⟨data, dataMember, rfl⟩ := List.mem_map.mp member
      rw [sseDone_eq]
      exact fun same => notDone data dataMember (relayed_injective same)
    rw [reading.frames, List.filter_append, relays]
    split
    · simp
    · simp
  · intro data member
    have limits : maxSseEventBytes = maxSseLineBytes := rfl
    constructor
    · rintro ⟨own, client⟩
      obtain ⟨oneLine, plain, _⟩ := readsOwn_iff.mp own
      obtain ⟨short, parses⟩ := (readsInClient_iff (notDone data member) oneLine plain).mp client
      exact ⟨oneLine, plain, short, parses⟩
    · rintro ⟨oneLine, plain, short, parses⟩
      exact ⟨readsOwn_iff.mpr ⟨oneLine, plain, by omega⟩,
        (readsInClient_iff (notDone data member) oneLine plain).mpr ⟨short, parses⟩⟩

/-- `JSON.parse` on the sample payload. -/
def clientParse (text : List Char) : Option Json := usageParser.loads (Utf8.encode text)

/-- The members of the sample payload. -/
def usageEntries : List (String × Json) :=
  [("id", .str "chatcmpl-1"), ("object", .str "chat.completion.chunk"), ("model", .str "model-1"),
    ("choices", .list []),
    ("usage", .dict [("prompt_tokens", .int 1), ("completion_tokens", .int 1),
      ("total_tokens", .int 2)])]

theorem relayed_frames_read_back_iff_sample : ReadsBack clientParse usagePayload := by
  have fed : feeds usageParser new [endedStream] =
      .ok ([relayed usagePayload, sseDone],
        ⟨[], [], true, some ⟨1, 1, 2, by decide, by decide, by decide, by decide⟩⟩) := by
    decide +kernel
  have member : usagePayload ∈ eventData [endedStream].flatten := by decide +kernel
  refine ((relayed_frames_read_back_iff usageParser clientParse [endedStream] _ _ fed).2
    usagePayload member).mpr ⟨by decide +kernel, by decide +kernel, by decide +kernel, ?_⟩
  obtain ⟨text, decoded⟩ : ∃ text, Utf8.decode usagePayload = some text :=
    Option.isSome_iff_exists.mp (by decide +kernel)
  refine ⟨text, usageEntries, decoded, ?_, rfl⟩
  rw [clientParse, ← Utf8.decode_eq_some_iff.mp decoded, usageParser]
  dsimp only
  rw [if_pos rfl, usageEntries]

/-! ### An event of two data lines -/

/-- The chunk object of a stream, split behind its first member. -/
def splitPayload : Bytes :=
  ascii "\x7b\"id\":\"chatcmpl-1\"," ++ newline ::
    ascii ("\"object\":\"chat.completion.chunk\",\"model\":\"model-1\",\"choices\":" ++
      "[\x7b\"index\":0,\"delta\":\x7b\"content\":\"ok\"\x7d\x7d]\x7d")

/-- `json.loads` on that payload. -/
def splitParser : Parser where
  loads data :=
    if data = splitPayload then
      some (.dict [("id", .str "chatcmpl-1"), ("object", .str "chat.completion.chunk"),
        ("model", .str "model-1"),
        ("choices", .list [.dict [("index", .int 0), ("delta", .dict [("content", .str "ok")])]])])
    else none
  coerceInt
    | .int value => some value
    | _ => none

/-- The event in two data lines, behind a comment. -/
def splitChunks : List Bytes :=
  [ascii ": upstream heartbeat\r\n\r\ndata: \x7b\"id\":\"chatcmpl-1\",\r\n",
    ascii ("data: \"object\":\"chat.completion.chunk\",\"model\":\"model-1\",\"choices\":" ++
      "[\x7b\"index\":0,\"delta\":\x7b\"content\":\"ok\"\x7d\x7d]\x7d\r\n\r\n")]

/-- Every frame that some feeds emit reads back as its event. -/
def FramesReadBack (parser : Parser) (parse : List Char → Option Json) : Prop :=
  ∀ chunks frames last, feeds parser new chunks = .ok (frames, last) →
    ∀ data ∈ eventData chunks.flatten, ReadsBack parse data

/-- The frame of an event of two data lines does not read back. -/
theorem split_event_does_not_read_back :
    ¬FramesReadBack splitParser fun text => splitParser.loads (Utf8.encode text) := by
  intro all
  have fed : feeds splitParser new splitChunks =
      .ok ([relayed splitPayload], ⟨[], [], false, none⟩) := by decide +kernel
  have member : splitPayload ∈ eventData splitChunks.flatten := by decide +kernel
  exact not_readsOwn_of_newline (by decide +kernel) (all _ _ _ fed _ member).1

end Zangpu.Sdk
