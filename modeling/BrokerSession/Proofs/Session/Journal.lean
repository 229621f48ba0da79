import BrokerSession.Session.Basic

namespace BrokerSession

/-!
# Reading a journal

A journal is read by projections: the frames in the order they were made, the
payloads in the order they were taken, and so on.  All of them distribute over
concatenation, so an event at the end of a journal is seen by its own
projections alone.
-/

/-- A frame together with the header of its request, if it is one. -/
abbrev Framing := Option RequestHeader × Bytes

namespace Event

/-- The frame of a framing event. -/
@[simp] def framing? : Event → Option Framing
  | .framed header frame => some (header, frame)
  | _ => none

/-- The payload of a taken frame. -/
@[simp] def payload? : Event → Option Bytes
  | .taken payload => some payload
  | _ => none

/-- A decoded response with the header of its request. -/
@[simp] def answer? : Event → Option (RequestHeader × Response)
  | .decoded header response => some (header, response)
  | _ => none

/-- A challenge with the outcome of its evaluation. -/
@[simp] def evaluation? :
    Event → Option (Bytes × Except MechanismError (Option Bytes))
  | .evaluated challenge outcome => some (challenge, outcome)
  | _ => none

/-- The token that an evaluation produced. -/
@[simp] def token? : Event → Option Bytes
  | .evaluated _ (.ok token) => token
  | _ => none

end Event

namespace Journal

variable (journal later : List Event)

/-- The frames with their headers, in the order they were made. -/
def framings : List Framing :=
  journal.filterMap Event.framing?

/-- The frames in the order they were made. -/
def frames : List Bytes :=
  (framings journal).map Prod.snd

/-- The headers of the requests, in the order they were framed. -/
def requests : List RequestHeader :=
  (framings journal).filterMap Prod.fst

/-- The payloads in the order they were taken. -/
def payloads : List Bytes :=
  journal.filterMap Event.payload?

/-- The responses with the headers of their requests, as they were decoded. -/
def answers : List (RequestHeader × Response) :=
  journal.filterMap Event.answer?

/-- The challenges with their outcomes, as they were evaluated. -/
def evaluations : List (Bytes × Except MechanismError (Option Bytes)) :=
  journal.filterMap Event.evaluation?

/-- The tokens that the mechanism produced, in order. -/
def tokens : List Bytes :=
  journal.filterMap Event.token?

/-! ## Concatenation -/

/-- What is framed later comes later. -/
@[simp] theorem framings_append :
    framings (journal ++ later) = framings journal ++ framings later :=
  List.filterMap_append

/-- Frames that are made later come later. -/
@[simp] theorem frames_append :
    frames (journal ++ later) = frames journal ++ frames later := by
  rw [frames, framings_append, List.map_append]
  rfl

/-- Requests that are made later come later. -/
@[simp] theorem requests_append :
    requests (journal ++ later) = requests journal ++ requests later := by
  rw [requests, framings_append, List.filterMap_append]
  rfl

/-- Payloads that are taken later come later. -/
@[simp] theorem payloads_append :
    payloads (journal ++ later) = payloads journal ++ payloads later :=
  List.filterMap_append

/-- Responses that are decoded later come later. -/
@[simp] theorem answers_append :
    answers (journal ++ later) = answers journal ++ answers later :=
  List.filterMap_append

/-- Challenges that are evaluated later come later. -/
@[simp] theorem evaluations_append :
    evaluations (journal ++ later) =
      evaluations journal ++ evaluations later :=
  List.filterMap_append

/-- Tokens that are produced later come later. -/
@[simp] theorem tokens_append :
    tokens (journal ++ later) = tokens journal ++ tokens later :=
  List.filterMap_append

/-! ## Single events -/

variable (event : Event)

/-- Only a framing event tells of a frame and its header. -/
@[simp] theorem framings_singleton :
    framings [event] = event.framing?.toList := by
  cases event <;> rfl

/-- Only a framing event tells of a frame. -/
@[simp] theorem frames_singleton :
    frames [event] = event.framing?.toList.map Prod.snd := by
  cases event <;> rfl

/-- The frames before and after an event stay apart. -/
theorem frames_append_cons :
    frames (journal ++ event :: later) =
      frames journal ++ event.framing?.toList.map Prod.snd ++ frames later := by
  rw [List.append_cons, frames_append, frames_append, frames_singleton]

/-- Only a framing event with a header tells of a request. -/
@[simp] theorem requests_singleton :
    requests [event] = (event.framing?.bind Prod.fst).toList := by
  rcases event with ⟨_ | header, frame⟩ | _ | _ | _ | _ <;> rfl

/-- Only the taking of a frame tells of its payload. -/
@[simp] theorem payloads_singleton :
    payloads [event] = event.payload?.toList := by
  cases event <;> rfl

/-- Only the decoding of a response tells of it. -/
@[simp] theorem answers_singleton :
    answers [event] = event.answer?.toList := by
  cases event <;> rfl

/-- Only the evaluation of a challenge tells of it. -/
@[simp] theorem evaluations_singleton :
    evaluations [event] = event.evaluation?.toList := by
  cases event <;> rfl

/-- Only an evaluation that produced a token tells of one. -/
@[simp] theorem tokens_singleton :
    tokens [event] = event.token?.toList := by
  rcases event with _ | _ | _ | _ | ⟨_, _ | _ | _⟩ <;> rfl

end Journal

end BrokerSession
