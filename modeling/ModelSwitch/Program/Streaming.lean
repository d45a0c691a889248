import ModelSwitch.Program.Contracts
import Mathlib.Data.List.DropRight

/-!
# Streamed chat answers

`stream_body` of `app.py`: an upstream event stream is forwarded chunk by chunk. The answer counts
as completed once the line `data: [DONE]` was forwarded, and it is cut off at an event that is
larger than `max_sse_event_bytes`. `_LeasedStreamingResponse` releases the lease accordingly.
-/

namespace ModelSwitch.Streaming

abbrev Bytes := List UInt8

/-- The lines of `data`, each with its end, and what follows the last of them; `line` is the part of
the current line that is already read. `\r\n` is one line end. -/
def lineSplit (line : Bytes) : Bytes → List Bytes × Bytes
  | [] => ([], line)
  | b :: data =>
    if b = 10 then
      let (lines, rest) := lineSplit [] data
      ((line ++ [10]) :: lines, rest)
    else if b = 13 then
      match data with
      | 10 :: data =>
        let (lines, rest) := lineSplit [] data
        ((line ++ [13, 10]) :: lines, rest)
      | data =>
        let (lines, rest) := lineSplit [] data
        ((line ++ [13]) :: lines, rest)
    else lineSplit (line ++ [b]) data

/-- `data.splitlines(keepends=True)`. -/
def splitlines (data : Bytes) : List Bytes :=
  match lineSplit [] data with
  | (lines, []) => lines
  | (lines, rest) => lines ++ [rest]

/-- `line.endswith((b"\n", b"\r"))`. -/
def isEnded (line : Bytes) : Bool := line.getLast? = some 10 ∨ line.getLast? = some 13

/-- `line.rstrip(b"\r\n")`. -/
def content (line : Bytes) : Bytes := line.rdropWhile fun b => b = 13 ∨ b = 10

/-- `data: [DONE]`. -/
def doneMark : Bytes := [100, 97, 116, 97, 58, 32, 91, 68, 79, 78, 69, 93]

/-- `lines.pop()` of a last line without an end: the lines to be read, and `pending`. -/
def popPending (lines : List Bytes) : List Bytes × Bytes :=
  match lines.getLast? with
  | some last => if isEnded last then (lines, []) else (lines.dropLast, last)
  | none => (lines, [])

/-- The loop over the lines of a chunk: `event_bytes` and `done_in_chunk` after it, `none` if it
returns. -/
def readLines (limit : ℕ) : ℕ → Bool → List Bytes → Option (ℕ × Bool)
  | eventBytes, done, [] => some (eventBytes, done)
  | eventBytes, done, line :: lines =>
    if eventBytes + line.length > limit then none
    else readLines limit (if content line = [] then 0 else eventBytes + line.length)
      (done || content line = doneMark) lines

inductive Verdict
  /-- `owner.completed`. -/
  | completed
  | oversized
  /-- The upstream ended the stream. -/
  | ended
  deriving DecidableEq

/-- `stream_body`. -/
def streamBody (limit : ℕ) (pending : Bytes) (eventBytes : ℕ) : List Bytes → Verdict
  | [] => .ended
  | chunk :: chunks =>
    let (lines, pending) := popPending (splitlines (pending ++ chunk))
    match readLines limit eventBytes false lines with
    | none => .oversized
    | some (eventBytes, done) =>
      if pending.length > limit then .oversized
      else if done then .completed
      else streamBody limit pending eventBytes chunks

/-- The verdict on a stream that arrives in these chunks. -/
def judge (limit : ℕ) (chunks : List Bytes) : Verdict := streamBody limit [] 0 chunks

/-- The outcome with which the lease is released. -/
def Verdict.outcome : Verdict → Outcome
  | .completed => .success
  | _ => .aborted

end ModelSwitch.Streaming
