import ModelSwitch.Lib.Dict
import ModelSwitch.Lib.Http
import ModelSwitch.Lib.Json
import ModelSwitch.Lib.Run

/-!
# The gateway

`deploy/gateway.py`: the handler for one request of a connection, and the loop of `http.server`
that reads the next request from wherever the handler has left the connection. How a head is read,
and how `urlsplit` takes a path apart, is up to the libraries.
-/

namespace ModelSwitch.Gateway

open ModelSwitch.Http

/-- A request as `parse_request` leaves it. -/
structure Head where
  command : String
  path : String
  headers : Headers
  /-- `close_connection` is false. -/
  keepAlive : Bool
  deriving DecidableEq

inductive Parsed
  /-- There is nothing left. -/
  | eof
  /-- `send_error` has answered, with `Connection: close`. -/
  | error
  | request (h : Head) (rest : Wire)
  deriving DecidableEq

structure Config where
  token : String
  /-- The headers `Server` and `Date` of `send_response`. -/
  server : String := "sms-gateway/1"
  date : String := ""
  clientAddress : String := ""
  parse : Wire → Parsed
  /-- `urlsplit(path).path`; `none` where it raises. -/
  urlPath : String → Option String

/-- What `http.client` raises: an `OSError` with its text, or another exception. -/
inductive Failure
  | os (text : String)
  | other

inductive Ending
  | eof
  | raises (e : Failure)

/-- What the upstream does: the request or the wait for a response raises, or there is a response
whose body is read in these pieces before it ends. -/
inductive Upstream
  | fails (e : Failure)
  | answers (status : ℕ) (headers : Headers) (pieces : List Wire) (ending : Ending)

/-- The request that is sent upstream. -/
structure Forwarded where
  command : String
  path : String
  body : Option Wire
  headers : Dict String String

/-- What the handler does with one request: what it leaves to be read, what it writes, and whether
the connection is closed afterwards. -/
structure Exchange where
  sent : Option Forwarded := none
  rest : Wire
  out : List Out
  close : Bool

def hopByHop : List String :=
  ["connection", "keep-alive", "proxy-authenticate", "proxy-authorization", "te", "trailers",
    "transfer-encoding", "upgrade", "host"]

def isHopByHop (name : String) : Bool := hopByHop.any fun hop => fold name = fold hop

/-! ### Python -/

/-- `str.encode()`. -/
def encode (s : String) : Wire :=
  (s.toList.flatMap String.utf8EncodeChar).map fun b => Char.ofNat b.toNat

/-- The digits of `int(text)`, which may be grouped by single underscores; more than 4300 raise. -/
def intDigits (ds : List Char) : Option ℕ :=
  let groups := ds.splitOn '_'
  let digits := groups.flatten
  if (groups.all fun g => g ≠ [] && g.all (·.isDigit)) && digits.length ≤ 4300 then
    some (Nat.ofDigitChars 10 digits 0)
  else none

/-- `int(text)`; `none` where it raises. -/
def int (text : String) : Option ℤ :=
  match Py.strip text with
  | '-' :: ds => (intDigits ds).map fun n => -(n : ℤ)
  | '+' :: ds => (intDigits ds).map fun n => (n : ℤ)
  | ds => (intDigits ds).map fun n => (n : ℤ)

/-! ### The handler -/

/-- `int(self.headers.get("Content-Length") or 0)`. -/
def Head.length (h : Head) : Option ℤ :=
  match h.headers.get "Content-Length" with
  | none => some 0
  | some value => if value = "" then some 0 else int value

/-- `rfile.read(length)`: the body, and what is left. A negative length reads to the end. -/
def read (length : ℤ) (w : Wire) : Wire × Wire :=
  if length < 0 then (w, []) else (w.take length.toNat, w.drop length.toNat)

namespace Config

variable (cfg : Config)

/-- The headers of `send_response`. -/
def opening : Headers := [("Server", cfg.server), ("Date", cfg.date)]

/-- `_refuse`. -/
def refuse (status : ℕ) (message : String) : List Out :=
  let body := encode (message ++ "\n")
  [.head status (cfg.opening ++ [("Content-Type", "text/plain; charset=utf-8"),
      ("Content-Length", body.length.repr)]), .data body]

/-- `_authorized`. -/
def authorized (h : Head) : Bool :=
  (h.headers.get "Authorization").getD "" = "Bearer " ++ cfg.token

/-- Where a request goes. -/
inductive Route
  /-- `urlsplit` raises. -/
  | raises
  | refused (status : ℕ) (message : String)
  | forwarded

def route (h : Head) : Route :=
  match cfg.urlPath h.path with
  | none => .raises
  | some path =>
    if ((path.toList.splitOn '/').any fun s => s = ['.', '.'] || s = ['.']) ||
        '\\' ∈ path.toList then
      .refused 404 "not found"
    else if !("/v1/".toList.isPrefixOf path.toList) then .refused 404 "not found"
    else if !cfg.authorized h then .refused 401 "unauthorized"
    else .forwarded

/-- The headers that are sent upstream. -/
def forwardedHeaders (h : Head) : Dict String String :=
  let kept := h.headers.filter fun p => !isHopByHop p.1 && fold p.1 ≠ fold "authorization"
  (kept.foldl (fun d p => d.set p.1 p.2) Dict.empty).set "X-Forwarded-For" cfg.clientAddress

/-- `response.getheader("Transfer-Encoding") == "chunked"`. -/
def chunked (headers : Headers) : Bool := headers.joined "Transfer-Encoding" = some "chunked"

/-- The head of the response that is passed on. -/
def responseHeaders (headers : Headers) : Headers :=
  cfg.opening ++ headers.filter (fun p => !isHopByHop p.1) ++
    if chunked headers then [("Transfer-Encoding", "chunked"), ("Connection", "close")] else []

/-- A piece as it is passed on. -/
def piece (chunked : Bool) (bytes : Wire) : Wire :=
  if chunked then
    ((Nat.toDigits 16 bytes.length).map (·.toUpper)) ++ ['\r', '\n'] ++ bytes ++ ['\r', '\n']
  else bytes

/-- The pieces that are read until one is empty. -/
def passed (pieces : List Wire) : List Wire := pieces.takeWhile (· ≠ [])

/-- The response of the upstream is passed on: what is written, and whether the handler raises. -/
def passOn (status : ℕ) (headers : Headers) (pieces : List Wire) (ending : Ending) :
    List Out × Bool :=
  let c := chunked headers
  let out := .head status (cfg.responseHeaders headers) ::
    ((passed pieces).map fun bytes => .data (piece c bytes))
  -- an empty piece ends the loop as the end of the body does
  match if (passed pieces).length < pieces.length then Ending.eof else ending with
  | .eof => (out ++ if c then [.data ['0', '\r', '\n', '\r', '\n']] else [], false)
  | .raises (.os text) =>
    (out ++ cfg.refuse 502 ("the scheduler is not reachable: " ++ text), false)
  | .raises .other => (out, true)

/-- `_forward`. -/
def forward (up : Upstream) (h : Head) (rest : Wire) : Exchange :=
  match cfg.route h with
  | .raises => { rest := rest, out := [], close := true }
  | .refused status message =>
    { rest := rest, out := cfg.refuse status message, close := !h.keepAlive }
  | .forwarded =>
    match h.length with
    | none => { rest := rest, out := [], close := true }
    | some length =>
      let (body, rest) := if length = 0 then (none, rest) else
        (some (read length rest).1, (read length rest).2)
      let sent : Forwarded :=
        { command := h.command, path := h.path, body := body, headers := cfg.forwardedHeaders h }
      match up with
      | .fails (.os text) =>
        { sent := some sent, rest := rest, close := !h.keepAlive,
          out := cfg.refuse 502 ("the scheduler is not reachable: " ++ text) }
      | .fails .other => { sent := some sent, rest := rest, out := [], close := true }
      | .answers status headers pieces ending =>
        let (out, raised) := cfg.passOn status headers pieces ending
        { sent := some sent, rest := rest, out := out,
          close := !h.keepAlive || chunked headers || raised }

end Config

/-! ### The connection -/

/-- A request that was read where the connection stood at `start`, and what was written for it. -/
structure Entry where
  start : Wire
  head : Head
  out : List Out

structure Conn where
  input : Wire
  log : List Entry := []
  closed : Bool := false

/-- The methods that the handler has. -/
def methods : List String := ["GET", "POST", "PUT", "DELETE", "PATCH"]

/-- `handle_one_request`, with what the upstream does if it is asked. -/
def step (cfg : Config) (c : Conn) (up : Upstream) : Option Conn :=
  if c.closed then none
  else
    match cfg.parse c.input with
    | .eof | .error => some { c with closed := true }
    | .request h rest =>
      if h.command ∉ methods then some { c with closed := true }
      else
        let e := cfg.forward up h rest
        some { input := e.rest, log := c.log ++ [⟨c.input, h, e.out⟩], closed := e.close }

end ModelSwitch.Gateway
