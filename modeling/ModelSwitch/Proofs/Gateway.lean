import Mathlib.Data.List.TakeWhile
import ModelSwitch.Program.Gateway

/-!
# Request framing at the gateway

The handler keeps a persistent connection in step with the client if it has read exactly the body
of the request and written exactly one response whose end is marked. It reads as much as
`Content-Length` says, but nothing before it refuses, nothing of a chunked body; and it passes a
response on whether or not its length is known and all of it has come.
-/

namespace ModelSwitch.Gateway

open ModelSwitch.Http

variable {cfg : Config} {up : Upstream} {h : Head} {rest : Wire} {status : ℕ}

/-- The connection is closed after the exchange, or the body has been read, no more and no less, and
one response has been written. -/
def Exchange.Framed (e : Exchange) (h : Head) (rest : Wire) : Prop :=
  e.close = true ∨
    (∃ n, requestLength h.headers rest = some n ∧ e.rest = rest.drop n) ∧ OneResponse e.out

/-! ### What it takes -/

/-- The body of the upstream's response came to its end. -/
def Ending.complete (pieces : List Wire) (ending : Ending) : Bool :=
  (Config.passed pieces).length < pieces.length || ending matches .eof

/-- The end of the upstream's response is marked, and all of it has come. -/
def Upstream.delimited : Upstream → Bool
  | .fails _ => true
  | .answers status headers pieces ending =>
    ending.complete pieces && 200 ≤ status &&
      if status = 204 ∨ status = 304 then Config.passed pieces = []
      else contentLength headers = .bytes (Config.passed pieces).flatten.length

/-- The connection is closed because of the upstream: its response is chunked, or the handler
raises. -/
def Upstream.closes : Upstream → Bool
  | .fails (.os _) => false
  | .fails .other => true
  | .answers _ headers pieces ending =>
    Config.chunked headers || (!ending.complete pieces && ending matches .raises .other)

/-- The connection is not persistent, or what the handler reads is the body of the request and the
upstream's response has its end marked. -/
def Keeps (cfg : Config) (up : Upstream) (h : Head) (rest : Wire) : Bool :=
  !h.keepAlive ||
    match cfg.route h with
    | .raises => true
    | .refused _ _ => (requestLength h.headers rest).any fun n => rest = rest.drop n
    | .forwarded =>
      match h.length with
      | none => true
      | some length =>
        up.closes ||
          ((requestLength h.headers rest).any fun n => (read length rest).2 = rest.drop n) &&
            up.delimited

/-! ### Responses -/

/-- Only one list of pieces follows a head. -/
lemma oneResponse_cons_iff {hs : Headers} {pieces : List Wire} :
    OneResponse (.head status hs :: pieces.map .data) ↔
      delimits status hs pieces.flatten = true := by
  refine ⟨?_, fun hd => ⟨status, hs, pieces, rfl, hd⟩⟩
  rintro ⟨status', hs', pieces', heq, hd⟩
  obtain ⟨hhead, htail⟩ := List.cons.inj heq
  obtain ⟨rfl, rfl⟩ := Out.head.inj hhead
  have hinj : Function.Injective Out.data := fun _ _ hx => Out.data.inj hx
  rw [List.map_injective_iff.mpr hinj htail]
  exact hd

def isHead : Out → Bool
  | .head _ _ => true
  | .data _ => false

/-- A second head is no part of a response. -/
lemma countP_isHead {out : List Out} (h : OneResponse out) : out.countP isHead = 1 := by
  obtain ⟨status, hs, pieces, rfl, -⟩ := h
  have hdata : (pieces.map Out.data).countP isHead = 0 := by
    rw [List.countP_eq_zero]
    intro o ho
    obtain ⟨b, -, rfl⟩ := List.mem_map.mp ho
    exact Bool.false_ne_true
  rw [List.countP_cons, hdata]
  rfl

/-- The headers of `send_response` say nothing of the length. -/
lemma length_opening (cfg : Config) (hs : Headers) :
    (cfg.opening ++ hs).getAll "Content-Length" = hs.getAll "Content-Length" :=
  (Headers.getAll_cons_of_ne _ _ (by decide)).trans (Headers.getAll_cons_of_ne _ _ (by decide))

lemma coding_opening (cfg : Config) (hs : Headers) :
    (cfg.opening ++ hs).getAll "Transfer-Encoding" = hs.getAll "Transfer-Encoding" :=
  (Headers.getAll_cons_of_ne _ _ (by decide)).trans (Headers.getAll_cons_of_ne _ _ (by decide))

/-- How a head without a transfer coding delimits its body. -/
lemma delimits_of_no_coding {hs : Headers} {body : Wire} (h : hs.getAll "Transfer-Encoding" = []) :
    delimits status hs body =
      (200 ≤ status && if status = 204 ∨ status = 304 then body = []
        else contentLength hs = .bytes body.length : Bool) := by
  simp only [delimits, Headers.joined_eq_none h]

lemma oneResponse_refuse (cfg : Config) (message : String) (h : 200 ≤ status)
    (hbody : status ≠ 204 ∧ status ≠ 304) : OneResponse (cfg.refuse status message) := by
  refine ⟨status, _, [encode (message ++ "\n")], rfl, ?_⟩
  rw [delimits_of_no_coding, contentLength, length_opening,
    Headers.getAll_cons_of_ne _ _ (by decide), Headers.getAll_cons_of_eq _ _ rfl]
  · simp [h, hbody.1, hbody.2, Headers.getAll]
  · rw [coding_opening, Headers.getAll_cons_of_ne _ _ (by decide),
      Headers.getAll_cons_of_ne _ _ (by decide)]
    rfl

/-- The head of a response without a coding says what the upstream's head said. -/
lemma delimits_responseHeaders {headers : Headers} {body : Wire}
    (hc : Config.chunked headers = false) :
    delimits status (cfg.responseHeaders headers) body =
      (200 ≤ status && if status = 204 ∨ status = 304 then body = []
        else contentLength headers = .bytes body.length : Bool) := by
  have hhop : ∀ {p : String × String} {name}, fold p.1 = fold name →
      isHopByHop p.1 = isHopByHop name := by
    intro p name hname
    simp only [isHopByHop, hname]
  simp only [Config.responseHeaders, hc, Bool.false_eq_true, if_false, List.append_nil]
  rw [delimits_of_no_coding, contentLength, contentLength, length_opening, Headers.getAll_filter]
  · intro p hname
    rw [hhop hname]
    decide
  · rw [coding_opening, Headers.getAll_filter_eq_nil]
    intro p hname
    rw [hhop hname]
    decide

/-- When what is passed on is one response. -/
lemma oneResponse_passOn_iff {headers : Headers} {pieces : List Wire} {ending : Ending}
    (hc : Config.chunked headers = false)
    (hnot : (cfg.passOn status headers pieces ending).2 = false) :
    OneResponse (cfg.passOn status headers pieces ending).1 ↔
      (Upstream.answers status headers pieces ending).delimited = true := by
  have hpiece : ∀ l : List Wire, (l.map fun bytes => Out.data (Config.piece false bytes))
      = l.map Out.data := fun l => rfl
  have heof : OneResponse (.head status (cfg.responseHeaders headers) ::
      (Config.passed pieces).map Out.data) ↔
      (200 ≤ status && if status = 204 ∨ status = 304 then Config.passed pieces = []
        else contentLength headers = .bytes (Config.passed pieces).flatten.length : Bool)
        = true := by
    rw [oneResponse_cons_iff, delimits_responseHeaders hc]
    have hnil : (Config.passed pieces).flatten = [] ↔ Config.passed pieces = [] := by
      rw [List.flatten_eq_nil_iff]
      refine ⟨fun hall => ?_, fun h => by simp [h]⟩
      rw [List.eq_nil_iff_forall_not_mem]
      intro x hx
      have hne := List.mem_takeWhile_imp hx
      simp [hall x hx] at hne
    simp only [hnil]
  by_cases hlt : (Config.passed pieces).length < pieces.length
  · simp only [Config.passOn, hc, hpiece, hlt, if_true, Bool.false_eq_true, if_false,
      List.append_nil, Upstream.delimited, Ending.complete, decide_true, Bool.true_or,
      Bool.true_and]
    exact heof
  · simp only [Config.passOn, hc, hpiece, hlt, if_false, Bool.false_eq_true, List.append_nil,
      Upstream.delimited, Ending.complete, decide_false, Bool.false_or] at hnot ⊢
    cases ending with
    | eof =>
      simp only [Bool.true_and]
      exact heof
    | raises e =>
      cases e with
      | os text =>
        refine ⟨fun hone => ?_, fun hd => by cases hd⟩
        have htwo := countP_isHead hone
        simp [List.countP_cons, List.countP_append, Config.refuse, isHead] at htwo
      | other => cases hnot

/-! ### One exchange -/

/-- A refusal or a failure leaves the request framed if its body has been read. -/
lemma framed_refuse_iff {e : Exchange} {message : String} (hout : e.out = cfg.refuse status message)
    (hstatus : 200 ≤ status) (hbody : status ≠ 204 ∧ status ≠ 304) :
    e.Framed h rest ↔ e.close = true ∨
      ∃ n, requestLength h.headers rest = some n ∧ e.rest = rest.drop n := by
  simp only [Exchange.Framed, hout, oneResponse_refuse cfg message hstatus hbody, and_true]

/-- What a request that is forwarded leaves to be read. -/
lemma rest_forward (up : Upstream) (rest : Wire) {length : ℤ} (hroute : cfg.route h = .forwarded)
    (hlen : h.length = some length) :
    (cfg.forward up h rest).rest = (read length rest).2 := by
  have hleft : (if length = 0 then (none, rest) else
      (some (read length rest).1, (read length rest).2)).2 = (read length rest).2 := by
    split_ifs with hzero
    · rw [hzero]
      rfl
    · rfl
  simp only [Config.forward, hroute, hlen]
  cases up with
  | fails e => cases e <;> exact hleft
  | answers => exact hleft

lemma raised_iff {headers : Headers} {pieces : List Wire} {ending : Ending} :
    (cfg.passOn status headers pieces ending).2 =
      (!ending.complete pieces && ending matches .raises .other) := by
  by_cases hlt : (Config.passed pieces).length < pieces.length
  · simp [Config.passOn, hlt, Ending.complete]
  · cases ending with
    | eof => simp [Config.passOn, hlt, Ending.complete]
    | raises e => cases e <;> simp [Config.passOn, hlt, Ending.complete]

/-- An exchange keeps the connection in step exactly under `Keeps`. -/
theorem forward_framed_iff (cfg : Config) (up : Upstream) (h : Head) (rest : Wire) :
    (cfg.forward up h rest).Framed h rest ↔ Keeps cfg up h rest = true := by
  cases hroute : cfg.route h with
  | raises => simp [Config.forward, Keeps, hroute, Exchange.Framed]
  | refused status message =>
    have hstatus : status = 404 ∨ status = 401 := by
      simp only [Config.route] at hroute
      split at hroute
      · cases hroute
      · split_ifs at hroute <;> cases hroute <;> simp
    have hout : (cfg.forward up h rest).out = cfg.refuse status message := by
      simp [Config.forward, hroute]
    rw [framed_refuse_iff hout (by omega) (by omega)]
    simp [Config.forward, Keeps, hroute, Option.any_eq_true]
  | forwarded =>
    cases hlen : h.length with
    | none => simp [Config.forward, Keeps, hroute, hlen, Exchange.Framed]
    | some length =>
      have hrest := rest_forward up rest hroute hlen
      simp only [Keeps, hroute, hlen]
      cases up with
      | fails e =>
        cases e with
        | os text =>
          have hout : (cfg.forward (.fails (.os text)) h rest).out =
              cfg.refuse 502 ("the scheduler is not reachable: " ++ text) := by
            simp [Config.forward, hroute, hlen]
          have hclose : (cfg.forward (.fails (.os text)) h rest).close = !h.keepAlive := by
            simp [Config.forward, hroute, hlen]
          rw [framed_refuse_iff hout (by decide) (by decide), hrest, hclose]
          simp [Upstream.closes, Upstream.delimited, Option.any_eq_true]
        | other => simp [Config.forward, hroute, hlen, Exchange.Framed, Upstream.closes]
      | answers status headers pieces ending =>
        have hout : (cfg.forward (.answers status headers pieces ending) h rest).out =
            (cfg.passOn status headers pieces ending).1 := by
          simp [Config.forward, hroute, hlen]
        have hclose : (cfg.forward (.answers status headers pieces ending) h rest).close =
            (!h.keepAlive || (Upstream.answers status headers pieces ending).closes) := by
          simp [Config.forward, hroute, hlen, raised_iff, Upstream.closes, Bool.or_assoc]
        rw [Exchange.Framed, hclose, hrest, hout]
        cases hcloses : (Upstream.answers status headers pieces ending).closes with
        | true => simp
        | false =>
          obtain ⟨hc, hnot⟩ := Bool.or_eq_false_iff.mp hcloses
          rw [oneResponse_passOn_iff hc (raised_iff.trans hnot)]
          simp [Option.any_eq_true]

/-! ### A connection -/

/-- A place in the stream where a request of the client begins. -/
inductive Boundary (cfg : Config) (input : Wire) : Wire → Prop
  | start : Boundary cfg input input
  | next {w rest : Wire} {h : Head} {n : ℕ} (hw : Boundary cfg input w)
      (hparse : cfg.parse w = .request h rest) (hlength : requestLength h.headers rest = some n) :
      Boundary cfg input (rest.drop n)

/-- Nothing but requests of the client have been read as requests, and each of them has been
answered by one response, unless the connection was closed upon it. -/
structure InStep (cfg : Config) (input : Wire) (c : Conn) : Prop where
  starts : ∀ e ∈ c.log, Boundary cfg input e.start
  answered : ∀ e ∈ c.log.dropLast, OneResponse e.out
  isOpen : c.closed = false → Boundary cfg input c.input ∧ ∀ e ∈ c.log, OneResponse e.out

/-- The next request is handled under `Keeps`. -/
def KeepsNext (cfg : Config) (c : Conn) (up : Upstream) : Bool :=
  match cfg.parse c.input with
  | .request h rest => h.command ∉ methods || Keeps cfg up h rest
  | _ => true

lemma InStep.step {input : Wire} {c c' : Conn} (hc : InStep cfg input c)
    (hok : KeepsNext cfg c up = true) (hstep : step cfg c up = some c') : InStep cfg input c' := by
  simp only [Gateway.step] at hstep
  split_ifs at hstep with hclosed
  obtain ⟨hbound, hall⟩ := hc.isOpen (Bool.eq_false_of_not_eq_true hclosed)
  -- the loop ends
  have hend : InStep cfg input { c with closed := true } := ⟨hc.starts, hc.answered, nofun⟩
  split at hstep
  · cases hstep
    exact hend
  · cases hstep
    exact hend
  · next h rest hparse =>
    by_cases hmethod : h.command ∉ methods
    · rw [if_pos hmethod] at hstep
      cases hstep
      exact hend
    · rw [if_neg hmethod] at hstep
      cases hstep
      have hkeeps : Keeps cfg up h rest = true := by
        simpa [KeepsNext, hparse, hmethod] using hok
      refine ⟨fun e he => ?_, fun e he => ?_, fun hopen => ?_⟩
      · rcases List.mem_append.mp he with he | he
        · exact hc.starts e he
        · cases List.mem_singleton.mp he
          exact hbound
      · rw [List.dropLast_concat] at he
        exact hall e he
      · have hopen : (cfg.forward up h rest).close = false := hopen
        rcases (forward_framed_iff cfg up h rest).mpr hkeeps with hclose | ⟨⟨n, hn, hrest⟩, hone⟩
        · rw [hopen] at hclose
          cases hclose
        · refine ⟨?_, fun e he => ?_⟩
          · show Boundary cfg input (cfg.forward up h rest).rest
            rw [hrest]
            exact .next hbound hparse hn
          · rcases List.mem_append.mp he with he | he
            · exact hall e he
            · cases List.mem_singleton.mp he
              exact hone

/-- Whatever a client sends and the upstream does, a connection on which every request is handled
under `Keeps` stays in step until it is closed. -/
theorem connection_inStep {input : Wire} {c : Conn}
    (hrun : Run (step cfg) (fun c up => KeepsNext cfg c up = true) { input := input } c) :
    InStep cfg input c := by
  refine hrun.invariant (I := InStep cfg input) (fun _ _ _ hc hok hstep => hc.step hok hstep) ?_
  exact ⟨nofun, nofun, fun _ => ⟨.start, nofun⟩⟩

/-! ### Connections -/

/-- The header lines up to the empty line. -/
def readHeaders : ℕ → Wire → Option (Headers × Wire)
  | 0, _ => none
  | fuel + 1, w =>
    match line w with
    | none => none
    | some ([], rest) => some ([], rest)
    | some (l, rest) =>
      (readHeaders fuel rest).map fun p =>
        ((String.ofList (l.takeWhile (· ≠ ':')),
          String.ofList (trim ((l.dropWhile (· ≠ ':')).drop 1))) :: p.1, p.2)

/-- The heads that a well-behaved client sends. -/
def readHead (w : Wire) : Parsed :=
  match w, line w with
  | [], _ => .eof
  | _, none => .error
  | _, some (first, rest) =>
    match first.splitOn ' ', readHeaders (rest.length + 1) rest with
    | [command, path, _], some (hs, rest) =>
      .request { command := String.ofList command, path := String.ofList path, headers := hs,
                 keepAlive := (hs.get "Connection").all (· ≠ "close") } rest
    | _, _ => .error

def sampleConfig : Config where
  token := "t"
  parse := readHead
  urlPath := some

/-- A request as the body of another one. -/
def nested : Wire := "GET /v1/models HTTP/1.1\r\n\r\n".toList

def refusedPost : Wire := "POST /api/models HTTP/1.1\r\nContent-Length: 27\r\n\r\n".toList ++ nested

def authorizedPost : Wire :=
  "POST /v1/x HTTP/1.1\r\nAuthorization: Bearer t\r\nContent-Length: 27\r\n\r\n".toList ++ nested

/-- A response of two bytes, of which this much comes. -/
def twoBytes (pieces : List Wire) (ending : Ending) : Upstream :=
  .answers 200 [("Content-Length", "2")] pieces ending

/-- The theorem where the body of a request looks like a request. -/
theorem connection_inStep_nested :
    ∃ c, Run (step sampleConfig) (fun c up => KeepsNext sampleConfig c up = true)
        { input := authorizedPost } c ∧ (c.closed = false ∧ c.log.length = 1) ∧
      InStep sampleConfig authorizedPost c := by
  obtain ⟨c, hrun, hopen⟩ := exists_run_to (step sampleConfig) (KeepsNext sampleConfig)
    { input := authorizedPost } [twoBytes [['o', 'k']] .eof]
    (fun c => c.closed = false ∧ c.log.length = 1) (by decide +kernel)
  exact ⟨c, hrun, hopen, connection_inStep hrun⟩

/-- A refused request leaves its body on the connection, where the next request is read from it. -/
lemma nested_not_boundary : ¬ Boundary sampleConfig refusedPost nested := by
  have hparse : ∃ h, sampleConfig.parse refusedPost = .request h nested ∧
      requestLength h.headers nested = some 27 :=
    ⟨⟨"POST", "/api/models", [("Content-Length", "27")], true⟩,
      by decide +kernel, by decide +kernel⟩
  have honly : ∀ w, Boundary sampleConfig refusedPost w → w = refusedPost ∨ w = [] := by
    intro w hw
    induction hw with
    | start => exact .inl rfl
    | next _ hp hn ih =>
      rcases ih with rfl | rfl
      · obtain ⟨h, hp', hn'⟩ := hparse
        cases hp.symm.trans hp'
        cases hn.symm.trans hn'
        exact .inr rfl
      · cases hp
  intro hb
  rcases honly nested hb with heq | heq
  · exact absurd heq (by decide +kernel)
  · exact absurd heq (by decide +kernel)

/-- A body is read as a request after a refusal; and when the upstream fails in the middle of a
response, another one is written into it. The connection is open in both cases. -/
theorem connection_out_of_step :
    (∃ c, Run (step sampleConfig) (fun _ _ => true = true) { input := refusedPost } c ∧
      c.closed = false ∧ ∃ e ∈ c.log, ¬ Boundary sampleConfig refusedPost e.start) ∧
    ∃ c, Run (step sampleConfig) (fun _ _ => true = true) { input := authorizedPost } c ∧
      c.closed = false ∧ ∃ e ∈ c.log, ¬ OneResponse e.out := by
  refine ⟨?_, ?_⟩
  · obtain ⟨c, hrun, hopen, hlog⟩ := exists_run_to (step sampleConfig) (fun _ _ => true)
      { input := refusedPost } [.fails .other, .fails .other]
      (fun c => c.closed = false ∧ (c.log.map Entry.start) = [refusedPost, nested])
      (by decide +kernel)
    have hmem : nested ∈ c.log.map Entry.start := by
      rw [hlog]
      simp
    obtain ⟨e, he, hstart⟩ := List.mem_map.mp hmem
    exact ⟨c, hrun, hopen, e, he, hstart ▸ nested_not_boundary⟩
  · obtain ⟨c, hrun, hopen, hlog⟩ := exists_run_to (step sampleConfig) (fun _ _ => true)
      { input := authorizedPost } [twoBytes [['o']] (.raises (.os "reset"))]
      (fun c => c.closed = false ∧ (c.log.map fun e => e.out.countP isHead) = [2])
      (by decide +kernel)
    have hmem : 2 ∈ c.log.map fun e => e.out.countP isHead := by
      rw [hlog]
      simp
    obtain ⟨e, he, htwo⟩ := List.mem_map.mp hmem
    refine ⟨c, hrun, hopen, e, he, fun hone => ?_⟩
    have hcount := countP_isHead hone
    omega

end ModelSwitch.Gateway
