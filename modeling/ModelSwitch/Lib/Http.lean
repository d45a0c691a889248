import Mathlib.Tactic

/-!
# Message framing of HTTP/1.1

Where the body of a message ends: at the end of a chunked body if it has a transfer coding, after
as many bytes as its `Content-Length` says otherwise. A byte is the Latin-1 character that it is
read as.
-/

namespace ModelSwitch.Http

abbrev Wire := List Char

abbrev Headers := List (String × String)

/-- In lower case. -/
def fold (name : String) : List Char := name.toList.map (·.toLower)

namespace Headers

variable (hs : Headers) (name : String)

/-- The values of a header, whose name is compared without case. -/
def getAll : List String := (hs.filter fun p => fold p.1 = fold name).map (·.2)

/-- The first value. -/
def get : Option String := (hs.getAll name).head?

/-- All values as one, joined by commas. -/
def joined : Option String :=
  match hs.getAll name with
  | [] => none
  | values => some (", ".intercalate values)

end Headers

/-- Without the spaces and tabs around it. -/
def trim (cs : List Char) : List Char :=
  let blank (c : Char) : Bool := c = ' ' || c = '\t'
  ((cs.dropWhile blank).reverse.dropWhile blank).reverse

/-- A decimal numeral. -/
def numeral (value : String) : Option ℕ :=
  let ds := trim value.toList
  if ds ≠ [] ∧ ds.all (·.isDigit) then some (Nat.ofDigitChars 10 ds 0) else none

/-- What the `Content-Length` headers say together. -/
inductive Length
  | absent
  | bytes (n : ℕ)
  /-- Not numerals, or not all the same. -/
  | invalid
  deriving DecidableEq

def contentLength (hs : Headers) : Length :=
  match hs.getAll "Content-Length" with
  | [] => .absent
  | v :: vs =>
    match numeral v with
    | none => .invalid
    | some n => if vs.all (numeral · = some n) then .bytes n else .invalid

/-! ### Chunked bodies -/

/-- A line up to its `CRLF`, and what follows. -/
def line : Wire → Option (Wire × Wire)
  | '\r' :: '\n' :: rest => some ([], rest)
  | c :: rest => (line rest).map fun p => (c :: p.1, p.2)
  | [] => none

def hexDigit (c : Char) : Option ℕ :=
  if c.isDigit then some (c.toNat - '0'.toNat)
  else if 'a' ≤ c ∧ c ≤ 'f' then some (c.toNat - 'a'.toNat + 10)
  else if 'A' ≤ c ∧ c ≤ 'F' then some (c.toNat - 'A'.toNat + 10)
  else none

/-- The size at the head of a chunk; what follows a semicolon is an extension. -/
def chunkSize (cs : Wire) : Option ℕ :=
  let ds := trim (cs.takeWhile (· ≠ ';'))
  if ds = [] then none
  else ds.foldlM (fun n c => (hexDigit c).map (16 * n + ·)) 0

/-- What follows the trailer section. -/
def afterTrailers : ℕ → Wire → Option Wire
  | 0, _ => none
  | fuel + 1, w =>
    match line w with
    | none => none
    | some ([], rest) => some rest
    | some (_, rest) => afterTrailers fuel rest

/-- What follows a chunked body; at most `fuel` chunks. -/
def afterChunks : ℕ → Wire → Option Wire
  | 0, _ => none
  | fuel + 1, w =>
    match line w with
    | none => none
    | some (head, rest) =>
      match chunkSize head with
      | none => none
      | some 0 => afterTrailers (fuel + 1) rest
      | some n =>
        match rest.drop n with
        | '\r' :: '\n' :: rest => afterChunks fuel rest
        | _ => none

/-- The length of the chunked body at the start of `w`. -/
def chunkedLength (w : Wire) : Option ℕ :=
  (afterChunks (w.length + 1) w).map (w.length - ·.length)

/-! ### Requests and responses -/

/-- The last transfer coding is `chunked`. -/
def isChunked (codings : String) : Bool :=
  (trim ((codings.toList.reverse.takeWhile (· ≠ ',')).reverse)).map (·.toLower) = "chunked".toList

/-- The length of the body of a request with these headers, where `w` follows them; `none` if the
request does not say. -/
def requestLength (hs : Headers) (w : Wire) : Option ℕ :=
  match hs.joined "Transfer-Encoding" with
  | some codings => if isChunked codings then chunkedLength w else none
  | none =>
    match contentLength hs with
    | .absent => some 0
    | .bytes n => some n
    | .invalid => none

/-- What is written on a connection. -/
inductive Out
  | head (status : ℕ) (headers : Headers)
  | data (bytes : Wire)

/-- The body of a final response ends where its head says, without the connection being closed. -/
def delimits (status : ℕ) (hs : Headers) (body : Wire) : Bool :=
  200 ≤ status &&
    if status = 204 ∨ status = 304 then body = []
    else
      match hs.joined "Transfer-Encoding" with
      | some codings => isChunked codings && chunkedLength body = some body.length
      | none => contentLength hs = .bytes body.length

/-- Exactly one response, with its end marked. -/
def OneResponse (out : List Out) : Prop :=
  ∃ (status : ℕ) (hs : Headers) (pieces : List Wire), out = .head status hs :: pieces.map .data ∧
    delimits status hs pieces.flatten = true

/-! ### Lemmas -/

namespace Headers

variable {hs : Headers} {name : String}

lemma getAll_cons_of_eq {key : String} (value : String) (hs : Headers) (h : fold key = fold name) :
    getAll ((key, value) :: hs) name = value :: getAll hs name := by
  simp [getAll, h]

lemma getAll_cons_of_ne {key : String} (value : String) (hs : Headers) (h : fold key ≠ fold name) :
    getAll ((key, value) :: hs) name = getAll hs name := by
  simp [getAll, h]

lemma joined_eq_none (h : hs.getAll name = []) : hs.joined name = none := by
  simp [joined, h]

/-- Headers of other names may be left out. -/
lemma getAll_filter (keep : String × String → Bool)
    (h : ∀ p : String × String, fold p.1 = fold name → keep p = true) :
    getAll (hs.filter keep) name = hs.getAll name := by
  simp only [getAll, List.filter_filter]
  congr 1
  refine List.filter_congr fun p _ => ?_
  by_cases hname : fold p.1 = fold name
  · simp [hname, h p hname]
  · simp [hname]

/-- A header that is left out is gone. -/
lemma getAll_filter_eq_nil (keep : String × String → Bool)
    (h : ∀ p : String × String, fold p.1 = fold name → keep p = false) :
    getAll (hs.filter keep) name = [] := by
  simp only [getAll, List.filter_filter, List.map_eq_nil_iff, List.filter_eq_nil_iff]
  intro p _
  by_cases hname : fold p.1 = fold name
  · simp [h p hname]
  · simp [hname]

end Headers

lemma trim_eq_self {cs : List Char} (h : ∀ c ∈ cs, c ≠ ' ' ∧ c ≠ '\t') : trim cs = cs := by
  have hdrop : ∀ {l : List Char}, (∀ c ∈ l, c ≠ ' ' ∧ c ≠ '\t') →
      l.dropWhile (fun c => c = ' ' || c = '\t') = l := by
    intro l hl
    cases l with
    | nil => rfl
    | cons c l =>
      have hc := hl c (List.mem_cons_self ..)
      simp [hc.1, hc.2]
  rw [trim, hdrop h, hdrop fun c hc => h c (List.mem_reverse.mp hc), List.reverse_reverse]

/-- A numeral that was written is read back. -/
@[simp] lemma numeral_repr (n : ℕ) : numeral n.repr = some n := by
  have hdigit : ∀ c ∈ Nat.toDigits 10 n, c.isDigit = true :=
    fun c hc => Nat.isDigit_of_mem_toDigits (by decide) (by decide) hc
  have htrim : trim (Nat.toDigits 10 n) = Nat.toDigits 10 n := by
    refine trim_eq_self fun c hc => ⟨?_, ?_⟩
    all_goals
      rintro rfl
      exact absurd (hdigit _ hc) (by decide)
  have hne : Nat.toDigits 10 n ≠ [] := by
    intro hnil
    refine Nat.repr_ne_empty (n := n) ?_
    rw [Nat.repr_eq_ofList_toDigits, hnil]
  simp only [numeral, Nat.toList_repr, htrim]
  rw [if_pos ⟨hne, List.all_eq_true.mpr hdigit⟩, Nat.ofDigitChars_ten_toDigits]

end ModelSwitch.Http
