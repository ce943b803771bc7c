import PageBuild.Text.Quoted

/-! UTF-8. Decoding runs one automaton over the bytes: it holds the sequence that is being read and
emits a piece for every character and for every invalid part. A strict reader fails at the first
invalid part, a lenient one puts the replacement character for it. Surrogates have no encoding. -/
namespace PageBuild.Utf8

inductive Reason
  | start
  | continuation
  | truncated
  deriving DecidableEq, Repr

def Reason.message : Reason → String
  | .start => "invalid start byte"
  | .continuation => "invalid continuation byte"
  | .truncated => "unexpected end of data"

structure Invalid where
  first : Nat
  count : Nat
  byte : UInt8
  reason : Reason
  deriving DecidableEq, Repr

def hexByte (b : UInt8) : String :=
  String.ofList ['0', 'x', Nat.digitChar (b.toNat / 16), Nat.digitChar (b.toNat % 16)]

def Invalid.message (e : Invalid) : String :=
  if e.count = 1 then
    s!"'utf-8' codec can't decode byte {hexByte e.byte} in position {e.first}: {e.reason.message}"
  else
    s!"'utf-8' codec can't decode bytes in position {e.first}-{e.first + e.count - 1}: {e.reason.message}"

inductive Piece
  | char (c : Char)
  | invalid (e : Invalid)
  deriving DecidableEq, Repr

/-- A sequence in progress: the payload so far, how many bytes are missing, the bounds of the next
one, and what was read. -/
structure Partial where
  payload : Nat
  missing : Nat
  low : Nat
  high : Nat
  first : Nat
  count : Nat
  byte : UInt8
  deriving DecidableEq, Repr

def Partial.invalid (p : Partial) (reason : Reason) : Piece :=
  .invalid ⟨p.first, p.count, p.byte, reason⟩

/-- The first byte of a sequence: its payload, the number of bytes that follow, and the bounds of
the second byte, which keep out overlong forms, surrogates and code points above the last. -/
def lead? (b : UInt8) : Option (Nat × Nat × Nat × Nat) :=
  let n := b.toNat
  if n < 0xC2 then none
  else if n < 0xE0 then some (n - 0xC0, 1, 0x80, 0xBF)
  else if n < 0xF0 then
    some (n - 0xE0, 2, if n = 0xE0 then 0xA0 else 0x80, if n = 0xED then 0x9F else 0xBF)
  else if n < 0xF5 then
    some (n - 0xF0, 3, if n = 0xF0 then 0x90 else 0x80, if n = 0xF4 then 0x8F else 0xBF)
  else none

def begin (pos : Nat) (b : UInt8) : List Piece × Option Partial :=
  if b.toNat < 0x80 then ([.char (Char.ofNat b.toNat)], none)
  else match lead? b with
    | none => ([.invalid ⟨pos, 1, b, .start⟩], none)
    | some (payload, missing, low, high) => ([], some ⟨payload, missing, low, high, pos, 1, b⟩)

/-- A byte read at `pos`: it extends the sequence, or ends it as invalid and starts anew. -/
def step (pos : Nat) (b : UInt8) : Option Partial → List Piece × Option Partial
  | none => begin pos b
  | some p =>
    if p.low ≤ b.toNat && b.toNat ≤ p.high then
      let payload := p.payload * 64 + (b.toNat - 0x80)
      if p.missing ≤ 1 then ([.char (Char.ofNat payload)], none)
      else ([], some { p with
        payload := payload, missing := p.missing - 1, low := 0x80, high := 0xBF,
        count := p.count + 1 })
    else
      let (pieces, next) := begin pos b
      (p.invalid .continuation :: pieces, next)

def scan (pos : Nat) (open? : Option Partial) : List UInt8 → List Piece
  | [] => match open? with
    | none => []
    | some p => [p.invalid .truncated]
  | b :: rest =>
    let (pieces, next) := step pos b open?
    pieces ++ scan (pos + 1) next rest

def pieces (bytes : List UInt8) : List Piece := scan 0 none bytes

def decode (bytes : List UInt8) : Except Invalid (List Char) :=
  (pieces bytes).mapM fun
    | .char c => .ok c
    | .invalid e => .error e

/-- The text of the bytes, with the replacement character for every invalid part. -/
def decodeLenient (bytes : List UInt8) : List Char :=
  (pieces bytes).map fun
    | .char c => c
    | .invalid _ => Char.ofNat 0xFFFD

def encode (s : String) : List UInt8 :=
  s.toList.flatMap String.utf8EncodeChar

structure Unencodable where
  char : Char
  first : Nat
  last : Nat
  deriving DecidableEq, Repr

def Unencodable.message (e : Unencodable) : String :=
  if e.first = e.last then
    let escape := String.ofList (Text.numericEscape e.char)
    s!"'utf-8' codec can't encode character '{escape}' in position {e.first}: surrogates not allowed"
  else
    s!"'utf-8' codec can't encode characters in position {e.first}-{e.last}: surrogates not allowed"

/-- The first part of a text that has no encoding, where some surrogates may have one. It reaches to
the end of the surrogates that stand together. -/
def unencodable? (allowed : Char → Bool) (s : List Char) : Option Unencodable :=
  let isRefused (c : Char) : Bool := Text.isSurrogate c && !allowed c
  (s.find? isRefused).map fun char =>
    let first := (s.takeWhile (!isRefused ·)).length
    { char, first, last := first + ((s.drop first).takeWhile Text.isSurrogate).length - 1 }

theorem unencodable?_eq_none_iff {allowed : Char → Bool} {s : List Char} :
    unencodable? allowed s = none ↔ ∀ c ∈ s, Text.isSurrogate c = true → allowed c = true := by
  simp [unencodable?, List.find?_eq_none]

theorem unencodable?_eq_none_iff_isEncodable {s : String} :
    unencodable? (fun _ => false) s.toList = none ↔ Text.IsEncodable s := by
  rw [unencodable?_eq_none_iff]
  exact forall₂_congr fun _ _ => by simp

example : (decode [0x22, 0xC3, 0xA9]).toOption = some ['"', 'é'] := by decide
example : decodeLenient [0x61, 0xFF, 0xE3, 0x81] = ['a', Char.ofNat 0xFFFD, Char.ofNat 0xFFFD] := by
  decide
example : (unencodable? Text.isByte ['a', Text.surrogate 0xD800, Text.surrogate 0xDC80]).map
    Unencodable.message =
      some "'utf-8' codec can't encode characters in position 1-2: surrogates not allowed" := by
  decide

end PageBuild.Utf8
