/-!
# Reading UTF-8

Bytes as characters, where every stretch of bytes that begins no character is a fault of
its own: the longest beginning of a character there is, or a single byte. A reader may
stop at the first fault or put a replacement character in place of each.
-/

namespace ChartScript.Text.Utf8

/-- Why bytes begin no character. -/
inductive Reason where
  /-- The first byte begins none. -/
  | start
  /-- A later byte does not go on with it. -/
  | continuation
  /-- The bytes end in the middle. -/
  | truncated
  deriving Repr, DecidableEq

/-- The wording of a reason. -/
def Reason.wording : Reason → String
  | start => "invalid start byte"
  | continuation => "invalid continuation byte"
  | truncated => "unexpected end of data"

/-- What stands at the front of some bytes: a character or a fault, and the number of bytes
it takes. -/
structure Front where
  /-- The character or the reason of the fault. -/
  found : Except Reason Char
  /-- The number of bytes. -/
  size : Nat

/-- The bytes that may follow a first byte directly, as a range, and how many more follow;
nothing if the byte begins no character. -/
def second? (first : Nat) : Option (Nat × Nat × Nat) :=
  if 0xC2 ≤ first && first ≤ 0xDF then some (0x80, 0xBF, 0)
  else if first = 0xE0 then some (0xA0, 0xBF, 1)
  else if first = 0xED then some (0x80, 0x9F, 1)
  else if 0xE1 ≤ first && first ≤ 0xEF then some (0x80, 0xBF, 1)
  else if first = 0xF0 then some (0x90, 0xBF, 2)
  else if 0xF1 ≤ first && first ≤ 0xF3 then some (0x80, 0xBF, 2)
  else if first = 0xF4 then some (0x80, 0x8F, 2)
  else none

/-- The payload of the first byte of a character of several bytes. -/
def leading (first : Nat) : Nat :=
  if first < 0xE0 then first % 32 else if first < 0xF0 then first % 16 else first % 8

/-- Reads the bytes after the first one. `size` counts the bytes read. -/
def follow (value size low high : Nat) : Nat → List Nat → Front
  | _, [] => ⟨.error .truncated, size⟩
  | more, b :: rest =>
    if low ≤ b && b ≤ high then
      let value := value * 64 + b % 64
      match more with
      | 0 => ⟨.ok (Char.ofNat value), size + 1⟩
      | more + 1 => follow value (size + 1) 0x80 0xBF more rest
    else ⟨.error .continuation, size⟩

/-- What stands at the front of bytes that begin with a byte. -/
def front (first : Nat) (rest : List Nat) : Front :=
  if first < 0x80 then ⟨.ok (Char.ofNat first), 1⟩
  else
    match second? first with
    | none => ⟨.error .start, 1⟩
    | some (low, high, more) => follow (leading first) 1 low high more rest

/-- A place where bytes are no text. -/
structure Fault where
  /-- The number of the first byte at fault. -/
  position : Nat
  /-- The bytes at fault. -/
  bytes : List Nat
  /-- Why they are. -/
  reason : Reason
  deriving Repr

/-- A byte as two hexadecimal digits. -/
def hexByte (b : Nat) : String :=
  String.ofList [Nat.digitChar (b / 16), Nat.digitChar (b % 16)]

/-- The wording of a fault. -/
def Fault.message (f : Fault) : String :=
  let position := toString f.position
  let place :=
    match f.bytes with
    | [b] => "byte 0x" ++ hexByte b ++ " in position " ++ position
    | bytes => "bytes in position " ++ position ++ "-" ++ toString (f.position + bytes.length - 1)
  "'utf-8' codec can't decode " ++ place ++ ": " ++ f.reason.wording

/-- Reads bytes one front at a time. `fuel` bounds the number of fronts. -/
def fronts : Nat → Nat → List Nat → List (Char ⊕ Fault)
  | 0, _, _ => []
  | _, _, [] => []
  | fuel + 1, position, b :: rest =>
    let f := front b rest
    let item : Char ⊕ Fault :=
      match f.found with
      | .ok c => .inl c
      | .error reason => .inr ⟨position, (b :: rest).take f.size, reason⟩
    item :: fronts fuel (position + f.size) ((b :: rest).drop f.size)

/-- The characters and faults of some bytes. -/
def scan (bytes : List Nat) : List (Char ⊕ Fault) := fronts bytes.length 0 bytes

/-- The text of some bytes, or the first fault. -/
def decode (bytes : List Nat) : Except Fault String :=
  let chars : Except Fault (List Char) :=
    (scan bytes).mapM fun item => match item with | .inl c => .ok c | .inr f => .error f
  chars.map String.ofList

/-- The text of some bytes, with a replacement character in place of every fault. -/
def decodeLenient (bytes : List Nat) : String :=
  String.ofList ((scan bytes).map fun item => match item with | .inl c => c | .inr _ => Char.ofNat 0xFFFD)

end ChartScript.Text.Utf8
