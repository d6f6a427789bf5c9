/-!
# UTF-8 bytes

Text is kept as its UTF-8 bytes where it may be malformed. Two readings of
bytes are needed, and they differ on malformed input:

* the lenient reading takes a lead byte with every continuation byte that
  follows it, however many, and gives U+FFFD for what is not a character; a
  stray continuation byte stands for itself. Counting characters this way
  counts every byte that is not a continuation of a lead byte;
* the strict reading accepts exactly the well-formed sequences, and on the
  first fault says where the valid prefix ends and how many bytes the fault
  covers, or that the text ends in the middle of a character.
-/

namespace ReportExport.Text

/-- Bytes, such as the UTF-8 form of a text. -/
abbrev Bytes := List UInt8

/-- Whether a byte continues a multi-byte character. -/
def isContinuation (b : UInt8) : Bool := b &&& 0xC0 == 0x80

/-- The UTF-8 bytes of a string, read off the array that holds them. -/
def bytesOf (s : String) : Bytes := s.toUTF8.data.toList

/-- The bits a lead byte contributes to its character. -/
def leadBits (b : UInt8) : Nat :=
  let n := b.toNat
  if n < 0xE0 then n - 0xC0
  else if n < 0xF0 then n - 0xE0
  else if n < 0xF8 then n - 0xF0
  else if n < 0xFC then n - 0xF8
  else if n < 0xFE then n - 0xFC
  else 0

/-- Reads one character leniently: a byte below 0xC0 is itself; a lead byte
takes all continuation bytes after it, and a result that is an overlong form,
a surrogate or a non-character U+FFFE/U+FFFF becomes U+FFFD. -/
def readLenient : Bytes → Option (Nat × Bytes)
  | [] => none
  | b :: rest =>
    if b.toNat < 0xC0 then some (b.toNat, rest)
    else
      let conts := rest.takeWhile isContinuation
      -- the accumulator is a 32-bit word
      let c := conts.foldl (fun acc x => (acc * 64 + x.toNat % 64) % 0x100000000) (leadBits b)
      let c := if c < 0x80 || c / 0x800 == 0xD800 / 0x800 || c / 2 == 0xFFFE / 2 then 0xFFFD else c
      some (c, rest.drop conts.length)

/-- The code points of bytes, read leniently. -/
def codePoints (bs : Bytes) : List Nat :=
  let rec go (bs : Bytes) (fuel : Nat) : List Nat :=
    match fuel, readLenient bs with
    | 0, _ => []
    | _, none => []
    | fuel + 1, some (c, rest) => c :: go rest fuel
  go bs bs.length

/-- The bytes of one character in UTF-8; code points beyond U+10FFFF are
written in the four-byte pattern all the same. -/
def encodePoint (c : Nat) : Bytes :=
  if c < 0x80 then [UInt8.ofNat c]
  else if c < 0x800 then [UInt8.ofNat (0xC0 + c / 64), UInt8.ofNat (0x80 + c % 64)]
  else if c < 0x10000 then
    [UInt8.ofNat (0xE0 + c / 4096), UInt8.ofNat (0x80 + (c / 64) % 64), UInt8.ofNat (0x80 + c % 64)]
  else
    [UInt8.ofNat (0xF0 + (c / 262144) % 8), UInt8.ofNat (0x80 + (c / 4096) % 64),
     UInt8.ofNat (0x80 + (c / 64) % 64), UInt8.ofNat (0x80 + c % 64)]

/-- Splits bytes into characters the lenient way: a byte below 0xC0 alone,
a lead byte with the continuation bytes after it. -/
def characters (bs : Bytes) : List Bytes :=
  let rec go (bs : Bytes) (fuel : Nat) : List Bytes :=
    match fuel, bs with
    | 0, _ => []
    | _, [] => []
    | fuel + 1, b :: rest =>
      if b.toNat < 0xC0 then [b] :: go rest fuel
      else
        let conts := rest.takeWhile isContinuation
        (b :: conts) :: go (rest.drop conts.length) fuel
  go bs bs.length

/-- A fault of the strict reading: the length of the valid prefix, and the
number of bytes of the faulty sequence, or none when the bytes end inside a
character. -/
structure Utf8Fault where
  validUpTo : Nat
  faultLength : Option Nat
  deriving Repr, DecidableEq

/-- The message of a fault. -/
def Utf8Fault.message (f : Utf8Fault) : String :=
  match f.faultLength with
  | some n => "invalid utf-8 sequence of " ++ toString n ++ " bytes from index " ++ toString f.validUpTo
  | none => "incomplete utf-8 byte sequence from index " ++ toString f.validUpTo

/-- How many bytes a lead byte's character has; 0 for a byte that cannot lead. -/
def sequenceWidth (b : UInt8) : Nat :=
  let n := b.toNat
  if n < 0x80 then 1
  else if 0xC2 ≤ n && n ≤ 0xDF then 2
  else if 0xE0 ≤ n && n ≤ 0xEF then 3
  else if 0xF0 ≤ n && n ≤ 0xF4 then 4
  else 0

/-- Whether the second byte of a sequence is allowed after its lead byte:
this excludes overlong forms, surrogates and points beyond U+10FFFF. -/
def secondAllowed (lead second : UInt8) : Bool :=
  let l := lead.toNat
  let s := second.toNat
  if l == 0xE0 then 0xA0 ≤ s && s ≤ 0xBF
  else if l == 0xED then 0x80 ≤ s && s ≤ 0x9F
  else if l == 0xF0 then 0x90 ≤ s && s ≤ 0xBF
  else if l == 0xF4 then 0x80 ≤ s && s ≤ 0x8F
  else 0x80 ≤ s && s ≤ 0xBF

/-- Checks one character at the front: its length, or the fault's length
(none when the bytes end inside it). -/
def checkCharacter : Bytes → Except (Option Nat) Nat
  | [] => .ok 0
  | b :: rest =>
    match sequenceWidth b with
    | 1 => .ok 1
    | 0 => .error (some 1)
    | w =>
      match rest with
      | [] => .error none
      | s :: rest =>
        if !secondAllowed b s then .error (some 1)
        else if w == 2 then .ok 2
        else match rest with
          | [] => .error none
          | t :: rest =>
            if !isContinuation t then .error (some 2)
            else if w == 3 then .ok 3
            else match rest with
              | [] => .error none
              | u :: _ => if isContinuation u then .ok 4 else .error (some 3)

/-- The first fault of the strict reading, if any. -/
def firstFault (bs : Bytes) : Option Utf8Fault :=
  let rec go (bs : Bytes) (offset : Nat) (fuel : Nat) : Option Utf8Fault :=
    match fuel, bs with
    | 0, _ => none
    | _, [] => none
    | fuel + 1, _ :: _ =>
      match checkCharacter bs with
      | .error len => some ⟨offset, len⟩
      | .ok n => go (bs.drop n) (offset + n) fuel
  go bs 0 bs.length

/-- Reads bytes strictly as a string. -/
def decodeStrict (bs : Bytes) : Except Utf8Fault String :=
  match firstFault bs with
  | some f => .error f
  | none => .ok (String.fromUTF8? (ByteArray.mk bs.toArray) |>.getD "")

end ReportExport.Text
