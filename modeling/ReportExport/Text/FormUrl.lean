import ReportExport.Json.Print

/-!
# Form URL encoding

The `application/x-www-form-urlencoded` format. Writing keeps ASCII letters,
digits and `*-._`, turns a space into `+` and every other byte of the UTF-8
text into `%XX` with uppercase hexadecimal digits. Reading splits at `&`
(skipping empty pieces) and at the first `=` of each piece, turns `+` into a
space, decodes `%XX` escapes (a `%` not followed by two hexadecimal digits
stays as it is), and reads the bytes as UTF-8, each maximal invalid sequence
becoming U+FFFD.
-/

namespace ReportExport.Text.FormUrl

/-- Uppercase hexadecimal digit of a nibble. -/
def upperHex (n : Nat) : Char :=
  if n < 10 then Char.ofNat (48 + n) else Char.ofNat (55 + n)

/-- Whether a byte is written as itself. -/
def keeps (b : UInt8) : Bool :=
  (48 ≤ b && b ≤ 57) || (65 ≤ b && b ≤ 90) || (97 ≤ b && b ≤ 122) ||
  b = 42 || b = 45 || b = 46 || b = 95

/-- The written form of one byte. -/
def encodeByte (b : UInt8) : List Char :=
  if keeps b then [Char.ofNat b.toNat]
  else if b = 32 then ['+']
  else ['%', upperHex (b.toNat / 16), upperHex (b.toNat % 16)]

/-- The written form of a text. -/
def encode (s : String) : String :=
  String.ofList (s.toUTF8.toList.flatMap encodeByte)

/-- Name-value pairs joined as `name=value&…`. -/
def encodePairs (pairs : List (String × String)) : String :=
  "&".intercalate (pairs.map (fun (n, v) => encode n ++ "=" ++ encode v))

/-- Value of a hexadecimal digit byte. -/
def hexOf (b : UInt8) : Option Nat :=
  if 48 ≤ b && b ≤ 57 then some (b.toNat - 48)
  else if 65 ≤ b && b ≤ 70 then some (b.toNat - 55)
  else if 97 ≤ b && b ≤ 102 then some (b.toNat - 87)
  else none

/-- Decodes `%XX` escapes; a `%` without two hexadecimal digits stays. -/
def percentDecode : List UInt8 → List UInt8
  | [] => []
  | 37 :: a :: b :: rest =>
    match hexOf a, hexOf b with
    | some x, some y => UInt8.ofNat (x * 16 + y) :: percentDecode rest
    | _, _ => 37 :: percentDecode (a :: b :: rest)
  | c :: rest => c :: percentDecode rest

/-- The replacement character for invalid UTF-8. -/
def replacement : Char := Char.ofNat 0xfffd

/-- Whether a byte lies in `[lo, hi]`. -/
def within (lo hi : UInt8) (b : UInt8) : Bool := lo ≤ b && b ≤ hi

/-- The accepted range of the second byte and the number of continuation bytes
of a UTF-8 sequence, by its first byte. -/
def leadShape (b : UInt8) : Option (UInt8 × UInt8 × Nat) :=
  if within 0xc2 0xdf b then some (0x80, 0xbf, 1)
  else if b = 0xe0 then some (0xa0, 0xbf, 2)
  else if within 0xe1 0xec b || within 0xee 0xef b then some (0x80, 0xbf, 2)
  else if b = 0xed then some (0x80, 0x9f, 2)
  else if b = 0xf0 then some (0x90, 0xbf, 3)
  else if within 0xf1 0xf3 b then some (0x80, 0xbf, 3)
  else if b = 0xf4 then some (0x80, 0x8f, 3)
  else none

/-- Decodes UTF-8, replacing each maximal invalid sequence by U+FFFD. -/
def decodeLossy (bytes : List UInt8) : String :=
  let rec go (acc : List Char) : List UInt8 → Nat → List Char
    | _, 0 => acc.reverse
    | [], _ => acc.reverse
    | b :: rest, fuel + 1 =>
      if b < 0x80 then go (Char.ofNat b.toNat :: acc) rest fuel
      else
        match leadShape b with
        | none => go (replacement :: acc) rest fuel
        | some (lo, hi, n) =>
          -- the second byte has its own range, the others are 80..BF
          let conts := rest.take n
          let okAt (i : Nat) (c : UInt8) : Bool :=
            if i = 0 then within lo hi c else within 0x80 0xbf c
          let good := (conts.zipIdx.takeWhile (fun (c, i) => okAt i c)).length
          if good = n then
            let code := conts.foldl (fun v c => v * 64 + (c.toNat % 64))
              (b.toNat % (if n = 1 then 32 else if n = 2 then 16 else 8))
            go (Char.ofNat code :: acc) (rest.drop n) fuel
          else go (replacement :: acc) (rest.drop good) fuel
  String.ofList (go [] bytes (bytes.length + 1))

/-- Decodes one name or value. -/
def decodeComponent (bytes : List UInt8) : String :=
  decodeLossy (percentDecode (bytes.map (fun b => if b = 43 then 32 else b)))

/-- Splits a byte list at every occurrence of a separator. -/
def splitBytes (sep : UInt8) (bytes : List UInt8) : List (List UInt8) :=
  bytes.splitOn sep

/-- The name-value pairs of an encoded text. -/
def decodePairs (s : String) : List (String × String) :=
  (splitBytes 38 s.toUTF8.toList).filterMap fun piece =>
    if piece.isEmpty then none
    else
      let name := piece.takeWhile (· != 61)
      let value := (piece.dropWhile (· != 61)).drop 1
      some (decodeComponent name, decodeComponent value)

end ReportExport.Text.FormUrl
