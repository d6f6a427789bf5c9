import Mathlib
import ReportExport.Text.FormUrl
import ReportExport.Proofs.Text.Bytes

/-!
# Form-encoded text reads back

`FormUrl.decodePairs` inverts `FormUrl.encodePairs`: a list of names and
values, written as form-encoded text and read again, is the same list
(`decodePairs_encodePairs`). Three facts carry it.

* The lenient UTF-8 reading decodes well-formed bytes character by character
  (`go_utf8EncodeChar`): the lead byte of every encoded character has the shape
  the reader expects for it, and so do its continuation bytes.
* Turning `+` into a space and then decoding `%XX` escapes gives back the UTF-8
  bytes of the text (`percentDecode_encodedBytes`), since a literal `+` is
  itself written as an escape.
* The written form is ASCII and holds neither `&` nor `=`, so splitting the text
  at `&` and each piece at its first `=` finds the written names and values.
-/

namespace ReportExport.Text.FormUrl

/-! ## Lenient UTF-8 on well-formed bytes -/

theorem toNat_ofNat_of_lt {n : Nat} (h : n < 256) : (UInt8.ofNat n).toNat = n := by
  rw [UInt8.toNat_ofNat']
  omega

theorem within_iff {lo hi b : UInt8} : within lo hi b = true ↔ lo.toNat ≤ b.toNat ∧ b.toNat ≤ hi.toNat := by
  simp [within, UInt8.le_iff_toNat_le]

/-- The lead bytes of two-byte characters, `C2` to `DF`. -/
theorem leadShape_two : ∀ L < 30, leadShape (UInt8.ofNat (L + 194)) = some (0x80, 0xbf, 1) := by
  decide

/-- The lead bytes of three-byte characters, `E0` to `EF`: after `E0` the second
byte is at least `A0` (no overlong form), after `ED` at most `9F` (no surrogate). -/
theorem leadShape_three : ∀ L < 16, leadShape (UInt8.ofNat (L + 224)) =
    some (if L = 0 then 0xa0 else 0x80, if L = 13 then 0x9f else 0xbf, 2) := by
  decide

/-- The lead bytes of four-byte characters, `F0` to `F4`: after `F0` the second
byte is at least `90`, after `F4` at most `8F` (nothing past U+10FFFF). -/
theorem leadShape_four : ∀ L < 5, leadShape (UInt8.ofNat (L + 240)) =
    some (if L = 0 then 0x90 else 0x80, if L = 4 then 0x8f else 0xbf, 3) := by
  decide

/-- A lead byte whose continuation bytes all fit its shape is read as one
character, assembled from the low bits of each byte. -/
theorem go_lead {acc : List Char} {b x : UInt8} {more rest : List UInt8} {fuel : Nat} {lo hi : UInt8} {n : Nat}
    {bits : Nat} (high : 0x80 ≤ b.toNat) (shape : leadShape b = some (lo, hi, n)) (count : more.length + 1 = n)
    (lead : (if n = 1 then 32 else if n = 2 then 16 else 8) = bits)
    (second : within lo hi x = true) (others : ∀ y ∈ more, within 0x80 0xbf y = true) :
    decodeLossy.go acc (b :: ((x :: more) ++ rest)) (fuel + 1) =
      decodeLossy.go (Char.ofNat ((x :: more).foldl (fun v c => v * 64 + c.toNat % 64) (b.toNat % bits)) :: acc)
        rest fuel := by
  -- the reader counts the bytes that fit before the first that does not: here all of them
  have whole : (x :: more).zipIdx.takeWhile
      (fun p => if p.2 = 0 then within lo hi p.1 else within 0x80 0xbf p.1) = (x :: more).zipIdx := by
    refine List.takeWhile_eq_self_iff.2 fun p mem => ?_
    rw [List.zipIdx_cons, List.mem_cons] at mem
    rcases mem with rfl | later
    · exact second
    · have past : 1 ≤ p.2 := (List.mem_zipIdx later).1
      rw [if_neg (by omega)]
      exact others _ (List.fst_mem_of_mem_zipIdx later)
  rw [decodeLossy.go, if_neg (by rw [UInt8.lt_iff_toNat_lt]; simp; omega), shape]
  have length : (x :: more).length = n := count
  dsimp only
  rw [List.take_left' length, List.drop_left' length, whole, List.length_zipIdx, if_pos length, lead]

/-- The reader takes a character's UTF-8 bytes back to the character. -/
theorem go_utf8EncodeChar (c : Char) (acc : List Char) (rest : List UInt8) (fuel : Nat) :
    decodeLossy.go acc (String.utf8EncodeChar c ++ rest) (fuel + 1) = decodeLossy.go (c :: acc) rest fuel := by
  have v : c.val.toNat = c.toNat := rfl
  have valid : c.toNat < 0xd800 ∨ (0xdfff < c.toNat ∧ c.toNat < 0x110000) := by
    simpa [UInt32.isValidChar, Nat.isValidChar] using c.valid
  rw [String.utf8EncodeChar, v]
  by_cases one : c.toNat ≤ 0x7f
  · rw [if_pos one, List.singleton_append, decodeLossy.go, toNat_ofNat_of_lt (by omega),
      if_pos (by rw [UInt8.lt_iff_toNat_lt, toNat_ofNat_of_lt (by omega)]; simp; omega), Char.ofNat_toNat]
  rw [if_neg one]
  by_cases two : c.toNat ≤ 0x7ff
  · rw [if_pos two, List.cons_append]
    have lead := toNat_ofNat_of_lt (show c.toNat / 64 % 32 + 192 < 256 by omega)
    have tail := toNat_ofNat_of_lt (show c.toNat % 64 + 128 < 256 by omega)
    have shape := leadShape_two (c.toNat / 64 % 32 - 2) (by omega)
    rw [show c.toNat / 64 % 32 - 2 + 194 = c.toNat / 64 % 32 + 192 by omega] at shape
    rw [go_lead (by omega) shape rfl (by decide : _ = 32) (by rw [within_iff, tail]; simp; omega) (by simp)]
    simp only [List.foldl_cons, List.foldl_nil, lead, tail]
    rw [show (c.toNat / 64 % 32 + 192) % 32 * 64 + (c.toNat % 64 + 128) % 64 = c.toNat by omega, Char.ofNat_toNat]
  rw [if_neg two]
  by_cases three : c.toNat ≤ 0xffff
  · rw [if_pos three, List.cons_append]
    have lead := toNat_ofNat_of_lt (show c.toNat / 4096 % 16 + 224 < 256 by omega)
    have mid := toNat_ofNat_of_lt (show c.toNat / 64 % 64 + 128 < 256 by omega)
    have tail := toNat_ofNat_of_lt (show c.toNat % 64 + 128 < 256 by omega)
    have shape := leadShape_three (c.toNat / 4096 % 16) (by omega)
    rw [go_lead (by omega) shape rfl (by decide : _ = 16) (by rw [within_iff, mid]; split_ifs <;> simp <;> omega)
      (by simp [within_iff]; omega)]
    simp only [List.foldl_cons, List.foldl_nil, lead, mid, tail]
    rw [show ((c.toNat / 4096 % 16 + 224) % 16 * 64 + (c.toNat / 64 % 64 + 128) % 64) * 64 + (c.toNat % 64 + 128) % 64
      = c.toNat by omega, Char.ofNat_toNat]
  · rw [if_neg three, List.cons_append]
    have lead := toNat_ofNat_of_lt (show c.toNat / 262144 % 8 + 240 < 256 by omega)
    have second := toNat_ofNat_of_lt (show c.toNat / 4096 % 64 + 128 < 256 by omega)
    have third := toNat_ofNat_of_lt (show c.toNat / 64 % 64 + 128 < 256 by omega)
    have tail := toNat_ofNat_of_lt (show c.toNat % 64 + 128 < 256 by omega)
    have shape := leadShape_four (c.toNat / 262144 % 8) (by omega)
    rw [go_lead (by omega) shape rfl (by decide : _ = 8) (by rw [within_iff, second]; split_ifs <;> simp <;> omega)
      (by simp [within_iff]; omega)]
    simp only [List.foldl_cons, List.foldl_nil, lead, second, third, tail]
    rw [show (((c.toNat / 262144 % 8 + 240) % 8 * 64 + (c.toNat / 4096 % 64 + 128) % 64) * 64 +
      (c.toNat / 64 % 64 + 128) % 64) * 64 + (c.toNat % 64 + 128) % 64 = c.toNat by omega, Char.ofNat_toNat]

/-- Reading the UTF-8 bytes of characters appends the characters to those read. -/
theorem go_flatMap (cs : List Char) : ∀ (acc : List Char) (fuel : Nat),
    (cs.flatMap String.utf8EncodeChar).length < fuel →
      decodeLossy.go acc (cs.flatMap String.utf8EncodeChar) fuel = acc.reverse ++ cs := by
  induction cs with
  | nil =>
    intro acc fuel _
    cases fuel <;> simp [decodeLossy.go]
  | cons c cs ih =>
    intro acc fuel enough
    -- one step of fuel per character, and every character has at least one byte
    obtain ⟨fuel, rfl⟩ : ∃ f, fuel = f + 1 := ⟨fuel - 1, by omega⟩
    have wide := c.utf8Size_pos
    rw [List.flatMap_cons, List.length_append, String.length_utf8EncodeChar] at enough
    rw [List.flatMap_cons, go_utf8EncodeChar, ih (c :: acc) fuel (by omega), List.reverse_cons, List.append_assoc,
      List.singleton_append]

/-- The lenient reading of a text's bytes is the text. -/
theorem decodeLossy_bytesOf (s : String) : decodeLossy (bytesOf s) = s := by
  rw [decodeLossy, bytesOf_eq_flatMap, go_flatMap _ [] _ (Nat.lt_succ_self _), List.reverse_nil, List.nil_append,
    String.ofList_toList]

/-! ## Escapes -/

/-- What reading does first: a `+` becomes a space. -/
def unplus (b : UInt8) : UInt8 := if b = 43 then 32 else b

theorem decodeComponent_eq (bytes : List UInt8) :
    decodeComponent bytes = decodeLossy (percentDecode (bytes.map unplus)) := rfl

/-- The bytes of a text's written form. -/
def encodedBytes (s : String) : List UInt8 := ((bytesOf s).flatMap encodeByte).map byteOf

/-- A byte written as itself is an ASCII letter, digit or one of `*-._`. -/
theorem keeps_bounds {b : UInt8} (kept : keeps b = true) :
    b.toNat < 128 ∧ b.toNat ≠ 43 ∧ b.toNat ≠ 37 ∧ b.toNat ≠ 38 ∧ b.toNat ≠ 61 ∧ b.toNat ≠ 63 := by
  simp only [keeps, Bool.or_eq_true, Bool.and_eq_true, decide_eq_true_eq, UInt8.le_iff_toNat_le,
    ← UInt8.toNat_inj, UInt8.reduceToNat] at kept
  omega

/-- The hexadecimal digits of an escape are read back by `hexOf`, are left alone
by `unplus`, and are ASCII but neither `&`, `=` nor `?`. -/
theorem upperHex_digit : ∀ n < 16, hexOf (byteOf (upperHex n)) = some n ∧
    unplus (byteOf (upperHex n)) = byteOf (upperHex n) ∧ (upperHex n).toNat < 128 ∧
    upperHex n ≠ '&' ∧ upperHex n ≠ '=' ∧ upperHex n ≠ '?' := by
  decide

theorem byteOf_ofNat {n : Nat} (ascii : n < 128) : byteOf (Char.ofNat n) = UInt8.ofNat n := by
  rw [byteOf, Char.toNat_ofNat, if_pos (by simp [Nat.isValidChar]; omega)]

theorem percentDecode_cons_of_ne {c : UInt8} (rest : List UInt8) (plain : c ≠ 37) :
    percentDecode (c :: rest) = c :: percentDecode rest := by
  simp [percentDecode, plain]

/-- Reading one written byte gives the byte back. -/
theorem percentDecode_encodeByte (b : UInt8) (rest : List UInt8) :
    percentDecode (((encodeByte b).map byteOf).map unplus ++ rest) = b :: percentDecode rest := by
  unfold encodeByte
  split
  · next kept =>
    obtain ⟨ascii, notPlus, notPercent, -⟩ := keeps_bounds kept
    have back : byteOf (Char.ofNat b.toNat) = b := by rw [byteOf_ofNat ascii, UInt8.ofNat_toNat]
    rw [List.map_singleton, back, List.map_singleton, unplus, if_neg (fun same => notPlus (by rw [same]; rfl)),
      List.singleton_append, percentDecode_cons_of_ne _ (fun same => notPercent (by rw [same]; rfl))]
  · split
    · next space =>
      -- a space is written `+` and read back as a space
      rw [space]
      rfl
    · -- any other byte is written as `%` and two hexadecimal digits
      have byte : b.toNat < 256 := b.toNat_lt
      have hi := upperHex_digit (b.toNat / 16) (by omega)
      have lo := upperHex_digit (b.toNat % 16) (by omega)
      have percent : unplus (byteOf '%') = 37 := rfl
      simp only [List.map_cons, List.map_nil, percent, hi.2.1, lo.2.1, List.cons_append, List.nil_append]
      rw [percentDecode, hi.1, lo.1]
      dsimp only
      rw [show b.toNat / 16 * 16 + b.toNat % 16 = b.toNat by omega, UInt8.ofNat_toNat]

/-- Reading written bytes gives the bytes back. -/
theorem percentDecode_encoded (bs rest : List UInt8) :
    percentDecode (((bs.flatMap encodeByte).map byteOf).map unplus ++ rest) = bs ++ percentDecode rest := by
  induction bs with
  | nil => rfl
  | cons b bs ih =>
    rw [List.flatMap_cons, List.map_append, List.map_append, List.append_assoc, percentDecode_encodeByte, ih,
      List.cons_append]

/-- A written text, read as a name or a value, is the text. -/
theorem decodeComponent_encodedBytes (s : String) : decodeComponent (encodedBytes s) = s := by
  have decoded := percentDecode_encoded (bytesOf s) []
  rw [List.append_nil, show percentDecode [] = [] from rfl, List.append_nil] at decoded
  rw [decodeComponent_eq, encodedBytes, decoded, decodeLossy_bytesOf]

/-! ## Separators -/

/-- Every character a byte is written as is ASCII, and none is `&`, `=` or `?`. -/
theorem mem_encodeByte {b : UInt8} {c : Char} (mem : c ∈ encodeByte b) :
    c.toNat < 128 ∧ c ≠ '&' ∧ c ≠ '=' ∧ c ≠ '?' := by
  unfold encodeByte at mem
  split at mem
  · next kept =>
    obtain ⟨ascii, -, -, amp, equals, question⟩ := keeps_bounds kept
    rw [List.mem_singleton] at mem
    subst mem
    have code : (Char.ofNat b.toNat).toNat = b.toNat := by
      rw [Char.toNat_ofNat, if_pos (by simp [Nat.isValidChar]; omega)]
    refine ⟨by omega, fun same => amp ?_, fun same => equals ?_, fun same => question ?_⟩ <;>
      rw [← code, same] <;> rfl
  · split at mem
    · rw [List.mem_singleton] at mem
      subst mem
      decide
    · have byte : b.toNat < 256 := b.toNat_lt
      have hi := upperHex_digit (b.toNat / 16) (by omega)
      have lo := upperHex_digit (b.toNat % 16) (by omega)
      simp only [List.mem_cons, List.not_mem_nil, or_false] at mem
      rcases mem with rfl | rfl | rfl
      · decide
      · exact hi.2.2
      · exact lo.2.2

/-- The characters of a written text. -/
theorem toList_encode (s : String) : (encode s).toList = (bytesOf s).flatMap encodeByte := by
  rw [encode, String.toList_ofList, toList_eq_data]
  rfl

theorem mem_encode {s : String} {c : Char} (mem : c ∈ (encode s).toList) :
    c.toNat < 128 ∧ c ≠ '&' ∧ c ≠ '=' ∧ c ≠ '?' := by
  rw [toList_encode, List.mem_flatMap] at mem
  obtain ⟨_, -, inside⟩ := mem
  exact mem_encodeByte inside

theorem bytesOf_encode (s : String) : bytesOf (encode s) = encodedBytes s := by
  rw [bytesOf_eq_flatMap, flatMap_utf8EncodeChar_of_ascii (fun c mem => (mem_encode mem).1), toList_encode,
    encodedBytes]

/-- No written byte is `&` or `=`. -/
theorem separators_not_mem_encodedBytes {s : String} {b : UInt8} (mem : b ∈ encodedBytes s) : b ≠ 38 ∧ b ≠ 61 := by
  rw [← bytesOf_encode, bytesOf_eq_flatMap, flatMap_utf8EncodeChar_of_ascii (fun c mem => (mem_encode mem).1),
    List.mem_map] at mem
  obtain ⟨c, inside, rfl⟩ := mem
  obtain ⟨ascii, amp, equals, -⟩ := mem_encode inside
  have code : (byteOf c).toNat = c.toNat := toNat_ofNat_of_lt (by omega)
  refine ⟨fun same => amp ?_, fun same => equals ?_⟩ <;>
    rw [← Char.ofNat_toNat c, ← code, same] <;> rfl

/-- The bytes of one written pair, `name=value`. -/
def pairBytes (p : String × String) : List UInt8 := encodedBytes p.1 ++ 61 :: encodedBytes p.2

theorem bytesOf_encodePairs (ps : List (String × String)) :
    bytesOf (encodePairs ps) = [38].intercalate (ps.map pairBytes) := by
  rw [encodePairs, bytesOf_intercalate, List.map_map]
  congr 1
  refine List.map_congr_left fun p _ => ?_
  have equals : bytesOf "=" = [61] := rfl
  simp [pairBytes, bytesOf_encode, equals]

/-- Reading one piece of a written text: the name before its first `=`, the value after. -/
theorem readPiece_pairBytes (p : String × String) :
    (if (pairBytes p).isEmpty then none else
      some (decodeComponent ((pairBytes p).takeWhile (· != 61)),
        decodeComponent (((pairBytes p).dropWhile (· != 61)).drop 1))) = some p := by
  have plain : ∀ b ∈ encodedBytes p.1, (b != 61) = true := fun b mem => by
    simpa using (separators_not_mem_encodedBytes mem).2
  rw [pairBytes, List.takeWhile_append_of_pos plain, List.dropWhile_append_of_pos plain]
  simp [decodeComponent_encodedBytes]

/-- Form-encoded pairs read back as the same pairs, in order. -/
theorem decodePairs_encodePairs (ps : List (String × String)) : decodePairs (encodePairs ps) = ps := by
  rw [decodePairs, toList_eq_data]
  change List.filterMap _ (splitBytes 38 (bytesOf (encodePairs ps))) = ps
  cases ps with
  | nil => rfl
  | cons p ps =>
    -- no written piece holds the separator, so splitting undoes the joining
    have apart : ∀ piece ∈ (p :: ps).map pairBytes, 38 ∉ piece := by
      simp only [List.mem_map]
      rintro _ ⟨q, -, rfl⟩ inside
      rw [pairBytes, List.mem_append, List.mem_cons] at inside
      rcases inside with mem | same | mem
      · exact (separators_not_mem_encodedBytes mem).1 rfl
      · cases same
      · exact (separators_not_mem_encodedBytes mem).1 rfl
    rw [bytesOf_encodePairs, splitBytes, List.splitOn_intercalate 38 apart (by simp), List.filterMap_map]
    exact (List.filterMap_congr fun q _ => readPiece_pairBytes q).trans List.filterMap_some

theorem forall_mem_intercalate {p : Char → Prop} {sep : List Char} (onSep : ∀ c ∈ sep, p c) :
    ∀ {ls : List (List Char)}, (∀ l ∈ ls, ∀ c ∈ l, p c) → ∀ c ∈ sep.intercalate ls, p c
  | [], _ => fun _ mem => by cases mem
  | [l], each => by simpa using each l List.mem_cons_self
  | l :: l' :: ls, each => by
    rw [List.intercalate_cons_cons]
    intro c mem
    simp only [List.mem_append] at mem
    rcases mem with (inside | inside) | later
    · exact each l List.mem_cons_self c inside
    · exact onSep c inside
    · exact forall_mem_intercalate onSep (fun l'' mem => each l'' (List.mem_cons_of_mem _ mem)) c later

/-- A form-encoded text never holds `?`, so it never reads as starting a query. -/
theorem question_not_mem_encodePairs (ps : List (String × String)) : '?' ∉ (encodePairs ps).toList := by
  intro mem
  rw [encodePairs, String.toList_intercalate] at mem
  have amp : ∀ c ∈ "&".toList, c ≠ '?' := by simp
  refine forall_mem_intercalate amp ?_ _ mem rfl
  intro l inside c onPiece
  simp only [List.mem_map] at inside
  obtain ⟨_, ⟨q, -, rfl⟩, rfl⟩ := inside
  simp only [String.toList_append, List.mem_append] at onPiece
  rcases onPiece with (name | equals) | value
  · exact (mem_encode name).2.2.2
  · simp at equals
    rw [equals]
    decide
  · exact (mem_encode value).2.2.2

end ReportExport.Text.FormUrl
