import Mathlib
import ReportExport.Json.Parse
import ReportExport.Json.Print
import ReportExport.Proofs.Text.Bytes

/-!
# Reading printed JSON back

The reader walks the bytes of a text by offset. Its view of a position is the
list of bytes from there on (`Source.suffix`): each step of the reader looks
at the head of that list and moves past it. Compact text is followed byte by
byte through the reader here: keywords, integers, quoted strings, and then
arrays and objects, item after item, by one induction over the value that
mirrors the printer's own recursion.

The reader takes a fuel argument and a depth limit. Fuel is never short:
every step consumes at least one byte of what is left to read, so fuel above
the length of the text suffices. The depth limit is the data model's, and a
value whose containers nest as deep as it is not read back.
-/

namespace ReportExport.JsonText

open Text

/-! ## Positions as the bytes that remain -/

namespace Source

variable {src : Source} {i : Nat} {b : UInt8} {rest : List UInt8}

/-- The bytes of the source from an offset on. -/
def suffix (src : Source) (i : Nat) : List UInt8 := src.bytes.data.toList.drop i

theorem at?_of_suffix (h : src.suffix i = b :: rest) : src.at? i = some b := by
  have inside : i < src.bytes.size := by
    have := congrArg List.length h
    simp only [suffix, List.length_drop, Array.length_toList, List.length_cons] at this
    rw [← ByteArray.size_data]
    omega
  rw [at?, dif_pos inside, ByteArray.getElem_eq_getElem_data, ← Array.getElem_toList]
  rw [suffix, List.drop_eq_getElem_cons (by simpa using inside)] at h
  exact congrArg some (List.cons.inj h).1

theorem at?_of_suffix_nil (h : src.suffix i = []) : src.at? i = none := by
  have beyond : ¬ i < src.bytes.size := by
    simp only [suffix, List.drop_eq_nil_iff, Array.length_toList] at h
    rw [← ByteArray.size_data]
    omega
  rw [at?, dif_neg beyond]

theorem suffix_succ (h : src.suffix i = b :: rest) : src.suffix (i + 1) = rest := by
  rw [suffix, ← List.tail_drop, ← suffix, h, List.tail_cons]

theorem suffix_add {xs : List UInt8} (h : src.suffix i = xs ++ rest) : src.suffix (i + xs.length) = rest := by
  simp only [suffix] at h ⊢
  rw [← List.drop_drop, h, List.drop_left]

/-- What remains at an offset has the source's size less the offset. -/
theorem length_suffix (src : Source) (i : Nat) : (src.suffix i).length = src.size - i := by
  rw [suffix, List.length_drop, Array.length_toList, ByteArray.size_data]
  rfl

/-- Blanks are skipped only where there are blanks. -/
theorem skipBlanks_of_suffix (h : src.suffix i = b :: rest) (blank : ¬ (b = 32 ∨ b = 10 ∨ b = 9 ∨ b = 13)) :
    src.skipBlanks i = i := by
  have fuel : src.size - i = (src.size - i - 1) + 1 := by
    have := length_suffix src i
    rw [h, List.length_cons] at this
    omega
  rw [skipBlanks, fuel, skipBlanks.go, at?_of_suffix h]
  simp only [not_or] at blank
  obtain ⟨space, newline, tab, ret⟩ := blank
  split <;> simp_all

theorem skipBlanks_of_suffix_nil (h : src.suffix i = []) : src.skipBlanks i = i := by
  have fuel : src.size - i = 0 := by
    have := length_suffix src i
    rw [h, List.length_nil] at this
    omega
  rw [skipBlanks, fuel, skipBlanks.go]

/-- A keyword's remaining bytes are read off one by one. -/
theorem expectWord_of_suffix (ws : List UInt8) (h : src.suffix i = ws ++ rest) :
    src.expectWord i ws = .ok (i + ws.length) := by
  induction ws generalizing i with
  | nil => rw [expectWord]; rfl
  | cons w ws ih =>
    rw [List.cons_append] at h
    rw [expectWord, at?_of_suffix h]
    dsimp only
    rw [if_pos rfl, ih (suffix_succ h), List.length_cons, Nat.add_assoc, Nat.add_comm 1]

end Source

/-! ## Decimal digits -/

/-- The value of digit bytes read after a value already read. -/
def digitsValue (sig : Nat) (ds : List UInt8) : Nat := ds.foldl (fun acc b => acc * 10 + Source.digitOf b) sig

theorem digit_bounds {c : Char} (digit : c.isDigit = true) : 48 ≤ c.toNat ∧ c.toNat ≤ 57 := by
  simp only [Char.isDigit, Bool.and_eq_true, decide_eq_true_eq] at digit
  exact ⟨digit.1, digit.2⟩

theorem toNat_byteOf {c : Char} (digit : c.isDigit = true) : (byteOf c).toNat = c.toNat := by
  have := digit_bounds digit
  simp only [byteOf, UInt8.toNat_ofNat', Nat.reducePow]
  omega

theorem isDigit_byteOf {c : Char} (digit : c.isDigit = true) : Source.isDigit (byteOf c) = true := by
  have := digit_bounds digit
  have value := toNat_byteOf digit
  simp only [Source.isDigit, Bool.and_eq_true, decide_eq_true_eq, UInt8.le_iff_toNat_le, value]
  exact ⟨this.1, this.2⟩

/-- A decimal text is one ASCII byte per digit. -/
theorem bytesOf_natText (n : Nat) : bytesOf (natText n) = (Nat.toDigits 10 n).map byteOf := by
  rw [natText, bytesOf_ofList, flatMap_utf8EncodeChar_of_ascii]
  exact fun c mem =>
    Nat.lt_of_le_of_lt (digit_bounds (Nat.isDigit_of_mem_toDigits (by decide) (by decide) mem)).2 (by decide)

/-- Decimal text starts with a digit byte. -/
theorem bytesOf_natText_cons (m : Nat) : ∃ b bs, bytesOf (natText m) = b :: bs ∧ Source.isDigit b = true := by
  obtain ⟨c, cs, digits⟩ := List.exists_cons_of_ne_nil (Nat.toDigits_ne_nil (b := 10) (n := m))
  refine ⟨byteOf c, cs.map byteOf, by rw [bytesOf_natText, digits, List.map_cons], isDigit_byteOf ?_⟩
  exact Nat.isDigit_of_mem_toDigits (by decide) (by decide) (digits ▸ List.mem_cons_self)

/-- Digit characters read as bytes have the value they denote. -/
theorem digitsValue_map_byteOf (cs : List Char) (digits : ∀ c ∈ cs, c.isDigit = true) (sig : Nat) :
    digitsValue sig (cs.map byteOf) = Nat.ofDigitChars 10 cs sig := by
  induction cs generalizing sig with
  | nil => rfl
  | cons c cs ih =>
    have value := toNat_byteOf (digits c (by simp))
    rw [List.map_cons, digitsValue, List.foldl_cons, ← digitsValue, Nat.ofDigitChars_cons,
      ih (fun d mem => digits d (List.mem_cons_of_mem _ mem)), Source.digitOf, value, Nat.mul_comm]
    rfl

theorem digitsValue_natText (n : Nat) : digitsValue 0 (bytesOf (natText n)) = n := by
  rw [bytesOf_natText, digitsValue_map_byteOf _ (fun c mem => Nat.isDigit_of_mem_toDigits (by decide)
    (by decide) mem), Nat.ofDigitChars_ten_toDigits]

theorem le_digitsValue (sig : Nat) (ds : List UInt8) : sig ≤ digitsValue sig ds := by
  induction ds generalizing sig with
  | nil => exact Nat.le_refl _
  | cons b ds ih => exact Nat.le_trans (by omega) (ih (sig * 10 + Source.digitOf b))

/-- A positive number's decimal text does not start with `0`. -/
theorem head_toDigits_ne_zero {n : Nat} (pos : 0 < n) : ∃ c cs, Nat.toDigits 10 n = c :: cs ∧ c ≠ '0' := by
  induction n using Nat.strongRecOn with
  | ind n ih =>
    rw [Nat.toDigits_eq_if (by decide)]
    split
    · exact ⟨_, [], rfl, by simpa using Nat.pos_iff_ne_zero.mp pos⟩
    · obtain ⟨c, cs, digits, lead⟩ := ih (n / 10) (by omega) (by omega)
      exact ⟨c, cs ++ [(n % 10).digitChar], by rw [digits, List.cons_append], lead⟩

/-- `overflows` tells exactly when one more digit passes the limit. -/
theorem overflows_eq_false {acc d limit : Nat} (fits : acc * 10 + d ≤ limit) : overflows acc d limit = false := by
  simp only [overflows, Bool.and_eq_false_iff, Bool.or_eq_false_iff, decide_eq_false_iff_not, Nat.not_le,
    Nat.not_lt]
  omega

/-- The digit loop reads a run of digits, as long as the value stays in a word. -/
theorem readNumber_go_digits {src : Source} {positive : Bool} {rest : List UInt8} :
    ∀ (ds : List UInt8) (sig j fuel : Nat), (∀ b ∈ ds, Source.isDigit b = true) →
      src.suffix j = ds ++ rest → ds.length < fuel → digitsValue sig ds ≤ maxWord →
      readNumber.go src positive sig j fuel =
        readNumber.go src positive (digitsValue sig ds) (j + ds.length) (fuel - ds.length)
  | [], _, _, _, _, _, _, _ => rfl
  | b :: ds, sig, j, fuel + 1, digits, h, enough, fits => by
    have next : digitsValue (sig * 10 + Source.digitOf b) ds = digitsValue sig (b :: ds) := rfl
    have step := le_digitsValue (sig * 10 + Source.digitOf b) ds
    rw [readNumber.go, Source.at?_of_suffix h]
    dsimp only
    rw [if_pos (digits b (by simp)), overflows_eq_false (by omega), if_neg Bool.false_ne_true,
      readNumber_go_digits ds _ (j + 1) fuel (fun d mem => digits d (List.mem_cons_of_mem _ mem))
        (Source.suffix_succ h) (by simp at enough; omega) (by rw [next]; exact fits), next]
    rw [List.length_cons, Nat.add_assoc, Nat.add_comm 1 ds.length, Nat.add_sub_add_right]

/-- What may follow a value in compact text: nothing, a comma, or a closing
bracket or brace. -/
def Delimited (rest : List UInt8) : Prop := ∀ b ∈ rest.head?, b = 44 ∨ b = 93 ∨ b = 125

/-- At a delimiter the digit loop stops and hands over what it read. -/
theorem readNumber_go_stop {src : Source} {positive : Bool} {sig j fuel : Nat} {rest : List UInt8}
    (h : src.suffix j = rest) (delimited : Delimited rest) :
    readNumber.go src positive sig j (fuel + 1) = readAfterInteger src positive sig j := by
  rw [readNumber.go]
  cases rest with
  | nil => rw [Source.at?_of_suffix_nil h]
  | cons b rest =>
    rw [Source.at?_of_suffix h]
    rcases delimited b rfl with rfl | rfl | rfl <;> rfl

/-- At a delimiter an integer is finished: no fraction and no exponent follow. -/
theorem readAfterInteger_delimited {src : Source} {positive : Bool} {sig j : Nat} {rest : List UInt8}
    (h : src.suffix j = rest) (delimited : Delimited rest) :
    readAfterInteger src positive sig j =
      if positive then .ok (.int sig, j)
      else if sig = 0 ∨ Nat.pow 2 63 < sig then .ok (.float (-(Decimal.nearest false sig 1)), j)
      else .ok (.int (-(sig : Int)), j) := by
  rw [readAfterInteger]
  cases rest with
  | nil => rw [Source.at?_of_suffix_nil h]; simp
  | cons b rest =>
    rw [Source.at?_of_suffix h]
    rcases delimited b rfl with rfl | rfl | rfl <;> simp

/-- A decimal text followed by a delimiter reads as its number, when that
fits in a word. -/
theorem readNumber_natText {src : Source} {positive : Bool} {i m : Nat} {rest : List UInt8}
    (h : src.suffix i = bytesOf (natText m) ++ rest) (delimited : Delimited rest) (word : m ≤ maxWord) :
    readNumber src positive i = readAfterInteger src positive m (i + (bytesOf (natText m)).length) := by
  by_cases zero : m = 0
  · subst zero
    have text : bytesOf (natText 0) = [48] := rfl
    rw [text, List.singleton_append] at h
    rw [readNumber, Source.at?_of_suffix h, text]
    cases rest with
    | nil => rw [Source.at?_of_suffix_nil (Source.suffix_succ h)]; rfl
    | cons b rest =>
      rw [Source.at?_of_suffix (Source.suffix_succ h)]
      rcases delimited b rfl with rfl | rfl | rfl <;> rfl
  · obtain ⟨c, cs, digits, lead⟩ := head_toDigits_ne_zero (Nat.pos_of_ne_zero zero)
    have isDigits : ∀ d ∈ c :: cs, d.isDigit = true := fun d mem =>
      Nat.isDigit_of_mem_toDigits (by decide) (by decide) (digits ▸ mem)
    have bytes : bytesOf (natText m) = byteOf c :: cs.map byteOf := by
      rw [bytesOf_natText, digits, List.map_cons]
    have first : byteOf c ≠ 48 := by
      intro same
      have := congrArg UInt8.toNat same
      rw [toNat_byteOf (isDigits c (by simp))] at this
      exact lead (Char.ext (UInt32.toNat_inj.mp this))
    have value : digitsValue (Source.digitOf (byteOf c)) (cs.map byteOf) = m := by
      rw [← digitsValue_natText m, bytes]
      simp only [digitsValue, List.foldl_cons, Nat.zero_mul, Nat.zero_add]
    rw [bytes, List.cons_append] at h
    have room : (cs.map byteOf).length + 1 ≤ src.size - i := by
      have := Source.length_suffix src i
      rw [h, List.length_cons, List.length_append] at this
      omega
    have loop := @readNumber_go_digits src positive _ (cs.map byteOf) (Source.digitOf (byteOf c)) (i + 1)
      (src.size - i) (fun d mem => by
        obtain ⟨e, inCs, rfl⟩ := List.mem_map.mp mem
        exact isDigit_byteOf (isDigits e (List.mem_cons_of_mem _ inCs)))
      (Source.suffix_succ h) (by omega) (value ▸ word)
    have fuel : src.size - i - (cs.map byteOf).length = (src.size - i - (cs.map byteOf).length - 1) + 1 := by
      omega
    rw [readNumber, Source.at?_of_suffix h]
    split
    · next missing => exact absurd missing (by simp)
    · next zeroHead => exact absurd (Option.some.inj zeroHead) first
    · next b _ same =>
      cases Option.some.inj same
      rw [if_neg (by simp [isDigit_byteOf (isDigits c (by simp))]), loop, value, fuel,
          readNumber_go_stop (Source.suffix_add (Source.suffix_succ h)) delimited, bytes, List.length_cons,
          Nat.add_assoc, Nat.add_comm 1]

/-- A value whose text starts with a digit is read as a number. -/
theorem readValue_digit {src : Source} {depth i fuel : Nat} {b : UInt8} {rest : List UInt8}
    (h : src.suffix i = b :: rest) (digit : Source.isDigit b = true) :
    readValue src depth i (fuel + 1) =
      (readNumber src true i).bind fun (n, j) => .ok (.num n, .mk i j [] [], j) := by
  have bounds : 48 ≤ b.toNat ∧ b.toNat ≤ 57 := by
    simpa [Source.isDigit, UInt8.le_iff_toNat_le] using digit
  have skip : src.skipBlanks i = i := Source.skipBlanks_of_suffix h (by
    intro blank
    rcases blank with rfl | rfl | rfl | rfl <;> simp at bounds)
  rw [readValue, skip, Source.at?_of_suffix h]
  -- the byte is none of the marks that start the other kinds of value
  split
  all_goals first
    | (rename_i same; cases Option.some.inj same; first | exact absurd bounds (by decide) | (rw [if_pos digit]; rfl))
    | (rename_i missing; simp at missing)

/-- A value whose text starts with `-` is read as a negative number. -/
theorem readValue_minus {src : Source} {depth i fuel : Nat} {rest : List UInt8}
    (h : src.suffix i = 45 :: rest) :
    readValue src depth i (fuel + 1) =
      (readNumber src false (i + 1)).bind fun (n, j) => .ok (.num n, .mk i j [] [], j) := by
  rw [readValue, Source.skipBlanks_of_suffix h (by decide), Source.at?_of_suffix h]
  rfl

/-! ## Quoted strings -/

/-- The bytes a character takes inside a quoted string. -/
def escapedBytes (c : Char) : List UInt8 := bytesOf (String.ofList (jsonEscapeChar c))

theorem escapedBytes_eq (c : Char) : escapedBytes c = (jsonEscapeChar c).flatMap String.utf8EncodeChar :=
  bytesOf_ofList _

/-- A quoted string is a quote, each character's escaped bytes, and a quote. -/
theorem bytesOf_jsonQuote (s : String) :
    bytesOf (jsonQuote s) = 34 :: (s.toList.flatMap escapedBytes ++ [34]) := by
  have quote : String.utf8EncodeChar '"' = [34] := by decide
  rw [jsonQuote, bytesOf_ofList, List.flatMap_cons, List.flatMap_append, List.flatMap_assoc,
    funext escapedBytes_eq, List.flatMap_cons, List.flatMap_nil, List.append_nil, quote]
  rfl

theorem utf8Of_toNat (c : Char) : utf8Of c.toNat = String.utf8EncodeChar c := by
  rw [utf8Of, toList_eq_data, Char.ofNat_toNat, ← bytesOf_singleton]
  rfl

/-- A byte that stands for itself inside a string: no control character, no
quote and no backslash. -/
def Plain (b : UInt8) : Prop := 32 ≤ b.toNat ∧ b ≠ 34 ∧ b ≠ 92

section Strings

variable {src : Source} {acc : Array UInt8} {j fuel : Nat} {more : List UInt8}

/-- Plain bytes are copied one by one. -/
theorem readString_go_plain :
    ∀ (bs : List UInt8) (acc : Array UInt8) (j fuel : Nat), (∀ b ∈ bs, Plain b) →
      src.suffix j = bs ++ more → bs.length ≤ fuel →
      readString.go src acc j fuel = readString.go src (acc ++ bs.toArray) (j + bs.length) (fuel - bs.length)
  | [], acc, j, fuel, _, _, _ => by simp
  | b :: bs, acc, j, fuel + 1, plain, h, enough => by
    obtain ⟨low, quote, backslash⟩ := plain b (by simp)
    have control : ¬ b < 32 := by
      rw [UInt8.lt_iff_toNat_lt]
      simp only [UInt8.reduceToNat]
      omega
    rw [List.cons_append] at h
    have next := readString_go_plain bs (acc.push b) (j + 1) fuel (fun d mem => plain d (List.mem_cons_of_mem _ mem))
      (Source.suffix_succ h) (by simp at enough; omega)
    rw [readString.go, Source.at?_of_suffix h]
    split
    · next missing => simp at missing
    · next same => exact absurd (Option.some.inj same) quote
    · next same => exact absurd (Option.some.inj same) backslash
    · next same =>
      cases Option.some.inj same
      have spent : fuel + 1 - (1 + bs.length) = fuel - bs.length := by omega
      have copied : acc.push b ++ bs.toArray = acc ++ (b :: bs).toArray := by simp
      rw [if_neg control, next, copied, List.length_cons, Nat.add_comm bs.length 1, ← Nat.add_assoc, spent]

/-- A backslash hands the rest of the escape to `readEscape`. -/
theorem readString_go_escape {bytes : List UInt8} {k : Nat} (h : src.suffix j = 92 :: more)
    (escape : readEscape src (j + 1) = .ok (bytes, k)) :
    readString.go src acc j (fuel + 1) = readString.go src (acc ++ bytes.toArray) k fuel := by
  rw [readString.go, Source.at?_of_suffix h, escape]
  rfl

/-- A two-byte escape stands for one byte. -/
theorem readString_go_pair {e d : UInt8} (h : src.suffix j = [92, e] ++ more)
    (escape : readEscape src (j + 1) = .ok ([d], j + 2)) (enough : src.size - j < fuel) :
    ∃ fuel', src.size - (j + [92, e].length) < fuel' ∧
      readString.go src acc j fuel = readString.go src (acc ++ [d].toArray) (j + [92, e].length) fuel' := by
  have len := Source.length_suffix src j
  rw [h] at len
  simp only [List.length_append, List.length_cons, List.length_nil] at len ⊢
  obtain ⟨f, rfl⟩ : ∃ f, fuel = f + 1 := ⟨fuel - 1, by omega⟩
  exact ⟨f, by omega, readString_go_escape h escape⟩

/-- Four hexadecimal digits read as their value. -/
theorem readHex4_of_suffix {i : Nat} {a b c d : UInt8} {va vb vc vd : Nat}
    (h : src.suffix i = [a, b, c, d] ++ more) (ha : hexValue a = some va) (hb : hexValue b = some vb)
    (hc : hexValue c = some vc) (hd : hexValue d = some vd) :
    readHex4 src i = .ok (((va * 16 + vb) * 16 + vc) * 16 + vd, i + 4) := by
  have room : ¬ i + 4 > src.size := by
    have len := Source.length_suffix src i
    rw [h] at len
    simp only [List.length_append, List.length_cons, List.length_nil] at len
    omega
  simp only [List.cons_append] at h
  have h1 := Source.suffix_succ h
  have h2 := Source.suffix_succ h1
  have h3 := Source.suffix_succ h2
  rw [readHex4, if_neg room]
  simp only [List.map_cons, List.map_nil, Source.at?_of_suffix h, Source.at?_of_suffix h1,
    Source.at?_of_suffix h2, Source.at?_of_suffix h3, Option.bind_some, ha, hb, hc, hd]

theorem hexValue_hexDigit : ∀ v, v < 16 → hexValue (byteOf (hexDigit v)) = some v := by decide

theorem hexDigit_ascii : ∀ v, v < 16 → (hexDigit v).toNat < 128 := by decide

/-- A control character written as `\u00XX` is read back. -/
theorem readString_go_unicode {c : Char} (small : c.toNat < 32)
    (h : src.suffix j = [92, 117, 48, 48, byteOf (hexDigit (c.toNat / 16)), byteOf (hexDigit (c.toNat % 16))] ++ more)
    (enough : src.size - j < fuel) :
    ∃ fuel', src.size - (j + 6) < fuel' ∧
      readString.go src acc j fuel = readString.go src (acc ++ (String.utf8EncodeChar c).toArray) (j + 6) fuel' := by
  have len := Source.length_suffix src j
  rw [h] at len
  simp only [List.length_append, List.length_cons, List.length_nil] at len
  obtain ⟨f, rfl⟩ : ∃ f, fuel = f + 1 := ⟨fuel - 1, by omega⟩
  have afterBackslash := Source.suffix_succ (by rw [h, List.cons_append])
  have digits := Source.suffix_succ afterBackslash
  have hex := readHex4_of_suffix (by rw [digits]; rfl) (show hexValue 48 = some 0 by decide)
    (show hexValue 48 = some 0 by decide)
    (hexValue_hexDigit _ (by omega)) (hexValue_hexDigit _ (by omega))
  have value : ((0 * 16 + 0) * 16 + c.toNat / 16) * 16 + c.toNat % 16 = c.toNat := by omega
  have escape : readEscape src (j + 1) = .ok (String.utf8EncodeChar c, j + 6) := by
    rw [readEscape, Source.at?_of_suffix afterBackslash]
    simp only [bind, Except.bind, hex, value, utf8Of_toNat]
    rw [if_neg (by simp only [Bool.and_eq_true, decide_eq_true_eq]; omega),
      if_pos (by simp only [Bool.or_eq_true, decide_eq_true_eq]; omega)]
  exact ⟨f, by omega, readString_go_escape (by rw [h, List.cons_append]) escape⟩

/-- A character written as a backslash and one letter is read back. -/
theorem readString_go_escaped {c : Char} {e d : UInt8} (bytes : escapedBytes c = [92, e])
    (out : String.utf8EncodeChar c = [d]) (escape : readEscape src (j + 1) = .ok ([d], j + 2))
    (h : src.suffix j = escapedBytes c ++ more) (enough : src.size - j < fuel) :
    ∃ fuel', src.size - (j + (escapedBytes c).length) < fuel' ∧
      readString.go src acc j fuel =
        readString.go src (acc ++ (String.utf8EncodeChar c).toArray) (j + (escapedBytes c).length) fuel' := by
  rw [bytes] at h ⊢
  rw [out]
  exact readString_go_pair h escape enough

theorem plain_of_toNat {b : UInt8} (low : 32 ≤ b.toNat) (notQuote : b.toNat ≠ 34) (notBackslash : b.toNat ≠ 92) :
    Plain b :=
  ⟨low, fun same => notQuote (by rw [same]; rfl), fun same => notBackslash (by rw [same]; rfl)⟩

/-- One character, escaped or not, is read back as its UTF-8 bytes. -/
theorem readString_go_char {c : Char} (h : src.suffix j = escapedBytes c ++ more) (enough : src.size - j < fuel) :
    ∃ fuel', src.size - (j + (escapedBytes c).length) < fuel' ∧
      readString.go src acc j fuel =
        readString.go src (acc ++ (String.utf8EncodeChar c).toArray) (j + (escapedBytes c).length) fuel' := by
  have second {e : UInt8} (bytes : escapedBytes c = [92, e]) : src.suffix (j + 1) = e :: more := by
    rw [bytes, List.cons_append] at h
    exact Source.suffix_succ h
  -- the escapes of `jsonEscapeChar`, in its order
  by_cases quote : c = '"'
  · subst quote
    have bytes : escapedBytes '"' = [92, 34] := by rw [escapedBytes_eq]; decide
    exact readString_go_escaped bytes (show String.utf8EncodeChar '"' = [34] by decide)
      (by rw [readEscape, Source.at?_of_suffix (second bytes)]; rfl) h enough
  by_cases backslash : c = '\\'
  · subst backslash
    have bytes : escapedBytes '\\' = [92, 92] := by rw [escapedBytes_eq]; decide
    exact readString_go_escaped bytes (show String.utf8EncodeChar '\\' = [92] by decide)
      (by rw [readEscape, Source.at?_of_suffix (second bytes)]; rfl) h enough
  by_cases newline : c = '\n'
  · subst newline
    have bytes : escapedBytes '\n' = [92, 110] := by rw [escapedBytes_eq]; decide
    exact readString_go_escaped bytes (show String.utf8EncodeChar '\n' = [10] by decide)
      (by rw [readEscape, Source.at?_of_suffix (second bytes)]; rfl) h enough
  by_cases ret : c = '\r'
  · subst ret
    have bytes : escapedBytes '\r' = [92, 114] := by rw [escapedBytes_eq]; decide
    exact readString_go_escaped bytes (show String.utf8EncodeChar '\r' = [13] by decide)
      (by rw [readEscape, Source.at?_of_suffix (second bytes)]; rfl) h enough
  by_cases tab : c = '\t'
  · subst tab
    have bytes : escapedBytes '\t' = [92, 116] := by rw [escapedBytes_eq]; decide
    exact readString_go_escaped bytes (show String.utf8EncodeChar '\t' = [9] by decide)
      (by rw [readEscape, Source.at?_of_suffix (second bytes)]; rfl) h enough
  by_cases backspace : c.toNat = 8
  · obtain rfl : c = '\x08' := Char.toNat_inj.mp backspace
    have bytes : escapedBytes '\x08' = [92, 98] := by rw [escapedBytes_eq]; decide
    exact readString_go_escaped bytes (show String.utf8EncodeChar '\x08' = [8] by decide)
      (by rw [readEscape, Source.at?_of_suffix (second bytes)]; rfl) h enough
  by_cases formfeed : c.toNat = 12
  · obtain rfl : c = '\x0c' := Char.toNat_inj.mp formfeed
    have bytes : escapedBytes '\x0c' = [92, 102] := by rw [escapedBytes_eq]; decide
    exact readString_go_escaped bytes (show String.utf8EncodeChar '\x0c' = [12] by decide)
      (by rw [readEscape, Source.at?_of_suffix (second bytes)]; rfl) h enough
  have kept : jsonEscapeChar c = if c.toNat < 0x20 then
      ['\\', 'u', '0', '0', hexDigit (c.toNat / 16), hexDigit (c.toNat % 16)] else [c] := by
    rw [jsonEscapeChar, if_neg quote, if_neg backslash, if_neg newline, if_neg ret, if_neg tab,
      if_neg backspace, if_neg formfeed]
  by_cases control : c.toNat < 0x20
  · -- the other control characters, as four hexadecimal digits
    have ascii : ∀ x ∈ ['\\', 'u', '0', '0', hexDigit (c.toNat / 16), hexDigit (c.toNat % 16)], x.toNat < 128 := by
      simp only [List.mem_cons, List.not_mem_nil, or_false]
      rintro x (rfl | rfl | rfl | rfl | rfl | rfl)
      any_goals decide
      all_goals exact hexDigit_ascii _ (by omega)
    have bytes : escapedBytes c =
        [92, 117, 48, 48, byteOf (hexDigit (c.toNat / 16)), byteOf (hexDigit (c.toNat % 16))] := by
      rw [escapedBytes_eq, kept, if_pos control, flatMap_utf8EncodeChar_of_ascii ascii]
      rfl
    rw [bytes] at h ⊢
    exact readString_go_unicode control h enough
  · -- everything else stands for itself, and none of its bytes is a mark of the reader
    have bytes : escapedBytes c = String.utf8EncodeChar c := by
      rw [escapedBytes_eq, kept, if_neg control, List.flatMap_singleton]
    have plain : ∀ b ∈ String.utf8EncodeChar c, Plain b := by
      intro b mem
      by_cases ascii : c.toNat < 128
      · rw [utf8EncodeChar_of_lt ascii, List.mem_singleton] at mem
        have code : b.toNat = c.toNat := by
          rw [mem, UInt8.toNat_ofNat']
          exact Nat.mod_eq_of_lt (by omega)
        refine plain_of_toNat (by omega) (fun same => quote ?_) (fun same => backslash ?_) <;>
          exact Char.toNat_inj.mp (by rw [← code, same]; rfl)
      · have high := high_of_mem_utf8EncodeChar (by omega) mem
        exact plain_of_toNat (by omega) (by omega) (by omega)
    rw [bytes] at h ⊢
    have len := Source.length_suffix src j
    rw [h, List.length_append] at len
    exact ⟨fuel - (String.utf8EncodeChar c).length, by omega,
      readString_go_plain _ acc j fuel plain h (by omega)⟩

/-- The escaped characters of a string are read back as their UTF-8 bytes. -/
theorem readString_go_chars {rest : List UInt8} :
    ∀ (cs : List Char) (acc : Array UInt8) (j fuel : Nat),
      src.suffix j = cs.flatMap escapedBytes ++ rest → src.size - j < fuel →
      ∃ fuel', src.size - (j + (cs.flatMap escapedBytes).length) < fuel' ∧
        readString.go src acc j fuel =
          readString.go src (acc ++ (cs.flatMap String.utf8EncodeChar).toArray)
            (j + (cs.flatMap escapedBytes).length) fuel'
  | [], acc, j, fuel, _, enough => ⟨fuel, by simpa using enough, by simp⟩
  | c :: cs, acc, j, fuel, h, enough => by
    rw [List.flatMap_cons, List.append_assoc] at h
    obtain ⟨fuel₁, enough₁, first⟩ := @readString_go_char src acc j fuel _ c h enough
    obtain ⟨fuel₂, enough₂, others⟩ :=
      readString_go_chars cs _ _ fuel₁ (Source.suffix_add h) enough₁
    refine ⟨fuel₂, by simpa [Nat.add_assoc] using enough₂, ?_⟩
    rw [first, others, Array.append_assoc]
    simp only [List.append_toArray, List.flatMap_cons, List.length_append, Nat.add_assoc]

/-- At the closing quote the bytes read so far are the string. -/
theorem readString_go_close {s : String} (h : src.suffix j = 34 :: more) (enough : src.size - j < fuel)
    (valid : String.fromUTF8? ⟨acc⟩ = some s) : readString.go src acc j fuel = .ok (s, j + 1) := by
  have len := Source.length_suffix src j
  rw [h, List.length_cons] at len
  obtain ⟨f, rfl⟩ : ∃ f, fuel = f + 1 := ⟨fuel - 1, by omega⟩
  rw [readString.go, Source.at?_of_suffix h, valid]
  rfl

/-- A quoted string is read back as the string, up to its closing quote. -/
theorem readString_jsonQuote {s : String} {i : Nat} (h : src.suffix i = bytesOf (jsonQuote s) ++ more) :
    readString src (i + 1) = .ok (s, i + (bytesOf (jsonQuote s)).length) := by
  rw [bytesOf_jsonQuote, List.cons_append, List.append_assoc] at h
  have body := Source.suffix_succ h
  have len := Source.length_suffix src i
  rw [h, List.length_cons] at len
  obtain ⟨fuel, enough, chars⟩ := readString_go_chars s.toList #[] (i + 1) (src.size - (i + 1) + 1) body (by omega)
  have valid : String.fromUTF8? ⟨#[] ++ (s.toList.flatMap String.utf8EncodeChar).toArray⟩ = some s := by
    rw [Array.empty_append, ← bytesOf_eq_flatMap]
    exact fromUTF8?_bytesOf s
  have stop : i + 1 + (s.toList.flatMap escapedBytes).length + 1 = i + (bytesOf (jsonQuote s)).length := by
    rw [bytesOf_jsonQuote, List.length_cons, List.length_append, List.length_singleton]
    omega
  rw [readString, chars, readString_go_close (Source.suffix_add body) enough valid, stop]

end Strings

end ReportExport.JsonText

namespace ReportExport

open JsonText Text

/-! ## Numbers -/

/-- Decimal text starts with a digit. -/
theorem natText_cons (m : Nat) : ∃ c cs, (natText m).toList = c :: cs ∧ c.isDigit = true := by
  obtain ⟨c, cs, digits⟩ := List.exists_cons_of_ne_nil (Nat.toDigits_ne_nil (b := 10) (n := m))
  refine ⟨c, cs, by rw [natText, String.toList_ofList, digits], ?_⟩
  exact Nat.isDigit_of_mem_toDigits (by decide) (by decide) (digits ▸ List.mem_cons_self)

/-- A double's magnitude is written starting with a digit, in every style. -/
theorem FloatStyle.magnitude_cons (style : FloatStyle) (sci : Decimal.Scientific) :
    ∃ c cs, (style.magnitude sci).toList = c :: cs ∧ c.isDigit = true := by
  obtain ⟨d, ds, digits, isDigit⟩ := natText_cons sci.digits
  simp only [FloatStyle.magnitude]
  -- every form but zero and the small fractions starts with the leading digit
  split
  · exact ⟨'0', ['.', '0'], rfl, rfl⟩
  split
  · split
    · exact ⟨d, _, by simp only [String.toList_append, digits, List.cons_append]; rfl, isDigit⟩
    · split
      · next pos =>
        have taken : 0 < ((natText sci.digits).length + sci.exponent).toNat := by omega
        exact ⟨d, _, by simp only [String.toList_append, String.toList_ofList, List.splitAt_eq, digits,
          List.take_cons taken, List.cons_append]; rfl, isDigit⟩
      · exact ⟨'0', _, by simp only [String.toList_append]; rfl, rfl⟩
  · cases ds with
    | nil => exact ⟨d, _, by simp only [digits, String.toList_append, String.toList_singleton,
        List.cons_append, List.nil_append]; rfl, isDigit⟩
    | cons e es => exact ⟨d, _, by simp only [digits, String.toList_append, String.toList_singleton,
        List.cons_append, List.nil_append]; rfl, isDigit⟩

namespace Number

/-- A number's text starts with a sign, a digit, or the `n` of `null`. -/
theorem text_cons (n : Number) :
    ∃ c cs, n.text.toList = c :: cs ∧ (c = '-' ∨ c = 'n' ∨ c.isDigit = true) := by
  cases n with
  | int k =>
    simp only [text, intText]
    split
    · exact ⟨'-', _, by rw [String.toList_append]; rfl, .inl rfl⟩
    · obtain ⟨c, cs, digits, isDigit⟩ := natText_cons k.natAbs
      exact ⟨c, cs, digits, .inr (.inr isDigit)⟩
  | float f =>
    simp only [text, FloatStyle.text?]
    split
    · exact ⟨'n', _, rfl, .inr (.inl rfl)⟩
    · split
      · exact ⟨'-', _, by rw [Option.getD_some, String.toList_append]; rfl, .inl rfl⟩
      · obtain ⟨c, cs, digits, isDigit⟩ := FloatStyle.magnitude_cons _ _
        exact ⟨c, cs, by rw [Option.getD_some, digits], .inr (.inr isDigit)⟩

/-- The first byte of a number's text is a sign, a digit, or the `n` of `null`. -/
theorem bytesOf_text_cons (n : Number) :
    ∃ b bs, bytesOf n.text = b :: bs ∧ (b = 45 ∨ b = 110 ∨ Source.isDigit b = true) := by
  obtain ⟨c, cs, chars, lead⟩ := n.text_cons
  have ascii : c.toNat < 128 := by
    rcases lead with rfl | rfl | digit
    · decide
    · decide
    · exact Nat.lt_of_le_of_lt (digit_bounds digit).2 (by decide)
  refine ⟨byteOf c, cs.flatMap String.utf8EncodeChar, ?_, ?_⟩
  · rw [← String.ofList_toList (s := n.text), chars, bytesOf_ofList, List.flatMap_cons,
      utf8EncodeChar_of_lt ascii]
    rfl
  · rcases lead with rfl | rfl | digit
    · exact .inl rfl
    · exact .inr (.inl rfl)
    · exact .inr (.inr (isDigit_byteOf digit))

/-- A number rereads when its text, standing before a delimiter, is read as
that number and nothing more. -/
def Rereads (n : Number) : Prop :=
  ∀ (src : Source) (depth i fuel : Nat) (rest : List UInt8),
    src.suffix i = bytesOf n.text ++ rest → Delimited rest →
      readValue src depth i (fuel + 1) =
        .ok (.num n, .mk i (i + (bytesOf n.text).length) [] [], i + (bytesOf n.text).length)

/-- Every integer of the data model, from `-2^63` to `2^64 - 1`, is read back. -/
theorem rereads_int {k : Int} (lo : -2 ^ 63 ≤ k) (hi : k < 2 ^ 64) : (Number.int k).Rereads := by
  intro src depth i fuel rest h delimited
  have word : k.natAbs ≤ maxWord := by
    simp only [maxWord, show Nat.pow 2 64 = 2 ^ 64 from rfl]
    omega
  by_cases neg : k < 0
  · -- a minus sign and the magnitude's digits; the reader negates what it reads
    have text : bytesOf (Number.int k).text = 45 :: bytesOf (natText k.natAbs) := by
      simp only [text, intText, if_pos neg, bytesOf_append]
      rfl
    rw [text, List.cons_append] at h
    have inRange : ¬ (k.natAbs = 0 ∨ Nat.pow 2 63 < k.natAbs) := by
      simp only [show Nat.pow 2 63 = 2 ^ 63 from rfl]
      omega
    rw [text, readValue_minus h, readNumber_natText (Source.suffix_succ h) delimited word,
      readAfterInteger_delimited (Source.suffix_add (Source.suffix_succ h)) delimited,
      if_neg Bool.false_ne_true, if_neg inRange, List.length_cons, Int.ofNat_natAbs_of_nonpos (by omega),
      Int.neg_neg, Nat.add_assoc, Nat.add_comm 1]
    rfl
  · have text : bytesOf (Number.int k).text = bytesOf (natText k.natAbs) := by
      simp only [text, intText, if_neg neg]
    obtain ⟨b, bs, bytes, digit⟩ := bytesOf_natText_cons k.natAbs
    rw [text] at h ⊢
    rw [readValue_digit (by rw [h, bytes, List.cons_append]) digit, readNumber_natText h delimited word,
      readAfterInteger_delimited (Source.suffix_add h) delimited, if_pos rfl, Int.natAbs_of_nonneg (by omega)]
    rfl

end Number

end ReportExport
