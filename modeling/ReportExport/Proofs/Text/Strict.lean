import ReportExport.Proofs.Text.Bytes

/-!
# The strict reading of UTF-8

The record store reads every text column strictly: `decodeStrict` checks the
bytes one character at a time (`checkCharacter`) and refuses overlong forms,
surrogates and points past U+10FFFF. The bytes of a string never meet any of
these: the encoder gives each character the shortest form of its width, and
a character is never a surrogate nor past U+10FFFF. So the strict reading
gives back every string from its bytes (`decodeStrict_bytesOf`).
-/

namespace ReportExport.Text

section Strict

variable {a b c d : UInt8} (rest : Bytes)

theorem checkCharacter_one (w : sequenceWidth a = 1) : checkCharacter (a :: rest) = .ok 1 := by
  simp [checkCharacter, w]

theorem checkCharacter_two (w : sequenceWidth a = 2) (s : secondAllowed a b = true) :
    checkCharacter (a :: b :: rest) = .ok 2 := by
  simp [checkCharacter, w, s]

theorem checkCharacter_three (w : sequenceWidth a = 3) (s : secondAllowed a b = true) (t : isContinuation c = true) :
    checkCharacter (a :: b :: c :: rest) = .ok 3 := by
  simp [checkCharacter, w, s, t]

theorem checkCharacter_four (w : sequenceWidth a = 4) (s : secondAllowed a b = true) (t : isContinuation c = true)
    (u : isContinuation d = true) : checkCharacter (a :: b :: c :: d :: rest) = .ok 4 := by
  simp [checkCharacter, w, s, t, u]

end Strict

theorem sequenceWidth_eq (b : UInt8) :
    sequenceWidth b = if b.toNat < 128 then 1 else if 194 ≤ b.toNat ∧ b.toNat ≤ 223 then 2
      else if 224 ≤ b.toNat ∧ b.toNat ≤ 239 then 3 else if 240 ≤ b.toNat ∧ b.toNat ≤ 244 then 4 else 0 := by
  simp [sequenceWidth]

theorem secondAllowed_of {lead second : UInt8} (low : 128 ≤ second.toNat) (high : second.toNat ≤ 191)
    (e0 : lead.toNat = 224 → 160 ≤ second.toNat) (ed : lead.toNat = 237 → second.toNat ≤ 159)
    (f0 : lead.toNat = 240 → 144 ≤ second.toNat) (f4 : lead.toNat = 244 → second.toNat ≤ 143) :
    secondAllowed lead second = true := by
  unfold secondAllowed
  generalize lead.toNat = l at *
  generalize second.toNat = s at *
  simp only [beq_iff_eq]
  -- one case per lead byte with its own range for the second byte
  repeat' split
  all_goals
    simp only [Bool.and_eq_true, decide_eq_true_eq]
    omega

theorem isContinuation_of {x : UInt8} (low : 128 ≤ x.toNat) (high : x.toNat ≤ 191) : isContinuation x = true := by
  have all : ∀ n < 256, 128 ≤ n → n ≤ 191 → isContinuation (UInt8.ofNat n) = true := by decide +kernel
  have := all x.toNat x.toNat_lt low high
  rwa [UInt8.ofNat_toNat] at this

/-- The strict reading accepts the bytes of every character, whatever follows. -/
theorem checkCharacter_encode (ch : Char) (rest : Bytes) :
    checkCharacter (String.utf8EncodeChar ch ++ rest) = .ok (String.utf8EncodeChar ch).length := by
  have valid := ch.valid
  simp only [UInt32.isValidChar, Nat.isValidChar] at valid
  unfold String.utf8EncodeChar
  dsimp only
  generalize ch.val.toNat = v at valid ⊢
  have byte : ∀ n, n < 256 → (UInt8.ofNat n).toNat = n := fun n h => UInt8.toNat_ofNat_of_lt' h
  by_cases h1 : v ≤ 127
  · rw [if_pos h1]
    refine checkCharacter_one rest ?_
    rw [sequenceWidth_eq, byte v (by omega), if_pos (by omega)]
  rw [if_neg h1]
  by_cases h2 : v ≤ 2047
  · rw [if_pos h2]
    have lead := byte (v / 64 % 32 + 192) (by omega)
    have second := byte (v % 64 + 128) (by omega)
    refine checkCharacter_two rest ?_ ?_
    · rw [sequenceWidth_eq, lead, if_neg (by omega), if_pos (by omega)]
    · apply secondAllowed_of <;> simp only [lead, second] <;> omega
  rw [if_neg h2]
  by_cases h3 : v ≤ 65535
  · rw [if_pos h3]
    have lead := byte (v / 4096 % 16 + 224) (by omega)
    have second := byte (v / 64 % 64 + 128) (by omega)
    have third := byte (v % 64 + 128) (by omega)
    refine checkCharacter_three rest ?_ ?_ ?_
    · rw [sequenceWidth_eq, lead, if_neg (by omega), if_neg (by omega), if_pos (by omega)]
    · -- no overlong form below U+0800, and no surrogate
      apply secondAllowed_of <;> simp only [lead, second] <;> omega
    · apply isContinuation_of <;> simp only [third] <;> omega
  rw [if_neg h3]
  have lead := byte (v / 262144 % 8 + 240) (by omega)
  have second := byte (v / 4096 % 64 + 128) (by omega)
  have third := byte (v / 64 % 64 + 128) (by omega)
  have fourth := byte (v % 64 + 128) (by omega)
  refine checkCharacter_four rest ?_ ?_ ?_ ?_
  · rw [sequenceWidth_eq, lead, if_neg (by omega), if_neg (by omega), if_neg (by omega), if_pos (by omega)]
  · -- no overlong form below U+10000, and nothing past U+10FFFF
    apply secondAllowed_of <;> simp only [lead, second] <;> omega
  · apply isContinuation_of <;> simp only [third] <;> omega
  · apply isContinuation_of <;> simp only [fourth] <;> omega

theorem firstFault_go_encoded : ∀ (cs : List Char) (offset fuel : Nat), cs.length ≤ fuel →
    firstFault.go (cs.flatMap String.utf8EncodeChar) offset fuel = none
  | [], offset, fuel, _ => by cases fuel <;> rfl
  | ch :: cs, offset, fuel + 1, enough => by
    obtain ⟨b, bs, split⟩ : ∃ b bs, String.utf8EncodeChar ch ++ cs.flatMap String.utf8EncodeChar = b :: bs := by
      cases h : String.utf8EncodeChar ch with
      | nil => exact absurd h (String.utf8EncodeChar_ne_nil)
      | cons b bs => exact ⟨b, bs ++ _, rfl⟩
    rw [List.flatMap_cons, split, firstFault.go]
    rw [← split, checkCharacter_encode]
    dsimp only
    rw [List.drop_left]
    exact firstFault_go_encoded cs _ fuel (by simpa using enough)

/-- Every character takes a byte at least. -/
theorem length_le_encoded : ∀ cs : List Char, cs.length ≤ (cs.flatMap String.utf8EncodeChar).length
  | [] => Nat.le_refl _
  | ch :: cs => by
    have wide : 0 < (String.utf8EncodeChar ch).length := List.length_pos_iff.2 String.utf8EncodeChar_ne_nil
    have rest := length_le_encoded cs
    simp only [List.length_cons, List.flatMap_cons, List.length_append]
    omega

/-- The strict reading gives back every string from its bytes. -/
theorem decodeStrict_bytesOf (s : String) : decodeStrict (bytesOf s) = .ok s := by
  have clean : firstFault (bytesOf s) = none := by
    rw [firstFault, bytesOf_eq_flatMap]
    exact firstFault_go_encoded s.toList 0 _ (length_le_encoded s.toList)
  rw [decodeStrict, clean]
  dsimp only
  rw [show ByteArray.mk (bytesOf s).toArray = ⟨(bytesOf s).toArray⟩ from rfl, fromUTF8?_bytesOf]
  rfl

end ReportExport.Text
