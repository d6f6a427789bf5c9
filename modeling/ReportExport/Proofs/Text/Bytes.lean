import ReportExport.Text.Utf8

/-!
# The UTF-8 bytes of a text

`Text.bytesOf` reads the bytes of a string off the array that holds them. Here
they are the concatenation of the characters' encodings, so that a printer's
output can be followed byte by byte: an ASCII character is its own code, and
every byte of a character beyond ASCII is at least `0x80`, so it is never
mistaken for one of the ASCII marks a reader looks for.
-/

namespace ReportExport.Text

/-- The bytes of a text are the encodings of its characters, in order. -/
theorem bytesOf_eq_flatMap (s : String) : bytesOf s = s.toList.flatMap String.utf8EncodeChar := by
  rw [bytesOf, String.toUTF8_eq_toByteArray, ← String.utf8Encode_toList, List.utf8Encode,
    List.data_toByteArray, List.toList_toArray]

@[simp] theorem bytesOf_ofList (cs : List Char) :
    bytesOf (String.ofList cs) = cs.flatMap String.utf8EncodeChar := by
  rw [bytesOf_eq_flatMap, String.toList_ofList]

@[simp] theorem bytesOf_append (s t : String) : bytesOf (s ++ t) = bytesOf s ++ bytesOf t := by
  simp [bytesOf_eq_flatMap, String.toList_append]

@[simp] theorem bytesOf_empty : bytesOf "" = [] := by
  simp [bytesOf_eq_flatMap]

@[simp] theorem bytesOf_singleton (c : Char) : bytesOf (String.singleton c) = String.utf8EncodeChar c := by
  rw [String.singleton_eq_ofList, bytesOf_ofList, List.flatMap_singleton]

theorem bytesOf_intercalate (sep : String) : ∀ ts : List String,
    bytesOf (sep.intercalate ts) = (bytesOf sep).intercalate (ts.map bytesOf)
  | [] => by simp
  | [t] => by simp
  | t :: u :: ts => by
    rw [String.intercalate_cons_cons, bytesOf_append, bytesOf_append, bytesOf_intercalate sep (u :: ts)]
    simp only [List.map_cons, List.intercalate_cons_cons]

/-- An ASCII character is the one byte of its code. -/
theorem utf8EncodeChar_of_lt {c : Char} (ascii : c.toNat < 128) :
    String.utf8EncodeChar c = [UInt8.ofNat c.toNat] := by
  have small : c.val.toNat ≤ 0x7f := Nat.le_of_lt_succ ascii
  rw [String.utf8EncodeChar, if_pos small]
  rfl

/-- The ASCII code of a character, as a byte. -/
def byteOf (c : Char) : UInt8 := UInt8.ofNat c.toNat

/-- ASCII text is the list of its codes. -/
theorem flatMap_utf8EncodeChar_of_ascii {cs : List Char} (ascii : ∀ c ∈ cs, c.toNat < 128) :
    cs.flatMap String.utf8EncodeChar = cs.map byteOf := by
  induction cs with
  | nil => rfl
  | cons c cs ih =>
    rw [List.flatMap_cons, ih (fun d mem => ascii d (List.mem_cons_of_mem _ mem)), List.map_cons,
      utf8EncodeChar_of_lt (ascii c (by simp))]
    rfl

/-- Every byte of a character beyond ASCII is at least `0x80`. -/
theorem high_of_mem_utf8EncodeChar {c : Char} (wide : 128 ≤ c.toNat) {b : UInt8}
    (mem : b ∈ String.utf8EncodeChar c) : 128 ≤ b.toNat := by
  have beyond : ¬ c.val.toNat ≤ 0x7f := by
    change 128 ≤ c.val.toNat at wide
    omega
  rw [String.utf8EncodeChar, if_neg beyond] at mem
  -- two, three or four bytes, each a marker added to bits of the code
  split at mem
  · simp only [List.mem_cons, List.not_mem_nil, or_false] at mem
    rcases mem with rfl | rfl <;> simp only [UInt8.toNat_ofNat', Nat.reducePow] <;> omega
  · split at mem
    · simp only [List.mem_cons, List.not_mem_nil, or_false] at mem
      rcases mem with rfl | rfl | rfl <;> simp only [UInt8.toNat_ofNat', Nat.reducePow] <;> omega
    · simp only [List.mem_cons, List.not_mem_nil, or_false] at mem
      rcases mem with rfl | rfl | rfl | rfl <;> simp only [UInt8.toNat_ofNat', Nat.reducePow] <;> omega

theorem toList_loop_eq (bs : ByteArray) : ∀ (n i : Nat) (r : List UInt8), bs.size - i = n →
    ByteArray.toList.loop bs i r = r.reverse ++ bs.data.toList.drop i
  | 0, i, r, h => by
    have beyond : bs.data.toList.length ≤ i := by
      rw [Array.length_toList, ByteArray.size_data]
      omega
    rw [ByteArray.toList.loop, if_neg (by omega), List.drop_eq_nil_of_le beyond, List.append_nil]
  | n + 1, i, r, h => by
    -- one byte moves from the array to the accumulator, which is reversed at the end
    have inside : i < bs.data.toList.length := by
      rw [Array.length_toList, ByteArray.size_data]
      omega
    rw [ByteArray.toList.loop, if_pos (by omega), toList_loop_eq bs n (i + 1) _ (by omega),
      List.drop_eq_getElem_cons inside]
    simp [ByteArray.get!, getElem!_pos bs.data i (by simpa using inside)]

/-- A byte array as a list is its bytes in order. -/
theorem toList_eq_data (bs : ByteArray) : bs.toList = bs.data.toList := by
  rw [ByteArray.toList, toList_loop_eq bs _ 0 [] rfl, List.reverse_nil, List.nil_append, List.drop_zero]

/-- A text's bytes, read back as UTF-8, give the text. -/
theorem fromUTF8?_bytesOf (s : String) : String.fromUTF8? ⟨(bytesOf s).toArray⟩ = some s := by
  have bytes : (⟨(bytesOf s).toArray⟩ : ByteArray) = s.toByteArray := by
    simp [bytesOf]
  rw [bytes, String.fromUTF8?, dif_pos s.isValidUTF8]
  rfl

end ReportExport.Text
