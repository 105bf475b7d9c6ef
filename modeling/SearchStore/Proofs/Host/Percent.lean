import SearchStore.Host.Percent
import SearchStore.Host.Url
namespace SearchStore.Percent

def isUnreserved (c : Char) : Bool := Url.isLetter c || c.isDigit || c = '-' || c = '_' || c = '.' || c = '~'

def hexDigit (n : Nat) : Char := Char.ofNat (if n < 10 then 0x30 + n else 0x37 + n)

def escape (byte : Nat) : List Char := ['%', hexDigit (byte / 16), hexDigit (byte % 16)]

def utf8 (c : Char) : List Nat := (String.utf8EncodeChar c).map UInt8.toNat

def encodeChar (c : Char) : List Char := if isUnreserved c then [c] else (utf8 c).flatMap escape

def encode (s : String) : String := String.ofList (s.toList.flatMap encodeChar)

theorem isUnreserved_ascii {c : Char} (plain : isUnreserved c = true) : c.toNat < 128 := by
  simp only [isUnreserved, Url.isLetter, Char.isDigit, Bool.or_eq_true, Bool.and_eq_true, decide_eq_true_eq,
    Char.le_def, UInt32.le_iff_toNat_le, ge_iff_le] at plain
  have upper : 'Z'.val.toNat = 90 := rfl
  have lower : 'z'.val.toNat = 122 := rfl
  have digit : '9'.val.toNat = 57 := rfl
  change c.val.toNat < 128
  rcases plain with ((((letter | digit) | rfl) | rfl) | rfl) | rfl
  · omega
  · omega
  · decide
  · decide
  · decide
  · decide

theorem hexDigit?_hexDigit : ∀ n < 16, Literal.hexDigit? (hexDigit n) = some n := by decide

theorem hexByte?_escape {byte : Nat} (small : byte < 256) :
    hexByte? (hexDigit (byte / 16)) (hexDigit (byte % 16)) = some byte := by
  have high := hexDigit?_hexDigit (byte / 16) (by omega)
  have low := hexDigit?_hexDigit (byte % 16) (by omega)
  have whole : 16 * (byte / 16) + byte % 16 = byte := Nat.div_add_mod byte 16
  simp [hexByte?, high, low, whole]

section Reading
variable (bytes : List Nat) (rest : List Char)

theorem decodeFrom_escape {byte : Nat} (small : byte < 256) :
    decodeFrom bytes (escape byte ++ rest) = decodeFrom (byte :: bytes) rest := by
  change decodeFrom bytes ('%' :: hexDigit (byte / 16) :: hexDigit (byte % 16) :: rest) = _
  rw [decodeFrom, hexByte?_escape small]

theorem decodeFrom_escapes {added : List Nat} (small : ∀ byte ∈ added, byte < 256) :
    decodeFrom bytes (added.flatMap escape ++ rest) = decodeFrom (added.reverse ++ bytes) rest := by
  induction added generalizing bytes with
  | nil => rfl
  | cons byte more ih =>
    obtain ⟨first, others⟩ := List.forall_mem_cons.mp small
    rw [List.flatMap_cons, List.append_assoc, decodeFrom_escape _ _ first, ih _ others]
    simp

theorem decodeFrom_plain {c : Char} (apart : c ≠ '%') (ascii : c.toNat < 128) :
    decodeFrom bytes (c :: rest) = decodeFrom (c.toNat :: bytes) rest := by
  rw [decodeFrom, if_pos ascii]
  rintro a b more rfl
  exact absurd rfl apart

end Reading

theorem utf8_small (c : Char) : ∀ byte ∈ utf8 c, byte < 256 := by
  intro byte member
  obtain ⟨small, -, rfl⟩ := List.mem_map.mp member
  exact small.toNat_lt

theorem toNat_valid (c : Char) : c.toNat < 0xD800 ∨ 0xDFFF < c.toNat ∧ c.toNat < 0x110000 := c.valid

theorem utf8_eq (c : Char) : utf8 c =
    if c.toNat ≤ 0x7F then [c.toNat]
    else if c.toNat ≤ 0x7FF then [c.toNat / 64 + 0xC0, c.toNat % 64 + 0x80]
    else if c.toNat ≤ 0xFFFF then [c.toNat / 4096 + 0xE0, c.toNat / 64 % 64 + 0x80, c.toNat % 64 + 0x80]
    else [c.toNat / 262144 + 0xF0, c.toNat / 4096 % 64 + 0x80, c.toNat / 64 % 64 + 0x80, c.toNat % 64 + 0x80] := by
  have valid := toNat_valid c
  unfold utf8 String.utf8EncodeChar
  dsimp only
  change List.map UInt8.toNat (ite (c.toNat ≤ 127) _ (ite (c.toNat ≤ 2047) _ (ite (c.toNat ≤ 65535) _ _))) = _
  split
  · simp [UInt8.toNat_ofNat']
    omega
  · split
    · simp
      omega
    · split
      · simp
        omega
      · simp
        omega

theorem utf8_ascii {c : Char} (ascii : c.toNat < 128) : utf8 c = [c.toNat] := by
  rw [utf8_eq, if_pos (Nat.le_of_lt_succ ascii)]

theorem decodeFrom_encodeChar (bytes : List Nat) (c : Char) (rest : List Char) :
    decodeFrom bytes (encodeChar c ++ rest) = decodeFrom ((utf8 c).reverse ++ bytes) rest := by
  unfold encodeChar
  split
  · rename_i plain
    have ascii := isUnreserved_ascii plain
    have apart : c ≠ '%' := by
      rintro rfl
      cases plain
    rw [utf8_ascii ascii]
    exact decodeFrom_plain bytes rest apart ascii
  · exact decodeFrom_escapes bytes rest (utf8_small c)

theorem decodeFrom_encode (bytes : List Nat) (cs : List Char) :
    decodeFrom bytes (cs.flatMap encodeChar) = readBytes none (bytes.reverse ++ cs.flatMap utf8) := by
  induction cs generalizing bytes with
  | nil => simp [decodeFrom]
  | cons c rest ih =>
    rw [List.flatMap_cons, decodeFrom_encodeChar, ih]
    simp

section Bytes
variable {bits owed low high code : Nat} {p : Pending} (rest : List Nat)

theorem readBytes_begun {byte : Nat} (begun : begin byte = ([], some p)) :
    readBytes none (byte :: rest) = readBytes (some p) rest := by
  change (begin byte).1 ++ readBytes (begin byte).2 rest = _
  rw [begun]
  rfl

theorem readBytes_more (above : low ≤ bits + 0x80) (below : bits + 0x80 ≤ high) :
    readBytes (some ⟨owed + 2, low, high, code⟩) ((bits + 0x80) :: rest) =
      readBytes (some ⟨owed + 1, 0x80, 0xBF, code * 64 + bits⟩) rest := by
  simp [readBytes, step, above, below]

theorem readBytes_last (above : low ≤ bits + 0x80) (below : bits + 0x80 ≤ high) :
    readBytes (some ⟨1, low, high, code⟩) ((bits + 0x80) :: rest) =
      Char.ofNat (code * 64 + bits) :: readBytes none rest := by
  simp [readBytes, step, above, below]

theorem begin_two (above : 2 ≤ bits) (below : bits < 32) :
    begin (bits + 0xC0) = ([], some ⟨1, 0x80, 0xBF, bits⟩) := by
  have plain : ¬ bits + 0xC0 < 0x80 := by omega
  have short : ¬ bits + 0xC0 < 0xC2 := by omega
  have long : bits + 0xC0 < 0xE0 := by omega
  rw [begin, if_neg plain, if_neg short, if_pos long, Nat.add_sub_cancel]

-- Behind some first bytes the second one is bounded more narrowly: what is left out are the characters that
-- have a shorter form, the surrogates and what is beyond the last character.
theorem begin_three : ∀ bits < 16, begin (bits + 0xE0) =
    ([], some ⟨2, if bits = 0 then 0xA0 else 0x80, if bits = 0xD then 0x9F else 0xBF, bits⟩) := by decide

theorem begin_four : ∀ bits < 5, begin (bits + 0xF0) =
    ([], some ⟨3, if bits = 0 then 0x90 else 0x80, if bits = 4 then 0x8F else 0xBF, bits⟩) := by decide

end Bytes

theorem readBytes_utf8 (c : Char) (rest : List Nat) : readBytes none (utf8 c ++ rest) = c :: readBytes none rest := by
  have valid := toNat_valid c
  have same : Char.ofNat c.toNat = c := Char.ofNat_toNat c
  rw [utf8_eq]
  split
  · have plain : begin c.toNat = ([Char.ofNat c.toNat], none) := if_pos (by omega)
    change (begin c.toNat).1 ++ readBytes (begin c.toNat).2 rest = _
    rw [plain, same]
    rfl
  · split
    · have code : c.toNat / 64 * 64 + c.toNat % 64 = c.toNat := by omega
      change readBytes none (_ :: _ :: rest) = _
      rw [readBytes_begun _ (begin_two (by omega) (by omega)), readBytes_last _ (by omega) (by omega), code, same]
    · split
      · have code : (c.toNat / 4096 * 64 + c.toNat / 64 % 64) * 64 + c.toNat % 64 = c.toNat := by omega
        change readBytes none (_ :: _ :: _ :: rest) = _
        rw [readBytes_begun _ (begin_three _ (by omega)), readBytes_more _ (by split <;> omega) (by split <;> omega),
          readBytes_last _ (by omega) (by omega), code, same]
      · have code : ((c.toNat / 262144 * 64 + c.toNat / 4096 % 64) * 64 + c.toNat / 64 % 64) * 64 + c.toNat % 64 =
            c.toNat := by omega
        change readBytes none (_ :: _ :: _ :: _ :: rest) = _
        rw [readBytes_begun _ (begin_four _ (by omega)), readBytes_more _ (by split <;> omega) (by split <;> omega),
          readBytes_more _ (by omega) (by omega), readBytes_last _ (by omega) (by omega), code, same]

theorem readBytes_text (cs : List Char) : readBytes none (cs.flatMap utf8) = cs := by
  induction cs with
  | nil => rfl
  | cons c rest ih => rw [List.flatMap_cons, readBytes_utf8, ih]

theorem decode_encode (s : String) : decode (encode s) = s := by
  unfold decode encode
  rw [String.toList_ofList, decodeFrom_encode]
  change String.ofList (readBytes none (s.toList.flatMap utf8)) = s
  rw [readBytes_text, String.ofList_toList]

end SearchStore.Percent
