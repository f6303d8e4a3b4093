/-! Bytes read as UTF-8 text. Bytes that spell no character become U+FFFD, one for
each longest sequence that begins some character but does not complete it. The bytes
of a text are read as this text. -/

set_option autoImplicit false

namespace ClaimAudit.Text.Utf8

/-- What a first byte announces: how many bytes continue the character, the bits it
gives, and the range of the second byte. -/
def lead? (byte : Nat) : Option (Nat × Nat × Nat × Nat) :=
  if byte < 0x80 then some (0, byte, 0, 0)
  else if 0xC2 ≤ byte ∧ byte ≤ 0xDF then some (1, byte % 0x20, 0x80, 0xBF)
  else if byte = 0xE0 then some (2, byte % 0x10, 0xA0, 0xBF)
  else if byte = 0xED then some (2, byte % 0x10, 0x80, 0x9F)
  else if 0xE1 ≤ byte ∧ byte ≤ 0xEF then some (2, byte % 0x10, 0x80, 0xBF)
  else if byte = 0xF0 then some (3, byte % 8, 0x90, 0xBF)
  else if 0xF1 ≤ byte ∧ byte ≤ 0xF3 then some (3, byte % 8, 0x80, 0xBF)
  else if byte = 0xF4 then some (3, byte % 8, 0x80, 0x8F)
  else none

/-- Inside a character: how many bytes are due, the bits so far, and the range of
the next byte. -/
structure Pending where
  due : Nat
  bits : Nat
  least : Nat
  most : Nat

def replacement : Char := Char.ofNat 0xFFFD

def opening (byte : Nat) : List Char × Option Pending :=
  match lead? byte with
  | some (0, bits, _, _) => ([Char.ofNat bits], none)
  | some (due, bits, least, most) => ([], some ⟨due, bits, least, most⟩)
  | none => ([replacement], none)

def step (pending : Option Pending) (byte : Nat) : List Char × Option Pending :=
  match pending with
  | none => opening byte
  | some p =>
    if p.least ≤ byte ∧ byte ≤ p.most then
      let bits := p.bits * 0x40 + byte % 0x40
      if p.due ≤ 1 then ([Char.ofNat bits], none)
      else ([], some ⟨p.due - 1, bits, 0x80, 0xBF⟩)
    else
      let (chars, next) := opening byte
      (replacement :: chars, next)

def decode (pending : Option Pending) : List UInt8 → List Char
  | [] => if pending.isSome then [replacement] else []
  | byte :: rest =>
    let (chars, next) := step pending byte.toNat
    chars ++ decode next rest

def lossy (bytes : List UInt8) : String := String.ofList (decode none bytes)

def strict? (bytes : List UInt8) : Option String := String.fromUTF8? ⟨bytes.toArray⟩

section Reading

variable {n due bits least most : Nat} {rest : List UInt8}

theorem lead?_two (least : 2 ≤ n) (most : n < 0x20) :
    lead? (n + 0xC0) = some (1, n, 0x80, 0xBF) := by
  have bits : (n + 0xC0) % 0x20 = n := by omega
  rw [lead?, if_neg (by omega), if_pos (by omega), bits]

theorem lead?_three : ∀ n < 0x10, lead? (n + 0xE0) =
    some (2, n, if n = 0 then 0xA0 else 0x80, if n = 0xD then 0x9F else 0xBF) := by
  decide

theorem lead?_four : ∀ n < 5, lead? (n + 0xF0) =
    some (3, n, if n = 0 then 0x90 else 0x80, if n = 4 then 0x8F else 0xBF) := by
  decide

theorem decode_cons (small : n < 0x100) (pending : Option Pending) :
    decode pending (UInt8.ofNat n :: rest) =
      (step pending n).1 ++ decode (step pending n).2 rest := by
  rw [decode, UInt8.toNat_ofNat_of_lt' small]

theorem decode_lead (small : n < 0x100)
    (announced : lead? n = some (due + 1, bits, least, most)) :
    decode none (UInt8.ofNat n :: rest) = decode (some ⟨due + 1, bits, least, most⟩) rest := by
  rw [decode_cons small, step, opening, announced]
  rfl

theorem decode_more (small : n < 0x40) (above : least ≤ n + 0x80) (below : n + 0x80 ≤ most) :
    decode (some ⟨due + 2, bits, least, most⟩) (UInt8.ofNat (n + 0x80) :: rest) =
      decode (some ⟨due + 1, bits * 0x40 + n, 0x80, 0xBF⟩) rest := by
  have given : (n + 0x80) % 0x40 = n := by omega
  rw [decode_cons (by omega), step, if_pos ⟨above, below⟩]
  simp [given]

theorem decode_last (small : n < 0x40) (above : least ≤ n + 0x80) (below : n + 0x80 ≤ most) :
    decode (some ⟨1, bits, least, most⟩) (UInt8.ofNat (n + 0x80) :: rest) =
      Char.ofNat (bits * 0x40 + n) :: decode none rest := by
  have given : (n + 0x80) % 0x40 = n := by omega
  rw [decode_cons (by omega), step, if_pos ⟨above, below⟩]
  simp [given]

end Reading

theorem decode_utf8EncodeChar (c : Char) (rest : List UInt8) :
    decode none (String.utf8EncodeChar c ++ rest) = c :: decode none rest := by
  have valid : c.val.toNat.isValidChar := c.valid
  have self : Char.ofNat c.val.toNat = c := Char.ofNat_toNat c
  rw [String.utf8EncodeChar]
  generalize c.val.toNat = v at valid self ⊢
  simp only [Nat.isValidChar] at valid
  -- one case for each number of bytes
  split
  · have bits : lead? v = some (0, v, 0, 0) := if_pos (by omega)
    rw [List.singleton_append, decode_cons (by omega), step, opening, bits]
    simp only [self, List.singleton_append]
  split
  · have bits : v / 64 % 32 * 64 + v % 64 = v := by omega
    simp only [List.cons_append, List.nil_append]
    rw [decode_lead (by omega) (lead?_two (by omega) (by omega)),
      decode_last (by omega) (by omega) (by omega), bits, self]
  split
  · have bits : (v / 4096 % 16 * 64 + v / 64 % 64) * 64 + v % 64 = v := by omega
    simp only [List.cons_append, List.nil_append]
    rw [decode_lead (by omega) (lead?_three _ (by omega)),
      decode_more (by omega) (by split <;> omega) (by split <;> omega),
      decode_last (by omega) (by omega) (by omega), bits, self]
  · have bits : ((v / 262144 % 8 * 64 + v / 4096 % 64) * 64 + v / 64 % 64) * 64 + v % 64 = v := by
      omega
    simp only [List.cons_append, List.nil_append]
    rw [decode_lead (by omega) (lead?_four _ (by omega)),
      decode_more (by omega) (by split <;> omega) (by split <;> omega),
      decode_more (by omega) (by omega) (by omega),
      decode_last (by omega) (by omega) (by omega), bits, self]

theorem lossy_toUTF8 (text : String) : lossy text.toUTF8.data.toList = text := by
  have bytes : text.toUTF8.data.toList = text.toList.flatMap String.utf8EncodeChar := by
    conv => lhs; rw [← String.ofList_toList (s := text)]
    rw [String.toUTF8_eq_toByteArray, String.toByteArray_ofList, List.utf8Encode,
      List.toList_data_toByteArray]
  have decoded (chars : List Char) :
      decode none (chars.flatMap String.utf8EncodeChar) = chars := by
    induction chars with
    | nil => rfl
    | cons c chars ih => rw [List.flatMap_cons, decode_utf8EncodeChar, ih]
  rw [lossy, bytes, decoded, String.ofList_toList]

end ClaimAudit.Text.Utf8
