import EnvTemplate.Bytes

namespace EnvTemplate.Text.Utf8

def replacement : Char := '\ufffd'

/-- The number of bytes that should follow a first byte, and the range of the second one. -/
def following? (first : UInt8) : Option (Nat × UInt8 × UInt8) :=
  if first < 0x80 then some (0, 0x80, 0xBF)
  else if first < 0xC2 then none
  else if first < 0xE0 then some (1, 0x80, 0xBF)
  else if first = 0xE0 then some (2, 0xA0, 0xBF)
  else if first = 0xED then some (2, 0x80, 0x9F)
  else if first < 0xF0 then some (2, 0x80, 0xBF)
  else if first = 0xF0 then some (3, 0x90, 0xBF)
  else if first < 0xF4 then some (3, 0x80, 0xBF)
  else if first = 0xF4 then some (3, 0x80, 0x8F)
  else none

def firstBits (first : UInt8) : Nat :=
  if first < 0x80 then first.toNat
  else if first < 0xE0 then first.toNat % 0x20
  else if first < 0xF0 then first.toNat % 0x10
  else first.toNat % 0x08

/-- Read on inside a character that still needs `missing` bytes, the next one in a range; `none`
is the state between characters. What cannot go on is one replacement character. -/
def decodeFrom : Option (Nat × Nat × UInt8 × UInt8) → List UInt8 → List Char
  | none, [] => []
  | some _, [] => [replacement]
  | some (value, missing, low, high), b :: rest =>
    if low ≤ b ∧ b ≤ high then
      let value := value * 0x40 + b.toNat % 0x40
      if missing ≤ 1 then Char.ofNat value :: decodeFrom none rest
      else decodeFrom (some (value, missing - 1, 0x80, 0xBF)) rest
    else
      replacement ::
        match following? b with
        | none => replacement :: decodeFrom none rest
        | some (0, _, _) => Char.ofNat b.toNat :: decodeFrom none rest
        | some (n, low, high) => decodeFrom (some (firstBits b, n, low, high)) rest
  | none, b :: rest =>
    match following? b with
    | none => replacement :: decodeFrom none rest
    | some (0, _, _) => Char.ofNat b.toNat :: decodeFrom none rest
    | some (n, low, high) => decodeFrom (some (firstBits b, n, low, high)) rest

def encode (s : String) : Bytes := s.toUTF8.data.toList

/-- The text of any bytes: a longest start of a character that breaks off, or a byte that starts
none, reads as the replacement character. -/
def decode (bytes : Bytes) : String :=
  match String.fromUTF8? ⟨bytes.toArray⟩ with
  | some s => s
  | none => String.ofList (decodeFrom none bytes)

theorem fromUTF8?_eq_some_iff {bytes : ByteArray} {s : String} :
    String.fromUTF8? bytes = some s ↔ bytes = s.toUTF8 := by
  unfold String.fromUTF8?
  constructor
  · intro h
    split at h
    · cases h
      rfl
    · cases h
  · rintro rfl
    exact dif_pos s.isValidUTF8

theorem fromUTF8?_toUTF8 (s : String) : String.fromUTF8? s.toUTF8 = some s :=
  fromUTF8?_eq_some_iff.mpr rfl

theorem or_ne_zero {marker : UInt8} (h : marker ≠ 0) (bits : UInt8) : 0 ≠ bits ||| marker :=
  fun he => h (UInt8.or_eq_zero_iff.mp he.symm).2

theorem eq_zero_of_mem_utf8EncodeChar {c : Char} (h : 0 ∈ String.utf8EncodeChar c) :
    c = '\x00' := by
  rw [String.utf8EncodeChar_eq_utf8EncodeCharFast] at h
  unfold String.utf8EncodeCharFast at h
  dsimp only at h
  -- all but the shortest form have a marker in each byte
  split at h
  · rename_i hc
    have hn : 0 = c.toNat % 256 := congrArg UInt8.toNat (List.mem_singleton.mp h)
    have hle : c.toNat ≤ 127 := UInt32.le_iff_toNat_le.mp hc
    refine Char.toNat_inj.mp ?_
    rw [← Nat.mod_eq_of_lt (show c.toNat < 256 by omega), ← hn]
    rfl
  · split at h
    · exact absurd h (by simp [or_ne_zero])
    · split at h <;> exact absurd h (by simp [or_ne_zero])

theorem zero_mem_toUTF8_iff {s : String} : 0 ∈ s.toUTF8.data ↔ '\x00' ∈ s.toList := by
  have he : s.toUTF8 = (s.toList.flatMap String.utf8EncodeChar).toByteArray :=
    String.utf8Encode_toList.symm
  have hz : (0 : UInt8) ∈ String.utf8EncodeChar '\x00' := by decide
  rw [he, List.data_toByteArray, List.mem_toArray, List.mem_flatMap]
  constructor
  · rintro ⟨c, hc, hm⟩
    exact eq_zero_of_mem_utf8EncodeChar hm ▸ hc
  · exact fun h => ⟨_, h, hz⟩

end EnvTemplate.Text.Utf8
