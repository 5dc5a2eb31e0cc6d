import EnvTemplate.Bytes

/-! Text in which each byte is a character of its own, as scripts are read. -/

namespace EnvTemplate.Text.Bytewise

def read (bytes : Bytes) : List Char := bytes.map fun b => Char.ofNat b.toNat

def write (s : List Char) : Bytes := s.map fun c => c.toNat.toUInt8

end EnvTemplate.Text.Bytewise
