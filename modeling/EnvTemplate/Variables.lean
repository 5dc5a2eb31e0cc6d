import EnvTemplate.Bytes
import EnvTemplate.OrderedMap

namespace EnvTemplate

/-- The variables of a process: any bytes can be a value. -/
abbrev Variables := OrderedMap String ByteArray

namespace Variables

def binding? (bytes : List UInt8) : Option (String × ByteArray) :=
  match bytes.span (· ≠ 0x3D) with
  | (_, []) => none
  | (name, _ :: value) =>
    (String.fromUTF8? ⟨name.toArray⟩).map fun name => (name, ⟨value.toArray⟩)

def ofBlock (block : ByteArray) : Variables :=
  OrderedMap.ofList ((block.toList.splitOn 0).filterMap binding?)

def othersOfBlock (block : ByteArray) : List Bytes :=
  (block.toList.splitOn 0).filter fun bytes => bytes ≠ [] && (binding? bytes).isNone

end Variables

end EnvTemplate
