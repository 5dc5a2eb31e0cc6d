import EnvTemplate.OrderedMap

/-! What a process may use, and how much of it. -/

namespace EnvTemplate.Child

inductive Resource
  | time
  | file
  | data
  | stack
  | coredump
  | memory
  | lockedMemory
  | processes
  | files
  | addresses
  | locks
  | priority
  deriving DecidableEq, Repr

namespace Resource

def all : List Resource :=
  [time, file, data, stack, coredump, memory, lockedMemory, processes, files, addresses, locks,
    priority]

def letter : Resource → Char
  | time => 't'
  | file => 'f'
  | data => 'd'
  | stack => 's'
  | coredump => 'c'
  | memory => 'm'
  | lockedMemory => 'l'
  | processes => 'p'
  | files => 'n'
  | addresses => 'v'
  | locks => 'w'
  | priority => 'r'

def label : Resource → String
  | time => "time(seconds)"
  | file => "file(blocks)"
  | data => "data(kbytes)"
  | stack => "stack(kbytes)"
  | coredump => "coredump(blocks)"
  | memory => "memory(kbytes)"
  | lockedMemory => "locked memory(kbytes)"
  | processes => "process"
  | files => "nofiles"
  | addresses => "vmemory(kbytes)"
  | locks => "locks"
  | priority => "rtprio"

def factor : Resource → Nat
  | file | coredump => 512
  | data | stack | memory | lockedMemory | addresses => 1024
  | _ => 1

end Resource

structure Limit where
  soft : Option Nat
  hard : Option Nat
  deriving DecidableEq, Repr

abbrev Limits := OrderedMap Resource Limit

namespace Limits

def kilobyte : Nat := 1024

def start : Limits :=
  OrderedMap.ofList [(.stack, ⟨some (8192 * kilobyte), none⟩),
    (.lockedMemory, ⟨some (8192 * kilobyte), some (8192 * kilobyte)⟩),
    (.files, ⟨some 1048576, some 1048576⟩), (.priority, ⟨some 0, some 0⟩)]

def of (limits : Limits) (resource : Resource) : Limit :=
  (OrderedMap.get? limits resource).getD ⟨none, none⟩

end Limits

end EnvTemplate.Child
