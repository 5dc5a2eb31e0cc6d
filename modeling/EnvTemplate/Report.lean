import EnvTemplate.Text.Blank
import EnvTemplate.Text.Json
import EnvTemplate.Verdict

namespace EnvTemplate.Report

inductive Format
  | table
  | json
  deriving DecidableEq, Repr

def Format.ofName? (name : String) : Option Format :=
  let lower := name.toList.map Char.toLower
  if lower = "json".toList then some json
  else if lower = "table".toList then some table
  else none

def Format.invalid (name : String) : String :=
  s!"Invalid output format: {name}. Valid options: json, table"

def mask : String := "********"

def shown (reveal : Bool) (value : String) : String :=
  if reveal || value = "" then value else mask

def cutEnding? (ending message : List Char) : Option (List Char) :=
  if ending ≠ [] ∧ ending.isSuffixOf message then
    some (message.take (message.length - ending.length))
  else none

/-- A message as shown: an ending that is the value, or the value trimmed, is masked. -/
def redact (reveal : Bool) (message value : String) : String :=
  if reveal then message
  else
    match cutEnding? value.toList message.toList with
    | some start => String.ofList start ++ mask
    | none =>
      match cutEnding? (Text.trim value.toList) message.toList with
      | some start => String.ofList start ++ mask
      | none => message

structure Row where
  key : String
  status : String
  value : String
  message : Option String
  deriving DecidableEq, Repr

def row (reveal : Bool) (v : Verdict) : Row where
  key := v.key
  status := if v.isOk then "ok" else "failed"
  value := shown reveal v.value
  message := v.message?.map fun message => redact reveal message v.value

def Row.detail (r : Row) : String := r.message.getD r.value

def rows (reveal : Bool) (verdicts : Verdicts) : List Row := verdicts.map (row reveal)

structure TooWide where
  width : Nat
  deriving DecidableEq, Repr

def widest : Nat := 65535

def padEnd (width : Nat) (s : String) : String :=
  s ++ String.ofList (List.replicate (width - s.length) ' ')

/-- The width of a column is counted in bytes, its blanks in characters. -/
def columnWidth (header : String) (cells : List String) : Nat :=
  (cells.map String.utf8ByteSize).foldl max header.utf8ByteSize

def tableLine (keyWidth statusWidth : Nat) (key status detail : String) : String :=
  padEnd keyWidth key ++ "  " ++ padEnd statusWidth status ++ "  " ++ detail ++ "\n"

def table (l : List Row) : Except TooWide String :=
  if l = [] then .ok "No keys declared."
  else
    let keyWidth := columnWidth "KEY" (l.map Row.key)
    let statusWidth := columnWidth "STATUS" (l.map Row.status)
    if widest < keyWidth then .error ⟨keyWidth⟩
    else
      .ok (tableLine keyWidth statusWidth "KEY" "STATUS" "VALUE" ++
        String.join (l.map fun r => tableLine keyWidth statusWidth r.key r.status r.detail))

def json (l : List Row) : String :=
  Text.Json.array "" (l.map fun r =>
    Text.Json.object "  " ([("key", Text.Json.string r.key), ("status", Text.Json.string r.status),
      ("value", Text.Json.string r.value)] ++
      r.message.toList.map fun message => ("message", Text.Json.string message)))

def render (format : Format) (reveal : Bool) (verdicts : Verdicts) : Except TooWide String :=
  match format with
  | .table => table (rows reveal verdicts)
  | .json => .ok (json (rows reveal verdicts))

theorem columnWidth_eq (header : String) (cells : List String) :
    columnWidth header cells =
      max header.utf8ByteSize ((cells.map String.utf8ByteSize).max?.getD 0) := by
  rw [columnWidth, List.foldl_max]
  cases (cells.map String.utf8ByteSize).max? <;> simp

theorem columnWidth_le_iff {header : String} {cells : List String} {bound : Nat} :
    columnWidth header cells ≤ bound ↔
      header.utf8ByteSize ≤ bound ∧ ∀ cell ∈ cells, cell.utf8ByteSize ≤ bound := by
  rw [columnWidth_eq, Nat.max_le]
  refine and_congr_right fun _ => ⟨fun h cell hc => ?_, fun h => ?_⟩
  · exact Nat.le_trans (List.le_max?_getD_of_mem (List.mem_map_of_mem hc)) h
  · cases hm : (cells.map String.utf8ByteSize).max? with
    | none => exact Nat.zero_le bound
    | some size =>
      obtain ⟨cell, hc, rfl⟩ := List.mem_map.mp (List.max?_eq_some_iff.mp hm).1
      exact h cell hc

theorem columnWidth_key_le_iff (reveal : Bool) {verdicts : Verdicts} :
    columnWidth "KEY" ((rows reveal verdicts).map Row.key) ≤ widest ↔
      ∀ v ∈ verdicts, v.key.utf8ByteSize ≤ widest := by
  rw [columnWidth_le_iff, and_iff_right (by decide)]
  simp [rows, row]

theorem exists_render_eq_ok_iff {format : Format} {verdicts : Verdicts} (reveal : Bool) :
    (∃ report, render format reveal verdicts = .ok report) ↔
      (format = .table → ∀ v ∈ verdicts, v.key.utf8ByteSize ≤ widest) := by
  cases format with
  | json => exact iff_of_true ⟨_, rfl⟩ nofun
  | table =>
    rw [← columnWidth_key_le_iff reveal, forall_prop_of_true rfl, render, table]
    dsimp only
    split
    · rename_i hn
      rw [hn]
      exact iff_of_true ⟨_, rfl⟩ (by decide)
    · split
      · rename_i hw
        exact iff_of_false nofun (Nat.not_le.mpr hw)
      · rename_i hw
        exact iff_of_true ⟨_, rfl⟩ (Nat.not_lt.mp hw)

end EnvTemplate.Report
