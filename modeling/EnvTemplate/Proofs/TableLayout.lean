import EnvTemplate.Proofs.LineFormat
import EnvTemplate.Proofs.LineSplit
import EnvTemplate.Report
import EnvTemplate.Rule
import Mathlib.Data.List.Forall2

/-! Where the columns of a table stand, and for which templates a report can be written at all. -/

namespace EnvTemplate

namespace Text

theorem utf8ByteSize_ofList_cons (c : Char) (s : List Char) :
    (String.ofList (c :: s)).utf8ByteSize = c.utf8Size + (String.ofList s).utf8ByteSize := by
  rw [String.ofList_cons, String.utf8ByteSize_append, String.utf8ByteSize_singleton]

theorem utf8ByteSize_replicate (n : Nat) :
    (String.ofList (List.replicate n 'A')).utf8ByteSize = n := by
  induction n with
  | zero => rfl
  | succ n ih =>
    have hone : 'A'.utf8Size = 1 := by decide
    rw [List.replicate_succ, utf8ByteSize_ofList_cons, ih, hone]
    omega

theorem length_le_utf8ByteSize (s : String) : s.length ≤ s.utf8ByteSize := by
  have h : ∀ l : List Char, l.length ≤ (String.ofList l).utf8ByteSize := by
    intro l
    induction l with
    | nil => exact Nat.zero_le _
    | cons c l ih =>
      have hc : 0 < c.utf8Size := c.utf8Size_pos
      rw [utf8ByteSize_ofList_cons, List.length_cons]
      omega
  have hs := h s.toList
  rwa [String.ofList_toList, String.length_toList] at hs

end Text

open Text

theorem EnvFile.isKey_replicate (n : Nat) :
    IsKey (String.ofList (List.replicate (n + 1) 'A')) := by
  have hmem : ∀ c ∈ (String.ofList (List.replicate (n + 1) 'A')).toList, c = 'A' := by
    simp
  refine ⟨by simp [List.replicate_succ], trim_eq_self_iff.mpr ⟨?_, ?_⟩, ?_, ?_⟩
  · intro c hc
    rw [hmem c (List.mem_of_mem_head? hc)]
    decide
  · intro c hc
    rw [hmem c (List.mem_of_mem_getLast? hc)]
    decide
  · exact fun hm => absurd (hmem _ hm) (by decide)
  · exact fun hm => absurd (hmem _ hm) (by decide)

namespace Report

variable {width : Nat} {key status detail line : String} {verdicts : Verdicts}

/-- The columns of a line, by the number of its characters before each: none before the key,
`width + 2` before the status, `width + 10` before the detail. -/
structure IsAligned (width : Nat) (key status detail line : String) : Prop where
  fits : key.length ≤ width
  key : line.toList.take width = key.toList ++ List.replicate (width - key.length) ' '
  gap : (line.toList.drop width).take 2 = [' ', ' ']
  status : (line.toList.drop (width + 2)).take 8 =
    status.toList ++ List.replicate (8 - status.length) ' '
  detail : line.toList.drop (width + 10) = detail.toList

def cells (width : Nat) (key status detail : String) : String :=
  padEnd width key ++ "  " ++ padEnd 6 status ++ "  " ++ detail

theorem length_padEnd (h : key.length ≤ width) : (padEnd width key).length = width := by
  rw [padEnd, String.length_append, String.length_ofList, List.length_replicate]
  omega

theorem toList_padEnd (width : Nat) (s : String) :
    (padEnd width s).toList = s.toList ++ List.replicate (width - s.length) ' ' := by
  rw [padEnd, String.toList_append, String.toList_ofList]

theorem isAligned_cells (hk : key.length ≤ width) (hs : status.length ≤ 6) :
    IsAligned width key status detail (cells width key status detail) := by
  -- the blanks that fill the status up to six characters run on into the gap after it
  let column := status.toList ++ List.replicate (8 - status.length) ' '
  have hcolumn : (padEnd 6 status).toList ++ [' ', ' '] = column := by
    have hn : 6 - status.length + 2 = 8 - status.length := by omega
    have hblanks : List.replicate (6 - status.length) ' ' ++ [' ', ' '] =
        List.replicate (8 - status.length) ' ' := by
      rw [← hn, ← List.replicate_append_replicate]
      rfl
    rw [toList_padEnd, List.append_assoc, hblanks]
  have hcells : (cells width key status detail).toList =
      (padEnd width key).toList ++ (' ' :: ' ' :: (column ++ detail.toList)) := by
    rw [← hcolumn]
    simp [cells]
  have hkey : (padEnd width key).toList.length = width := by
    rw [String.length_toList, length_padEnd hk]
  have hgap : (cells width key status detail).toList.drop width =
      ' ' :: ' ' :: (column ++ detail.toList) := by
    rw [hcells, List.drop_left' hkey]
  have hstatus : (cells width key status detail).toList.drop (width + 2) =
      column ++ detail.toList := by
    rw [← List.drop_drop, hgap]
    rfl
  have height : column.length = 8 := by
    rw [← hcolumn, List.length_append, String.length_toList, length_padEnd hs]
    rfl
  refine ⟨hk, ?_, ?_, ?_, ?_⟩
  · rw [hcells, List.take_left' hkey, toList_padEnd]
  · rw [hgap]
    rfl
  · rw [hstatus, List.take_left' height]
  · rw [show width + 10 = width + 2 + 8 from rfl, ← List.drop_drop, hstatus,
      List.drop_left' height]

theorem oneLine_padEnd (h : OneLine key) (width : Nat) : OneLine (padEnd width key) := by
  have hb : OneLine (String.ofList (List.replicate (width - key.length) ' ')) := by
    simp [OneLine]
  exact oneLine_append_iff.mpr ⟨h, hb⟩

theorem oneLine_cells (hk : OneLine key) (hs : OneLine status) (hd : OneLine detail) :
    OneLine (cells width key status detail) := by
  have hgap : OneLine "  " := by decide
  rw [cells, oneLine_append_iff, oneLine_append_iff, oneLine_append_iff, oneLine_append_iff]
  exact ⟨⟨⟨⟨oneLine_padEnd hk width, hgap⟩, oneLine_padEnd hs 6⟩, hgap⟩, hd⟩

theorem status_row (reveal : Bool) (v : Verdict) :
    (row reveal v).status = "ok" ∨ (row reveal v).status = "failed" := by
  rw [row]
  cases v.isOk
  · exact .inr rfl
  · exact .inl rfl

theorem columnWidth_status (reveal : Bool) (verdicts : Verdicts) :
    columnWidth "STATUS" ((rows reveal verdicts).map Row.status) = 6 := by
  apply Nat.le_antisymm
  · refine columnWidth_le_iff.mpr ⟨by decide, fun cell hc => ?_⟩
    obtain ⟨r, hr, rfl⟩ := List.mem_map.mp hc
    obtain ⟨v, -, rfl⟩ := List.mem_map.mp hr
    rcases status_row reveal v with h | h <;> rw [h] <;> decide
  · rw [columnWidth_eq]
    exact Nat.le_max_left 6 _

def keyWidth (verdicts : Verdicts) : Nat :=
  max 3 ((verdicts.map fun v => v.key.utf8ByteSize).max?.getD 0)

theorem columnWidth_key (reveal : Bool) (verdicts : Verdicts) :
    columnWidth "KEY" ((rows reveal verdicts).map Row.key) = keyWidth verdicts := by
  have hk : ((rows reveal verdicts).map Row.key).map String.utf8ByteSize =
      verdicts.map fun v => v.key.utf8ByteSize := by
    rw [rows, List.map_map, List.map_map]
    rfl
  rw [columnWidth_eq, hk]
  rfl

/-- A key has no more characters than the column has, since it has no more bytes. -/
theorem length_le_keyWidth {v : Verdict} (h : v ∈ verdicts) : v.key.length ≤ keyWidth verdicts := by
  have hsize : v.key.utf8ByteSize ∈ verdicts.map fun v => v.key.utf8ByteSize :=
    List.mem_map.mpr ⟨v, h, rfl⟩
  calc v.key.length ≤ v.key.utf8ByteSize := length_le_utf8ByteSize _
    _ ≤ (verdicts.map fun v => v.key.utf8ByteSize).max?.getD 0 := List.le_max?_getD_of_mem hsize
    _ ≤ keyWidth verdicts := Nat.le_max_right _ _

def titles (verdicts : Verdicts) : String := cells (keyWidth verdicts) "KEY" "STATUS" "VALUE"

def body (reveal : Bool) (verdicts : Verdicts) : List String :=
  (rows reveal verdicts).map fun r => cells (keyWidth verdicts) r.key r.status r.detail

theorem render_table (reveal : Bool) (hne : verdicts ≠ [])
    (hw : ∀ v ∈ verdicts, v.key.utf8ByteSize ≤ widest) :
    render .table reveal verdicts =
      .ok (String.join ((titles verdicts :: body reveal verdicts).map (· ++ "\n"))) := by
  have hrows : rows reveal verdicts ≠ [] := by simpa [rows] using hne
  have hle := (columnWidth_key_le_iff reveal).mpr hw
  rw [render, table, if_neg hrows]
  dsimp only
  rw [if_neg (Nat.not_lt.mpr hle), columnWidth_key, columnWidth_status, List.map_cons,
    String.join_cons, body, List.map_map]
  rfl

/-- A table has one line of titles and one line for each verdict. On all of them the key is followed
by blanks up to the same character, and so is the status, and none of the texts is cut. -/
theorem table_isAligned (reveal : Bool) (hne : verdicts ≠ [])
    (hw : ∀ v ∈ verdicts, v.key.utf8ByteSize ≤ widest) (hk : ∀ v ∈ verdicts, OneLine v.key)
    (hd : ∀ v ∈ verdicts, OneLine (row reveal v).detail) :
    let width := keyWidth verdicts
    ∃ text header body, render .table reveal verdicts = .ok text ∧
      lines text = header :: body ++ [""] ∧ IsAligned width "KEY" "STATUS" "VALUE" header ∧
      List.Forall₂ (fun v line => IsAligned width v.key (if v.isOk then "ok" else "failed")
        (row reveal v).detail line) verdicts body := by
  intro width
  have hstatus : ∀ v, (row reveal v).status.length ≤ 6 ∧ OneLine (row reveal v).status := by
    intro v
    rcases status_row reveal v with h | h <;> rw [h] <;> decide
  have hheader : IsAligned width "KEY" "STATUS" "VALUE" (titles verdicts) :=
    isAligned_cells (Nat.le_max_left 3 _) (by decide)
  have hone : ∀ line ∈ titles verdicts :: body reveal verdicts, OneLine line := by
    refine List.forall_mem_cons.mpr ⟨oneLine_cells (by decide) (by decide) (by decide), ?_⟩
    intro line hl
    obtain ⟨r, hr, rfl⟩ := List.mem_map.mp hl
    obtain ⟨v, hv, rfl⟩ := List.mem_map.mp hr
    exact oneLine_cells (hk v hv) (hstatus v).2 (hd v hv)
  refine ⟨_, titles verdicts, body reveal verdicts, render_table reveal hne hw, lines_join hone,
    hheader, ?_⟩
  rw [body, rows, List.map_map, List.forall₂_map_right_iff, List.forall₂_same]
  exact fun v hv => isAligned_cells (length_le_keyWidth hv) (hstatus v).1

theorem table_isAligned_of_wide_characters :
    let message := "[required]: value for A cannot be empty"
    let verdicts : Verdicts := [⟨"ключ", "x", .ok⟩, ⟨"A", "", .failed message⟩]
    (verdicts ≠ [] ∧ (∀ v ∈ verdicts, v.key.utf8ByteSize ≤ widest) ∧
      (∀ v ∈ verdicts, OneLine v.key) ∧ ∀ v ∈ verdicts, OneLine (row false v).detail) ∧
    ∃ text header first second, render .table false verdicts = .ok text ∧
      lines text = [header, first, second, ""] ∧ IsAligned 8 "KEY" "STATUS" "VALUE" header ∧
      IsAligned 8 "ключ" "ok" "********" first ∧ IsAligned 8 "A" "failed" message second := by
  intro message verdicts
  have hw : ∀ v ∈ verdicts, v.key.utf8ByteSize ≤ widest := by decide
  have hk : ∀ v ∈ verdicts, OneLine v.key := by decide
  have hd : ∀ v ∈ verdicts, OneLine (row false v).detail := by decide +kernel
  have hne : verdicts ≠ [] := List.cons_ne_nil _ _
  refine ⟨⟨hne, hw, hk, hd⟩, ?_⟩
  obtain ⟨text, header, body, ht, hl, hh, hb⟩ := table_isAligned false hne hw hk hd
  obtain ⟨first, rest, hfirst, hrest, rfl⟩ := List.forall₂_cons_left_iff.mp hb
  obtain ⟨second, none, hsecond, hnone, rfl⟩ := List.forall₂_cons_left_iff.mp hrest
  obtain rfl := List.forall₂_nil_left_iff.mp hnone
  exact ⟨text, header, first, second, ht, hl, hh, hfirst, hsecond⟩

/-- A report on the keys of a template can be written in any format, except that a table needs each
key that a line of the template states to be no wider than a column can be. -/
theorem exists_report_of_template_iff (format : Format) (reveal : Bool) (registry : Registry)
    (environment : String → Option String) (template envFile : String) :
    let verdicts := (Rule.judgeAll registry environment (EnvFile.parse envFile)
      (Rule.ofTemplate registry (EnvFile.parse template))).1
    (∃ report, render format reveal verdicts = .ok report) ↔
      format = .json ∨ ∀ p ∈ EnvFile.bindings template, p.1.utf8ByteSize ≤ widest := by
  intro verdicts
  have hkeys : verdicts.map Verdict.key = (EnvFile.parse template).keys := by
    rw [Rule.keys_judgeAll, Rule.ofTemplate, List.map_map]
    rfl
  -- of lines with one key only one is left in a template, but each key is left
  have hmem : ∀ key, (∃ v ∈ verdicts, v.key = key) ↔
      ∃ p ∈ EnvFile.bindings template, p.1 = key := by
    intro key
    rw [← List.mem_map, hkeys, EnvFile.parse, OrderedMap.mem_keys_ofList, List.mem_map]
  have hwidth : (∀ v ∈ verdicts, v.key.utf8ByteSize ≤ widest) ↔
      ∀ p ∈ EnvFile.bindings template, p.1.utf8ByteSize ≤ widest := by
    constructor
    · intro h p hp
      obtain ⟨v, hv, hvp⟩ := (hmem p.1).mpr ⟨p, hp, rfl⟩
      exact hvp ▸ h v hv
    · intro h v hv
      obtain ⟨p, hp, hpv⟩ := (hmem v.key).mp ⟨v, hv, rfl⟩
      exact hpv ▸ h p hp
  rw [exists_render_eq_ok_iff, hwidth]
  cases format with
  | table => simp
  | json => simp

theorem no_table_for_wide_key :
    let key := String.ofList (List.replicate (widest + 1) 'A')
    let verdicts := (Rule.judgeAll .standard (fun _ => none) (EnvFile.parse "")
      (Rule.ofTemplate .standard (EnvFile.parse (EnvFile.line key "")))).1
    verdicts = [⟨key, "", .ok⟩] ∧ ∀ reveal report, render .table reveal verdicts ≠ .ok report := by
  intro key verdicts
  have hk : EnvFile.IsKey key := EnvFile.isKey_replicate widest
  have hentries : (EnvFile.parse (EnvFile.line key "")).entries = [(key, "")] :=
    EnvFile.parse_line hk ⟨by decide, by decide⟩
  have hverdicts : verdicts = [⟨key, "", .ok⟩] := by
    unfold verdicts
    rw [Rule.ofTemplate, hentries]
    rfl
  refine ⟨hverdicts, fun reveal report hr => ?_⟩
  have hwide := (exists_render_eq_ok_iff reveal).mp ⟨report, hr⟩ rfl ⟨key, "", .ok⟩
    (hverdicts ▸ List.mem_cons_self)
  rw [utf8ByteSize_replicate] at hwide
  omega

end Report

end EnvTemplate
