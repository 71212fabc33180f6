import AccessScopes.Audit.Record

/-!
# The framing of decision logs

A log is the texts of its records one after another: of a decision one line that is read as it, and of a
message its own text. The line of a decision holds no line feed, so the line feeds of a log of decisions
are the ends of its lines: splitting there gives back the lines, and reading each of them the decisions.
So a log determines its decisions.
-/

namespace AccessScopes

/-- The text is that of the record: for a decision one line that is read as a JSON object with its four
members, for a message the message, and a line feed at the end of both. -/
inductive Record.SpeltBy : Record → String → Prop
  | decision (decision : Decision) (line : List Char) (hline : '\n' ∉ line)
      (hread : Json.Object.parse? line = some
        [("event", .text (if decision.allowed then "allow" else "deny")), ("ts", .text decision.time),
          ("scope", .text decision.scope), ("allowed", .flag decision.allowed)]) :
      SpeltBy (.decision decision) (.ofList (line ++ ['\n']))
  | message (text : String) : SpeltBy (.message text) (text ++ "\n")

/-- The text is that of the records, one behind the other. -/
inductive Record.AllSpeltBy : List Record → String → Prop
  | nil : AllSpeltBy [] ""
  | cons {record : Record} {records : List Record} {text rest : String} (hfirst : record.SpeltBy text)
      (hrest : AllSpeltBy records rest) : AllSpeltBy (record :: records) (text ++ rest)

/-- The text that records add to a log one after another. -/
def Record.joined (records : List Record) : String :=
  .join (records.map Record.text)

namespace Record

@[simp] theorem joined_nil : joined [] = "" := rfl

theorem joined_cons (record : Record) (records : List Record) :
    joined (record :: records) = record.text ++ joined records := by
  rw [joined, joined, List.map_cons, String.join_cons]

theorem joined_append (records more : List Record) : joined (records ++ more) = joined records ++ joined more := by
  rw [joined, joined, joined, List.map_append, String.join_append]

end Record

namespace Decision

/-- The log that consists of decisions alone. -/
def log (decisions : List Decision) : String :=
  Record.joined (decisions.map Record.decision)

theorem not_mem_line (decision : Decision) : '\n' ∉ decision.line := by
  intro hmem
  have hlow := (isAscii_of_mem_line hmem).1
  have hfeed : '\n'.toNat = 10 := rfl
  omega

end Decision

namespace Record

theorem speltBy_text (record : Record) : record.SpeltBy record.text := by
  cases record with
  | decision verdict =>
    exact .decision verdict verdict.line verdict.not_mem_line (Json.Object.parse?_render verdict.object)
  | message text => exact .message text

/-- What records add to a log is spelt by the records. -/
theorem allSpeltBy_joined (records : List Record) : AllSpeltBy records (joined records) := by
  induction records with
  | nil => exact .nil
  | cons record records ih =>
    rw [joined_cons]
    exact .cons record.speltBy_text ih

end Record

namespace Decision

theorem toList_log_cons (decision : Decision) (decisions : List Decision) :
    (log (decision :: decisions)).toList = decision.line ++ '\n' :: (log decisions).toList := by
  rw [log, List.map_cons, Record.joined_cons, String.toList_append, Record.text, String.toList_ofList,
    List.append_assoc]
  rfl

theorem isAscii_of_mem_log {decisions : List Decision} {c : Char} (hmem : c ∈ (log decisions).toList) :
    c = '\n' ∨ 0x20 ≤ c.toNat ∧ c.toNat ≤ 0x7E := by
  induction decisions with
  | nil => cases hmem
  | cons decision decisions ih =>
    rw [toList_log_cons, List.mem_append, List.mem_cons] at hmem
    rcases hmem with hline | hfeed | hrest
    · exact Or.inr (isAscii_of_mem_line hline)
    · exact Or.inl hfeed
    · exact ih hrest

theorem count_newline_log (decisions : List Decision) : (log decisions).toList.count '\n' = decisions.length := by
  induction decisions with
  | nil => rfl
  | cons decision decisions ih =>
    rw [toList_log_cons, List.count_append, List.count_cons_self, ih,
      List.count_eq_zero_of_not_mem (not_mem_line decision), List.length_cons, Nat.zero_add]

/-- The pieces of a log between its line feeds are the lines, and nothing follows the last. -/
theorem splitOn_log (decisions : List Decision) :
    (log decisions).toList.splitOn '\n' = decisions.map line ++ [[]] := by
  induction decisions with
  | nil => rfl
  | cons decision decisions ih =>
    rw [toList_log_cons, List.splitOn_append_cons_self_of_not_mem (not_mem_line decision), ih, List.map_cons,
      List.cons_append]

theorem dropLast_splitOn_log (decisions : List Decision) :
    ((log decisions).toList.splitOn '\n').dropLast = decisions.map line := by
  rw [splitOn_log, List.dropLast_concat]

theorem mapM_lines {α : Type} {read : List Char → Option α} {result : Decision → α}
    (hread : ∀ decision, read decision.line = some (result decision)) (decisions : List Decision) :
    (decisions.map line).mapM read = some (decisions.map result) := by
  have hcomp : read ∘ line = fun decision => pure (result decision) := by
    funext decision
    exact hread decision
  rw [List.mapM_map, hcomp, List.mapM_pure]
  rfl

/-- Reading a log gives back the decisions in order. -/
theorem ofLog?_log (decisions : List Decision) : ofLog? (log decisions) = some decisions := by
  have hread := mapM_lines ofLine?_line decisions
  rw [List.map_id'] at hread
  simp only [ofLog?]
  rw [dropLast_splitOn_log, splitOn_log, List.getLast?_concat, if_pos rfl, hread]

theorem log_injective {decisions others : List Decision} (heq : log decisions = log others) :
    decisions = others := by
  have hread := ofLog?_log decisions
  rw [heq, ofLog?_log] at hread
  exact (Option.some.inj hread).symm

end Decision

end AccessScopes
