import TradingStrands.Ddb.Marshal
import TradingStrands.Foundation.Reading

/-!
Owns what is read of a company's submissions: parallel columns of the recent
filings, of which the watched forms are kept up to a maximum. A payload of
another shape can make the reading fail.

`str` and `upper` are the language's.
-/

namespace TradingStrands

open TradingStrands.Foundation

namespace JsonValue

/-- `bool(value)`. -/
def truthy : JsonValue → Bool
  | .null => false
  | .bool value => value
  | .int value => value ≠ 0
  | .float value => value ≠ .finite 0
  | .text value => value ≠ ""
  | .list items => !items.isEmpty
  | .map fields => !fields.isEmpty

/-- `value.get(name, default)`. -/
def getD (value : JsonValue) (name : String) (default_ : JsonValue) : Except PyError JsonValue :=
  match value with
  | .map fields => .ok (((fields.find? fun field => field.1 = name).map Prod.snd).getD default_)
  | _ => .error (.attributeError "get")

/-- What `value[0]`, `value[1]` and so on are, as far as `value` is long. A
mapping has a length and no entry under a number. -/
def entries : JsonValue → Except PyError (List (Except PyError JsonValue))
  | .list items => .ok (items.map .ok)
  | .text value => .ok (value.toList.map fun char => .ok (.text (String.singleton char)))
  | .map fields => .ok (fields.mapIdx fun index _ => .error (.keyError (toString index)))
  | _ => .error (.typeError "object has no len()")

end JsonValue

namespace EdgarWatcher

/-- A filing of the feed. -/
structure Filing where
  ticker : String
  accession : String
  formType : String
  filingDate : String
  primaryDocument : String
deriving DecidableEq, Repr

/-- One position of the columns. -/
structure FeedRow where
  form : Except PyError JsonValue
  accession : Except PyError JsonValue
  date : Except PyError JsonValue
  primary : Except PyError JsonValue

/-- The recent filings, if the payload is a mapping at all. -/
def recentOf : JsonValue → Except PyError JsonValue
  | .map fields => do
      let filings ← (JsonValue.map fields).getD "filings" (.map [])
      filings.getD "recent" (.map [])
  | _ => .ok (.map [])

/-- `recent.get(name) or []`. -/
def column (recent : JsonValue) (name : String) :
    Except PyError (List (Except PyError JsonValue)) := do
  let value ← recent.getD name .null
  if value.truthy = true then value.entries else return []

/-- The columns side by side, as long as the shortest. -/
def feedRows (recent : JsonValue) : Except PyError (List FeedRow) := do
  let forms ← column recent "form"
  let accessions ← column recent "accessionNumber"
  let dates ← column recent "filingDate"
  let primaries ← column recent "primaryDocument"
  return ((forms.zip accessions).zip (dates.zip primaries)).map fun row =>
    { form := row.1.1, accession := row.1.2, date := row.2.1, primary := row.2.2 }

section Parsing

variable (str : JsonValue → String) (upper : String → String) (ticker : String)
  (formTypes : Option (List String)) (maxCount : Nat)

/-- Whether a form is wanted; all are where none are named. -/
def wanted (form : String) : Bool := formTypes.all fun types => types.contains form

/-- The filing of a row, its form apart. -/
def filingOf (form : String) (row : FeedRow) : Except PyError Filing := do
  let accession ← row.accession
  let filingDate ← row.date
  let primaryDocument ← row.primary
  return {
    ticker := upper ticker, accession := str accession, formType := form
    filingDate := str filingDate, primaryDocument := str primaryDocument }

/-- Rows of other forms are passed over without reading the rest of them. -/
def select : List FeedRow → List Filing → Except PyError (List Filing)
  | [], out => .ok out
  | row :: rest, out => do
      let form ← row.form
      if wanted formTypes (str form) = false then select rest out
      else
        let filing ← filingOf str upper ticker (str form) row
        let out := out ++ [filing]
        if maxCount ≤ out.length then return out else select rest out

def parseSubmissionsJson (raw : JsonValue) : Except PyError (List Filing) := do
  let recent ← recentOf raw
  let rows ← feedRows recent
  select str upper ticker formTypes maxCount rows []

variable {str upper ticker formTypes maxCount}

theorem of_filingOf {form : String} {row : FeedRow} {filing : Filing}
    (read : filingOf str upper ticker form row = .ok filing) :
    filing.ticker = upper ticker ∧ filing.formType = form := by
  obtain ⟨accession, -, read⟩ := bind_ok_iff.mp read
  obtain ⟨date, -, read⟩ := bind_ok_iff.mp read
  obtain ⟨primary, -, read⟩ := bind_ok_iff.mp read
  cases read
  exact ⟨rfl, rfl⟩

/-- What holds of the filings so far, and goes on to hold with one more of a
wanted form, holds of what is read. -/
theorem select_induction {holds : List Filing → Prop} {rows : List FeedRow}
    {out filings : List Filing} (start : holds out)
    (more : ∀ out filing, holds out → filing.ticker = upper ticker →
      wanted formTypes filing.formType = true → holds (out ++ [filing]))
    (parsed : select str upper ticker formTypes maxCount rows out = .ok filings) :
    holds filings := by
  induction rows generalizing out with
  | nil =>
      cases parsed
      exact start
  | cons row rest inductionHypothesis =>
      obtain ⟨form, -, parsed⟩ := bind_ok_iff.mp parsed
      by_cases passed : wanted formTypes (str form) = false
      · rw [if_pos passed] at parsed
        exact inductionHypothesis start parsed
      · rw [if_neg passed] at parsed
        obtain ⟨filing, read, parsed⟩ := bind_ok_iff.mp parsed
        obtain ⟨own, same⟩ := of_filingOf read
        have wantedForm : wanted formTypes filing.formType = true := by
          rw [same]
          exact Bool.not_eq_false _ ▸ passed
        have longer : holds (out ++ [filing]) := more out filing start own wantedForm
        dsimp only at parsed
        split at parsed
        · cases parsed
          exact longer
        · exact inductionHypothesis longer parsed

/-- Each filing that is read has a wanted form and the ticker in upper case. -/
theorem mem_parseSubmissionsJson {raw : JsonValue} {filings : List Filing}
    (parsed : parseSubmissionsJson str upper ticker formTypes maxCount raw = .ok filings)
    {filing : Filing} (member : filing ∈ filings) :
    filing.ticker = upper ticker ∧ wanted formTypes filing.formType = true := by
  obtain ⟨recent, -, parsed⟩ := bind_ok_iff.mp parsed
  obtain ⟨rows, -, parsed⟩ := bind_ok_iff.mp parsed
  have each : ∀ filing ∈ filings,
      filing.ticker = upper ticker ∧ wanted formTypes filing.formType = true := by
    refine @select_induction _ _ _ _ _ (fun out => ∀ filing ∈ out,
      filing.ticker = upper ticker ∧ wanted formTypes filing.formType = true) _ _ _
      (fun _ none => absurd none List.not_mem_nil) ?_ parsed
    intro out filing sofar own form other inside
    rcases List.mem_append.mp inside with before | last
    · exact sofar other before
    · rw [List.mem_singleton.mp last]
      exact ⟨own, form⟩
  exact each filing member

end Parsing

end EdgarWatcher

end TradingStrands
