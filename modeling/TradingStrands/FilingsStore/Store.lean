import TradingStrands.Ddb.Table

/-!
Owns the filings index and the keys of the filing bodies: a row of the index
under the ticker and the accession of a filing, and the object of the bucket its
body is kept in. A row is read back only if it has every field but the summary.

`Builtins` stands for the functions of the language the rows are written and
read with; its laws are that upper case is upper case already, and that a stored
text and a stored number read as themselves.

Does not own: the listing of a ticker's filings, and how long a row is kept.
-/

namespace TradingStrands

open TradingStrands.Foundation

/-- Functions of the language. -/
structure Builtins where
  /-- `str.upper`. -/
  upper : String → String
  /-- `str(value)` of a stored value. -/
  str : Attr → String
  /-- `int(value)` of a stored value. -/
  int : Attr → Except PyError Int
  upper_upper : ∀ text, upper (upper text) = upper text
  str_text : ∀ text, str (.text text) = text
  int_number : ∀ value, int (.number value) = .ok value

structure FilingIndex where
  ticker : String
  accession : String
  formType : String
  filingDate : String
  summary : String
  bodyS3Key : String
  indexedAt : Int
deriving DecidableEq, Repr

namespace FilingsIndexStore

variable (builtins : Builtins)

def pkPrefix : String := "FILING_INDEX" ++ "#"

def pk (ticker accession : String) : String :=
  pkPrefix ++ (builtins.upper ticker ++ "#" ++ accession)

/-- `_INDEX_TTL_SECONDS`. -/
def indexTtlSeconds : Int := 90 * 24 * 3600

/-- The key of a body. -/
def buildBodyKey (ticker formType accession : String) : String :=
  builtins.upper ticker ++ "/" ++ formType ++ "/" ++ accession ++ ".html"

def item (filing : FilingIndex) (now : Int) : Item :=
  [("ticker", .text (builtins.upper filing.ticker)), ("accession", .text filing.accession),
    ("form_type", .text filing.formType), ("filing_date", .text filing.filingDate),
    ("summary", .text filing.summary), ("body_s3_key", .text filing.bodyS3Key),
    ("indexed_at", .number filing.indexedAt), ("ttl", .number (now + indexTtlSeconds))]

/-- `item[name]`. -/
def field (item : Item) (name : String) : Except PyError Attr :=
  match item.attr? name with
  | none => .error (.keyError name)
  | some value => .ok value

def ofItem (item : Item) : Except PyError FilingIndex := do
  let ticker ← field item "ticker"
  let accession ← field item "accession"
  let formType ← field item "form_type"
  let filingDate ← field item "filing_date"
  let summary := (item.attr? "summary").getD (.text "")
  let bodyS3Key ← field item "body_s3_key"
  let indexedAt ← field item "indexed_at"
  let indexedAt ← builtins.int indexedAt
  return {
    ticker := builtins.str ticker, accession := builtins.str accession
    formType := builtins.str formType, filingDate := builtins.str filingDate
    summary := builtins.str summary, bodyS3Key := builtins.str bodyS3Key, indexedAt }

def put (filing : FilingIndex) (now : Int) (table : Table) : Table :=
  table.putItem (pk builtins filing.ticker filing.accession) (item builtins filing now)

def get (ticker accession : String) (table : Table) : Except PyError (Option FilingIndex) :=
  match table.getItem (pk builtins ticker accession) with
  | none => .ok none
  | some item => (ofItem builtins item).map some

variable {builtins}

theorem pk_injective {ticker accession other : String} :
    pk builtins ticker accession = pk builtins ticker other ↔ accession = other := by
  unfold pk
  rw [String.append_right_inj, String.append_right_inj]

/-- The store and its callers may both take the ticker to upper case. -/
@[simp] theorem pk_upper (ticker accession : String) :
    pk builtins (builtins.upper ticker) accession = pk builtins ticker accession := by
  unfold pk
  rw [builtins.upper_upper]

/-- A row the store wrote reads as the filing, its ticker in upper case. -/
theorem ofItem_item (filing : FilingIndex) (now : Int) :
    ofItem builtins (item builtins filing now) =
      .ok { filing with ticker := builtins.upper filing.ticker } := by
  show (builtins.int (.number filing.indexedAt) >>= fun indexedAt => Except.ok ({
    ticker := builtins.str (.text (builtins.upper filing.ticker))
    accession := builtins.str (.text filing.accession)
    formType := builtins.str (.text filing.formType)
    filingDate := builtins.str (.text filing.filingDate)
    summary := builtins.str (.text filing.summary)
    bodyS3Key := builtins.str (.text filing.bodyS3Key), indexedAt } : FilingIndex)) = _
  rw [builtins.int_number]
  simp only [builtins.str_text]
  rfl

/-- Whether a lookup of the filing fails on the row it finds. -/
def Unreadable (builtins : Builtins) (ticker accession : String) (table : Table) : Prop :=
  ∃ error, get builtins ticker accession table = .error error

/-- A row that does not read fails every lookup that finds it. -/
theorem get_of_unreadable {ticker accession : String} {table later : Table}
    (unreadable : Unreadable builtins ticker accession table)
    (kept : ∀ key row, table.getItem key = some row → later.getItem key = some row) :
    Unreadable builtins ticker accession later := by
  obtain ⟨error, failed⟩ := unreadable
  unfold get at failed
  cases found : table.getItem (pk builtins ticker accession) with
  | none =>
      rw [found] at failed
      cases failed
  | some item =>
      rw [found] at failed
      refine ⟨error, ?_⟩
      unfold get
      rw [kept _ _ found]
      exact failed

/-- Under a key of the index there is no row, one that reads, or one that fails. -/
theorem get_cases (ticker accession : String) (table : Table) :
    get builtins ticker accession table = .ok none ∧
        table.getItem (pk builtins ticker accession) = none ∨
      (∃ filing, get builtins ticker accession table = .ok (some filing)) ∧
        table.getItem (pk builtins ticker accession) ≠ none ∨
      Unreadable builtins ticker accession table := by
  unfold Unreadable get
  cases table.getItem (pk builtins ticker accession) with
  | none => exact Or.inl ⟨rfl, rfl⟩
  | some item =>
      dsimp only
      cases ofItem builtins item with
      | error error => exact Or.inr (Or.inr ⟨error, rfl⟩)
      | ok filing => exact Or.inr (Or.inl ⟨⟨filing, rfl⟩, nofun⟩)

end FilingsIndexStore

end TradingStrands
