import TradingStrands.AuditorAgent.Runner
import TradingStrands.Foundation.IsoDate
import TradingStrands.Foundation.PutFate
import TradingStrands.Foundation.Reading
import Mathlib.Data.List.TakeWhile

/-!
Owns the memory of an agent in a bucket: a raw and a compressed file a day, and
the files of its lessons and recommendations. A file that is not there reads as
empty, and a compressed file that reads as empty is passed over for the raw one.
Files that are appended to end in a line break.

The bucket holds the texts the store encodes. A read can fail at any key.
-/

namespace TradingStrands

open TradingStrands.Foundation

abbrev Bucket : Type := Dict String String

/-- The error a read of a key ends in, if it raises. -/
abbrev ReadFaults : Type := String → Option PyError

inductive DailyFileKind
  | raw
  | compressed
deriving DecidableEq, Repr

def DailyFileKind.suffix : DailyFileKind → String
  | .raw => ".md"
  | .compressed => ".compressed.md"

/-- The scope of a store. All of its keys lie in it. -/
structure AgentMemoryStore where
  orgId : String
  agentType : String
  agentId : String
deriving DecidableEq, Repr

namespace AgentMemoryStore

variable (store : AgentMemoryStore) (faults : ReadFaults) (bucket : Bucket)

/-- `_prefix`. -/
def lead : String := store.orgId ++ "/" ++ store.agentType ++ "/" ++ store.agentId

def dailyKey (date : String) (kind : DailyFileKind) : String :=
  store.lead ++ "/" ++ date ++ kind.suffix

def lessonsKey : String := store.lead ++ "/lessons.md"

def recommendationsKey : String := store.lead ++ "/recommendations.md"

/-! ### Reads -/

def read (key : String) : Except PyError String :=
  match faults key with
  | some error => .error error
  | none => .ok ((bucket.get? key).getD "")

def readDay (date : String) : Except PyError String :=
  read faults bucket (store.dailyKey date .raw)

def readCompressed (date : String) : Except PyError String := do
  let content ← read faults bucket (store.dailyKey date .compressed)
  if content ≠ "" then return content else store.readDay faults bucket date

def readLessons : Except PyError String := read faults bucket store.lessonsKey

def readRecommendations : Except PyError String := read faults bucket store.recommendationsKey

/-- The last days up to a day counted from the first of 1970, newest first. -/
def loadRecentDays (count : Nat) (endDay : Int) : Except PyError (List (String × String)) :=
  (List.range count).mapM fun (index : Nat) =>
    let date := isoDate ((endDay - index) * 86400)
    (store.readCompressed faults bucket date).map fun content => (date, content)

/-! ### Writes -/

section Writes

variable (fate : PutFate)

def write (key content : String) : Except PyError Unit × Bucket :=
  fate.put (fun bucket => bucket.set key content) bucket

def endsLine (text : String) : Bool := text.toList.getLast? = some '\n'

/-- A file with a block appended. -/
def appended (current text : String) : String :=
  (if current ≠ "" ∧ endsLine current = false then current ++ "\n" else current) ++
    (if endsLine text = true then text else text ++ "\n")

/-- Read, modify, write. -/
def append (key text : String) : Except PyError Unit × Bucket :=
  match read faults bucket key with
  | .error error => (.error error, bucket)
  | .ok current => write bucket fate key (appended current text)

/-- Append to the raw file of the day a moment is on. -/
def appendToToday (now : Int) (text : String) : Except PyError Unit × Bucket :=
  append faults bucket fate (store.dailyKey (isoDate now) .raw) text

def writeCompressed (date content : String) : Except PyError Unit × Bucket :=
  write bucket fate (store.dailyKey date .compressed) content

def appendLesson (text : String) : Except PyError Unit × Bucket :=
  append faults bucket fate store.lessonsKey text

def appendRecommendation (text : String) : Except PyError Unit × Bucket :=
  append faults bucket fate store.recommendationsKey text

end Writes

end AgentMemoryStore

/-! ### Blank texts -/

/-- `not text.strip()`. -/
def isBlank (text : String) : Bool := AuditorAgent.strip text = ""

/-- A text is blank if all of it is space. -/
theorem isBlank_iff {text : String} :
    isBlank text = true ↔ ∀ char ∈ text.toList, AuditorAgent.isSpace char = true := by
  unfold isBlank AuditorAgent.strip
  rw [decide_eq_true_eq, ← String.toList_inj, String.toList_ofList, String.toList_empty,
    trim_eq_nil_iff]

/-- Stripping a text and ending the line does not change whether it is blank. -/
theorem isBlank_strip_append (text : String) :
    isBlank (AuditorAgent.strip text ++ "\n") = isBlank text := by
  have stripped : (∀ char ∈ (AuditorAgent.strip text).toList, AuditorAgent.isSpace char = true) ↔
      ∀ char ∈ text.toList, AuditorAgent.isSpace char = true := by
    unfold AuditorAgent.strip
    rw [String.toList_ofList, forall_mem_trim]
  rw [Bool.eq_iff_iff, isBlank_iff, isBlank_iff, ← stripped, String.toList_append]
  constructor
  · exact fun all char member => all char (List.mem_append_left _ member)
  · intro all char member
    rcases List.mem_append.mp member with inside | last
    · exact all char inside
    · rw [List.mem_singleton.mp last]
      decide

/-! ### The files of a day -/

/-- A key of a compressed file. -/
def IsCompressedKey (key : String) : Prop := ".compressed.md".toList <:+ key.toList

namespace AgentMemoryStore

variable {store : AgentMemoryStore} {faults : ReadFaults} {bucket : Bucket} {date : String}

theorem isCompressedKey_dailyKey : IsCompressedKey (store.dailyKey date .compressed) := by
  unfold IsCompressedKey dailyKey
  rw [String.toList_append]
  exact List.suffix_append _ _

theorem rawKey_ne_compressedKey : store.dailyKey date .raw ≠ store.dailyKey date .compressed := by
  intro same
  unfold dailyKey at same
  rw [String.append_right_inj] at same
  exact absurd same (by decide)

/-- The raw file of a calendar day is no compressed file. -/
theorem not_isCompressedKey_day (seconds : Int) :
    ¬ IsCompressedKey (store.dailyKey (isoDate seconds) .raw) := by
  rintro ⟨front, same⟩
  have ending : ".compressed.md".toList = ".compressed".toList ++ ".md".toList := by decide
  unfold dailyKey DailyFileKind.suffix at same
  rw [String.toList_append, String.toList_append, ending, ← List.append_assoc] at same
  have last := congrArg List.getLast? (List.append_cancel_right same)
  rw [List.getLast?_append, List.getLast?_append] at last
  cases final : (isoDate seconds).toList.getLast? with
  | none =>
      rw [final, String.toList_append, List.getLast?_append] at last
      replace last : some 'd' = some '/' := last
      exact absurd last (by decide)
  | some char =>
      rw [final] at last
      have inDate := List.mem_of_getLast? final
      rw [← Option.some.inj last] at inDate
      exact isoDate_freeOf (by decide) (by decide) seconds inDate

theorem not_isCompressedKey_lessons : ¬ IsCompressedKey store.lessonsKey := by
  intro ends
  unfold IsCompressedKey lessonsKey at ends
  rw [String.toList_append] at ends
  have shorter := List.suffix_of_suffix_length_le (List.suffix_append _ _) ends (by decide)
  exact absurd shorter (by decide)

theorem not_isCompressedKey_recommendations : ¬ IsCompressedKey store.recommendationsKey := by
  intro ends
  unfold IsCompressedKey recommendationsKey at ends
  rw [String.toList_append] at ends
  have shorter := List.suffix_of_suffix_length_le ends (List.suffix_append _ _) (by decide)
  exact absurd shorter (by decide)

/-- What a day reads as, where the reads answer. -/
def dayText (store : AgentMemoryStore) (bucket : Bucket) (date : String) : String :=
  let content := (bucket.get? (store.dailyKey date .compressed)).getD ""
  if content ≠ "" then content else (bucket.get? (store.dailyKey date .raw)).getD ""

theorem read_ok_iff {key content : String} :
    read faults bucket key = .ok content ↔
      faults key = none ∧ content = (bucket.get? key).getD "" := by
  unfold read
  cases faults key with
  | some error => exact ⟨nofun, nofun⟩
  | none =>
      constructor
      · rintro ⟨⟩
        exact ⟨rfl, rfl⟩
      · rintro ⟨-, rfl⟩
        rfl

/-- A read that returns answers what the day reads as. -/
theorem readCompressed_ok {content : String}
    (done : store.readCompressed faults bucket date = .ok content) :
    content = store.dayText bucket date := by
  obtain ⟨compressed, first, rest⟩ := bind_ok_iff.mp done
  unfold dayText
  rw [← (read_ok_iff.mp first).2]
  by_cases there : compressed ≠ ""
  · rw [if_pos there] at rest
    cases rest
    exact (if_pos there).symm
  · rw [if_neg there] at rest
    dsimp only
    rw [if_neg there]
    exact (read_ok_iff.mp rest).2

/-- Where the reads answer, it does. -/
theorem readCompressed_quiet (store : AgentMemoryStore) (bucket : Bucket) (date : String) :
    store.readCompressed (fun _ => none) bucket date = .ok (store.dayText bucket date) := by
  unfold dayText
  dsimp only
  show (if (bucket.get? (store.dailyKey date .compressed)).getD "" ≠ "" then
      .ok ((bucket.get? (store.dailyKey date .compressed)).getD "")
    else .ok ((bucket.get? (store.dailyKey date .raw)).getD "") : Except PyError String) = _
  split
  · rfl
  · rfl

/-- So do the last days. -/
theorem mem_loadRecentDays {count : Nat} {endDay : Int} {days : List (String × String)}
    (done : store.loadRecentDays faults bucket count endDay = .ok days)
    {day : String × String} (member : day ∈ days) : day.2 = store.dayText bucket day.1 := by
  obtain ⟨index, -, loaded⟩ := exists_of_mapM_ok done member
  dsimp only at loaded
  cases here : store.readCompressed faults bucket (isoDate ((endDay - index) * 86400)) with
  | error error =>
      rw [here] at loaded
      cases loaded
  | ok content =>
      rw [here] at loaded
      cases loaded
      exact readCompressed_ok here

end AgentMemoryStore

end TradingStrands
