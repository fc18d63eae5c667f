import TradingStrands.Foundation.Calendar
import TradingStrands.Foundation.DelimitedKey
import TradingStrands.Foundation.Padded

/-!
Owns dates as texts, year, month and day in UTC. Two moments have the same text
exactly if they are on the same day.
-/

namespace TradingStrands.Foundation

/-- The day a moment is on, counted from the first of 1970. -/
def utcDay (seconds : Int) : Int := seconds / 86400

def isoDateChars (seconds : Int) : List Char :=
  let moment := gmtime seconds
  paddedInt 4 moment.year ++ '-' :: (paddedDigits 2 moment.month ++
    '-' :: paddedDigits 2 moment.day)

/-- The `YYYY-MM-DD` text of the day of a moment. -/
def isoDate (seconds : Int) : String := String.ofList (isoDateChars seconds)

/-- The fields of the day say which day it is. -/
theorem utcDay_eq_iff_fields {left right : Int} :
    utcDay left = utcDay right ↔
      (gmtime left).year = (gmtime right).year ∧ (gmtime left).month = (gmtime right).month ∧
        (gmtime left).day = (gmtime right).day := by
  constructor
  · intro same
    unfold utcDay at same
    unfold gmtime
    simp only [same, and_self]
  · rintro ⟨year, month, day⟩
    have ofLeft := secondsOf_gmtime left
    have ofRight := secondsOf_gmtime right
    unfold secondsOf at ofLeft ofRight
    rw [← year, ← month, ← day] at ofRight
    have timeLeft : (3600 * (gmtime left).hour + 60 * (gmtime left).minute +
        (gmtime left).second : Int) = left % 86400 := by
      unfold gmtime
      dsimp only
      omega
    have timeRight : (3600 * (gmtime right).hour + 60 * (gmtime right).minute +
        (gmtime right).second : Int) = right % 86400 := by
      unfold gmtime
      dsimp only
      omega
    unfold utcDay
    dsimp only at ofLeft ofRight
    omega

theorem isoDate_eq_iff {left right : Int} :
    isoDate left = isoDate right ↔ utcDay left = utcDay right := by
  rw [utcDay_eq_iff_fields]
  constructor
  · intro same
    have chars : isoDateChars left = isoDateChars right := String.ofList_inj.mp same
    have plain : ∀ number, '-' ∉ paddedDigits 2 number := by
      intro number member
      exact absurd (isDigit_of_mem_paddedDigits member) (by decide)
    unfold isoDateChars at chars
    dsimp only at chars
    rw [← List.cons_append, ← List.append_assoc, ← List.cons_append, ← List.append_assoc] at chars
    obtain ⟨front, day⟩ := delimited_inj (plain _) (plain _) chars
    obtain ⟨year, month⟩ := delimited_inj (plain _) (plain _) front
    exact ⟨paddedInt_inj year, paddedDigits_inj month, paddedDigits_inj day⟩
  · rintro ⟨year, month, day⟩
    unfold isoDate isoDateChars
    dsimp only
    rw [year, month, day]

/-- A date holds digits and dashes. -/
theorem isoDate_freeOf {delimiter : Char} (noDigit : delimiter.isDigit = false)
    (noDash : delimiter ≠ '-') (seconds : Int) : FreeOf delimiter (isoDate seconds) := by
  have digits : ∀ width number, delimiter ∉ paddedDigits width number := by
    intro width number member
    rw [isDigit_of_mem_paddedDigits member] at noDigit
    cases noDigit
  unfold FreeOf isoDate isoDateChars
  rw [String.toList_ofList]
  intro member
  rcases List.mem_append.mp member with year | rest
  · rcases mem_paddedInt year with dash | digit
    · exact noDash dash
    · rw [digit] at noDigit
      cases noDigit
  · simp only [List.mem_cons, List.mem_append] at rest
    rcases rest with dash | month | dash | day
    · exact noDash dash
    · exact digits _ _ month
    · exact noDash dash
    · exact digits _ _ day

example : isoDate 1777213997 = "2026-04-26" := by decide

end TradingStrands.Foundation
