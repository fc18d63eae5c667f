import TradingStrands.Foundation.Runs
import TradingStrands.MemoryCompactor.Runner

/-!
Owns what compaction does to the days of an agent's memory over whole runs, in
which files are appended to and days are compacted, those of any number of
agents. The compressed file stands before the raw one, so a day goes blank
exactly where a blank answer of the model is kept.
-/

namespace TradingStrands.MemoryCompactor

open TradingStrands.Foundation AgentMemoryStore

/-- What can happen to the bucket. -/
inductive MemoryEvent
  | appendToToday (store : AgentMemoryStore) (now : Int) (text : String) (faults : ReadFaults)
      (fate : PutFate)
  | appendLesson (store : AgentMemoryStore) (text : String) (faults : ReadFaults) (fate : PutFate)
  | appendRecommendation (store : AgentMemoryStore) (text : String) (faults : ReadFaults)
      (fate : PutFate)
  | compactDay (call : CompactCall)

def step (bucket : Bucket) : MemoryEvent → Bucket
  | .appendToToday store now text faults fate =>
      (store.appendToToday faults bucket fate now text).2
  | .appendLesson store text faults fate => (store.appendLesson faults bucket fate text).2
  | .appendRecommendation store text faults fate =>
      (store.appendRecommendation faults bucket fate text).2
  | .compactDay call => (runCompactDay call bucket).2

/-! ### What a day reads as -/

/-- No read of a day that returns answers a blank text. -/
structure ReadsAsText (store : AgentMemoryStore) (bucket : Bucket) (date : String) : Prop where
  compressed : ∀ faults content, store.readCompressed faults bucket date = .ok content →
    isBlank content = false
  recent : ∀ faults count endDay days content,
    store.loadRecentDays faults bucket count endDay = .ok days → (date, content) ∈ days →
      isBlank content = false

theorem readsAsText_iff {store : AgentMemoryStore} {bucket : Bucket} {date : String} :
    ReadsAsText store bucket date ↔ isBlank (store.dayText bucket date) = false := by
  constructor
  · intro reads
    exact reads.compressed (fun _ => none) _ (readCompressed_quiet store bucket date)
  · intro text
    refine ⟨fun faults content done => ?_, fun faults count endDay days content done member => ?_⟩
    · rw [readCompressed_ok done]
      exact text
    · have read : content = store.dayText bucket date := mem_loadRecentDays done member
      rw [read]
      exact text

/-- A day whose raw file is not blank does not read as blank. -/
def Readable (bucket : Bucket) : Prop :=
  ∀ (store : AgentMemoryStore) (date : String),
    isBlank ((bucket.get? (store.dailyKey date .raw)).getD "") = false →
      ReadsAsText store bucket date

/-- A compaction leaves the raw file of its day, and a day that did not read as
blank does not read so afterwards. -/
def KeepsDay (bucket : Bucket) : MemoryEvent → Prop
  | .compactDay call =>
      let after := (runCompactDay call bucket).2
      after.get? call.rawKey = bucket.get? call.rawKey ∧
        (ReadsAsText call.memoryStore bucket call.date →
          ReadsAsText call.memoryStore after call.date)
  | _ => True

/-- A run in which no compaction costs a day its memory. -/
def NeverBlanks (start : Bucket) (events : List MemoryEvent) : Prop :=
  EachStep step KeepsDay start events ∧ Always step Readable start events

/-- An answer of the model that is kept is not blank. -/
def SaysSomething (bucket : Bucket) : MemoryEvent → Prop
  | .compactDay call => ∀ text, call.Writes bucket text → isBlank text = false
  | _ => True

/-- Compressed files are empty or say something. -/
def Sound (bucket : Bucket) : Prop :=
  ∀ key content, IsCompressedKey key → bucket.get? key = some content → content ≠ "" →
    isBlank content = false

/-! ### One step -/

theorem Sound.empty : Sound Dict.empty := nofun

theorem Sound.readable {bucket : Bucket} (sound : Sound bucket) : Readable bucket := by
  intro store date raw
  rw [readsAsText_iff]
  unfold dayText
  dsimp only
  cases found : bucket.get? (store.dailyKey date .compressed) with
  | none => exact raw
  | some content =>
      by_cases there : content ≠ ""
      · rw [Option.getD_some, if_pos there]
        exact sound _ content isCompressedKey_dailyKey found there
      · rw [Option.getD_some, if_neg there]
        exact raw

theorem append_cases (faults : ReadFaults) (bucket : Bucket) (fate : PutFate) (key text : String) :
    (AgentMemoryStore.append faults bucket fate key text).2 = bucket ∨
      ∃ content, (AgentMemoryStore.append faults bucket fate key text).2 =
        bucket.set key content := by
  unfold AgentMemoryStore.append
  cases AgentMemoryStore.read faults bucket key with
  | error error => exact Or.inl rfl
  | ok current =>
      dsimp only
      unfold AgentMemoryStore.write
      rw [PutFate.snd_put]
      split
      · exact Or.inr ⟨_, rfl⟩
      · exact Or.inl rfl

/-- Appending to a file that is not a compressed one. -/
theorem Sound.append {bucket : Bucket} (sound : Sound bucket) {key : String}
    (plain : ¬ IsCompressedKey key) (faults : ReadFaults) (fate : PutFate) (text : String) :
    Sound (AgentMemoryStore.append faults bucket fate key text).2 := by
  rcases append_cases faults bucket fate key text with same | ⟨content, set⟩
  · rw [same]
    exact sound
  · rw [set]
    intro other stored compressed found
    have different : other ≠ key := by
      rintro rfl
      exact plain compressed
    rw [Dict.get?_set_of_ne _ _ different] at found
    exact sound other stored compressed found

theorem Sound.step {bucket : Bucket} {event : MemoryEvent} (sound : Sound bucket)
    (speaks : SaysSomething bucket event) : Sound (step bucket event) := by
  cases event with
  | appendToToday store now text faults fate =>
      exact sound.append (not_isCompressedKey_day now) faults fate text
  | appendLesson store text faults fate =>
      exact sound.append not_isCompressedKey_lessons faults fate text
  | appendRecommendation store text faults fate =>
      exact sound.append not_isCompressedKey_recommendations faults fate text
  | compactDay call =>
      show Sound (runCompactDay call bucket).2
      rcases bucket_of_runCompactDay call bucket with ⟨same, -⟩ | ⟨text, writes, set⟩
      · rw [same]
        exact sound
      · rw [set]
        intro key content compressed found _
        rw [Dict.get?_set] at found
        split at found
        · rw [← Option.some.inj found, isBlank_strip_append]
          exact speaks text writes
        · exact sound key content compressed found ‹_›

/-- The write of a compaction leaves the raw file. -/
theorem get?_rawKey_of_set (call : CompactCall) (bucket : Bucket) (content : String) :
    (bucket.set call.compressedKey content).get? call.rawKey = bucket.get? call.rawKey :=
  Dict.get?_set_of_ne _ _ rawKey_ne_compressedKey

/-- The day as it reads after its compressed file has been written. -/
theorem dayText_of_set (call : CompactCall) (bucket : Bucket) (text : String) :
    call.memoryStore.dayText
      (bucket.set call.compressedKey (AuditorAgent.strip text ++ "\n")) call.date =
        AuditorAgent.strip text ++ "\n" := by
  have ended : AuditorAgent.strip text ++ "\n" ≠ "" := by
    rw [Ne, String.append_eq_empty_iff]
    exact fun both => absurd both.2 (by decide)
  unfold dayText
  dsimp only
  rw [← CompactCall.compressedKey, Dict.get?_set_self, Option.getD_some, if_pos ended]

theorem keepsDay_of_saysSomething {bucket : Bucket} {event : MemoryEvent}
    (speaks : SaysSomething bucket event) : KeepsDay bucket event := by
  cases event with
  | compactDay call =>
      unfold KeepsDay
      dsimp only
      rcases bucket_of_runCompactDay call bucket with ⟨same, -⟩ | ⟨text, writes, set⟩
      · rw [same]
        exact ⟨rfl, id⟩
      · rw [set]
        refine ⟨get?_rawKey_of_set call bucket _, fun _ => ?_⟩
        rw [readsAsText_iff, dayText_of_set, isBlank_strip_append]
        exact speaks text writes
  | appendToToday => trivial
  | appendLesson => trivial
  | appendRecommendation => trivial

/-- A blank answer that is kept leaves a day that cannot be read. -/
theorem saysSomething_of_readable {bucket : Bucket} {event : MemoryEvent}
    (readable : Readable (step bucket event)) : SaysSomething bucket event := by
  cases event with
  | compactDay call =>
      intro text writes
      rcases bucket_of_runCompactDay call bucket with ⟨-, silent⟩ | ⟨kept, wrote, set⟩
      · exact absurd writes (silent text)
      · have same : text = kept := by
          obtain ⟨tokens, answered⟩ := writes.answered
          obtain ⟨others, again⟩ := wrote.answered
          cases answered.symm.trans again
          rfl
        have raw : ((runCompactDay call bucket).2.get? call.rawKey).getD "" = call.raw bucket := by
          rw [set, get?_rawKey_of_set]
          rfl
        have reads := readable call.memoryStore call.date (raw ▸ writes.notBlank)
        rw [readsAsText_iff] at reads
        change isBlank (call.memoryStore.dayText (runCompactDay call bucket).2 call.date) = false
          at reads
        rw [set, dayText_of_set, isBlank_strip_append] at reads
        rw [same]
        exact reads
  | appendToToday => trivial
  | appendLesson => trivial
  | appendRecommendation => trivial

/-- **No blank day.** From a bucket without blank compressed files, no compaction
of a run costs a day its memory exactly if every answer of the model that is kept
is not blank. -/
theorem neverBlanks_iff {start : Bucket} (sound : Sound start) (events : List MemoryEvent) :
    NeverBlanks start events ↔ EachStep step SaysSomething start events := by
  constructor
  · rintro ⟨-, always⟩
    exact (Always.eachStep step always).mono step fun _ _ => saysSomething_of_readable
  · intro each
    have keeps : ∀ bucket event, Sound bucket → SaysSomething bucket event →
        Sound (step bucket event) := fun _ _ => Sound.step
    refine ⟨each.mono step fun _ _ => keepsDay_of_saysSomething, ?_⟩
    exact (always_of_eachStep step keeps sound each).mono step fun _ => Sound.readable

/-! ### A blank answer -/

def momentum : AgentMemoryStore :=
  { orgId := "acme", agentType := "strategy", agentId := "momentum" }

/-- The compaction of a day, whose calls answer and whose model says `text`. -/
def compacting (text : String) : CompactCall where
  memoryStore := momentum
  date := "2026-04-26"
  orgId := "acme"
  agentType := "strategy"
  agentId := "momentum"
  llmInvoker _ _ := .ok (text, 900, 0)
  faults _ := none
  fate := .stored

/-- A bot notes a trade, and its day is compacted. -/
def tradedDay (text : String) : List MemoryEvent :=
  [.appendToToday momentum 1777213997 "- 14:33 BUY SPY x10" (fun _ => none) .stored,
    .compactDay (compacting text)]

theorem neverBlanks_summary : NeverBlanks Dict.empty (tradedDay "# 2026-04-26\n- BUY SPY x10") := by
  refine (neverBlanks_iff Sound.empty _).mpr ⟨trivial, fun text writes => ?_, trivial⟩
  obtain ⟨tokens, answered⟩ := writes.answered
  cases answered
  decide

/-- After a blank answer the day reads as blank. -/
theorem not_neverBlanks_blankAnswer : ¬ NeverBlanks Dict.empty (tradedDay " \n") := by
  rintro ⟨-, always⟩
  have reads := Always.final step always momentum "2026-04-26" (by decide +kernel)
  have content : momentum.readCompressed (fun _ => none)
      (run step Dict.empty (tradedDay " \n")) "2026-04-26" = .ok "\n" := by
    rfl
  exact absurd (reads.compressed _ _ content) (by decide)

end TradingStrands.MemoryCompactor
