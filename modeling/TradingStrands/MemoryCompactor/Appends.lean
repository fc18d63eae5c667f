import TradingStrands.Foundation.DelimitedKey
import TradingStrands.MemoryCompactor.Readability

/-!
Owns what the files that agents append to hold after a run in which any number of
agents append and days are compacted. A file grows by one block of whole lines for
each append to it that is kept, and by nothing else: neither a compaction nor another
agent touches it, and an append that fails leaves it as it was.

A call is one step: each agent has one writer. The types and ids of agents are free
of the key's delimiter.
-/

namespace TradingStrands

open TradingStrands.Foundation

/-! ### Texts that grow by blocks -/

namespace AgentMemoryStore

/-- A block with its line ended. -/
def block (text : String) : String := if endsLine text = true then text else text ++ "\n"

/-- A file after blocks are appended. -/
def grown (current : String) (texts : List String) : String :=
  if texts = [] then current
  else (if current ≠ "" ∧ endsLine current = false then current ++ "\n" else current) ++
    String.join (texts.map block)

theorem appended_eq (current text : String) :
    appended current text =
      (if current ≠ "" ∧ endsLine current = false then current ++ "\n" else current) ++ block text :=
  rfl

theorem endsLine_append_block (front text : String) : endsLine (front ++ block text) = true := by
  unfold block
  split
  next ended =>
    unfold endsLine at ended ⊢
    rw [decide_eq_true_eq] at ended ⊢
    rw [String.toList_append, List.getLast?_append, ended]
    rfl
  next =>
    unfold endsLine
    rw [decide_eq_true_eq, ← String.append_assoc, String.toList_append, List.getLast?_append]
    rfl

theorem foldl_appended (current : String) (texts : List String) :
    texts.foldl appended current = grown current texts := by
  induction texts generalizing current with
  | nil => rfl
  | cons text rest inductionHypothesis =>
      have lineEnds := endsLine_append_block
        (if current ≠ "" ∧ endsLine current = false then current ++ "\n" else current) text
      rw [List.foldl_cons, inductionHypothesis, appended_eq]
      generalize hfront : (if current ≠ "" ∧ endsLine current = false then current ++ "\n"
        else current) = front at lineEnds
      unfold grown
      rw [if_neg (List.cons_ne_nil text rest), hfront, List.map_cons]
      by_cases last : rest = []
      · simp [last]
      · rw [if_neg last, if_neg fun both => absurd (both.2.symm.trans lineEnds) (by simp)]
        simp [String.append_assoc]

/-! ### The files of an agent -/

/-- A file that is appended to. -/
inductive MemoryFile
  /-- The raw file of the day a moment is on. -/
  | day (now : Int)
  | lessons
  | recommendations

def MemoryFile.name : MemoryFile → String
  | .day now => isoDate now ++ ".md"
  | .lessons => "lessons.md"
  | .recommendations => "recommendations.md"

def fileKey (store : AgentMemoryStore) (file : MemoryFile) : String :=
  store.lead ++ "/" ++ file.name

theorem fileKey_day (store : AgentMemoryStore) (now : Int) :
    store.fileKey (.day now) = store.dailyKey (isoDate now) .raw := by
  simp [fileKey, MemoryFile.name, dailyKey, DailyFileKind.suffix, String.append_assoc]

theorem fileKey_lessons (store : AgentMemoryStore) :
    store.fileKey .lessons = store.lessonsKey := by
  simp [fileKey, MemoryFile.name, lessonsKey, String.append_assoc]

theorem fileKey_recommendations (store : AgentMemoryStore) :
    store.fileKey .recommendations = store.recommendationsKey := by
  simp [fileKey, MemoryFile.name, recommendationsKey, String.append_assoc]

theorem not_isCompressedKey_fileKey (store : AgentMemoryStore) (file : MemoryFile) :
    ¬ IsCompressedKey (store.fileKey file) := by
  cases file with
  | day now =>
      rw [fileKey_day]
      exact not_isCompressedKey_day now
  | lessons =>
      rw [fileKey_lessons]
      exact not_isCompressedKey_lessons
  | recommendations =>
      rw [fileKey_recommendations]
      exact not_isCompressedKey_recommendations

theorem MemoryFile.name_freeOf (file : MemoryFile) : FreeOf '/' file.name := by
  cases file with
  | day now =>
      have date : FreeOf '/' (isoDate now) := isoDate_freeOf (by decide) (by decide) now
      unfold FreeOf name at *
      rw [String.toList_append, List.mem_append]
      rintro (inDate | inSuffix)
      · exact date inDate
      · exact absurd inSuffix (by decide)
  | lessons => exact (by decide : FreeOf '/' "lessons.md")
  | recommendations => exact (by decide : FreeOf '/' "recommendations.md")

/-- The parts of a key can be told apart. -/
structure Plain (store : AgentMemoryStore) : Prop where
  agentType : FreeOf '/' store.agentType
  agentId : FreeOf '/' store.agentId

theorem Plain.key_eq_iff {store other : AgentMemoryStore} (plain : store.Plain)
    (otherPlain : other.Plain) {name otherName : String} (free : FreeOf '/' name)
    (otherFree : FreeOf '/' otherName) :
    store.lead ++ "/" ++ name = other.lead ++ "/" ++ otherName ↔
      store = other ∧ name = otherName := by
  have isMark : "/".toList = ['/'] := rfl
  constructor
  · intro same
    obtain ⟨leads, names⟩ := joined_inj isMark free otherFree same
    obtain ⟨fronts, ids⟩ := joined_inj isMark plain.agentId otherPlain.agentId leads
    obtain ⟨orgs, types⟩ := joined_inj isMark plain.agentType otherPlain.agentType fronts
    cases store
    cases other
    exact ⟨(AgentMemoryStore.mk.injEq ..).mpr ⟨orgs, types, ids⟩, names⟩
  · rintro ⟨rfl, rfl⟩
    rfl

theorem Plain.fileKey_eq_iff {store other : AgentMemoryStore} (plain : store.Plain)
    (otherPlain : other.Plain) {file otherFile : MemoryFile} :
    store.fileKey file = other.fileKey otherFile ↔ store = other ∧ file.name = otherFile.name :=
  plain.key_eq_iff otherPlain file.name_freeOf otherFile.name_freeOf

end AgentMemoryStore

namespace MemoryCompactor

open AgentMemoryStore

/-! ### What an event adds to a file -/

/-- A call that appends to a file. -/
structure FileAppend where
  store : AgentMemoryStore
  file : MemoryFile
  text : String
  faults : ReadFaults
  fate : PutFate

def FileAppend.key (call : FileAppend) : String := call.store.fileKey call.file

/-- The file is read, and what it has become is kept. -/
def FileAppend.kept (call : FileAppend) : Bool :=
  (call.faults call.key).isNone && call.fate.keeps

def MemoryEvent.append? : MemoryEvent → Option FileAppend
  | .appendToToday store now text faults fate => some ⟨store, .day now, text, faults, fate⟩
  | .appendLesson store text faults fate => some ⟨store, .lessons, text, faults, fate⟩
  | .appendRecommendation store text faults fate =>
      some ⟨store, .recommendations, text, faults, fate⟩
  | .compactDay _ => none

/-- The contents of a key, empty if it is not there. -/
def textAt (bucket : Bucket) (key : String) : String := (bucket.get? key).getD ""

theorem step_of_append {event : MemoryEvent} {call : FileAppend}
    (appends : event.append? = some call) (bucket : Bucket) :
    step bucket event = (append call.faults bucket call.fate call.key call.text).2 := by
  cases event with
  | appendToToday store now text faults fate =>
      obtain rfl := Option.some.inj appends
      rw [FileAppend.key, fileKey_day]
      rfl
  | appendLesson store text faults fate =>
      obtain rfl := Option.some.inj appends
      rw [FileAppend.key, fileKey_lessons]
      rfl
  | appendRecommendation store text faults fate =>
      obtain rfl := Option.some.inj appends
      rw [FileAppend.key, fileKey_recommendations]
      rfl
  | compactDay call => cases appends

/-- An append that is kept adds its block to its file. -/
theorem textAt_append (call : FileAppend) (bucket : Bucket) (key : String) :
    textAt (append call.faults bucket call.fate call.key call.text).2 key =
      if call.key = key ∧ call.kept = true then appended (textAt bucket key) call.text
      else textAt bucket key := by
  unfold append AgentMemoryStore.read FileAppend.kept
  rcases call.faults call.key with - | error
  · dsimp only [Option.isNone_none, Bool.true_and]
    unfold AgentMemoryStore.write textAt
    rw [PutFate.snd_put]
    by_cases kept : call.fate.keeps = true
    · rw [if_pos kept, Dict.get?_set]
      by_cases own : key = call.key
      · rw [if_pos own, if_pos ⟨own.symm, kept⟩, own, Option.getD_some]
      · rw [if_neg own, if_neg fun both => own both.1.symm]
    · rw [if_neg kept, if_neg fun both => kept both.2]
  · exact (if_neg fun both => absurd both.2 (by simp)).symm

/-- What an append adds to a file of an agent. -/
def FileAppend.adds? (store : AgentMemoryStore) (file : MemoryFile) (call : FileAppend) :
    Option String :=
  if (call.store = store ∧ call.file.name = file.name) ∧ call.kept = true then some call.text else none

/-- What an event adds to a file of an agent. -/
def MemoryEvent.adds? (store : AgentMemoryStore) (file : MemoryFile) (event : MemoryEvent) :
    Option String :=
  event.append?.bind (·.adds? store file)

/-- The store of an event that appends is plain. -/
def MemoryEvent.Plain (event : MemoryEvent) : Prop :=
  ∀ call, event.append? = some call → call.store.Plain

theorem textAt_fileAppend {call : FileAppend} {store : AgentMemoryStore} (plain : store.Plain)
    (callPlain : call.store.Plain) (bucket : Bucket) (file : MemoryFile) :
    textAt (append call.faults bucket call.fate call.key call.text).2 (store.fileKey file) =
      run appended (textAt bucket (store.fileKey file)) (call.adds? store file).toList := by
  have own : call.key = store.fileKey file ↔ call.store = store ∧ call.file.name = file.name :=
    callPlain.fileKey_eq_iff plain
  unfold FileAppend.adds?
  rw [textAt_append]
  simp only [own]
  split <;> rfl

theorem textAt_step {event : MemoryEvent} {store : AgentMemoryStore} (plain : store.Plain)
    (eventPlain : event.Plain) (bucket : Bucket) (file : MemoryFile) :
    textAt (step bucket event) (store.fileKey file) =
      run appended (textAt bucket (store.fileKey file)) (event.adds? store file).toList := by
  unfold MemoryEvent.adds?
  cases appends : event.append? with
  | some call =>
      rw [step_of_append appends, Option.bind_some]
      exact textAt_fileAppend plain (eventPlain call appends) bucket file
  | none =>
      cases event with
      | compactDay call =>
          show textAt (runCompactDay call bucket).2 _ = textAt bucket _
          rcases bucket_of_runCompactDay call bucket with ⟨same, -⟩ | ⟨text, -, set⟩
          · rw [same]
          · have different : store.fileKey file ≠ call.compressedKey := fun same =>
              not_isCompressedKey_fileKey store file (same ▸ isCompressedKey_dailyKey)
            unfold textAt
            rw [set, Dict.get?_set_of_ne _ _ different]
      | appendToToday | appendLesson | appendRecommendation => cases appends

/-- A file takes up what is kept for it. -/
theorem textAt_run {events : List MemoryEvent} (eventsPlain : ∀ event ∈ events, event.Plain)
    {store : AgentMemoryStore} (plain : store.Plain) (file : MemoryFile) (start : Bucket) :
    textAt (run step start events) (store.fileKey file) =
      run appended (textAt start (store.fileKey file)) (events.filterMap (·.adds? store file)) :=
  run_view step (fun bucket => textAt bucket (store.fileKey file))
    (fun bucket event member => textAt_step plain (eventsPlain event member) bucket file) start

/-- After any run a file has grown by the blocks that were kept for it, in order, each
with its line ended, whatever becomes of other appends and of compactions. -/
theorem memoryFile_run {events : List MemoryEvent} (eventsPlain : ∀ event ∈ events, event.Plain)
    {store : AgentMemoryStore} (plain : store.Plain) (file : MemoryFile) (start : Bucket) :
    textAt (run step start events) (store.fileKey file) =
      grown (textAt start (store.fileKey file)) (events.filterMap (·.adds? store file)) := by
  rw [← foldl_appended]
  exact textAt_run eventsPlain plain file start

/-- A lost write, another agent and a compaction between two lines of a day. -/
def notedDay : List MemoryEvent :=
  [.appendToToday momentum 1777213997 "- 14:33 BUY SPY x10" (fun _ => none) .stored,
    .appendToToday momentum 1777213998 "- 14:34 SELL SPY x1" (fun _ => none)
      (.raises (.external "timeout") false),
    .appendToToday { momentum with agentId := "other" } 1777213998 "- 14:35" (fun _ => none)
      .stored,
    .compactDay (compacting "# 2026-04-26"),
    .appendToToday momentum 1777213999 "- 14:36 HOLD SPY x0" (fun _ => none) .stored]

theorem memoryFile_run_notedDay :
    textAt (run step Dict.empty notedDay) (momentum.fileKey (.day 1777213997)) =
      "- 14:33 BUY SPY x10\n- 14:36 HOLD SPY x0\n" := by
  refine (memoryFile_run ?_ ⟨by decide, by decide⟩ _ _).trans (by decide +kernel)
  intro event member call appends
  simp only [notedDay, List.mem_cons, List.not_mem_nil, or_false] at member
  rcases member with rfl | rfl | rfl | rfl | rfl <;> cases appends <;>
    exact ⟨by decide, by decide⟩

end MemoryCompactor

end TradingStrands
