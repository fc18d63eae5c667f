import TradingStrands.Auditor.Reconciler
import TradingStrands.Foundation.Scaled

/-!
Owns the position check with the quantities as they are carried, so that the text
of its details is the one that is printed. The check is settled by the total of
each symbol on each side: its status depends on the values of these alone, its text
also on how many decimal places the rows of a symbol have. A total is a sum of the
decimal context, so it is the exact sum, in any order, only while no sum on the way
is rounded.

`reconcilePositions_values` connects it to the check over plain values.
-/

namespace TradingStrands.Auditor

open TradingStrands.Foundation

/-- A position of a ledger or of the broker, as far as the check reads it. -/
structure CarriedPosition where
  symbol : Symbol
  quantity : Scaled
deriving DecidableEq, Repr

def CarriedPosition.posting (position : CarriedPosition) : Symbol × Decimal :=
  (position.symbol, position.quantity.value)

/-- The open positions of each bot's ledger. -/
abbrev CarriedLedgers : Type := Dict BotId (List CarriedPosition)

/-- Add a position to the total of its symbol. -/
def accumulate (totals : Dict Symbol Scaled) (position : CarriedPosition) : Dict Symbol Scaled :=
  totals.set position.symbol (((totals.get? position.symbol).getD .zero).plus position.quantity)

def totalsOf (positions : List CarriedPosition) : Dict Symbol Scaled :=
  positions.foldl accumulate Dict.empty

/-- A symbol with its total on each side. -/
structure Mismatch where
  symbol : Symbol
  ledgerQty : Scaled
  brokerQty : Scaled
deriving DecidableEq, Repr

/-- The entry of a mismatch in the details. -/
def Mismatch.text (mismatch : Mismatch) : String :=
  mismatch.symbol ++ ": ledger=" ++ mismatch.ledgerQty.text ++ ", broker=" ++
    mismatch.brokerQty.text

def mismatches (ledgers : CarriedLedgers) (brokerPositions : List CarriedPosition) :
    List Mismatch :=
  let ledgerTotals := totalsOf ledgers.values.flatten
  let brokerTotals := totalsOf brokerPositions
  let allSymbols := (ledgerTotals.keys ++ brokerTotals.keys).dedup.insertionSort (· ≤ ·)
  (allSymbols.map fun symbol =>
    { symbol, ledgerQty := (ledgerTotals.get? symbol).getD .zero,
      brokerQty := (brokerTotals.get? symbol).getD .zero : Mismatch }).filter
    fun mismatch => mismatch.ledgerQty.value ≠ mismatch.brokerQty.value

structure PrintedCheck where
  status : CheckStatus
  details : String := ""
deriving DecidableEq, Repr

/-- Compare aggregate ledger positions against broker positions. -/
def reconcilePositions (ledgers : CarriedLedgers) (brokerPositions : List CarriedPosition) :
    PrintedCheck :=
  let mismatches := mismatches ledgers brokerPositions
  if mismatches = [] then { status := .pass }
  else { status := .fail, details := "; ".intercalate (mismatches.map Mismatch.text) }

/-! ### Totals -/

/-- The quantities of a symbol, as they are listed. -/
def rows (positions : List CarriedPosition) (symbol : Symbol) : List Scaled :=
  (positions.filter fun position => position.symbol = symbol).map (·.quantity)

/-- The total of a symbol over positions. -/
def total (positions : List CarriedPosition) (symbol : Symbol) : Scaled :=
  .total .zero (rows positions symbol)

/-- The quantity of a symbol over positions. -/
def quantity (positions : List CarriedPosition) (symbol : Symbol) : Decimal :=
  balance (positions.map CarriedPosition.posting) symbol

/-- No sum on the way to a total is rounded. -/
def Unrounded (positions : List CarriedPosition) : Prop :=
  ∀ symbol, Scaled.Unrounded .zero (rows positions symbol)

theorem totalsOf_spec (positions : List CarriedPosition) (symbol : Symbol) :
    ((totalsOf positions).get? symbol).getD .zero = total positions symbol ∧
      (symbol ∈ (totalsOf positions).keys ↔ symbol ∈ positions.map (·.symbol)) := by
  induction positions using List.reverseRecOn with
  | nil => exact ⟨rfl, Iff.rfl⟩
  | append_singleton positions position inductionHypothesis =>
      obtain ⟨sums, keys⟩ := inductionHypothesis
      have step : totalsOf (positions ++ [position]) =
          accumulate (totalsOf positions) position := by
        unfold totalsOf
        rw [List.foldl_concat]
      rw [step]
      unfold accumulate
      refine ⟨?_, ?_⟩
      · unfold total rows at sums ⊢
        rw [Dict.get?_set]
        by_cases own : symbol = position.symbol
        · subst own
          rw [if_pos rfl, Option.getD_some, sums, List.filter_append, List.map_append]
          simp [Scaled.total_concat]
        · rw [if_neg own, sums, List.filter_append]
          simp [Ne.symm own]
      · rw [Dict.mem_keys_set_iff, keys, List.map_append, List.mem_append, List.map_singleton,
          List.mem_singleton, or_comm]

/-- The value of a total is the sum that the context makes of the rows. -/
theorem value_total (positions : List CarriedPosition) (symbol : Symbol) :
    (total positions symbol).value =
      ((rows positions symbol).map Scaled.value).foldl DecimalContext.default.add 0 := by
  unfold total
  rw [Scaled.value_total, Scaled.value_zero]

theorem total_of_notMem {positions : List CarriedPosition} {symbol : Symbol}
    (absent : symbol ∉ positions.map (·.symbol)) : total positions symbol = .zero := by
  have none : rows positions symbol = [] := by
    unfold rows
    rw [List.map_eq_nil_iff, List.filter_eq_nil_iff]
    intro position member same
    exact absent (List.mem_map.mpr ⟨position, member, of_decide_eq_true same⟩)
  unfold total
  rw [none]
  rfl

/-- Without rounding a total is the sum of the rows. -/
theorem Unrounded.value_total {positions : List CarriedPosition} (unrounded : Unrounded positions)
    (symbol : Symbol) : (total positions symbol).value = quantity positions symbol := by
  unfold total quantity balance
  rw [Scaled.total_eq_sum (unrounded symbol), Scaled.value_sum, Scaled.value_zero, zero_add]
  unfold rows
  rw [List.filter_map, List.map_map, List.map_map]
  rfl

theorem Unrounded.total_perm {left right : List CarriedPosition} (unrounded : Unrounded left)
    (alsoUnrounded : Unrounded right) (permutation : left.Perm right) (symbol : Symbol) :
    total left symbol = total right symbol := by
  unfold total
  rw [Scaled.total_eq_sum (unrounded symbol), Scaled.total_eq_sum (alsoUnrounded symbol)]
  exact Scaled.sum_perm _ ((permutation.filter _).map _)

/-! ### Mismatches -/

/-- Sorted keys that pass a test are settled by the test, if every key that
passes is listed. -/
theorem filter_sorted_eq {left right : List Symbol} {test : Symbol → Bool}
    (lefts : ∀ symbol, test symbol = true → symbol ∈ left)
    (rights : ∀ symbol, test symbol = true → symbol ∈ right) :
    (left.dedup.insertionSort (· ≤ ·)).filter test =
      (right.dedup.insertionSort (· ≤ ·)).filter test := by
  have nodup : ∀ keys : List Symbol, ((keys.dedup.insertionSort (· ≤ ·)).filter test).Nodup :=
    fun keys => ((List.perm_insertionSort _ _).nodup_iff.mpr keys.nodup_dedup).filter _
  have sorted : ∀ keys : List Symbol,
      ((keys.dedup.insertionSort (· ≤ ·)).filter test).Pairwise (· ≤ ·) :=
    fun keys => (List.pairwise_insertionSort _ _).filter _
  refine List.Perm.eq_of_pairwise' (sorted left) (sorted right) ?_
  rw [List.perm_ext_iff_of_nodup (nodup left) (nodup right)]
  intro symbol
  rw [List.mem_filter, List.mem_filter, List.mem_insertionSort, List.mem_insertionSort,
    List.mem_dedup, List.mem_dedup]
  exact ⟨fun both => ⟨rights symbol both.2, both.2⟩, fun both => ⟨lefts symbol both.2, both.2⟩⟩

section Books

variable (ledgers : CarriedLedgers) (brokerPositions : List CarriedPosition)

/-- The symbols with different totals on the two sides, in order. -/
def differing : List Symbol :=
  ((ledgers.values.flatten ++ brokerPositions).map (·.symbol)).dedup.insertionSort (· ≤ ·)
    |>.filter fun symbol =>
      (total ledgers.values.flatten symbol).value ≠ (total brokerPositions symbol).value

variable {ledgers brokerPositions}

theorem mem_symbols_of_differs {symbol : Symbol}
    (differs : (total ledgers.values.flatten symbol).value ≠ (total brokerPositions symbol).value) :
    symbol ∈ (ledgers.values.flatten ++ brokerPositions).map (·.symbol) := by
  rw [List.map_append, List.mem_append]
  by_contra absent
  rw [not_or] at absent
  rw [total_of_notMem absent.1, total_of_notMem absent.2] at differs
  exact differs rfl

/-- The mismatches are the differing symbols with their totals. -/
theorem mismatches_eq : mismatches ledgers brokerPositions =
    (differing ledgers brokerPositions).map fun symbol =>
      ⟨symbol, total ledgers.values.flatten symbol, total brokerPositions symbol⟩ := by
  unfold mismatches differing
  dsimp only
  simp only [(totalsOf_spec _ _).1, List.filter_map, Function.comp_def]
  refine congrArg (List.map _) (filter_sorted_eq (fun symbol test => ?_) fun symbol test => ?_)
  · have present := mem_symbols_of_differs (of_decide_eq_true test)
    rw [List.map_append, List.mem_append] at present
    rw [List.mem_append, (totalsOf_spec _ _).2, (totalsOf_spec _ _).2]
    exact present
  · exact mem_symbols_of_differs (of_decide_eq_true test)

theorem mem_differing_iff {symbol : Symbol} : symbol ∈ differing ledgers brokerPositions ↔
    (total ledgers.values.flatten symbol).value ≠ (total brokerPositions symbol).value := by
  unfold differing
  rw [List.mem_filter, List.mem_insertionSort, List.mem_dedup, decide_eq_true_iff]
  exact ⟨And.right, fun differs => ⟨mem_symbols_of_differs differs, differs⟩⟩

/-- The check passes exactly when the totals of every symbol are equal. -/
theorem status_pass_iff : (reconcilePositions ledgers brokerPositions).status = .pass ↔
    ∀ symbol, (total ledgers.values.flatten symbol).value = (total brokerPositions symbol).value := by
  have none : mismatches ledgers brokerPositions = [] ↔ ∀ symbol,
      (total ledgers.values.flatten symbol).value = (total brokerPositions symbol).value := by
    rw [mismatches_eq, List.map_eq_nil_iff, List.eq_nil_iff_forall_not_mem]
    refine forall_congr' fun symbol => ?_
    rw [mem_differing_iff, not_not]
  rw [← none]
  unfold reconcilePositions
  dsimp only
  split
  next empty => exact iff_of_true rfl empty
  next some => exact iff_of_false (by simp) some

/-- Rounded or not, the check passes exactly when the context makes the same sum of
the rows of both sides. -/
theorem status_pass_iff_sums : (reconcilePositions ledgers brokerPositions).status = .pass ↔
    ∀ symbol,
      ((rows ledgers.values.flatten symbol).map Scaled.value).foldl DecimalContext.default.add 0 =
        ((rows brokerPositions symbol).map Scaled.value).foldl DecimalContext.default.add 0 := by
  rw [status_pass_iff]
  simp only [value_total]

/-- Books with totals of the same values differ in the same symbols. -/
theorem differing_congr {otherLedgers : CarriedLedgers} {otherPositions : List CarriedPosition}
    (ledgerSide : ∀ symbol, (total otherLedgers.values.flatten symbol).value =
      (total ledgers.values.flatten symbol).value)
    (brokerSide : ∀ symbol, (total otherPositions symbol).value =
      (total brokerPositions symbol).value) :
    differing otherLedgers otherPositions = differing ledgers brokerPositions := by
  unfold differing
  simp only [ledgerSide, brokerSide]
  refine filter_sorted_eq (fun symbol test => ?_) fun symbol test => ?_
  · have differs := of_decide_eq_true test
    rw [← ledgerSide, ← brokerSide] at differs
    exact mem_symbols_of_differs differs
  · exact mem_symbols_of_differs (of_decide_eq_true test)

/-- Books with the same totals, digits included, give the same check. -/
theorem reconcilePositions_congr {otherLedgers : CarriedLedgers}
    {otherPositions : List CarriedPosition}
    (ledgerSide : ∀ symbol, total otherLedgers.values.flatten symbol =
      total ledgers.values.flatten symbol)
    (brokerSide : ∀ symbol, total otherPositions symbol = total brokerPositions symbol) :
    reconcilePositions otherLedgers otherPositions =
      reconcilePositions ledgers brokerPositions := by
  have ledgerValues := fun symbol => congrArg Scaled.value (ledgerSide symbol)
  have brokerValues := fun symbol => congrArg Scaled.value (brokerSide symbol)
  have same : mismatches otherLedgers otherPositions = mismatches ledgers brokerPositions := by
    rw [mismatches_eq, mismatches_eq, differing_congr ledgerValues brokerValues]
    simp only [ledgerSide, brokerSide]
  unfold reconcilePositions
  rw [same]

end Books

/-- A mismatch in plain values. -/
def Mismatch.values (mismatch : Mismatch) : Symbol × Decimal × Decimal :=
  (mismatch.symbol, mismatch.ledgerQty.value, mismatch.brokerQty.value)

/-- While no total is rounded on the way: the check passes exactly when both sides
hold the same of every symbol. It does not depend on the order of ledgers, positions
and broker rows. However the quantities are split, the status and the symbols and
quantities of the details are the same, and so is the text if the rows of each
symbol have as many decimal places at most. -/
theorem reconcilePositions_books (ledgers : CarriedLedgers)
    (brokerPositions : List CarriedPosition) (ledgersKept : Unrounded ledgers.values.flatten)
    (brokerKept : Unrounded brokerPositions) :
    ((reconcilePositions ledgers brokerPositions).status = .pass ↔
      ∀ symbol, quantity ledgers.values.flatten symbol = quantity brokerPositions symbol) ∧
    ∀ (otherLedgers : CarriedLedgers) (otherPositions : List CarriedPosition),
      Unrounded otherLedgers.values.flatten → Unrounded otherPositions →
      (otherLedgers.values.flatten.Perm ledgers.values.flatten →
        otherPositions.Perm brokerPositions →
          reconcilePositions otherLedgers otherPositions =
            reconcilePositions ledgers brokerPositions) ∧
      ((∀ symbol, quantity otherLedgers.values.flatten symbol =
          quantity ledgers.values.flatten symbol) →
        (∀ symbol, quantity otherPositions symbol = quantity brokerPositions symbol) →
          (reconcilePositions otherLedgers otherPositions).status =
            (reconcilePositions ledgers brokerPositions).status ∧
          (mismatches otherLedgers otherPositions).map Mismatch.values =
            (mismatches ledgers brokerPositions).map Mismatch.values ∧
          ((∀ symbol, (total otherLedgers.values.flatten symbol).exponent =
              (total ledgers.values.flatten symbol).exponent) →
            (∀ symbol, (total otherPositions symbol).exponent =
              (total brokerPositions symbol).exponent) →
            reconcilePositions otherLedgers otherPositions =
              reconcilePositions ledgers brokerPositions)) := by
  refine ⟨?_, fun otherLedgers otherPositions otherKept otherBrokerKept => ⟨?_, ?_⟩⟩
  · rw [status_pass_iff]
    simp only [ledgersKept.value_total, brokerKept.value_total]
  · intro ledgerOrder brokerOrder
    exact reconcilePositions_congr (otherKept.total_perm ledgersKept ledgerOrder)
      (otherBrokerKept.total_perm brokerKept brokerOrder)
  · intro ledgerSide brokerSide
    have ledgerValues : ∀ symbol, (total otherLedgers.values.flatten symbol).value =
        (total ledgers.values.flatten symbol).value := by
      intro symbol
      rw [otherKept.value_total, ledgersKept.value_total, ledgerSide]
    have brokerValues : ∀ symbol, (total otherPositions symbol).value =
        (total brokerPositions symbol).value := by
      intro symbol
      rw [otherBrokerKept.value_total, brokerKept.value_total, brokerSide]
    refine ⟨?_, ?_, fun ledgerPlaces brokerPlaces => ?_⟩
    · have passes : (reconcilePositions otherLedgers otherPositions).status = .pass ↔
          (reconcilePositions ledgers brokerPositions).status = .pass := by
        rw [status_pass_iff, status_pass_iff]
        simp only [ledgerValues, brokerValues]
      cases here : (reconcilePositions ledgers brokerPositions).status <;>
        cases there : (reconcilePositions otherLedgers otherPositions).status <;>
        simp [here, there] at passes ⊢
    · rw [mismatches_eq, mismatches_eq, differing_congr ledgerValues brokerValues, List.map_map,
        List.map_map]
      refine List.map_congr_left fun symbol _ => ?_
      simp only [Function.comp_apply, Mismatch.values, ledgerValues, brokerValues]
    · exact reconcilePositions_congr
        (fun symbol => Scaled.ext_value (ledgerValues symbol) (ledgerPlaces symbol))
        (fun symbol => Scaled.ext_value (brokerValues symbol) (brokerPlaces symbol))

/-- Three shares in one ledger agree with the broker's two halves. -/
theorem reconcilePositions_books_halves :
    let whole : CarriedLedgers := Dict.empty.set "bot" [⟨"AAPL", ⟨3, 0⟩⟩]
    let halves : List CarriedPosition := [⟨"AAPL", ⟨15, -1⟩⟩, ⟨"AAPL", ⟨15, -1⟩⟩]
    (reconcilePositions whole halves).status = .pass := by
  intro whole halves
  have wholeRows : whole.values.flatten = [⟨"AAPL", ⟨3, 0⟩⟩] := rfl
  refine (reconcilePositions_books whole halves (fun symbol => ?_) fun symbol => ?_).1.mpr
    fun symbol => ?_
  · rw [wholeRows]
    by_cases own : "AAPL" = symbol
    · subst own
      decide +kernel
    · simp [rows, own, Scaled.Unrounded]
  · by_cases own : "AAPL" = symbol
    · subst own
      decide +kernel
    · simp [halves, rows, own, Scaled.Unrounded]
  · rw [wholeRows]
    by_cases own : "AAPL" = symbol
    · subst own
      decide +kernel
    · simp [halves, quantity, balance, CarriedPosition.posting, own]

/-- Three shares in one ledger and in two halves print differently. One share and
two halves of a last place are one share to the check if the whole share comes
first, and more if it comes last. -/
theorem check_of_halves_and_orders :
    let whole : CarriedLedgers := Dict.empty.set "bot" [⟨"AAPL", ⟨3, 0⟩⟩]
    let halves : CarriedLedgers :=
      (Dict.empty.set "bot" [⟨"AAPL", ⟨15, -1⟩⟩]).set "other" [⟨"AAPL", ⟨15, -1⟩⟩]
    let wholeFirst : List CarriedPosition :=
      [⟨"AAPL", ⟨1, 0⟩⟩, ⟨"AAPL", ⟨5, -28⟩⟩, ⟨"AAPL", ⟨5, -28⟩⟩]
    let broker : List CarriedPosition := [⟨"AAPL", ⟨1, 0⟩⟩]
    (∀ symbol, quantity halves.values.flatten symbol = quantity whole.values.flatten symbol) ∧
      (reconcilePositions whole []).details = "AAPL: ledger=3, broker=0" ∧
      (reconcilePositions halves []).details = "AAPL: ledger=3.0, broker=0" ∧
      quantity wholeFirst "AAPL" ≠ quantity broker "AAPL" ∧
      (reconcilePositions (Dict.empty.set "bot" wholeFirst) broker).status = .pass ∧
      (reconcilePositions (Dict.empty.set "bot" wholeFirst.reverse) broker).status = .fail := by
  intro whole halves wholeFirst broker
  have wholeRows : whole.values.flatten.map CarriedPosition.posting = [("AAPL", 3)] := by
    decide +kernel
  have halvesRows : halves.values.flatten.map CarriedPosition.posting =
      [("AAPL", 3 / 2), ("AAPL", 3 / 2)] := by
    decide +kernel
  refine ⟨fun symbol => ?_, by decide +kernel, by decide +kernel, by decide +kernel,
    by decide +kernel, by decide +kernel⟩
  unfold quantity
  rw [wholeRows, halvesRows, balance_cons, balance_singleton, balance_singleton,
    ← contribution_add]
  norm_num

/-! ### The check over plain values -/

/-- Over plain values the check is the one with the quantities of the rows, while no
total is rounded. -/
theorem reconcilePositions_values (reconciler : Reconciler) {ledgers : Dict BotId Ledger}
    {brokerPositions : List BrokerPosition} {carried : CarriedLedgers}
    {carriedPositions : List CarriedPosition}
    (ledgerSide : ledgerPostings ledgers = carried.values.flatten.map CarriedPosition.posting)
    (brokerSide : brokerPositions.map BrokerPosition.posting =
      carriedPositions.map CarriedPosition.posting)
    (ledgersKept : Unrounded carried.values.flatten) (brokerKept : Unrounded carriedPositions) :
    reconciler.reconcilePositions ledgers brokerPositions =
      { status := (reconcilePositions carried carriedPositions).status
        details := List.flatten ((((mismatches carried carriedPositions).map Mismatch.values).map
          fun values => mismatch values.1 values.2.1 values.2.2).intersperse [.text "; "]) } := by
  have symbols : differing carried carriedPositions =
      (((ledgerPostings ledgers ++ brokerPositions.map BrokerPosition.posting).map
        Prod.fst).dedup.insertionSort (· ≤ ·)).filter fun symbol =>
          balance (ledgerPostings ledgers) symbol ≠
            balance (brokerPositions.map BrokerPosition.posting) symbol := by
    unfold differing
    simp only [ledgersKept.value_total, brokerKept.value_total]
    unfold quantity
    rw [ledgerSide, brokerSide, ← List.map_append, List.map_map]
    rfl
  have values : (mismatches carried carriedPositions).map Mismatch.values =
      (differing carried carriedPositions).map fun symbol =>
        (symbol, balance (ledgerPostings ledgers) symbol,
          balance (brokerPositions.map BrokerPosition.posting) symbol) := by
    rw [mismatches_eq, List.map_map, ledgerSide, brokerSide]
    refine List.map_congr_left fun symbol _ => ?_
    simp only [Function.comp_apply, Mismatch.values, ledgersKept.value_total,
      brokerKept.value_total]
    rfl
  rw [values, List.map_map, symbols]
  unfold Reconciler.reconcilePositions reconcilePositions
  rw [mismatches_eq, symbols]
  simp only [List.map_eq_nil_iff]
  split
  next empty => rw [empty]; rfl
  next some => rfl

end TradingStrands.Auditor
