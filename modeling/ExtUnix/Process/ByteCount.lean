import ExtUnix.Process.Rlimit
import Mathlib

namespace ExtUnix.Process

/-! The texts of `Rlimit`: `string_of_bytes` and its reading.  That a printed
integer reads back is proved in `Std`, of which only the whole of Mathlib
imports that part. -/

namespace Rlimit

/-- `Printf.sprintf "%Ld"` and `Int64.to_string`. -/
def sprintfLd (n : BitVec 64) : String := toString n.toInt

def bytesStep : BitVec 64 × List String → String → BitVec 64 × List String
  | (sz, acc), e =>
      let q := sz.sdiv 1024
      let r := sz.srem 1024
      let acc := if r ≠ 0 then (sprintfLd r ++ " " ++ e) :: acc else acc
      (q, acc)

def stringOfBytes (n : BitVec 64) : String :=
  let (sz, acc) := ["B", "KB", "MB", "GB"].foldl bytesStep (n, [])
  let acc := if sz ≠ 0 then (sprintfLd sz ++ " TB") :: acc else acc
  match acc with
  | [] => "0 B"
  | acc => " ".intercalate acc

def toText (r : Option Resource) : Rlimit → String
  | none => "infinity"
  | some l =>
      match r with
      | none => sprintfLd l
      | some .RLIMIT_CORE
      | some .RLIMIT_DATA
      | some .RLIMIT_FSIZE
      | some .RLIMIT_STACK
      | some .RLIMIT_AS => stringOfBytes l
      | some .RLIMIT_NOFILE => sprintfLd l
      | some .RLIMIT_CPU => sprintfLd l ++ " s"

/-! Reading a text back, as coefficients each followed by a unit. -/

def unitNames : List String := ["B", "KB", "MB", "GB", "TB"]

instance : NeZero unitNames.length := ⟨by decide⟩

structure Amount where
  coefficient : Int
  unit : Fin unitNames.length
  deriving DecidableEq

def Amount.bytes (amount : Amount) : Int :=
  amount.coefficient * 1024 ^ amount.unit.val

def totalBytes (amounts : List Amount) : Int := (amounts.map Amount.bytes).sum

def readFields : List String → Option (List Amount)
  | [] => some []
  | [_] => none
  | coefficient :: unit :: rest =>
      match coefficient.toInt?, unitNames.finIdxOf? unit, readFields rest with
      | some coefficient, some unit, some amounts =>
          some (⟨coefficient, unit⟩ :: amounts)
      | _, _, _ => none

def readAmounts (text : String) : Option (List Amount) :=
  readFields ((text.toList.splitOn ' ').map String.ofList)

def Amount.fields (amount : Amount) : List String :=
  [toString amount.coefficient, unitNames.get amount.unit]

def Amount.text (amount : Amount) : String :=
  toString amount.coefficient ++ " " ++ unitNames.get amount.unit

theorem readFields_fields (amounts : List Amount) :
    readFields (amounts.flatMap Amount.fields) = some amounts := by
  induction amounts with
  | nil => rfl
  | cons amount rest induction =>
      have unit : unitNames.finIdxOf? (unitNames.get amount.unit) =
          some amount.unit := by
        generalize amount.unit = unit
        revert unit
        decide
      rw [List.flatMap_cons, Amount.fields, List.cons_append, List.cons_append,
        List.nil_append, readFields, unit, induction, Int.toString_eq_repr,
        Int.toInt?_repr]

theorem digit_or_minus_of_mem_repr {value : Int} {char : Char}
    (member : char ∈ value.repr.toList) : char.isDigit = true ∨ char = '-' := by
  have digits {count : Nat} (member : char ∈ count.repr.toList) :
      char.isDigit = true := by
    rw [Nat.toList_repr] at member
    exact Nat.isDigit_of_mem_toDigits (by decide) (by decide) member
  rw [Int.repr_eq_if] at member
  split_ifs at member
  · exact .inl (digits member)
  · rw [String.toList_append, List.mem_append] at member
    obtain minus | member := member
    · exact .inr (by simpa using minus)
    · exact .inl (digits member)

theorem space_notMem_fields {amount : Amount} {field : String}
    (member : field ∈ amount.fields) : ' ' ∉ field.toList := by
  rw [Amount.fields, List.mem_cons, List.mem_singleton] at member
  obtain rfl | rfl := member
  · intro space
    exact absurd (digit_or_minus_of_mem_repr space) (by decide)
  · generalize amount.unit = unit
    revert unit
    decide

theorem intercalate_text (amounts : List Amount) :
    " ".intercalate (amounts.map Amount.text) =
      " ".intercalate (amounts.flatMap Amount.fields) := by
  induction amounts with
  | nil => rfl
  | cons amount rest induction =>
      cases rest with
      | nil => rfl
      | cons next rest =>
          have later : (next :: rest).flatMap Amount.fields ≠ [] := by
            simp [Amount.fields]
          have split : (amount :: next :: rest).flatMap Amount.fields =
              toString amount.coefficient :: unitNames.get amount.unit ::
                (next :: rest).flatMap Amount.fields := rfl
          rw [List.map_cons, String.intercalate_cons_of_ne_nil (by simp),
            induction, split, String.intercalate_cons_of_ne_nil (by simp),
            String.intercalate_cons_of_ne_nil later, Amount.text]
          simp only [String.append_assoc]

theorem readAmounts_intercalate {amounts : List Amount}
    (nonempty : amounts ≠ []) :
    readAmounts (" ".intercalate (amounts.map Amount.text)) =
      some amounts := by
  have fields : (amounts.flatMap Amount.fields).map String.toList ≠ [] := by
    cases amounts with
    | nil => exact absurd rfl nonempty
    | cons amount rest => simp [Amount.fields]
  have spaceless : ∀ chars ∈ (amounts.flatMap Amount.fields).map String.toList,
      ' ' ∉ chars := by
    intro chars member
    obtain ⟨field, listed, rfl⟩ := List.mem_map.mp member
    obtain ⟨amount, -, within⟩ := List.mem_flatMap.mp listed
    exact space_notMem_fields within
  have space : " ".toList = [' '] := by decide
  rw [intercalate_text, readAmounts, String.toList_intercalate, space,
    List.splitOn_intercalate ' ' spaceless fields, List.map_map,
    show String.ofList ∘ String.toList = id from funext fun _ => by simp,
    List.map_id, readFields_fields]

/-- What holds when the loop has come to the unit `count`. -/
structure Counted (n : Int) (count : Nat) (sz : Int) (amounts : List Amount) :
    Prop where
  total : n = sz * 1024 ^ count + totalBytes amounts
  below : ∀ amount ∈ amounts, amount.unit.val < count
  decreasing : amounts.Pairwise fun amount later => later.unit < amount.unit
  nonneg : 0 ≤ n → 0 ≤ sz
  digit : 0 ≤ n → ∀ amount ∈ amounts,
    1 ≤ amount.coefficient ∧ amount.coefficient ≤ 1023

theorem Counted.cons {n sz : Int} {count : Nat} {amounts : List Amount}
    {unit : Fin unitNames.length} (position : unit.val = count)
    (counted : Counted n count sz amounts) {q r : Int} (parts : sz = q * 1024 + r)
    (quotient : 0 ≤ sz → 0 ≤ q)
    (remainder : 0 ≤ sz → 1 ≤ r ∧ r ≤ 1023) :
    Counted n (count + 1) q (⟨r, unit⟩ :: amounts) where
  total := by
    rw [totalBytes, List.map_cons, List.sum_cons, Amount.bytes, position,
      counted.total, totalBytes, parts]
    ring
  below := by
    intro amount member
    obtain rfl | member := List.mem_cons.mp member
    · exact position ▸ Nat.lt_succ_self count
    · exact Nat.lt_succ_of_lt (counted.below amount member)
  decreasing := by
    refine List.pairwise_cons.mpr ⟨fun amount member => ?_, counted.decreasing⟩
    exact Fin.lt_def.mpr (position ▸ counted.below amount member)
  nonneg := fun known => quotient (counted.nonneg known)
  digit := by
    intro known amount member
    obtain rfl | member := List.mem_cons.mp member
    · exact remainder (counted.nonneg known)
    · exact counted.digit known amount member

theorem Counted.skip {n sz : Int} {count : Nat} {amounts : List Amount}
    (counted : Counted n count sz amounts) {q : Int} (parts : sz = q * 1024)
    (quotient : 0 ≤ sz → 0 ≤ q) : Counted n (count + 1) q amounts where
  total := by
    rw [counted.total, parts]
    ring
  below := fun amount member => Nat.lt_succ_of_lt (counted.below amount member)
  decreasing := counted.decreasing
  nonneg := fun known => quotient (counted.nonneg known)
  digit := counted.digit

theorem toInt_div (sz : BitVec 64) :
    (sz.sdiv 1024).toInt = sz.toInt.tdiv 1024 :=
  BitVec.toInt_sdiv_of_ne_or_ne sz 1024 (.inr (by decide))

theorem toInt_rem (sz : BitVec 64) :
    (sz.srem 1024).toInt = sz.toInt.tmod 1024 :=
  BitVec.toInt_srem sz 1024

theorem bytesStep_of_zero {sz : BitVec 64} (zero : sz.srem 1024 = 0)
    (acc : List String) (e : String) :
    bytesStep (sz, acc) e = (sz.sdiv 1024, acc) :=
  congrArg (sz.sdiv 1024, ·) (if_neg (not_not_intro zero))

theorem bytesStep_of_ne_zero {sz : BitVec 64} (nonzero : sz.srem 1024 ≠ 0)
    (acc : List String) (e : String) :
    bytesStep (sz, acc) e =
      (sz.sdiv 1024, (sprintfLd (sz.srem 1024) ++ " " ++ e) :: acc) :=
  congrArg (sz.sdiv 1024, ·) (if_pos nonzero)

theorem Counted.step {n : Int} {sz : BitVec 64} {count : Nat}
    {amounts : List Amount} {unit : Fin unitNames.length}
    (position : unit.val = count) (counted : Counted n count sz.toInt amounts) :
    ∃ next after, bytesStep (sz, amounts.map Amount.text)
        (unitNames.get unit) = (next, after.map Amount.text) ∧
      Counted n (count + 1) next.toInt after := by
  have parts := Int.tdiv_mul_add_tmod sz.toInt 1024
  have quotient : 0 ≤ sz.toInt → 0 ≤ sz.toInt.tdiv 1024 := fun known =>
    Int.tdiv_nonneg known (by decide)
  refine ⟨sz.sdiv 1024, ?_⟩
  by_cases zero : sz.srem 1024 = 0
  · refine ⟨amounts, bytesStep_of_zero zero _ _, ?_⟩
    have none_left : sz.toInt.tmod 1024 = 0 := by
      rw [← toInt_rem, zero]
      rfl
    rw [toInt_div]
    exact counted.skip (by omega) quotient
  · refine ⟨⟨(sz.srem 1024).toInt, unit⟩ :: amounts,
      bytesStep_of_ne_zero zero _ _, ?_⟩
    have nonzero : sz.toInt.tmod 1024 ≠ 0 := by
      rw [← toInt_rem]
      intro same
      exact zero (BitVec.eq_of_toInt_eq same)
    rw [toInt_div, toInt_rem]
    refine counted.cons position (by omega) quotient fun known => ?_
    have lower := Int.tmod_nonneg 1024 known
    have upper := Int.tmod_lt_of_pos sz.toInt (by decide : (0 : Int) < 1024)
    omega

theorem Counted.run {n : Int} {sz : BitVec 64} {count : Nat}
    {amounts : List Amount} (units : List (Fin unitNames.length))
    (consecutive : units.map Fin.val = List.range' count units.length)
    (counted : Counted n count sz.toInt amounts) :
    ∃ last after, (units.map unitNames.get).foldl bytesStep
        (sz, amounts.map Amount.text) = (last, after.map Amount.text) ∧
      Counted n (count + units.length) last.toInt after := by
  induction units generalizing sz count amounts with
  | nil => exact ⟨sz, amounts, rfl, counted⟩
  | cons unit rest induction =>
      rw [List.map_cons, List.length_cons, List.range'_succ,
        List.cons.injEq] at consecutive
      obtain ⟨next, middle, stepped, counted⟩ := counted.step consecutive.1
      obtain ⟨last, after, folded, counted⟩ := induction consecutive.2 counted
      refine ⟨last, after, ?_, ?_⟩
      · rw [List.map_cons, List.foldl_cons, stepped, folded]
      · rwa [List.length_cons, ← Nat.add_assoc, Nat.add_right_comm]

theorem stringOfBytes_amounts (n : BitVec 64) :
    ∃ amounts : List Amount, amounts ≠ [] ∧
      stringOfBytes n = " ".intercalate (amounts.map Amount.text) ∧
      totalBytes amounts = n.toInt ∧
      (amounts.Pairwise fun amount later => later.unit < amount.unit) ∧
      (0 ≤ n.toInt → (n = 0 ∧ stringOfBytes n = "0 B") ∨
        ∀ amount ∈ amounts, 1 ≤ amount.coefficient ∧
          (amount.unit.val < 4 → amount.coefficient ≤ 1023)) := by
  have start : Counted n.toInt 0 n.toInt [] :=
    ⟨by simp [totalBytes], by simp, .nil, id, by simp⟩
  obtain ⟨sz, amounts, folded, counted⟩ :=
    Counted.run [0, 1, 2, 3] rfl start
  have loop : ["B", "KB", "MB", "GB"].foldl bytesStep (n, []) =
      (sz, amounts.map Amount.text) := folded
  have total := counted.total
  have shape : stringOfBytes n =
      match if sz ≠ 0 then (sprintfLd sz ++ " TB") :: amounts.map Amount.text
        else amounts.map Amount.text with
      | [] => "0 B"
      | acc => " ".intercalate acc := by
    rw [stringOfBytes, loop]
  by_cases zero : sz = 0
  · rw [if_neg (not_not_intro zero)] at shape
    rw [zero] at total
    cases amounts with
    | nil =>
        have empty : n = 0 := by
          apply BitVec.eq_of_toInt_eq
          simpa [totalBytes] using total
        refine ⟨[⟨0, 0⟩], by simp, shape, ?_, by simp,
          fun _ => .inl ⟨empty, shape⟩⟩
        rw [empty]
        rfl
    | cons amount rest =>
        refine ⟨amount :: rest, by simp, shape, ?_, counted.decreasing, ?_⟩
        · simpa using total.symm
        · intro known
          refine .inr fun amount member => ?_
          have digit := counted.digit known amount member
          exact ⟨digit.1, fun _ => digit.2⟩
  · rw [if_pos zero] at shape
    have text : sprintfLd sz ++ " TB" = Amount.text ⟨sz.toInt, 4⟩ := by
      rw [Amount.text, String.append_assoc]
      rfl
    rw [text, ← List.map_cons] at shape
    refine ⟨⟨sz.toInt, 4⟩ :: amounts, by simp, shape, ?_, ?_, ?_⟩
    · rw [total]
      rfl
    · refine List.pairwise_cons.mpr ⟨fun amount member => ?_, counted.decreasing⟩
      exact Fin.lt_def.mpr (counted.below amount member)
    · intro known
      refine .inr fun amount member => ?_
      obtain rfl | member := List.mem_cons.mp member
      · have nonneg := counted.nonneg known
        have nonzero : sz.toInt ≠ 0 := fun same =>
          zero (BitVec.eq_of_toInt_eq same)
        exact ⟨by dsimp only; omega, fun small => absurd small (Nat.lt_irrefl 4)⟩
      · have digit := counted.digit known amount member
        exact ⟨digit.1, fun _ => digit.2⟩

theorem readAmounts_stringOfBytes (n : BitVec 64) :
    ∃ amounts, readAmounts (stringOfBytes n) = some amounts ∧
      totalBytes amounts = n.toInt ∧
      (amounts.Pairwise fun amount later => later.unit < amount.unit) ∧
      (0 ≤ n.toInt → (n = 0 ∧ stringOfBytes n = "0 B") ∨
        ∀ amount ∈ amounts, 1 ≤ amount.coefficient ∧
          (amount.unit.val < 4 → amount.coefficient ≤ 1023)) := by
  obtain ⟨amounts, nonempty, text, rest⟩ := stringOfBytes_amounts n
  refine ⟨amounts, ?_, rest⟩
  rw [text, readAmounts_intercalate nonempty]

theorem eq_of_stringOfBytes_eq {first second : BitVec 64}
    (same : stringOfBytes first = stringOfBytes second) : first = second := by
  obtain ⟨firstAmounts, firstRead, firstTotal, -⟩ :=
    readAmounts_stringOfBytes first
  obtain ⟨secondAmounts, secondRead, secondTotal, -⟩ :=
    readAmounts_stringOfBytes second
  rw [same, secondRead] at firstRead
  cases firstRead
  exact BitVec.eq_of_toInt_eq (firstTotal.symm.trans secondTotal)

/-- A text reads back as amounts in falling units that sum to the number, negative
ones included. -/
theorem stringOfBytes_lossless :
    (∀ n, ∃ amounts, readAmounts (stringOfBytes n) = some amounts ∧
      totalBytes amounts = n.toInt ∧
      (amounts.Pairwise fun amount later => later.unit < amount.unit) ∧
      (0 ≤ n.toInt → (n = 0 ∧ stringOfBytes n = "0 B") ∨
        ∀ amount ∈ amounts, 1 ≤ amount.coefficient ∧
          (amount.unit.val < 4 → amount.coefficient ≤ 1023))) ∧
    Function.Injective stringOfBytes :=
  ⟨readAmounts_stringOfBytes, fun _ _ same => eq_of_stringOfBytes_eq same⟩

example : stringOfBytes (BitVec.ofInt 64 (-1025)) = "-1 KB -1 B" := by
  decide

theorem eq_of_sprintfLd_eq {first second : BitVec 64}
    (same : sprintfLd first = sprintfLd second) : first = second :=
  BitVec.eq_of_toInt_eq (Int.repr_injective same)

theorem toText_some_ne_infinity (r : Option Resource) (l : BitVec 64) :
    toText r (some l) ≠ "infinity" := by
  have decimal : sprintfLd l ≠ "infinity" := by
    intro same
    have member : 'i' ∈ l.toInt.repr.toList := by
      rw [show l.toInt.repr = "infinity" from same]
      decide
    exact absurd (digit_or_minus_of_mem_repr member) (by decide)
  have seconds : sprintfLd l ++ " s" ≠ "infinity" := by
    intro same
    have member : 's' ∈ (sprintfLd l ++ " s").toList := by simp
    rw [same] at member
    exact absurd member (by decide)
  have bytes : stringOfBytes l ≠ "infinity" := by
    intro same
    obtain ⟨amounts, read, -⟩ := readAmounts_stringOfBytes l
    have unread : readAmounts "infinity" = none := by decide
    rw [same, unread] at read
    cases read
  cases r with
  | none => exact decimal
  | some resource =>
      cases resource <;> first | exact bytes | exact decimal | exact seconds

theorem toText_injective (r : Option Resource) :
    Function.Injective (toText r) := by
  intro first second same
  cases first with
  | none =>
      cases second with
      | none => rfl
      | some l => exact absurd same.symm (toText_some_ne_infinity r l)
  | some first =>
      cases second with
      | none => exact absurd same (toText_some_ne_infinity r first)
      | some second =>
          apply congrArg some
          cases r with
          | none => exact eq_of_sprintfLd_eq same
          | some resource =>
              cases resource
              case RLIMIT_CPU =>
                exact eq_of_sprintfLd_eq (String.append_left_inj " s" |>.mp same)
              all_goals
                first
                | exact eq_of_stringOfBytes_eq same
                | exact eq_of_sprintfLd_eq same

end Rlimit

end ExtUnix.Process
