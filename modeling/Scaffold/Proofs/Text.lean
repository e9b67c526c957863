import Mathlib.Data.List.Basic
import Scaffold.Text.Lines

/-! The bytes of a text, and occurrences of two characters next to each other, in a text and in its lines.
Where neither of them ends a line they stand in one line, and its number is found by counting the line feeds
before them. -/

namespace Scaffold.Text

/-! ### Bytes -/

theorem toList_loop (bytes : ByteArray) (i : Nat) (before : List UInt8) :
    ByteArray.toList.loop bytes i before = before.reverse ++ bytes.data.toList.drop i := by
  fun_induction ByteArray.toList.loop bytes i before with
  | case1 i before inside ih =>
    have bound : i < bytes.data.toList.length := by simpa [ByteArray.size_data] using inside
    have head : bytes.get! i = bytes.data.toList[i] := by
      simp [ByteArray.get!, getElem!_pos, inside]
    rw [ih, List.drop_eq_getElem_cons bound, head]
    simp
  | case2 i before outside =>
    have beyond : bytes.data.toList.length ≤ i := by simpa [ByteArray.size_data] using outside
    rw [List.drop_eq_nil_of_le beyond, List.append_nil]

theorem toList_toUTF8 (text : String) :
    text.toUTF8.toList = text.toList.flatMap String.utf8EncodeChar := by
  have bytes : text.toUTF8 = (text.toList.flatMap String.utf8EncodeChar).toByteArray := by
    have encoded := @String.toByteArray_ofList text.toList
    rw [String.ofList_toList] at encoded
    rw [String.toUTF8_eq_toByteArray, encoded, List.utf8Encode]
  rw [ByteArray.toList, toList_loop, bytes, List.toList_data_toByteArray]
  simp

/-! ### Pairs of characters -/

variable {first second : Char}

theorem contains_pair_cons (first second c : Char) (text : List Char) :
    contains [first, second] (c :: text) =
      ((first == c && text.head? == some second) || contains [first, second] text) := by
  cases text <;> simp [contains, List.isPrefixOf, BEq.comm (a := second)]

/-- A character behind a text adds no pair that does not end in it. -/
theorem contains_pair_concat {c : Char} (other : c ≠ second) (text : List Char) :
    contains [first, second] (text ++ [c]) = contains [first, second] text := by
  induction text with
  | nil => simp [contains, List.isPrefixOf]
  | cons d text ih =>
    rw [List.cons_append, contains_pair_cons, contains_pair_cons, ih]
    cases text <;> simp [other]

theorem contains_withoutEnding (feed : '\n' ≠ second) (carriage : '\r' ≠ second) (piece : List Char) :
    contains [first, second] (withoutEnding piece) = contains [first, second] piece := by
  unfold withoutEnding
  split
  · rename_i rest reversed
    obtain rfl : piece = rest.reverse ++ ['\r'] ++ ['\n'] := by
      rw [← List.reverse_reverse piece, reversed]
      simp
    rw [contains_pair_concat feed, contains_pair_concat carriage]
  · rename_i rest _ reversed
    obtain rfl : piece = rest.reverse ++ ['\n'] := by
      rw [← List.reverse_reverse piece, reversed]
      simp
    rw [contains_pair_concat feed]
  · rfl

theorem head?_pieces {text piece : List Char} {more : List (List Char)}
    (split : pieces text = piece :: more) : piece.head? = text.head? := by
  unfold pieces at split
  split at split
  · contradiction
  · obtain ⟨rfl, -⟩ := List.cons.inj split
    rfl
  · split at split <;>
    · obtain ⟨rfl, -⟩ := List.cons.inj split
      rfl

theorem eq_nil_of_pieces {text : List Char} (none : pieces text = []) : text = [] := by
  unfold pieces at none
  split at none
  · rfl
  · contradiction
  · split at none <;> contradiction

/-- Where a pair of characters occurs, with the number of the line counted from `start`. -/
def PairAt (first second : Char) (start number : Nat) (text : List Char) : Prop :=
  ∃ before after, text = before ++ first :: second :: after ∧ number = before.count '\n' + start

theorem pairAt_cons {c : Char} {text : List Char} {start number : Nat} :
    PairAt first second start number (c :: text) ↔
      (c = first ∧ text.head? = some second ∧ number = start) ∨
        PairAt first second (if c = '\n' then start + 1 else start) number text := by
  constructor
  · rintro ⟨before, after, split, rfl⟩
    cases before with
    | nil =>
      obtain ⟨rfl, rfl⟩ := List.cons.inj split
      exact .inl ⟨rfl, rfl, by simp⟩
    | cons d before =>
      obtain ⟨rfl, rfl⟩ := List.cons.inj split
      refine .inr ⟨before, after, rfl, ?_⟩
      by_cases feed : c = '\n' <;> simp [feed, Nat.add_assoc, Nat.add_comm 1]
  · rintro (⟨rfl, second', rfl⟩ | ⟨before, after, rfl, rfl⟩)
    · obtain ⟨rest, rfl⟩ := List.head?_eq_some_iff.mp second'
      exact ⟨[], rest, rfl, by simp⟩
    · refine ⟨c :: before, after, rfl, ?_⟩
      by_cases feed : c = '\n' <;> simp [feed, Nat.add_assoc, Nat.add_comm 1]

/-- Whether the line of a number holds a pair, where the first of the lines has the number `start`. -/
def LineHas (first second : Char) (start number : Nat) (lines : List (List Char)) : Prop :=
  ∃ line, (line, number) ∈ lines.zipIdx start ∧ contains [first, second] line = true

theorem lineHas_cons {line : List Char} {more : List (List Char)} {start number : Nat} :
    LineHas first second start number (line :: more) ↔
      (number = start ∧ contains [first, second] line = true) ∨
        LineHas first second (start + 1) number more := by
  simp only [LineHas, List.zipIdx_cons, List.mem_cons, Prod.mk.injEq, or_and_right, exists_or]
  exact or_congr_left ⟨fun ⟨_, ⟨rfl, same⟩, found⟩ => ⟨same, found⟩, fun ⟨same, found⟩ =>
    ⟨line, ⟨rfl, same⟩, found⟩⟩

theorem lineHas_map_iff {α : Type} {view : α → List Char} {lines : List α} {start number : Nat} :
    LineHas first second start number (lines.map view) ↔
      ∃ line, (line, number) ∈ lines.zipIdx start ∧ contains [first, second] (view line) = true := by
  simp only [LineHas, List.zipIdx_map, List.mem_map, Prod.exists, Prod.map_apply, id_eq, Prod.mk.injEq]
  constructor
  · rintro ⟨_, ⟨line, _, listed, rfl, rfl⟩, found⟩
    exact ⟨line, listed, found⟩
  · rintro ⟨line, listed, found⟩
    exact ⟨_, ⟨line, _, listed, rfl, rfl⟩, found⟩

theorem lineHas_map {change : List Char → List Char}
    (same : ∀ line, contains [first, second] (change line) = contains [first, second] line)
    {lines : List (List Char)} {start number : Nat} :
    LineHas first second start number (lines.map change) ↔ LineHas first second start number lines := by
  rw [lineHas_map_iff]
  simp only [same]
  rfl

/-- The lines with a pair are those in which it occurs. -/
theorem lineHas_pieces_iff (feed : first ≠ '\n') {text : List Char} {start number : Nat} :
    LineHas first second start number (pieces text) ↔ PairAt first second start number text := by
  induction text generalizing start with
  | nil => simp [pieces, LineHas, PairAt]
  | cons c text ih =>
    rw [pairAt_cons]
    by_cases ends : c = '\n'
    · subst ends
      have alone : contains [first, second] ['\n'] = false := by
        simp [contains, List.isPrefixOf]
      rw [if_pos rfl, pieces, lineHas_cons, ih, alone]
      simp [Ne.symm feed]
    · rw [if_neg ends, ← ih, pieces.eq_3 _ _ ends]
      cases split : pieces text with
      | nil =>
        obtain rfl := eq_nil_of_pieces split
        simp [LineHas, contains, List.isPrefixOf]
      | cons piece more =>
        dsimp only
        rw [lineHas_cons, lineHas_cons, contains_pair_cons, ← head?_pieces split]
        simp only [Bool.or_eq_true, Bool.and_eq_true, beq_iff_eq]
        tauto

/-- The lines of a text that hold a pair, without their endings, are those in which it occurs. -/
theorem lineHas_lines_iff (starts : first ≠ '\n') (feed : '\n' ≠ second) (carriage : '\r' ≠ second)
    {text : String} {number : Nat} :
    LineHas first second 1 number ((lines text).map String.toList) ↔
      PairAt first second 1 number text.toList := by
  have unended : (lines text).map String.toList = (pieces text.toList).map withoutEnding := by
    simp [lines]
  rw [unended, lineHas_map (contains_withoutEnding feed carriage), lineHas_pieces_iff starts]

end Scaffold.Text
