import Mathlib.Data.List.Induction
import Mathlib.Data.List.Infix
import Scaffold.Glob
import Scaffold.Proofs.Text

/-! What the parts of a glob pattern match, and through them what a pattern says about the names in a
path. Matching goes by bytes; names are told apart there as well as by their characters. -/

namespace Scaffold.Glob

/-! ### Bytes of a text -/

/-- The bytes that a text is matched by. -/
def octets (text : String) : List UInt8 := text.toUTF8.toList

theorem octets_eq_flatMap (text : String) : octets text = text.toList.flatMap String.utf8EncodeChar :=
  Text.toList_toUTF8 text

theorem octets_append (first second : String) :
    octets (first ++ second) = octets first ++ octets second := by
  simp [octets_eq_flatMap]

theorem octets_inj {first second : String} : octets first = octets second ↔ first = second := by
  constructor
  · intro same
    rw [octets_eq_flatMap, octets_eq_flatMap, ← List.toByteArray_inj] at same
    have encoded := @String.toByteArray_ofList first.toList
    have encoded' := @String.toByteArray_ofList second.toList
    rw [String.ofList_toList, List.utf8Encode] at encoded encoded'
    exact String.toByteArray_inj.mp (encoded.trans (same.trans encoded'.symm))
  · rintro rfl
    rfl

/-- A character is one byte below 128, or none of its bytes is below 128. -/
theorem utf8EncodeChar_cases (c : Char) :
    c.toNat < 128 ∧ String.utf8EncodeChar c = [UInt8.ofNat c.toNat] ∨
      128 ≤ c.toNat ∧ ∀ b ∈ String.utf8EncodeChar c, 128 ≤ b.toNat := by
  unfold String.utf8EncodeChar
  dsimp only
  change c.val.toNat < 128 ∧ _ ∨ _
  split
  · left
    exact ⟨by omega, rfl⟩
  · right
    refine ⟨by change 128 ≤ c.val.toNat; omega, ?_⟩
    intro b member
    split at member
    · simp only [List.mem_cons, List.not_mem_nil, or_false] at member
      rcases member with rfl | rfl <;> simp only [UInt8.toNat_ofNat'] <;> omega
    · split at member
      · simp only [List.mem_cons, List.not_mem_nil, or_false] at member
        rcases member with rfl | rfl | rfl <;> simp only [UInt8.toNat_ofNat'] <;> omega
      · simp only [List.mem_cons, List.not_mem_nil, or_false] at member
        rcases member with rfl | rfl | rfl | rfl <;> simp only [UInt8.toNat_ofNat'] <;> omega

theorem mem_utf8EncodeChar_iff {a c : Char} (ascii : a.toNat < 128) :
    UInt8.ofNat a.toNat ∈ String.utf8EncodeChar c ↔ c = a := by
  have small : (UInt8.ofNat a.toNat).toNat = a.toNat := by
    rw [UInt8.toNat_ofNat']
    omega
  rcases utf8EncodeChar_cases c with ⟨low, single⟩ | ⟨high, bytes⟩
  · rw [single, List.mem_singleton]
    constructor
    · intro same
      have same := congrArg UInt8.toNat same
      rw [small, UInt8.toNat_ofNat', Nat.mod_eq_of_lt (by omega)] at same
      exact Char.toNat_inj.mp same.symm
    · rintro rfl
      rfl
  · constructor
    · intro member
      have above := bytes _ member
      omega
    · rintro rfl
      omega

theorem slash_mem_octets_iff (text : String) : slash ∈ octets text ↔ '/' ∈ text.toList := by
  have ascii : slash = UInt8.ofNat ('/' : Char).toNat := by decide
  rw [octets_eq_flatMap, List.mem_flatMap, ascii]
  constructor
  · rintro ⟨c, member, byte⟩
    rwa [← (mem_utf8EncodeChar_iff (by decide)).mp byte]
  · intro member
    exact ⟨'/', member, (mem_utf8EncodeChar_iff (by decide)).mpr rfl⟩

/-- A text of single bytes ends another text when its bytes end that text's bytes. -/
theorem suffix_flatMap_iff {letters text : List Char} (ascii : ∀ c ∈ letters, c.toNat < 128) :
    letters.flatMap String.utf8EncodeChar <:+ text.flatMap String.utf8EncodeChar ↔
      letters <:+ text := by
  constructor
  · induction letters using List.reverseRecOn generalizing text with
    | nil => simp
    | append_singleton letters a ih =>
      have low := ascii a (by simp)
      have single : String.utf8EncodeChar a = [UInt8.ofNat a.toNat] := by
        rcases utf8EncodeChar_cases a with ⟨-, single⟩ | ⟨high, -⟩
        · exact single
        · omega
      rintro ⟨front, whole⟩
      rw [List.flatMap_append, List.flatMap_singleton, single, ← List.append_assoc] at whole
      cases text using List.reverseRecOn with
      | nil => simp at whole
      | append_singleton text c =>
        rw [List.flatMap_append, List.flatMap_singleton] at whole
        -- The last byte is that of `a`, so the last character is `a`.
        have some : String.utf8EncodeChar c ≠ [] := String.utf8EncodeChar_ne_nil
        have last : UInt8.ofNat a.toNat ∈ String.utf8EncodeChar c := by
          have same := congrArg List.getLast? whole
          rw [List.getLast?_append_of_ne_nil _ some, List.getLast?_concat] at same
          exact List.mem_of_getLast? same.symm
        obtain rfl := (mem_utf8EncodeChar_iff low).mp last
        rw [single] at whole
        have whole := List.append_cancel_right whole
        obtain ⟨rest, rfl⟩ := ih (fun other member => ascii other (by simp [member])) ⟨front, whole⟩
        exact ⟨rest, by rw [List.append_assoc]⟩
  · rintro ⟨front, rfl⟩
    exact ⟨front.flatMap String.utf8EncodeChar, by rw [List.flatMap_append]⟩

/-! ### What parts match -/

theorem mem_rests_iff {rest path : List UInt8} : rest ∈ rests path ↔ rest <:+ path := by
  induction path with
  | nil => simp [rests]
  | cons b path ih => rw [rests, List.mem_cons, ih, List.suffix_cons_iff]

theorem suffix_of_mem_afterSlashes {rest path : List UInt8} (member : rest ∈ afterSlashes path) :
    rest <:+ path := by
  induction path with
  | nil => simp [afterSlashes] at member
  | cons b path ih =>
    rw [List.suffix_cons_iff]
    right
    rw [afterSlashes] at member
    split at member
    · rcases List.mem_cons.mp member with rfl | later
      · exact List.suffix_rfl
      · exact ih later
    · exact ih member

theorem matchesParts_bytes {bytes path : List UInt8} {more : List Part} :
    matchesParts (bytes.map .byte ++ more) path = true ↔
      ∃ rest, path = bytes ++ rest ∧ matchesParts more rest = true := by
  induction bytes generalizing path with
  | nil => simp
  | cons b bytes ih =>
    cases path with
    | nil => simp [matchesParts, Part.rests]
    | cons c path =>
      rw [List.map_cons, List.cons_append, matchesParts, Part.rests]
      split
      · rename_i same
        subst same
        simp [ih]
      · rename_i other
        simp [Ne.symm other]

/-- Any number of bytes before a certain end. -/
theorem matchesParts_ending {bytes path : List UInt8} :
    matchesParts (.anyRun :: bytes.map .byte) path = true ↔ bytes <:+ path := by
  rw [matchesParts, List.any_eq_true]
  simp only [Part.rests, mem_rests_iff]
  constructor
  · rintro ⟨rest, within, matched⟩
    rw [← List.append_nil (bytes.map Part.byte), matchesParts_bytes] at matched
    obtain ⟨nothing, rfl, empty⟩ := matched
    obtain rfl : nothing = [] := by simpa [matchesParts] using empty
    rwa [List.append_nil] at within
  · intro within
    refine ⟨bytes, within, ?_⟩
    rw [← List.append_nil (bytes.map Part.byte), matchesParts_bytes]
    exact ⟨[], (List.append_nil bytes).symm, rfl⟩

/-- Steps before any number of bytes add nothing. -/
theorem matchesParts_steps_ending {bytes path : List UInt8} :
    matchesParts (.leadingSteps :: .anyRun :: bytes.map .byte) path = true ↔ bytes <:+ path := by
  rw [matchesParts, List.any_eq_true]
  simp only [matchesParts_ending, Part.rests, List.mem_cons]
  constructor
  · rintro ⟨rest, rfl | behind, within⟩
    · exact within
    · exact within.trans (suffix_of_mem_afterSlashes behind)
  · intro within
    exact ⟨path, .inl rfl, within⟩

/-- A whole step of a path, with steps before it and something below it. -/
theorem matchesParts_step {bytes path : List UInt8} :
    matchesParts (.leadingSteps :: (bytes.map .byte ++ [.trailingSteps])) path = true ↔
      ∃ start ∈ path :: afterSlashes path, ∃ rest, start = bytes ++ slash :: rest := by
  have below : ∀ rest, matchesParts [.trailingSteps] rest = true ↔ ∃ inner, rest = slash :: inner := by
    intro rest
    rw [matchesParts, List.any_eq_true]
    cases rest with
    | nil => simp [Part.rests]
    | cons c inner =>
      by_cases same : c = slash
      · subst same
        simp only [Part.rests, if_true, mem_rests_iff]
        exact ⟨fun _ => ⟨inner, rfl⟩, fun _ => ⟨[], List.nil_suffix, rfl⟩⟩
      · simp [Part.rests, same]
  rw [matchesParts, List.any_eq_true, Part.rests]
  simp only [matchesParts_bytes, below]
  constructor
  · rintro ⟨start, member, rest, rfl, inner, rfl⟩
    exact ⟨_, member, inner, rfl⟩
  · rintro ⟨start, member, rest, rfl⟩
    exact ⟨_, member, _, rfl, rest, rfl⟩

/-! ### Paths made of names -/

theorem before_slash_unique {first second rest rest' : List UInt8} (clean : slash ∉ first)
    (clean' : slash ∉ second) (same : first ++ slash :: rest = second ++ slash :: rest') :
    first = second := by
  rcases List.append_eq_append_iff.mp same with ⟨more, rfl, split⟩ | ⟨more, rfl, split⟩
  · cases more with
    | nil => exact (List.append_nil first).symm
    | cons b more =>
      obtain ⟨rfl, -⟩ := List.cons.inj split
      simp at clean'
  · cases more with
    | nil => exact List.append_nil second
    | cons b more =>
      obtain ⟨rfl, -⟩ := List.cons.inj split
      simp at clean

theorem afterSlashes_append_of_clean {step : List UInt8} (clean : slash ∉ step) (rest : List UInt8) :
    afterSlashes (step ++ rest) = afterSlashes rest := by
  induction step with
  | nil => rfl
  | cons b step ih =>
    obtain ⟨other, clean⟩ := not_or.mp (mt List.mem_cons.mpr clean)
    rw [List.cons_append, afterSlashes, if_neg (Ne.symm other), ih clean]

/-- In a path of steps without slashes, the path and its rests behind slashes are the paths of the
last steps. -/
theorem mem_afterSlashes_intercalate {steps : List (List UInt8)} (clean : ∀ step ∈ steps, slash ∉ step)
    (some : steps ≠ []) {start : List UInt8} :
    start ∈ [slash].intercalate steps :: afterSlashes ([slash].intercalate steps) ↔
      ∃ before after, steps = before ++ after ∧ after ≠ [] ∧ start = [slash].intercalate after := by
  induction steps with
  | nil => exact absurd rfl some
  | cons step later ih =>
    have plain := clean step (by simp)
    cases later with
    | nil =>
      have none := afterSlashes_append_of_clean plain []
      rw [List.append_nil, afterSlashes] at none
      rw [List.intercalate_singleton, none, List.mem_singleton]
      constructor
      · intro whole
        exact ⟨[], [step], rfl, by simp, by rw [whole, List.intercalate_singleton]⟩
      · rintro ⟨before, after, split, some, rfl⟩
        cases before with
        | nil =>
          rw [List.nil_append] at split
          rw [← split, List.intercalate_singleton]
        | cons first before => simp [some] at split
    | cons next later =>
      rw [List.intercalate_cons_cons, List.append_assoc, List.singleton_append,
        afterSlashes_append_of_clean plain, afterSlashes, if_pos rfl, List.mem_cons,
        ih (fun other member => clean other (by simp [member])) (by simp)]
      constructor
      · rintro (rfl | ⟨before, after, split, some, rfl⟩)
        · exact ⟨[], step :: next :: later, rfl, by simp, by simp [List.intercalate_cons_cons]⟩
        · exact ⟨step :: before, after, by rw [split, List.cons_append], some, rfl⟩
      · rintro ⟨before, after, split, some, rfl⟩
        cases before with
        | nil =>
          left
          rw [List.nil_append] at split
          rw [← split]
          simp [List.intercalate_cons_cons]
        | cons first before =>
          rw [List.cons_append] at split
          obtain ⟨-, rest⟩ := List.cons.inj split
          exact .inr ⟨before, after, rest, some, rfl⟩

theorem octets_intercalate (names : List String) :
    octets ("/".intercalate names) = [slash].intercalate (names.map octets) := by
  have slashed : octets "/" = [slash] := by decide +kernel
  induction names with
  | nil => simp [octets_eq_flatMap]
  | cons name names ih =>
    cases names with
    | nil => simp
    | cons next names =>
      rw [String.intercalate_cons_cons, octets_append, octets_append, ih, slashed]
      simp only [List.map_cons, List.intercalate_cons_cons]

/-- What ends a path without holding a slash ends its last name. -/
theorem suffix_of_slash_iff {ending before name : List Char} (clean : '/' ∉ ending) :
    ending <:+ before ++ '/' :: name ↔ ending <:+ name := by
  have last : '/' :: name <:+ before ++ '/' :: name := List.suffix_append _ _
  constructor
  · intro within
    rcases Nat.lt_or_ge name.length ending.length with longer | shorter
    · have slashed := List.suffix_of_suffix_length_le last within longer
      exact absurd (slashed.subset (by simp)) clean
    · exact List.suffix_of_suffix_length_le within ((List.suffix_cons _ _).trans last) shorter
  · intro within
    exact (within.trans (List.suffix_cons _ _)).trans last

/-- The pattern of any steps and any name with a certain ending. -/
def ofEnding (ending : String) : Glob := ⟨[.leadingSteps :: .anyRun :: (octets ending).map .byte]⟩

/-- The pattern of any steps, one step by name and anything below it. -/
def ofStep (step : String) : Glob := ⟨[.leadingSteps :: ((octets step).map .byte ++ [.trailingSteps])]⟩

/-- A pattern with a certain ending looks at the last name only. -/
theorem isMatch_ofEnding {ending name : String} {dirs : List String}
    (ascii : ∀ c ∈ ending.toList, c.toNat < 128) (clean : '/' ∉ ending.toList) :
    (ofEnding ending).isMatch ("/".intercalate (dirs ++ [name])) = true ↔
      ending.toList <:+ name.toList := by
  change List.any [_] (matchesParts · (octets _)) = true ↔ _
  rw [List.any_cons, List.any_nil, Bool.or_false, matchesParts_steps_ending, octets_eq_flatMap,
    octets_eq_flatMap, suffix_flatMap_iff ascii]
  by_cases some : dirs = []
  · subst some
    simp
  · rw [String.intercalate_append_of_ne_nil some (by simp), String.intercalate_singleton,
      String.toList_append, String.toList_append, List.append_assoc]
    exact suffix_of_slash_iff clean

/-- A pattern with a step by name looks for it among the names of the directories. -/
theorem isMatch_ofStep {step name : String} {dirs : List String} (plain : '/' ∉ step.toList)
    (clean : ∀ other ∈ dirs ++ [name], '/' ∉ other.toList) :
    (ofStep step).isMatch ("/".intercalate (dirs ++ [name])) = true ↔ step ∈ dirs := by
  have steps : ∀ other ∈ (dirs ++ [name]).map octets, slash ∉ other := by
    intro other member
    obtain ⟨text, listed, rfl⟩ := List.mem_map.mp member
    exact mt (slash_mem_octets_iff text).mp (clean text listed)
  change List.any [_] (matchesParts · (octets _)) = true ↔ _
  rw [List.any_cons, List.any_nil, Bool.or_false, matchesParts_step, octets_intercalate]
  simp only [mem_afterSlashes_intercalate steps (by simp)]
  constructor
  · rintro ⟨start, ⟨before, after, split, some, rfl⟩, rest, begun⟩
    cases after with
    | nil => exact absurd rfl some
    | cons first later =>
      have bare : slash ∉ first := steps first (by simp [split])
      cases later with
      | nil =>
        rw [List.intercalate_singleton] at begun
        exact absurd (by simp [begun]) bare
      | cons next later =>
        rw [List.intercalate_cons_cons, List.append_assoc, List.singleton_append] at begun
        obtain rfl := before_slash_unique bare (mt (slash_mem_octets_iff step).mp plain) begun
        -- More steps follow, so this one is that of a directory.
        have dirs_eq : dirs.map octets = before ++ octets step :: (next :: later).dropLast := by
          have inner := congrArg List.dropLast split
          rwa [List.map_append, List.map_singleton, List.dropLast_concat,
            List.dropLast_append_of_ne_nil (by simp), List.dropLast_cons_of_ne_nil (by simp)] at inner
        obtain ⟨other, member, same⟩ := List.mem_map.mp
          (show octets step ∈ dirs.map octets by simp [dirs_eq])
        rwa [← octets_inj.mp same]
  · intro member
    obtain ⟨before, behind, rfl⟩ := List.append_of_mem member
    refine ⟨_, ⟨before.map octets, (step :: behind ++ [name]).map octets, by simp, by simp, rfl⟩, ?_⟩
    refine ⟨[slash].intercalate ((behind ++ [name]).map octets), ?_⟩
    cases behind with
    | nil => simp [List.intercalate_cons_cons]
    | cons next behind => simp [List.intercalate_cons_cons]

end Scaffold.Glob
