import Scaffold.Digest.Sha256

/-! Digests by arithmetic on numerals. The kernel computes with numerals in one step, but it leaves what
it is given to compute with as it is, and does so anew wherever that is used. Here each word is a natural
number that is brought to a numeral before it is used, and what comes of it is the digest. -/

namespace Scaffold.Digest.Sha256

deriving instance DecidableEq for State

/-- Hands on a number as a numeral. -/
def force {α : Type} (n : Nat) (next : Nat → α) : α :=
  Nat.rec (next 0) (fun k _ => next (k + 1)) n

@[simp] theorem force_eq {α : Type} (n : Nat) (next : Nat → α) : force n next = next n := by
  cases n <;> rfl

/-- Hands on a list of numbers as numerals. -/
def forceAll {α : Type} : List Nat → (List Nat → α) → α
  | [], next => next []
  | n :: rest, next => force n fun n => forceAll rest fun rest => next (n :: rest)

theorem forceAll_eq {α : Type} (numbers : List Nat) (next : List Nat → α) :
    forceAll numbers next = next numbers := by
  induction numbers generalizing next with
  | nil => rfl
  | cons n rest ih => rw [forceAll, force_eq, ih]

/-- Hands on the length of a list, added to a number. -/
def count {α β : Type} : List β → Nat → (Nat → α) → α
  | [], n, next => next n
  | _ :: rest, n, next => force (n + 1) fun n => count rest n next

theorem count_eq {α β : Type} (members : List β) (n : Nat) (next : Nat → α) :
    count members n next = next (n + members.length) := by
  induction members generalizing n with
  | nil => rfl
  | cons first rest ih =>
    rw [count, force_eq, ih, List.length_cons]
    congr 1
    omega

namespace Numeral

/-! ### Words -/

def rotate (x n : Nat) : Nat := x >>> n ||| x <<< (32 - n) % 4294967296

/-- Three rotations of a word. -/
def mix (i j k x : Nat) : Nat := rotate x i ^^^ rotate x j ^^^ rotate x k

/-- Two rotations of a word and a shift. -/
def blend (i j k x : Nat) : Nat := rotate x i ^^^ rotate x j ^^^ (x >>> k)

theorem toNat_ofNat {n : Nat} (short : n < 32) : (UInt32.ofNat n).toNat = n :=
  UInt32.toNat_ofNat_of_lt' (Nat.lt_trans short (by decide))

theorem toNat_rotateRight (x : UInt32) {n : Nat} (proper : 0 < n ∧ n < 32) :
    (rotateRight x (.ofNat n)).toNat = rotate x.toNat n := by
  obtain ⟨positive, short⟩ := proper
  have other : (32 - UInt32.ofNat n).toNat = 32 - n := by
    rw [UInt32.toNat_sub, toNat_ofNat short]
    change (4294967296 - n + 32) % 4294967296 = 32 - n
    omega
  rw [rotateRight, UInt32.toNat_or, UInt32.toNat_shiftRight, UInt32.toNat_shiftLeft, other,
    toNat_ofNat short, Nat.mod_eq_of_lt short, Nat.mod_eq_of_lt (show 32 - n < 32 by omega), rotate]

section Mixing

variable (x : UInt32) {i j k : Nat} (first : 0 < i ∧ i < 32) (second : 0 < j ∧ j < 32)
  (third : 0 < k ∧ k < 32)

include first second third

theorem toNat_mix :
    (rotateRight x (.ofNat i) ^^^ rotateRight x (.ofNat j) ^^^ rotateRight x (.ofNat k)).toNat =
      mix i j k x.toNat := by
  rw [UInt32.toNat_xor, UInt32.toNat_xor, toNat_rotateRight x first, toNat_rotateRight x second,
    toNat_rotateRight x third, mix]

theorem toNat_blend :
    (rotateRight x (.ofNat i) ^^^ rotateRight x (.ofNat j) ^^^ (x >>> .ofNat k)).toNat =
      blend i j k x.toNat := by
  rw [UInt32.toNat_xor, UInt32.toNat_xor, toNat_rotateRight x first, toNat_rotateRight x second,
    UInt32.toNat_shiftRight, toNat_ofNat third.2, Nat.mod_eq_of_lt third.2, blend]

end Mixing

/-! ### The schedule -/

/-- The words of a schedule, if those before are given last to first. -/
def schedule : Nat → List Nat → List Nat
  | 0, before => before.reverse
  | n + 1, before =>
    force ((before.getD 15 0 + blend 7 18 3 (before.getD 14 0) + before.getD 6 0 +
      blend 17 19 10 (before.getD 1 0)) % 4294967296) fun word => schedule n (word :: before)

theorem size_extend (n : Nat) (w : Array UInt32) : (extend n w).size = w.size + n := by
  induction n generalizing w with
  | zero => rfl
  | succ n ih =>
    rw [extend, ih, Array.size_push]
    omega

theorem getD_reverse (w : Array UInt32) {k : Nat} (bound : k < w.size) :
    (w.toList.reverse.map (·.toNat)).getD k 0 = (w.getD (w.size - (k + 1)) 0).toNat := by
  have bound' : k < (w.toList.reverse.map (·.toNat)).length := by simpa using bound
  rw [List.getD_eq_getElem?_getD, List.getElem?_eq_getElem bound', Option.getD_some]
  simp [Array.getD, show w.size - (k + 1) < w.size by omega, Nat.sub_sub, Nat.add_comm]

theorem schedule_eq (n : Nat) (w : Array UInt32) (enough : 16 ≤ w.size) :
    schedule n (w.toList.reverse.map (·.toNat)) = (extend n w).toList.map (·.toNat) := by
  induction n generalizing w with
  | zero => simp [schedule, extend]
  | succ n ih =>
    have early := @toNat_blend (w.getD (w.size - 15) 0) 7 18 3 (by decide) (by decide) (by decide)
    have late := @toNat_blend (w.getD (w.size - 2) 0) 17 19 10 (by decide) (by decide) (by decide)
    rw [schedule, extend, force_eq, ← ih _ (by simp; omega), getD_reverse w (by omega),
      getD_reverse w (by omega), getD_reverse w (by omega), getD_reverse w (by omega)]
    dsimp only
    rw [← early, ← late]
    simp [UInt32.toNat_add]

/-! ### Rounds -/

/-- Rounds with their constants and words. -/
def rounds : List Nat → List Nat → (a b c d e f g h : Nat) → State
  | k :: ks, w :: ws, a, b, c, d, e, f, g, h =>
    force ((h + mix 6 11 25 e + ((e &&& f) ^^^ ((4294967295 - e) &&& g)) + k + w) % 4294967296) fun t1 =>
    force ((t1 + (mix 2 13 22 a + ((a &&& b) ^^^ (a &&& c) ^^^ (b &&& c)))) % 4294967296) fun first =>
    force ((d + t1) % 4294967296) fun fifth => rounds ks ws first a b c fifth e f g
  | _, _, a, b, c, d, e, f, g, h =>
    ⟨.ofNat a, .ofNat b, .ofNat c, .ofNat d, .ofNat e, .ofNat f, .ofNat g, .ofNat h⟩

/-- A round with its constant and its word. -/
def turn (s : State) (pair : UInt32 × UInt32) : State :=
  let s1 := rotateRight s.e 6 ^^^ rotateRight s.e 11 ^^^ rotateRight s.e 25
  let choice := (s.e &&& s.f) ^^^ (~~~s.e &&& s.g)
  let t1 := s.h + s1 + choice + pair.1 + pair.2
  let s0 := rotateRight s.a 2 ^^^ rotateRight s.a 13 ^^^ rotateRight s.a 22
  let majority := (s.a &&& s.b) ^^^ (s.a &&& s.c) ^^^ (s.b &&& s.c)
  ⟨t1 + (s0 + majority), s.a, s.b, s.c, s.d + t1, s.e, s.f, s.g⟩

theorem round_eq (w : Array UInt32) (s : State) (t : Nat) :
    round w s t = turn s (constants.getD t 0, w.getD t 0) := rfl

theorem rounds_eq (ks ws : List UInt32) (s : State) :
    rounds (ks.map (·.toNat)) (ws.map (·.toNat)) s.a.toNat s.b.toNat s.c.toNat s.d.toNat s.e.toNat
      s.f.toNat s.g.toNat s.h.toNat = (ks.zip ws).foldl turn s := by
  induction ks generalizing ws s with
  | nil => simp [rounds]
  | cons k ks ih =>
    cases ws with
    | nil => simp [rounds]
    | cons w ws =>
      have s1 := @toNat_mix s.e 6 11 25 (by decide) (by decide) (by decide)
      have s0 := @toNat_mix s.a 2 13 22 (by decide) (by decide) (by decide)
      have complement : (~~~s.e).toNat = 4294967295 - s.e.toNat := UInt32.toNat_not s.e
      rw [List.zip_cons_cons, List.foldl_cons, ← ih]
      simp only [List.map_cons, rounds, force_eq, ← s1, ← s0, turn]
      congr 1
      · simp only [UInt32.toNat_add, UInt32.toNat_xor, UInt32.toNat_and, complement]
        simp
      · simp only [UInt32.toNat_add, UInt32.toNat_xor, UInt32.toNat_and, complement]
        simp

theorem zip_constants (w : Array UInt32) (full : w.size = 64) :
    (List.range 64).map (fun t => (constants.getD t 0, w.getD t 0)) = constants.toList.zip w.toList := by
  have known : constants.size = 64 := rfl
  refine List.ext_getElem (by simp [known, full]) fun t _ bound => ?_
  obtain ⟨here, there⟩ : t < constants.size ∧ t < w.size := by simpa [Nat.lt_min] using bound
  simp [Array.getD, here, there]

/-! ### Blocks -/

def compress (s : State) (block : List Nat) : State :=
  force s.a.toNat fun a => force s.b.toNat fun b => force s.c.toNat fun c => force s.d.toNat fun d =>
  force s.e.toNat fun e => force s.f.toNat fun f => force s.g.toNat fun g => force s.h.toNat fun h =>
  let r := rounds (constants.toList.map (·.toNat)) (schedule 48 block.reverse) a b c d e f g h
  ⟨.ofNat a + r.a, .ofNat b + r.b, .ofNat c + r.c, .ofNat d + r.d, .ofNat e + r.e, .ofNat f + r.f,
    .ofNat g + r.g, .ofNat h + r.h⟩

theorem compress_eq (s : State) {block : List UInt32} (whole : block.length = 16) :
    compress s (block.map (·.toNat)) = Sha256.compress s block := by
  have full : (extend 48 block.toArray).size = 64 := by rw [size_extend, List.size_toArray, whole]
  have scheduled := schedule_eq 48 block.toArray (by simp [whole])
  rw [compress]
  simp only [force_eq]
  rw [← List.map_reverse, scheduled, rounds_eq, ← zip_constants _ full, List.foldl_map]
  simp only [UInt32.ofNat_toNat, ← round_eq]
  rfl

def absorb : Nat → State → List Nat → State
  | 0, s, _ => s
  | n + 1, s, w => absorb n (compress s (w.take 16)) (w.drop 16)

theorem absorb_eq (n : Nat) (s : State) {w : List UInt32} (enough : 16 * n ≤ w.length) :
    absorb n s (w.map (·.toNat)) = Sha256.absorb n s w := by
  induction n generalizing s w with
  | zero => rfl
  | succ n ih =>
    rw [absorb, Sha256.absorb, ← List.map_take, ← List.map_drop, compress_eq s (by simp; omega),
      ih _ (by simp; omega)]

def digest (bytes : List UInt8) : State :=
  count bytes 0 fun length =>
  forceAll ((words (bytes ++ padding length)).map (·.toNat)) fun w =>
  count w 0 fun size => absorb (size / 16) initial w

theorem digest_eq (bytes : List UInt8) : digest bytes = Sha256.digest bytes := by
  rw [digest, count_eq, forceAll_eq, count_eq, Nat.zero_add, Nat.zero_add, List.length_map,
    absorb_eq _ _ (by omega), Sha256.digest]

end Numeral

/-! ### Texts -/

/-- The digits of a digest. -/
def digits (s : State) : List Char :=
  [s.a, s.b, s.c, s.d, s.e, s.f, s.g, s.h].flatMap fun w => (bytesOfWord w).flatMap Text.Hex.ofByte

theorem hexOfText_eq (text : String) :
    hexOfText text = String.ofList (digits (Numeral.digest text.toUTF8.toList)) := by
  rw [Numeral.digest_eq]
  rfl

theorem hexOfText_eq_iff (text other : String) : hexOfText text = hexOfText other ↔
    digits (Numeral.digest text.toUTF8.toList) = digits (Numeral.digest other.toUTF8.toList) := by
  rw [hexOfText_eq, hexOfText_eq, String.ofList_inj]

example : hexOfText "abc" = "ba7816bf8f01cfea414140de5dae2223b00361a396177a9cb410ff61f20015ad" := by
  rw [hexOfText_eq]
  decide +kernel

end Scaffold.Digest.Sha256
