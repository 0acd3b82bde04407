import Mathlib.Data.List.DropRight
import Mathlib.Data.List.Infix

/-!
# Python string primitives

The bridge works on Python `str` values: sequences of code points, here `List Char`.
This module models the handful of `str` methods the bridge calls with the arguments it
passes them: `strip()`, `lstrip("\n")`, `split(None, 1)` and `rfind("\n", 0, stop)`.
Whitespace is Python's, not Lean's: `str.split()` and `str.strip()` use `str.isspace`.
-/

namespace ConductorBridge

/-- Python's `str.isspace` on one code point: the separators `str.split()` and
`str.strip()` use when called without an argument. -/
def isSpace (c : Char) : Bool :=
  let n := c.toNat
  (9 ≤ n && n ≤ 13) || (28 ≤ n && n ≤ 32) || n == 0x85 || n == 0xA0 || n == 0x1680 ||
    (0x2000 ≤ n && n ≤ 0x200A) || n == 0x2028 || n == 0x2029 || n == 0x202F ||
    n == 0x205F || n == 0x3000

@[simp] theorem isSpace_space : isSpace ' ' = true := rfl

@[simp] theorem isSpace_newline : isSpace '\n' = true := rfl

@[simp] theorem isSpace_colon : isSpace ':' = false := rfl

theorem length_data (s : String) : s.length = s.data.length := rfl

/-- `s.lstrip()`. -/
def lstrip (s : List Char) : List Char := s.dropWhile isSpace

/-- `s.rstrip()`. -/
def rstrip (s : List Char) : List Char := s.rdropWhile isSpace

/-- `s.strip()`: the slice between the first and the last non-space code point. -/
def strip (s : List Char) : List Char := rstrip (lstrip s)

/-- `s.strip()` on a `str`. -/
def stripStr (s : String) : String := String.mk (strip s.data)

/-- `s.split(None, 1)`: the first run of non-space code points, then what follows once the
spaces after it are skipped, if anything does. -/
def splitOnce (s : List Char) : List (List Char) :=
  match lstrip s with
  | [] => []
  | t =>
    match lstrip (t.dropWhile (!isSpace ·)) with
    | [] => [t.takeWhile (!isSpace ·)]
    | rest => [t.takeWhile (!isSpace ·), rest]

/-- The last index of `c` in `s`, or `none`. -/
def lastIndexOf? (c : Char) : List Char → Option Nat
  | [] => none
  | x :: xs =>
    match lastIndexOf? c xs with
    | some i => some (i + 1)
    | none => if x = c then some 0 else none

/-- `s.rfind(c, 0, stop)`, with `none` for Python's `-1`. -/
def rfind (s : List Char) (c : Char) (stop : Nat) : Option Nat :=
  lastIndexOf? c (s.take stop)

/-- `needle in haystack` on strings. -/
def containsText (needle haystack : String) : Bool :=
  haystack.data.tails.any needle.data.isPrefixOf

/-! ## `rfind` -/

theorem lastIndexOf?_spec {c : Char} :
    ∀ {s : List Char} {i : Nat}, lastIndexOf? c s = some i → s[i]? = some c
  | x :: xs, i, found => by
    unfold lastIndexOf? at found
    split at found
    · next j tail =>
      cases found
      simpa using lastIndexOf?_spec tail
    · split at found
      · next head => cases found; simp [head]
      · cases found

theorem rfind_spec {s : List Char} {c : Char} {stop i : Nat} (found : rfind s c stop = some i) :
    i < stop ∧ s[i]? = some c := by
  have atIndex := lastIndexOf?_spec found
  have bound : i < (s.take stop).length := (List.getElem?_eq_some_iff.mp atIndex).1
  rw [List.length_take] at bound
  exact ⟨by omega, by rwa [List.getElem?_take_of_lt (by omega)] at atIndex⟩

theorem lastIndexOf?_none {c : Char} :
    ∀ {s : List Char}, lastIndexOf? c s = none → ∀ k : Nat, s[k]? ≠ some c
  | [], _, _ => by simp
  | x :: xs, absent, k => by
    unfold lastIndexOf? at absent
    split at absent
    · cases absent
    · next tail =>
      split at absent
      · cases absent
      · next notHere =>
        cases k with
        | zero => simpa using notHere
        | succ k => simpa using lastIndexOf?_none tail k

theorem lastIndexOf?_last {c : Char} :
    ∀ {s : List Char} {i : Nat}, lastIndexOf? c s = some i → ∀ k : Nat, i < k → s[k]? ≠ some c
  | x :: xs, i, found, k, later => by
    unfold lastIndexOf? at found
    cases k with
    | zero => omega
    | succ k =>
      rw [List.getElem?_cons_succ]
      split at found
      · next j tail =>
        cases found
        exact lastIndexOf?_last tail k (by omega)
      · next tail => exact lastIndexOf?_none tail k

/-- `rfind` answers the last index below `stop` holding `c`. -/
theorem rfind_last {s : List Char} {c : Char} {stop i : Nat} (found : rfind s c stop = some i)
    (k : Nat) (later : i < k) (below : k < stop) : s[k]? ≠ some c := by
  have beyond := lastIndexOf?_last found k later
  rwa [List.getElem?_take_of_lt below] at beyond

theorem rfind_none {s : List Char} {c : Char} {stop : Nat} (absent : rfind s c stop = none)
    (k : Nat) (below : k < stop) : s[k]? ≠ some c := by
  have nowhere := lastIndexOf?_none absent k
  rwa [List.getElem?_take_of_lt below] at nowhere

/-! ## Stripping -/

theorem rdropWhile_append (p : Char → Bool) (xs ys : List Char) :
    (xs ++ ys).rdropWhile p =
      if ys.rdropWhile p = [] then xs.rdropWhile p else xs ++ ys.rdropWhile p := by
  simp only [List.rdropWhile, List.reverse_append, List.dropWhile_append,
    List.reverse_eq_nil_iff, List.isEmpty_iff]
  split <;> simp

theorem dropWhile_of_head? {p : Char → Bool} {l : List Char} {c : Char}
    (head : l.head? = some c) (notP : p c = false) : l.dropWhile p = l := by
  cases l with
  | nil => rfl
  | cons x xs => cases head; simp [List.dropWhile_cons, notP]

theorem head?_dropWhile {p : Char → Bool} {l : List Char} {c : Char}
    (head : (l.dropWhile p).head? = some c) : p c = false := by
  induction l with
  | nil => cases head
  | cons x xs ih =>
    rw [List.dropWhile_cons] at head
    split at head
    · exact ih head
    · next notP => cases head; simpa using notP

theorem head?_rdropWhile {p : Char → Bool} {l : List Char} (nonempty : l.rdropWhile p ≠ []) :
    (l.rdropWhile p).head? = l.head? := by
  obtain ⟨rest, split⟩ := List.rdropWhile_prefix (p := p) (l := l)
  conv_rhs => rw [← split]
  cases hr : l.rdropWhile p with
  | nil => exact absurd hr nonempty
  | cons x xs => rfl

/-- What `strip()` leaves never starts with a newline. -/
theorem head?_strip (s : List Char) : (strip s).head? ≠ some '\n' := by
  intro leads
  have kept : strip s ≠ [] := fun empty => by rw [empty] at leads; cases leads
  rw [strip, rstrip, head?_rdropWhile kept, lstrip] at leads
  exact absurd (head?_dropWhile leads) (by rw [isSpace_newline]; decide)

theorem lstrip_rstrip (s : List Char) : lstrip (rstrip s) = rstrip (lstrip s) := by
  conv_lhs => rw [← List.takeWhile_append_dropWhile isSpace s]
  simp only [lstrip, rstrip, rdropWhile_append]
  split
  · next empty =>
    rw [empty, List.rdropWhile_eq_nil_iff.mpr (fun x hx => List.mem_takeWhile_imp hx)]
    rfl
  · next nonempty =>
    rw [List.dropWhile_append_of_pos (fun x hx => List.mem_takeWhile_imp hx)]
    cases hd : s.dropWhile isSpace with
    | nil => simp [hd] at nonempty
    | cons c cs =>
      have notSpace : isSpace c = false := by
        simpa [hd] using List.head_dropWhile_not isSpace s (by simp [hd])
      rw [hd] at nonempty
      exact dropWhile_of_head? (by rw [head?_rdropWhile nonempty]; rfl) notSpace

/-! ## `split(None, 1)` after `strip()` -/

/-- The first whitespace-delimited word of `s`. -/
def firstWord (s : List Char) : List Char := (lstrip s).takeWhile (!isSpace ·)

/-- What follows the first word of `s`. -/
def afterFirstWord (s : List Char) : List Char := (lstrip s).dropWhile (!isSpace ·)

theorem dropWhile_eq_drop (p : Char → Bool) (l : List Char) :
    l.dropWhile p = l.drop (l.takeWhile p).length := by
  have split := List.drop_left (l.takeWhile p) (l.dropWhile p)
  rw [List.takeWhile_append_dropWhile] at split
  exact split.symm

theorem lstrip_eq_nil_of_firstWord {s : List Char} (noWord : firstWord s = []) : lstrip s = [] := by
  cases stripped : lstrip s with
  | nil => rfl
  | cons c cs =>
    have notSpace : isSpace c = false := head?_dropWhile (l := s) (by rw [← lstrip, stripped]; rfl)
    simp [firstWord, stripped, List.takeWhile_cons, notSpace] at noWord

theorem splitOnce_append {word rest : List Char} (nonempty : word ≠ [])
    (wordNoSpace : ∀ c ∈ word, isSpace c = false)
    (restHead : ∀ c, rest.head? = some c → isSpace c = true) :
    splitOnce (word ++ rest) = if lstrip rest = [] then [word] else [word, lstrip rest] := by
  obtain ⟨x, xs, rfl⟩ := List.exists_cons_of_ne_nil nonempty
  have notSpace : ∀ c ∈ x :: xs, (!isSpace c) = true := by simpa using wordNoSpace
  have restDrop : rest.dropWhile (!isSpace ·) = rest := by
    cases rest with
    | nil => rfl
    | cons c cs => simp [List.dropWhile_cons, restHead c rfl]
  have restTake : rest.takeWhile (!isSpace ·) = [] := by
    cases rest with
    | nil => rfl
    | cons c cs => simp [List.takeWhile_cons, restHead c rfl]
  have stripped : lstrip (x :: xs ++ rest) = x :: (xs ++ rest) :=
    dropWhile_of_head? rfl (wordNoSpace x (List.mem_cons_self x xs))
  unfold splitOnce
  rw [stripped]
  dsimp only
  rw [← List.cons_append, List.dropWhile_append_of_pos notSpace,
    List.takeWhile_append_of_pos notSpace, restDrop, restTake, List.append_nil]
  split <;> simp_all

theorem splitOnce_strip (s : List Char) :
    splitOnce (strip s) =
      if firstWord s = [] then []
      else if strip (afterFirstWord s) = [] then [firstWord s]
      else [firstWord s, strip (afterFirstWord s)] := by
  have wordNoSpace : ∀ c ∈ firstWord s, isSpace c = false := fun c mem => by
    simpa using List.mem_takeWhile_imp mem
  have restHead : ∀ c, (afterFirstWord s).head? = some c → isSpace c = true := fun c head => by
    simpa using head?_dropWhile head
  have split : strip s = rstrip (firstWord s ++ afterFirstWord s) := by
    simp [strip, firstWord, afterFirstWord]
  by_cases noWord : firstWord s = []
  · rw [if_pos noWord, strip, lstrip_eq_nil_of_firstWord noWord]
    rfl
  · have wordKept : rstrip (firstWord s) = firstWord s :=
      (List.rdropWhile_eq_self_iff).mpr fun ne => by
        simpa using wordNoSpace _ (List.getLast_mem ne)
    rw [split, rstrip, rdropWhile_append, if_neg noWord]
    by_cases restEmpty : (afterFirstWord s).rdropWhile isSpace = []
    · have : strip (afterFirstWord s) = [] := by
        rw [strip, ← lstrip_rstrip, rstrip, restEmpty]; rfl
      rw [if_pos restEmpty, ← rstrip, wordKept, if_pos this]
      simpa [lstrip] using @splitOnce_append (firstWord s) [] noWord wordNoSpace (by simp)
    · rw [if_neg restEmpty, splitOnce_append noWord wordNoSpace, ← rstrip, lstrip_rstrip]
      · rfl
      · intro c head
        rw [head?_rdropWhile restEmpty] at head
        exact restHead c head

end ConductorBridge
