import ConductorBridge.Text

/-!
# `split_message`

`split_message` cuts a conductor reply into chunks for Telegram, preferring to cut at
the last newline inside the window and dropping the newlines at each cut. Its `while`
loop is modelled pass by pass: `splitStep` is one pass, `splitLoop` runs at most `fuel`
of them and answers `none` for a loop that is still running. Every pass shortens the
text when `max_len ≥ 1`, so `text.length` passes are enough there; with `max_len = 0`
the loop can spin forever, and no number of passes ends it.
-/

namespace ConductorBridge

/-- `TG_MAX_LENGTH`: Telegram's message length limit. -/
def tgMaxLength : Nat := 4096

/-- One pass of the loop of `split_message` on a text longer than `max_len`: the chunk
it appends and the text it goes on with. -/
def splitStep (maxLen : Nat) (text : List Char) : List Char × List Char :=
  let splitAt := (rfind text '\n' maxLen).getD maxLen
  (text.take splitAt, (text.drop splitAt).dropWhile (· == '\n'))

/-- The `while text:` loop of `split_message`, given at most `fuel` passes. -/
def splitLoop (maxLen : Nat) : Nat → List Char → Option (List (List Char))
  | _, [] => some []
  | 0, _ :: _ => none
  | fuel + 1, text@(_ :: _) =>
    if text.length ≤ maxLen then some [text]
    else (splitLoop maxLen fuel (splitStep maxLen text).2).map ((splitStep maxLen text).1 :: ·)

/-- `split_message(text, max_len)`. -/
def splitMessage (text : List Char) (maxLen : Nat := tgMaxLength) : Option (List (List Char)) :=
  if text.length ≤ maxLen then some [text] else splitLoop maxLen text.length text

/-- `text` is `chunks` laid end to end, each followed by a run of newlines. -/
def SeparatedByNewlines (chunks : List (List Char)) (text : List Char) : Prop :=
  ∃ gaps : List (List Char), gaps.length = chunks.length ∧ (∀ gap ∈ gaps, ∀ c ∈ gap, c = '\n') ∧
    text = (List.zipWith (· ++ ·) chunks gaps).flatten

theorem separatedByNewlines_nil : SeparatedByNewlines [] [] := ⟨[], rfl, by simp, rfl⟩

theorem separatedByNewlines_single (text : List Char) : SeparatedByNewlines [text] text :=
  ⟨[[]], rfl, by simp, by simp⟩

theorem SeparatedByNewlines.cons {chunks : List (List Char)} {chunk gap rest : List Char}
    (tail : SeparatedByNewlines chunks rest) (newlines : ∀ c ∈ gap, c = '\n') :
    SeparatedByNewlines (chunk :: chunks) (chunk ++ gap ++ rest) := by
  obtain ⟨gaps, sameLength, allNewlines, rfl⟩ := tail
  refine ⟨gap :: gaps, by simp [sameLength], ?_, by simp⟩
  simpa using ⟨newlines, allNewlines⟩

/-- The first position at or after `pos` of `text` that does not hold a newline, or the
end of the text. -/
def nextStart (text : List Char) (pos : Nat) : Nat :=
  pos + ((text.drop pos).takeWhile (· == '\n')).length

/-- Where chunks laid out from `pos` start: the first at `pos`, each next one at the first
position after the previous chunk that does not hold a newline. -/
def chunkStarts (text : List Char) (pos : Nat) : List (List Char) → List Nat
  | [] => []
  | chunk :: rest => pos :: chunkStarts text (nextStart text (pos + chunk.length)) rest

/-- The rule for a chunk cut from `rest`: `rest[0:j]` for the last newline `j` of the window
`rest[0:max_len]`, or the whole window when it holds none. -/
def GreedyCut (maxLen : Nat) (rest chunk : List Char) : Prop :=
  Xor' (∃ j < maxLen, rest[j]? = some '\n' ∧ (∀ k, j < k → k < maxLen → rest[k]? ≠ some '\n') ∧
      chunk = rest.take j)
    ((∀ k < maxLen, rest[k]? ≠ some '\n') ∧ chunk = rest.take maxLen)

/-! ## One pass -/

section Step

variable {maxLen : Nat} {text : List Char}

theorem splitAt_le (maxLen : Nat) (text : List Char) :
    (rfind text '\n' maxLen).getD maxLen ≤ maxLen := by
  cases found : rfind text '\n' maxLen with
  | none => rfl
  | some i => exact (rfind_spec found).1.le

theorem splitStep_chunk_length (maxLen : Nat) (text : List Char) :
    (splitStep maxLen text).1.length ≤ maxLen :=
  (List.length_take_le _ _).trans (splitAt_le maxLen text)

theorem splitStep_reassemble (maxLen : Nat) (text : List Char) :
    ∃ gap, (∀ c ∈ gap, c = '\n') ∧
      text = (splitStep maxLen text).1 ++ gap ++ (splitStep maxLen text).2 := by
  refine ⟨(text.drop ((rfind text '\n' maxLen).getD maxLen)).takeWhile (· == '\n'),
    fun c mem => ?_, ?_⟩
  · simpa using List.mem_takeWhile_imp mem
  · simp [splitStep]

theorem splitStep_rest_head (maxLen : Nat) (text : List Char) :
    (splitStep maxLen text).2.head? ≠ some '\n' := fun head => by
  simpa using head?_dropWhile head

/-- A pass that cuts nothing off has found a newline at index 0. -/
theorem splitStep_chunk_eq_nil (positive : 0 < maxLen) (nonempty : text ≠ [])
    (cut : (splitStep maxLen text).1 = []) : text.head? = some '\n' := by
  cases found : rfind text '\n' maxLen with
  | none => simp_all [splitStep, List.take_eq_nil_iff]
  | some i =>
    have atIndex := (rfind_spec found).2
    simp only [splitStep, found, Option.getD_some, List.take_eq_nil_iff] at cut
    rcases cut with rfl | empty
    · rwa [List.head?_eq_getElem?]
    · exact absurd empty nonempty

/-- A pass that goes on shortens the text, by its chunk or by the newline `lstrip` drops. -/
theorem splitStep_rest_length (positive : 0 < maxLen) (long : maxLen < text.length) :
    (splitStep maxLen text).2.length < text.length := by
  by_cases cut : (rfind text '\n' maxLen).getD maxLen = 0
  · have head : text.head? = some '\n' := splitStep_chunk_eq_nil positive
      (List.ne_nil_of_length_pos (by omega)) (by simp [splitStep, cut])
    obtain ⟨rest, rfl⟩ : ∃ rest, text = '\n' :: rest := by
      cases text with
      | nil => cases head
      | cons c cs => cases head; exact ⟨cs, rfl⟩
    simp only [splitStep, cut, List.drop_zero, List.dropWhile_cons, beq_self_eq_true,
      if_true, List.length_cons]
    exact Nat.lt_succ_of_le (List.dropWhile_sublist _).length_le
  · calc (splitStep maxLen text).2.length
        ≤ (text.drop ((rfind text '\n' maxLen).getD maxLen)).length :=
          (List.dropWhile_sublist _).length_le
      _ < text.length := by rw [List.length_drop]; omega

/-- Every pass cuts its chunk by the rule `GreedyCut`. -/
theorem splitStep_greedyCut (maxLen : Nat) (text : List Char) :
    GreedyCut maxLen text (splitStep maxLen text).1 := by
  cases found : rfind text '\n' maxLen with
  | none =>
    have absent := rfind_none found
    exact .inr ⟨⟨absent, by simp [splitStep, found]⟩, fun ⟨j, below, atJ, _⟩ => absent j below atJ⟩
  | some j =>
    obtain ⟨below, atJ⟩ := rfind_spec found
    exact .inl ⟨⟨j, below, atJ, rfind_last found, by simp [splitStep, found]⟩,
      fun ⟨absent, _⟩ => absent j below atJ⟩

/-- A pass goes on from the first position after its chunk that holds no newline. -/
theorem splitStep_rest_eq_drop {pos : Nat} (long : maxLen < (text.drop pos).length) :
    (splitStep maxLen (text.drop pos)).2 =
      text.drop (nextStart text (pos + (splitStep maxLen (text.drop pos)).1.length)) := by
  have cut := splitAt_le maxLen (text.drop pos)
  simp only [splitStep, List.length_take, nextStart]
  rw [Nat.min_eq_left (by omega), dropWhile_eq_drop, List.drop_drop, List.drop_drop, List.drop_drop,
    Nat.add_assoc]

end Step

/-! ## The loop -/

section Loop

variable {maxLen fuel : Nat} {text : List Char} {chunks : List (List Char)}

@[simp] theorem splitLoop_nil (maxLen fuel : Nat) : splitLoop maxLen fuel [] = some [] := by
  cases fuel <;> rfl

/-- A run of the loop did nothing, made one last pass, or cut a chunk and ran on the rest. -/
theorem splitLoop_eq_some (done : splitLoop maxLen fuel text = some chunks) :
    (text = [] ∧ chunks = []) ∨ (text ≠ [] ∧ text.length ≤ maxLen ∧ chunks = [text]) ∨
      ∃ rest tail, fuel = rest + 1 ∧ maxLen < text.length ∧
        splitLoop maxLen rest (splitStep maxLen text).2 = some tail ∧
        chunks = (splitStep maxLen text).1 :: tail := by
  match fuel, text, done with
  | _, [], done => simp_all
  | rest + 1, c :: cs, done =>
    simp only [splitLoop] at done
    split at done
    · next short => cases done; exact .inr (.inl ⟨List.cons_ne_nil _ _, short, rfl⟩)
    · next long =>
      obtain ⟨tail, run, rfl⟩ := Option.map_eq_some'.mp done
      exact .inr (.inr ⟨rest, tail, rfl, Nat.lt_of_not_le long, run, rfl⟩)

theorem splitLoop_isSome (positive : 0 < maxLen) :
    ∀ (fuel : Nat) (text : List Char), text.length ≤ fuel → (splitLoop maxLen fuel text).isSome
  | _, [], _ => by simp
  | 0, _ :: _, enough => by simp at enough
  | fuel + 1, c :: cs, enough => by
    simp only [splitLoop]
    split
    · rfl
    · next long =>
      rw [Option.isSome_map']
      exact splitLoop_isSome positive fuel _ (by
        have := splitStep_rest_length positive (Nat.lt_of_not_le long); omega)

theorem splitLoop_chunk_length {fuel : Nat} {text : List Char} {chunks : List (List Char)}
    (done : splitLoop maxLen fuel text = some chunks) :
    ∀ chunk ∈ chunks, chunk.length ≤ maxLen := by
  rcases splitLoop_eq_some done with ⟨-, rfl⟩ | ⟨-, short, rfl⟩ | ⟨_, tail, rfl, -, run, rfl⟩
  · simp
  · simpa using short
  · simpa [splitStep_chunk_length] using splitLoop_chunk_length run
termination_by fuel

theorem splitLoop_reassembles {fuel : Nat} {text : List Char} {chunks : List (List Char)}
    (done : splitLoop maxLen fuel text = some chunks) :
    SeparatedByNewlines chunks text := by
  rcases splitLoop_eq_some done with ⟨rfl, rfl⟩ | ⟨-, -, rfl⟩ | ⟨_, tail, rfl, -, run, rfl⟩
  · exact separatedByNewlines_nil
  · exact separatedByNewlines_single _
  · obtain ⟨gap, newlines, split⟩ := splitStep_reassemble maxLen text
    have : SeparatedByNewlines ((splitStep maxLen text).1 :: tail)
        ((splitStep maxLen text).1 ++ gap ++ (splitStep maxLen text).2) :=
      (splitLoop_reassembles run).cons newlines
    rwa [← split] at this
termination_by fuel

/-- Once the text does not start with a newline, no pass cuts an empty chunk. -/
theorem splitLoop_chunk_ne_nil (positive : 0 < maxLen) {fuel : Nat} {text : List Char}
    {chunks : List (List Char)} (head : text.head? ≠ some '\n')
    (done : splitLoop maxLen fuel text = some chunks) : ∀ chunk ∈ chunks, chunk ≠ [] := by
  rcases splitLoop_eq_some done with ⟨-, rfl⟩ | ⟨nonempty, -, rfl⟩ | ⟨_, tail, rfl, long, run, rfl⟩
  · simp
  · simpa using nonempty
  · simp only [List.mem_cons, forall_eq_or_imp]
    exact ⟨fun cut => head (splitStep_chunk_eq_nil positive
        (List.ne_nil_of_length_pos (by omega)) cut),
      splitLoop_chunk_ne_nil positive (splitStep_rest_head _ _) run⟩
termination_by fuel

/-- A loop that ends at once records the whole text as one chunk, starting where it does. -/
theorem chunkStarts_single {text : List Char} {pos i : Nat} {chunk : List Char} {start : Nat}
    (found : [text.drop pos][i]? = some chunk)
    (starts : (chunkStarts text pos [text.drop pos])[i]? = some start) :
    chunk <+: text.drop start ∧ ¬ i + 1 < 1 := by
  cases i with
  | zero =>
    simp only [chunkStarts, List.getElem?_cons_zero, Option.some.injEq] at found starts
    subst found starts
    exact ⟨List.prefix_refl _, by omega⟩
  | succ i => simp at found

/-- Every run of the loop cuts each chunk but the last by the rule, where `chunkStarts` says. -/
theorem splitLoop_greedy (text : List Char) {fuel pos : Nat} {chunks : List (List Char)}
    (done : splitLoop maxLen fuel (text.drop pos) = some chunks) :
    ∀ i chunk start, chunks[i]? = some chunk → (chunkStarts text pos chunks)[i]? = some start →
      chunk <+: text.drop start ∧
        (i + 1 < chunks.length → GreedyCut maxLen (text.drop start) chunk) := by
  intro i chunk start found starts
  rcases splitLoop_eq_some done with ⟨-, rfl⟩ | ⟨-, -, rfl⟩ | ⟨rest, tail, rfl, long, run, rfl⟩
  · simp at found
  · exact (chunkStarts_single found starts).imp_right fun never later => absurd later never
  · rw [splitStep_rest_eq_drop long] at run
    cases i with
    | zero =>
      simp only [chunkStarts, List.getElem?_cons_zero, Option.some.injEq] at found starts
      subst found starts
      exact ⟨List.take_prefix _ _, fun _ => splitStep_greedyCut maxLen _⟩
    | succ i =>
      simp only [chunkStarts, List.getElem?_cons_succ, List.length_cons] at found starts
      exact (splitLoop_greedy text run i chunk start found starts).imp_right
        fun cut later => cut (by rw [List.length_cons] at later; omega)
termination_by fuel

end Loop

/-! ## `split_message` -/

theorem splitMessage_isSome {maxLen : Nat} (positive : 0 < maxLen) (text : List Char) :
    (splitMessage text maxLen).isSome := by
  unfold splitMessage
  split
  · rfl
  · exact splitLoop_isSome positive _ _ le_rfl

theorem splitMessage_eq_some {maxLen : Nat} (positive : 0 < maxLen) (text : List Char) :
    ∃ chunks, splitMessage text maxLen = some chunks :=
  Option.isSome_iff_exists.mp (splitMessage_isSome positive text)

theorem splitMessage_chunk_length_of_eq {maxLen : Nat} {text : List Char}
    {chunks : List (List Char)} (done : splitMessage text maxLen = some chunks) :
    ∀ chunk ∈ chunks, chunk.length ≤ maxLen := by
  unfold splitMessage at done
  split at done
  · next short => cases done; simpa using short
  · exact splitLoop_chunk_length done

theorem splitMessage_reassembles_of_eq {maxLen : Nat} {text : List Char}
    {chunks : List (List Char)} (done : splitMessage text maxLen = some chunks) :
    SeparatedByNewlines chunks text := by
  unfold splitMessage at done
  split at done
  · cases done; exact separatedByNewlines_single _
  · exact splitLoop_reassembles done

/-- The chunks of `split_message` are consecutive pieces of the text, in order, and the
only code points left out are newlines at the cuts. -/
theorem splitMessage_separatedByNewlines (text : List Char) (maxLen : Nat) (positive : 1 ≤ maxLen) :
    ∃ chunks, splitMessage text maxLen = some chunks ∧ SeparatedByNewlines chunks text :=
  (splitMessage_eq_some positive text).imp fun _ done =>
    ⟨done, splitMessage_reassembles_of_eq done⟩

theorem splitMessage_separatedByNewlines_one_ab :
    1 ≤ 1 ∧ ∃ chunks, splitMessage "\nab".toList 1 = some chunks ∧
      SeparatedByNewlines chunks "\nab".toList :=
  ⟨le_rfl, splitMessage_separatedByNewlines _ 1 le_rfl⟩

/-- No chunk of `split_message` is longer than `max_len`. -/
theorem splitMessage_chunk_length (text : List Char) (maxLen : Nat) (positive : 1 ≤ maxLen) :
    ∃ chunks, splitMessage text maxLen = some chunks ∧ ∀ chunk ∈ chunks, chunk.length ≤ maxLen :=
  (splitMessage_eq_some positive text).imp fun _ done =>
    ⟨done, splitMessage_chunk_length_of_eq done⟩

theorem splitMessage_chunk_length_two_abc :
    1 ≤ 2 ∧ ∃ chunks, splitMessage "abc".toList 2 = some chunks ∧
      ∀ chunk ∈ chunks, chunk.length ≤ 2 :=
  ⟨by decide, splitMessage_chunk_length _ 2 (by decide)⟩

/-- A non-empty text that does not start with a newline is cut into non-empty chunks. -/
theorem chunks_ne_nil {text : List Char} {maxLen : Nat} (positive : 1 ≤ maxLen)
    (nonempty : text ≠ []) (head : text.head? ≠ some '\n') :
    ∃ chunks, splitMessage text maxLen = some chunks ∧ ∀ chunk ∈ chunks, chunk ≠ [] := by
  refine (splitMessage_eq_some positive text).imp fun chunks done => ⟨done, ?_⟩
  unfold splitMessage at done
  split at done
  · cases done; simpa using nonempty
  · exact splitLoop_chunk_ne_nil positive head done

/-- `split_message` cuts a non-empty text that does not start with a newline into non-empty
chunks; the replies `handle_message` splits are stripped, so they never start with one. -/
theorem splitMessage_chunk_ne_nil (text : List Char) (maxLen : Nat) (positive : 1 ≤ maxLen)
    (nonempty : text ≠ []) (head : text.head? ≠ some '\n') :
    (∃ chunks, splitMessage text maxLen = some chunks ∧ ∀ chunk ∈ chunks, chunk ≠ []) ∧
      ∀ reply : String, (stripStr reply).data.head? ≠ some '\n' ∧
        (stripStr reply ≠ "" → ∃ chunks, splitMessage (stripStr reply).data = some chunks ∧
          ∀ chunk ∈ chunks, chunk ≠ []) :=
  ⟨chunks_ne_nil positive nonempty head, fun reply =>
    ⟨head?_strip reply.data, fun kept =>
      chunks_ne_nil (by decide) (fun empty => kept (String.ext empty)) (head?_strip reply.data)⟩⟩

theorem splitMessage_chunk_ne_nil_one_ab :
    1 ≤ 1 ∧ "ab".toList ≠ [] ∧ "ab".toList.head? ≠ some '\n' ∧
      (∃ chunks, splitMessage "ab".toList 1 = some chunks ∧ ∀ chunk ∈ chunks, chunk ≠ []) ∧
        ∀ reply : String, (stripStr reply).data.head? ≠ some '\n' ∧
          (stripStr reply ≠ "" → ∃ chunks, splitMessage (stripStr reply).data = some chunks ∧
            ∀ chunk ∈ chunks, chunk ≠ []) :=
  ⟨le_rfl, by decide, by decide, splitMessage_chunk_ne_nil _ 1 le_rfl (by decide) (by decide)⟩

/-- For `max_len ≥ 1`, each chunk of `split_message` starts at the first non-newline after the
previous one, and each but the last is cut by the rule `GreedyCut`. -/
theorem splitMessage_greedy (text : List Char) (maxLen : Nat) (positive : 1 ≤ maxLen) :
    ∃ chunks, splitMessage text maxLen = some chunks ∧
      ∀ i chunk start, chunks[i]? = some chunk → (chunkStarts text 0 chunks)[i]? = some start →
        chunk <+: text.drop start ∧
          (i + 1 < chunks.length → GreedyCut maxLen (text.drop start) chunk) := by
  refine (splitMessage_eq_some positive text).imp fun chunks done => ⟨done, ?_⟩
  unfold splitMessage at done
  split at done
  · cases done
    intro i chunk start found starts
    exact (@chunkStarts_single text 0 i chunk start (by rwa [List.drop_zero])
      (by rwa [List.drop_zero])).imp_right fun never later => absurd later never
  · exact splitLoop_greedy text (show splitLoop maxLen text.length (text.drop 0) = some chunks by
      rwa [List.drop_zero])

theorem splitMessage_greedy_three :
    1 ≤ 3 ∧ ∃ chunks, splitMessage "a\nb\ncd".toList 3 = some chunks ∧
      ∀ i chunk start, chunks[i]? = some chunk →
        (chunkStarts "a\nb\ncd".toList 0 chunks)[i]? = some start →
        chunk <+: "a\nb\ncd".toList.drop start ∧
          (i + 1 < chunks.length → GreedyCut 3 ("a\nb\ncd".toList.drop start) chunk) :=
  ⟨by decide, splitMessage_greedy _ 3 (by decide)⟩

/-- For `max_len ≥ 1` the loop of `split_message` ends within `len(text)` passes, also when
`rfind` answers `0` and only `lstrip("\n")` shortens the text. -/
theorem splitLoop_terminates (maxLen : Nat) (positive : 1 ≤ maxLen) :
    (∀ text : List Char, ∃ chunks, splitLoop maxLen text.length text = some chunks) ∧
    (∀ text : List Char, maxLen < text.length → (splitStep maxLen text).2.length < text.length) ∧
    ∀ text : List Char, maxLen < text.length → rfind text '\n' maxLen = some 0 →
      (splitStep maxLen text).1 = [] ∧ text.head? = some '\n' ∧
        (splitStep maxLen text).2 = text.dropWhile (· == '\n') ∧
        (splitStep maxLen text).2.length < text.length := by
  refine ⟨fun text => Option.isSome_iff_exists.mp (splitLoop_isSome positive _ _ le_rfl),
    fun text long => splitStep_rest_length positive long, fun text long found => ?_⟩
  have atZero := (rfind_spec found).2
  rw [← List.head?_eq_getElem?] at atZero
  exact ⟨by simp [splitStep, found], atZero, by simp [splitStep, found],
    splitStep_rest_length positive long⟩

theorem splitLoop_terminates_one :
    1 ≤ 1 ∧ (∀ text : List Char, ∃ chunks, splitLoop 1 text.length text = some chunks) ∧
    (∀ text : List Char, 1 < text.length → (splitStep 1 text).2.length < text.length) ∧
    ∀ text : List Char, 1 < text.length → rfind text '\n' 1 = some 0 →
      (splitStep 1 text).1 = [] ∧ text.head? = some '\n' ∧
        (splitStep 1 text).2 = text.dropWhile (· == '\n') ∧
        (splitStep 1 text).2.length < text.length :=
  ⟨le_rfl, splitLoop_terminates 1 le_rfl⟩

/-- With `max_len = 0` every pass cuts an empty chunk and drops only leading newlines, so on a
text with another code point the loop never ends. -/
theorem splitLoop_zero_spins : ∀ (fuel : Nat) {text : List Char}, (∃ c ∈ text, c ≠ '\n') →
    splitLoop 0 fuel text = none
  | 0, [], ⟨_, absent, _⟩ => absurd absent (List.not_mem_nil _)
  | 0, _ :: _, _ => rfl
  | _ + 1, [], ⟨_, absent, _⟩ => absurd absent (List.not_mem_nil _)
  | fuel + 1, x :: xs, ⟨c, mem, other⟩ => by
    have kept : c ∈ (x :: xs).dropWhile (· == '\n') := by
      rw [← List.takeWhile_append_dropWhile (· == '\n') (x :: xs), List.mem_append] at mem
      exact mem.resolve_left fun taken => other (by simpa using List.mem_takeWhile_imp taken)
    simp only [splitLoop, List.length_cons, Nat.le_zero, Nat.succ_ne_zero, if_false]
    rw [show (splitStep 0 (x :: xs)).2 = (x :: xs).dropWhile (· == '\n') from rfl,
      splitLoop_zero_spins fuel ⟨c, kept, other⟩, Option.map_none']

/-- `split_message(text, 0)` on a text holding a code point other than a newline enters its
loop and never leaves it. -/
theorem splitMessage_zero_spins {text : List Char} (other : ∃ c ∈ text, c ≠ '\n') :
    splitMessage text 0 = none ∧ ∀ fuel, splitLoop 0 fuel text = none := by
  have nonempty : ¬ text.length ≤ 0 := by
    obtain ⟨c, mem, _⟩ := other
    have := List.length_pos_of_mem mem
    omega
  refine ⟨?_, fun fuel => splitLoop_zero_spins fuel other⟩
  rw [splitMessage, if_neg nonempty, splitLoop_zero_spins _ other]

theorem splitMessage_zero_spins_a :
    (∃ c ∈ "a".toList, c ≠ '\n') ∧ splitMessage "a".toList 0 = none ∧
      ∀ fuel, splitLoop 0 fuel "a".toList = none :=
  ⟨⟨'a', by decide, by decide⟩, splitMessage_zero_spins ⟨'a', by decide, by decide⟩⟩

/-- A text longer than the limit that starts with its only newline in the window: `rfind`
answers `0` and the first chunk is empty. -/
theorem splitMessage_newline_first :
    splitMessage "\na".toList 1 = some [[], ['a']] := by decide

end ConductorBridge
