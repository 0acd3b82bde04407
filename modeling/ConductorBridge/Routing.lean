import ConductorBridge.Text
import Mathlib.Data.List.Perm.Basic

/-!
# Message routing

`parse_profile_prefix` reads an explicit target profile off the front of a user message,
in one of two forms: `/p <profile> <message>` and `<profile>: <message>`. The first form
is tried first; the second takes the first profile in registry order whose name and a
colon start the text. When no name contains a colon at most one name can start the text
that way, so the registry order never matters.
-/

namespace ConductorBridge

/-- The `/p <profile> <message>` branch of `parse_profile_prefix`:
`text[3:].strip().split(None, 1)` and a registered first field. -/
def slashPrefix (text : String) (profiles : List String) : Option (String × String) :=
  if "/p ".data.isPrefixOf text.data then
    match splitOnce (strip (text.data.drop 3)) with
    | [word, rest] =>
      if String.mk word ∈ profiles then some (String.mk word, String.mk rest) else none
    | [word] => if String.mk word ∈ profiles then some (String.mk word, "") else none
    | _ => none
  else none

/-- The `<profile>: <message>` branch: the first profile, in registry order, such that
`text.startswith(f"{profile}:")`. -/
def colonPrefix (text : String) (profiles : List String) : Option String :=
  profiles.find? fun profile => (profile.data ++ [':']).isPrefixOf text.data

/-- `parse_profile_prefix(text, profiles)`: the explicit target profile, if any, and the
message with the prefix removed. -/
def parseProfilePrefix (text : String) (profiles : List String) : Option String × String :=
  match slashPrefix text profiles with
  | some (profile, message) => (some profile, message)
  | none =>
    match colonPrefix text profiles with
    | some profile => (some profile, String.mk (strip (text.data.drop (profile.length + 1))))
    | none => (none, text)

example : parseProfilePrefix "/p work hello" ["default", "work"] = (some "work", "hello") := by
  decide

example : parseProfilePrefix "/p unknown hi" ["default", "work"] = (none, "/p unknown hi") := by
  decide

/-! ## The `/p` form -/

theorem slashPrefix_eq_some {text : String} {profiles : List String} {profile message : String}
    (found : slashPrefix text profiles = some (profile, message)) :
    profile ∈ profiles ∧ "/p ".data <+: text.data ∧ profile.data = firstWord (text.data.drop 3) ∧
      message.data = strip (afterFirstWord (text.data.drop 3)) := by
  unfold slashPrefix at found
  split at found
  · next slash =>
    rw [splitOnce_strip] at found
    split_ifs at found with noWord noRest <;> simp only at found
    · split_ifs at found with mem
      cases found
      exact ⟨mem, by simpa using slash, rfl, noRest.symm⟩
    · split_ifs at found with mem
      cases found
      exact ⟨mem, by simpa using slash, rfl, rfl⟩
  · cases found

/-- A space-free name typed after `/p ` is read back whole, with the stripped rest. -/
theorem slashPrefix_of_word {profiles : List String} {profile message : String}
    (mem : profile ∈ profiles) (nonempty : profile.data ≠ [])
    (noSpace : ∀ c ∈ profile.data, isSpace c = false) :
    slashPrefix ("/p " ++ profile ++ " " ++ message) profiles =
      some (profile, String.mk (strip message.data)) := by
  have dropped : ("/p " ++ profile ++ " " ++ message).data.drop 3 =
      profile.data ++ (' ' :: message.data) := by simp
  obtain ⟨c, cs, split⟩ := List.exists_cons_of_ne_nil nonempty
  have kept : lstrip (profile.data ++ ' ' :: message.data) = profile.data ++ ' ' :: message.data :=
    dropWhile_of_head? (by simp [split]) (noSpace c (by simp [split]))
  have word : firstWord (profile.data ++ ' ' :: message.data) = profile.data := by
    rw [firstWord, kept, List.takeWhile_append_of_pos (by simpa using noSpace)]
    simp
  have after : afterFirstWord (profile.data ++ ' ' :: message.data) = ' ' :: message.data := by
    rw [afterFirstWord, kept, List.dropWhile_append_of_pos (by simpa using noSpace)]
    simp
  have stripSpace : strip (' ' :: message.data) = strip message.data := by
    simp [strip, lstrip, List.dropWhile_cons]
  unfold slashPrefix
  rw [if_pos (by simp), dropped, splitOnce_strip, word, after, stripSpace, if_neg nonempty]
  by_cases empty : strip message.data = [] <;> simp [empty, mem]

/-! ## The `<profile>:` form -/

theorem eq_of_colon_prefixed_of_length_le {name other text : List Char} (noColon : ':' ∉ other)
    (namePrefix : name ++ [':'] <+: text) (otherPrefix : other ++ [':'] <+: text)
    (shorter : name.length ≤ other.length) : name = other := by
  have nested : name ++ [':'] <+: other ++ [':'] :=
    List.prefix_of_prefix_length_le namePrefix otherPrefix (by simpa using shorter)
  rcases Nat.lt_or_eq_of_le shorter with strictly | same
  · have atColon := nested.getElem (n := name.length) (by simp)
    simp only [List.getElem_append_right (Nat.le_refl _), Nat.sub_self,
      List.getElem_append_left strictly] at atColon
    exact absurd (atColon ▸ List.getElem_mem strictly) (by simpa using noColon)
  · exact List.append_cancel_right (nested.eq_of_length (by simp [same]))

/-- No two colon-free names can both start the same text followed by a colon. -/
theorem eq_of_colon_prefixed {name other text : List Char} (nameNoColon : ':' ∉ name)
    (otherNoColon : ':' ∉ other) (namePrefix : name ++ [':'] <+: text)
    (otherPrefix : other ++ [':'] <+: text) : name = other := by
  rcases Nat.le_total name.length other.length with shorter | longer
  · exact eq_of_colon_prefixed_of_length_le otherNoColon namePrefix otherPrefix shorter
  · exact (eq_of_colon_prefixed_of_length_le nameNoColon otherPrefix namePrefix longer).symm

theorem colonPrefix_eq_some {text profile : String} {profiles : List String}
    (found : colonPrefix text profiles = some profile) :
    profile ∈ profiles ∧ profile.data ++ [':'] <+: text.data := by
  refine ⟨List.mem_of_find?_eq_some found, ?_⟩
  simpa using List.find?_some found

/-- With colon-free names the colon form finds the same name in any registry order. -/
theorem colonPrefix_perm {text : String} {profiles others : List String}
    (noColon : ∀ name ∈ profiles, ':' ∉ name.data) (perm : others.Perm profiles) :
    colonPrefix text profiles = colonPrefix text others := by
  cases found : colonPrefix text profiles with
  | none =>
    refine (List.find?_eq_none.mpr fun name mem => ?_).symm
    exact List.find?_eq_none.mp found name (perm.mem_iff.mp mem)
  | some profile =>
    obtain ⟨mem, starts⟩ := colonPrefix_eq_some found
    cases foundOther : colonPrefix text others with
    | none =>
      have := List.find?_eq_none.mp foundOther profile (perm.mem_iff.mpr mem)
      simp_all
    | some other =>
      obtain ⟨otherMem, otherStarts⟩ := colonPrefix_eq_some foundOther
      rw [String.ext (eq_of_colon_prefixed (noColon profile mem)
        (noColon other (perm.mem_iff.mp otherMem)) starts otherStarts)]

theorem colonPrefix_of_prefix {profiles : List String} {profile : String} {text : String}
    (mem : profile ∈ profiles) (noColon : ∀ name ∈ profiles, ':' ∉ name.data)
    (starts : profile.data ++ [':'] <+: text.data) : colonPrefix text profiles = some profile := by
  cases found : colonPrefix text profiles with
  | none => simpa [starts] using List.find?_eq_none.mp found profile mem
  | some other =>
    obtain ⟨otherMem, otherStarts⟩ := colonPrefix_eq_some found
    rw [String.ext (eq_of_colon_prefixed (noColon other otherMem) (noColon profile mem)
      otherStarts starts)]

/-- A colon form with a non-empty space-free name does not read as the `/p ` form. -/
theorem slashPrefix_colon_form {profiles : List String} {profile message : String}
    (nonempty : profile.data ≠ []) (noSpace : ∀ c ∈ profile.data, isSpace c = false) :
    slashPrefix (profile ++ ":" ++ message) profiles = none := by
  rcases profile with ⟨_ | ⟨a, _ | ⟨b, _ | ⟨c, rest⟩⟩⟩⟩
  · exact absurd rfl nonempty
  · simp [slashPrefix]
  · simp [slashPrefix]
  · have letter : isSpace c = false := noSpace c (by simp)
    simp only [slashPrefix, String.data_append, List.isPrefixOf_iff_prefix]
    rw [if_neg]
    intro starts
    have := starts.getElem (n := 2) (by simp)
    simp at this
    simp [← this] at letter

theorem slashPrefix_perm {text : String} {profiles others : List String}
    (perm : others.Perm profiles) : slashPrefix text profiles = slashPrefix text others := by
  simp only [slashPrefix, perm.mem_iff]

/-! ## `parse_profile_prefix` -/

theorem parseProfilePrefix_eq_some {text : String} {profiles : List String}
    {profile message : String}
      (parsed : parseProfilePrefix text profiles = (some profile, message)) :
    profile ∈ profiles ∧
      (("/p ".data <+: text.data ∧ profile.data = firstWord (text.data.drop 3) ∧
          message.data = strip (afterFirstWord (text.data.drop 3))) ∨
        (profile.data ++ [':'] <+: text.data ∧
          message.data = strip (text.data.drop (profile.length + 1)))) := by
  unfold parseProfilePrefix at parsed
  split at parsed
  · next found =>
    cases parsed
    obtain ⟨mem, slash, word, rest⟩ := slashPrefix_eq_some found
    exact ⟨mem, .inl ⟨slash, word, rest⟩⟩
  · split at parsed
    · next found =>
      cases parsed
      obtain ⟨mem, starts⟩ := colonPrefix_eq_some found
      exact ⟨mem, .inr ⟨starts, rfl⟩⟩
    · cases parsed

theorem parseProfilePrefix_eq_none {text : String} {profiles : List String} {message : String}
    (parsed : parseProfilePrefix text profiles = (none, message)) : message = text := by
  unfold parseProfilePrefix at parsed
  split at parsed
  · cases parsed
  · split at parsed <;> cases parsed
    rfl

section WellFormedNames

variable {profiles : List String}
  (names : ∀ name ∈ profiles, name.data ≠ [] ∧ (∀ c ∈ name.data, isSpace c = false) ∧
    ':' ∉ name.data)
include names

theorem parseProfilePrefix_slash_form {profile : String} (mem : profile ∈ profiles)
    (message : String) :
    parseProfilePrefix ("/p " ++ profile ++ " " ++ message) profiles =
      (some profile, String.mk (strip message.data)) := by
  obtain ⟨nonempty, noSpace, -⟩ := names profile mem
  simp [parseProfilePrefix, slashPrefix_of_word mem nonempty noSpace]

theorem parseProfilePrefix_colon_form {profile : String} (mem : profile ∈ profiles)
    (message : String) :
    parseProfilePrefix (profile ++ ":" ++ message) profiles =
      (some profile, String.mk (strip message.data)) := by
  obtain ⟨nonempty, noSpace, -⟩ := names profile mem
  have found : colonPrefix (profile ++ ":" ++ message) profiles = some profile :=
    colonPrefix_of_prefix mem (fun name mem => (names name mem).2.2) (by simp)
  have dropped : (profile ++ ":" ++ message).data.drop (profile.length + 1) = message.data := by
    rw [String.data_append, String.data_append]
    exact List.drop_left' (by rw [List.length_append, length_data]; rfl)
  simp only [parseProfilePrefix, slashPrefix_colon_form nonempty noSpace, found, dropped]

end WellFormedNames

/-- `parse_profile_prefix` is sound (a returned profile is registered, read off one form) and
complete for space- and colon-free names (both forms read back the name and message). -/
theorem parseProfilePrefix_sound_complete :
    (∀ (text : String) (profiles : List String) (profile message : String),
      parseProfilePrefix text profiles = (some profile, message) →
        profile ∈ profiles ∧
          (("/p ".data <+: text.data ∧ profile.data = firstWord (text.data.drop 3) ∧
              message.data = strip (afterFirstWord (text.data.drop 3))) ∨
            (profile.data ++ [':'] <+: text.data ∧
              message.data = strip (text.data.drop (profile.length + 1))))) ∧
    (∀ (text : String) (profiles : List String) (message : String),
      parseProfilePrefix text profiles = (none, message) → message = text) ∧
    (∀ profiles : List String, (∀ name ∈ profiles, name.data ≠ [] ∧
        (∀ c ∈ name.data, isSpace c = false) ∧ ':' ∉ name.data) →
      ∀ profile ∈ profiles, ∀ message : String,
        parseProfilePrefix ("/p " ++ profile ++ " " ++ message) profiles =
            (some profile, String.mk (strip message.data)) ∧
          parseProfilePrefix (profile ++ ":" ++ message) profiles =
            (some profile, String.mk (strip message.data))) :=
  ⟨fun _ _ _ _ => parseProfilePrefix_eq_some, fun _ _ _ => parseProfilePrefix_eq_none,
    fun _ names _ mem message => ⟨parseProfilePrefix_slash_form names mem message,
      parseProfilePrefix_colon_form names mem message⟩⟩

theorem parseProfilePrefix_sound_complete_work :
    (∀ name ∈ ["default", "work"], name.data ≠ [] ∧ (∀ c ∈ name.data, isSpace c = false) ∧
        ':' ∉ name.data) ∧
      parseProfilePrefix ("/p " ++ "work" ++ " " ++ " ping ") ["default", "work"] =
        (some "work", String.mk (strip " ping ".data)) :=
  have names : ∀ name ∈ ["default", "work"], name.data ≠ [] ∧
      (∀ c ∈ name.data, isSpace c = false) ∧ ':' ∉ name.data := by decide
  ⟨names, (parseProfilePrefix_sound_complete.2.2 _ names "work" (by simp) " ping ").1⟩

/-- Routing does not depend on the registry order when no profile name has a colon. -/
theorem parseProfilePrefix_perm (text : String) (profiles others : List String)
    (noColon : ∀ name ∈ profiles, ':' ∉ name.data) (perm : others.Perm profiles) :
    parseProfilePrefix text profiles = parseProfilePrefix text others := by
  simp only [parseProfilePrefix, slashPrefix_perm perm, colonPrefix_perm noColon perm]

example : parseProfilePrefix "a:b: hi" ["a", "a:b"] ≠
    parseProfilePrefix "a:b: hi" ["a:b", "a"] := by
  decide

theorem parseProfilePrefix_perm_workshop :
    (∀ name ∈ ["work", "workshop"], ':' ∉ name.data) ∧
      (["workshop", "work"].Perm ["work", "workshop"]) ∧
      parseProfilePrefix "workshop: hi" ["work", "workshop"] =
        parseProfilePrefix "workshop: hi" ["workshop", "work"] :=
  have noColon : ∀ name ∈ ["work", "workshop"], ':' ∉ name.data := by decide
  have perm : ["workshop", "work"].Perm ["work", "workshop"] := List.Perm.swap _ _ _
  ⟨noColon, perm, parseProfilePrefix_perm _ _ _ noColon perm⟩

end ConductorBridge
