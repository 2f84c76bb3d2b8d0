import Mathlib.Data.List.Perm.Basic
import Semblance.Regex.Delimited
import Semblance.Text.Bytes

/-!
# The reading of a delimited body

A body is a delimiter, a source, the delimiter again and flags. The flags do not have the delimiter,
so there is one way at most to read a body like this, and it is what parsing finds. Positions in a
body are counted in bytes where it is cut: the source starts after as many bytes as the delimiter
has, and each cut falls between two characters, however many bytes they have.
-/

namespace Semblance

namespace Text

/-! ## Byte offsets -/

/-- Cut a text at a byte offset, unless the offset is past the end or within a character. -/
def cutAt? : Nat → List Char → Option (List Char × List Char)
  | 0, cs => some ([], cs)
  | _ + 1, [] => none
  | offset + 1, c :: rest =>
      if c.utf8Size ≤ offset + 1 then
        (cutAt? (offset + 1 - c.utf8Size) rest).map fun parts => (c :: parts.1, parts.2)
      else none

theorem cutAt?_append (front back : List Char) :
    cutAt? (byteLength front) (front ++ back) = some (front, back) := by
  induction front with
  | nil => rw [byteLength, List.nil_append, cutAt?]
  | cons c rest ih =>
      obtain ⟨offset, size⟩ : ∃ offset, byteLength (c :: rest) = offset + 1 :=
        Nat.exists_eq_add_one.mpr (Nat.add_pos_left c.utf8Size_pos _)
      have left : offset + 1 - c.utf8Size = byteLength rest := by
        rw [← size, byteLength, Nat.add_sub_cancel_left]
      have fits : c.utf8Size ≤ offset + 1 := size ▸ Nat.le_add_right _ _
      rw [size, List.cons_append, cutAt?, if_pos fits, left, ih]
      rfl

theorem cutAt?_eq_some_iff {offset : Nat} {cs front back : List Char} :
    cutAt? offset cs = some (front, back) ↔ cs = front ++ back ∧ offset = byteLength front := by
  refine ⟨fun found => ?_, by rintro ⟨rfl, rfl⟩; exact cutAt?_append front back⟩
  induction cs generalizing offset front with
  | nil =>
      cases offset with
      | zero => cases found; exact ⟨rfl, rfl⟩
      | succ offset => cases found
  | cons c rest ih =>
      cases offset with
      | zero => cases found; exact ⟨rfl, rfl⟩
      | succ offset =>
          rw [cutAt?] at found
          split at found
          · rename_i fits
            obtain ⟨⟨inner, _⟩, inRest, same⟩ := Option.map_eq_some_iff.mp found
            cases same
            obtain ⟨rfl, left⟩ := ih inRest
            exact ⟨rfl, by rw [byteLength, ← left, Nat.add_sub_cancel' fits]⟩
          · cases found

/-- The part of a text between two byte offsets, unless one of them is no place to cut or they are
in the wrong order. -/
def slice? (start stop : Nat) (cs : List Char) : Option (List Char) :=
  (cutAt? stop cs).bind fun parts => (cutAt? start parts.1).map (·.2)

theorem slice?_eq_some_iff {start stop : Nat} {cs part : List Char} :
    slice? start stop cs = some part ↔ ∃ before after,
      cs = before ++ part ++ after ∧ start = byteLength before ∧
        stop = byteLength (before ++ part) := by
  rw [slice?, Option.bind_eq_some_iff]
  constructor
  · rintro ⟨⟨front, after⟩, cut, found⟩
    obtain ⟨⟨before, inner⟩, cutAgain, rfl⟩ := Option.map_eq_some_iff.mp found
    obtain ⟨rfl, rfl⟩ := cutAt?_eq_some_iff.mp cut
    obtain ⟨rfl, rfl⟩ := cutAt?_eq_some_iff.mp cutAgain
    exact ⟨before, after, rfl, rfl, rfl⟩
  · rintro ⟨before, after, rfl, rfl, rfl⟩
    refine ⟨(before ++ part, after), cutAt?_eq_some_iff.mpr ⟨rfl, rfl⟩, ?_⟩
    exact Option.map_eq_some_iff.mpr ⟨(before, part), cutAt?_eq_some_iff.mpr ⟨rfl, rfl⟩, rfl⟩

example : slice? 1 2 ['é', '/'] = none := rfl

/-- The byte offset of the last occurrence of a character. -/
def lastOffset? (sep : Char) : List Char → Option Nat
  | [] => none
  | c :: rest =>
      match lastOffset? sep rest with
      | some offset => some (c.utf8Size + offset)
      | none => if c = sep then some 0 else none

theorem lastOffset?_eq_map (sep : Char) (cs : List Char) :
    lastOffset? sep cs =
      (RegexTest.cutAtLast? sep cs).map fun parts => byteLength parts.1 := by
  induction cs with
  | nil => rfl
  | cons c rest ih =>
      rw [lastOffset?, RegexTest.cutAtLast?, ih]
      cases RegexTest.cutAtLast? sep rest with
      | some parts => rfl
      | none =>
          by_cases same : c = sep
          · simp only [Option.map_none, if_pos same, Option.map_some, byteLength]
          · simp only [Option.map_none, if_neg same]

end Text

namespace RegexTest

/-! ## Flags -/

/-- The letters that are flags. -/
def flagLetters : List Char := ['i', 'm', 's', 'x', 'u', 'g', 'y']

/-- What flags say, by the letters that are among them. -/
def Settings.ofFlags (flags : List Char) : Settings where
  options :=
    { ignoreCase := flags.contains 'i'
      multiLine := flags.contains 'm'
      dotAll := flags.contains 's'
      extended := flags.contains 'x' }
  sticky := flags.contains 'y'

theorem Settings.ofFlags_perm {flags others : List Char} (perm : flags.Perm others) :
    ofFlags flags = ofFlags others := by
  simp only [ofFlags, perm.contains_eq]

/-- One more flag adds what it says to what the flags before it say. -/
theorem Settings.set?_ofFlags (seen : List Char) (flag : Char) :
    (ofFlags seen).set? flag =
      if flag ∈ flagLetters then some (ofFlags (flag :: seen)) else none := by
  unfold set?
  split
  all_goals simp_all [ofFlags, flagLetters]

variable {seen flags : List Char} {s : Settings}

/-- While flags are read, the settings are what the flags seen so far say. So reading goes through
when no flag is repeated and all are letters of flags. -/
theorem readSettings_eq_ok_iff (distinct : seen.Nodup) :
    readSettings seen (.ofFlags seen) flags = .ok s ↔
      ((flags ++ seen).Nodup ∧ ∀ flag ∈ flags, flag ∈ flagLetters) ∧
        s = .ofFlags (flags ++ seen) := by
  induction flags generalizing seen with
  | nil =>
      refine ⟨fun read => ⟨⟨distinct, nofun⟩, (Except.ok.inj read).symm⟩, ?_⟩
      rintro ⟨-, rfl⟩
      rfl
  | cons flag rest ih =>
      rw [readSettings, List.cons_append, List.forall_mem_cons]
      by_cases repeated : flag ∈ seen
      · rw [if_pos (List.contains_iff_mem.mpr repeated)]
        refine ⟨nofun, fun ⟨⟨others, _⟩, _⟩ => ?_⟩
        exact absurd (List.mem_append_right rest repeated) (List.nodup_cons.mp others).1
      rw [if_neg (mt List.contains_iff_mem.mp repeated), Settings.set?_ofFlags]
      by_cases letter : flag ∈ flagLetters
      · have moved : (rest ++ flag :: seen).Perm (flag :: (rest ++ seen)) := List.perm_middle
        rw [if_pos letter, and_iff_right letter, ← moved.nodup_iff, ← Settings.ofFlags_perm moved]
        exact ih (List.nodup_cons.mpr ⟨repeated, distinct⟩)
      · rw [if_neg letter]
        exact ⟨nofun, fun ⟨⟨_, known, _⟩, _⟩ => absurd known letter⟩

/-! ## Parts -/

/-- What becomes of a body once it is cut into a source and flags. -/
def ofParts (source flags : List Char) : Except RegexFault RegexTest := do
  let settings ← readSettings [] {} flags
  match Regex.compile? settings.options (String.ofList source) with
  | none => .error .rejectedSource
  | some regex => return { regex, sticky := settings.sticky }

variable {source : List Char} {test : RegexTest}

theorem ofParts_eq_ok_iff : ofParts source flags = .ok test ↔
    (flags.Nodup ∧ ∀ flag ∈ flags, flag ∈ flagLetters) ∧
      Regex.compile? (Settings.ofFlags flags).options (String.ofList source) = some test.regex ∧
      test.sticky = flags.contains 'y' := by
  have reads {s : Settings} : readSettings [] {} flags = .ok s ↔
      (flags.Nodup ∧ ∀ flag ∈ flags, flag ∈ flagLetters) ∧ s = .ofFlags flags := by
    have all := @readSettings_eq_ok_iff [] flags s .nil
    rwa [List.append_nil] at all
  rw [ofParts]
  cases read : readSettings [] {} flags with
  | error fault =>
      refine ⟨nofun, fun ⟨proper, _⟩ => ?_⟩
      rw [reads.mpr ⟨proper, rfl⟩] at read
      cases read
  | ok settings =>
      obtain ⟨proper, rfl⟩ := reads.mp read
      rw [and_iff_right proper]
      change (match Regex.compile? _ _ with
        | none => .error RegexFault.rejectedSource
        | some regex => .ok ⟨regex, flags.contains 'y'⟩) = Except.ok test ↔ _
      cases Regex.compile? (Settings.ofFlags flags).options (String.ofList source) with
      | none => exact ⟨nofun, nofun⟩
      | some regex =>
          obtain ⟨other, sticky⟩ := test
          rw [Except.ok.injEq, mk.injEq, Option.some.injEq, eq_comm (a := sticky)]

/-- The order of flags says nothing. -/
theorem ofParts_eq_ok_iff_of_perm {others : List Char} (perm : flags.Perm others) :
    ofParts source flags = .ok test ↔ ofParts source others = .ok test := by
  rw [ofParts_eq_ok_iff, ofParts_eq_ok_iff, perm.nodup_iff, Settings.ofFlags_perm perm,
    perm.contains_eq]
  simp only [perm.mem_iff]

theorem source_of_compile? {options : Regex.Options} {source : String} {regex : Regex}
    (compiled : Regex.compile? options source = some regex) : regex.source = source := by
  obtain ⟨tree, -, compiled⟩ := Option.bind_eq_some_iff.mp compiled
  obtain ⟨⟨form, _⟩, -, compiled⟩ := Option.bind_eq_some_iff.mp compiled
  dsimp only at compiled
  split at compiled
  · cases compiled
    rfl
  · cases compiled

/-! ## Readings -/

/-- A source between delimiters, and what comes after the last of them. -/
structure IsCut (body : String) (delimiter : Char) (source flags : List Char) : Prop where
  text : body.toList = delimiter :: (source ++ delimiter :: flags)
  absent : delimiter ∉ flags

/-- A source between delimiters, and flags after it, each of which is given once. -/
structure IsReading (body : String) (delimiter : Char) (source flags : List Char) : Prop
    extends IsCut body delimiter source flags where
  distinct : flags.Nodup
  letters : ∀ flag ∈ flags, flag ∈ flagLetters

variable {body : String} {delimiter : Char}

theorem IsCut.unique {d : Char} {inner last : List Char}
    (cut : IsCut body delimiter source flags) (other : IsCut body d inner last) :
    d = delimiter ∧ inner = source ∧ last = flags := by
  obtain ⟨rfl, same⟩ := List.cons.inj (other.text.symm.trans cut.text)
  have here := cutAtLast?_append other.absent inner
  rw [same, cutAtLast?_append cut.absent source] at here
  cases here
  exact ⟨rfl, rfl, rfl⟩

theorem IsCut.parse_eq (cut : IsCut body delimiter source flags) :
    parse body = ofParts source flags := by
  rw [parse, cut.text]
  dsimp only
  rw [cutAtLast?_append cut.absent]
  rfl

theorem exists_isCut_of_parse (parsed : parse body = .ok test) :
    ∃ delimiter source flags, IsCut body delimiter source flags := by
  rw [parse] at parsed
  split at parsed
  · cases parsed
  · rename_i delimiter rest text
    split at parsed
    · cases parsed
    · rename_i source flags found
      obtain ⟨rfl, absent⟩ := (cutAtLast?_eq_some_iff _ _ _ _).mp found
      exact ⟨delimiter, source, flags, text, absent⟩

/-- Flags in another order are after the same delimiter. -/
theorem IsCut.reordered {others : List Char} (cut : IsCut body delimiter source flags)
    (perm : flags.Perm others) :
    IsCut (String.ofList (delimiter :: (source ++ delimiter :: others))) delimiter source others :=
  ⟨String.toList_ofList, mt perm.mem_iff.mpr cut.absent⟩

/-! ## Slices -/

/-- Parse a body by the byte offsets of its delimiters, unless a slice of it falls outside of the
body or cuts a character. -/
def parseSlices? (body : String) : Option (Except RegexFault RegexTest) :=
  match body.toList with
  | [] => some (.error .emptyBody)
  | delimiter :: rest =>
      let cs := delimiter :: rest
      let start := delimiter.utf8Size
      match (Text.lastOffset? delimiter cs).filter (start ≤ ·) with
      | none => some (.error (.unclosed delimiter))
      | some stop => do
          let source ← Text.slice? start stop cs
          let flags ← Text.slice? (stop + start) (Text.byteLength cs) cs
          return ofParts source flags

theorem slice?_source (delimiter : Char) (source flags : List Char) :
    Text.slice? delimiter.utf8Size (Text.byteLength (delimiter :: source))
      (delimiter :: (source ++ delimiter :: flags)) = some source :=
  Text.slice?_eq_some_iff.mpr ⟨[delimiter], delimiter :: flags, rfl, rfl, rfl⟩

theorem slice?_flags (delimiter : Char) (source flags : List Char) :
    Text.slice? (Text.byteLength (delimiter :: source) + delimiter.utf8Size)
      (Text.byteLength (delimiter :: (source ++ delimiter :: flags)))
      (delimiter :: (source ++ delimiter :: flags)) = some flags := by
  have whole : delimiter :: (source ++ delimiter :: flags) =
      delimiter :: source ++ [delimiter] ++ flags := by
    rw [List.append_assoc]
    rfl
  refine Text.slice?_eq_some_iff.mpr ⟨delimiter :: source ++ [delimiter], [], ?_, ?_, ?_⟩
  · rw [whole, List.append_nil]
  · rw [Text.byteLength_append]
    rfl
  · rw [whole]

/-- Where a first and a last delimiter are found, the source and the flags are slices. -/
theorem parseSlices?_eq (body : String) : parseSlices? body = some (parse body) := by
  rw [parseSlices?, parse]
  cases body.toList with
  | nil => rfl
  | cons delimiter rest =>
      dsimp only
      rw [Text.lastOffset?_eq_map, cutAtLast?]
      cases cut : cutAtLast? delimiter rest with
      | none =>
          -- The delimiter that is found is the first one.
          have early : ¬ delimiter.utf8Size ≤ 0 := Nat.not_le.mpr delimiter.utf8Size_pos
          rw [if_pos rfl, Option.map_some, Option.filter_some, Text.byteLength,
            if_neg (mt of_decide_eq_true early)]
      | some parts =>
          obtain ⟨source, flags⟩ := parts
          obtain ⟨rfl, -⟩ := (cutAtLast?_eq_some_iff _ _ _ _).mp cut
          have late : delimiter.utf8Size ≤ Text.byteLength (delimiter :: source) :=
            Nat.le_add_right _ _
          rw [Option.map_some, Option.filter_some, if_pos (decide_eq_true late)]
          change (Text.slice? _ _ _).bind _ = _
          rw [slice?_source, Option.bind_some, slice?_flags]
          rfl

/-! ## One reading -/

/-- A body is parsed when it has a reading with a source that compiles. It has one reading at most,
which is what the test is made of, and only the order of the flags can be changed. Cut by byte
offsets, the body is parsed in the same way, and no cut falls outside of it or within a character. -/
theorem parse_isReading (body : String) :
    ((∃ test, parse body = .ok test) ↔ ∃ delimiter source flags,
        IsReading body delimiter source flags ∧
          (Regex.compile? (Settings.ofFlags flags).options (String.ofList source)).isSome = true) ∧
      (∀ delimiter source flags, IsReading body delimiter source flags →
        (∀ d inner last, IsReading body d inner last →
          d = delimiter ∧ inner = source ∧ last = flags) ∧
        ∀ test, parse body = .ok test →
          Regex.compile? (Settings.ofFlags flags).options (String.ofList source) =
              some test.regex ∧
            test.regex.source = String.ofList source ∧ (test.sticky = true ↔ 'y' ∈ flags)) ∧
      (∀ delimiter source flags others, IsCut body delimiter source flags → flags.Perm others →
        ∀ test, parse body = .ok test ↔
          parse (String.ofList (delimiter :: (source ++ delimiter :: others))) = .ok test) ∧
      parseSlices? body = some (parse body) := by
  refine ⟨⟨?_, ?_⟩, ?_, ?_, parseSlices?_eq body⟩
  · rintro ⟨test, parsed⟩
    obtain ⟨delimiter, source, flags, cut⟩ := exists_isCut_of_parse parsed
    rw [cut.parse_eq, ofParts_eq_ok_iff] at parsed
    obtain ⟨⟨distinct, letters⟩, compiled, -⟩ := parsed
    exact ⟨delimiter, source, flags, ⟨cut, distinct, letters⟩,
      Option.isSome_of_eq_some compiled⟩
  · rintro ⟨delimiter, source, flags, reading, compiles⟩
    obtain ⟨regex, compiled⟩ := Option.isSome_iff_exists.mp compiles
    refine ⟨⟨regex, flags.contains 'y'⟩, reading.parse_eq.trans ?_⟩
    exact ofParts_eq_ok_iff.mpr ⟨⟨reading.distinct, reading.letters⟩, compiled, rfl⟩
  · refine fun delimiter source flags reading => ⟨fun d inner last other => ?_, ?_⟩
    · exact reading.toIsCut.unique other.toIsCut
    · intro test parsed
      rw [reading.parse_eq, ofParts_eq_ok_iff] at parsed
      obtain ⟨-, compiled, sticky⟩ := parsed
      exact ⟨compiled, source_of_compile? compiled, by rw [sticky, List.contains_iff_mem]⟩
  · intro delimiter source flags others cut perm test
    rw [cut.parse_eq, (cut.reordered perm).parse_eq]
    exact ofParts_eq_ok_iff_of_perm perm

end RegexTest

end Semblance
