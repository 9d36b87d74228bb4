import CocktailMaker.StripAnsi
import CocktailMaker.LineAssembler
import Mathlib.Data.List.Infix
import Mathlib.Data.List.Nodup

/-!
# The level of a line in the log of a Pod

`parse_firmware_line` goes through the table of level tags, not through the
line: the first tag of the table that stands anywhere in the line gives the
level, and that tag is cut out.  A line gets the level of its own tag as long
as its message names no tag of an earlier row.
-/

namespace CocktailMaker

namespace PodLog

/-- The levels of `spdlog` that Zephyr knows. -/
inductive Level where
  | error
  | warn
  | info
  | debug
  deriving DecidableEq, Repr

/-- `kZephyrLevelTags` -/
def kZephyrLevelTags : List (List UInt8 × Level) :=
  -- "<err>", "<wrn>", "<inf>" and "<dbg>"
  [([0x3c, 0x65, 0x72, 0x72, 0x3e], .error),
    ([0x3c, 0x77, 0x72, 0x6e, 0x3e], .warn),
    ([0x3c, 0x69, 0x6e, 0x66, 0x3e], .info),
    ([0x3c, 0x64, 0x62, 0x67, 0x3e], .debug)]

/-- `' '` -/
def space : UInt8 := 0x20

structure FirmwareLine where
  level : Level := .info
  text : List UInt8
  deriving DecidableEq, Repr

/-- `text.find(needle)` -/
def findText (text needle : List UInt8) : Option Nat :=
  text.tails.findIdx? needle.isPrefixOf

/-- `text.erase(position, count)` -/
def eraseText (text : List UInt8) (position count : Nat) : List UInt8 :=
  text.take position ++ text.drop (position + count)

/-- The rest of the loop body, for a tag at `position`. -/
def eraseTag (text tag : List UInt8) (position : Nat) : List UInt8 :=
  let erased := eraseText text position tag.length
  if erased[position]? = some space then eraseText erased position 1
  else erased

/-- The loop over the rows of the table that are left. -/
def readTag : List (List UInt8 × Level) → FirmwareLine → FirmwareLine
  | [], parsed => parsed
  | (tag, level) :: rows, parsed =>
      match findText parsed.text tag with
      | none => readTag rows parsed
      | some position =>
          { level := level, text := eraseTag parsed.text tag position }

/-- `parse_firmware_line` -/
def parseFirmwareLine (raw : List UInt8) : FirmwareLine :=
  readTag kZephyrLevelTags { text := stripAnsi raw }

theorem findText_eq_none {text needle : List UInt8} :
    findText text needle = none ↔ ¬ needle <:+: text := by
  rw [findText, List.findIdx?_eq_none_iff, ← not_iff_not, not_not]
  simp only [List.mem_tails, not_forall, Bool.not_eq_false,
    List.isPrefixOf_iff_prefix, exists_prop]
  exact (List.infix_iff_prefix_suffix.trans
    (exists_congr fun _ => and_comm)).symm

theorem findText_eq_some {text needle : List UInt8} {position : Nat} :
    findText text needle = some position ↔
      position ≤ text.length ∧ needle <+: text.drop position ∧
        ∀ earlier < position, ¬ needle <+: text.drop earlier := by
  rw [findText, List.findIdx?_eq_some_iff_getElem]
  simp only [List.length_tails, List.getElem_tails, Nat.lt_succ_iff,
    List.isPrefixOf_iff_prefix]
  constructor
  · rintro ⟨inside, stands, first⟩
    exact ⟨inside, stands, first⟩
  · rintro ⟨inside, stands, first⟩
    exact ⟨inside, stands, first⟩

/-- One space at the front is dropped. -/
def withoutSpace (behind : List UInt8) : List UInt8 :=
  if behind.head? = some space then behind.tail else behind

/-- A tag is cut out together with one space behind it. -/
theorem eraseTag_eq (before tag behind : List UInt8) :
    eraseTag (before ++ (tag ++ behind)) tag before.length =
      before ++ withoutSpace behind := by
  have erased : eraseText (before ++ (tag ++ behind)) before.length
      tag.length = before ++ behind := by
    simp [eraseText]
  have next : (before ++ behind)[before.length]? = behind.head? := by
    rw [List.getElem?_append_right (Nat.le_refl _), Nat.sub_self,
      List.head?_eq_getElem?]
  simp only [eraseTag, erased, next, withoutSpace]
  split
  · simp [eraseText]
  · rfl

/-- The loop takes the first row of the table whose tag occurs. -/
theorem readTag_cases (rows : List (List UInt8 × Level))
    (parsed : FirmwareLine) :
    (∀ row ∈ rows, ¬ row.1 <:+: parsed.text) ∧
        readTag rows parsed = parsed ∨
      ∃ earlier row later position, rows = earlier ++ row :: later ∧
        (∀ other ∈ earlier, ¬ other.1 <:+: parsed.text) ∧
        findText parsed.text row.1 = some position ∧
        readTag rows parsed =
          { level := row.2, text := eraseTag parsed.text row.1 position } := by
  induction rows with
  | nil => exact .inl ⟨nofun, rfl⟩
  | cons row rows ih =>
      unfold readTag
      cases finds : findText parsed.text row.1 with
      | some position =>
          exact .inr ⟨[], row, rows, position, rfl, nofun, finds, rfl⟩
      | none =>
          have missing := findText_eq_none.mp finds
          obtain ⟨none, result⟩ |
            ⟨earlier, found, later, position, rfl, none, result⟩ := ih
          · exact .inl ⟨List.forall_mem_cons.mpr ⟨missing, none⟩, result⟩
          · exact .inr ⟨row :: earlier, found, later, position, rfl,
              List.forall_mem_cons.mpr ⟨missing, none⟩, result⟩

/-- The leftmost tag of a text, and its row in the table. -/
structure LeftmostTag (text : List UInt8) (position : Nat)
    (row : List UInt8 × Level) : Prop where
  known : row ∈ kZephyrLevelTags
  stands : row.1 <+: text.drop position
  first : ∀ other ∈ kZephyrLevelTags, ∀ earlier,
    other.1 <+: text.drop earlier → position ≤ earlier

/-- The level is that of the leftmost tag, and the text is the line without
that tag. -/
structure HasOwnLevel (raw : List UInt8) : Prop where
  tagged : ∀ before row behind,
    stripAnsi raw = before ++ (row.1 ++ behind) →
      LeftmostTag (stripAnsi raw) before.length row →
        parseFirmwareLine raw =
          { level := row.2, text := before ++ withoutSpace behind }
  untagged : (∀ row ∈ kZephyrLevelTags, ¬ row.1 <:+: stripAnsi raw) →
    parseFirmwareLine raw = { level := .info, text := stripAnsi raw }

/-- No tag of an earlier row than that of the leftmost tag occurs. -/
def LeftmostInTable (text : List UInt8) : Prop :=
  ∀ position row, LeftmostTag text position row →
    ∀ earlier later, kZephyrLevelTags = earlier ++ row :: later →
      ∀ other ∈ earlier, ¬ other.1 <:+: text

theorem LeftmostTag.occurs {text : List UInt8} {position : Nat}
    {row : List UInt8 × Level} (leftmost : LeftmostTag text position row) :
    row.1 <:+: text :=
  leftmost.stands.isInfix.trans (List.drop_suffix _ _).isInfix

theorem row_of_level {row other : List UInt8 × Level}
    (known : row ∈ kZephyrLevelTags) (otherKnown : other ∈ kZephyrLevelTags)
    (same : row.2 = other.2) : row = other :=
  List.inj_on_of_nodup_map (by decide) known otherKnown same

theorem place_unique {first second firstLater secondLater :
      List (List UInt8 × Level)} {row : List UInt8 × Level}
    (firstPlace : kZephyrLevelTags = first ++ row :: firstLater)
    (secondPlace : kZephyrLevelTags = second ++ row :: secondLater) :
    first = second := by
  have once : (second ++ row :: secondLater).Nodup := by
    rw [← secondPlace]
    decide
  rw [List.nodup_middle, List.nodup_cons, List.mem_append, not_or] at once
  rw [secondPlace, eq_comm] at firstPlace
  exact ((List.append_cons_inj_of_notMem once.1.1 once.1.2).mp
    firstPlace.symm).1.symm

/-- A line gets its own level when that comes first in the table. -/
theorem hasOwnLevel_of_leftmostInTable {raw : List UInt8}
    (inOrder : LeftmostInTable (stripAnsi raw)) : HasOwnLevel raw := by
  obtain ⟨missing, result⟩ |
    ⟨earlier, found, later, position, place, missing, finds, result⟩ :=
    readTag_cases kZephyrLevelTags { text := stripAnsi raw }
  · refine ⟨fun before row behind split leftmost => ?_, fun _ => result⟩
    exact absurd leftmost.occurs (missing row leftmost.known)
  · have foundKnown : found ∈ kZephyrLevelTags := by simp [place]
    obtain ⟨inside, stands, first⟩ := findText_eq_some.mp finds
    have occurs : found.1 <:+: stripAnsi raw :=
      stands.isInfix.trans (List.drop_suffix _ _).isInfix
    refine ⟨fun before row behind split leftmost => ?_, fun untagged => ?_⟩
    · have same : row = found := by
        have known := leftmost.known
        rw [place, List.mem_append, List.mem_cons] at known
        rcases known with before | rfl | behind
        · exact absurd leftmost.occurs (missing row before)
        · rfl
        · obtain ⟨between, others, rfl⟩ := List.append_of_mem behind
          have precedes := inOrder _ row leftmost
            (earlier ++ found :: between) others (by simp [place])
          exact absurd occurs (precedes found (by simp))
      subst same
      have positionEq : position = before.length := by
        refine Nat.le_antisymm ?_ (leftmost.first row foundKnown _ stands)
        by_contra behindLeftmost
        exact first _ (Nat.lt_of_not_le behindLeftmost) leftmost.stands
      rw [parseFirmwareLine, result, positionEq]
      simp only [split, eraseTag_eq]
    · exact absurd occurs (untagged found foundKnown)

theorem tag_nonempty : ∀ row ∈ kZephyrLevelTags, row.1 ≠ [] := by
  decide

theorem LeftmostTag.split {text : List UInt8} {position : Nat}
    {row : List UInt8 × Level} (leftmost : LeftmostTag text position row) :
    ∃ before behind, before.length = position ∧
      text = before ++ (row.1 ++ behind) := by
  obtain ⟨behind, rest⟩ := leftmost.stands
  refine ⟨text.take position, behind, List.length_take_of_le ?_, ?_⟩
  · by_contra outside
    rw [List.drop_eq_nil_of_le (Nat.le_of_not_le outside),
      List.append_eq_nil_iff] at rest
    exact tag_nonempty row leftmost.known rest.1
  · rw [rest, List.take_append_drop]

/-- A line gets the level of its leftmost tag exactly when no tag of an earlier
row of the table occurs in it. -/
theorem hasOwnLevel_iff (raw : List UInt8) :
    HasOwnLevel raw ↔ LeftmostInTable (stripAnsi raw) := by
  refine ⟨fun own position row leftmost earlier later place other member => ?_,
    hasOwnLevel_of_leftmostInTable⟩
  obtain ⟨missing, -⟩ |
    ⟨before, found, behind, foundAt, foundPlace, missing, -, result⟩ :=
    readTag_cases kZephyrLevelTags { text := stripAnsi raw }
  · exact missing other (by simp [place, member])
  · obtain ⟨front, back, rfl, whole⟩ := leftmost.split
    have ownResult := own.tagged front row back whole leftmost
    rw [parseFirmwareLine, result, FirmwareLine.mk.injEq] at ownResult
    obtain rfl : found = row :=
      row_of_level (by simp [foundPlace]) leftmost.known ownResult.1
    rw [← place_unique foundPlace place] at member
    exact missing other member

/-- An informational line that quotes an error tag gets the level of the
quoted tag: "<inf> <err>" -/
theorem not_hasOwnLevel_quoted :
    ¬ HasOwnLevel
      [0x3c, 0x69, 0x6e, 0x66, 0x3e, 0x20, 0x3c, 0x65, 0x72, 0x72, 0x3e] := by
  intro own
  have result := own.tagged [] ([0x3c, 0x69, 0x6e, 0x66, 0x3e], .info)
    [0x20, 0x3c, 0x65, 0x72, 0x72, 0x3e] (by decide)
    ⟨by decide, by decide, fun _ _ _ _ => Nat.zero_le _⟩
  exact absurd result (by decide)

/-- `stream_pod_log`: the lines it logs for the chunks that it has read. -/
def streamPodLog (chunks : List (List UInt8)) : List FirmwareLine :=
  (((LineAssembler.empty kMaxLogLine).feedAll chunks).1.map
    parseFirmwareLine).filter (fun line => !line.text.isEmpty)

/-- What is logged does not depend on how the port delivers the bytes, as long
as no line outgrows the limit. -/
theorem streamPodLog_chunks {chunks others : List (List UInt8)}
    (sameStream : chunks.flatten = others.flatten)
    (short : ∀ run, run <:+: chunks.flatten → newline ∉ run →
      run.length ≤ kMaxLogLine) :
    streamPodLog chunks = streamPodLog others := by
  have lines := (LineAssembler.feedAll_split kMaxLogLine chunks short).1
  rw [sameStream] at short lines
  rw [streamPodLog, streamPodLog, lines,
    (LineAssembler.feedAll_split kMaxLogLine others short).1]

theorem eraseText_sublist (text : List UInt8) (position count : Nat) :
    (eraseText text position count).Sublist text := by
  conv_rhs => rw [← List.take_append_drop position text]
  rw [eraseText, ← List.drop_drop]
  exact (List.drop_sublist _ _).append_left _

theorem readTag_sublist (rows : List (List UInt8 × Level))
    (parsed : FirmwareLine) : (readTag rows parsed).text.Sublist parsed.text := by
  obtain ⟨-, result⟩ | ⟨-, row, -, position, -, -, -, result⟩ :=
    readTag_cases rows parsed
  · rw [result]
  · rw [result]
    simp only [eraseTag]
    split
    · exact (eraseText_sublist _ _ _).trans (eraseText_sublist _ _ _)
    · exact eraseText_sublist _ _ _

/-- Every line that is logged has a text without escape bytes. -/
theorem streamPodLog_text (chunks : List (List UInt8)) :
    ∀ line ∈ streamPodLog chunks, line.text ≠ [] ∧ escape ∉ line.text := by
  intro line member
  obtain ⟨parsed, nonempty⟩ := List.mem_filter.mp member
  obtain ⟨raw, -, rfl⟩ := List.mem_map.mp parsed
  refine ⟨by simpa using nonempty, fun inside => ?_⟩
  exact (stripAnsi_strips raw).notMem
    ((readTag_sublist kZephyrLevelTags _).subset inside)

end PodLog

end CocktailMaker
