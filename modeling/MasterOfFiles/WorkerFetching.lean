import Mathlib.Data.List.TakeDrop
import MasterOfFiles.SerializationRoundTrip

/-!
# Fetching an instruction

`fetch_instruction` finds the line with the number of the program counter by counting calls of
`fgets` on a buffer of 256 bytes.  A call reads a line only when it has at most 255 bytes with its
newline; from the first longer line on the count runs ahead of the lines.
-/

namespace MasterOfFiles

namespace Worker

open ByteStrings Serialization

variable {content line rest raw text : List UInt8} {lines : List (List UInt8)}
  {room rounds limit number : Nat}

section Definitions

def newline : UInt8 := 10

/-- What `fgets` reads with room for some bytes, and what it leaves in the file. -/
def readLine : Nat → List UInt8 → List UInt8 × List UInt8
  | 0, content => ([], content)
  | _ + 1, [] => ([], [])
  | room + 1, byte :: content =>
    if byte = newline then ([byte], content)
    else (byte :: (readLine room content).1, (readLine room content).2)

/-- `fgets` on a buffer of a size; `none` is the `NULL` at the end of the file. -/
def fgets (size : Nat) (content : List UInt8) : Option (List UInt8 × List UInt8) :=
  if content = [] then none else some (readLine (size - 1) content)

/-- The copy of a line that ends where `strcspn` finds the newline. -/
def lineText (line : List UInt8) : List UInt8 :=
  (cString line).takeWhile fun byte => byte != newline

/-- The loop of `fetch_instruction`, for at most `rounds` calls of `fgets`. -/
def fetchLoop (programCounter : UInt32) : Nat → UInt32 → List UInt8 → Option (List UInt8)
  | 0, _, _ => none
  | rounds + 1, currentLine, content =>
    (fgets 256 content).bind fun (line, rest) =>
      if currentLine = programCounter then some (lineText line)
      else fetchLoop programCounter rounds (currentLine + 1) rest

/-- `fetch_instruction`; `none` is a -1.  Every call of `fgets` reads a byte, so that a round for
each byte and one more are enough. -/
def fetchInstruction (file : Option (List UInt8)) (programCounter : UInt32) :
    Option (List UInt8) :=
  file.bind fun content => fetchLoop programCounter (content.length + 1) 0 content

/-- The lines of a file with their newlines; the last one may have none. -/
def rawLines : List UInt8 → List (List UInt8)
  | [] => []
  | byte :: content =>
    if byte = newline then [byte] :: rawLines content
    else
      match rawLines content with
      | [] => [[byte]]
      | raw :: lines => (byte :: raw) :: lines

def fileLines (content : List UInt8) : List (List UInt8) :=
  (rawLines content).map fun raw => raw.takeWhile fun byte => byte != newline

/-- What the successive calls of `fgets` read. -/
def pieces : Nat → List UInt8 → List (List UInt8)
  | 0, _ => []
  | rounds + 1, content =>
    match fgets 256 content with
    | none => []
    | some (line, rest) => lineText line :: pieces rounds rest

/-- The first lines up to a number are read in one call each; or the first one that is not has
255 bytes of text, and all after it up to that number are empty. -/
def NumbersLines : Nat → List (List UInt8) → Prop
  | 0, _ => True
  | _ + 1, [] => True
  | limit + 1, raw :: lines =>
    if raw.length ≤ 255 then NumbersLines limit lines
    else raw.length = 256 ∧ newline ∈ raw ∧
      limit ≤ (lines.takeWhile fun line => line == [newline]).length

end Definitions

section Lines

theorem rawLines_eq_nil : rawLines content = [] ↔ content = [] := by
  cases content with
  | nil => simp [rawLines]
  | cons byte content =>
      unfold rawLines
      split
      · simp
      · split
        · simp
        · simp

theorem flatten_rawLines (content : List UInt8) : (rawLines content).flatten = content := by
  induction content with
  | nil => rfl
  | cons byte content ih =>
      unfold rawLines
      split
      · simp [ih]
      · split
        · rename_i empty
          rw [rawLines_eq_nil.mp empty]
          rfl
        · rename_i first others split
          rw [split] at ih
          simpa using ih

/-- A line is a text without newline, with one after it unless it is the last. -/
theorem rawLines_cons (split : rawLines content = raw :: lines) :
    ∃ text, newline ∉ text ∧ (raw = text ++ [newline] ∨ raw = text ∧ text ≠ []) := by
  induction content generalizing raw lines with
  | nil => cases split
  | cons byte content ih =>
      unfold rawLines at split
      split at split
      · rename_i ends
        cases split
        exact ⟨[], by simp, Or.inl (by rw [ends]; rfl)⟩
      · rename_i goesOn
        have other : newline ≠ byte := fun same => goesOn same.symm
        cases rest : rawLines content with
        | nil =>
            rw [rest] at split
            cases split
            exact ⟨[byte], by simp [other], Or.inr ⟨rfl, by simp⟩⟩
        | cons first others =>
            rw [rest] at split
            cases split
            obtain ⟨text, none, shape⟩ := ih rest
            refine ⟨byte :: text, by simp [other, none], ?_⟩
            rcases shape with rfl | ⟨rfl, _⟩
            · exact Or.inl rfl
            · exact Or.inr ⟨rfl, by simp⟩

theorem length_pos_of_rawLines (split : rawLines content = raw :: lines) : 0 < raw.length := by
  obtain ⟨text, _, rfl | ⟨rfl, nonempty⟩⟩ := rawLines_cons split
  · simp
  · exact List.length_pos_iff.mpr nonempty

/-- One call of `fgets` reads as much of the first line as fits. -/
theorem readLine_rawLines (split : rawLines content = raw :: lines) :
    (readLine room content).1 = raw.take room ∧
      rawLines (readLine room content).2 =
        if raw.length ≤ room then lines else raw.drop room :: lines := by
  induction content generalizing room raw lines with
  | nil => cases split
  | cons byte content ih =>
      cases room with
      | zero =>
          have nonempty := length_pos_of_rawLines split
          rw [if_neg (by omega)]
          exact ⟨rfl, split⟩
      | succ room =>
          unfold rawLines at split
          by_cases ends : byte = newline
          · rw [if_pos ends] at split
            cases split
            simp [readLine, ends]
          · rw [if_neg ends] at split
            simp only [readLine, if_neg ends]
            cases rest : rawLines content with
            | nil =>
                rw [rest] at split
                cases split
                rw [rawLines_eq_nil.mp rest]
                cases room with
                | zero => exact ⟨rfl, rfl⟩
                | succ room => simp [readLine, rawLines]
            | cons first others =>
                rw [rest] at split
                cases split
                obtain ⟨reads, leaves⟩ := @ih first lines room rest
                rw [reads, leaves]
                simp

theorem takeWhile_of_not_mem (none : newline ∉ text) (rest : List UInt8) :
    (text ++ rest).takeWhile (fun byte => byte != newline) =
      text ++ rest.takeWhile fun byte => byte != newline := by
  apply List.takeWhile_append_of_pos
  intro byte member
  rw [bne_iff_ne]
  rintro rfl
  exact none member

end Lines

section Counting

theorem fgets_of_rawLines (split : rawLines content = raw :: lines) :
    ∃ rest, fgets 256 content = some (raw.take 255, rest) ∧ rest.length < content.length ∧
      rawLines rest = if raw.length ≤ 255 then lines else raw.drop 255 :: lines := by
  have nonempty : content ≠ [] := by
    rintro rfl
    cases split
  obtain ⟨reads, leaves⟩ := @readLine_rawLines content raw lines 255 split
  have taken := length_pos_of_rawLines split
  refine ⟨(readLine 255 content).2, ?_, ?_, leaves⟩
  · rw [fgets, if_neg nonempty, ← reads]
  · have whole := congrArg List.length (flatten_rawLines content)
    have left := congrArg List.length (flatten_rawLines (readLine 255 content).2)
    rw [split, List.flatten_cons, List.length_append] at whole
    rw [leaves] at left
    split at left
    · omega
    · rw [List.flatten_cons, List.length_append, List.length_drop] at left
      omega

theorem length_readLine_le (room : Nat) (content : List UInt8) :
    (readLine room content).1.length ≤ room := by
  induction room generalizing content with
  | zero => exact Nat.le_refl 0
  | succ room ih =>
      cases content with
      | nil => exact Nat.zero_le _
      | cons byte content =>
          rw [readLine]
          split
          · exact Nat.succ_le_succ (Nat.zero_le room)
          · exact Nat.succ_le_succ (ih content)

theorem lineText_bounded (line : List UInt8) :
    (lineText line).length ≤ line.length ∧ 0 ∉ lineText line := by
  have copied := List.takeWhile_sublist (fun byte => byte != newline) (l := cString line)
  have terminated := List.takeWhile_sublist (fun byte => byte != 0) (l := line)
  constructor
  · exact (copied.trans terminated).length_le
  · intro zero
    simpa using List.all_eq_true.mp List.all_takeWhile 0 (copied.subset zero)

/-- An instruction that is fetched has at most 255 bytes, none of them zero. -/
theorem fetchLoop_bounded {programCounter currentLine : UInt32}
    (fetches : fetchLoop programCounter rounds currentLine content = some text) :
    text.length ≤ 255 ∧ 0 ∉ text := by
  induction rounds generalizing currentLine content with
  | zero => cases fetches
  | succ rounds ih =>
      rw [fetchLoop, Option.bind_eq_some_iff] at fetches
      obtain ⟨⟨line, rest⟩, reads, found⟩ := fetches
      dsimp only at found
      split at found
      · obtain rfl : lineText line = text := Option.some.inj found
        have short : line.length ≤ 255 := by
          rw [fgets] at reads
          split at reads
          · cases reads
          · rw [← (Prod.mk.inj (Option.some.inj reads)).1]
            exact length_readLine_le 255 content
        have bounded := lineText_bounded line
        exact ⟨Nat.le_trans bounded.1 short, bounded.2⟩
      · exact ih found

theorem fetchInstruction_bounded {file : Option (List UInt8)} {programCounter : UInt32}
    (fetches : fetchInstruction file programCounter = some text) :
    text.length ≤ 255 ∧ 0 ∉ text := by
  rw [fetchInstruction, Option.bind_eq_some_iff] at fetches
  obtain ⟨content, -, fetches⟩ := fetches
  exact fetchLoop_bounded fetches

theorem fetchLoop_eq {programCounter currentLine : UInt32} (below : currentLine ≤ programCounter) :
    fetchLoop programCounter rounds currentLine content =
      (pieces rounds content)[programCounter.toNat - currentLine.toNat]? := by
  induction rounds generalizing currentLine content with
  | zero => rfl
  | succ rounds ih =>
      rw [fetchLoop, pieces]
      cases fgets 256 content with
      | none => rfl
      | some read =>
          obtain ⟨line, rest⟩ := read
          rw [Option.bind_some]
          dsimp only
          by_cases found : currentLine = programCounter
          · rw [if_pos found, found, Nat.sub_self]
            rfl
          · have before : currentLine.toNat < programCounter.toNat := by
              have different : currentLine.toNat ≠ programCounter.toNat :=
                fun same => found (UInt32.toNat_inj.mp same)
              have ordered := UInt32.le_iff_toNat_le.mp below
              omega
            have word := programCounter.toNat_lt
            have next : (currentLine + 1).toNat = currentLine.toNat + 1 := by
              rw [UInt32.toNat_add]
              exact Nat.mod_eq_of_lt (by change currentLine.toNat + 1 < 2 ^ 32; omega)
            have further : programCounter.toNat - currentLine.toNat =
                programCounter.toNat - (currentLine + 1).toNat + 1 := by
              omega
            rw [if_neg found, ih (UInt32.le_iff_toNat_le.mpr (by omega)), further]
            rfl

theorem pieces_of_rawLines (split : rawLines content = raw :: lines) :
    ∃ rest, pieces (rounds + 1) content = lineText (raw.take 255) :: pieces rounds rest ∧
      rest.length < content.length ∧ (∀ byte ∈ rest, byte ∈ content) ∧
        rawLines rest = if raw.length ≤ 255 then lines else raw.drop 255 :: lines := by
  obtain ⟨rest, reads, shorter, leaves⟩ := fgets_of_rawLines split
  refine ⟨rest, ?_, shorter, ?_, leaves⟩
  · rw [pieces, reads]
  · intro byte member
    rw [← flatten_rawLines content, split, List.flatten_cons]
    rw [← flatten_rawLines rest, leaves] at member
    split at member
    · exact List.mem_append_right _ member
    · rw [List.flatten_cons] at member
      rcases List.mem_append.mp member with inside | after
      · exact List.mem_append_left _ (List.mem_of_mem_drop inside)
      · exact List.mem_append_right _ after

theorem pieces_nil : pieces rounds [] = [] := by
  cases rounds with
  | zero => rfl
  | succ rounds => rfl

/-- Two lists agree up to a number when their heads do and their tails up to the number before. -/
theorem agree_cons {first second : List UInt8} {firsts seconds : List (List UInt8)} :
    (∀ number < limit + 1, (first :: firsts)[number]? = (second :: seconds)[number]?) ↔
      first = second ∧ ∀ number < limit, firsts[number]? = seconds[number]? := by
  constructor
  · intro agree
    constructor
    · simpa using agree 0 (by omega)
    · intro number below
      simpa using agree (number + 1) (by omega)
  · rintro ⟨same, agree⟩ number below
    cases number with
    | zero => simp [same]
    | succ number =>
        simp only [List.getElem?_cons_succ]
        exact agree number (by omega)

theorem lineText_eq (text : 0 ∉ line) :
    lineText line = line.takeWhile fun byte => byte != newline := by
  rw [lineText, cString_eq_self text]

theorem not_mem_of_rawLines (text : 0 ∉ content) (split : rawLines content = raw :: lines) :
    0 ∉ raw := by
  intro zero
  apply text
  rw [← flatten_rawLines content, split, List.flatten_cons]
  exact List.mem_append_left _ zero

theorem lineText_take (text : 0 ∉ raw) (fits : raw.length ≤ 255) :
    lineText (raw.take 255) = raw.takeWhile fun byte => byte != newline := by
  rw [List.take_of_length_le fits, lineText_eq text]

theorem lineText_take_iff (text : 0 ∉ raw) (split : rawLines content = raw :: lines)
    (long : ¬ raw.length ≤ 255) :
    (lineText (raw.take 255) = raw.takeWhile fun byte => byte != newline) ↔
      raw.length = 256 ∧ newline ∈ raw := by
  have part : 0 ∉ raw.take 255 := fun zero => text (List.mem_of_mem_take zero)
  rw [lineText_eq part]
  obtain ⟨body, none, shape⟩ := rawLines_cons split
  have whole : (raw.takeWhile fun byte => byte != newline) = body := by
    rcases shape with rfl | ⟨rfl, _⟩
    · simpa using takeWhile_of_not_mem none [newline]
    · simpa using takeWhile_of_not_mem none []
  have read : ((raw.take 255).takeWhile fun byte => byte != newline) = body.take 255 := by
    have start : raw.take 255 = body.take 255 := by
      rcases shape with rfl | ⟨rfl, _⟩
      · rw [List.length_append, List.length_singleton] at long
        exact List.take_append_of_le_length (by omega)
      · rfl
    have kept : newline ∉ body.take 255 := fun found => none (List.mem_of_mem_take found)
    rw [start]
    simpa using takeWhile_of_not_mem kept []
  rw [whole, read, List.take_eq_self_iff]
  rcases shape with rfl | ⟨rfl, _⟩
  · rw [List.length_append, List.length_singleton] at long ⊢
    simp
    omega
  · simp only [none, and_false, iff_false]
    exact long

/-- What is left over of a line with 255 bytes of text is its newline. -/
theorem drop_of_ends (split : rawLines content = raw :: lines) (length : raw.length = 256)
    (ends : newline ∈ raw) : raw.drop 255 = [newline] := by
  obtain ⟨body, none, rfl | ⟨rfl, _⟩⟩ := rawLines_cons split
  · rw [List.length_append, List.length_singleton] at length
    have count : body.length = 255 := by omega
    rw [← count, List.drop_left]
  · exact absurd ends none

/-- Behind a newline that was left over, the count is right as long as the lines are empty. -/
theorem shifted_iff (text : 0 ∉ content) (enough : content.length < rounds) :
    (∀ number < limit, ([] :: pieces rounds content)[number]? = (fileLines content)[number]?) ↔
      limit ≤ ((rawLines content).takeWhile fun line => line == [newline]).length := by
  induction limit generalizing content rounds with
  | zero => simp
  | succ limit ih =>
      cases rounds with
      | zero => omega
      | succ rounds =>
          cases split : rawLines content with
          | nil =>
              rw [fileLines, split, List.map_nil, List.takeWhile_nil, List.length_nil]
              constructor
              · intro agree
                have impossible := agree 0 (by omega)
                simp at impossible
              · omega
          | cons raw lines =>
              have noNul := not_mem_of_rawLines text split
              obtain ⟨rest, reads, shorter, inside, leaves⟩ :=
                @pieces_of_rawLines content raw lines rounds split
              rw [fileLines, split, List.map_cons, agree_cons, List.takeWhile_cons]
              by_cases empty : raw = [newline]
              · rw [empty] at leaves reads
                rw [if_pos (by simp)] at leaves
                have tail : 0 ∉ rest := fun zero => text (inside 0 zero)
                have further := @ih rest rounds tail (by omega)
                rw [fileLines, leaves] at further
                have first : lineText [newline] = [] := by decide
                rw [reads, List.take_of_length_le (by simp), first, further]
                simp [empty]
              · have nonempty : ([] : List UInt8) ≠
                    raw.takeWhile fun byte => byte != newline := by
                  obtain ⟨body, none, shape⟩ := rawLines_cons split
                  rcases shape with rfl | ⟨rfl, some⟩
                  · rw [takeWhile_of_not_mem none]
                    intro nothing
                    have bodyNil : body = [] := by simpa using nothing.symm
                    exact empty (by rw [bodyNil]; rfl)
                  · have same := takeWhile_of_not_mem none []
                    simp only [List.append_nil, List.takeWhile_nil] at same
                    rw [same]
                    exact fun nothing => some nothing.symm
                simp [nonempty, empty]

/-- The count is right up to a number exactly when the lines up to it are numbered by the calls. -/
theorem pieces_iff (text : 0 ∉ content) (enough : content.length < rounds) :
    (∀ number < limit, (pieces rounds content)[number]? = (fileLines content)[number]?) ↔
      NumbersLines limit (rawLines content) := by
  induction limit generalizing content rounds with
  | zero => simp [NumbersLines]
  | succ limit ih =>
      cases rounds with
      | zero => omega
      | succ rounds =>
          cases split : rawLines content with
          | nil =>
              rw [rawLines_eq_nil.mp split, pieces_nil]
              simp [NumbersLines, fileLines, rawLines]
          | cons raw lines =>
              have noNul := not_mem_of_rawLines text split
              obtain ⟨rest, reads, shorter, inside, leaves⟩ :=
                @pieces_of_rawLines content raw lines rounds split
              have tail : 0 ∉ rest := fun zero => text (inside 0 zero)
              rw [reads, fileLines, split, List.map_cons, agree_cons, NumbersLines]
              by_cases fits : raw.length ≤ 255
              · rw [if_pos fits] at leaves
                have further := @ih rest rounds tail (by omega)
                rw [fileLines, leaves] at further
                rw [lineText_take noNul fits, if_pos fits, further]
                simp
              · rw [if_neg fits] at leaves
                rw [lineText_take_iff noNul split fits, if_neg fits, and_assoc]
                refine and_congr_right fun length => and_congr_right fun ends => ?_
                have left : raw.drop 255 = [newline] := drop_of_ends split length ends
                rw [left] at leaves
                have some : 0 < rest.length := by
                  rw [List.length_pos_iff]
                  rintro rfl
                  cases leaves
                obtain ⟨later, rfl⟩ : ∃ later, rounds = later + 1 := ⟨rounds - 1, by omega⟩
                obtain ⟨further, readsEnd, shorterYet, insideRest, last⟩ :=
                  @pieces_of_rawLines rest [newline] lines later leaves
                rw [if_pos (by simp)] at last
                have first : lineText [newline] = [] := by decide
                have finalTail : 0 ∉ further := fun zero => tail (insideRest 0 zero)
                have shifted := @shifted_iff further later limit finalTail (by omega)
                rw [fileLines, last] at shifted
                rw [readsEnd, List.take_of_length_le (by simp), first]
                exact shifted

end Counting

section Results

theorem numbersLines_iff (few : lines.length < limit) :
    NumbersLines limit lines ↔ ∀ raw ∈ lines, raw.length ≤ 255 := by
  induction lines generalizing limit with
  | nil =>
      cases limit with
      | zero => omega
      | succ limit => simp [NumbersLines]
  | cons raw lines ih =>
      cases limit with
      | zero => omega
      | succ limit =>
          rw [List.length_cons] at few
          rw [NumbersLines, List.forall_mem_cons]
          by_cases fits : raw.length ≤ 255
          · rw [if_pos fits, ih (by omega)]
            simp [fits]
          · have count := (List.takeWhile_sublist
              (fun line => line == [newline]) (l := lines)).length_le
            rw [if_neg fits]
            constructor
            · rintro ⟨_, _, far⟩
              omega
            · exact fun all => absurd all.1 fits

/-- The program counter is a line number exactly when the lines are numbered by the calls of
`fgets`; in a file with less than 2^32 lines, exactly when every line with its newline has at most
255 bytes. -/
theorem fetchInstruction_numbers_iff {content : List UInt8} (text : 0 ∉ content) :
    ((∀ programCounter : UInt32, fetchInstruction (some content) programCounter =
          (fileLines content)[programCounter.toNat]?) ↔
        NumbersLines (2 ^ 32) (rawLines content)) ∧
      ((rawLines content).length < 2 ^ 32 →
        (NumbersLines (2 ^ 32) (rawLines content) ↔
          ∀ raw ∈ rawLines content, raw.length ≤ 255)) := by
  constructor
  · rw [← pieces_iff text (Nat.lt_succ_self content.length)]
    have fetched : ∀ programCounter : UInt32, fetchInstruction (some content) programCounter =
        (pieces (content.length + 1) content)[programCounter.toNat]? := by
      intro programCounter
      have start : (0 : UInt32) ≤ programCounter := UInt32.le_iff_toNat_le.mpr (Nat.zero_le _)
      rw [fetchInstruction, Option.bind_some, fetchLoop_eq start]
      rfl
    constructor
    · intro numbers number below
      have count : (UInt32.ofNat number).toNat = number := by
        rw [UInt32.toNat_ofNat']
        exact Nat.mod_eq_of_lt below
      have line := numbers (UInt32.ofNat number)
      rw [fetched, count] at line
      exact line
    · intro agree programCounter
      rw [fetched]
      exact agree _ programCounter.toNat_lt
  · exact numbersLines_iff

theorem fetchInstruction_numbers_iff_of_short :
    ((∀ programCounter : UInt32,
        fetchInstruction (some (stringBytes "CREATE a:T\n\nEND")) programCounter =
          (fileLines (stringBytes "CREATE a:T\n\nEND"))[programCounter.toNat]?) ↔
        NumbersLines (2 ^ 32) (rawLines (stringBytes "CREATE a:T\n\nEND"))) ∧
      ((rawLines (stringBytes "CREATE a:T\n\nEND")).length < 2 ^ 32 →
        (NumbersLines (2 ^ 32) (rawLines (stringBytes "CREATE a:T\n\nEND")) ↔
          ∀ raw ∈ rawLines (stringBytes "CREATE a:T\n\nEND"), raw.length ≤ 255)) :=
  fetchInstruction_numbers_iff (by decide)

/-- A WRITE of 243 bytes, whose line has 255, and an END. -/
def longWrite : List UInt8 :=
  stringBytes "WRITE a:T 0 " ++ List.replicate 243 65 ++ stringBytes "\nEND\n"

/-- The instruction after the WRITE is fetched as an empty line. -/
theorem fetchInstruction_skips_line :
    fetchInstruction (some longWrite) 1 = some [] ∧
      (fileLines longWrite)[(1 : UInt32).toNat]? = some (stringBytes "END") := by
  decide +kernel

end Results

end Worker

end MasterOfFiles
