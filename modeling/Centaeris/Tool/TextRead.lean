import Centaeris.Foundation.Pager

namespace Centaeris.Tool

open Foundation List

/-!
# Reading a text file page by page

A page takes complete lines from an offset on, until it has as many as were asked for or
the next one would exceed the byte limit, and names the offset to go on from.
-/

def readMaxLines : Nat := 2000

def readMaxBytes : Nat := 50 * 1024

/-- `str::lines`, with the characters of the current line in reverse: a line ends with a line
    feed or with a carriage return and a line feed, and the last one may lack its end. -/
def linesFrom (line : List Char) : List Char → List String
  | [] => if line.isEmpty then [] else [String.ofList line.reverse]
  | '\n' :: rest =>
    String.ofList (if line.head? = some '\r' then line.tail else line).reverse :: linesFrom [] rest
  | c :: rest => linesFrom (c :: line) rest

def allLines (content : String) : List String := linesFrom [] content.toList

inductive TruncatedBy
  | lines
  | bytes
  deriving DecidableEq

/-- The loop of `select_bounded_read_lines`: the lines taken, their bytes with the separators,
    and what ended it. -/
def selectLoop (maxLines : Nat) (lines : List String) (outputBytes : Nat) :
    List String → List String × Nat × Option TruncatedBy
  | [] => (lines, outputBytes, none)
  | line :: rest =>
    if lines.length = maxLines then (lines, outputBytes, some .lines)
    else
      let nextBytes := outputBytes + (if lines.isEmpty then 0 else 1) + line.utf8ByteSize
      if readMaxBytes < nextBytes then (lines, outputBytes, some .bytes)
      else selectLoop maxLines (lines ++ [line]) nextBytes rest

structure BoundedReadSelection where
  lines : List String
  outputBytes : Nat
  truncated : Bool
  truncatedBy : Option TruncatedBy
  firstLineExceedsLimit : Bool
  nextOffset : Option Nat

def selectBoundedReadLines (lines : List String) (offset maxLines : Nat) : BoundedReadSelection :=
  let (selected, outputBytes, cut) := selectLoop maxLines [] 0 (lines.drop offset)
  let endOffset := offset + selected.length
  let truncated := decide (endOffset < lines.length)
  let firstLineExceedsLimit := truncated && (cut == some .bytes && selected.isEmpty)
  { lines := selected
    outputBytes
    truncated
    truncatedBy := if truncated then cut else none
    firstLineExceedsLimit
    nextOffset := if truncated && !firstLineExceedsLimit then some endOffset else none }

structure FileReadOutcome where
  path : String
  startLine : Nat
  endLine : Nat
  totalLines : Nat
  totalBytes : Nat
  outputBytes : Nat
  maxLines : Nat
  maxBytes : Nat
  truncated : Bool
  truncatedBy : Option TruncatedBy
  firstLineExceedsLimit : Bool
  nextOffset : Option Nat
  fileHash : String
  content : String

def textReadOutcome (path fileHash content : String) (offset limit : Option Nat) :
    Outcome FileReadOutcome := do
  let offset := offset.getD 0
  ensure (offset ≤ (allLines content).length) "Read start line exceeds available content"
  let limit := limit.getD readMaxLines
  ensure (limit != 0 && limit ≤ readMaxLines) s!"read file limit must be between 1 and {readMaxLines}"
  let selection := selectBoundedReadLines (allLines content) offset limit
  return {
    path
    startLine := offset + 1
    endLine := offset + selection.lines.length
    totalLines := (allLines content).length
    totalBytes := content.utf8ByteSize
    outputBytes := selection.outputBytes
    maxLines := limit
    maxBytes := readMaxBytes
    truncated := selection.truncated
    truncatedBy := selection.truncatedBy
    firstLineExceedsLimit := selection.firstLineExceedsLimit
    nextOffset := selection.nextOffset
    fileHash
    content := "\n".intercalate selection.lines }

/-- The lines of the file that a page says it holds, by their numbers. -/
def FileReadOutcome.lines (content : String) (page : FileReadOutcome) : List String :=
  ((allLines content).take page.endLine).drop (page.startLine - 1)

def fits (line : String) : Bool := line.utf8ByteSize ≤ readMaxBytes

def joinedBytes (lines : List String) : Nat := ("\n".intercalate lines).utf8ByteSize

theorem joinedBytes_concat (lines : List String) (line : String) :
    joinedBytes (lines ++ [line]) =
      joinedBytes lines + (if lines.isEmpty then 0 else 1) + line.utf8ByteSize := by
  cases lines with
  | nil => simp [joinedBytes]
  | cons first rest =>
    rw [joinedBytes, String.intercalate_append_of_ne_nil (cons_ne_nil _ _) (cons_ne_nil _ _),
      String.intercalate_singleton]
    simp only [String.utf8ByteSize_append]
    rfl

/-- **Where the loop stops.** It takes a front part of the lines, within both limits, and stops
    before a line only when it has all lines it may take or that line does not fit. -/
theorem selectLoop_spec (maxLines : Nat) (rest lines : List String)
    (hbytes : joinedBytes lines ≤ readMaxBytes) :
    ∃ taken back cut, selectLoop maxLines lines (joinedBytes lines) rest =
        (lines ++ taken, joinedBytes (lines ++ taken), cut) ∧ rest = taken ++ back ∧
      joinedBytes (lines ++ taken) ≤ readMaxBytes ∧ (∀ line ∈ taken, fits line = true) ∧
      (back = [] ∨ (cut = some .lines ∧ (lines ++ taken).length = maxLines) ∨
        cut = some .bytes ∧ (lines ++ taken = [] → back.takeWhile fits = [])) := by
  -- along the lines that are left; the invariant is that the byte count is that of the lines taken
  induction rest generalizing lines with
  | nil => exact ⟨[], [], none, by simp [selectLoop], by simpa using hbytes⟩
  | cons line rest ih =>
    rw [selectLoop]
    by_cases hfull : lines.length = maxLines
    · exact ⟨[], line :: rest, some .lines, by simp [hfull], by simpa using ⟨hbytes, hfull⟩⟩
    rw [if_neg hfull, ← joinedBytes_concat]
    by_cases hbig : readMaxBytes < joinedBytes (lines ++ [line])
    · -- the line is refused; if nothing was taken before, it exceeds the limit alone
      refine ⟨[], line :: rest, some .bytes, by simp [hbig], rfl, by simpa using hbytes, by simp, ?_⟩
      refine .inr (.inr ⟨rfl, fun hnone => ?_⟩)
      obtain rfl : lines = [] := by simpa using hnone
      have hline : ¬ line.utf8ByteSize ≤ readMaxBytes := by simpa [joinedBytes] using hbig
      rw [takeWhile_cons_of_neg (by simpa [fits] using hline)]
    · obtain ⟨taken, back, cut, hloop, rfl, hwithin, hfits, hend⟩ :=
        ih (lines ++ [line]) (Nat.not_lt.mp hbig)
      have hline : fits line = true := by
        have := joinedBytes_concat lines line
        simp only [fits, decide_eq_true_eq]
        omega
      rw [append_assoc, singleton_append] at hloop hwithin hend
      exact ⟨line :: taken, back, cut, by simp [hbig, hloop], rfl, hwithin,
        forall_mem_cons.mpr ⟨hline, hfits⟩, hend⟩

section Pages

variable {path fileHash content : String} {offset limit : Option Nat} {page : FileReadOutcome}

/-- What a page is: it holds lines from its offset on, counts their bytes, and goes on after
    them unless nothing more can be read. -/
theorem textReadOutcome_eq_ok (h : textReadOutcome path fileHash content offset limit = .ok page) :
    page.content = "\n".intercalate (page.lines content) ∧
      page.outputBytes = page.content.utf8ByteSize ∧ page.outputBytes ≤ readMaxBytes ∧
      (∀ line ∈ page.lines content, fits line = true) ∧
      ∃ back, (allLines content).drop (offset.getD 0) = page.lines content ++ back ∧
        (page.nextOffset = none → back.takeWhile fits = []) ∧
        ∀ next, page.nextOffset = some next →
          next = offset.getD 0 + (page.lines content).length ∧ page.lines content ≠ [] ∧
            back ≠ [] := by
  simp only [textReadOutcome, Outcome.ok_rules, bool_rules] at h
  obtain ⟨-, ⟨hlim, -⟩, rfl⟩ := h
  obtain ⟨taken, back, cut, hloop, hdrop, hwithin, hfits, hend⟩ :=
    selectLoop_spec (limit.getD readMaxLines) ((allLines content).drop (offset.getD 0)) []
      (Nat.zero_le _)
  have hlen := congrArg length hdrop
  rw [length_drop, length_append] at hlen
  rw [hdrop, nil_append] at hloop
  change selectLoop _ [] 0 _ = _ at hloop
  simp only [selectBoundedReadLines, FileReadOutcome.lines, Nat.add_sub_cancel, drop_take,
    Nat.add_sub_cancel_left, hdrop, hloop, take_left]
  refine ⟨trivial, rfl, hwithin, hfits, back, rfl, ?_⟩
  rcases eq_or_ne back [] with rfl | hback
  · -- the page reaches the end of the file
    have hend : ¬ offset.getD 0 + taken.length < (allLines content).length := by
      rw [length_nil] at hlen
      omega
    simp [hend]
  have hmore : offset.getD 0 + taken.length < (allLines content).length := by
    have := length_pos_iff.mpr hback
    omega
  rcases hend with hnil | ⟨rfl, hfull⟩ | ⟨rfl, hlong⟩
  · exact absurd hnil hback
  · have htaken : taken ≠ [] := by
      rintro rfl
      exact hlim hfull.symm
    simp [hmore, htaken, hback]
  · -- only a line that is too long for an empty page ends the reading here
    rcases eq_or_ne taken [] with rfl | htaken
    · exact ⟨fun _ => hlong rfl, by simp⟩
    · simp [hmore, htaken, hback]

variable (path fileHash content limit) in
/-- Pages of one limit list the lines up to the first one that alone exceeds the byte limit. -/
def textPager : Pager Nat FileReadOutcome String where
  fetch offset := textReadOutcome path fileHash content offset limit
  items := FileReadOutcome.lines content
  next := (·.nextOffset)
  rest offset := ((allLines content).drop (offset.getD 0)).takeWhile fits
  fetch_last offset page hpage hnext := by
    obtain ⟨-, -, -, hfits, back, hdrop, hlast, -⟩ := textReadOutcome_eq_ok hpage
    rw [hdrop, takeWhile_append_of_pos hfits, hlast hnext, append_nil]
  fetch_more offset page after hpage hnext := by
    obtain ⟨-, -, -, hfits, back, hdrop, -, hmore⟩ := textReadOutcome_eq_ok hpage
    obtain ⟨rfl, hlines, -⟩ := hmore after hnext
    rw [hdrop, takeWhile_append_of_pos hfits, Option.getD_some, ← drop_drop, hdrop, drop_left]
    exact ⟨hlines, rfl⟩

end Pages

/-- **Reading page by page is complete.** From offset 0 on, with any accepted limit, the pages end
    and deliver the lines before the first one that alone exceeds the byte limit; every page holds
    the lines it names, counts its bytes, and goes on at a later offset if at all. -/
theorem textReadOutcome_pages (path fileHash content : String) (limit start : Option Nat)
    (hlim : 1 ≤ limit.getD readMaxLines) (hmax : limit.getD readMaxLines ≤ readMaxLines)
    (hstart : start.getD 0 = 0) :
    (∃ pages, Walk (textReadOutcome path fileHash content · limit) (·.nextOffset) start pages ∧
      pages.flatMap (·.lines content) = (allLines content).takeWhile fits) ∧
    ∀ offset page, textReadOutcome path fileHash content offset limit = .ok page →
      page.content = "\n".intercalate (page.lines content) ∧
        page.outputBytes = page.content.utf8ByteSize ∧ page.outputBytes ≤ readMaxBytes ∧
        ∀ next, page.nextOffset = some next → offset.getD 0 < next := by
  let pager := textPager path fileHash content limit
  have hserved : ∀ offset, Visited pager.fetch pager.next offset →
      ∃ page, pager.fetch offset = .ok page := by
    intro offset hvisited
    -- an offset that a page gave is one of a line
    have hwithin : offset.getD 0 ≤ (allLines content).length := by
      cases hvisited with
      | start => exact Nat.zero_le _
      | follow _ hpage hnext =>
        obtain ⟨-, -, -, -, back, hdrop, -, hmore⟩ := textReadOutcome_eq_ok hpage
        obtain ⟨rfl, -, hback⟩ := hmore _ hnext
        have hlen := congrArg length hdrop
        have := length_pos_iff.mpr hback
        rw [length_drop, length_append] at hlen
        rw [Option.getD_some]
        omega
    simp only [pager, textPager, textReadOutcome, Outcome.ok_rules, bool_rules]
    exact ⟨_, hwithin, ⟨Nat.one_le_iff_ne_zero.mp hlim, hmax⟩, rfl⟩
  constructor
  · obtain ⟨pages, hpages⟩ := pager.exists_walk hserved .start
    have hfst : pager.fetch start = pager.fetch none := by
      simp only [pager, textPager, textReadOutcome, hstart, Option.getD_none]
    refine ⟨pages, ?_, pager.walk_items hpages⟩
    cases hpages with
    | last hpage hnext => exact .last (hfst.trans hpage) hnext
    | more hpage hnext hrest => exact .more (hfst.trans hpage) hnext hrest
  · intro offset page hpage
    obtain ⟨hcon, hbytes, hbd, -, back, -, -, hmore⟩ := textReadOutcome_eq_ok hpage
    refine ⟨hcon, hbytes, hbd, fun next hnext => ?_⟩
    obtain ⟨rfl, hlines, -⟩ := hmore next hnext
    exact Nat.lt_add_of_pos_right (length_pos_iff.mpr hlines)

theorem textReadOutcome_pages_two : ∃ pages, Walk (textReadOutcome "a" "" "x\ny\r\n" · (some 1))
      (·.nextOffset) none pages ∧ pages.flatMap (·.lines "x\ny\r\n") = ["x", "y"] := by
  obtain ⟨⟨pages, hwalk, hlines⟩, -⟩ := textReadOutcome_pages "a" "" "x\ny\r\n" (some 1) none
    (by decide) (by decide) rfl
  exact ⟨pages, hwalk, hlines.trans (by decide)⟩

end Centaeris.Tool
