/-
Comments that end where they should.

A text is put into a comment line by line, and whatever would end the comment is taken
apart.  Neither the marks in front of a line nor the ends of lines can make up for it, so
the comment ends with its last line only:

* `StaysOpen` — no comment ends in a text;
* `staysOpen_append_iff` — nor does one where two texts meet, except between `*` and `/`;
* `staysOpen_openComment`, `exists_pieces` — the text that is written, with a backslash in
  each `*/` and with nothing else changed;
* `CommentLine.Holds` — the line of a comment that holds a line of text;
* `commentLines_exact` — the whole comment.
-/
import Mathlib.Data.List.Chain
import Ambient.Declaration.Basic

namespace Ambient

/-! ### Where comments end -/

/-- In no place do the characters stand that end a comment. -/
def StaysOpen (cs : List Char) : Prop :=
  ∀ start rest, cs ≠ start ++ '*' :: '/' :: rest

/-- No slash follows a star. -/
theorem staysOpen_iff_isChain {cs : List Char} :
    StaysOpen cs ↔ cs.IsChain fun c d => ¬(c = '*' ∧ d = '/') := by
  rw [List.isChain_iff_forall_rel_of_append_cons_cons]
  constructor
  · rintro h c d start rest rfl ⟨rfl, rfl⟩
    exact h start rest rfl
  · intro h start rest hcs
    exact h hcs ⟨rfl, rfl⟩

instance : DecidablePred StaysOpen :=
  fun _ => decidable_of_iff _ staysOpen_iff_isChain.symm

theorem staysOpen_singleton (c : Char) : StaysOpen [c] :=
  staysOpen_iff_isChain.mpr (.singleton c)

theorem staysOpen_append_iff {cs ds : List Char} :
    StaysOpen (cs ++ ds) ↔
      StaysOpen cs ∧ StaysOpen ds ∧ ¬('*' ∈ cs.getLast? ∧ '/' ∈ ds.head?) := by
  simp only [staysOpen_iff_isChain, List.isChain_append]
  refine and_congr_right fun _ => and_congr_right fun _ => ⟨?_, ?_⟩
  · rintro h ⟨hc, hd⟩
    exact h _ hc _ hd ⟨rfl, rfl⟩
  · rintro h c hc d hd ⟨rfl, rfl⟩
    exact h ⟨hc, hd⟩

theorem staysOpen_cons_iff {c : Char} {cs : List Char} :
    StaysOpen (c :: cs) ↔ ¬(c = '*' ∧ '/' ∈ cs.head?) ∧ StaysOpen cs := by
  rw [← List.singleton_append, staysOpen_append_iff]
  simp [staysOpen_singleton, and_comm]

theorem staysOpen_of_notMem {cs : List Char} (h : '*' ∉ cs) : StaysOpen cs := by
  rintro start rest rfl
  exact h (by simp)

/-- Behind a text in which no comment ends, the first end of a comment is where one is put. -/
theorem StaysOpen.append_eq_iff {before start rest after : List Char} (h : StaysOpen before)
    (hafter : after.length ≤ 1) :
    before ++ '*' :: '/' :: after = start ++ '*' :: '/' :: rest ↔
      start = before ∧ rest = after := by
  constructor
  · intro heq
    rcases List.append_eq_append_iff.mp heq with ⟨as, rfl, hrest⟩ | ⟨as, rfl, hrest⟩
    · -- What is written behind the text is too short for another one.
      match as, hrest with
      | [], hrest => simpa using hrest.symm
      | [c], hrest => simp at hrest
      | c :: d :: as, hrest =>
        have hlength := congrArg List.length hrest
        simp only [List.length_cons, List.length_append] at hlength
        omega
    · match as, hrest with
      | [], hrest => simpa using hrest
      | [c], hrest => simp at hrest
      | c :: d :: as, hrest =>
        obtain ⟨rfl, rfl, -⟩ : '*' = c ∧ '/' = d ∧ rest = as ++ '*' :: '/' :: after := by
          simpa using hrest
        exact absurd rfl (h start as)
  · rintro ⟨rfl, rfl⟩
    rfl

/-! ### What is written -/

theorem head?_openComment (cs : List Char) : (openComment cs).head? = cs.head? := by
  fun_cases openComment cs with
  | case1 => rfl
  | case2 c => rfl
  | case3 c d cs h => simp [h.1]
  | case4 c d cs h => simp

/-- Nothing that is written ends a comment. -/
theorem staysOpen_openComment (cs : List Char) : StaysOpen (openComment cs) := by
  fun_induction openComment cs with
  | case1 => decide
  | case2 c => exact staysOpen_singleton c
  | case3 c d cs h ih => simpa [staysOpen_cons_iff] using ih
  | case4 c d cs h ih =>
    refine staysOpen_cons_iff.mpr ⟨?_, ih⟩
    rw [head?_openComment]
    simpa using h

/-- The pieces of a text between the ends of comments in it, and what stands there instead when
it is written. -/
theorem exists_pieces (cs : List Char) :
    ∃ p pieces, (∀ q ∈ p :: pieces, StaysOpen q) ∧ cs = ['*', '/'].intercalate (p :: pieces) ∧
      openComment cs = ['*', '\\', '/'].intercalate (p :: pieces) := by
  fun_induction openComment cs with
  | case1 => exact ⟨[], [], by decide, rfl, rfl⟩
  | case2 c => exact ⟨[c], [], by simpa using staysOpen_singleton c, by simp, by simp⟩
  | case3 c d cs h ih =>
    obtain ⟨p, pieces, hpieces, hcs, hopen⟩ := ih
    obtain ⟨rfl, rfl⟩ := h
    refine ⟨[], p :: pieces, List.forall_mem_cons.mpr ⟨by decide, hpieces⟩, ?_, ?_⟩
    · rw [List.intercalate_cons_cons, ← hcs]
      rfl
    · rw [List.intercalate_cons_cons, ← hopen]
      rfl
  | case4 c d cs h ih =>
    obtain ⟨p, pieces, hpieces, hcs, hopen⟩ := ih
    obtain ⟨hp, hrest⟩ := List.forall_mem_cons.mp hpieces
    have hcons : ∀ sep : List Char, sep.intercalate ((c :: p) :: pieces) =
        c :: sep.intercalate (p :: pieces) := by
      intro sep
      cases pieces <;> simp
    refine ⟨c :: p, pieces, List.forall_mem_cons.mpr ⟨?_, hrest⟩, ?_, ?_⟩
    · -- If there is a first character in the piece, it is the one that follows `c`.
      refine staysOpen_cons_iff.mpr ⟨?_, hp⟩
      rintro ⟨rfl, hslash⟩
      obtain ⟨q, rfl⟩ : ∃ q, p = '/' :: q := by
        cases p <;> simp_all
      refine h ⟨rfl, ?_⟩
      cases pieces <;> simp_all
    · rw [hcons, ← hcs]
    · rw [hcons, ← hopen]

/-! ### Lines -/

/-- The line of a comment that holds a line of text: nothing if the line is blank, else the line
without the blanks that it ends with, a backslash inside each `*/`. -/
inductive CommentLine.Holds : List Char → String → Prop
  | blank {line : List Char} (h : Text.trimEnd line = []) : Holds line " *"
  | text {line : List Char} {pieces : List (List Char)} (h : Text.trimEnd line ≠ [])
      (hpieces : ∀ p ∈ pieces, StaysOpen p)
      (hline : Text.trimEnd line = ['*', '/'].intercalate pieces) :
      Holds line (" * " ++ String.ofList (['*', '\\', '/'].intercalate pieces))

theorem openComment_eq_nil_iff {cs : List Char} : openComment cs = [] ↔ cs = [] := by
  rw [← List.head?_eq_none_iff, head?_openComment, List.head?_eq_none_iff]

theorem holds_commentLine (line : List Char) : CommentLine.Holds line (commentLine line) := by
  obtain ⟨p, pieces, hpieces, hline, hopen⟩ := exists_pieces (Text.trimEnd line)
  rw [commentLine]
  split
  next h => exact .blank (openComment_eq_nil_iff.mp h)
  next cs h =>
    rw [hopen]
    exact .text (fun hnil => h (openComment_eq_nil_iff.mpr hnil)) hpieces hline

theorem staysOpen_commentLine (line : List Char) : StaysOpen (commentLine line).toList := by
  rw [commentLine]
  split
  · decide
  · have htext : (String.ofList (openComment (Text.trimEnd line))).toList =
        openComment (Text.trimEnd line) := String.toList_ofList
    rw [String.toList_append, htext, staysOpen_append_iff]
    exact ⟨by decide, staysOpen_openComment _, fun hmeet => absurd hmeet.1 (by decide)⟩

/-- The depth of a line does not matter. -/
theorem staysOpen_indent_iff {depth : Nat} {line : String} :
    StaysOpen (indent depth line).toList ↔ StaysOpen line.toList := by
  have hblanks : '*' ∉ List.replicate (2 * depth) ' ' := by simp [List.mem_replicate]
  rw [indent, String.toList_append, String.toList_ofList, staysOpen_append_iff]
  constructor
  · exact fun h => h.2.1
  · intro h
    exact ⟨staysOpen_of_notMem hblanks, h, fun hmeet => hblanks (List.mem_of_getLast? hmeet.1)⟩

theorem toList_unlines_cons (line : String) (lines : List String) :
    (unlines (line :: lines)).toList = line.toList ++ '\n' :: (unlines lines).toList := by
  simp [unlines, String.join_cons]

theorem toList_unlines_append (lines lines' : List String) :
    (unlines (lines ++ lines')).toList = (unlines lines).toList ++ (unlines lines').toList := by
  simp [unlines, String.join_append]

/-- Lines in which no comment ends make a text in which none does. -/
theorem staysOpen_unlines {lines : List String} (h : ∀ line ∈ lines, StaysOpen line.toList) :
    StaysOpen (unlines lines).toList := by
  induction lines with
  | nil => decide
  | cons line lines ih =>
    obtain ⟨hline, hlines⟩ := List.forall_mem_cons.mp h
    rw [toList_unlines_cons, staysOpen_append_iff, staysOpen_cons_iff]
    exact ⟨hline, ⟨by simp, ih hlines⟩, by simp⟩

/-! ### Comments -/

theorem mem_of_mem_trimEnd {c : Char} {cs : List Char} (h : c ∈ Text.trimEnd cs) : c ∈ cs := by
  have hdrop := (List.dropWhile_suffix Text.isBlank).subset (List.mem_reverse.mp h)
  exact List.mem_reverse.mp hdrop

theorem mem_or_eq_of_mem_openComment {c : Char} {cs : List Char} (h : c ∈ openComment cs) :
    c ∈ cs ∨ c = '\\' := by
  fun_induction openComment cs with
  | case1 => exact .inl h
  | case2 d => exact .inl h
  | case3 d e cs hend ih =>
    obtain ⟨rfl, rfl⟩ := hend
    simp only [List.mem_cons] at h ⊢
    rcases h with rfl | rfl | rfl | h
    · exact .inl (.inl rfl)
    · exact .inr rfl
    · exact .inl (.inr (.inl rfl))
    · exact (ih h).imp_left fun hmem => .inr (.inr hmem)
  | case4 d e cs hend ih =>
    rcases List.mem_cons.mp h with rfl | h
    · exact .inl List.mem_cons_self
    · exact (ih h).imp_left (List.mem_cons_of_mem d)

/-- What holds one line is one line. -/
theorem notMem_commentLine {line : List Char} (h : '\n' ∉ line) :
    '\n' ∉ (commentLine line).toList := by
  rw [commentLine]
  split
  · decide
  · have htext : (String.ofList (openComment (Text.trimEnd line))).toList =
        openComment (Text.trimEnd line) := String.toList_ofList
    rw [String.toList_append, htext, List.mem_append, not_or]
    refine ⟨by decide, fun hmem => ?_⟩
    rcases mem_or_eq_of_mem_openComment hmem with hmem | hmem
    · exact h (mem_of_mem_trimEnd hmem)
    · cases hmem

theorem notMem_indent {depth : Nat} {line : String} (h : '\n' ∉ line.toList) :
    '\n' ∉ (indent depth line).toList := by
  rw [indent, String.toList_append, String.toList_ofList]
  simp [List.mem_replicate, h]

theorem commentLines_of_ne (depth : Nat) {text : String} (h : Text.trim text.toList ≠ []) :
    commentLines depth text =
      ("/**" :: (Text.splitOn '\n' (Text.trim text.toList)).map commentLine ++ [" */"]).map
        (indent depth) := by
  rw [commentLines]
  split
  next hnil => exact absurd hnil h
  · rfl

/-- The last line of a comment ends it, if no other does. -/
theorem exists_unlines_eq {lines : List String} (h : ∀ line ∈ lines, StaysOpen line.toList)
    (depth : Nat) :
    ∃ before, StaysOpen before ∧
      (unlines ((lines ++ [" */"]).map (indent depth))).toList = before ++ ['*', '/', '\n'] := by
  set blanks := List.replicate (2 * depth + 1) ' ' with hblanks
  have hmem : ∀ c ∈ blanks, c = ' ' := fun _ => List.eq_of_mem_replicate
  refine ⟨(unlines (lines.map (indent depth))).toList ++ blanks, ?_, ?_⟩
  · have hlines : ∀ line ∈ lines.map (indent depth), StaysOpen line.toList :=
      List.forall_mem_map.mpr fun line hline => staysOpen_indent_iff.mpr (h line hline)
    refine staysOpen_append_iff.mpr ⟨staysOpen_unlines hlines, ?_, ?_⟩
    · exact staysOpen_of_notMem fun hstar => absurd (hmem _ hstar) (by decide)
    · exact fun hmeet => absurd (hmem _ (List.mem_of_mem_head? hmeet.2)) (by decide)
  · rw [List.map_append, toList_unlines_append, List.append_assoc, List.map_singleton,
      toList_unlines_cons, indent, String.toList_append, String.toList_ofList, hblanks,
      List.replicate_succ']
    simp [unlines]

/-- **A comment** is there unless its text is blank.  Its lines are marked, one for each line of
the text in between, and it ends with the last of them and nowhere else. -/
theorem commentLines_exact (depth : Nat) (text : String) :
    (Text.trim text.toList = [] ∧ commentLines depth text = []) ∨
    (Text.trim text.toList ≠ [] ∧
      ∃ body : List String,
        commentLines depth text = ("/**" :: body ++ [" */"]).map (indent depth) ∧
        List.Forall₂ CommentLine.Holds (Text.splitOn '\n' (Text.trim text.toList)) body ∧
        (∀ line ∈ commentLines depth text, '\n' ∉ line.toList) ∧
        ∃ before, ∀ start rest,
          (unlines (commentLines depth text)).toList = start ++ '*' :: '/' :: rest ↔
            start = before ∧ rest = ['\n']) := by
  by_cases h : Text.trim text.toList = []
  · exact .inl ⟨h, by rw [commentLines, h]⟩
  refine .inr ⟨h, ?_⟩
  have hcomment := commentLines_of_ne depth h
  set lines := Text.splitOn '\n' (Text.trim text.toList)
  refine ⟨lines.map commentLine, hcomment, ?_, ?_, ?_⟩
  · refine List.forall₂_map_right_iff.mpr (List.forall₂_same.mpr fun line _ => ?_)
    exact holds_commentLine line
  · have hbody : ∀ line ∈ lines.map commentLine, '\n' ∉ line.toList :=
      List.forall_mem_map.mpr fun line hline =>
        notMem_commentLine (Text.notMem_of_mem_splitOn hline)
    rw [hcomment]
    refine List.forall_mem_map.mpr fun line hline => notMem_indent ?_
    rcases List.mem_append.mp hline with hline | hline
    · rcases List.mem_cons.mp hline with rfl | hline
      · decide
      · exact hbody line hline
    · rw [List.mem_singleton.mp hline]
      decide
  · have hopen : ∀ line ∈ "/**" :: lines.map commentLine, StaysOpen line.toList :=
      List.forall_mem_cons.mpr ⟨by decide,
        List.forall_mem_map.mpr fun line _ => staysOpen_commentLine line⟩
    obtain ⟨before, hbefore, hblock⟩ := exists_unlines_eq hopen depth
    refine ⟨before, fun start rest => ?_⟩
    rw [hcomment, hblock]
    exact hbefore.append_eq_iff le_rfl

/-- Stars and slashes that meet, or that might meet what stands in front of a line. -/
example : commentLines 1 "ends */ here\n/\n\n**//*/" =
    ["  /**", "   * ends *\\/ here", "   * /", "   *", "   * **\\//*\\/", "   */"] := by
  decide

end Ambient
