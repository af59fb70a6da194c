/-
Normalising PEM text that was injected on one line.
-/

import NoxIngestor.Lib.Lines

namespace NoxIngestor

open Replacing Lines

/-- The characters with the Unicode property `White_Space`. -/
def isWhitespace (char : Char) : Bool :=
  let code := char.toNat
  (0x9 ≤ code && code ≤ 0xd) || code == 0x20 || code == 0x85 || code == 0xa0 ||
    code == 0x1680 || (0x2000 ≤ code && code ≤ 0x200a) || code == 0x2028 ||
    code == 0x2029 || code == 0x202f || code == 0x205f || code == 0x3000

def trimEnd (text : List Char) : List Char := text.rdropWhile isWhitespace

/-- A line without its ending, which is a line feed or a carriage return and a
line feed. -/
def stripLineEnding (line : List Char) : List Char :=
  if line.getLast? = some '\n' then
    if line.dropLast.getLast? = some '\r' then line.dropLast.dropLast else line.dropLast
  else line

def lines (text : List Char) : List (List Char) :=
  (splitInclusive '\n' text).map stripLineEnding

def dashes : List Char := ['-', '-', '-', '-', '-']

/-- Literal line breaks are resolved. -/
def resolveEscapes (text : List Char) : List Char := replace ['\\', 'n'] ['\n'] text

def breakAfterDashes (text : List Char) : List Char :=
  replace (dashes ++ [' ']) (dashes ++ ['\n']) text

def breakBeforeDashes (text : List Char) : List Char :=
  replace (' ' :: dashes) ('\n' :: dashes) text

def trimLines (text : List Char) : List Char :=
  ['\n'].intercalate ((lines text).map trimEnd)

def normalizePem (pem : String) : String :=
  let normalized := breakBeforeDashes (breakAfterDashes (trimEnd (resolveEscapes pem.toList)))
  let trimmed := trimLines normalized
  String.ofList (trimmed ++ ['\n'])

/-! ### The single passes -/

private theorem resolveEscapes_cutShort : CutShort '\n' ['\\', 'n'] ['\n'] := by
  refine ⟨by decide, by decide, [], [], rfl, List.nil_prefix, by decide, ?_⟩
  intro behind present
  exact present

private theorem breakAfterDashes_cutShort : CutShort '\n' (dashes ++ [' ']) (dashes ++ ['\n']) := by
  refine ⟨by decide, by decide, dashes, [], rfl, List.prefix_append _ _, by decide, ?_⟩
  intro behind present
  exact present

private theorem breakBeforeDashes_cutShort : CutShort '\n' (' ' :: dashes) ('\n' :: dashes) := by
  refine ⟨by decide, by decide, [], dashes, rfl, List.nil_prefix, by decide, ?_⟩
  intro behind present
  -- An occurrence begins with a space, and no dash is one.
  have later {head : Char} {rest : List Char} (other : head ≠ ' ')
      (inside : ' ' :: dashes <:+: head :: rest) : ' ' :: dashes <:+: rest := by
    rcases List.infix_cons_iff.mp inside with begins | within
    · exact absurd (List.cons_prefix_cons.mp begins).1.symm other
    · exact within
  have dash : '-' ≠ ' ' := by decide
  exact later dash (later dash (later dash (later dash (later dash present))))

private theorem breakAfterDashes_marked (text : List Char) :
    Marked ' ' '\n' text (breakAfterDashes text) := by
  apply replace_marked (by decide)
  exact List.rel_append (Marked.refl dashes) (.cons (.inr ⟨rfl, rfl⟩) .nil)

private theorem breakBeforeDashes_marked (text : List Char) :
    Marked ' ' '\n' text (breakBeforeDashes text) := by
  apply replace_marked (by decide)
  exact .cons (.inr ⟨rfl, rfl⟩) (Marked.refl dashes)

private theorem trimEnd_last {text : List Char} {last : Char}
    (ends : (trimEnd text).getLast? = some last) : isWhitespace last = false := by
  have nonempty : trimEnd text ≠ [] := by
    intro empty
    rw [empty] at ends
    cases ends
  have kept := List.rdropWhile_last_not isWhitespace text nonempty
  rw [List.getLast?_eq_some_getLast nonempty, Option.some.injEq] at ends
  rw [← ends]
  exact Bool.of_not_eq_true kept

theorem trimEnd_eq_self {text : List Char}
    (ends : ∀ last, text.getLast? = some last → isWhitespace last = false) :
    trimEnd text = text := by
  apply List.rdropWhile_eq_self_iff.mpr
  intro nonempty blank
  have kept := ends _ (List.getLast?_eq_some_getLast nonempty)
  rw [kept] at blank
  cases blank

private theorem trimEnd_stripLineEnding (line : List Char) :
    trimEnd (stripLineEnding line) = trimEnd line := by
  have dropLast {text : List Char} {last : Char} (ends : text.getLast? = some last)
      (blank : isWhitespace last = true) : trimEnd text.dropLast = trimEnd text := by
    obtain ⟨init, rfl⟩ := List.getLast?_eq_some_iff.mp ends
    rw [List.dropLast_concat]
    exact (List.rdropWhile_concat_pos _ _ _ blank).symm
  unfold stripLineEnding
  split
  · rename_i ended
    split
    · rename_i returned
      rw [dropLast returned (by decide), dropLast ended (by decide)]
    · rw [dropLast ended (by decide)]
  · rfl

theorem trimmed_lines (text : List Char) :
    (lines text).map trimEnd = (splitInclusive '\n' text).map (List.rdropWhile isWhitespace) := by
  rw [lines, List.map_map]
  apply List.map_congr_left
  intro line _member
  exact trimEnd_stripLineEnding line

/-! ### The canonical form -/

/-- What the lines of a normalised text consist of. -/
structure Settled (text : List Char) : Prop where
  noEscape : ¬ ['\\', 'n'] <:+: text
  noSpaceAfter : ¬ dashes ++ [' '] <:+: text
  noSpaceBefore : ¬ ' ' :: dashes <:+: text
  ends : ∀ last, text.getLast? = some last → isWhitespace last = false

theorem settled_normalized (text : List Char) :
    Settled (breakBeforeDashes (breakAfterDashes (trimEnd (resolveEscapes text)))) := by
  have after := breakAfterDashes_marked (trimEnd (resolveEscapes text))
  have before := breakBeforeDashes_marked (breakAfterDashes (trimEnd (resolveEscapes text)))
  constructor
  · intro present
    have earlier := after.infix_of_infix (before.infix_of_infix present (by decide)) (by decide)
    have resolved := earlier.trans (List.rdropWhile_prefix _ _).isInfix
    exact resolveEscapes_cutShort.absent text resolved
  · intro present
    exact breakAfterDashes_cutShort.absent _ (before.infix_of_infix present (by decide))
  · exact breakBeforeDashes_cutShort.absent _
  · intro last ends
    have notSpace {text : List Char} (trimmed : ∀ last, text.getLast? = some last →
        isWhitespace last = false) : text.getLast? ≠ some ' ' :=
      fun space => absurd (trimmed ' ' space) (by decide)
    have first : ∀ last, (breakAfterDashes (trimEnd (resolveEscapes text))).getLast? = some last →
        isWhitespace last = false := by
      intro last ends
      rw [after.getLast?_eq (notSpace fun _ => trimEnd_last)] at ends
      exact trimEnd_last ends
    rw [before.getLast?_eq (notSpace first)] at ends
    exact first last ends

section TrimLines

variable {text : List Char}

private theorem trimmed_of_lines :
    ∀ line ∈ (lines text).map trimEnd, Trimmed isWhitespace '\n' line := by
  intro line member
  rw [trimmed_lines] at member
  obtain ⟨part, found, rfl⟩ := List.mem_map.mp member
  exact trimmed_of_splitInclusive (by decide) found

private theorem lastLine (ends : ∀ last, text.getLast? = some last → isWhitespace last = false)
    {line : List Char} (last : ((lines text).map trimEnd).getLast? = some line) :
    line ≠ [] ∧ ∀ final, line.getLast? = some final → isWhitespace final = false := by
  rw [trimmed_lines, List.getLast?_map, Option.map_eq_some_iff] at last
  obtain ⟨part, found, rfl⟩ := last
  have same := getLast?_of_splitInclusive found
  have kept : trimEnd part = part := by
    apply trimEnd_eq_self
    intro final partEnds
    exact ends final (same.trans partEnds)
  have nonempty : part ≠ [] :=
    ne_nil_of_splitInclusive (List.mem_of_getLast? found)
  have keptNonempty : trimEnd part ≠ [] := by
    rw [kept]
    exact nonempty
  exact ⟨keptNonempty, fun final lineEnds => trimEnd_last lineEnds⟩

private theorem lastLine_nonempty
    (ends : ∀ last, text.getLast? = some last → isWhitespace last = false) :
    ((lines text).map trimEnd).getLast? ≠ some [] := by
  intro empty
  exact (lastLine ends empty).1 rfl

private theorem infix_trimLines {found : List Char} (inside : found <:+: trimLines text)
    (nonempty : found ≠ []) (unmarked : '\n' ∉ found) : found <:+: text := by
  by_cases none : (lines text).map trimEnd = []
  · rw [trimLines, none, List.intercalate_nil] at inside
    exact absurd (List.infix_nil.mp inside) nonempty
  · have ended : found <:+: unlines '\n' ((lines text).map trimEnd) := by
      rw [← intercalate_concat none]
      exact inside.trans (List.prefix_append _ _).isInfix
    obtain ⟨line, member, within⟩ := infix_unlines ended nonempty unmarked
    rw [trimmed_lines] at member
    obtain ⟨part, partMember, rfl⟩ := List.mem_map.mp member
    have prefixed := within.trans (List.rdropWhile_prefix isWhitespace part).isInfix
    exact prefixed.trans (infix_of_splitInclusive partMember)

private theorem trimLines_ends
    (ends : ∀ last, text.getLast? = some last → isWhitespace last = false) :
    ∀ last, (trimLines text).getLast? = some last → isWhitespace last = false := by
  intro last lineEnds
  cases found : ((lines text).map trimEnd).getLast? with
  | none =>
      rw [trimLines, List.getLast?_eq_none_iff.mp found] at lineEnds
      cases lineEnds
  | some line =>
      obtain ⟨nonempty, kept⟩ := lastLine ends found
      rw [trimLines, getLast?_intercalate found nonempty] at lineEnds
      exact kept last lineEnds

private theorem lines_trimLines
    (ends : ∀ last, text.getLast? = some last → isWhitespace last = false) :
    trimLines (trimLines text) = trimLines text := by
  have again := trim_intercalate (by decide) trimmed_of_lines (lastLine_nonempty ends)
  rw [trimLines, trimmed_lines]
  exact congrArg (List.intercalate ['\n']) again

end TrimLines

/-- The form `normalize_pem` reaches; lines are what line feeds separate. -/
structure Canonical (text : String) : Prop where
  stable : normalizePem text = text
  noEscape : ¬ ['\\', 'n'] <:+: text.toList
  noSpaceAfter : ¬ dashes ++ [' '] <:+: text.toList
  noSpaceBefore : ¬ ' ' :: dashes <:+: text.toList
  noTrailing : ∀ line ∈ text.toList.splitOn '\n', ∀ last, line.getLast? = some last →
    isWhitespace last = false
  oneEnd : ∃ body, text.toList = body ++ ['\n'] ∧ body.getLast? ≠ some '\n'

section Canonical

variable {text : List Char}

theorem Settled.trimLines (settled : Settled text) : Settled (trimLines text) := by
  constructor
  · intro present
    exact settled.noEscape (infix_trimLines present (by decide) (by decide))
  · intro present
    exact settled.noSpaceAfter (infix_trimLines present (by decide) (by decide))
  · intro present
    exact settled.noSpaceBefore (infix_trimLines present (by decide) (by decide))
  · exact trimLines_ends settled.ends

theorem infix_of_ended {found : List Char} (inside : found <:+: text ++ ['\n'])
    (nonempty : found ≠ []) (unmarked : '\n' ∉ found) : found <:+: text := by
  rcases infix_of_unmarked inside unmarked with here | later
  · exact here
  · exact absurd (List.infix_nil.mp later) nonempty

theorem Settled.normalizePem (settled : Settled text) :
    normalizePem (String.ofList (text ++ ['\n'])) =
      String.ofList (NoxIngestor.trimLines text ++ ['\n']) := by
  have resolved : resolveEscapes (text ++ ['\n']) = text ++ ['\n'] := by
    apply replace_of_absent (by decide)
    intro present
    exact settled.noEscape (infix_of_ended present (by decide) (by decide))
  have trimmed : trimEnd (text ++ ['\n']) = text := by
    rw [trimEnd, List.rdropWhile_concat_pos _ _ _ (by decide)]
    exact trimEnd_eq_self settled.ends
  have after : breakAfterDashes text = text :=
    replace_of_absent (by decide) settled.noSpaceAfter
  have before : breakBeforeDashes text = text :=
    replace_of_absent (by decide) settled.noSpaceBefore
  rw [NoxIngestor.normalizePem, String.toList_ofList, resolved, trimmed, after, before]

private theorem splitOn_ended {line : List Char}
    (member : line ∈ (NoxIngestor.trimLines text ++ ['\n']).splitOn '\n') :
    line = [] ∨ line ∈ (lines text).map trimEnd := by
  by_cases none : (lines text).map trimEnd = []
  · rw [NoxIngestor.trimLines, none] at member
    have listed : ([] ++ ['\n'] : List Char).splitOn '\n' = [[], []] := by decide
    rw [List.intercalate_nil, listed] at member
    exact .inl (List.eq_of_mem_replicate (n := 2) member)
  · have unmarked : ∀ line ∈ (lines text).map trimEnd ++ [[]], '\n' ∉ line := by
      intro line member
      rcases List.mem_append.mp member with found | empty
      · exact (trimmed_of_lines line found).unmarked
      · rw [List.mem_singleton.mp empty]
        exact List.not_mem_nil
    rw [NoxIngestor.trimLines, intercalate_concat none, unlines_eq_intercalate,
      List.splitOn_intercalate '\n' unmarked (List.append_ne_nil_of_right_ne_nil _ (by decide))]
      at member
    rcases List.mem_append.mp member with found | empty
    · exact .inr found
    · exact .inl (List.mem_singleton.mp empty)

end Canonical

/-- Whatever is given to it, `normalize_pem` returns text in canonical form. -/
theorem normalize_pem_canonical (pem : String) : Canonical (normalizePem pem) := by
  have settled := settled_normalized pem.toList
  have joined := settled.trimLines
  have output : (normalizePem pem).toList = trimLines (breakBeforeDashes (breakAfterDashes
      (trimEnd (resolveEscapes pem.toList)))) ++ ['\n'] := by
    rw [normalizePem, String.toList_ofList]
  constructor
  · have again := joined.normalizePem
    rw [lines_trimLines settled.ends] at again
    exact again
  · rw [output]
    intro present
    exact joined.noEscape (infix_of_ended present (by decide) (by decide))
  · rw [output]
    intro present
    exact joined.noSpaceAfter (infix_of_ended present (by decide) (by decide))
  · rw [output]
    intro present
    exact joined.noSpaceBefore (infix_of_ended present (by decide) (by decide))
  · intro line member last ends
    rw [output] at member
    rcases splitOn_ended member with rfl | found
    · cases ends
    · have trimmed := (trimmed_of_lines line found).trimmed
      have lineEnds : (trimEnd line).getLast? = some last := by
        rw [trimEnd, trimmed]
        exact ends
      exact trimEnd_last lineEnds
  · refine ⟨_, output, ?_⟩
    intro ends
    exact absurd (joined.ends '\n' ends) (by decide)

end NoxIngestor
