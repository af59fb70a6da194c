/-
PEM bundles and the ways their line breaks are injected.
-/

import NoxIngestor.Nats.Pem

namespace NoxIngestor

open Replacing Lines

/-! ### Bundles -/

/-- A word of a label.  Dashes may stand inside it. -/
structure Word where
  chars : List Char
  nonempty : chars ≠ []
  solid : ∀ char ∈ chars, isWhitespace char = false
  head : chars.head? ≠ some '-'
  last : chars.getLast? ≠ some '-'
  noEscape : ¬ ['\\', 'n'] <:+: chars

structure PemLabel where
  words : List Word
  nonempty : words ≠ []

def isBase64 (char : Char) : Bool :=
  let code := char.toNat
  (0x41 ≤ code && code ≤ 0x5a) || (0x61 ≤ code && code ≤ 0x7a) ||
    (0x30 ≤ code && code ≤ 0x39) || code == 0x2b || code == 0x2f || code == 0x3d

structure BodyLine where
  chars : List Char
  nonempty : chars ≠ []
  base64 : ∀ char ∈ chars, isBase64 char = true

structure Block where
  label : PemLabel
  body : List BodyLine

private theorem solid_of_all {chars : List Char}
    (all : (chars.all fun char => !isWhitespace char) = true) :
    ∀ char ∈ chars, isWhitespace char = false := by
  intro char member
  exact Bool.not_inj (List.all_eq_true.mp all char member)

def beginWord : Word :=
  { chars := ['B', 'E', 'G', 'I', 'N']
    nonempty := by decide
    solid := solid_of_all rfl
    head := by decide
    last := by decide
    noEscape := by decide }

def endWord : Word :=
  { chars := ['E', 'N', 'D']
    nonempty := by decide
    solid := solid_of_all rfl
    head := by decide
    last := by decide
    noEscape := by decide }

def spaced (words : List Word) : List Char := [' '].intercalate (words.map Word.chars)

def marker (keyword : Word) (label : PemLabel) : List Char :=
  dashes ++ spaced (keyword :: label.words) ++ dashes

namespace Block

def beginMarker (block : Block) : List Char := marker beginWord block.label

def endMarker (block : Block) : List Char := marker endWord block.label

def lines (block : Block) : List (List Char) :=
  block.beginMarker :: block.body.map BodyLine.chars ++ [block.endMarker]

end Block

/-! ### Injection -/

inductive LineBreak
  | newline
  | space
  | escaped
deriving DecidableEq

def LineBreak.text : LineBreak → List Char
  | .newline => ['\n']
  | .space => [' ']
  | .escaped => ['\\', 'n']

structure Break where
  breaks : List LineBreak
  nonempty : breaks ≠ []

def breakText (breaks : List LineBreak) : List Char := breaks.flatMap LineBreak.text

/-- A block with what stands for the line break behind each of its lines. -/
structure Injected where
  label : PemLabel
  afterBegin : Break
  body : List (BodyLine × Break)
  afterEnd : List LineBreak

namespace Injected

def block (self : Injected) : Block :=
  { label := self.label
    body := self.body.map Prod.fst }

def text (self : Injected) : List Char :=
  self.block.beginMarker ++ breakText self.afterBegin.breaks ++
    self.body.flatMap (fun line => line.1.chars ++ breakText line.2.breaks) ++
    self.block.endMarker ++ breakText self.afterEnd

end Injected

def withoutWhitespace (text : List Char) : List Char :=
  text.filter fun char => !isWhitespace char

/-- The lines of a bundle, markers on lines of their own.  Between the markers of a
block there is nothing but its body, however it is spread over lines. -/
inductive Laid : List Block → List (List Char) → Prop
  | none : Laid [] []
  | blank {bundle : List Block} {lines : List (List Char)} (rest : Laid bundle lines) :
      Laid bundle ([] :: lines)
  | block (block : Block) {between : List (List Char)} {bundle : List Block}
      {lines : List (List Char)}
      (plain : ∀ line ∈ between, '\n' ∉ line ∧ '-' ∉ line)
      (body : withoutWhitespace between.flatten = block.body.flatMap BodyLine.chars)
      (rest : Laid bundle lines) :
      Laid (block :: bundle) (block.beginMarker :: between ++ block.endMarker :: lines)

/-! ### What the lines are made of -/

private theorem withoutWhitespace_append (first second : List Char) :
    withoutWhitespace (first ++ second) = withoutWhitespace first ++ withoutWhitespace second :=
  List.filter_append _ _

private theorem withoutWhitespace_of_solid {text : List Char}
    (solid : ∀ char ∈ text, isWhitespace char = false) : withoutWhitespace text = text := by
  apply List.filter_eq_self.mpr
  intro char member
  rw [solid char member]
  rfl

private theorem withoutWhitespace_eq_nil {text : List Char} :
    withoutWhitespace text = [] ↔ ∀ char ∈ text, isWhitespace char = true := by
  simp only [withoutWhitespace, List.filter_eq_nil_iff, Bool.not_eq_true', Bool.not_eq_false]

private theorem isBase64_solid {char : Char} (base64 : isBase64 char = true) :
    isWhitespace char = false := by
  simp only [isBase64, isWhitespace, Bool.or_eq_true, Bool.and_eq_true, decide_eq_true_eq,
    beq_iff_eq, Bool.or_eq_false_iff, Bool.and_eq_false_iff, decide_eq_false_iff_not,
    beq_eq_false_iff_ne] at base64 ⊢
  omega

private theorem not_mem_of_solid {char : Char} {text : List Char}
    (solid : ∀ char ∈ text, isWhitespace char = false) (blank : isWhitespace char = true) :
    char ∉ text := by
  intro present
  rw [solid char present] at blank
  cases blank

private theorem BodyLine.solid (line : BodyLine) : ∀ char ∈ line.chars, isWhitespace char = false :=
  fun char member => isBase64_solid (line.base64 char member)

private theorem BodyLine.not_mem (line : BodyLine) {char : Char} (foreign : isBase64 char = false) :
    char ∉ line.chars := by
  intro present
  rw [line.base64 char present] at foreign
  cases foreign

private theorem spaced_cons (word next : Word) (rest : List Word) :
    spaced (word :: next :: rest) = word.chars ++ ' ' :: spaced (next :: rest) := by
  unfold spaced
  rw [List.map_cons, List.map_cons, List.intercalate_cons_cons, List.append_assoc]
  rfl

private theorem spaced_singleton (word : Word) : spaced [word] = word.chars :=
    List.intercalate_singleton

/-- A line that no pass of the normalisation changes. -/
structure Steady (line : List Char) : Prop where
  noEscape : ¬ ['\\', 'n'] <:+: line
  noSpaceAfter : ¬ dashes ++ [' '] <:+: line
  noSpaceBefore : ¬ ' ' :: dashes <:+: line
  noBreak : '\n' ∉ line
  nonempty : line ≠ []
  ends : ∀ last, line.getLast? = some last → isWhitespace last = false

private theorem BodyLine.steady (line : BodyLine) : Steady line.chars := by
  constructor
  · intro present
    exact line.not_mem (by decide) (present.subset (List.mem_cons_self : '\\' ∈ ['\\', 'n']))
  · intro present
    exact line.not_mem (by decide) (present.subset (by decide : '-' ∈ dashes ++ [' ']))
  · intro present
    exact line.not_mem (by decide) (present.subset (by decide : '-' ∈ ' ' :: dashes))
  · exact line.not_mem (by decide)
  · exact line.nonempty
  · intro last ends
    exact line.solid last (List.mem_of_getLast? ends)

section Markers

variable {front : List Char}

private theorem Word.not_mem (word : Word) {char : Char} (blank : isWhitespace char = true) :
    char ∉ word.chars :=
  not_mem_of_solid word.solid blank

private theorem Word.spaceless (word : Word) (clear : ' ' ∉ front) : ' ' ∉ front ++ word.chars := by
  rw [List.mem_append]
  rintro (here | here)
  · exact clear here
  · exact word.not_mem (by decide) here

private theorem Word.spaceless_closed (word : Word) (clear : ' ' ∉ front) :
    ' ' ∉ front ++ (word.chars ++ dashes) := by
  rw [← List.append_assoc, List.mem_append]
  rintro (here | here)
  · exact word.spaceless clear here
  · exact absurd here (by decide)

private theorem spaced_head (word : Word) (words : List Word) :
    ∃ rest, spaced (word :: words) = word.chars ++ rest := by
  cases words with
  | nil => exact ⟨[], by rw [spaced_singleton, List.append_nil]⟩
  | cons next later => exact ⟨_, spaced_cons word next later⟩

private theorem spaced_noSpaceAfter (clear : ' ' ∉ front) (word : Word) (words : List Word) :
    ¬ dashes ++ [' '] <:+: front ++ (spaced (word :: words) ++ dashes) := by
  induction words generalizing word front with
  | nil =>
      rw [spaced_singleton]
      intro present
      exact word.spaceless_closed clear (present.subset (by decide))
  | cons next rest ih =>
      rw [spaced_cons, List.append_assoc, List.cons_append, ← List.append_assoc]
      intro present
      rcases infix_of_marked_end (word.spaceless clear) (by decide) present with
        ⟨before, split⟩ | later
      · -- A word would end in a dash.
        have ends := congrArg List.getLast? split
        rw [List.getLast?_append_of_ne_nil _ word.nonempty] at ends
        rw [List.getLast?_append_of_ne_nil _ (by decide : dashes ≠ [])] at ends
        exact word.last ends.symm
      · exact ih List.not_mem_nil next later

private theorem spaced_noSpaceBefore (clear : ' ' ∉ front) (word : Word) (words : List Word) :
    ¬ ' ' :: dashes <:+: front ++ (spaced (word :: words) ++ dashes) := by
  induction words generalizing word front with
  | nil =>
      rw [spaced_singleton]
      intro present
      exact word.spaceless_closed clear (present.subset List.mem_cons_self)
  | cons next rest ih =>
      rw [spaced_cons, List.append_assoc, List.cons_append, ← List.append_assoc]
      intro present
      rcases infix_of_marked_start (word.spaceless clear) present with begins | later
      · -- A word would begin with a dash.
        obtain ⟨others, split⟩ := spaced_head next rest
        obtain ⟨char, chars, same⟩ := List.exists_cons_of_ne_nil next.nonempty
        rw [split, same, List.append_assoc, List.cons_append] at begins
        have dash := (List.cons_prefix_cons.mp begins).1
        apply next.head
        rw [same, List.head?_cons, dash]
      · exact ih List.not_mem_nil next later

private theorem spaced_noEscape (clear : '\\' ∉ front) (word : Word) (words : List Word) :
    ¬ ['\\', 'n'] <:+: front ++ (spaced (word :: words) ++ dashes) := by
  induction words generalizing word front with
  | nil =>
      rw [spaced_singleton]
      intro present
      rcases infix_of_unmarked (infix_of_foreign_front clear present) (by decide) with
        here | later
      · exact word.noEscape here
      · exact absurd later (by decide)
  | cons next rest ih =>
      rw [spaced_cons, List.append_assoc, List.cons_append]
      intro present
      rcases infix_of_unmarked (infix_of_foreign_front clear present) (by decide) with
        here | later
      · exact word.noEscape here
      · exact ih List.not_mem_nil next later

private theorem spaced_noBreak (words : List Word) : '\n' ∉ spaced words := by
  cases words with
  | nil => exact List.not_mem_nil
  | cons word rest =>
      induction rest generalizing word with
      | nil =>
          rw [spaced_singleton]
          exact word.not_mem (by decide)
      | cons next later ih =>
          rw [spaced_cons, List.mem_append, List.mem_cons]
          rintro (here | here | here)
          · exact word.not_mem (by decide) here
          · exact absurd here (by decide)
          · exact ih next here

private theorem marker_steady (keyword : Word) (label : PemLabel) :
    Steady (marker keyword label) := by
  have split : marker keyword label = dashes ++ (spaced (keyword :: label.words) ++ dashes) :=
    List.append_assoc _ _ _
  have last : (marker keyword label).getLast? = some '-' :=
    List.getLast?_append_of_ne_nil _ (by decide : dashes ≠ [])
  constructor
  · rw [split]
    exact spaced_noEscape (by decide) keyword label.words
  · rw [split]
    exact spaced_noSpaceAfter (by decide) keyword label.words
  · rw [split]
    exact spaced_noSpaceBefore (by decide) keyword label.words
  · rw [split, List.mem_append, List.mem_append]
    rintro (here | here | here)
    · exact absurd here (by decide)
    · exact spaced_noBreak _ here
    · exact absurd here (by decide)
  · exact List.append_ne_nil_of_right_ne_nil _ (by decide)
  · intro char ends
    rw [last] at ends
    cases ends
    decide

private theorem Block.beginMarker_steady (block : Block) : Steady block.beginMarker :=
  marker_steady beginWord block.label

private theorem Block.endMarker_steady (block : Block) : Steady block.endMarker :=
  marker_steady endWord block.label

end Markers

/-! ### Markers with what stands between them -/

/-- A marker, as far as the passes are concerned. -/
structure Fence (text : List Char) : Prop where
  steady : Steady text
  opens : ∃ rest, text = dashes ++ rest
  closes : ∃ front, text = front ++ dashes

private theorem marker_fence (keyword : Word) (label : PemLabel) : Fence (marker keyword label) :=
  ⟨marker_steady keyword label, ⟨_, List.append_assoc _ _ _⟩, ⟨_, rfl⟩⟩

/-- What stands between two markers once literal line breaks are resolved. -/
structure Gap (text : List Char) : Prop where
  noDash : '-' ∉ text
  opens : ∃ first rest, text = first :: rest ∧ (first = ' ' ∨ first = '\n')
  closes : ∃ front last, text = front ++ [last] ∧ (last = ' ' ∨ last = '\n')

def openBreak : List Char → List Char
  | ' ' :: rest => '\n' :: rest
  | text => text

def closeBreak (text : List Char) : List Char := (openBreak text.reverse).reverse

def fenced (first : List Char) : List (List Char × List Char) → List Char
  | [] => first
  | (gap, next) :: rest => first ++ (gap ++ fenced next rest)

private theorem fenced_opens {first : List Char} (fence : Fence first)
    (rest : List (List Char × List Char)) : ∃ later, fenced first rest = dashes ++ later := by
  obtain ⟨inner, rfl⟩ := fence.opens
  cases rest with
  | nil => exact ⟨inner, rfl⟩
  | cons pair others => exact ⟨_, List.append_assoc dashes inner _⟩

private theorem openBreak_cons {first : Char} {rest : List Char}
    (blank : first = ' ' ∨ first = '\n') :
    openBreak (first :: rest) = '\n' :: rest := by
  rcases blank with rfl | rfl
  · rfl
  · rfl

private theorem closeBreak_concat {front : List Char} {last : Char}
    (blank : last = ' ' ∨ last = '\n') : closeBreak (front ++ [last]) = front ++ ['\n'] := by
  rw [closeBreak, List.reverse_append, List.reverse_singleton, List.singleton_append,
    openBreak_cons blank, List.reverse_cons, List.reverse_reverse]

section Passes

variable {fence gap rest : List Char}

private theorem breakAfter_closed (steady : Steady fence) {front : List Char}
    (closes : fence = front ++ dashes) {first : Char} (blank : first = ' ' ∨ first = '\n') :
    breakAfterDashes (fence ++ [first]) = fence ++ ['\n'] := by
  have absent := steady.noSpaceAfter
  rcases blank with rfl | rfl
  · rw [closes] at absent ⊢
    rw [List.append_assoc, List.append_assoc]
    exact replace_last absent
  · apply replace_of_absent (by decide)
    intro present
    exact absent (infix_of_ended present (by decide) (by decide))

private theorem breakAfter_gap (fenceText : Fence fence) (between : Gap gap) :
    breakAfterDashes (fence ++ (gap ++ rest)) =
      fence ++ (openBreak gap ++ breakAfterDashes rest) := by
  obtain ⟨front, closes⟩ := fenceText.closes
  obtain ⟨first, behind, rfl, blank⟩ := between.opens
  have noDash : '-' ∉ behind := fun present => between.noDash (List.mem_cons_of_mem first present)
  have apart : Apart (dashes ++ [' ']) (fence ++ [first]) (behind ++ rest) := by
    apply Apart.of_last
    rcases blank with rfl | rfl <;> decide
  have split : fence ++ (first :: behind ++ rest) = (fence ++ [first]) ++ (behind ++ rest) := by
    rw [List.append_assoc]
    rfl
  have closed := breakAfter_closed fenceText.steady closes blank
  have skipped : breakAfterDashes (behind ++ rest) = behind ++ breakAfterDashes rest :=
    replace_foreign_start noDash
  unfold breakAfterDashes at closed skipped ⊢
  rw [split, replace_append (by decide) apart, closed, skipped, openBreak_cons blank,
    List.append_assoc]
  rfl

private theorem breakBefore_open {last : Char} (blank : last = ' ' ∨ last = '\n') :
    breakBeforeDashes (last :: (dashes ++ rest)) = '\n' :: breakBeforeDashes (dashes ++ rest) := by
  have skipped : breakBeforeDashes (dashes ++ rest) = dashes ++ breakBeforeDashes rest :=
    replace_foreign_start (by decide)
  rcases blank with rfl | rfl
  · have occurs : replace (' ' :: dashes) ('\n' :: dashes) (' ' :: dashes ++ rest) =
        '\n' :: dashes ++ breakBeforeDashes rest := replace_occurrence (by decide) rest
    rw [skipped]
    exact occurs
  · have passed : breakBeforeDashes (['\n'] ++ (dashes ++ rest)) =
        ['\n'] ++ breakBeforeDashes (dashes ++ rest) := replace_foreign_start (by decide)
    exact passed

private theorem breakBefore_gap (fenceText : Fence fence) (between : Gap gap)
    (opens : ∃ later, rest = dashes ++ later) :
    breakBeforeDashes (fence ++ (gap ++ rest)) =
      fence ++ (closeBreak gap ++ breakBeforeDashes rest) := by
  obtain ⟨later, rfl⟩ := opens
  obtain ⟨first, behind, shape, firstBlank⟩ := between.opens
  obtain ⟨front, last, rfl, lastBlank⟩ := between.closes
  have noDash : '-' ∉ front := fun present => between.noDash (List.mem_append_left [last] present)
  have notDash {char : Char} (blank : char = ' ' ∨ char = '\n') : char ∉ dashes := by
    rcases blank with rfl | rfl <;> decide
  have apart : Apart (' ' :: dashes) fence (front ++ [last] ++ (dashes ++ later)) := by
    rw [shape]
    exact Apart.of_head (notDash firstBlank)
  have inner : Apart (' ' :: dashes) front (last :: (dashes ++ later)) :=
    Apart.of_head (notDash lastBlank)
  have kept : breakBeforeDashes fence = fence :=
    replace_of_absent (by decide) fenceText.steady.noSpaceBefore
  have plain : breakBeforeDashes front = front := by
    apply replace_of_absent (by decide)
    intro present
    exact noDash (present.subset (by decide))
  have opened : breakBeforeDashes (last :: (dashes ++ later)) =
      '\n' :: breakBeforeDashes (dashes ++ later) := breakBefore_open lastBlank
  have split : front ++ [last] ++ (dashes ++ later) = front ++ last :: (dashes ++ later) :=
    List.append_assoc _ _ _
  unfold breakBeforeDashes at kept plain opened ⊢
  rw [replace_append (by decide) apart, kept, split, replace_append (by decide) inner, plain,
    opened, closeBreak_concat lastBlank, List.append_assoc]
  rfl

/-- A gap after both passes: it begins with a line break, and ends with one. -/
structure Sealed (text inside : List Char) : Prop where
  opens : text = '\n' :: inside
  closes : inside = [] ∨ ∃ front, inside = front ++ ['\n']

def sealGap (text : List Char) : List Char := closeBreak (openBreak text)

private theorem Gap.sealed (between : Gap gap) : ∃ inside, Sealed (sealGap gap) inside ∧
    '-' ∉ inside ∧ withoutWhitespace inside = withoutWhitespace gap := by
  have noDash := between.noDash
  obtain ⟨first, behind, shape, firstBlank⟩ := between.opens
  obtain ⟨front, last, rfl, lastBlank⟩ := between.closes
  have white {char : Char} (blank : char = ' ' ∨ char = '\n') :
      withoutWhitespace [char] = [] := by
    rcases blank with rfl | rfl <;> decide
  cases front with
  | nil =>
      refine ⟨[], ⟨?_, .inl rfl⟩, List.not_mem_nil, (white lastBlank).symm⟩
      rw [sealGap, List.nil_append, openBreak_cons lastBlank]
      rfl
  | cons head middle =>
      obtain ⟨rfl, _⟩ := List.cons.inj shape
      refine ⟨middle ++ ['\n'], ⟨?_, .inr ⟨middle, rfl⟩⟩, ?_, ?_⟩
      · rw [sealGap, List.cons_append, openBreak_cons firstBlank, ← List.cons_append,
          closeBreak_concat lastBlank, List.cons_append]
      · intro present
        rcases List.mem_append.mp present with inMiddle | atEnd
        · exact noDash (List.mem_append_left _ (List.mem_cons_of_mem _ inMiddle))
        · exact absurd atEnd (by decide)
      · have split : head :: middle ++ [last] = [head] ++ (middle ++ [last]) := rfl
        rw [split, withoutWhitespace_append, withoutWhitespace_append, withoutWhitespace_append,
          white firstBlank, white lastBlank, white (.inr rfl), List.nil_append]

end Passes

/-- Markers and gaps in turn. -/
structure Alternating (first : List Char) (rest : List (List Char × List Char)) : Prop where
  first : Fence first
  gaps : ∀ pair ∈ rest, Gap pair.1
  fences : ∀ pair ∈ rest, Fence pair.2

theorem Alternating.later {first : List Char} {pair : List Char × List Char}
    {rest : List (List Char × List Char)} (alternating : Alternating first (pair :: rest)) :
    Alternating pair.2 rest :=
  ⟨alternating.fences pair List.mem_cons_self,
    fun later member => alternating.gaps later (List.mem_cons_of_mem pair member),
    fun later member => alternating.fences later (List.mem_cons_of_mem pair member)⟩

def sealGaps (pairs : List (List Char × List Char)) : List (List Char × List Char) :=
  pairs.map fun pair => (sealGap pair.1, pair.2)

section Lists

variable {first : List Char} {rest : List (List Char × List Char)}

theorem Gap.opened {gap : List Char} (between : Gap gap) : Gap (openBreak gap) := by
  obtain ⟨head, behind, rfl, blank⟩ := between.opens
  obtain ⟨front, last, shape, lastBlank⟩ := between.closes
  rw [openBreak_cons blank]
  constructor
  · intro present
    rcases List.mem_cons.mp present with here | later
    · exact absurd here (by decide)
    · exact between.noDash (List.mem_cons_of_mem head later)
  · exact ⟨'\n', behind, rfl, .inr rfl⟩
  · cases front with
    | nil =>
        obtain ⟨_, rfl⟩ := List.cons.inj shape
        exact ⟨[], '\n', rfl, .inr rfl⟩
    | cons other middle =>
        obtain ⟨_, rfl⟩ := List.cons.inj shape
        exact ⟨'\n' :: middle, last, rfl, lastBlank⟩

private theorem Alternating.breakAfter (alternating : Alternating first rest) :
    breakAfterDashes (fenced first rest) =
      fenced first (rest.map fun pair => (openBreak pair.1, pair.2)) := by
  induction rest generalizing first with
  | nil => exact replace_of_absent (by decide) alternating.first.steady.noSpaceAfter
  | cons pair later ih =>
      have between := alternating.gaps pair List.mem_cons_self
      rw [fenced, breakAfter_gap alternating.first between, ih alternating.later]
      rfl

private theorem Alternating.breakBefore (alternating : Alternating first rest) :
    breakBeforeDashes (fenced first rest) =
      fenced first (rest.map fun pair => (closeBreak pair.1, pair.2)) := by
  induction rest generalizing first with
  | nil => exact replace_of_absent (by decide) alternating.first.steady.noSpaceBefore
  | cons pair later ih =>
      have between := alternating.gaps pair List.mem_cons_self
      have opens := fenced_opens alternating.later.first later
      rw [fenced, breakBefore_gap alternating.first between opens, ih alternating.later]
      rfl

private theorem Alternating.breaks (alternating : Alternating first rest) :
    breakBeforeDashes (breakAfterDashes (fenced first rest)) = fenced first (sealGaps rest) := by
  have opened : Alternating first (rest.map fun pair => (openBreak pair.1, pair.2)) := by
    refine ⟨alternating.first, ?_, ?_⟩
    · intro pair member
      obtain ⟨old, found, rfl⟩ := List.mem_map.mp member
      exact (alternating.gaps old found).opened
    · intro pair member
      obtain ⟨old, found, rfl⟩ := List.mem_map.mp member
      exact alternating.fences old found
  rw [alternating.breakAfter, opened.breakBefore, List.map_map]
  rfl

/-- The lines of a gap, behind the line break that opens it. -/
def gapLines (gap : List Char) : List (List Char) :=
  (splitInclusive '\n' (sealGap gap).tail).map trimEnd

theorem Alternating.lines (alternating : Alternating first rest) :
    (splitInclusive '\n' (fenced first (sealGaps rest))).map trimEnd =
      first :: rest.flatMap fun pair => gapLines pair.1 ++ [pair.2] := by
  have steady := alternating.first.steady
  have kept : trimEnd first = first := trimEnd_eq_self steady.ends
  induction rest generalizing first with
  | nil =>
      rw [sealGaps, List.map_nil, fenced,
        splitInclusive_unmarked steady.nonempty steady.noBreak, List.map_singleton, kept]
      rfl
  | cons pair later ih =>
      have later' := alternating.later
      have next := ih later' later'.first.steady (trimEnd_eq_self later'.first.steady.ends)
      obtain ⟨inside, closed, _, _⟩ := (alternating.gaps pair List.mem_cons_self).sealed
      have ended : trimEnd (first ++ ['\n']) = first :=
        (List.rdropWhile_concat_pos _ _ _ (by decide)).trans kept
      have parted : splitInclusive '\n' (inside ++ fenced pair.2 (sealGaps later)) =
          splitInclusive '\n' inside ++ splitInclusive '\n' (fenced pair.2 (sealGaps later)) := by
        rcases closed.closes with rfl | ⟨front, rfl⟩
        · rfl
        · exact splitInclusive_append _ _
      rw [sealGaps, List.map_cons, fenced, closed.opens, List.cons_append,
        splitInclusive_line steady.noBreak, List.map_cons, ended, ← sealGaps, parted,
        List.map_append, next, List.flatMap_cons, gapLines, closed.opens, List.tail_cons,
        List.append_assoc]
      rfl

end Lists

section GapLines

variable {gap : List Char}

private theorem withoutWhitespace_trimEnd (line : List Char) :
    withoutWhitespace (trimEnd line) = withoutWhitespace line := by
  have split : line.rdropWhile isWhitespace ++ line.rtakeWhile isWhitespace = line :=
    List.rdropWhile_append_rtakeWhile
  have white : withoutWhitespace (line.rtakeWhile isWhitespace) = [] :=
    withoutWhitespace_eq_nil.mpr fun char member => List.mem_rtakeWhile_imp member
  have parts := withoutWhitespace_append (trimEnd line) (line.rtakeWhile isWhitespace)
  rw [white, List.append_nil] at parts
  rw [← parts, trimEnd, split]

private theorem withoutWhitespace_trimmed (parts : List (List Char)) :
    withoutWhitespace (parts.map trimEnd).flatten = withoutWhitespace parts.flatten := by
  induction parts with
  | nil => rfl
  | cons part rest ih =>
      rw [List.map_cons, List.flatten_cons, List.flatten_cons, withoutWhitespace_append,
        withoutWhitespace_append, ih, withoutWhitespace_trimEnd]

private theorem Gap.lines_body (between : Gap gap) :
    withoutWhitespace (gapLines gap).flatten = withoutWhitespace gap := by
  obtain ⟨inside, closed, _, same⟩ := between.sealed
  rw [gapLines, withoutWhitespace_trimmed, splitInclusive_flatten, closed.opens, List.tail_cons,
    same]

private theorem Gap.lines_plain (between : Gap gap) :
    ∀ line ∈ gapLines gap, '\n' ∉ line ∧ '-' ∉ line := by
  obtain ⟨inside, closed, noDash, _⟩ := between.sealed
  intro line member
  obtain ⟨part, found, rfl⟩ := List.mem_map.mp member
  rw [closed.opens, List.tail_cons] at found
  have within : trimEnd part <:+: inside :=
    (List.rdropWhile_prefix _ _).isInfix.trans (infix_of_splitInclusive found)
  exact ⟨(trimmed_of_splitInclusive (by decide) found).unmarked,
    fun present => noDash (within.subset present)⟩

private theorem Gap.lines_blank (between : Gap gap) (white : withoutWhitespace gap = []) :
    ∀ line ∈ gapLines gap, line = [] := by
  have nothing := between.lines_body
  rw [white, withoutWhitespace_eq_nil] at nothing
  intro line member
  obtain ⟨part, found, rfl⟩ := List.mem_map.mp member
  have all : ∀ char ∈ trimEnd part, isWhitespace char = true := by
    intro char inside
    exact nothing char (List.mem_flatten.mpr ⟨_, member, inside⟩)
  have again := List.rdropWhile_idempotent isWhitespace part
  have empty := List.rdropWhile_eq_nil_iff.mpr all
  exact again.symm.trans empty

end GapLines

/-! ### Literal line breaks -/

def LineBreak.char : LineBreak → Char
  | .newline => '\n'
  | .space => ' '
  | .escaped => '\n'

private theorem LineBreak.char_blank (lineBreak : LineBreak) :
    lineBreak.char = ' ' ∨ lineBreak.char = '\n' := by
  cases lineBreak with
  | newline => exact .inr rfl
  | space => exact .inl rfl
  | escaped => exact .inr rfl

def breakChars (breaks : List LineBreak) : List Char := breaks.map LineBreak.char

private theorem breakChars_white (breaks : List LineBreak) :
    ∀ char ∈ breakChars breaks, isWhitespace char = true := by
  intro char member
  obtain ⟨lineBreak, _, rfl⟩ := List.mem_map.mp member
  rcases lineBreak.char_blank with same | same <;> rw [same] <;> decide

private theorem resolve_breaks (breaks : List LineBreak) (rest : List Char) :
    resolveEscapes (breakText breaks ++ rest) = breakChars breaks ++ resolveEscapes rest := by
  induction breaks with
  | nil => rfl
  | cons lineBreak later ih =>
      have here : resolveEscapes (lineBreak.text ++ (breakText later ++ rest)) =
          lineBreak.char :: resolveEscapes (breakText later ++ rest) := by
        have passed {char : Char} (foreign : '\\' ∉ [char]) (text : List Char) :
            resolveEscapes ([char] ++ text) = [char] ++ resolveEscapes text :=
          replace_foreign_start foreign
        cases lineBreak with
        | newline => exact passed (by decide) _
        | space => exact passed (by decide) _
        | escaped => exact replace_occurrence (by decide) _
      rw [breakText, List.flatMap_cons, List.append_assoc, ← breakText, here, ih]
      rfl

private theorem resolve_line {line : List Char} (steady : Steady line) {breaks : List LineBreak}
    (separated : breaks ≠ []) (rest : List Char) :
    resolveEscapes (line ++ (breakText breaks ++ rest)) =
      line ++ (breakChars breaks ++ resolveEscapes rest) := by
  have apart : Apart ['\\', 'n'] line (breakText breaks ++ rest) := by
    obtain ⟨first, others, rfl⟩ := List.exists_cons_of_ne_nil separated
    cases first with
    | newline => exact Apart.of_head (by decide)
    | space => exact Apart.of_head (by decide)
    | escaped => exact Apart.of_head (by decide)
  have kept : resolveEscapes line = line := replace_of_absent (by decide) steady.noEscape
  rw [← resolve_breaks]
  unfold resolveEscapes at kept ⊢
  rw [replace_append (by decide) apart, kept]

private theorem resolve_lastLine {line : List Char} (steady : Steady line)
    (breaks : List LineBreak) :
    resolveEscapes (line ++ breakText breaks) = line ++ breakChars breaks := by
  cases breaks with
  | nil =>
      have kept : resolveEscapes line = line := replace_of_absent (by decide) steady.noEscape
      rw [breakText, breakChars, List.flatMap_nil, List.map_nil, List.append_nil, kept]
  | cons first others =>
      have resolved := resolve_line steady (List.cons_ne_nil first others) []
      have nothing : resolveEscapes [] = [] := rfl
      rwa [List.append_nil, nothing, List.append_nil] at resolved

/-! ### Bundles as markers and gaps -/

def bodyText (body : List (BodyLine × Break)) : List Char :=
  body.flatMap fun line => line.1.chars ++ breakChars line.2.breaks

def Injected.gap (self : Injected) : List Char :=
  breakChars self.afterBegin.breaks ++ bodyText self.body

private theorem resolve_body (body : List (BodyLine × Break)) (rest : List Char) :
    resolveEscapes (body.flatMap (fun line => line.1.chars ++ breakText line.2.breaks) ++ rest) =
      bodyText body ++ resolveEscapes rest := by
  induction body with
  | nil => rfl
  | cons line later ih =>
      rw [List.flatMap_cons, List.append_assoc, List.append_assoc,
        resolve_line line.1.steady line.2.nonempty, ih, bodyText, bodyText, List.flatMap_cons,
        List.append_assoc, List.append_assoc]

private theorem breakChars_gap {breaks : List LineBreak} (nonempty : breaks ≠ []) :
    Gap (breakChars breaks) := by
  constructor
  · intro present
    exact absurd (breakChars_white breaks '-' present) (by decide)
  · obtain ⟨first, rest, rfl⟩ := List.exists_cons_of_ne_nil nonempty
    exact ⟨first.char, breakChars rest, rfl, first.char_blank⟩
  · obtain ⟨front, last, rfl⟩ := (List.eq_nil_or_concat' breaks).resolve_left nonempty
    exact ⟨breakChars front, last.char, List.map_append, last.char_blank⟩

private theorem Gap.extended {gap : List Char} (between : Gap gap) (line : BodyLine)
    (after : Break) :
    Gap (gap ++ (line.chars ++ breakChars after.breaks)) := by
  have behind := breakChars_gap after.nonempty
  constructor
  · simp only [List.mem_append]
    rintro (here | here | here)
    · exact between.noDash here
    · exact line.not_mem (by decide) here
    · exact behind.noDash here
  · obtain ⟨first, rest, rfl, blank⟩ := between.opens
    exact ⟨first, _, rfl, blank⟩
  · obtain ⟨front, last, same, blank⟩ := behind.closes
    rw [same, ← List.append_assoc, ← List.append_assoc]
    exact ⟨_, last, rfl, blank⟩

private theorem Gap.extendedBody {gap : List Char} (between : Gap gap)
    (body : List (BodyLine × Break)) : Gap (gap ++ bodyText body) := by
  induction body generalizing gap with
  | nil =>
      rw [bodyText, List.flatMap_nil, List.append_nil]
      exact between
  | cons line later ih =>
      rw [bodyText, List.flatMap_cons, ← List.append_assoc, ← bodyText]
      exact ih (between.extended line.1 line.2)

private theorem Injected.gap_gap (self : Injected) : Gap self.gap :=
  (breakChars_gap self.afterBegin.nonempty).extendedBody self.body

private theorem withoutWhitespace_gap (self : Injected) :
    withoutWhitespace self.gap = self.block.body.flatMap BodyLine.chars := by
  have white (breaks : List LineBreak) : withoutWhitespace (breakChars breaks) = [] :=
    withoutWhitespace_eq_nil.mpr (breakChars_white breaks)
  have lines (body : List (BodyLine × Break)) :
      withoutWhitespace (bodyText body) = (body.map Prod.fst).flatMap BodyLine.chars := by
    induction body with
    | nil => rfl
    | cons line later ih =>
        rw [bodyText, List.flatMap_cons, ← bodyText, withoutWhitespace_append,
          withoutWhitespace_append, withoutWhitespace_of_solid line.1.solid, white,
          List.append_nil, ih, List.map_cons, List.flatMap_cons]
  rw [Injected.gap, withoutWhitespace_append, white, List.nil_append, lines]
  rfl

def pairs : Injected → List Injected → List (List Char × List Char)
  | block, [] => [(block.gap, block.block.endMarker)]
  | block, next :: rest =>
      (block.gap, block.block.endMarker) ::
        (breakChars block.afterEnd, next.block.beginMarker) :: pairs next rest

def closing : Injected → List Injected → List LineBreak
  | block, [] => block.afterEnd
  | _block, next :: rest => closing next rest

/-- Every line but the last is followed by something that stands for its line break. -/
def Separated (blocks : List Injected) : Prop :=
  ∀ block ∈ blocks.dropLast, block.afterEnd ≠ []

section Bundles

variable {block : Injected} {rest : List Injected}

theorem Separated.cons {next : Injected} (separated : Separated (block :: next :: rest)) :
    block.afterEnd ≠ [] ∧ Separated (next :: rest) := by
  unfold Separated at separated
  rw [List.dropLast_cons_of_ne_nil (List.cons_ne_nil next rest)] at separated
  exact List.forall_mem_cons.mp separated

private theorem pairs_alternating (separated : Separated (block :: rest)) :
    Alternating block.block.beginMarker (pairs block rest) := by
  induction rest generalizing block with
  | nil =>
      refine ⟨marker_fence _ _, ?_, ?_⟩
      · intro pair member
        rw [List.mem_singleton.mp member]
        exact block.gap_gap
      · intro pair member
        rw [List.mem_singleton.mp member]
        exact marker_fence _ _
  | cons next later ih =>
      obtain ⟨broken, others⟩ := separated.cons
      have behind := ih others
      refine ⟨marker_fence _ _, ?_, ?_⟩
      · refine List.forall_mem_cons.mpr ⟨block.gap_gap, List.forall_mem_cons.mpr ⟨?_, behind.gaps⟩⟩
        exact breakChars_gap broken
      · exact List.forall_mem_cons.mpr ⟨marker_fence _ _,
          List.forall_mem_cons.mpr ⟨behind.first, behind.fences⟩⟩

private theorem resolve_bundle (separated : Separated (block :: rest)) :
    resolveEscapes ((block :: rest).flatMap Injected.text) =
      fenced block.block.beginMarker (pairs block rest) ++ breakChars (closing block rest) := by
  induction rest generalizing block with
  | nil =>
      rw [List.flatMap_singleton, Injected.text]
      simp only [List.append_assoc]
      rw [resolve_line block.block.beginMarker_steady block.afterBegin.nonempty, resolve_body,
        resolve_lastLine block.block.endMarker_steady]
      simp only [pairs, fenced, closing, Injected.gap, List.append_assoc]
  | cons next later ih =>
      obtain ⟨broken, others⟩ := separated.cons
      rw [List.flatMap_cons, Injected.text]
      simp only [List.append_assoc]
      rw [resolve_line block.block.beginMarker_steady block.afterBegin.nonempty, resolve_body,
        resolve_line block.block.endMarker_steady broken, ih others]
      simp only [pairs, fenced, closing, Injected.gap, List.append_assoc]

private theorem fenced_last {first : List Char} {pairs : List (List Char × List Char)}
    (alternating : Alternating first pairs) : ∃ front, fenced first pairs = front ++ dashes := by
  induction pairs generalizing first with
  | nil => exact alternating.first.closes
  | cons pair later ih =>
      obtain ⟨front, same⟩ := ih alternating.later
      rw [fenced, same, ← List.append_assoc, ← List.append_assoc]
      exact ⟨_, rfl⟩

private theorem trimEnd_append_white {text white : List Char}
    (ends : ∀ last, text.getLast? = some last → isWhitespace last = false)
    (blank : ∀ char ∈ white, isWhitespace char = true) : trimEnd (text ++ white) = text := by
  induction white using List.reverseRecOn with
  | nil =>
      rw [List.append_nil]
      exact trimEnd_eq_self ends
  | append_singleton front last ih =>
      have lastBlank : isWhitespace last = true :=
        blank last (List.mem_append_right front (List.mem_singleton_self last))
      rw [← List.append_assoc, trimEnd, List.rdropWhile_concat_pos _ _ _ lastBlank]
      exact ih fun char member => blank char (List.mem_append_left [last] member)

private theorem normalized_lines (separated : Separated (block :: rest)) :
    ((lines (breakBeforeDashes (breakAfterDashes (trimEnd (resolveEscapes
      ((block :: rest).flatMap Injected.text)))))).map trimEnd) =
        block.block.beginMarker ::
          (pairs block rest).flatMap fun pair => gapLines pair.1 ++ [pair.2] := by
  have alternating := pairs_alternating separated
  have trimmed : trimEnd (fenced block.block.beginMarker (pairs block rest) ++
      breakChars (closing block rest)) = fenced block.block.beginMarker (pairs block rest) := by
    apply trimEnd_append_white _ (breakChars_white _)
    obtain ⟨front, same⟩ := fenced_last alternating
    intro last ends
    rw [same, List.getLast?_append_of_ne_nil _ (by decide : dashes ≠ [])] at ends
    cases ends
    decide
  rw [resolve_bundle separated, trimmed, alternating.breaks, trimmed_lines]
  exact alternating.lines

private theorem laid_blanks {bundle : List Block} {blanks later : List (List Char)}
    (blank : ∀ line ∈ blanks, line = []) (laid : Laid bundle later) :
    Laid bundle (blanks ++ later) := by
  induction blanks with
  | nil => exact laid
  | cons line others ih =>
      obtain ⟨rfl, rest⟩ := List.forall_mem_cons.mp blank
      exact .blank (ih rest)

private theorem laid_pairs (separated : Separated (block :: rest)) :
    Laid ((block :: rest).map Injected.block)
      (block.block.beginMarker ::
        (pairs block rest).flatMap fun pair => gapLines pair.1 ++ [pair.2]) := by
  have plain := block.gap_gap.lines_plain
  have body := block.gap_gap.lines_body.trans (withoutWhitespace_gap block)
  induction rest generalizing block with
  | nil =>
      rw [pairs, List.flatMap_singleton]
      exact .block block.block plain body .none
  | cons next later ih =>
      obtain ⟨broken, others⟩ := separated.cons
      have between := breakChars_gap broken
      have white := withoutWhitespace_eq_nil.mpr (breakChars_white block.afterEnd)
      have behind := ih others next.gap_gap.lines_plain
        (next.gap_gap.lines_body.trans (withoutWhitespace_gap next))
      have blanks := laid_blanks (between.lines_blank white) behind
      have laid := Laid.block block.block plain body blanks
      rw [pairs, List.flatMap_cons, List.flatMap_cons]
      simp only [List.append_assoc, List.cons_append, List.nil_append] at laid ⊢
      exact laid

end Bundles

/-! ### Text that is a bundle already -/

section Clean

variable {lines : List (List Char)}

private theorem settled_of_steady (steady : ∀ line ∈ lines, Steady line) (nonempty : lines ≠ []) :
    Settled (['\n'].intercalate lines) := by
  have within {found : List Char} (inside : found <:+: ['\n'].intercalate lines)
      (something : found ≠ []) (unmarked : '\n' ∉ found) : ∃ line ∈ lines, found <:+: line := by
    apply infix_unlines _ something unmarked
    rw [← intercalate_concat nonempty]
    exact inside.trans (List.prefix_append _ _).isInfix
  constructor
  · intro present
    obtain ⟨line, member, inside⟩ := within present (by decide) (by decide)
    exact (steady line member).noEscape inside
  · intro present
    obtain ⟨line, member, inside⟩ := within present (by decide) (by decide)
    exact (steady line member).noSpaceAfter inside
  · intro present
    obtain ⟨line, member, inside⟩ := within present (by decide) (by decide)
    exact (steady line member).noSpaceBefore inside
  · intro last ends
    obtain ⟨front, line, rfl⟩ := (List.eq_nil_or_concat' lines).resolve_left nonempty
    have member : line ∈ front ++ [line] := List.mem_append_right front List.mem_cons_self
    rw [getLast?_intercalate List.getLast?_concat (steady line member).nonempty] at ends
    exact (steady line member).ends last ends

theorem Steady.trimmed {line : List Char} (steady : Steady line) :
    Trimmed isWhitespace '\n' line :=
  ⟨steady.noBreak, trimEnd_eq_self steady.ends⟩

theorem normalizePem_of_steady (steady : ∀ line ∈ lines, Steady line) (nonempty : lines ≠ []) :
    normalizePem (String.ofList (unlines '\n' lines)) = String.ofList (unlines '\n' lines) := by
  have settled := settled_of_steady steady nonempty
  have last : lines.getLast? ≠ some [] := by
    intro empty
    exact (steady [] (List.mem_of_getLast? empty)).nonempty rfl
  have again := trim_intercalate (by decide) (fun line member => (steady line member).trimmed) last
  have joined : trimLines (['\n'].intercalate lines) = ['\n'].intercalate lines := by
    rw [trimLines, trimmed_lines]
    exact congrArg (List.intercalate ['\n']) again
  rw [← intercalate_concat nonempty, settled.normalizePem, joined]

end Clean

private theorem Block.lines_steady (block : Block) : ∀ line ∈ block.lines, Steady line := by
  intro line member
  rcases List.mem_append.mp member with inFront | atEnd
  · rcases List.mem_cons.mp inFront with rfl | inBody
    · exact block.beginMarker_steady
    · obtain ⟨bodyLine, _, rfl⟩ := List.mem_map.mp inBody
      exact bodyLine.steady
  · rw [List.mem_singleton.mp atEnd]
    exact block.endMarker_steady

/-- Whatever stands for its line breaks, a bundle is normalised to lines of its own;
and a bundle that has a last line, with every line ended by one line feed, stays. -/
theorem normalize_pem_undoes_injection :
    (∀ blocks : List Injected, Separated blocks →
      ∃ laid, Laid (blocks.map Injected.block) laid ∧
        normalizePem (String.ofList (blocks.flatMap Injected.text)) =
          String.ofList (unlines '\n' laid)) ∧
      ∀ (bundle : List Block) (last : List Char),
        (bundle.flatMap Block.lines).getLast? = some last →
          normalizePem (String.ofList (unlines '\n' (bundle.flatMap Block.lines))) =
            String.ofList (unlines '\n' (bundle.flatMap Block.lines)) := by
  constructor
  · intro blocks separated
    cases blocks with
    | nil =>
        refine ⟨[[]], .blank .none, ?_⟩
        rw [normalizePem, String.toList_ofList]
        rfl
    | cons block rest =>
        refine ⟨_, laid_pairs separated, ?_⟩
        rw [normalizePem, String.toList_ofList, trimLines, normalized_lines separated]
        exact congrArg String.ofList (intercalate_concat (List.cons_ne_nil _ _))
  · intro bundle last found
    apply normalizePem_of_steady
    · intro line member
      obtain ⟨block, _, inBlock⟩ := List.mem_flatMap.mp member
      exact block.lines_steady line inBlock
    · intro empty
      rw [empty] at found
      cases found

namespace Sample

/-- Two blocks on one line, with a label of two words. -/
def injected : List Injected :=
  [{  label :=
        { words := [⟨['E', 'C'], by decide, solid_of_all rfl, by decide, by decide, by decide⟩,
            ⟨['K', 'E', 'Y'], by decide, solid_of_all rfl, by decide, by decide, by decide⟩]
          nonempty := by decide }
      afterBegin := ⟨[.space], by decide⟩
      body := [(⟨['A', 'b', '+'], by decide, List.all_eq_true.mp rfl⟩,
          ⟨[.space, .escaped], by decide⟩),
        (⟨['Q', '='], by decide, List.all_eq_true.mp rfl⟩, ⟨[.space, .space], by decide⟩)]
      afterEnd := [.space] },
    { label :=
        { words := [⟨['C', 'A'], by decide, solid_of_all rfl, by decide, by decide, by decide⟩]
          nonempty := by decide }
      afterBegin := ⟨[.escaped, .space], by decide⟩
      body := []
      afterEnd := [] }]

end Sample

theorem normalize_pem_undoes_injection_twoBlocks :
    (∃ laid, Laid (Sample.injected.map Injected.block) laid ∧
      normalizePem (String.ofList (Sample.injected.flatMap Injected.text)) =
        String.ofList (unlines '\n' laid)) ∧
      normalizePem (String.ofList (unlines '\n'
          ((Sample.injected.map Injected.block).flatMap Block.lines))) =
        String.ofList (unlines '\n'
          ((Sample.injected.map Injected.block).flatMap Block.lines)) := by
  have separated : Separated Sample.injected := by
    unfold Separated
    decide
  exact ⟨normalize_pem_undoes_injection.1 Sample.injected separated,
    normalize_pem_undoes_injection.2 _ _ rfl⟩

example : normalizePem "-----BEGIN A B----- AA==\\n  -----END A B-----" =
    "-----BEGIN A B-----\nAA==\n\n-----END A B-----\n" := by
  decide +kernel

end NoxIngestor
