/-
Reading JSON text one character at a time.

Texts with values the tree does not have (fractions, negative numbers, `true`,
`false` and `null`) are not read.  A text that was written is read back, whatever
the layout.
-/

import Mathlib.Data.List.Nodup
import NoxIngestor.Lib.JsonTokens

namespace NoxIngestor.Json

/-! ### The scanner -/

/-- What the characters since the last complete token are part of.  A string may
wait for the second half of a surrogate pair. -/
inductive ScanMode
  | blank
  | number (digits : List Char)
  | string (chars : List Char) (high : Option Nat)
  | escape (chars : List Char) (high : Option Nat)
  | unicode (chars : List Char) (high : Option Nat) (digits : List Char)

abbrev Scanned := List Token × ScanMode

def scanBlank (char : Char) : Option Scanned :=
  if char.isDigit then some ([], .number [char])
  else if IsBlank char then some ([], .blank)
  else if char = '{' then some ([.openBrace], .blank)
  else if char = '}' then some ([.closeBrace], .blank)
  else if char = '[' then some ([.openBracket], .blank)
  else if char = ']' then some ([.closeBracket], .blank)
  else if char = ':' then some ([.colon], .blank)
  else if char = ',' then some ([.comma], .blank)
  else if char = '"' then some ([], .string [] none)
  else none

def numberToken (digits : List Char) : Token := .number (Nat.ofDigitChars 10 digits 0)

/-- No digit follows a leading zero; any other character ends the number. -/
def scanNumber (digits : List Char) (char : Char) : Option Scanned :=
  if char.isDigit then
    if digits = ['0'] then none else some ([], .number (digits ++ [char]))
  else
    match scanBlank char with
    | some (tokens, mode) => some (numberToken digits :: tokens, mode)
    | none => none

def unescape (char : Char) : Option Char :=
  if char = '"' then some '"'
  else if char = '\\' then some '\\'
  else if char = '/' then some '/'
  else if char = 'b' then some (Char.ofNat 8)
  else if char = 't' then some (Char.ofNat 9)
  else if char = 'n' then some (Char.ofNat 10)
  else if char = 'f' then some (Char.ofNat 12)
  else if char = 'r' then some (Char.ofNat 13)
  else none

def scanString (chars : List Char) (high : Option Nat) (char : Char) : Option Scanned :=
  if char = '\\' then some ([], .escape chars high)
  else
    match high with
    | some _lead => none
    | none =>
        if char = '"' then some ([.string (String.ofList chars)], .blank)
        else if char.toNat < 32 then none
        else some ([], .string (chars ++ [char]) none)

def scanEscape (chars : List Char) (high : Option Nat) (char : Char) : Option Scanned :=
  if char = 'u' then some ([], .unicode chars high [])
  else
    match high, unescape char with
    | none, some plain => some ([], .string (chars ++ [plain]) none)
    | _, _ => none

/-- A code unit outside the surrogates is a character; a high surrogate needs a low
one next, and a low one needs a high one before. -/
def scanUnit (chars : List Char) (high : Option Nat) (unit : Nat) : Option Scanned :=
  match high with
  | none =>
      if unit < 0xd800 ∨ 0xdfff < unit then
        some ([], .string (chars ++ [Char.ofNat unit]) none)
      else if unit < 0xdc00 then some ([], .string chars (some unit))
      else none
  | some lead =>
      if 0xdc00 ≤ unit ∧ unit ≤ 0xdfff then
        some ([], .string (chars ++
          [Char.ofNat (0x10000 + 0x400 * (lead - 0xd800) + (unit - 0xdc00))]) none)
      else none

def scanUnicode (chars : List Char) (high : Option Nat) (digits : List Char)
    (char : Char) : Option Scanned :=
  if digits.length < 3 then some ([], .unicode chars high (digits ++ [char]))
  else (hexNumber 0 (digits ++ [char])).bind (scanUnit chars high)

def ScanMode.step : ScanMode → Char → Option Scanned
  | .blank => scanBlank
  | .number digits => scanNumber digits
  | .string chars high => scanString chars high
  | .escape chars high => scanEscape chars high
  | .unicode chars high digits => scanUnicode chars high digits

def ScanMode.finish : ScanMode → Option (List Token)
  | .blank => some []
  | .number digits => some [numberToken digits]
  | _ => none

def scan : ScanMode → List Char → Option (List Token)
  | mode, [] => mode.finish
  | mode, char :: rest =>
      match mode.step char with
      | some (tokens, next) => (scan next rest).map (tokens ++ ·)
      | none => none

def read (text : List Char) : Option Json :=
  (scan .blank text).bind parse

/-! ### What the scanner reads -/

private theorem scan_cons {mode next : ScanMode} {char : Char} {tokens : List Token}
    (step : mode.step char = some (tokens, next)) (rest : List Char) :
    scan mode (char :: rest) = (scan next rest).map (tokens ++ ·) := by
  rw [scan, step]

private theorem scan_silent {mode next : ScanMode} {char : Char}
    (step : mode.step char = some ([], next)) (rest : List Char) :
    scan mode (char :: rest) = scan next rest := by
  rw [scan_cons step]
  exact Option.map_id'

/-- A number before such a text ends there. -/
def Unextended (rest : List Char) : Prop :=
  ∀ char ∈ rest.head?, char.isDigit = false

/-- Whatever follows, the text is scanned to these tokens. -/
def Reads (text : List Char) (tokens : List Token) : Prop :=
  ∀ rest, Unextended rest →
    scan .blank (text ++ rest) = (scan .blank rest).map (tokens ++ ·)

private theorem unextended_cons {char : Char} (other : char.isDigit = false) (rest : List Char) :
    Unextended (char :: rest) := by
  intro first member
  rwa [← Option.mem_some_iff.mp member]

private theorem reads_nil : Reads [] [] := by
  intro rest _
  exact Option.map_id'.symm

private theorem Reads.append_cons {text later : List Char} {tokens following : List Token}
    {char : Char} (reads : Reads text tokens) (other : char.isDigit = false)
    (laterReads : Reads (char :: later) following) :
    Reads (text ++ char :: later) (tokens ++ following) := by
  intro rest unextended
  have first := reads (char :: later ++ rest) (unextended_cons other (later ++ rest))
  rw [List.append_assoc, first, laterReads rest unextended, Option.map_map]
  congr 1
  funext scanned
  exact (List.append_assoc tokens following scanned).symm

private theorem Reads.symbol {char : Char} {later : List Char} {token : Token}
    {following : List Token}
    (symbol : ScanMode.blank.step char = some ([token], .blank))
    (laterReads : Reads later following) :
    Reads (char :: later) (token :: following) := by
  intro rest unextended
  rw [List.cons_append, scan_cons symbol, laterReads rest unextended, Option.map_map]
  rfl

private theorem blank_not_digit {char : Char} (blank : IsBlank char) : char.isDigit = false := by
  rcases blank with rfl | rfl | rfl | rfl <;> rfl

private theorem scanBlank_blank {char : Char} (blank : IsBlank char) :
    scanBlank char = some ([], .blank) := by
  rw [scanBlank, blank_not_digit blank, if_neg Bool.false_ne_true, if_pos blank]

theorem Reads.blanks {gap later : List Char} {following : List Token}
    (blank : ∀ char ∈ gap, IsBlank char) (laterReads : Reads later following) :
    Reads (gap ++ later) following := by
  induction gap with
  | nil => exact laterReads
  | cons char gap ih =>
      have skipped : ScanMode.blank.step char = some ([], .blank) :=
        scanBlank_blank (blank char List.mem_cons_self)
      have inner := ih fun other member => blank other (List.mem_cons_of_mem char member)
      intro rest unextended
      rw [List.cons_append, List.cons_append, scan_silent skipped]
      exact inner rest unextended

/-! ### Numbers -/

private theorem scan_number (digits : List Char) {rest : List Char}
    (unextended : Unextended rest) :
    scan (.number digits) rest = (scan .blank rest).map (numberToken digits :: ·) := by
  cases rest with
  | nil => rfl
  | cons char rest =>
      have other : char.isDigit = false := unextended char rfl
      have step : (ScanMode.number digits).step char = match scanBlank char with
          | some (tokens, mode) => some (numberToken digits :: tokens, mode)
          | none => none := by
        simp only [ScanMode.step, scanNumber, other, Bool.false_eq_true, if_false]
      rw [scan, scan, step]
      change _ = Option.map _ (match scanBlank char with
        | some (tokens, next) => (scan next rest).map (tokens ++ ·)
        | none => none)
      cases scanBlank char with
      | none => rfl
      | some scanned =>
          change (scan scanned.2 rest).map _ = ((scan scanned.2 rest).map _).map _
          rw [Option.map_map]
          rfl

private theorem scan_digits {digits more : List Char} (started : digits ≠ [])
    (allDigits : ∀ char ∈ more, char.isDigit = true)
    (leading : digits = ['0'] → more = []) (rest : List Char) :
    scan (.number digits) (more ++ rest) = scan (.number (digits ++ more)) rest := by
  induction more generalizing digits with
  | nil => rw [List.append_nil, List.nil_append]
  | cons char more ih =>
      have isDigit := allDigits char List.mem_cons_self
      have positive : digits ≠ ['0'] := fun zero => List.cons_ne_nil char more (leading zero)
      have step : (ScanMode.number digits).step char =
          some ([], .number (digits ++ [char])) := by
        simp only [ScanMode.step, scanNumber, isDigit, if_true, if_neg positive]
      have longer : digits ++ [char] ≠ ['0'] := by
        intro same
        have lengths := congrArg List.length same
        simp only [List.length_append, List.length_cons, List.length_nil] at lengths
        exact started (List.length_eq_zero_iff.mp (by omega))
      rw [List.cons_append, scan_silent step, ih (by simp)
        (fun other member => allDigits other (List.mem_cons_of_mem char member))
        (fun zero => absurd zero longer), List.append_assoc]
      rfl

private theorem reads_number (value : Nat) : Reads (toString value).toList [.number value] := by
  intro rest unextended
  obtain ⟨first, more, shape, leading⟩ := decimal_shape value
  have allDigits := decimal_digits value
  have valueRead := decimal_value value
  rw [shape] at allDigits valueRead ⊢
  have firstDigit := allDigits first List.mem_cons_self
  have step : ScanMode.blank.step first = some ([], .number [first]) := if_pos firstDigit
  rw [List.cons_append, scan_silent step, scan_digits (List.cons_ne_nil first [])
    (fun char member => allDigits char (List.mem_cons_of_mem first member))
    (fun zero => leading (List.cons.inj zero).1), scan_number _ unextended]
  have token : numberToken ([first] ++ more) = .number value :=
    congrArg Token.number valueRead
  rw [token]
  rfl

/-! ### Strings -/

private theorem scan_short_escape {letter plain : Char} (notUnicode : letter ≠ 'u')
    (short : unescape letter = some plain) (chars rest : List Char) :
    scan (.string chars none) ('\\' :: letter :: rest) =
      scan (.string (chars ++ [plain]) none) rest := by
  have second : (ScanMode.escape chars none).step letter =
      some ([], .string (chars ++ [plain]) none) := by
    simp only [ScanMode.step, scanEscape, if_neg notUnicode, short]
  have first : (ScanMode.string chars none).step '\\' = some ([], .escape chars none) := rfl
  rw [scan_silent first, scan_silent second]

private theorem scan_code_unit {unit : Nat} (basic : unit < 0xd800) (chars rest : List Char) :
    scan (.string chars none) ('\\' :: 'u' :: (hexDigits 4 unit ++ rest)) =
      scan (.string (chars ++ [Char.ofNat unit]) none) rest := by
  have value : hexNumber 0 (hexDigits 4 unit) = some unit := by
    rw [hexNumber_hexDigits, Nat.zero_mul, Nat.zero_add, Nat.mod_eq_of_lt (by omega)]
  have first : (ScanMode.string chars none).step '\\' = some ([], .escape chars none) := rfl
  have second : (ScanMode.escape chars none).step 'u' = some ([], .unicode chars none []) := rfl
  rw [scan_silent first, scan_silent second]
  obtain ⟨a, b, c, d, digits⟩ : ∃ a b c d, hexDigits 4 unit = [a, b, c, d] :=
    ⟨_, _, _, _, rfl⟩
  rw [digits] at value ⊢
  have last : (ScanMode.unicode chars none [a, b, c]).step d =
      some ([], .string (chars ++ [Char.ofNat unit]) none) := by
    change (hexNumber 0 [a, b, c, d]).bind (scanUnit chars none) = _
    rw [value]
    exact if_pos (.inl basic)
  change scan (.unicode chars none []) (a :: b :: c :: d :: rest) = _
  have one : (ScanMode.unicode chars none []).step a = some ([], .unicode chars none [a]) := rfl
  have two : (ScanMode.unicode chars none [a]).step b =
      some ([], .unicode chars none [a, b]) := rfl
  have three : (ScanMode.unicode chars none [a, b]).step c =
      some ([], .unicode chars none [a, b, c]) := rfl
  rw [scan_silent one, scan_silent two, scan_silent three, scan_silent last]

private theorem scan_escapeChar (char : Char) (chars rest : List Char) :
    scan (.string chars none) (escapeChar char ++ rest) =
      scan (.string (chars ++ [char]) none) rest := by
  have named {code : Nat} (same : char.toNat = code) : char = Char.ofNat code := by
    rw [← same, Char.ofNat_toNat]
  unfold escapeChar
  split_ifs with quote backslash backspace tab newline formFeed carriageReturn control
  · subst quote
    exact scan_short_escape (by decide) rfl chars rest
  · subst backslash
    exact scan_short_escape (by decide) rfl chars rest
  · exact named backspace ▸ scan_short_escape (by decide) rfl chars rest
  · exact named tab ▸ scan_short_escape (by decide) rfl chars rest
  · exact named newline ▸ scan_short_escape (by decide) rfl chars rest
  · exact named formFeed ▸ scan_short_escape (by decide) rfl chars rest
  · exact named carriageReturn ▸ scan_short_escape (by decide) rfl chars rest
  · have basic : char.toNat < 0xd800 := by omega
    have read := scan_code_unit basic chars rest
    rw [Char.ofNat_toNat] at read
    exact read
  · have step : (ScanMode.string chars none).step char =
        some ([], .string (chars ++ [char]) none) := by
      simp only [ScanMode.step, scanString, if_neg quote, if_neg backslash, if_neg control]
    exact scan_silent step rest

private theorem reads_string (text : String) : Reads (renderString text) [.string text] := by
  have inner (remaining chars rest : List Char) :
      scan (.string chars none) (remaining.flatMap escapeChar ++ '"' :: rest) =
        (scan .blank rest).map
          ([Token.string (String.ofList (chars ++ remaining))] ++ ·) := by
    induction remaining generalizing chars with
    | nil =>
        rw [List.flatMap_nil, List.nil_append, List.append_nil]
        exact scan_cons rfl rest
    | cons char remaining ih =>
        rw [List.flatMap_cons, List.append_assoc, scan_escapeChar, ih, List.append_assoc]
        rfl
  intro rest _
  have opening : ScanMode.blank.step '"' = some ([], .string [] none) := rfl
  have read := inner text.toList [] rest
  rw [List.nil_append, String.ofList_toList] at read
  rw [renderString, List.cons_append, scan_silent opening, List.append_assoc]
  exact read

/-! ### Layouts -/

/-- What follows a member: blanks and a closing bracket, or a comma. -/
def Separates (text : List Char) : Prop :=
  ∃ char more, text = char :: more ∧ char.isDigit = false

theorem Reads.append {text later : List Char} {tokens following : List Token}
    (reads : Reads text tokens) (separates : Separates later)
    (laterReads : Reads later following) :
    Reads (text ++ later) (tokens ++ following) := by
  obtain ⟨char, more, rfl, other⟩ := separates
  exact reads.append_cons other laterReads

private theorem separates_closing {gap : List Char} (blank : ∀ char ∈ gap, IsBlank char)
    {closing : Char} (other : closing.isDigit = false) : Separates (gap ++ [closing]) := by
  cases gap with
  | nil => exact ⟨closing, [], rfl, other⟩
  | cons char gap =>
      exact ⟨char, gap ++ [closing], rfl, blank_not_digit (blank char List.mem_cons_self)⟩

private theorem reads_closing {gap : List Char} (blank : ∀ char ∈ gap, IsBlank char)
    {closing : Char} {token : Token}
    (symbol : ScanMode.blank.step closing = some ([token], .blank)) :
    Reads (gap ++ [closing]) [token] :=
  Reads.blanks blank (Reads.symbol symbol reads_nil)

private theorem closingGap_blank (layout : Layout) (depth : Nat) (empty : Bool) :
    ∀ char ∈ (if empty then [] else layout.gap depth), IsBlank char := by
  cases empty with
  | true => exact fun char member => absurd member List.not_mem_nil
  | false => exact layout.gap_blank depth

section Layouts

variable (layout : Layout)

mutual

theorem layout_reads (depth : Nat) :
    (json : Json) → Reads (json.layout layout depth) json.tokens
  | .number value => reads_number value
  | .string text => reads_string text
  | .array items => by
      have gapBlank := closingGap_blank layout depth items.isEmpty
      have bracket : ScanMode.blank.step ']' = some ([.closeBracket], .blank) := rfl
      have closing := reads_closing gapBlank bracket
      have inner := layoutItems_reads (depth + 1) items (separates_closing gapBlank rfl) closing
      rw [Json.layout, tokens]
      exact Reads.symbol rfl inner
  | .object fields => by
      have gapBlank := closingGap_blank layout depth fields.isEmpty
      have brace : ScanMode.blank.step '}' = some ([.closeBrace], .blank) := rfl
      have closing := reads_closing gapBlank brace
      have inner := layoutFields_reads (depth + 1) fields (separates_closing gapBlank rfl) closing
      rw [Json.layout, tokens]
      exact Reads.symbol rfl inner

theorem layoutItems_reads (depth : Nat) : (items : List Json) →
    {later : List Char} → {following : List Token} → Separates later →
    Reads later following →
    Reads (layoutItems layout depth items ++ later) (itemsTokens items ++ following)
  | [], later, following, separates, laterReads => laterReads
  | [item], later, following, separates, laterReads => by
      have only := (layout_reads depth item).append separates laterReads
      rw [layoutItems, itemsTokens, List.append_assoc]
      exact Reads.blanks (layout.gap_blank depth) only
  | item :: next :: rest, later, following, separates, laterReads => by
      have tail := layoutItems_reads depth (next :: rest) separates laterReads
      have comma : Reads (',' :: (layoutItems layout depth (next :: rest) ++ later))
          (.comma :: (itemsTokens (next :: rest) ++ following)) := Reads.symbol rfl tail
      have first := (layout_reads depth item).append_cons rfl comma
      have text : layoutItems layout depth (item :: next :: rest) ++ later =
          layout.gap depth ++ (item.layout layout depth ++
            ',' :: (layoutItems layout depth (next :: rest) ++ later)) := by
        simp only [layoutItems, List.append_assoc, List.cons_append]
      rw [text, itemsTokens, List.append_assoc, List.cons_append]
      · exact Reads.blanks (layout.gap_blank depth) first
      · exact fun absurdity => List.cons_ne_nil next rest absurdity

theorem layoutFields_reads (depth : Nat) : (fields : List (String × Json)) →
    {later : List Char} → {following : List Token} → Separates later →
    Reads later following →
    Reads (layoutFields layout depth fields ++ later) (fieldsTokens fields ++ following)
  | [], later, following, separates, laterReads => laterReads
  | [(key, value)], later, following, separates, laterReads => by
      have only := (layout_reads depth value).append separates laterReads
      have spaced := Reads.blanks layout.colonGap_blank only
      have colon : Reads (':' :: (layout.colonGap ++ (value.layout layout depth ++ later)))
          (.colon :: (value.tokens ++ following)) := Reads.symbol rfl spaced
      have named := (reads_string key).append_cons rfl colon
      have text : layoutFields layout depth [(key, value)] ++ later =
          layout.gap depth ++ (renderString key ++
            ':' :: (layout.colonGap ++ (value.layout layout depth ++ later))) := by
        simp only [layoutFields, List.append_assoc, List.cons_append]
      rw [text]
      exact Reads.blanks (layout.gap_blank depth) named
  | (key, value) :: next :: rest, later, following, separates, laterReads => by
      have tail := layoutFields_reads depth (next :: rest) separates laterReads
      have comma : Reads (',' :: (layoutFields layout depth (next :: rest) ++ later))
          (.comma :: (fieldsTokens (next :: rest) ++ following)) := Reads.symbol rfl tail
      have first := (layout_reads depth value).append_cons rfl comma
      have spaced := Reads.blanks layout.colonGap_blank first
      have colon : Reads (':' :: (layout.colonGap ++ (value.layout layout depth ++
            ',' :: (layoutFields layout depth (next :: rest) ++ later))))
          (.colon :: (value.tokens ++ .comma :: (fieldsTokens (next :: rest) ++ following))) :=
        Reads.symbol rfl spaced
      have named := (reads_string key).append_cons rfl colon
      have text : layoutFields layout depth ((key, value) :: next :: rest) ++ later =
          layout.gap depth ++ (renderString key ++
            ':' :: (layout.colonGap ++ (value.layout layout depth ++
              ',' :: (layoutFields layout depth (next :: rest) ++ later)))) := by
        simp only [layoutFields, List.append_assoc, List.cons_append]
      have shape : fieldsTokens ((key, value) :: next :: rest) ++ following =
          [.string key] ++ .colon :: (value.tokens ++
            .comma :: (fieldsTokens (next :: rest) ++ following)) := by
        simp only [fieldsTokens, List.append_assoc, List.cons_append, List.nil_append]
      rw [text, shape]
      exact Reads.blanks (layout.gap_blank depth) named

end

/-- Every layout of a tree is read as that tree. -/
theorem read_layout (depth : Nat) (json : Json) :
    read (json.layout layout depth) = some json := by
  have scanned := layout_reads layout depth json [] (fun char absent => nomatch absent)
  rw [List.append_nil] at scanned
  rw [read, scanned]
  change (some (json.tokens ++ [])).bind parse = some json
  rw [List.append_nil]
  exact parse_tokens json

end Layouts

theorem read_render (json : Json) : read json.render = some json := by
  rw [← Json.layout_compact 0]
  exact read_layout .compact 0 json

theorem fromUTF8_toByteArray (text : String) :
    String.fromUTF8? text.toByteArray = some text := by
  rw [String.fromUTF8?, dif_pos text.isValidUTF8]
  rfl

/-! ### Fields of records -/

/-- The value of a field that occurs once; a record has no field twice. -/
def uniqueField (name : String) (fields : List (String × Json)) : Option Json :=
  match fields.filter fun field => field.1 = name with
  | [(_, value)] => some value
  | _ => none

def asString : Json → Option String
  | .string text => some text
  | _ => none

/-- A natural number below the modulus of its type. -/
def asUnsigned (modulus : Nat) : Json → Option Nat
  | .number value => if value < modulus then some value else none
  | _ => none

def asArray : Json → Option (List Json)
  | .array items => some items
  | _ => none

def stringField (name : String) (fields : List (String × Json)) : Option String :=
  (uniqueField name fields).bind asString

def unsignedField (modulus : Nat) (name : String) (fields : List (String × Json)) :
    Option Nat :=
  (uniqueField name fields).bind (asUnsigned modulus)

theorem uniqueField_of_mem {name : String} {value : Json} {fields : List (String × Json)}
    (distinct : (fields.map Prod.fst).Nodup) (member : (name, value) ∈ fields) :
    uniqueField name fields = some value := by
  obtain ⟨before, after, rfl⟩ := List.append_of_mem member
  rw [List.map_append, List.map_cons, List.nodup_middle, List.nodup_cons,
    List.mem_append, not_or] at distinct
  have absent {others : List (String × Json)} (fresh : name ∉ others.map Prod.fst) :
      (others.filter fun field => field.1 = name) = [] := by
    rw [List.filter_eq_nil_iff]
    intro field present
    rw [decide_eq_true_iff]
    exact fun same => fresh (same ▸ List.mem_map_of_mem present)
  rw [uniqueField, List.filter_append, List.filter_cons, absent distinct.1.1,
    absent distinct.1.2]
  simp only [decide_true, if_true, List.nil_append]

theorem stringField_of_mem {name text : String} {fields : List (String × Json)}
    (distinct : (fields.map Prod.fst).Nodup) (member : (name, .string text) ∈ fields) :
    stringField name fields = some text := by
  rw [stringField, uniqueField_of_mem distinct member]
  rfl

theorem unsignedField_of_mem {modulus value : Nat} {name : String}
    {fields : List (String × Json)} (bound : value < modulus)
    (distinct : (fields.map Prod.fst).Nodup) (member : (name, .number value) ∈ fields) :
    unsignedField modulus name fields = some value := by
  rw [unsignedField, uniqueField_of_mem distinct member]
  exact if_pos bound

end NoxIngestor.Json
